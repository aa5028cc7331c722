import RecordFilter.Command.Arguments

/-!
# The program

What the program prints and how it ends, for given arguments and files. Results
go to the standard output or to a file, all else to the standard error.
-/

namespace RecordFilter.Command

/-- What a run of the program leaves behind, files apart. -/
structure Transcript where
  out : String := ""
  err : String := ""
  exit : Nat := 0
deriving DecidableEq, Repr

/-- Whether colours are wanted, given whether errors go to a terminal. -/
def wantsColors (color : String) (terminal : Bool) : Bool :=
  match Text.lower color with
  | "always" => true
  | "never" => false
  | _ => terminal

section

variable {m : Type → Type} [Monad m]

/-- Delivers a result: to a file, which is announced, or else to the output. -/
def deliver (disk : Disk m) (colors : Bool) (output : Option String) (content : String) :
    ExceptT Failure m Transcript := do
  match output with
  | some path =>
    save disk path content
    return { err := successLine colors ("Output written to " ++ path) }
  | none => return { out := content ++ "\n" }

/-- What a check says of its progress. -/
def checkNote (verbose : Bool) : Request → String
  | .check query _ =>
    let parsed := parseWith .analysis query
    if verbose then
      "Parsed " ++ toString parsed.descriptors.length ++ " clause(s), " ++
        toString parsed.errors.length ++ " malformed\n"
    else ""
  | _ => ""

/-- Carries out a request. -/
def perform (disk : Disk m) (i : Invocation) (colors : Bool) : ExceptT Failure m Transcript := do
  match i.request with
  | .parse query =>
    let format ← readFormat i.format .text
    let content ← parse query format
    deliver disk colors i.output content
  | .check query model =>
    let errors ← check disk query model
    if errors.isEmpty then return { out := successLine colors "Query is valid" }
    else throw (.check errors)
  | .explain query model =>
    let format ← readFormat i.format .text
    let content ← explain disk query model format
    deliver disk colors i.output content
  | .filter request =>
    let format ← readFormat i.format .pretty
    let (content, page) ← filter disk request format
    let t ← deliver disk colors i.output content
    return { t with
      err := t.err ++ toString page.items.length ++ " of " ++ toString page.total ++
        " matching record(s)\n" }

/-- Runs the program on the words of a command line. -/
def run (disk : Disk m) (terminal : Bool) (words : List String) : m Transcript := do
  match Invocation.ofWords words with
  | .error e => return { err := "error: " ++ e.message ++ "\n", exit := 2 }
  | .ok i =>
    let colors := wantsColors i.color terminal
    let note := checkNote i.verbose i.request
    match ← (perform disk i colors).run with
    | .ok t => return { t with err := note ++ t.err }
    | .error f =>
      return { err := note ++ f.details colors i.request.query ++ f.line colors, exit := 1 }

end

end RecordFilter.Command
