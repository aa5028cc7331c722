import RecordFilter.Command.Basic

/-!
# Arguments

The words of a command line: a command, its query, and options before or after
the command. An option is written long or short, with its value in the same word
or in the next one; short flags may share a word.
-/

namespace RecordFilter.Command

inductive Verb where
  | parse
  | check
  | explain
  | filter
deriving DecidableEq, Repr

def Verb.ofWord? : String → Option Verb
  | "parse" => some .parse
  | "check" => some .check
  | "explain" => some .explain
  | "filter" => some .filter
  | _ => none

/-- An option by its long name, its letter, and whether it takes a value. -/
structure OptionForm where
  name : String
  letter : Option Char := none
  takesValue : Bool := true
deriving DecidableEq, Repr

namespace OptionForm

/-- The options of all commands. -/
def everywhere : List OptionForm :=
  [⟨"verbose", some 'v', false⟩, ⟨"format", some 'f', true⟩, ⟨"output", some 'o', true⟩,
    ⟨"color", none, true⟩]

/-- The options of one command. -/
def ofVerb : Verb → List OptionForm
  | .parse => []
  | .check | .explain => [⟨"model", some 'm', true⟩]
  | .filter =>
    [⟨"model", some 'm', true⟩, ⟨"data", some 'd', true⟩, ⟨"order-by", none, true⟩,
      ⟨"descending", none, false⟩, ⟨"skip", none, true⟩, ⟨"take", none, true⟩]

end OptionForm

/-- What is wrong with a command line. -/
inductive UsageError where
  | noCommand
  | unknownCommand (word : String)
  | unexpected (word : String)
  | repeated (name : String)
  | missingValue (name : String)
  | missing (what : String)
  | invalidNumber (name word : String)
deriving DecidableEq, Repr

namespace UsageError

def message : UsageError → String
  | noCommand => "a command is required: parse, check, explain or filter"
  | unknownCommand word => "unrecognized command '" ++ word ++ "'"
  | unexpected word => "unexpected argument '" ++ word ++ "'"
  | repeated name => "the option '--" ++ name ++ "' cannot be used multiple times"
  | missingValue name => "a value is required for '--" ++ name ++ "'"
  | missing what => "a required argument is missing: " ++ what
  | invalidNumber name word => "invalid value '" ++ word ++ "' for '--" ++ name ++ "'"

end UsageError

/-- What the words read so far amount to. -/
structure Reading where
  verb : Option Verb := none
  /-- The options before the command. -/
  outer : List (String × String) := []
  options : List (String × String) := []
  query : Option String := none
  /-- The option whose value comes next. -/
  pending : Option String := none
  /-- Whether no more options come. -/
  literal : Bool := false

namespace Reading

/-- The options that may come now. -/
def forms (r : Reading) : List OptionForm :=
  OptionForm.everywhere ++
    match r.verb with
    | some verb => OptionForm.ofVerb verb
    | none => []

/-- Sets an option, which may be set only once on either side of the command. -/
def setOption (r : Reading) (name value : String) : Except UsageError Reading :=
  if (r.options.lookup name).isSome then .error (.repeated name)
  else .ok { r with options := (name, value) :: r.options }

/-- Reads a command or a query. -/
def positional (r : Reading) (word : String) : Except UsageError Reading :=
  match r.verb, r.query with
  | none, _ =>
    match Verb.ofWord? word with
    | some verb => .ok { r with verb := some verb, outer := r.options, options := [] }
    | none => .error (.unknownCommand word)
  | some _, none => .ok { r with query := some word }
  | some _, some _ => .error (.unexpected word)

/-- Reads a long option, without its dashes. -/
def long (r : Reading) (word : String) : Except UsageError Reading :=
  let name := String.ofList (word.toList.takeWhile (· != '='))
  let value := word.toList.dropWhile (· != '=')
  match r.forms.find? (·.name == name), value with
  | none, _ => .error (.unexpected ("--" ++ word))
  | some form, [] =>
    if form.takesValue then .ok { r with pending := some name } else r.setOption name ""
  | some form, _ :: value =>
    if form.takesValue then r.setOption name (String.ofList value)
    else .error (.unexpected ("--" ++ word))

/-- Reads a word of short options, without its dash. -/
def short (r : Reading) : List Char → Except UsageError Reading
  | [] => .ok r
  | c :: rest =>
    match r.forms.find? (·.letter == some c) with
    | none => .error (.unexpected ("-" ++ String.singleton c))
    | some form =>
      if form.takesValue then
        match rest with
        | [] => .ok { r with pending := some form.name }
        | '=' :: value => r.setOption form.name (String.ofList value)
        | value => r.setOption form.name (String.ofList value)
      else do
        let r ← r.setOption form.name ""
        short r rest

/-- Reads one word. -/
def step (r : Reading) (word : String) : Except UsageError Reading :=
  match r.pending with
  | some name =>
    if word.startsWith "-" && word != "-" then .error (.missingValue name)
    else { r with pending := none }.setOption name word
  | none =>
    if r.literal then r.positional word
    else match word.toList with
      | ['-', '-'] => .ok { r with literal := true }
      | '-' :: '-' :: name => r.long (String.ofList name)
      | '-' :: c :: rest => r.short (c :: rest)
      | _ => r.positional word

/-- The value of an option, which counts most after the command. -/
def option? (r : Reading) (name : String) : Option String :=
  (r.options.lookup name).or (r.outer.lookup name)

def hasOption (r : Reading) (name : String) : Bool := (r.option? name).isSome

/-- The value of an option that has to be there. -/
def required (r : Reading) (name : String) : Except UsageError String :=
  match r.option? name with
  | some value => .ok value
  | none => .error (.missing ("--" ++ name))

/-- The number that an option gives, of 64 bits at most. -/
def number? (r : Reading) (name : String) : Except UsageError (Option Nat) :=
  match r.option? name with
  | none => .ok none
  | some word =>
    match Number.readNat? word.toList with
    | some n => if n < UInt64.size then .ok (some n) else .error (.invalidNumber name word)
    | none => .error (.invalidNumber name word)

end Reading

/-- A command with what it works on. -/
inductive Request where
  | parse (query : String)
  | check (query : String) (model : Option String)
  | explain (query model : String)
  | filter (request : FilterRequest)
deriving Repr

/-- The query of a request. -/
def Request.query : Request → String
  | parse query | check query _ | explain query _ => query
  | filter request => request.query

/-- A whole command line. -/
structure Invocation where
  request : Request
  verbose : Bool
  format : Option String
  output : Option String
  color : String
deriving Repr

namespace Invocation

/-- The request of the words that were read. -/
def request? (r : Reading) (verb : Verb) (query : String) : Except UsageError Request := do
  match verb with
  | .parse => return .parse query
  | .check => return .check query (r.option? "model")
  | .explain => return .explain query (← r.required "model")
  | .filter =>
    let model ← r.required "model"
    let data ← r.required "data"
    let orderBy := r.option? "order-by"
    if r.hasOption "descending" && orderBy.isNone then throw (.missing "--order-by")
    return .filter
      { query, model, data, orderBy, descending := r.hasOption "descending",
        skip := ← r.number? "skip", take := ← r.number? "take" }

/-- The command line that some words are. -/
def ofWords (words : List String) : Except UsageError Invocation := do
  let r ← words.foldlM Reading.step {}
  match r.pending, r.verb, r.query with
  | some name, _, _ => throw (.missingValue name)
  | none, none, _ => throw .noCommand
  | none, some _, none => throw (.missing "the query")
  | none, some verb, some query =>
    return { request := ← request? r verb query, verbose := r.hasOption "verbose",
             format := r.option? "format", output := r.option? "output",
             color := (r.option? "color").getD "auto" }

end Invocation

end RecordFilter.Command
