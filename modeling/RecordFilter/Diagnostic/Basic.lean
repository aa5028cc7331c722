import RecordFilter.Diagnostic.Code
import RecordFilter.Json.Value
import RecordFilter.Text.Paint
import RecordFilter.Text.Span

/-!
# Diagnostics

A diagnostic is a problem made ready for a reader: a message with its code, and
as far as they are known the clause, the place in the query and some advice.
`render` shows the line of the source with carets under it; the carets start at
the column of the location and stay within the line, one of them at least.
-/

namespace RecordFilter

open Text (Location)

inductive Severity where
  | error
  | warning
deriving DecidableEq, Repr

namespace Severity

def word : Severity → String
  | error => "error"
  | warning => "warning"

/-- The name used in JSON. -/
def name : Severity → String
  | error => "Error"
  | warning => "Warning"

def ink : Severity → Text.Ink
  | error => .red
  | warning => .yellow

end Severity

structure Diagnostic where
  severity : Severity
  code : Diagnostic.Code
  message : String
  location : Option Location := none
  /-- Index of the clause, from 0. -/
  clause : Option Nat := none
  help : Option String := none
deriving DecidableEq, Repr

namespace Diagnostic

/-- An error with the advice that goes with its code. -/
def error (code : Code) (message : String) : Diagnostic :=
  { severity := .error, code, message, help := code.help? }

/-- A warning with the advice that goes with its code. -/
def warning (code : Code) (message : String) : Diagnostic :=
  { error code message with severity := .warning }

/-- The diagnostic on one line. -/
def summary (d : Diagnostic) : String :=
  d.severity.word ++ ": " ++ d.code.render ++ " - " ++ d.message ++
    (match d.clause with
      | some n => " (clause " ++ toString n ++ ")"
      | none => "") ++
    match d.location with
      | some l => " at " ++ l.render
      | none => ""

/-- Number of carets under a line for a location: its length, but no further than the line goes,
and one at least. -/
def marks (line : List Char) (l : Location) : Nat :=
  min (max l.length 1) (max (line.length - (l.column - 1)) 1)

/-- The line of the source a location is on. -/
def echoed? (source : List Char) (l : Location) : Option (List Char) :=
  (Text.lines source)[l.line - 1]?

/-- The line of a location, with carets under it. -/
def excerpt (source : List Char) (l : Location) : String :=
  match echoed? source l with
  | some line =>
    "\n   |\n   | " ++ String.ofList line ++ "\n   | " ++
      String.ofList (List.replicate (l.column - 1) ' ') ++
      String.ofList (List.replicate (marks line l) '^')
  | none => ""

/-- The diagnostic over several lines, with an excerpt where there is a source to take it from. -/
def render (d : Diagnostic) (source : Option String) (colors : Bool) : String :=
  Text.paint colors true d.severity.ink d.severity.word ++
    "[" ++ d.code.render ++ "]: " ++ d.message ++
    (match d.clause with
      | some n => "\n  --> clause " ++ toString n ++
        (match d.location with
          | some l => " at " ++ l.render
          | none => "")
      | none => "") ++
    (match source, d.location with
      | some source, some l => excerpt source.toList l
      | _, _ => "") ++
    match d.help with
      | some help => "\n   = help: " ++ help
      | none => ""

/-- The JSON form of a location. -/
def locationJson (l : Location) : Json :=
  .object [("line", .int l.line), ("column", .int l.column), ("offset", .int l.offset),
    ("length", .int l.length)]

def toJson (d : Diagnostic) : Json :=
  .object [("severity", .string d.severity.name), ("code", .int d.code.number),
    ("message", .string d.message), ("location", (d.location.map locationJson).getD .null),
    ("clause", (d.clause.map fun (n : Nat) => Json.int n).getD .null),
    ("help", Json.ofString? d.help)]

end Diagnostic

end RecordFilter
