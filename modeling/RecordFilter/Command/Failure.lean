import RecordFilter.Diagnostic.Error
import RecordFilter.Model.Error

/-!
# Failures of commands

Why a command ends without a result, and what it says of that: a message in one
line, and before it a diagnostic for each error of the query.
-/

namespace RecordFilter.Command

inductive Failure where
  | unknownFormat (word : String)
  /-- The query does not compile. -/
  | query (e : FilterError)
  /-- A check found errors. -/
  | check (errors : List FilterError)
  | model (path : String) (e : ModelError)
  | records (path : String) (e : ModelError)
  /-- The path to sort by names no property. -/
  | ordering (path : String) (e : FilterError)
  | output (path : String) (e : FileError)

/-- The diagnostics of an error, one for each single error. -/
def diagnostics (colors : Bool) (query : String) (e : FilterError) : List String :=
  e.flatten.map fun single => single.toDiagnostic.render (some query) colors

/-- Diagnostics with an empty line after each. -/
def listDiagnostics (colors : Bool) (query : String) (errors : List FilterError) : String :=
  String.join (errors.map fun e => e.toDiagnostic.render (some query) colors ++ "\n\n")

namespace Failure

def message : Failure → String
  | unknownFormat word =>
    "Unknown output format '" ++ word ++ "'. Expected json, pretty, table or text"
  | query e => toString e.flatten.length ++ " error(s) in query"
  | check errors => "Query has " ++ toString errors.length ++ " error(s)"
  | model path e => "Failed to load model: " ++ path ++ ": " ++ e.fullMessage
  | records path e => "Failed to load records: " ++ path ++ ": " ++ e.fullMessage
  | ordering path e => "Cannot order by '" ++ path ++ "': " ++ e.message
  | output path e => "Failed to create output file: " ++ path ++ ": " ++ e.message

/-- What is shown before the message. -/
def details (colors : Bool) (text : String) : Failure → String
  | query e => listDiagnostics colors text e.flatten
  | check errors =>
    listDiagnostics colors text errors ++
      Text.paint colors true .red "Check failed:" ++ " Found " ++
      Text.paint colors false .red (toString errors.length ++ " error(s)") ++ "\n"
  | _ => ""

/-- The message as it ends the output of errors. -/
def line (colors : Bool) (f : Failure) : String :=
  Text.paint colors true .red "Error:" ++ " " ++ f.message ++ "\n"

end Failure

/-- A message of success. -/
def successLine (colors : Bool) (message : String) : String :=
  Text.paint colors true .green "Success:" ++ " " ++ message ++ "\n"

end RecordFilter.Command
