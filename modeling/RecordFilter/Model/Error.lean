import RecordFilter.Json.Fault
import RecordFilter.Query.Path

/-!
# Errors of models and files

What can go wrong on the way from a file to a schema or to records. Some errors
have a cause of their own; the full message ends with it.
-/

namespace RecordFilter

/-- Why a file cannot be read or written. -/
inductive FileError where
  | notFound
  | notDirectory
  | isDirectory
  /-- Any other reason, in words. -/
  | other (message : String)
deriving DecidableEq, Repr

namespace FileError

def message : FileError → String
  | notFound => "No such file or directory (os error 2)"
  | notDirectory => "Not a directory (os error 20)"
  | isDirectory => "Is a directory (os error 21)"
  | other message => message

end FileError

inductive ModelError where
  | json (e : Json.ReadError)
  | file (e : FileError)
  | unknownType (property typeName : String)
  | invalidPath (path : String) (e : PathError)
  /-- A model file has some other extension, or none. -/
  | modelFormat (extension : Option String)
  /-- A file of records has some other extension, or none. -/
  | dataFormat (extension : Option String)
  /-- A line, counted from 1, is no JSON. -/
  | invalidRecord (line : Nat) (e : Json.ReadError)
deriving DecidableEq, Repr

namespace ModelError

def message : ModelError → String
  | json e => "JSON error: " ++ e.message
  | file e => "IO error: " ++ e.message
  | unknownType property typeName =>
    "Unknown type '" ++ typeName ++ "' for property '" ++ property ++ "'"
  | invalidPath path e => "Invalid property path '" ++ path ++ "': " ++ e.toError.message
  | modelFormat (some extension) =>
    "Unsupported file extension: ." ++ extension ++ ". Expected .json"
  | modelFormat none => "No file extension found. Expected .json"
  | dataFormat extension =>
    "Unsupported data file extension: " ++ ((extension.map ("." ++ ·)).getD "none") ++
      ". Expected .json, .ndjson or .jsonl"
  | invalidRecord line e => "Invalid record on line " ++ toString line ++ ": " ++ e.message

/-- The message of the cause, if there is one. -/
def cause? : ModelError → Option String
  | json e | invalidRecord _ e => some e.message
  | file e => some e.message
  | _ => none

/-- The message, and again that of the cause. -/
def fullMessage (e : ModelError) : String := ": ".intercalate (e.message :: e.cause?.toList)

end ModelError

end RecordFilter
