import RecordFilter.Model.Error
import RecordFilter.Table
import RecordFilter.Text.Pieces

/-!
# Files

Commands reach files through a `Disk`. It may be the disk of a computer; here is
one that is a table of files, whose directories are those that hold a file.
-/

namespace RecordFilter.Command

structure Disk (m : Type → Type) where
  /-- The content of the file at a path. -/
  read : String → m (Except FileError String)
  /-- Puts a content into the file at a path. -/
  write : String → String → m (Except FileError Unit)

/-- The parts of a path that name something. -/
def pathParts (path : String) : List String :=
  ((Text.pieces '/' path.toList).map String.ofList).filter fun part => part != "" && part != "."

/-- The extension of the file that a path names: what follows the last point of the name, unless the
name begins with that point. -/
def extension? (path : String) : Option String :=
  match (pathParts path).getLast? with
  | some name =>
    if name = ".." then none
    else match (Text.pieces '.' name.toList).reverse with
      | last :: before :: more =>
        if more.isEmpty && before.isEmpty then none else some (String.ofList last)
      | _ => none
  | none => none

/-- Contents of files by path. -/
abbrev Files := Table String

namespace Files

/-- The contents of the files by the parts of their paths. -/
def byParts (files : Files) : List (List String × String) :=
  files.entries.map fun (path, content) => (pathParts path, content)

/-- Whether a path names a file. -/
def isFile (files : Files) (parts : List String) : Bool := (files.byParts.lookup parts).isSome

/-- Whether a path names a directory. -/
def isDirectory (files : Files) (parts : List String) : Bool :=
  parts.isEmpty ||
    files.byParts.any fun (other, _) => parts.isPrefixOf other && parts.length < other.length

/-- Why nothing is found at a path. -/
def absence (files : Files) (parts : List String) : FileError :=
  if (List.range parts.length).any fun n => files.isFile (parts.take n) then .notDirectory
  else .notFound

def endsWithSlash (path : String) : Bool := path.toList.getLast? == some '/'

def read (files : Files) (path : String) : Except FileError String :=
  let parts := pathParts path
  if path = "" then .error .notFound
  else if files.isDirectory parts then .error .isDirectory
  else match files.byParts.lookup parts with
    | some content => if endsWithSlash path then .error .notDirectory else .ok content
    | none => .error (files.absence parts)

def write (files : Files) (path content : String) : Except FileError Files :=
  let parts := pathParts path
  if path = "" then .error .notFound
  else if files.isDirectory parts || endsWithSlash path then .error .isDirectory
  else if files.isDirectory parts.dropLast then
    .ok (files.put (String.intercalate "/" parts) content)
  else .error (files.absence parts)

/-- The disk that is a table of files. -/
def disk : Disk (StateM Files) where
  read path := do return (← get).read path
  write path content := do
    match (← get).write path content with
    | .ok files =>
      set files
      return .ok ()
    | .error e => return .error e

end Files

end RecordFilter.Command
