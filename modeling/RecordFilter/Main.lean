import RecordFilter.Command.Program

/-!
# Running the program

Ties the program to the arguments, files and streams of the process.
-/

namespace RecordFilter.Command

/-- Why reading or writing failed. -/
def fileError : IO.Error → FileError
  | .noFileOrDirectory .. => .notFound
  | .inappropriateType _ 21 _ => .isDirectory
  | .inappropriateType _ 20 _ => .notDirectory
  | e => .other (toString e)

/-- The disk of the computer. -/
def realDisk : Disk IO where
  read path := do
    match ← (IO.FS.readFile path).toBaseIO with
    | .ok text => return .ok text
    | .error e => return .error (fileError e)
  write path content := do
    match ← (IO.FS.writeFile path content).toBaseIO with
    | .ok () => return .ok ()
    | .error e => return .error (fileError e)

end RecordFilter.Command

/-- Runs the program and ends with its exit code. -/
def main (words : List String) : IO UInt32 := do
  let stderr ← IO.getStderr
  let stdout ← IO.getStdout
  let t ← RecordFilter.Command.run RecordFilter.Command.realDisk (← stderr.isTty) words
  stdout.putStr t.out
  stderr.putStr t.err
  return UInt32.ofNat t.exit
