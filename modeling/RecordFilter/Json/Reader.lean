import RecordFilter.Json.Fault
import RecordFilter.Text.Blank

/-!
# Readers of JSON texts

A reader takes a value off the front of a text or stops at the first fault. Here
are the ways to fail and the smallest steps: a character with or without the
blanks before it, words and strings.

Where a loop needs a bound, it is given the text itself: each round takes a
character at least, so the bound does not run out before the text does.
-/

namespace RecordFilter.Json

/-- A reader of values: what is left of a text, and the fault that stops it. -/
abbrev Reader := StateT (List Char) (Except Fault)

namespace Reader

/-! ## Failing -/

/-- Fails at the place that has been reached. -/
def failHere {α : Type} (cause : Cause) : Reader α := fun s => .error ⟨cause, s, 0⟩

/-- Fails at the next character. -/
def failNext {α : Type} (cause : Cause) : Reader α := fun s => .error ⟨cause, s, 1⟩

/-- Fails at the character that has just been taken. -/
def failAt {α : Type} (c : Char) (cause : Cause) : Reader α := fun s => .error ⟨cause, c :: s, 1⟩

/-! ## Characters -/

/-- Takes the next character. -/
def take? : Reader (Option Char)
  | [] => .ok (none, [])
  | c :: s => .ok (some c, s)

/-- Leaves out the next character. -/
def advance : Reader Unit := fun s => .ok ((), s.tail)

/-- Skips blanks and looks at the next character. -/
def peek : Reader (Option Char) := fun s =>
  let s := Text.skipLayout s
  .ok (s.head?, s)

/-- Reads the colon behind a key. -/
def colon : Reader Unit := do
  match ← peek with
  | some ':' => advance
  | some _ => failNext .expectedColon
  | none => failNext .endInObject

/-! ## Words -/

/-- Reads the rest of a word. -/
def wordRest : List Char → Reader Unit
  | [] => pure ()
  | w :: word => do
    match ← take? with
    | some c => if c = w then wordRest word else failAt c .expectedIdent
    | none => failHere .endInValue

/-! ## Strings -/

def hexValue? (c : Char) : Option Nat :=
  if c.isDigit then some (c.toNat - '0'.toNat)
  else if 'a' ≤ c ∧ c ≤ 'f' then some (c.toNat - 'a'.toNat + 10)
  else if 'A' ≤ c ∧ c ≤ 'F' then some (c.toNat - 'A'.toNat + 10)
  else none

/-- Reads four hexadecimal digits. -/
def hexNumber : Reader Nat := fun s =>
  if Text.byteLength (s.take 4) < 4 then .error ⟨.endInString, [], 0⟩
  else
    match (s.take 4).mapM hexValue? with
    | some ds => .ok (ds.foldl (fun n d => 16 * n + d) 0, s.drop 4)
    | none => .error ⟨.invalidEscape, s, 4⟩

/-- The character of a plain escape. -/
def plainEscape? : Char → Option Char
  | '"' => some '"'
  | '\\' => some '\\'
  | '/' => some '/'
  | 'b' => some '\x08'
  | 'f' => some '\x0c'
  | 'n' => some '\n'
  | 'r' => some '\r'
  | 't' => some '\t'
  | _ => none

def isLeadSurrogate (n : Nat) : Bool := 0xD800 ≤ n && n ≤ 0xDBFF

def isTrailSurrogate (n : Nat) : Bool := 0xDC00 ≤ n && n ≤ 0xDFFF

/-- Reads a character that has to stand in the escape of the second half of a pair. -/
def pairMark (mark : Char) : Reader Unit := do
  match ← take? with
  | some c => if c = mark then pure () else failAt c .unexpectedEndOfEscape
  | none => failHere .endInString

/-- Reads the digits of a hexadecimal escape; two escapes for a pair of surrogates are one
character. -/
def hexEscape : Reader Char := do
  let n ← hexNumber
  if isTrailSurrogate n then failHere .loneSurrogate
  else if isLeadSurrogate n then
    pairMark '\\'
    pairMark 'u'
    let m ← hexNumber
    if isTrailSurrogate m then
      return Char.ofNat ((n - 0xD800) * 0x400 + (m - 0xDC00) + 0x10000)
    else failHere .loneSurrogate
  else return Char.ofNat n

/-- Reads an escape behind its backslash. -/
def escape : Reader Char := do
  match ← take? with
  | some 'u' => hexEscape
  | some c =>
    match plainEscape? c with
    | some d => return d
    | none => failAt c .invalidEscape
  | none => failHere .endInString

/-- Reads on in a string, of which some characters have been read, the last one first. -/
def stringFrom : List Char → List Char → Reader String
  | [], _ => failHere .endInString
  | _ :: bound, found => do
    match ← take? with
    | some '"' => return String.ofList found.reverse
    | some '\\' => stringFrom bound ((← escape) :: found)
    | some c =>
      if c.toNat < 0x20 then failHere .controlCharacter else stringFrom bound (c :: found)
    | none => failHere .endInString

/-- Reads a string behind its opening quote. -/
def string : Reader String := fun s => stringFrom s [] s

end Reader

end RecordFilter.Json
