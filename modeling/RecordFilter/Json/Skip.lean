import RecordFilter.Json.Number

/-!
# Passing over values

What nobody asks for is passed over. Only its form is checked: neither the depth
of nesting, nor the range of a number, nor whether the halves of a pair of
surrogates belong together.
-/

namespace RecordFilter.Json

/-- What can be open around a value. -/
inductive Bracket where
  | list
  | object
deriving DecidableEq, Repr

namespace Bracket

def closing : Bracket → Char
  | list => ']'
  | object => '\x7d'

/-- The fault of a text that ends inside. -/
def ending : Bracket → Cause
  | list => .endInList
  | object => .endInObject

/-- The fault of anything but a comma or the closing bracket behind a value. -/
def unclosed : Bracket → Cause
  | list => .expectedListEnd
  | object => .expectedObjectEnd

end Bracket

namespace Reader

/-- Passes over an escape behind its backslash. -/
def skipEscape : Reader Unit := do
  match ← take? with
  | some 'u' => discard hexNumber
  | some c => if (plainEscape? c).isSome then pure () else failAt c .invalidEscape
  | none => failHere .endInString

/-- Passes over the rest of a string. -/
def skipStringFrom : List Char → Reader Unit
  | [] => failHere .endInString
  | _ :: bound => do
    match ← take? with
    | some '"' => pure ()
    | some '\\' =>
      skipEscape
      skipStringFrom bound
    | some c =>
      if c.toNat < 0x20 then fun s => .error ⟨.controlCharacter, c :: s, 0⟩
      else skipStringFrom bound
    | none => failHere .endInString

/-- Passes over a string behind its opening quote. -/
def skipString : Reader Unit := fun s => skipStringFrom s s

/-- Passes over a key and its colon. -/
def skipKey : Reader Unit := do
  match ← peek with
  | some '"' =>
    advance
    skipString
    colon
  | some _ => failNext .keyMustBeString
  | none => failNext .endInObject

/-- Goes to the value that comes next inside a bracket. -/
def enter (b : Bracket) : Reader Unit :=
  match b with
  | .list => pure ()
  | .object => skipKey

/-- Goes to the value behind the one that has been passed over, past all brackets that close here.
Gives the brackets that are open around it, or none at the end of the outermost value. -/
def leave : List Bracket → Reader (List Bracket)
  | [] => return []
  | b :: outer => do
    match ← peek with
    | some ',' =>
      advance
      enter b
      return b :: outer
    | some c =>
      if c = b.closing then
        advance
        leave outer
      else failNext b.unclosed
    | none => failNext b.ending

/-- Goes behind an opening bracket to the first value inside, or behind an empty list or object. -/
def pastOpening (b : Bracket) (outer : List Bracket) : Reader (List Bracket) := do
  advance
  match ← peek with
  | some c =>
    if c = b.closing then
      advance
      leave outer
    else
      enter b
      return b :: outer
  | none => failNext b.ending

/-- Goes from the start of a value to the start of the next one. -/
def skipStart (outer : List Bracket) : Reader (List Bracket) := do
  match ← peek with
  | some '[' => pastOpening .list outer
  | some '\x7b' => pastOpening .object outer
  | some '"' =>
    advance
    skipString
    leave outer
  | some 'n' =>
    advance
    wordRest "ull".toList
    leave outer
  | some 't' =>
    advance
    wordRest "rue".toList
    leave outer
  | some 'f' =>
    advance
    wordRest "alse".toList
    leave outer
  | some '-' =>
    advance
    discard (numberText true .invalidNumber)
    leave outer
  | some c =>
    if c.isDigit then
      discard (numberText false .invalidNumber)
      leave outer
    else failNext .expectedValue
  | none => failNext .endInValue

/-- Passes over values until no bracket is open. -/
def skipFrom : List Char → List Bracket → Reader Unit
  | [], _ => failNext .endInValue
  | _ :: bound, outer => do
    match ← skipStart outer with
    | [] => pure ()
    | inner => skipFrom bound inner

/-- Passes over a value. -/
def skip : Reader Unit := fun s => skipFrom s [] s

end Reader

end RecordFilter.Json
