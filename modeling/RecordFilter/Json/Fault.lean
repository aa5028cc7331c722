import RecordFilter.Text.Span

/-!
# Faults of JSON texts

A fault has a cause and a place. While a text is being read, the place is known
by the text that is left; a `ReadError` has it as line and column.
-/

namespace RecordFilter.Json

/-- What is wrong with a text. -/
inductive Cause where
  | endInValue
  | endInList
  | endInObject
  | endInString
  | expectedColon
  | expectedListEnd
  | expectedObjectEnd
  | expectedIdent
  | expectedValue
  | invalidEscape
  | invalidNumber
  | numberOutOfRange
  | controlCharacter
  | keyMustBeString
  | loneSurrogate
  | trailingComma
  | trailingCharacters
  | unexpectedEndOfEscape
  | recursionLimit
  /-- A value that does not fit what it is read into. -/
  | mismatch (message : String)
deriving DecidableEq, Repr

/-- The three ways in which reading fails. -/
inductive Category where
  | malformed
  | mismatch
  | truncated
deriving DecidableEq, Repr

namespace Cause

def category : Cause → Category
  | endInValue | endInList | endInObject | endInString => .truncated
  | mismatch _ => .mismatch
  | _ => .malformed

def message : Cause → String
  | endInValue => "EOF while parsing a value"
  | endInList => "EOF while parsing a list"
  | endInObject => "EOF while parsing an object"
  | endInString => "EOF while parsing a string"
  | expectedColon => "expected `:`"
  | expectedListEnd => "expected `,` or `]`"
  | expectedObjectEnd => "expected `,` or `\x7d`"
  | expectedIdent => "expected ident"
  | expectedValue => "expected value"
  | invalidEscape => "invalid escape"
  | invalidNumber => "invalid number"
  | numberOutOfRange => "number out of range"
  | controlCharacter => "control character (\\u0000-\\u001F) found while parsing a string"
  | keyMustBeString => "key must be a string"
  | loneSurrogate => "lone leading surrogate in hex escape"
  | trailingComma => "trailing comma"
  | trailingCharacters => "trailing characters"
  | unexpectedEndOfEscape => "unexpected end of hex escape"
  | recursionLimit => "recursion limit exceeded"
  | mismatch message => message

end Cause

/-- A cause, and its place: so many bytes into the text that was left. -/
structure Fault where
  cause : Cause
  rest : List Char
  ahead : Nat
deriving DecidableEq, Repr

/-- A fault placed by line and column, the column in bytes. -/
structure ReadError where
  cause : Cause
  line : Nat
  column : Nat
deriving DecidableEq, Repr

namespace ReadError

/-- Finds the place of a fault in the whole text. -/
def ofFault (text : List Char) (f : Fault) : ReadError :=
  let total := Text.byteLength text
  let index := min total (total - Text.byteLength f.rest + f.ahead)
  let before := Text.startingBefore index text
  let lastLine := (before.reverse.takeWhile (· != '\n')).reverse
  ⟨f.cause, before.count '\n' + 1,
    index - (Text.byteLength before - Text.byteLength lastLine)⟩

def category (e : ReadError) : Category := e.cause.category

def message (e : ReadError) : String :=
  e.cause.message ++ " at line " ++ toString e.line ++ " column " ++ toString e.column

end ReadError

end RecordFilter.Json
