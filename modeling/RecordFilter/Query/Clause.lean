import RecordFilter.Query.Descriptor
import RecordFilter.Query.Literal
import RecordFilter.Text.Letter

/-!
# Clauses

A clause is `path:operator:value`, with a connective in front of it if it has
one. A first field that reads `And` or `Or` is a connective only if an operator
follows the second field; else it is a path like any other. Layout may stand
around every token.

The reader works on suffixes of the clause. A fault is a pair of suffixes, from
which its span is computed at the end.
-/

namespace RecordFilter.Clause

open Diagnostic (Code)
open Text (Span byteLength skipLayout)

/-- Why a text is no clause. -/
inductive Cause where
  | missingPath
  | missingOperator
  | missingSeparator (after : String)
  | unknownConnective (word : String)
  | unknownOperator (word : String)
  | invalidPath (text : String)
  | segmentStart (segment : String)
  | missingValue
  | unterminatedText
  | unclosedList
  | nestedList
  | emptyElement
  | strayInList (c : Char)
  | trailingInput
deriving DecidableEq, Repr

namespace Cause

def code : Cause → Code
  | missingSeparator _ | unknownConnective _ => .malformedClause
  | missingOperator | unknownOperator _ => .unknownOperator
  | missingPath | invalidPath _ | segmentStart _ => .invalidPath
  | missingValue | nestedList | emptyElement | strayInList _ => .invalidLiteral
  | unterminatedText => .unterminatedText
  | unclosedList => .missingBracket
  | trailingInput => .trailingInput

def message : Cause → String
  | missingPath => "expected a property path"
  | missingOperator => "expected an operator"
  | missingSeparator after => "expected ':' after '" ++ after ++ "'"
  | unknownConnective word => "unknown aggregate mode '" ++ word ++ "'"
  | unknownOperator word => "unknown operator '" ++ word ++ "'"
  | invalidPath text => "'" ++ text ++ "' is not a valid property path"
  | segmentStart segment => "path segment '" ++ segment ++ "' must start with a letter or '_'"
  | missingValue => "missing value"
  | unterminatedText => "unterminated string literal"
  | unclosedList => "missing closing ']'"
  | nestedList => "nested lists are not supported"
  | emptyElement => "empty list element"
  | strayInList c => "expected ',' or ']' in list, found '" ++ String.singleton c ++ "'"
  | trailingInput => "unexpected input after value"

end Cause

/-- A fault lies between two suffixes of the clause. -/
structure Fault where
  cause : Cause
  start : List Char
  stop : List Char
deriving DecidableEq, Repr

namespace Fault

/-- The span of a fault, relative to the clause. -/
def span (f : Fault) (clause : List Char) : Span :=
  ⟨byteLength clause - byteLength f.start, byteLength clause - byteLength f.stop⟩

/-- A fault from a suffix to the end of the clause. -/
def toEnd (cause : Cause) (start : List Char) : Fault := ⟨cause, start, []⟩

/-- A fault at the start of a suffix. -/
def point (cause : Cause) (start : List Char) : Fault := ⟨cause, start, start⟩

end Fault

/-! ## Fields -/

/-- The characters of paths and keywords. -/
def isFieldChar (c : Char) : Bool := Text.isAlphanumeric c || c == '_' || c == '.'

/-- A run of field characters: the suffix it starts and the one behind it. -/
structure Field where
  word : List Char
  start : List Char
  rest : List Char
deriving DecidableEq, Repr

namespace Field

def text (f : Field) : String := String.ofList f.word

def fault (cause : Cause) (f : Field) : Fault := ⟨cause, f.start, f.rest⟩

end Field

/-- Takes a field off the front, after layout. -/
def takeField? (s : List Char) : Option Field :=
  let start := skipLayout s
  let word := start.takeWhile isFieldChar
  if word.isEmpty then none else some ⟨word, start, start.dropWhile isFieldChar⟩

/-- Takes a colon off the front, after layout. -/
def takeColon? (s : List Char) : Option (List Char) :=
  match skipLayout s with
  | ':' :: rest => some rest
  | _ => none

/-- Reads a field and the colon behind it. -/
def readField (missing : Cause) (s : List Char) : Except Fault (Field × List Char) :=
  match takeField? s with
  | none => .error (.toEnd missing (skipLayout s))
  | some f =>
    match takeColon? f.rest with
    | none => .error (.toEnd (.missingSeparator f.text) f.rest)
    | some rest => .ok (f, rest)

/-- Reads an operator and the colon behind it, if that is what comes next. -/
def takeOperator? (s : List Char) : Option (Operator × List Char) := do
  let f ← takeField? s
  let operator ← Operator.ofKeyword? f.text
  let rest ← takeColon? f.rest
  return (operator, rest)

/-- Whether a path segment may stand in a clause. -/
def startsSegment (segment : String) : Bool :=
  match segment.toList with
  | c :: _ => Text.isAlphabetic c || c == '_'
  | [] => false

/-- The path that a field spells. -/
def readPath (f : Field) : Except Fault Path :=
  match Path.ofText f.text with
  | .error _ => .error (f.fault (.invalidPath f.text))
  | .ok p =>
    match p.segments.find? (!startsSegment ·) with
    | some segment => .error (f.fault (.segmentStart segment))
    | none => .ok p

/-! ## Values -/

/-- Reads a quoted text, whose opening quote comes first. -/
def readQuoted (s : List Char) : Except Fault (Raw × List Char) :=
  match s with
  | quote :: body =>
    match Text.Quoted.decode quote body with
    | some (text, rest) => .ok (.text (String.ofList text), rest)
    | none => .error (.toEnd .unterminatedText s)
  | [] => .error (.toEnd .unterminatedText [])

/-- Whether the character ends a bare item of a list. -/
def endsItem (c : Char) : Bool := c == ',' || c == ']'

/-- Reads an item of the list that starts at `list`. -/
def readItem (list s : List Char) : Except Fault (Raw × List Char) :=
  match s with
  | [] => .error (.toEnd .unclosedList list)
  | c :: _ =>
    if Text.Quoted.isQuote c then readQuoted s
    else if c == '[' then .error (.toEnd .nestedList s)
    else
      match Text.trim (s.takeWhile (!endsItem ·)) with
      | [] => .error (.point .emptyElement s)
      | text => .ok (Literal.classify text, s.dropWhile (!endsItem ·))

/-- Reads the items of the list that starts at `list`, up to the closing bracket; at most `n` of
them. -/
def readItems (list : List Char) : Nat → List Char → Except Fault (List Raw × List Char)
  | 0, _ => .error (.toEnd .unclosedList list)
  | n + 1, s => do
    let (item, rest) ← readItem list (skipLayout s)
    match skipLayout rest with
    | ',' :: rest => do
      let (items, rest) ← readItems list n rest
      return (item :: items, rest)
    | ']' :: rest => return ([item], rest)
    | [] => .error (.toEnd .unclosedList list)
    | c :: rest => .error (.toEnd (.strayInList c) (c :: rest))

/-- Reads a list, whose opening bracket comes first. -/
def readList (s : List Char) : Except Fault (Raw × List Char) :=
  match skipLayout (s.drop 1) with
  | ']' :: rest => .ok (.list [], rest)
  | body => do
    let (items, rest) ← readItems s s.length body
    return (.list items, rest)

/-- Reads a value and leaves what stands behind it. -/
def takeValue (s : List Char) : Except Fault (Raw × List Char) :=
  match s with
  | [] => .error (.point .missingValue s)
  | c :: _ =>
    if c == '[' then readList s
    else if Text.Quoted.isQuote c then readQuoted s
    else .ok (Literal.classify (Text.trimRight s), [])

/-- Reads a value that is all there is. -/
def readValue (s : List Char) : Except Fault Raw := do
  let (value, rest) ← takeValue (skipLayout s)
  match skipLayout rest with
  | [] => return value
  | rest => .error (.toEnd .trailingInput rest)

/-! ## Clauses -/

/-- Reads a clause. -/
def read (s : List Char) : Except Fault Descriptor := do
  let (first, s) ← readField .missingPath s
  let (second, s) ← readField .missingOperator s
  match Connective.ofKeyword? first.text, takeOperator? s with
  | some connective, some (operator, s) => do
    let path ← readPath second
    let value ← readValue s
    return ⟨some connective, operator, path, value⟩
  | _, next =>
    match Operator.ofKeyword? second.text with
    | some operator => do
      let path ← readPath first
      let value ← readValue s
      return ⟨none, operator, path, value⟩
    | none =>
      if next.isSome then .error (first.fault (.unknownConnective first.text))
      else .error (second.fault (.unknownOperator second.text))

end RecordFilter.Clause
