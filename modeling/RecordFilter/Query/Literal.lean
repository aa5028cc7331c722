import RecordFilter.Number.Digits
import RecordFilter.Query.Raw
import RecordFilter.Text.Blank
import RecordFilter.Text.Case

/-!
# Literals

A bare literal is null, a boolean, a number or a text, whichever it looks like
first. A number is an optional sign, digits, an optional fraction and an
optional exponent, and nothing else.
-/

namespace RecordFilter.Literal

open RecordFilter.Number

/-- The exponent of a number, or nothing. -/
def isExponent : List Char → Bool
  | [] => true
  | c :: s => (c == 'e' || c == 'E') && isDigits (takeSign s).2

/-- What may follow the whole part of a number. -/
def isFraction : List Char → Bool
  | '.' :: s => !(takeDigits s).1.isEmpty && isExponent (takeDigits s).2
  | s => isExponent s

/-- Whether a literal is a number. -/
def isNumber (s : List Char) : Bool :=
  let (whole, rest) := takeDigits (takeSign s).2
  !whole.isEmpty && isFraction rest

/-- The value of a bare literal. -/
def classify (s : List Char) : Raw :=
  let word := String.ofList s
  if Text.sameFolded word "null" then .null
  else if Text.sameFolded word "true" then .boolean true
  else if Text.sameFolded word "false" then .boolean false
  else if isNumber s then .number word
  else .text word

end RecordFilter.Literal
