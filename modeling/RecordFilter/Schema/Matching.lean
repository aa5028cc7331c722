import RecordFilter.Query.Operator
import RecordFilter.Scalar.Type

/-!
# Matching values with operands

A test is made once from an operator and an operand, and then run on the values
of many records. Fields of a type compare their own values with an operand that
is converted to the type first; where it does not convert there is no test.
Values that are only known as data are compared as scalars.

Nulls are equal to nulls, and have no place in any order.
-/

namespace RecordFilter

/-- Whether an operator means anything for properties of a shape. -/
def Shape.supports (s : Shape) (operator : Operator) : Bool :=
  if s.isSequence then
    operator = .equal || operator = .notEqual || operator = .contains
  else operator != .contains

namespace Matching

/-! ## Values of a type -/

section Typed

variable {α : Type} [FieldType α]

/-- Equality of values that may be null. -/
def sameOption : Option α → Option α → Bool
  | some a, some b => FieldType.same a b
  | none, none => true
  | _, _ => false

/-- Equality of lists of values that may be null. -/
def sameOptions : List (Option α) → List (Option α) → Bool
  | [], [] => true
  | a :: as, b :: bs => sameOption a b && sameOptions as bs
  | _, _ => false

/-- The value of the type that an operand stands for. -/
def convertSingle? (operand : Datum) : Option α := operand.single?.bind ofScalar?

def convertElement? : Option Scalar → Option (Option α)
  | some v => (ofScalar? v).map some
  | none => some none

/-- The values of the type that an operand lists. -/
def convertElements? : Datum → Option (List (Option α))
  | .null => none
  | operand => operand.elements.mapM convertElement?

/-- The test of a value that may be null. -/
def valueTest? (operator : Operator) (operand : Datum) : Option (Option α → Bool) :=
  match operator, operand with
  | .equal, .null => some fun v => v.isNone
  | .notEqual, .null => some fun v => v.isSome
  | _, .null => some fun _ => false
  | .containsOnValue, operand =>
    (convertElements? operand).map fun members v => members.any (sameOption · v)
  | .equal, operand => (convertSingle? operand).map fun a v => sameOption v (some a)
  | .notEqual, operand => (convertSingle? operand).map fun a v => !sameOption v (some a)
  | operator, operand =>
    (convertSingle? operand).map fun a v =>
      (v.bind (FieldType.compare? · a)).any operator.accepts

/-- The test of a list of values that may be null. -/
def elementsTest? (operator : Operator) (operand : Datum) : Option (List (Option α) → Bool) :=
  match operator, operand with
  | .contains, .null => some fun vs => vs.any Option.isNone
  | .contains, operand => (convertSingle? operand).map fun a vs => vs.any (sameOption · (some a))
  | .notEqual, operand => (convertElements? operand).map fun as vs => !sameOptions vs as
  | _, operand => (convertElements? operand).map fun as vs => sameOptions vs as

/-- Whether an operand is null or lists a null. -/
def mentionsNull (operand : Datum) : Bool :=
  operand.isNull || operand.elements.any Option.isNone

/-- A test of values that are never null, which fit no operand with a null. -/
def withoutNull {β : Type} (operand : Datum) (test? : Option β) : Option β :=
  if mentionsNull operand then none else test?

end Typed

/-! ## Data -/

/-- Whether two scalars compare as equal. -/
def sameScalar (a b : Scalar) : Bool := a.compare? b == some .eq

def sameElement : Option Scalar → Option Scalar → Bool
  | some a, some b => sameScalar a b
  | none, none => true
  | _, _ => false

def sameElements : List (Option Scalar) → List (Option Scalar) → Bool
  | [], [] => true
  | a :: as, b :: bs => sameElement a b && sameElements as bs
  | _, _ => false

/-- Equality of data that are single or null. -/
def sameSingle : Datum → Datum → Bool
  | .null, .null => true
  | .single a, .single b => sameScalar a b
  | _, _ => false

/-- Whether a datum that is single or null satisfies an operator and its operand. -/
def singleSatisfies (operator : Operator) (operand value : Datum) : Bool :=
  match operator with
  | .equal => sameSingle value operand
  | .notEqual => !sameSingle value operand
  | .contains | .containsOnValue => operand.elements.any (sameElement value.single? ·)
  | operator =>
    match value.single?, operand.single? with
    | some a, some b => (a.compare? b).any operator.accepts
    | _, _ => false

/-- Whether a datum that is a list satisfies an operator and its operand. -/
def listSatisfies (operator : Operator) (operand value : Datum) : Bool :=
  match operator with
  | .contains => value.elements.any (sameElement · operand.single?)
  | .notEqual => !sameElements value.elements operand.elements
  | _ => sameElements value.elements operand.elements

/-- Whether a datum of a shape satisfies an operator and its operand. -/
def satisfies (shape : Shape) (operator : Operator) (operand value : Datum) : Bool :=
  if shape.isSequence then listSatisfies operator operand value
  else singleSatisfies operator operand value

end Matching

end RecordFilter
