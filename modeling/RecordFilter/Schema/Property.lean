import RecordFilter.Diagnostic.Error
import RecordFilter.Schema.Matching

/-!
# Properties

A property is what a filter can see of a record: a shape, the datum that is read
from a record, and a test of records for each operator and operand. The fields
of a record give properties, and so does any function to data. A property of a
part of a record is a property of the record.
-/

namespace RecordFilter

open Diagnostic (Code)

structure Property (ρ : Type) where
  shape : Shape
  read : ρ → Datum
  /-- The test of records, if the operand fits the property. -/
  test? : Operator → Datum → Option (ρ → Bool)

namespace Property

variable {ρ σ α : Type}

/-- A field that is never null. -/
def scalar [FieldType α] (get : ρ → α) : Property ρ where
  shape := .scalar (FieldType.kind α)
  read r := .single (toScalar (get r))
  test? operator operand :=
    (Matching.withoutNull operand (Matching.valueTest? operator operand)).map fun test r =>
      test (some (get r))

/-- A field that may be null. -/
def nullable [FieldType α] (get : ρ → Option α) : Property ρ where
  shape := .nullable (FieldType.kind α)
  read r := ((get r).map (Datum.single ∘ toScalar)).getD .null
  test? operator operand :=
    (Matching.valueTest? operator operand).map fun test r => test (get r)

/-- A field with a list in it. -/
def sequence [FieldType α] (kind : SequenceKind) (get : ρ → List α) : Property ρ where
  shape := .sequence kind (FieldType.kind α)
  read r := .many ((get r).map toScalar)
  test? operator operand :=
    (Matching.withoutNull operand (Matching.elementsTest? operator operand)).map fun test r =>
      test ((get r).map some)

/-- A field with a list in it whose elements may be null. -/
def nullableSequence [FieldType α] (kind : SequenceKind) (get : ρ → List (Option α)) :
    Property ρ where
  shape := .nullableSequence kind (FieldType.kind α)
  read r := .ofOptions ((get r).map (Option.map toScalar))
  test? operator operand :=
    (Matching.elementsTest? operator operand).map fun test r => test (get r)

/-- A property that is computed as a datum, which has to be of the shape. -/
def computed (shape : Shape) (read : ρ → Datum) : Property ρ where
  shape := shape
  read := read
  test? operator operand := some fun r => Matching.satisfies shape operator operand (read r)

/-- A property of a part of a record. -/
def ofPart (part : ρ → σ) (p : Property σ) : Property ρ where
  shape := p.shape
  read r := p.read (part r)
  test? operator operand := (p.test? operator operand).map fun test r => test (part r)

/-- The error of an operand that is not of the type of its property. -/
def mismatch (shape : Shape) (path : String) (operand : Datum) : FilterError :=
  .coercion .invalidValue path shape.element.name operand.render
    "operand does not match the property type" none

/-- The error of an operator that means nothing for a shape. -/
def unsupported (shape : Shape) (operator : Operator) (path : String) : FilterError :=
  .unsupported operator.keyword shape.render path none

/-- Fails unless an operator is supported. -/
def ensureSupported (shape : Shape) (operator : Operator) (path : String) :
    Except FilterError Unit :=
  if shape.supports operator then .ok () else .error (unsupported shape operator path)

/-- The test of a property that is known by a path. -/
def test (p : Property ρ) (path : String) (operator : Operator) (operand : Datum) :
    Except FilterError (ρ → Bool) := do
  ensureSupported p.shape operator path
  match p.test? operator operand with
  | some test => return test
  | none => throw (mismatch p.shape path operand)

@[simp] theorem shape_computed (shape : Shape) (read : ρ → Datum) :
    (computed shape read).shape = shape := rfl

@[simp] theorem read_computed (shape : Shape) (read : ρ → Datum) :
    (computed shape read).read = read := rfl

@[simp] theorem shape_ofPart (part : ρ → σ) (p : Property σ) : (p.ofPart part).shape = p.shape :=
  rfl

@[simp] theorem read_ofPart (part : ρ → σ) (p : Property σ) (r : ρ) :
    (p.ofPart part).read r = p.read (part r) := rfl

end Property

end RecordFilter
