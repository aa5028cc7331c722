import Mathlib.Data.List.Forall2
import RecordFilter.Proofs.Compile.Lowering
import RecordFilter.Proofs.Scalar.Conversion
import RecordFilter.Schema.Property

/-!
# What a comparison means

`Matches` says when a datum of a record satisfies an operator and an operand, in
terms of scalars and nulls alone: no types of fields, no functions that run.  It
is the reading that every kind of property has to agree with.

An operand that has been coerced for a shape and an operator is of one of three
forms (`Operand`): null, a single scalar, or a list.  Which of them it is
depends on the shape and the operator only (`wantsList`).  For such operands the
comparison of data at run time is the reading (`satisfies_iff`).
-/

namespace RecordFilter

/-! ## The reading -/

/-- Equality of scalars and nulls: both null, or both present and comparing as equal. -/
def Alike : Option Scalar → Option Scalar → Prop
  | some a, some b => a.compare? b = some .eq
  | none, none => True
  | _, _ => False

/-- The outcomes of a comparison that satisfy an operator of order. -/
def Operator.orderings : Operator → List Ordering
  | .lessThan => [.lt]
  | .lessThanOrEqual => [.lt, .eq]
  | .greaterThan => [.gt]
  | .greaterThanOrEqual => [.gt, .eq]
  | _ => []

/-- When a single value, which may be null, satisfies an operator and its operand. -/
def ValueMatches (operator : Operator) (operand : Datum) (v : Option Scalar) : Prop :=
  match operator with
  | .equal => Alike v operand.single?
  | .notEqual => ¬ Alike v operand.single?
  | .containsOnValue => ∃ member ∈ operand.elements, Alike v member
  | .contains => False
  | operator => ∃ a b, v = some a ∧ operand.single? = some b ∧
      ∃ o ∈ operator.orderings, a.compare? b = some o

/-- When a list of values, which may be null, satisfies an operator and its operand. -/
def ListMatches (operator : Operator) (operand : Datum) (vs : List (Option Scalar)) : Prop :=
  match operator with
  | .equal => List.Forall₂ Alike vs operand.elements
  | .notEqual => ¬ List.Forall₂ Alike vs operand.elements
  | .contains => ∃ v ∈ vs, Alike v operand.single?
  | _ => False

/-- When a datum of a shape satisfies an operator and its operand. -/
def Matches (shape : Shape) (operator : Operator) (operand v : Datum) : Prop :=
  if shape.isSequence then ListMatches operator operand v.elements
  else ValueMatches operator operand v.single?

/-- The form of the data of a shape: a list for sequences, else a single value or null. -/
def Shape.Holds (shape : Shape) : Datum → Prop
  | .null | .single _ => shape.isSequence = false
  | .many _ | .optional _ => shape.isSequence = true

theorem Shape.holds_ofOptions {shape : Shape} (h : shape.isSequence = true)
    (vs : List (Option Scalar)) : shape.Holds (.ofOptions vs) := by
  rw [Datum.ofOptions]
  split <;> exact h

theorem Operator.accepts_iff {operator : Operator} {o : Ordering} :
    operator.accepts o = true ↔ o ∈ operator.orderings := by
  cases operator <;> cases o <;> decide

/-! ## Coerced operands -/

/-- Whether a list is wanted as the operand. -/
def wantsList (shape : Shape) (operator : Operator) : Bool :=
  decide (if shape.isSequence then operator ≠ .contains else operator = .containsOnValue)

theorem wantsList_value {shape : Shape} (hs : shape.isSequence = false) (operator : Operator) :
    wantsList shape operator = decide (operator = .containsOnValue) := by
  simp [wantsList, hs]

theorem wantsList_sequence {shape : Shape} (hs : shape.isSequence = true) (operator : Operator) :
    wantsList shape operator = decide (operator ≠ .contains) := by
  simp [wantsList, hs]

/-- The data that operands are coerced to. -/
inductive Operand (k : Kind) (nullable : Bool) : Bool → Datum → Prop
  | null (h : nullable = true) : Operand k nullable false .null
  | single {w : Scalar} (h : Coercion.IsConversion k w) : Operand k nullable false (.single w)
  | list {ws : List (Option Scalar)} (h : ∀ w ∈ ws, Coercion.IsElement k nullable w) :
      Operand k nullable true (.ofOptions ws)

/-- The sequences support three operators, the other shapes all but one. -/
theorem Shape.supports_iff {shape : Shape} {operator : Operator} :
    shape.supports operator = true ↔
      if shape.isSequence then operator = .equal ∨ operator = .notEqual ∨ operator = .contains
      else operator ≠ .contains := by
  cases hs : shape.isSequence <;> simp [Shape.supports, hs, or_assoc]

/-- For a supported operator a value is coerced as the list that is wanted. -/
theorem Coercion.coerce_eq_many {path : String} {raw : Raw} {shape : Shape} {operator : Operator}
    (hop : shape.supports operator = true) (hlist : wantsList shape operator = true) :
    coerce path raw shape operator = coerceMany path raw shape.element shape.admitsNull := by
  rw [Shape.supports_iff] at hop
  cases hs : shape.isSequence
  · rw [wantsList_value hs, decide_eq_true_iff] at hlist
    simp [coerce, hs, hlist]
  · rw [wantsList_sequence hs, decide_eq_true_iff] at hlist
    simp only [hs, if_true] at hop
    rcases hop with rfl | rfl | rfl
    · simp [coerce, hs]
    · simp [coerce, hs]
    · exact absurd rfl hlist

/-- Where no list is wanted, a value is coerced as a single one. -/
theorem Coercion.coerce_eq_single {path : String} {raw : Raw} {shape : Shape} {operator : Operator}
    (hlist : wantsList shape operator = false) :
    coerce path raw shape operator = coerceSingle path raw shape.element shape.admitsNull := by
  cases hs : shape.isSequence
  · rw [wantsList_value hs, decide_eq_false_iff_not] at hlist
    simp [coerce, hs, hlist]
  · rw [wantsList_sequence hs, decide_eq_false_iff_not, not_not] at hlist
    simp [coerce, hs, hlist]

/-- Coercion for a supported operator gives an operand of the form that is wanted. -/
theorem operand_of_coerce {path : String} {raw : Raw} {shape : Shape} {operator : Operator}
    {operand : Datum} (hop : shape.supports operator = true)
    (h : Coercion.coerce path raw shape operator = .ok operand) :
    Operand shape.element shape.admitsNull (wantsList shape operator) operand := by
  cases hlist : wantsList shape operator with
  | true =>
    rw [Coercion.coerce_eq_many hop hlist] at h
    obtain ⟨vs, rfl, hvs⟩ := Coercion.coerceMany_eq_ok h
    exact .list hvs
  | false =>
    rw [Coercion.coerce_eq_single hlist] at h
    rcases Coercion.coerceSingle_eq_ok h with ⟨hnull, rfl⟩ | ⟨v, hv, rfl⟩
    · exact .null hnull
    · exact .single hv

/-! ## Data at run time -/

namespace Matching

theorem sameElement_iff {a b : Option Scalar} : sameElement a b = true ↔ Alike a b := by
  cases a <;> cases b <;> simp [sameElement, Alike, sameScalar]

theorem sameElements_iff {as bs : List (Option Scalar)} :
    sameElements as bs = true ↔ List.Forall₂ Alike as bs := by
  induction as generalizing bs with
  | nil => cases bs <;> simp [sameElements]
  | cons a as ih => cases bs <;> simp [sameElements, sameElement_iff, ih]

theorem sameSingle_iff {v operand : Datum} {shape : Shape} (hs : shape.isSequence = false)
    (hv : shape.Holds v) {k : Kind} {nullable : Bool} (h : Operand k nullable false operand) :
    sameSingle v operand = true ↔ Alike v.single? operand.single? := by
  cases h <;> cases v <;>
    simp_all [Shape.Holds, sameSingle, Alike, Datum.single?, sameScalar]

/-- An operator of order asks for two scalars and the outcome of their comparison. -/
theorem ordered_iff {operator : Operator} {v operand : Option Scalar} :
    (match v, operand with
      | some a, some b => (a.compare? b).any operator.accepts
      | _, _ => false) = true ↔
    ∃ a b, v = some a ∧ operand = some b ∧ ∃ o ∈ operator.orderings, a.compare? b = some o := by
  cases v with
  | none => simp
  | some a =>
    cases operand with
    | none => simp
    | some b => simp [Option.any_eq_true, Operator.accepts_iff, and_comm]

/-- The comparison of data at run time is the reading. -/
theorem satisfies_iff {shape : Shape} {operator : Operator} {operand v : Datum} {k : Kind}
    {nullable : Bool} (hop : shape.supports operator = true)
    (h : Operand k nullable (wantsList shape operator) operand) (hv : shape.Holds v) :
    satisfies shape operator operand v = true ↔ Matches shape operator operand v := by
  rw [Shape.supports_iff] at hop
  cases hs : shape.isSequence
  · rw [wantsList_value hs] at h
    simp only [hs, Bool.false_eq_true, if_false] at hop
    rw [satisfies, Matches]
    simp only [hs, Bool.false_eq_true, if_false]
    cases operator
    case contains => exact absurd rfl hop
    case equal => exact sameSingle_iff hs hv h
    case notEqual =>
      have hsame : sameSingle v operand = true ↔ _ := sameSingle_iff hs hv h
      simp [singleSatisfies, ValueMatches, ← hsame]
    case containsOnValue => simp [singleSatisfies, ValueMatches, sameElement_iff]
    all_goals exact ordered_iff
  · simp only [hs, if_true] at hop
    rw [satisfies, Matches]
    simp only [hs, if_true]
    rcases hop with rfl | rfl | rfl
    · exact sameElements_iff
    · simp [listSatisfies, ListMatches, ← sameElements_iff]
    · simp [listSatisfies, ListMatches, sameElement_iff]

end Matching

end RecordFilter
