import RecordFilter.Proofs.Schema.Fitting
import RecordFilter.Proofs.Schema.Ordering

/-!
# Tests that complete each other

Two tests of one property with one operand are related through their operators.
Inequality is the negation of equality, whatever is read and whatever it is
compared with.  The operators of order all look at one outcome, that of comparing
the value which is read with the operand (`Property.Compares`); there is an
outcome just where both are scalars that have an order, and it is that of equal
values where the test of equality passes.
-/

namespace RecordFilter

/-- Whether a datum and an operand are single values that have an order. -/
def Datum.Comparable (d operand : Datum) : Prop :=
  ∃ a b, d = .single a ∧ operand = .single b ∧ (a.compare? b).isSome = true

/-! ## Inequality -/

namespace Matching

theorem withoutNull_map {β γ : Type} (operand : Datum) (test? : Option β) (f : β → γ) :
    withoutNull operand (test?.map f) = (withoutNull operand test?).map f := by
  rw [withoutNull, withoutNull]
  split <;> rfl

section Typed

variable {α : Type} [FieldType α]

theorem valueTest?_notEqual (operand : Datum) :
    valueTest? (α := α) .notEqual operand
      = (valueTest? .equal operand).map fun test v ↦ !test v := by
  cases operand with
  | null =>
    refine congrArg some (funext fun v ↦ ?_)
    cases v <;> rfl
  | _ =>
    simp only [valueTest?, Option.map_map]
    rfl

theorem elementsTest?_notEqual (operand : Datum) :
    elementsTest? (α := α) .notEqual operand
      = (elementsTest? .equal operand).map fun test vs ↦ !test vs := by
  simp only [elementsTest?, Option.map_map]
  rfl

end Typed

theorem satisfies_notEqual (shape : Shape) (operand value : Datum) :
    satisfies shape .notEqual operand value = !satisfies shape .equal operand value := by
  rw [satisfies, satisfies]
  split <;> rfl

end Matching

namespace Property

variable {Reads : Shape → Datum → Prop} {ρ : Type} {p : Property ρ}

/-- The test of inequality is the negation of that of equality. -/
theorem MadeOf.test?_notEqual (hp : p.MadeOf Reads) (operand : Datum) :
    p.test? .notEqual operand = (p.test? .equal operand).map fun test r ↦ !test r := by
  induction hp with
  | scalar k get =>
    simp only [Property.scalar, Matching.valueTest?_notEqual, Matching.withoutNull_map,
      Option.map_map]
    rfl
  | nullable k get =>
    simp only [Property.nullable, Matching.valueTest?_notEqual, Option.map_map]
    rfl
  | sequence kind k get =>
    simp only [Property.sequence, Matching.elementsTest?_notEqual, Matching.withoutNull_map,
      Option.map_map]
    rfl
  | nullableSequence kind k get =>
    simp only [Property.nullableSequence, Matching.elementsTest?_notEqual, Option.map_map]
    rfl
  | computed shape read _ | document path shape =>
    simp only [Property.computed, Matching.satisfies_notEqual, Option.map_some]
  | ofPart part _ ih =>
    simp only [Property.ofPart, ih, Option.map_map]
    rfl

end Property

/-! ## Order -/

/-- The operators of order ask for outcomes of which each is accepted by one of two complements. -/
theorem Operator.accepts_complement {operator operator' : Operator}
    (h : operator.complement? = some operator') (hop : operator.isOrdering = true) (o : Ordering) :
    operator.accepts o = !operator'.accepts o := by
  cases operator <;> cases h <;> cases o <;> first | rfl | cases hop

theorem Kind.same_iff {k : Kind} (a b : k.Value) :
    FieldType.same a b = true ↔ FieldType.compare? a b = some .eq := by
  by_cases hk : k.HasDistinctNames
  · have hlawful := Kind.lawful hk
    exact LawfulFieldType.same_iff a b
  · cases k with
    | enumeration e => exact same_variant_iff (e := e) a b
    | _ => exact absurd trivial hk

/-- A scalar of a kind comes from a value that has an order with the same values. -/
theorem Kind.exists_ofScalar?_isSome {k : Kind} {w : Scalar} (h : Coercion.IsConversion k w) :
    ∃ b : k.Value, ofScalar? w = some b ∧
      ∀ a : k.Value, (FieldType.compare? a b).isSome = ((toScalar a).compare? w).isSome := by
  by_cases hk : k.HasDistinctNames
  · have hlawful := Kind.lawful hk
    rw [← Kind.kind_value k] at h
    obtain ⟨b, hb, hcompare⟩ := Matching.exists_ofScalar? h
    exact ⟨b, hb, fun a ↦ congrArg Option.isSome (hcompare a)⟩
  · obtain ⟨b, hb⟩ := Kind.exists_ofScalar? h
    refine ⟨b, hb, fun a ↦ ?_⟩
    -- only an enumeration can repeat a name
    cases k with
    | enumeration e =>
      obtain ⟨raw, hraw⟩ := h
      have hcovers := (Kind.covers_toScalar a).trans (Kind.covers_of_convert hraw).symm
      rw [Scalar.compare?_eq_rank hcovers (by rw [Kind.covers_toScalar a]; simp [Kind.carrier])]
      rfl
    | _ => exact absurd trivial hk

namespace Matching

/-- The tests of values with an operand of their kind look at the outcome of one comparison. -/
theorem exists_outcome {k : Kind} {nullable : Bool} {operand : Datum}
    (h : Operand k nullable false operand) :
    ∃ outcome : Option k.Value → Option Ordering,
      (∀ operator : Operator, operator.isOrdering = true →
        valueTest? operator operand = some fun v ↦ (outcome v).any operator.accepts) ∧
      (∃ test : Option k.Value → Bool, valueTest? .equal operand = some test ∧
        ∀ v, (outcome v).isSome = true → (test v = true ↔ outcome v = some .eq)) ∧
      ∀ v, (outcome v).isSome = true ↔
        ∃ a b, v.map toScalar = some a ∧ operand = .single b ∧ (a.compare? b).isSome = true := by
  cases h with
  | null =>
    refine ⟨fun _ ↦ none, fun operator hop ↦ ?_, ⟨_, rfl, fun v hv ↦ ?_⟩, fun v ↦ ?_⟩
    · cases operator <;> first | rfl | cases hop
    · cases hv
    · simp
  | @single w hw =>
    obtain ⟨b, hb, hsome⟩ := Kind.exists_ofScalar?_isSome hw
    have hconvert : convertSingle? (.single w) = some b := hb
    refine ⟨fun v ↦ v.bind (FieldType.compare? · b), fun operator hop ↦ ?_,
      ⟨fun v ↦ sameOption v (some b), congrArg (Option.map _) hconvert, fun v hv ↦ ?_⟩, fun v ↦ ?_⟩
    · cases operator <;> first | exact congrArg (Option.map _) hconvert | cases hop
    · cases v with
      | none => cases hv
      | some a => exact Kind.same_iff a b
    · cases v with
      | none => simp
      | some a => simp [hsome]

end Matching

namespace Property

variable {ρ : Type} {p : Property ρ}

/-- Whether the tests of a property with an operand look at an outcome for each record. -/
structure Compares (p : Property ρ) (operand : Datum) (outcome : ρ → Option Ordering) : Prop where
  ordered : ∀ operator : Operator, operator.isOrdering = true →
    p.test? operator operand = some fun r ↦ (outcome r).any operator.accepts
  equal : ∃ test, p.test? .equal operand = some test ∧
    ∀ r, (outcome r).isSome = true → (test r = true ↔ outcome r = some .eq)
  isSome_iff : ∀ r, (outcome r).isSome = true ↔ (p.read r).Comparable operand

/-- Computed data are compared as they are, whether or not they are of the shape. -/
theorem exists_compares_computed {shape : Shape} (hs : shape.isSequence = false) (read : ρ → Datum)
    (operand : Datum) : ∃ outcome, (Property.computed shape read).Compares operand outcome := by
  let outcome : ρ → Option Ordering :=
    fun r ↦ (read r).single?.bind fun a ↦ operand.single?.bind a.compare?
  have hsome : ∀ r, (outcome r).isSome = true ↔ (read r).Comparable operand := by
    intro r
    simp only [outcome]
    cases read r <;> cases operand <;> simp [Datum.single?, Datum.Comparable]
  refine ⟨outcome, fun operator hop ↦ congrArg some (funext fun r ↦ ?_), ⟨_, rfl, fun r hr ↦ ?_⟩,
    hsome⟩
  · simp only [Matching.satisfies, hs, Bool.false_eq_true, if_false, outcome]
    cases operator
    case lessThan | lessThanOrEqual | greaterThan | greaterThanOrEqual =>
      cases hread : (read r).single? <;> cases hoperand : operand.single? <;>
        simp [Matching.singleSatisfies, hread, hoperand]
    all_goals cases hop
  · obtain ⟨a, b, ha, rfl, -⟩ := (hsome r).mp hr
    simp [Matching.satisfies, hs, Matching.singleSatisfies, Matching.sameSingle,
      Matching.sameScalar, outcome, ha, Datum.single?]

/-- The tests of a property that is no list look at the outcome of one comparison. -/
theorem MadeOf.exists_compares {Reads : Shape → Datum → Prop} (hp : p.MadeOf Reads)
    (hs : p.shape.isSequence = false) {operand : Datum}
    (h : Operand p.shape.element p.shape.admitsNull false operand) :
    ∃ outcome, p.Compares operand outcome := by
  induction hp with
  | scalar k get =>
    rw [shape_scalar] at h
    obtain ⟨outcome, hordered, ⟨test, htest, hequal⟩, hsome⟩ := Matching.exists_outcome (k := k) h
    have hnull := Matching.mentionsNull_eq_false h
    refine ⟨fun r ↦ outcome (some (get r)), fun operator hop ↦ ?_, ?_, fun r ↦ ?_⟩
    · simp [Property.scalar, Matching.withoutNull, hnull, hordered operator hop]
    · refine ⟨fun r ↦ test (some (get r)), ?_, fun r ↦ hequal _⟩
      simp [Property.scalar, Matching.withoutNull, hnull, htest]
    · rw [hsome]
      simp [Datum.Comparable, Property.scalar]
  | nullable k get =>
    rw [shape_nullable] at h
    obtain ⟨outcome, hordered, ⟨test, htest, hequal⟩, hsome⟩ := Matching.exists_outcome (k := k) h
    refine ⟨fun r ↦ outcome (get r), fun operator hop ↦ ?_, ?_, fun r ↦ ?_⟩
    · simp [Property.nullable, hordered operator hop]
    · refine ⟨fun r ↦ test (get r), ?_, fun r ↦ hequal _⟩
      simp [Property.nullable, htest]
    · rw [hsome]
      cases hget : get r <;> simp [Datum.Comparable, Property.nullable, hget]
  | sequence kind k get =>
    rw [shape_sequence, isSequence_sequence] at hs
    cases hs
  | nullableSequence kind k get =>
    rw [shape_nullableSequence, isSequence_nullableSequence] at hs
    cases hs
  | computed shape read _ => exact exists_compares_computed hs read operand
  | document path shape => exact exists_compares_computed hs _ operand
  | ofPart part _ ih =>
    obtain ⟨outcome, hordered, ⟨test, htest, hequal⟩, hsome⟩ := ih hs h
    refine ⟨outcome ∘ part, fun operator hop ↦ ?_, ⟨_, congrArg (Option.map _) htest, ?_⟩, ?_⟩
    · exact congrArg (Option.map _) (hordered operator hop)
    · exact fun r ↦ hequal (part r)
    · exact fun r ↦ hsome (part r)

end Property

end RecordFilter
