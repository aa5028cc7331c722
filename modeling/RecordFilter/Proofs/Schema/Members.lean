import RecordFilter.Proofs.Schema.Complements

/-!
# Membership is a disjunction of equalities

A test of membership in a list runs through the members in code of its own: in
the type of a field, or on data.  Either way it passes a record exactly when the
test of equality with some member does, where null is a member like any other
(`any_valueTest?_members`).  Equality looks at the whole datum of a record and
membership at its single value only, so the two part over a computed property
that reads a list where its shape has none: to membership such a list is null
(`MadeOf.passes_members_iff`).
-/

namespace RecordFilter

/-- A datum that is single or null. -/
def Datum.ofOption (w : Option Scalar) : Datum := (w.map .single).getD .null

@[simp] theorem Datum.ofOption_none : ofOption none = .null := rfl

@[simp] theorem Datum.ofOption_some (v : Scalar) : ofOption (some v) = .single v := rfl

/-! ## Values of a type -/

theorem Kind.same_comm {k : Kind} (a b : k.Value) :
    FieldType.same a b = FieldType.same b a := by
  by_cases hk : k.HasDistinctNames
  · have hlawful := Kind.lawful hk
    exact LawfulFieldType.same_comm a b
  · -- only an enumeration can repeat a name
    cases k with
    | enumeration e => exact BEq.comm (α := Variant e)
    | _ => exact absurd trivial hk

namespace Matching

variable {k : Kind} {nullable : Bool} {ws : List (Option Scalar)}

/-- A value is the same as a converted element where it passes the test of equality. -/
theorem sameOption_eq_any_valueTest? {w : Option Scalar} {b : Option k.Value}
    (h : convertElement? w = some b) (v : Option k.Value) :
    sameOption b v = (valueTest? .equal (.ofOption w)).any (· v) := by
  cases w with
  | none =>
    cases h
    cases v <;> rfl
  | some x =>
    obtain ⟨c, hc, rfl⟩ := Option.map_eq_some_iff.mp h
    have htest : valueTest? .equal (.single x) = some fun v ↦ sameOption v (some c) :=
      congrArg (Option.map _) hc
    rw [Datum.ofOption_some, htest]
    cases v with
    | none => rfl
    | some a => exact Kind.same_comm c a

/-- A value is among converted elements where it passes the test of equality with one of them. -/
theorem any_sameOption_eq {bs : List (Option k.Value)} (h : ws.mapM convertElement? = some bs)
    (v : Option k.Value) :
    bs.any (sameOption · v) = ws.any fun w ↦ (valueTest? .equal (.ofOption w)).any (· v) := by
  induction ws generalizing bs with
  | nil =>
    cases h
    rfl
  | cons w ws ih =>
    rw [List.mapM_cons] at h
    obtain ⟨b, hb, h⟩ := Option.bind_eq_some_iff.mp h
    obtain ⟨bs', hbs, h⟩ := Option.bind_eq_some_iff.mp h
    cases h
    rw [List.any_cons, List.any_cons, sameOption_eq_any_valueTest? hb, ih hbs]

theorem valueTest?_ofOptions (ws : List (Option Scalar)) :
    valueTest? (α := k.Value) .containsOnValue (.ofOptions ws)
      = (convertElements? (.ofOptions ws)).map fun members v ↦ members.any (sameOption · v) := by
  cases hd : Datum.ofOptions ws with
  | null => exact absurd hd (ofOptions_ne_null ws)
  | _ => rfl

/-- The test of membership passes the values that the test of equality with some member does. -/
theorem any_valueTest?_members (hws : ∀ w ∈ ws, Coercion.IsElement k nullable w)
    (v : Option k.Value) :
    (valueTest? .containsOnValue (.ofOptions ws)).any (· v)
      = ws.any fun w ↦ (valueTest? .equal (.ofOption w)).any (· v) := by
  obtain ⟨bs, hbs⟩ := exists_convertElements?_of_forall hws
  rw [valueTest?_ofOptions, hbs]
  rw [convertElements?_of_ne_null (ofOptions_ne_null ws), Datum.elements_ofOptions] at hbs
  exact any_sameOption_eq hbs v

/-! ## Data -/

variable {shape : Shape} (hs : shape.isSequence = false)

include hs

/-- A datum has an element as its single value if it equals it, and takes null for that of a
list. -/
theorem sameElement_single?_iff (value : Datum) (w : Option Scalar) :
    sameElement value.single? w = true ↔
      sameSingle value (.ofOption w) = true ∨ (w = none ∧ ¬ shape.Holds value) := by
  cases value <;> cases w <;>
    simp [Datum.single?, sameElement, sameSingle, Shape.Holds, hs]

theorem satisfies_members_iff (ws : List (Option Scalar)) (value : Datum) :
    satisfies shape .containsOnValue (.ofOptions ws) value = true ↔
      (∃ w ∈ ws, satisfies shape .equal (.ofOption w) value = true) ∨
        (none ∈ ws ∧ ¬ shape.Holds value) := by
  simp only [satisfies, hs, Bool.false_eq_true, if_false, singleSatisfies,
    Datum.elements_ofOptions, List.any_eq_true, sameElement_single?_iff hs]
  constructor
  · rintro ⟨w, hw, hsame | ⟨rfl, hvalue⟩⟩
    · exact .inl ⟨w, hw, hsame⟩
    · exact .inr ⟨hw, hvalue⟩
  · rintro (⟨w, hw, hsame⟩ | ⟨hnull, hvalue⟩)
    · exact ⟨w, hw, .inl hsame⟩
    · exact ⟨none, hnull, .inr ⟨rfl, hvalue⟩⟩

end Matching

/-! ## Properties -/

namespace Property

variable {ρ : Type} {p : Property ρ} {Reads : Shape → Datum → Prop}

/-- Whether a record passes the test of a property, as long as there is one for the operand. -/
def passes (p : Property ρ) (operator : Operator) (operand : Datum) (r : ρ) : Bool :=
  (p.test? operator operand).any (· r)

theorem passes_of_test? {operator : Operator} {operand : Datum} {test : ρ → Bool}
    (h : p.test? operator operand = some test) (r : ρ) : p.passes operator operand r = test r := by
  rw [passes, h, Option.any_some]

theorem passes_scalar {k : Kind} (get : ρ → k.Value) (operator : Operator) {operand : Datum}
    (h : Matching.mentionsNull operand = false) (r : ρ) :
    (Property.scalar get).passes operator operand r
      = (Matching.valueTest? operator operand).any (· (some (get r))) := by
  simp [passes, Property.scalar, Matching.withoutNull, h, Option.any_map]

theorem passes_nullable {k : Kind} (get : ρ → Option k.Value) (operator : Operator)
    (operand : Datum) (r : ρ) :
    (Property.nullable get).passes operator operand r
      = (Matching.valueTest? operator operand).any (· (get r)) := by
  simp [passes, Property.nullable, Option.any_map, Function.comp_def]

theorem passes_ofPart {σ : Type} (part : ρ → σ) (p : Property σ) (operator : Operator)
    (operand : Datum) (r : ρ) :
    (p.ofPart part).passes operator operand r = p.passes operator operand (part r) := by
  simp [passes, Property.ofPart, Option.any_map]

/-- A test of membership passes the records that the test of equality with some member does, and
with a null among the members also those whose datum is not of the form of the shape. -/
theorem MadeOf.passes_members_iff (hp : p.MadeOf Reads) (hs : p.shape.isSequence = false)
    {ws : List (Option Scalar)}
    (hws : ∀ w ∈ ws, Coercion.IsElement p.shape.element p.shape.admitsNull w) (r : ρ) :
    p.passes .containsOnValue (.ofOptions ws) r = true ↔
      (∃ w ∈ ws, p.passes .equal (.ofOption w) r = true) ∨
        (none ∈ ws ∧ ¬ p.shape.Holds (p.read r)) := by
  induction hp with
  | scalar k get =>
    rw [shape_scalar] at hws ⊢
    have hnull : none ∉ ws := by
      intro hmem
      rcases hws none hmem with ⟨hadmits, -⟩ | ⟨x, -, hx⟩
      · cases hadmits
      · cases hx
    have hequal : ∀ w ∈ ws, (Property.scalar get).passes .equal (.ofOption w) r
        = (Matching.valueTest? .equal (.ofOption w)).any (· (some (get r))) := by
      intro w hw
      cases w with
      | none => exact absurd hw hnull
      | some x => exact passes_scalar get .equal rfl r
    rw [passes_scalar get _ (Matching.mentionsNull_eq_false (.list hws)),
      Matching.any_valueTest?_members (k := k) hws, List.any_eq_true]
    constructor
    · rintro ⟨w, hw, htest⟩
      exact .inl ⟨w, hw, (hequal w hw).trans htest⟩
    · rintro (⟨w, hw, htest⟩ | ⟨hmem, -⟩)
      · exact ⟨w, hw, (hequal w hw).symm.trans htest⟩
      · exact absurd hmem hnull
  | nullable k get =>
    rw [shape_nullable] at hws
    simp only [passes_nullable, Matching.any_valueTest?_members (k := k) hws, List.any_eq_true,
      holds_read_nullable, not_true_eq_false, and_false, or_false]
  | sequence kind k get =>
    rw [shape_sequence, isSequence_sequence] at hs
    cases hs
  | nullableSequence kind k get =>
    rw [shape_nullableSequence, isSequence_nullableSequence] at hs
    cases hs
  | computed shape read _ => exact Matching.satisfies_members_iff hs ws (read r)
  | document path shape => exact Matching.satisfies_members_iff hs ws _
  | ofPart part _ ih =>
    simp only [passes_ofPart]
    exact ih hs hws (part r)

/-- A property that is no list reads data of the form of its shape, if its computed data is. -/
theorem MadeOf.holds_read (hp : p.MadeOf Shape.Holds) (hs : p.shape.isSequence = false) (r : ρ) :
    p.shape.Holds (p.read r) := by
  induction hp with
  | scalar k get => exact hs
  | nullable k get => exact holds_read_nullable get r
  | sequence kind k get =>
    rw [shape_sequence, isSequence_sequence] at hs
    cases hs
  | nullableSequence kind k get =>
    rw [shape_nullableSequence, isSequence_nullableSequence] at hs
    cases hs
  | computed shape read h => exact h r
  | document path shape =>
    rw [read_computed, RecordModel.read]
    cases r.follow? (RecordModel.segments path) with
    | none => exact hs
    | some node =>
      have hvalue : shape.isSequence = false := hs
      simp only [Option.map_some, Option.getD_some, Json.readDatum, hvalue, Bool.false_eq_true,
        if_false]
      cases Json.readScalar? shape.element node <;> exact hs
  | ofPart part _ ih => exact ih hs (part r)

end Property

end RecordFilter
