import RecordFilter.Proofs.Schema.Matching

/-!
# Coerced operands fit

Lowering converts each operand to the type of its property a second time, and
fails where it does not convert.  An operand that was coerced for the property
always does: whatever the kind, a scalar of it has a value, and null is among
the operands only where the property admits it.  Nothing is said here of what
the tests accept, so enumerations may repeat a name.
-/

namespace RecordFilter

/-- A name that an enumeration lists is that of one of its variants, the first one if it repeats. -/
theorem exists_ofScalar?_variant {e : Enumeration} {name : String} (h : name ∈ e.variants)
    (ordinal : Nat) : ∃ v : Variant e, ofScalar? (.variant e.name name ordinal) = some v := by
  have hfound : (e.variants.finIdxOf? name).isSome = true := by simpa using h
  obtain ⟨i, hi⟩ := Option.isSome_iff_exists.mp hfound
  refine ⟨⟨i⟩, ?_⟩
  change (if e.name = e.name then Variant.ofName? e name else none) = _
  rw [if_pos rfl, Variant.ofName?, hi, Option.map_some]

/-- A scalar of a kind comes from a value of the kind. -/
theorem Kind.exists_ofScalar? {k : Kind} {w : Scalar} (h : Coercion.IsConversion k w) :
    ∃ b : k.Value, ofScalar? w = some b := by
  by_cases hk : k.HasDistinctNames
  · have hlawful := Kind.lawful hk
    rw [← Kind.kind_value k] at h
    obtain ⟨b, hb, -⟩ := Matching.exists_ofScalar? h
    exact ⟨b, hb⟩
  · -- only an enumeration can repeat a name
    cases k with
    | enumeration e =>
      obtain ⟨raw, hraw⟩ := h
      obtain ⟨lexeme, hread⟩ := Coercion.exists_readLexeme hraw (by simp) (by simp)
      obtain ⟨name, ordinal, hat, rfl⟩ := Coercion.readLexeme_enumeration hread
      exact exists_ofScalar?_variant (List.mem_of_getElem? hat) ordinal
    | _ => exact absurd trivial hk

namespace Matching

variable {k : Kind} {operator : Operator} {operand : Datum} {nullable : Bool}

theorem exists_convertElements?_of_forall {ws : List (Option Scalar)}
    (h : ∀ w ∈ ws, Coercion.IsElement k nullable w) :
    ∃ bs : List (Option k.Value), convertElements? (.ofOptions ws) = some bs := by
  rw [convertElements?_of_ne_null (ofOptions_ne_null ws), Datum.elements_ofOptions]
  induction ws with
  | nil => exact ⟨[], rfl⟩
  | cons w ws ih =>
    obtain ⟨bs, hbs⟩ := ih fun w hw ↦ h w (List.mem_cons_of_mem _ hw)
    rcases h w List.mem_cons_self with ⟨-, rfl⟩ | ⟨x, hx, rfl⟩
    · exact ⟨none :: bs, by simp [convertElement?, hbs]⟩
    · obtain ⟨b, hb⟩ := Kind.exists_ofScalar? hx
      exact ⟨some b :: bs, by simp [convertElement?, hb, hbs]⟩

/-- A test of values is made for every operand of the form that the operator wants. -/
theorem exists_valueTest?_of_operand (hop : operator ≠ .contains)
    (h : Operand k nullable (decide (operator = .containsOnValue)) operand) :
    ∃ test : Option k.Value → Bool, valueTest? operator operand = some test := by
  generalize hlist : decide (operator = .containsOnValue) = list at h
  cases h with
  | null => cases operator <;> exact ⟨_, rfl⟩
  | @single w hw =>
    obtain ⟨b, hb⟩ := Kind.exists_ofScalar? hw
    have hconvert : convertSingle? (.single w) = some b := hb
    cases operator
    case contains => exact absurd rfl hop
    case containsOnValue => cases hlist
    all_goals exact ⟨_, congrArg (Option.map _) hconvert⟩
  | @list ws hws =>
    obtain rfl : operator = .containsOnValue := by simpa using hlist
    obtain ⟨bs, hbs⟩ := exists_convertElements?_of_forall hws
    cases hd : Datum.ofOptions ws with
    | null => exact absurd hd (ofOptions_ne_null ws)
    | _ => rw [hd] at hbs; exact ⟨_, congrArg (Option.map _) hbs⟩

/-- A test of lists is made for every operand of the form that the operator wants. -/
theorem exists_elementsTest?_of_operand
    (hop : operator = .equal ∨ operator = .notEqual ∨ operator = .contains)
    (h : Operand k nullable (decide (operator ≠ .contains)) operand) :
    ∃ test : List (Option k.Value) → Bool, elementsTest? operator operand = some test := by
  generalize hlist : decide (operator ≠ .contains) = list at h
  cases h with
  | null =>
    obtain rfl : operator = .contains := by simpa using hlist
    exact ⟨_, rfl⟩
  | @single w hw =>
    obtain rfl : operator = .contains := by simpa using hlist
    obtain ⟨b, hb⟩ := Kind.exists_ofScalar? hw
    have hconvert : convertSingle? (.single w) = some b := hb
    exact ⟨_, congrArg (Option.map _) hconvert⟩
  | @list ws hws =>
    obtain ⟨bs, hbs⟩ := exists_convertElements?_of_forall hws
    rcases hop with rfl | rfl | rfl
    · exact ⟨_, congrArg (Option.map _) hbs⟩
    · exact ⟨_, congrArg (Option.map _) hbs⟩
    · simp at hlist

end Matching

namespace Property

/-- A property has a test for every operand that was coerced for it. -/
theorem MadeOf.exists_test {Reads : Shape → Datum → Prop} {ρ : Type} {p : Property ρ}
    (hp : p.MadeOf Reads) {operator : Operator} {operand : Datum}
    (hop : p.shape.supports operator = true)
    (h : Operand p.shape.element p.shape.admitsNull (wantsList p.shape operator) operand) :
    ∃ test, p.test? operator operand = some test := by
  induction hp with
  | scalar k get =>
    rw [shape_scalar] at hop h
    rw [wantsList_value rfl] at h
    obtain ⟨test, htest⟩ :=
      Matching.exists_valueTest?_of_operand (k := k) (Shape.supports_iff.mp hop) h
    refine ⟨fun r ↦ test (some (get r)), ?_⟩
    simp [Property.scalar, Matching.withoutNull, Matching.mentionsNull_eq_false h, htest]
  | nullable k get =>
    rw [shape_nullable] at hop h
    rw [wantsList_value rfl] at h
    obtain ⟨test, htest⟩ := Matching.exists_valueTest?_of_operand (Shape.supports_iff.mp hop) h
    exact ⟨fun r ↦ test (get r), congrArg (Option.map _) htest⟩
  | sequence kind k get =>
    have hs := isSequence_sequence kind k
    rw [shape_sequence] at hop h
    rw [wantsList_sequence hs, element_sequence, admitsNull_sequence] at h
    rw [Shape.supports_iff, if_pos hs] at hop
    obtain ⟨test, htest⟩ := Matching.exists_elementsTest?_of_operand hop h
    refine ⟨fun r ↦ test ((get r).map some), ?_⟩
    simp [Property.sequence, Matching.withoutNull, Matching.mentionsNull_eq_false h, htest]
  | nullableSequence kind k get =>
    have hs := isSequence_nullableSequence kind k
    rw [shape_nullableSequence] at hop h
    rw [wantsList_sequence hs, element_nullableSequence, admitsNull_nullableSequence] at h
    rw [Shape.supports_iff, if_pos hs] at hop
    obtain ⟨test, htest⟩ := Matching.exists_elementsTest?_of_operand hop h
    exact ⟨fun r ↦ test (get r), congrArg (Option.map _) htest⟩
  | computed shape read _ => exact ⟨_, rfl⟩
  | document path shape => exact ⟨_, rfl⟩
  | ofPart part _ ih =>
    obtain ⟨test, htest⟩ := ih hop h
    exact ⟨_, congrArg (Option.map _) htest⟩

end Property

end RecordFilter
