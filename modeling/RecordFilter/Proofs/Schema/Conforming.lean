import RecordFilter.Proofs.Outcome
import RecordFilter.Proofs.Schema.Matching

/-!
# Data that conform to a shape

What a property reads conforms to its shape: it is null, or it has the form of
the shape and its elements are values of the kind, or null where that is
admitted.  Fields conform because of their types and documents because of the
way they are read; of computed data it has to be asked.

There are two readings of what a value of an enumeration is, which differ only
where a name is repeated.  A variant of the declared type has the ordinal of the
first variant of its name (`Shape.Conforms`); a variant of the list alone stands
at its own place (`Shape.Includes`).  What is read is always of the second kind,
and without repeated names also of the first (`Shape.Includes.conforms`).
-/

namespace RecordFilter

/-! ## Values of a kind -/

namespace Kind

/-- Whether a scalar is a value of a kind.  Of an enumeration these are the variants, each with
its name and its ordinal, even if another variant has the same name. -/
def Includes : Kind → Scalar → Prop
  | enumeration e, v =>
    ∃ name ordinal, e.variants[ordinal]? = some name ∧ v = .variant e.name name ordinal
  | k, v => ∃ b : k.Value, v = toScalar b

/-- Of a kind that is no enumeration, the values are those of its type. -/
theorem includes_iff {k : Kind} (hk : ∀ e, k ≠ enumeration e) {v : Scalar} :
    k.Includes v ↔ ∃ b : k.Value, v = toScalar b := by
  cases k
  case enumeration e => exact absurd rfl (hk e)
  all_goals exact Iff.rfl

theorem hasDistinctNames_of_ne {k : Kind} (hk : ∀ e, k ≠ enumeration e) : k.HasDistinctNames := by
  cases k
  case enumeration e => exact absurd rfl (hk e)
  all_goals trivial

theorem includes_toScalar {k : Kind} (b : k.Value) : k.Includes (toScalar b) := by
  cases k
  case enumeration e =>
    have hmem : Variant.name b ∈ e.variants := List.get_mem _ _
    exact ⟨_, _, List.getElem?_idxOf hmem, rfl⟩
  all_goals exact ⟨b, rfl⟩

/-- What converts to a kind becomes a value of the kind. -/
theorem includes_of_convert {k : Kind} {raw : Raw} {v : Scalar}
    (h : Coercion.convert raw k = .ok v) : k.Includes v := by
  rcases em (∃ e, k = enumeration e) with ⟨e, rfl⟩ | hk
  · obtain ⟨lexeme, hread⟩ := Coercion.exists_readLexeme h (by simp) (by simp)
    exact Coercion.readLexeme_enumeration hread
  · rw [not_exists] at hk
    have hlawful := lawful (hasDistinctNames_of_ne hk)
    rw [← kind_value k] at h
    exact (includes_iff hk).mpr (LawfulFieldType.exists_of_convert h)

theorem Includes.exists_value {k : Kind} (hk : k.HasDistinctNames) {v : Scalar}
    (h : k.Includes v) : ∃ b : k.Value, v = toScalar b := by
  cases k
  case enumeration e =>
    obtain ⟨name, ordinal, hat, rfl⟩ := h
    obtain ⟨hlt, rfl⟩ := List.getElem?_eq_some_iff.mp hat
    exact ⟨⟨⟨ordinal, hlt⟩⟩, (toScalar_variant hk _).symm⟩
  all_goals exact h

end Kind

/-! ## Data of a shape -/

namespace Shape

/-- Whether an element of a datum is a value of the kind, or a null that is admitted. -/
def ConformsElement (shape : Shape) (x : Option Scalar) : Prop :=
  (shape.admitsNull = true ∧ x = none) ∨ ∃ b : shape.element.Value, x = some (toScalar b)

/-- Whether a datum is null or of the form and of the kind of a shape. -/
def Conforms (shape : Shape) (d : Datum) : Prop :=
  d = .null ∨ (shape.Holds d ∧ ∀ x ∈ d.elements, shape.ConformsElement x)

/-- Whether an element of a datum is included in the kind, or a null that is admitted. -/
def IncludesElement (shape : Shape) (x : Option Scalar) : Prop :=
  (shape.admitsNull = true ∧ x = none) ∨ ∃ v, shape.element.Includes v ∧ x = some v

/-- Whether a datum is null or of the form of a shape, with elements that its kind includes. -/
def Includes (shape : Shape) (d : Datum) : Prop :=
  d = .null ∨ (shape.Holds d ∧ ∀ x ∈ d.elements, shape.IncludesElement x)

variable {shape : Shape}

theorem includes_null : shape.Includes .null := .inl rfl

theorem includes_ofOptions (hs : shape.isSequence = true) {xs : List (Option Scalar)}
    (h : ∀ x ∈ xs, shape.IncludesElement x) : shape.Includes (.ofOptions xs) := by
  refine .inr ⟨holds_ofOptions hs xs, ?_⟩
  rwa [Datum.elements_ofOptions]

theorem includes_single (hs : shape.isSequence = false) {v : Scalar}
    (h : shape.element.Includes v) : shape.Includes (.single v) :=
  .inr ⟨hs, List.forall_mem_singleton.mpr (.inr ⟨v, h, rfl⟩)⟩

theorem Includes.conforms {d : Datum} (hk : shape.element.HasDistinctNames)
    (h : shape.Includes d) : shape.Conforms d := by
  refine h.imp_right fun ⟨hholds, helements⟩ ↦ ⟨hholds, fun x hx ↦ ?_⟩
  refine (helements x hx).imp_right ?_
  rintro ⟨v, hv, rfl⟩
  obtain ⟨b, rfl⟩ := hv.exists_value hk
  exact ⟨b, rfl⟩

/-- A variant among the elements stands at its place. -/
theorem Includes.getElem?_of_mem {d : Datum} (h : shape.Includes d) {e : Enumeration}
    (he : shape.element = .enumeration e) {t name : String} {ordinal : Nat}
    (hmem : some (.variant t name ordinal) ∈ d.elements) : e.variants[ordinal]? = some name := by
  rcases h with rfl | ⟨-, helements⟩
  · cases hmem
  · obtain ⟨-, hnone⟩ | ⟨v, hv, hsome⟩ := helements _ hmem
    · cases hnone
    · cases hsome
      rw [he] at hv
      obtain ⟨name', ordinal', hat, hsame⟩ := hv
      cases hsame
      exact hat

end Shape

/-! ## Documents -/

namespace Json

variable {shape : Shape} {node : Json}

/-- What is read of a kind is a value of the kind. -/
theorem includes_of_readScalar? {k : Kind} {v : Scalar} (h : readScalar? k node = some v) :
    k.Includes v := by
  obtain ⟨raw, -, hraw⟩ := Option.bind_eq_some_iff.mp h
  exact Kind.includes_of_convert (toOption_eq_some_iff.mp hraw)

theorem includesElement_of_readItem? {x : Option Scalar}
    (h : readItem? shape.element shape.admitsNull node = some x) : shape.IncludesElement x := by
  unfold readItem? at h
  split at h
  · split at h
    · next hnull =>
      cases h
      exact .inl ⟨hnull, rfl⟩
    · cases h
  · obtain ⟨v, hv, rfl⟩ := Option.map_eq_some_iff.mp h
    exact .inr ⟨v, includes_of_readScalar? hv, rfl⟩

/-- What is read of a shape is included in it. -/
theorem includes_readDatum (shape : Shape) (node : Json) :
    shape.Includes (readDatum shape node) := by
  unfold readDatum
  cases hs : shape.isSequence with
  | false =>
    simp only [Bool.false_eq_true, if_false]
    cases hread : readScalar? shape.element node with
    | none => exact Shape.includes_null
    | some v => exact Shape.includes_single hs (includes_of_readScalar? hread)
  | true =>
    simp only [if_true]
    split
    · next items =>
      cases hread : items.mapM (readItem? shape.element shape.admitsNull) with
      | none => exact Shape.includes_null
      | some xs =>
        refine Shape.includes_ofOptions hs fun x hx ↦ ?_
        obtain ⟨item, -, hitem⟩ := exists_of_mem_mapM hread hx
        exact includesElement_of_readItem? hitem
    · exact Shape.includes_null

end Json

/-! ## Properties -/

/-- A property reads data that its shape includes, if its computed data are such. -/
theorem Property.MadeOf.includes {ρ : Type} {p : Property ρ} (hp : p.MadeOf Shape.Includes)
    (r : ρ) : p.shape.Includes (p.read r) := by
  induction hp with
  | scalar k get =>
    rw [shape_scalar]
    exact Shape.includes_single rfl (Kind.includes_toScalar (get r))
  | nullable k get =>
    rw [shape_nullable, Property.nullable]
    cases hget : get r with
    | none =>
      simp only [hget]
      exact Shape.includes_null
    | some b =>
      simp only [hget]
      exact Shape.includes_single rfl (Kind.includes_toScalar b)
  | sequence kind k get =>
    have hs := isSequence_sequence kind k
    rw [shape_sequence]
    refine .inr ⟨hs, fun x hx ↦ ?_⟩
    obtain ⟨v, hv, rfl⟩ := List.mem_map.mp hx
    obtain ⟨b, -, rfl⟩ := List.mem_map.mp hv
    refine .inr ⟨toScalar b, ?_, rfl⟩
    rw [element_sequence]
    exact Kind.includes_toScalar b
  | nullableSequence kind k get =>
    rw [shape_nullableSequence]
    refine Shape.includes_ofOptions (isSequence_nullableSequence kind k) fun x hx ↦ ?_
    obtain ⟨b, -, rfl⟩ := List.mem_map.mp hx
    cases b with
    | none => exact .inl ⟨admitsNull_nullableSequence kind k, rfl⟩
    | some b =>
      refine .inr ⟨toScalar b, ?_, rfl⟩
      rw [element_nullableSequence]
      exact Kind.includes_toScalar b
  | computed shape read h => exact h r
  | document path shape =>
    rw [read_computed, RecordModel.read]
    cases hfollow : r.follow? (RecordModel.segments path) with
    | none => exact Shape.includes_null
    | some node => exact Json.includes_readDatum shape node
  | ofPart part _ ih => exact ih (part r)

end RecordFilter
