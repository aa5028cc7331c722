import RecordFilter.Model.Document
import RecordFilter.Proofs.Scalar.FieldType
import RecordFilter.Proofs.Schema.Reference

/-!
# All properties compare alike

A field of a record is compared in its own type, with an operand that was
converted to the type once; a computed property is compared as data, each time
anew.  Whichever it is, and however deep in parts of the record it lies, the
test of a property accepts the records whose datum satisfies the operator and
the operand in the reading of `Matches`.

The step from a type to its scalars is `StandsFor`: a converted value stands for
the scalar it was converted from when no value of the type tells them apart.
-/

namespace RecordFilter

namespace Matching

section Typed

variable {α : Type} [FieldType α] [LawfulFieldType α]

/-! ## Converted operands -/

/-- A scalar that a raw value converts to is converted to a value that compares like it. -/
theorem exists_ofScalar? {w : Scalar} (h : Coercion.IsConversion (FieldType.kind α) w) :
    ∃ b : α, ofScalar? w = some b ∧ ∀ a : α, FieldType.compare? a b = (toScalar a).compare? w := by
  obtain ⟨raw, hraw⟩ := h
  obtain ⟨c, rfl⟩ := LawfulFieldType.exists_of_convert hraw
  obtain ⟨b, hb, hcompare⟩ := LawfulFieldType.exists_ofScalar? c
  exact ⟨b, hb, fun a ↦ by rw [hcompare, LawfulFieldType.compare?_toScalar]⟩

/-- Whether a value, which may be null, is equal to just the values that are like a scalar. -/
def StandsFor (b : Option α) (w : Option Scalar) : Prop :=
  ∀ a : Option α, sameOption a b = true ↔ Alike (a.map toScalar) w

omit [LawfulFieldType α] in
/-- Null stands for null. -/
theorem standsFor_none : StandsFor (none : Option α) none := by
  intro a
  cases a <;> simp [sameOption, Alike]

/-- A value that compares like a scalar stands for it. -/
theorem standsFor_some {b : α} {w : Scalar}
    (h : ∀ a : α, FieldType.compare? a b = (toScalar a).compare? w) :
    StandsFor (some b) (some w) := by
  intro a
  cases a with
  | none => simp [sameOption, Alike]
  | some a => simp [sameOption, Alike, LawfulFieldType.same_iff, h]

theorem exists_convertElement? {nullable : Bool} {w : Option Scalar}
    (h : Coercion.IsElement (FieldType.kind α) nullable w) :
    ∃ b : Option α, convertElement? w = some b ∧ StandsFor b w := by
  rcases h with ⟨-, rfl⟩ | ⟨x, hx, rfl⟩
  · exact ⟨none, rfl, standsFor_none⟩
  · obtain ⟨b, hb, hcompare⟩ := exists_ofScalar? (α := α) hx
    exact ⟨some b, by simp [convertElement?, hb], standsFor_some hcompare⟩

omit [LawfulFieldType α] in
theorem convertElements?_of_ne_null {operand : Datum} (h : operand ≠ .null) :
    convertElements? (α := α) operand = operand.elements.mapM convertElement? := by
  cases operand with
  | null => exact absurd rfl h
  | _ => rfl

theorem ofOptions_ne_null (ws : List (Option Scalar)) : Datum.ofOptions ws ≠ .null := by
  rw [Datum.ofOptions]
  split <;> simp

/-- The elements of an operand are converted one by one, each to a value that stands for it. -/
theorem exists_convertElements? {nullable : Bool} {ws : List (Option Scalar)}
    (h : ∀ w ∈ ws, Coercion.IsElement (FieldType.kind α) nullable w) :
    ∃ bs : List (Option α), convertElements? (.ofOptions ws) = some bs ∧
      List.Forall₂ StandsFor bs ws := by
  rw [convertElements?_of_ne_null (ofOptions_ne_null ws), Datum.elements_ofOptions]
  induction ws with
  | nil => exact ⟨[], rfl, .nil⟩
  | cons w ws ih =>
    obtain ⟨b, hb, hstands⟩ := exists_convertElement? (h w List.mem_cons_self)
    obtain ⟨bs, hbs, hall⟩ := ih fun w hw ↦ h w (List.mem_cons_of_mem _ hw)
    exact ⟨b :: bs, by simp [hb, hbs], .cons hstands hall⟩

/-! ## Tests of a type -/

omit [LawfulFieldType α] in
/-- Lists are the same when their elements are, one by one. -/
theorem sameOptions_iff {as bs : List (Option α)} {ws : List (Option Scalar)}
    (h : List.Forall₂ StandsFor bs ws) :
    sameOptions as bs = true ↔ List.Forall₂ Alike (as.map (Option.map toScalar)) ws := by
  induction h generalizing as with
  | nil => cases as <;> simp [sameOptions]
  | cons hb _ ih => cases as <;> simp [sameOptions, hb _, ih]

theorem sameOption_comm (a b : Option α) : sameOption a b = sameOption b a := by
  cases a <;> cases b <;> simp [sameOption, LawfulFieldType.same_comm]

/-- A value is among some members when it is like one of those they stand for. -/
theorem any_sameOption_iff {v : Option α} {bs : List (Option α)} {ws : List (Option Scalar)}
    (h : List.Forall₂ StandsFor bs ws) :
    bs.any (sameOption · v) = true ↔ ∃ w ∈ ws, Alike (v.map toScalar) w := by
  induction h with
  | nil => simp
  | @cons b w bs ws hb _ ih =>
    have hmember : sameOption b v = true ↔ Alike (v.map toScalar) w := by
      rw [sameOption_comm, hb v]
    simp [hmember, ← ih]

omit [LawfulFieldType α] in
/-- A list contains a value when it contains something like what the value stands for. -/
theorem any_sameOption_const_iff {b : Option α} {w : Option Scalar} (h : StandsFor b w)
    (vs : List (Option α)) :
    vs.any (sameOption · b) = true ↔ ∃ x ∈ vs.map (Option.map toScalar), Alike x w := by
  simp [h _]

/-- The test of values that is made for an operand is the reading. -/
theorem exists_valueTest? {operator : Operator} {operand : Datum} {nullable : Bool}
    (hop : operator ≠ .contains) (h : Operand (FieldType.kind α) nullable
      (decide (operator = .containsOnValue)) operand) :
    ∃ test, valueTest? operator operand = some test ∧
      ∀ v : Option α, test v = true ↔ ValueMatches operator operand (v.map toScalar) := by
  generalize hlist : decide (operator = .containsOnValue) = list at h
  cases h with
  | null =>
    cases operator
    case contains => exact absurd rfl hop
    case containsOnValue => cases hlist
    case equal => exact ⟨_, rfl, fun v ↦ by cases v <;> simp [ValueMatches, Datum.single?, Alike]⟩
    case notEqual =>
      exact ⟨_, rfl, fun v ↦ by cases v <;> simp [ValueMatches, Datum.single?, Alike]⟩
    all_goals exact ⟨_, rfl, fun v ↦ by simp [ValueMatches, Datum.single?]⟩
  | @single w hw =>
    obtain ⟨b, hb, hcompare⟩ := exists_ofScalar? (α := α) hw
    have hconvert : convertSingle? (α := α) (.single w) = some b := by
      simp [convertSingle?, Datum.single?, hb]
    have hordered : ∀ operator : Operator, ∀ v : Option α,
        ((v.bind (FieldType.compare? · b)).any operator.accepts = true ↔
          ∃ x y, v.map toScalar = some x ∧ (Datum.single w).single? = some y ∧
            ∃ o ∈ operator.orderings, x.compare? y = some o) := by
      intro operator v
      cases v with
      | none => simp
      | some a => simp [Datum.single?, hcompare, Option.any_eq_true, Operator.accepts_iff, and_comm]
    cases operator
    case contains => exact absurd rfl hop
    case containsOnValue => cases hlist
    case equal =>
      exact ⟨_, congrArg (Option.map _) hconvert, fun v ↦ standsFor_some hcompare v⟩
    case notEqual =>
      refine ⟨_, congrArg (Option.map _) hconvert, fun v ↦ ?_⟩
      rw [Bool.not_eq_true', ← Bool.not_eq_true]
      exact not_congr (standsFor_some hcompare v)
    all_goals
      exact ⟨_, congrArg (Option.map _) hconvert, fun v ↦ hordered _ v⟩
  | @list ws hws =>
    obtain rfl : operator = .containsOnValue := by simpa using hlist
    obtain ⟨bs, hbs, hall⟩ := exists_convertElements? (α := α) hws
    refine ⟨fun v ↦ bs.any (sameOption · v), ?_, fun v ↦ ?_⟩
    · cases hd : Datum.ofOptions ws with
      | null => exact absurd hd (ofOptions_ne_null ws)
      | _ => rw [hd] at hbs; simp [valueTest?, hbs]
    · rw [any_sameOption_iff hall, ValueMatches, Datum.elements_ofOptions]

/-- The test of lists that is made for an operand is the reading. -/
theorem exists_elementsTest? {operator : Operator} {operand : Datum} {nullable : Bool}
    (hop : operator = .equal ∨ operator = .notEqual ∨ operator = .contains)
    (h : Operand (FieldType.kind α) nullable (decide (operator ≠ .contains)) operand) :
    ∃ test, elementsTest? operator operand = some test ∧
      ∀ vs : List (Option α),
        test vs = true ↔ ListMatches operator operand (vs.map (Option.map toScalar)) := by
  generalize hlist : decide (operator ≠ .contains) = list at h
  cases h with
  | null =>
    obtain rfl : operator = .contains := by simpa using hlist
    refine ⟨_, rfl, fun vs ↦ ?_⟩
    have hnull : ∀ v : Option α, v.isNone = true ↔ Alike (v.map toScalar) none := by
      intro v
      cases v <;> simp [Alike]
    simp [ListMatches, Datum.single?, hnull]
  | @single w hw =>
    obtain rfl : operator = .contains := by simpa using hlist
    obtain ⟨b, hb, hcompare⟩ := exists_ofScalar? (α := α) hw
    have hconvert : convertSingle? (α := α) (.single w) = some b := by
      simp [convertSingle?, Datum.single?, hb]
    refine ⟨_, congrArg (Option.map _) hconvert, fun vs ↦ ?_⟩
    exact any_sameOption_const_iff (standsFor_some hcompare) vs
  | @list ws hws =>
    obtain ⟨bs, hbs, hall⟩ := exists_convertElements? (α := α) hws
    rcases hop with rfl | rfl | rfl
    · refine ⟨_, congrArg (Option.map _) hbs, fun vs ↦ ?_⟩
      rw [sameOptions_iff hall, ListMatches, Datum.elements_ofOptions]
    · refine ⟨_, congrArg (Option.map _) hbs, fun vs ↦ ?_⟩
      rw [Bool.not_eq_true', ← Bool.not_eq_true, sameOptions_iff hall, ListMatches,
        Datum.elements_ofOptions]
    · simp at hlist

end Typed

/-- An operand that admits no null mentions none. -/
theorem mentionsNull_eq_false {k : Kind} {list : Bool} {operand : Datum}
    (h : Operand k false list operand) : mentionsNull operand = false := by
  cases h with
  | null h => cases h
  | single => rfl
  | @list ws hws =>
    have hpresent : ∀ w ∈ ws, w.isNone = false := by
      intro w hw
      rcases hws w hw with ⟨h, -⟩ | ⟨x, -, rfl⟩
      · cases h
      · rfl
    have hnull : (Datum.ofOptions ws).isNull = false := by
      rw [Datum.ofOptions]
      split <;> rfl
    rw [mentionsNull, hnull, Datum.elements_ofOptions, Bool.false_or, List.any_eq_false]
    intro w hw
    simp [hpresent w hw]

end Matching

/-! ## Properties -/

namespace Property

/-- The properties that schemas are made of, with data of some form from the computed ones: fields
of every kind, computed data, data of documents, and all of these in a part of a record. -/
inductive MadeOf (Reads : Shape → Datum → Prop) : {ρ : Type} → Property ρ → Prop
  | scalar {ρ : Type} (k : Kind) (get : ρ → k.Value) : MadeOf Reads (Property.scalar get)
  | nullable {ρ : Type} (k : Kind) (get : ρ → Option k.Value) :
      MadeOf Reads (Property.nullable get)
  | sequence {ρ : Type} (kind : SequenceKind) (k : Kind) (get : ρ → List k.Value) :
      MadeOf Reads (Property.sequence kind get)
  | nullableSequence {ρ : Type} (kind : SequenceKind) (k : Kind)
      (get : ρ → List (Option k.Value)) : MadeOf Reads (Property.nullableSequence kind get)
  | computed {ρ : Type} (shape : Shape) (read : ρ → Datum) (h : ∀ r, Reads shape (read r)) :
      MadeOf Reads (Property.computed shape read)
  | document (path : String) (shape : Shape) :
      MadeOf Reads (Property.computed shape (RecordModel.read path shape))
  | ofPart {ρ σ : Type} (part : ρ → σ) {p : Property σ} (h : MadeOf Reads p) :
      MadeOf Reads (p.ofPart part)

/-- Properties with computed data only in the form of their shape: fields of every kind, such data,
and all of these in a part of a record. -/
inductive Provided : {ρ : Type} → Property ρ → Prop
  | scalar {ρ : Type} (k : Kind) (get : ρ → k.Value) : Provided (Property.scalar get)
  | nullable {ρ : Type} (k : Kind) (get : ρ → Option k.Value) : Provided (Property.nullable get)
  | sequence {ρ : Type} (kind : SequenceKind) (k : Kind) (get : ρ → List k.Value) :
      Provided (Property.sequence kind get)
  | nullableSequence {ρ : Type} (kind : SequenceKind) (k : Kind)
      (get : ρ → List (Option k.Value)) : Provided (Property.nullableSequence kind get)
  | computed {ρ : Type} (shape : Shape) (read : ρ → Datum) (h : ∀ r, shape.Holds (read r)) :
      Provided (Property.computed shape read)
  | ofPart {ρ σ : Type} (part : ρ → σ) {p : Property σ} (h : Provided p) :
      Provided (p.ofPart part)

/-! ### Fields -/

section Fields

variable {ρ : Type} {k : Kind} {operator : Operator} {operand : Datum}

theorem exists_test?_scalar (hk : k.HasDistinctNames) (get : ρ → k.Value)
    (hop : operator ≠ .contains)
    (h : Operand k false (decide (operator = .containsOnValue)) operand) :
    ∃ test, (Property.scalar get).test? operator operand = some test ∧
      ∀ r, test r = true ↔ ValueMatches operator operand (some (toScalar (get r))) := by
  have hlawful := Kind.lawful hk
  have hnull := Matching.mentionsNull_eq_false h
  rw [← Kind.kind_value k] at h
  obtain ⟨test, htest, hmatches⟩ := Matching.exists_valueTest? hop h
  refine ⟨fun r ↦ test (some (get r)), ?_, fun r ↦ hmatches (some (get r))⟩
  simp [Property.scalar, Matching.withoutNull, hnull, htest]

theorem exists_test?_nullable (hk : k.HasDistinctNames) (get : ρ → Option k.Value)
    (hop : operator ≠ .contains)
    (h : Operand k true (decide (operator = .containsOnValue)) operand) :
    ∃ test, (Property.nullable get).test? operator operand = some test ∧
      ∀ r, test r = true ↔ ValueMatches operator operand ((get r).map toScalar) := by
  have hlawful := Kind.lawful hk
  rw [← Kind.kind_value k] at h
  obtain ⟨test, htest, hmatches⟩ := Matching.exists_valueTest? hop h
  exact ⟨fun r ↦ test (get r), congrArg (Option.map _) htest, fun r ↦ hmatches (get r)⟩

theorem exists_test?_sequence (hk : k.HasDistinctNames) (kind : SequenceKind)
    (get : ρ → List k.Value)
    (hop : operator = .equal ∨ operator = .notEqual ∨ operator = .contains)
    (h : Operand k false (decide (operator ≠ .contains)) operand) :
    ∃ test, (Property.sequence kind get).test? operator operand = some test ∧
      ∀ r, test r = true ↔ ListMatches operator operand (((get r).map toScalar).map some) := by
  have hlawful := Kind.lawful hk
  have hnull := Matching.mentionsNull_eq_false h
  rw [← Kind.kind_value k] at h
  obtain ⟨test, htest, hmatches⟩ := Matching.exists_elementsTest? hop h
  refine ⟨fun r ↦ test ((get r).map some), ?_, fun r ↦ ?_⟩
  · simp [Property.sequence, Matching.withoutNull, hnull, htest]
  · rw [hmatches, List.map_map, List.map_map]
    rfl

theorem exists_test?_nullableSequence (hk : k.HasDistinctNames) (kind : SequenceKind)
    (get : ρ → List (Option k.Value))
    (hop : operator = .equal ∨ operator = .notEqual ∨ operator = .contains)
    (h : Operand k true (decide (operator ≠ .contains)) operand) :
    ∃ test, (Property.nullableSequence kind get).test? operator operand = some test ∧
      ∀ r, test r = true ↔ ListMatches operator operand ((get r).map (Option.map toScalar)) := by
  have hlawful := Kind.lawful hk
  rw [← Kind.kind_value k] at h
  obtain ⟨test, htest, hmatches⟩ := Matching.exists_elementsTest? hop h
  exact ⟨fun r ↦ test (get r), congrArg (Option.map _) htest, fun r ↦ hmatches (get r)⟩

end Fields

/-! ### Shapes of fields -/

theorem shape_scalar {ρ : Type} {k : Kind} (get : ρ → k.Value) :
    (Property.scalar get).shape = .scalar k :=
  congrArg _ (Kind.kind_value k)

theorem shape_nullable {ρ : Type} {k : Kind} (get : ρ → Option k.Value) :
    (Property.nullable get).shape = .nullable k :=
  congrArg _ (Kind.kind_value k)

theorem holds_read_nullable {ρ : Type} {k : Kind} (get : ρ → Option k.Value) (r : ρ) :
    (Property.nullable get).shape.Holds ((Property.nullable get).read r) := by
  cases hget : get r <;> simp [Property.nullable, hget, Shape.Holds, Shape.isSequence]

theorem shape_sequence {ρ : Type} {k : Kind} (kind : SequenceKind) (get : ρ → List k.Value) :
    (Property.sequence kind get).shape = .sequence kind k :=
  congrArg _ (Kind.kind_value k)

theorem shape_nullableSequence {ρ : Type} {k : Kind} (kind : SequenceKind)
    (get : ρ → List (Option k.Value)) :
    (Property.nullableSequence kind get).shape = .nullableSequence kind k :=
  congrArg _ (Kind.kind_value k)

theorem isSequence_sequence (kind : SequenceKind) (k : Kind) :
    (Shape.sequence kind k).isSequence = true := by
  cases kind <;> rfl

theorem isSequence_nullableSequence (kind : SequenceKind) (k : Kind) :
    (Shape.nullableSequence kind k).isSequence = true := by
  cases kind <;> rfl

theorem element_sequence (kind : SequenceKind) (k : Kind) :
    (Shape.sequence kind k).element = k := by
  cases kind <;> rfl

theorem element_nullableSequence (kind : SequenceKind) (k : Kind) :
    (Shape.nullableSequence kind k).element = k := by
  cases kind <;> rfl

theorem admitsNull_sequence (kind : SequenceKind) (k : Kind) :
    (Shape.sequence kind k).admitsNull = false := by
  cases kind <;> rfl

theorem admitsNull_nullableSequence (kind : SequenceKind) (k : Kind) :
    (Shape.nullableSequence kind k).admitsNull = true := by
  cases kind <;> rfl

/-! ### All properties -/

/-- The test that a property makes for an operand is the reading, on records whose datum has the
form of the shape. -/
theorem MadeOf.exists_test? {Reads : Shape → Datum → Prop} {ρ : Type} {p : Property ρ}
    (hp : p.MadeOf Reads) (hk : p.shape.element.HasDistinctNames) {operator : Operator}
    {operand : Datum} (hop : p.shape.supports operator = true)
    (h : Operand p.shape.element p.shape.admitsNull (wantsList p.shape operator) operand) :
    ∃ test, p.test? operator operand = some test ∧ ∀ r, p.shape.Holds (p.read r) →
      (test r = true ↔ Matches p.shape operator operand (p.read r)) := by
  induction hp with
  | scalar k get =>
    rw [shape_scalar] at hk hop h ⊢
    rw [wantsList_value rfl] at h
    obtain ⟨test, htest, hmatches⟩ := exists_test?_scalar hk get (Shape.supports_iff.mp hop) h
    exact ⟨test, htest, fun r _ ↦ hmatches r⟩
  | nullable k get =>
    have hread : ∀ r, ((Property.nullable get).read r).single? = (get r).map toScalar := by
      intro r
      cases hget : get r <;> simp [Property.nullable, hget, Datum.single?]
    rw [shape_nullable] at hk hop h ⊢
    rw [wantsList_value rfl] at h
    simp only [Matches, hread]
    obtain ⟨test, htest, hmatches⟩ := exists_test?_nullable hk get (Shape.supports_iff.mp hop) h
    exact ⟨test, htest, fun r _ ↦ hmatches r⟩
  | sequence kind k get =>
    have hs := isSequence_sequence kind k
    rw [shape_sequence] at hk hop h ⊢
    rw [wantsList_sequence hs, element_sequence, admitsNull_sequence] at h
    rw [element_sequence] at hk
    rw [Shape.supports_iff, if_pos hs] at hop
    simp only [Matches, hs, if_true]
    obtain ⟨test, htest, hmatches⟩ := exists_test?_sequence hk kind get hop h
    exact ⟨test, htest, fun r _ ↦ hmatches r⟩
  | nullableSequence kind k get =>
    have hs := isSequence_nullableSequence kind k
    have hread : ∀ r, ((Property.nullableSequence kind get).read r).elements
        = (get r).map (Option.map toScalar) := fun r ↦ Datum.elements_ofOptions _
    rw [shape_nullableSequence] at hk hop h ⊢
    rw [wantsList_sequence hs, element_nullableSequence, admitsNull_nullableSequence] at h
    rw [element_nullableSequence] at hk
    rw [Shape.supports_iff, if_pos hs] at hop
    simp only [Matches, hs, if_true, hread]
    obtain ⟨test, htest, hmatches⟩ := exists_test?_nullableSequence hk kind get hop h
    exact ⟨test, htest, fun r _ ↦ hmatches r⟩
  | computed shape read _ => exact ⟨_, rfl, fun r hr ↦ Matching.satisfies_iff hop h hr⟩
  | document path shape => exact ⟨_, rfl, fun r hr ↦ Matching.satisfies_iff hop h hr⟩
  | ofPart part _ ih =>
    obtain ⟨test, htest, hmatches⟩ := ih hk hop h
    exact ⟨_, congrArg (Option.map _) htest, fun r hr ↦ hmatches (part r) hr⟩

/-- The properties that are computed as data, also those of a part of a record. -/
inductive IsComputed : {ρ : Type} → Property ρ → Prop
  | computed {ρ : Type} (shape : Shape) (read : ρ → Datum) :
      IsComputed (Property.computed shape read)
  | ofPart {ρ σ : Type} (part : ρ → σ) {p : Property σ} (h : IsComputed p) :
      IsComputed (p.ofPart part)

/-- For computed properties it does not matter whether an enumeration repeats a name. -/
theorem IsComputed.exists_test? {ρ : Type} {p : Property ρ} (hp : p.IsComputed)
    {operator : Operator} {operand : Datum} (hop : p.shape.supports operator = true)
    (h : Operand p.shape.element p.shape.admitsNull (wantsList p.shape operator) operand) :
    ∃ test, p.test? operator operand = some test ∧ ∀ r, p.shape.Holds (p.read r) →
      (test r = true ↔ Matches p.shape operator operand (p.read r)) := by
  induction hp with
  | computed shape read => exact ⟨_, rfl, fun r hr ↦ Matching.satisfies_iff hop h hr⟩
  | ofPart part _ ih =>
    obtain ⟨test, htest, hmatches⟩ := ih hop h
    exact ⟨_, congrArg (Option.map _) htest, fun r hr ↦ hmatches (part r) hr⟩

/-- A property with computed data in the form of their shape reads data in the form of its shape,
and is made like all others. -/
theorem Provided.madeOf {ρ : Type} {p : Property ρ} (hp : p.Provided) :
    p.MadeOf Shape.Holds ∧ ∀ r, p.shape.Holds (p.read r) := by
  induction hp with
  | scalar k get => exact ⟨.scalar k get, fun r ↦ rfl⟩
  | nullable k get => exact ⟨.nullable k get, holds_read_nullable get⟩
  | sequence kind k get =>
    exact ⟨.sequence kind k get, fun r ↦ isSequence_sequence kind _⟩
  | nullableSequence kind k get =>
    exact ⟨.nullableSequence kind k get,
      fun r ↦ Shape.holds_ofOptions (isSequence_nullableSequence kind _) _⟩
  | computed shape read h => exact ⟨.computed shape read h, h⟩
  | ofPart part _ ih => exact ⟨.ofPart part ih.1, fun r ↦ ih.2 (part r)⟩

/-- The test that a property makes for an operand is the reading. -/
theorem Provided.exists_test? {ρ : Type} {p : Property ρ} (hp : p.Provided)
    (hk : p.shape.element.HasDistinctNames) {operator : Operator} {operand : Datum}
    (hop : p.shape.supports operator = true)
    (h : Operand p.shape.element p.shape.admitsNull (wantsList p.shape operator) operand) :
    ∃ test, p.test? operator operand = some test ∧
      ∀ r, test r = true ↔ Matches p.shape operator operand (p.read r) := by
  obtain ⟨hmade, hholds⟩ := hp.madeOf
  obtain ⟨test, htest, hmatches⟩ := hmade.exists_test? hk hop h
  exact ⟨test, htest, fun r ↦ hmatches r (hholds r)⟩

theorem test_eq_ok {ρ : Type} {p : Property ρ} {operator : Operator} {operand : Datum}
    {test : ρ → Bool} (path : String) (hop : p.shape.supports operator = true)
    (h : p.test? operator operand = some test) : p.test path operator operand = .ok test := by
  rw [Property.test, ensureSupported, if_pos hop, h]
  rfl

/-- Properties of all kinds compute one comparison.  For an operator that is supported and an
operand that was coerced for it there is a test, and it accepts the records whose datum satisfies
operator and operand; so does the test of any other property of the shape, whatever its records
are, and the two agree where the same datum is read. -/
theorem Provided.test_iff_matches {ρ : Type} {p : Property ρ} (hp : p.Provided)
    (hk : p.shape.element.HasDistinctNames) {path : String} {raw : Raw} {operator : Operator}
    {operand : Datum} (hop : p.shape.supports operator = true)
    (hoperand : Coercion.coerce path raw p.shape operator = .ok operand) :
    ∃ test, p.test path operator operand = .ok test ∧
      (∀ r, test r = true ↔ Matches p.shape operator operand (p.read r)) ∧
      ∀ {σ : Type} {q : Property σ}, q.Provided → q.shape = p.shape →
        ∃ test', q.test path operator operand = .ok test' ∧
          ∀ r t, p.read r = q.read t → test r = test' t := by
  have h := operand_of_coerce hop hoperand
  obtain ⟨test, htest, hmatches⟩ := hp.exists_test? hk hop h
  refine ⟨test, test_eq_ok path hop htest, hmatches, ?_⟩
  intro σ q hq hshape
  rw [← hshape] at hk hop h
  obtain ⟨test', htest', hmatches'⟩ := hq.exists_test? hk hop h
  refine ⟨test', test_eq_ok path hop htest', fun r t hread ↦ ?_⟩
  rw [Bool.eq_iff_iff, hmatches, hmatches', hshape, hread]

/-- The members null and 5, asked for in a list of a record that is a number or null. -/
theorem Provided.test_iff_matches_nullable :
    ∃ test, (Property.nullable fun r : Option Int32 ↦ r).test "n" .containsOnValue
        (.optional [none, some (.int 5)]) = .ok test ∧
      ∀ r, test r = true ↔ Matches (.nullable .int32) .containsOnValue
        (.optional [none, some (.int 5)])
        ((Property.nullable fun r : Option Int32 ↦ r).read r) := by
  have hp : (Property.nullable fun r : Option Int32 ↦ r).Provided := .nullable .int32 fun r ↦ r
  have hoperand : Coercion.coerce "n" (.list [.null, .number "5"])
      (Property.nullable fun r : Option Int32 ↦ r).shape .containsOnValue
        = .ok (.optional [none, some (.int 5)]) := rfl
  obtain ⟨test, htest, hmatches, -⟩ := hp.test_iff_matches trivial rfl hoperand
  exact ⟨test, htest, hmatches⟩

end Property

end RecordFilter
