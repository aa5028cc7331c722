import RecordFilter.Proofs.Compile.Attribution
import RecordFilter.Proofs.Compile.Interpreting
import RecordFilter.Proofs.Model.Queryable
import RecordFilter.Proofs.Query.Joining
import RecordFilter.Proofs.Schema.Reference

/-!
# Documents without a value

A property of a document that is missing, or that does not convert, reads as
null, which equals nothing but null.  Sequences are compared by their elements,
however, and null has none: there it equals the empty list too
(`Matching.satisfies_null_of_isSequence`).  This is the one comparison with a
value that a document without the value can pass.
-/

namespace RecordFilter

/-! ## Null as a datum -/

namespace Matching

theorem sameElements_nil_left (es : List (Option Scalar)) : sameElements [] es = es.isEmpty := by
  cases es <;> rfl

theorem any_sameElement_none (es : List (Option Scalar)) :
    es.any (sameElement none ·) = es.any Option.isNone := by
  have hnone : sameElement none = Option.isNone := by
    funext e
    cases e <;> rfl
  rw [hnone]

/-- Among sequences, null has no element and is equal to what has none. -/
theorem satisfies_null_of_isSequence {shape : Shape} (hs : shape.isSequence = true)
    {operator : Operator} (hop : shape.supports operator = true) (operand : Datum) :
    satisfies shape operator operand .null = true ↔
      (operator = .equal ∧ operand.elements = []) ∨
        (operator = .notEqual ∧ operand.elements ≠ []) := by
  rw [Shape.supports_iff, if_pos hs] at hop
  rw [satisfies, if_pos hs]
  rcases hop with rfl | rfl | rfl <;> simp [listSatisfies, sameElements_nil_left]

/-- Among single values, null is equal to null only, and comes before and after nothing. -/
theorem satisfies_null_of_not_isSequence {shape : Shape} (hs : shape.isSequence = false)
    {operator : Operator} (hop : shape.supports operator = true) (operand : Datum) :
    satisfies shape operator operand .null = true ↔
      (operator = .equal ∧ operand = .null) ∨ (operator = .notEqual ∧ operand ≠ .null) ∨
        (operator = .containsOnValue ∧ none ∈ operand.elements) := by
  rw [Shape.supports_iff, hs, if_neg Bool.false_ne_true] at hop
  have hnull : sameSingle .null operand = true ↔ operand = .null := by
    cases operand <;> simp [sameSingle]
  rw [satisfies, hs, if_neg Bool.false_ne_true]
  cases operator <;>
    simp_all [singleSatisfies, any_sameElement_none, Datum.single?, ← Bool.not_eq_true]

end Matching

/-! ## Comparisons that compile -/

namespace Schema

variable {ρ : Type} {s : Schema ρ}

/-- A comparison that can be lowered is the test of a property that supports its operator. -/
theorem exists_of_lower_compare {k : Comparison} {c : Compiled ρ}
    (h : s.lower (.compare k) = .ok c) :
    ∃ found test, s.resolve true k.path = .ok found ∧
      found.property.shape.supports k.operator = true ∧
      found.property.test? k.operator k.operand = some test ∧ ∀ r, c.accepts r = test r := by
  obtain ⟨test, htest⟩ := exists_lower_eq_ok_iff.mp ⟨c, h⟩ _ (List.mem_singleton_self _)
  have haccepts : ∀ r, c.accepts r = test r := fun r ↦
    ((lower_eq_ok h).2 r).trans (atomHolds_of_atomTest htest r)
  obtain ⟨found, hfound, htest⟩ := bind_eq_ok_iff.mp htest
  obtain ⟨⟨⟩, hop, htest⟩ := bind_eq_ok_iff.mp htest
  refine ⟨found, test, hfound, ensureSupported_eq_ok_iff.mp hop, ?_, haccepts⟩
  cases hsome : found.property.test? k.operator k.operand with
  | none =>
    rw [hsome] at htest
    cases htest
  | some test' =>
    rw [hsome] at htest
    cases htest
    rfl

end Schema

/-! ## Documents -/

namespace RecordModel

variable {m : RecordModel} {s : Schema Json}

/-- The properties of a model are compared as data. -/
theorem exists_computed_of_resolve (hs : m.schema = .ok s) {caseSensitive : Bool} {path : String}
    {found : Resolved Json} (h : s.resolve caseSensitive path = .ok found) :
    ∃ shape read, found.property = .computed shape read := by
  have hget : s.get? found.path = some found.property :=
    Table.get?_of_mem (Schema.mem_entries_of_resolve h)
  have hrel := rel_get?_schema hs found.path
  rw [hget] at hrel
  generalize m.registered.get? found.path = declared at hrel
  cases hrel with
  | some hregistered =>
    obtain ⟨shape, -, hproperty⟩ := hregistered
    exact ⟨shape, _, hproperty⟩

/-- Null equals no value, in a sequence no value but the empty list.  Every comparison of a filter
compiles on its own.  Where its property reads as null and its operand has no null, it accepts the
document if it is the equality of a sequence with the empty list, and in no other case; and an
inequality with an operand that is not null accepts the document in all cases but this one. -/
theorem accepts_iff_of_read_eq_null (hs : m.schema = .ok s) :
    (∀ o ds c, s.compile o ds = .ok c → ∀ k ∈ c.expression.comparisons,
      ∃ alone, s.lower (.compare k) = .ok alone) ∧
    ∀ (k : Comparison) (c : Compiled Json), s.lower (.compare k) = .ok c →
      ∃ found, s.resolve true k.path = .ok found ∧
        ∀ document, found.property.read document = .null → k.operand ≠ .null →
          (k.operator ≠ .notEqual → none ∉ k.operand.elements →
            (c.accepts document = true ↔ found.property.shape.isSequence = true ∧
              k.operator = .equal ∧ k.operand.elements = [])) ∧
          (k.operator = .notEqual → (c.accepts document = false ↔
            found.property.shape.isSequence = true ∧ k.operand.elements = [])) := by
  constructor
  · intro o ds c hc k hk
    exact Schema.exists_lower_compare (Schema.lower_expression hc) hk
  · intro k c hc
    obtain ⟨⟨path, p⟩, test, hfound, hop, htest, haccepts⟩ := Schema.exists_of_lower_compare hc
    obtain ⟨shape, read, rfl⟩ := exists_computed_of_resolve hs hfound
    cases htest
    refine ⟨_, hfound, fun document hread hoperand ↦ ?_⟩
    have hnull : c.accepts document = Matching.satisfies shape k.operator k.operand .null :=
      (haccepts document).trans (congrArg (Matching.satisfies shape k.operator k.operand) hread)
    rw [hnull, ← Bool.not_eq_true, Property.shape_computed]
    cases hsequence : shape.isSequence with
    | true =>
      rw [Matching.satisfies_null_of_isSequence hsequence hop]
      constructor
      · intro hne _
        simp [hne]
      · rintro heq
        simp [heq]
    | false =>
      rw [Matching.satisfies_null_of_not_isSequence hsequence hop]
      constructor
      · intro hne hnone
        simp [hne, hnone, hoperand]
      · rintro heq
        simp [heq, hoperand]

/-- A model of documents with tags. -/
def tagged : RecordModel where
  name := "M"
  properties := ⟨[("tags", ⟨"text", .collection⟩)], by decide⟩

/-- The condition on the tags with an operator and a list of texts. -/
def tagsCondition (operator : Operator) (texts : List String) : List Descriptor :=
  [{ isEqual "tags" (by decide) (.list (texts.map .text)) with operator }]

/-- The comparison of the tags with the list of one text. -/
def tagsIs (operator : Operator) : Comparison :=
  ⟨"tags", operator, .collection .text, .many [.text "x"]⟩

theorem accepts_iff_of_read_eq_null_tagged :
    ∃ s c c', tagged.schema = .ok s ∧
      s.compile {} (tagsCondition .equal ["x"]) = .ok c ∧ c.accepts (.object []) = false ∧
      s.compile {} (tagsCondition .notEqual ["x"]) = .ok c' ∧ c'.accepts (.object []) = true := by
  refine ⟨_, _, _, rfl, rfl, ?_, rfl, ?_⟩
  · obtain ⟨found, hfound, hnull⟩ :=
      (accepts_iff_of_read_eq_null (m := tagged) rfl).2 (tagsIs .equal) _ rfl
    cases hfound
    obtain ⟨hequal, -⟩ := hnull (.object []) rfl (by simp [tagsIs])
    have hiff := hequal (by simp [tagsIs]) (by simp [tagsIs])
    rw [← Bool.not_eq_true]
    exact fun haccepts ↦ by simpa [tagsIs] using hiff.mp haccepts
  · obtain ⟨found, hfound, hnull⟩ :=
      (accepts_iff_of_read_eq_null (m := tagged) rfl).2 (tagsIs .notEqual) _ rfl
    cases hfound
    obtain ⟨-, hnotEqual⟩ := hnull (.object []) rfl (by simp [tagsIs])
    have hiff := hnotEqual rfl
    rw [← Bool.not_eq_false]
    exact fun haccepts ↦ by simpa [tagsIs] using hiff.mp haccepts

/-- A document without tags has no tags: it has the empty list of tags, and not another one. -/
theorem missing_equals_empty_list :
    ∃ s found c c', tagged.schema = .ok s ∧ s.resolve false "tags" = .ok found ∧
      found.property.read (.object []) = .null ∧
      s.compile {} (tagsCondition .equal []) = .ok c ∧ c.accepts (.object []) = true ∧
      s.compile {} (tagsCondition .notEqual []) = .ok c' ∧ c'.accepts (.object []) = false :=
  ⟨_, _, _, _, rfl, rfl, rfl, rfl, rfl, rfl, rfl⟩

end RecordModel

end RecordFilter
