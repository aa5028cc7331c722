import Mathlib.Data.List.Forall2
import RecordFilter.Diagnostic.Error

/-!
# Lists of errors and their leaves

An error that holds others is a tree, and the single errors in it are its
leaves.  A leaf stands at a place: the numbers of the members that lead to it
from the outside in.  From left to right is the lexicographic order of places,
so what `flatten` lists can be compared with the leaves without a second
function that lists them (`FilterError.ListsLeaves`).

Code, clause and diagnostic of a list of errors are looked up in its first
member, each by a function of its own.  As long as no list is empty, all of them
end at the first leaf.
-/

namespace RecordFilter

namespace FilterError

/-- Whether an error is no list of errors. -/
def isSingle : FilterError → Bool
  | multiple _ => false
  | _ => true

/-- Whether no list in an error is empty, however deep it lies. -/
inductive IsFilled : FilterError → Prop
  | single {e : FilterError} (h : e.isSingle = true) : IsFilled e
  | multiple {errors : List FilterError} (hne : errors ≠ []) (h : ∀ e ∈ errors, IsFilled e) :
      IsFilled (.multiple errors)

/-- Whether a single error stands at a place in an error. -/
inductive LeafAt : FilterError → List Nat → FilterError → Prop
  | here {e : FilterError} (h : e.isSingle = true) : LeafAt e [] e
  | member {errors : List FilterError} {i : Nat} {e leaf : FilterError} {place : List Nat}
      (hi : errors[i]? = some e) (h : LeafAt e place leaf) :
      LeafAt (.multiple errors) (i :: place) leaf

/-- Whether a list has the leaves of an error from left to right, each of them once. -/
def ListsLeaves (e : FilterError) (leaves : List FilterError) : Prop :=
  ∃ places : List (List Nat), places.Pairwise (· < ·) ∧
    (∀ place, place ∈ places ↔ ∃ leaf, e.LeafAt place leaf) ∧ List.Forall₂ e.LeafAt places leaves

/-- Errors are made of single errors and of lists of errors. -/
@[elab_as_elim]
theorem singleMultipleInduction {motive : FilterError → Prop}
    (single : ∀ e : FilterError, e.isSingle = true → motive e)
    (multiple : ∀ errors, (∀ e ∈ errors, motive e) → motive (.multiple errors)) :
    ∀ e, motive e
  | .multiple errors => multiple errors fun e _ ↦ singleMultipleInduction single multiple e
  | .malformed .. => single _ rfl
  | .propertyNotFound .. => single _ rfl
  | .coercion .. => single _ rfl
  | .unsupported .. => single _ rfl
  | .invalidDescriptor _ => single _ rfl

/-! ## What is listed -/

theorem flatten_of_isSingle {e : FilterError} (h : e.isSingle = true) : e.flatten = [e] := by
  cases e with
  | multiple errors => cases h
  | _ => rw [flatten]; rintro _ ⟨⟩

theorem flattenAll_eq_flatMap (errors : List FilterError) :
    flattenAll errors = errors.flatMap flatten := by
  induction errors with
  | nil => rw [flattenAll, List.flatMap_nil]
  | cons e errors ih => rw [flattenAll, ih, List.flatMap_cons]

theorem flatten_multiple (errors : List FilterError) :
    (multiple errors).flatten = errors.flatMap flatten := by
  rw [flatten, flattenAll_eq_flatMap]

theorem isSingle_of_mem_flatten (e : FilterError) : ∀ leaf ∈ e.flatten, leaf.isSingle = true := by
  induction e using singleMultipleInduction with
  | single e h =>
    rw [flatten_of_isSingle h]
    exact List.forall_mem_singleton.mpr h
  | multiple errors ih =>
    intro leaf hleaf
    rw [flatten_multiple] at hleaf
    obtain ⟨e, he, hleaf⟩ := List.mem_flatMap.mp hleaf
    exact ih e he leaf hleaf

/-! ## Places -/

/-- The leaves of some errors, as those of a list whose members are numbered from a number on. -/
def LeafFrom (first : Nat) (errors : List FilterError) (place : List Nat) (leaf : FilterError) :
    Prop :=
  ∃ i rest e, place = (first + i) :: rest ∧ errors[i]? = some e ∧ e.LeafAt rest leaf

theorem leafFrom_zero_iff {errors : List FilterError} {place : List Nat} {leaf : FilterError} :
    LeafFrom 0 errors place leaf ↔ (multiple errors).LeafAt place leaf := by
  constructor
  · rintro ⟨i, rest, e, rfl, hi, h⟩
    rw [Nat.zero_add]
    exact .member hi h
  · intro h
    cases h with
    | here h => cases h
    | @member _ i e _ rest hi h => exact ⟨i, rest, e, by rw [Nat.zero_add], hi, h⟩

theorem leafFrom_cons_iff {first : Nat} {e : FilterError} {errors : List FilterError}
    {place : List Nat} {leaf : FilterError} :
    LeafFrom first (e :: errors) place leaf ↔
      (∃ rest, place = first :: rest ∧ e.LeafAt rest leaf) ∨
        LeafFrom (first + 1) errors place leaf := by
  constructor
  · rintro ⟨i, rest, e', rfl, hi, h⟩
    cases i with
    | zero =>
      obtain rfl : e = e' := Option.some_inj.mp hi
      exact .inl ⟨rest, rfl, h⟩
    | succ i => exact .inr ⟨i, rest, e', by rw [Nat.add_right_comm, Nat.add_assoc], hi, h⟩
  · rintro (⟨rest, rfl, h⟩ | ⟨i, rest, e', rfl, hi, h⟩)
    · exact ⟨0, rest, e, rfl, rfl, h⟩
    · exact ⟨i + 1, rest, e', by rw [Nat.add_right_comm, Nat.add_assoc], hi, h⟩

/-- The leaves of the first member stand before those of the others. -/
theorem exists_placesFrom {errors : List FilterError}
    (h : ∀ e ∈ errors, e.ListsLeaves e.flatten) (first : Nat) :
    ∃ places : List (List Nat), places.Pairwise (· < ·) ∧
      (∀ place, place ∈ places ↔ ∃ leaf, LeafFrom first errors place leaf) ∧
      List.Forall₂ (LeafFrom first errors) places (errors.flatMap flatten) := by
  induction errors generalizing first with
  | nil =>
    refine ⟨[], .nil, fun place ↦ ⟨fun h ↦ (List.not_mem_nil h).elim, ?_⟩, .nil⟩
    rintro ⟨leaf, i, rest, e, -, hi, -⟩
    cases hi
  | cons e errors ih =>
    obtain ⟨he, herrors⟩ := List.forall_mem_cons.mp h
    obtain ⟨inner, hinner, hinnerAll, hinnerLeaves⟩ := he
    obtain ⟨outer, houter, houterAll, houterLeaves⟩ := ih herrors (first + 1)
    refine ⟨inner.map (first :: ·) ++ outer, ?_, fun place ↦ ?_, ?_⟩
    · refine List.pairwise_append.mpr ⟨?_, houter, ?_⟩
      · rw [List.pairwise_map]
        exact hinner.imp fun hlt ↦ List.cons_lt_cons_iff.mpr (.inr ⟨rfl, hlt⟩)
      · intro place hplace place' hplace'
        obtain ⟨rest, -, rfl⟩ := List.mem_map.mp hplace
        obtain ⟨leaf, i, rest', e', rfl, -, -⟩ := (houterAll place').mp hplace'
        exact List.cons_lt_cons_iff.mpr (.inl (by omega))
    · simp only [List.mem_append, List.mem_map, hinnerAll, houterAll, leafFrom_cons_iff,
        exists_or]
      refine or_congr ⟨?_, ?_⟩ Iff.rfl
      · rintro ⟨rest, ⟨leaf, hleaf⟩, rfl⟩
        exact ⟨leaf, rest, rfl, hleaf⟩
      · rintro ⟨leaf, rest, rfl, hleaf⟩
        exact ⟨rest, ⟨leaf, hleaf⟩, rfl⟩
    · rw [List.flatMap_cons]
      refine List.rel_append ?_ ?_
      · rw [List.forall₂_map_left_iff]
        exact hinnerLeaves.imp fun rest leaf hleaf ↦
          leafFrom_cons_iff.mpr (.inl ⟨rest, rfl, hleaf⟩)
      · exact houterLeaves.imp fun place leaf hleaf ↦ leafFrom_cons_iff.mpr (.inr hleaf)

/-- The leaves are listed from left to right. -/
theorem listsLeaves_flatten (e : FilterError) : e.ListsLeaves e.flatten := by
  induction e using singleMultipleInduction with
  | single e h =>
    rw [flatten_of_isSingle h]
    refine ⟨[[]], List.pairwise_singleton _ _, fun place ↦ ?_, .cons (.here h) .nil⟩
    rw [List.mem_singleton]
    constructor
    · rintro rfl
      exact ⟨e, .here h⟩
    · rintro ⟨leaf, hleaf⟩
      cases hleaf with
      | here _ => rfl
      | member _ _ => cases h
  | multiple errors ih =>
    obtain ⟨places, hordered, hall, hleaves⟩ := exists_placesFrom ih 0
    rw [flatten_multiple]
    refine ⟨places, hordered, fun place ↦ ?_, hleaves.imp fun place leaf ↦ leafFrom_zero_iff.mp⟩
    simp only [hall, leafFrom_zero_iff]

/-! ## The first leaf -/

/-- Whether an error is summed up by another: it has the code, the clause and the diagnostic of
it. -/
structure IsSummedUpBy (e leaf : FilterError) : Prop where
  code : e.code = leaf.code
  clause? : e.clause? = leaf.clause?
  toDiagnostic : e.toDiagnostic = leaf.toDiagnostic

/-- A list of errors is summed up by what sums up its first member. -/
theorem IsSummedUpBy.multiple {e leaf : FilterError} (h : e.IsSummedUpBy leaf)
    (errors : List FilterError) : (multiple (e :: errors)).IsSummedUpBy leaf where
  code := h.code
  clause? := h.clause?
  toDiagnostic := by rw [FilterError.toDiagnostic, h.toDiagnostic]

/-- Without empty lists there is a first leaf, and it sums up the error. -/
theorem IsFilled.exists_flatten_eq_cons {e : FilterError} (h : e.IsFilled) :
    ∃ first rest, e.flatten = first :: rest ∧ e.IsSummedUpBy first := by
  induction h with
  | @single e h => exact ⟨e, [], flatten_of_isSingle h, rfl, rfl, rfl⟩
  | @multiple errors hne _ ih =>
    obtain ⟨e, errors, rfl⟩ := List.exists_cons_of_ne_nil hne
    obtain ⟨first, rest, hflatten, hfirst⟩ := ih e List.mem_cons_self
    refine ⟨first, rest ++ errors.flatMap flatten, ?_, hfirst.multiple errors⟩
    rw [flatten_multiple, List.flatMap_cons, hflatten, List.cons_append]

/-- Listing the single errors agrees with the summary.  Of an error without empty lists the list is
not empty; it has single errors only, the leaves of the error from left to right and each of them
once; and the error has the code, the clause and the diagnostic of the first one.  The list of
several errors is put together from the lists of each. -/
theorem flatten_summary {e : FilterError} (h : e.IsFilled) :
    e.flatten ≠ [] ∧ (∀ leaf ∈ e.flatten, leaf.isSingle = true) ∧ e.ListsLeaves e.flatten ∧
      (∀ first, e.flatten.head? = some first → e.IsSummedUpBy first) ∧
      ∀ errors, (multiple errors).flatten = errors.flatMap flatten := by
  obtain ⟨first, rest, hflatten, hfirst⟩ := h.exists_flatten_eq_cons
  refine ⟨?_, isSingle_of_mem_flatten e, listsLeaves_flatten e, ?_, flatten_multiple⟩
  · rw [hflatten]
    exact List.cons_ne_nil first rest
  · intro first' hhead
    rw [hflatten, List.head?_cons, Option.some_inj] at hhead
    exact hhead ▸ hfirst

/-- A list whose first member is a list, in which the first leaf is the only one with a clause. -/
def nested : FilterError :=
  .multiple [.multiple [.multiple [.unsupported "LessThan" "Text[]" "tags" (some 2)],
    .invalidDescriptor "no value"], .propertyNotFound "Sample" "nmae" "nmae" none]

theorem isFilled_nested : nested.IsFilled := by
  have hsingle : ∀ errors : List FilterError, errors.all isSingle = true → ∀ e ∈ errors,
      e.IsFilled := fun errors h e he ↦ .single (List.all_eq_true.mp h e he)
  refine .multiple (by simp) (List.forall_mem_cons.mpr ⟨.multiple (by simp) ?_, hsingle _ rfl⟩)
  exact List.forall_mem_cons.mpr ⟨.multiple (by simp) (hsingle _ rfl), hsingle _ rfl⟩

theorem flatten_summary_nested :
    nested.IsFilled ∧ nested.flatten.map (·.clause?) = [some 2, none, none] ∧
      nested.code = .unsupportedOperator ∧ nested.clause? = some 2 := by
  have hhead : nested.flatten.head? = some (.unsupported "LessThan" "Text[]" "tags" (some 2)) := by
    simp [nested, flatten, flattenAll]
  obtain ⟨-, -, -, hfirst, hmultiple⟩ := flatten_summary isFilled_nested
  have hsummary := hfirst _ hhead
  refine ⟨isFilled_nested, ?_, hsummary.code, hsummary.clause?⟩
  rw [nested, hmultiple]
  simp [flatten, flattenAll, clause?]

end FilterError

end RecordFilter
