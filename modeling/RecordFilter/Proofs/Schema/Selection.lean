import Mathlib.Algebra.Order.Floor.Div
import RecordFilter.Proofs.Schema.Ordering
import RecordFilter.Proofs.Schema.Registrations

/-!
# Selections filter, order and page without loss

Each criterion on a registered property orders records in full, in either
direction, and so does any list of criteria, the first of which comes first.
Sorting by them is therefore well defined: it rearranges the records that pass,
none of which comes to stand before one that it exceeds, and leaves records that
no criterion tells apart in their order.  Pages are pieces of that one list, so
that pages of separate runs fit together.
-/

namespace RecordFilter

namespace Criterion

variable {ρ : Type}

/-! ## Criteria order records in full -/

/-- The criteria on the properties of a schema, by a path in any case and in either direction,
unless the property is of floating-point numbers. Computed data has to be of the kind it claims. -/
inductive IsRegistered : Criterion ρ → Prop
  | byPath {s : Schema ρ} {path : String} {direction : Direction} {found : Resolved ρ}
      {c : Criterion ρ} (hfound : s.resolve false path = .ok found)
      (hmade : found.property.MadeOf Shape.Covers)
      (h32 : found.property.shape.element ≠ .float32)
      (h64 : found.property.shape.element ≠ .float64)
      (hc : Criterion.byPath s path direction = .ok c) : IsRegistered c

/-- A direction turns an order around or leaves it. -/
theorem transCmp_apply {cmp : ρ → ρ → Ordering} [Std.TransCmp cmp] (direction : Direction) :
    Std.TransCmp fun a b ↦ direction.apply (cmp a b) := by
  cases direction with
  | ascending => assumption
  | descending =>
    have hswap : (fun a b ↦ Direction.descending.apply (cmp a b)) = fun a b ↦ cmp b a := by
      funext a b
      exact Std.OrientedCmp.eq_swap.symm
    rw [hswap]
    infer_instance

theorem IsRegistered.transCmp {c : Criterion ρ} (h : c.IsRegistered) : Std.TransCmp c.compare := by
  obtain @⟨s, path, direction, found, _, hfound, hmade, h32, h64, hc⟩ := h
  rw [Criterion.byPath, hfound] at hc
  obtain rfl : byProperty found.property direction = c := Except.ok.inj hc
  have horder := hmade.transCmp_order (Kind.carrier_ne_float h32 h64)
  show Std.TransCmp fun a b ↦
    direction.apply ((found.property.read a).order (found.property.read b))
  apply transCmp_apply

/-- Criteria that order records in full do so together. -/
theorem transCmp_compareAll {cs : List (Criterion ρ)}
    (h : ∀ c ∈ cs, Std.TransCmp c.compare) : Std.TransCmp (compareAll cs) := by
  induction cs with
  | nil => exact { eq_swap := rfl, isLE_trans := fun _ _ ↦ rfl }
  | cons c cs ih =>
    have hc := h c List.mem_cons_self
    have hcs := ih fun c' hc' ↦ h c' (List.mem_cons_of_mem _ hc')
    show Std.TransCmp (compareLex c.compare (compareAll cs))
    infer_instance

/-! ## The order they give -/

/-- Whether a record comes after another: the first criterion that tells them apart has it greater,
or less if its direction is descending. -/
inductive Exceeds : List (Criterion ρ) → ρ → ρ → Prop
  | ascending {c : Criterion ρ} {cs : List (Criterion ρ)} {a b : ρ}
      (hc : c.direction = .ascending) (h : c.ascending a b = .gt) : Exceeds (c :: cs) a b
  | descending {c : Criterion ρ} {cs : List (Criterion ρ)} {a b : ρ}
      (hc : c.direction = .descending) (h : c.ascending a b = .lt) : Exceeds (c :: cs) a b
  | next {c : Criterion ρ} {cs : List (Criterion ρ)} {a b : ρ}
      (hc : c.ascending a b = .eq) (h : Exceeds cs a b) : Exceeds (c :: cs) a b

/-- Whether no criterion tells two records apart. -/
def Tied (cs : List (Criterion ρ)) (a b : ρ) : Prop := ∀ c ∈ cs, c.ascending a b = .eq

instance (cs : List (Criterion ρ)) (a b : ρ) : Decidable (Tied cs a b) :=
  inferInstanceAs (Decidable (∀ c ∈ cs, c.ascending a b = .eq))

theorem compare_eq_eq_iff {c : Criterion ρ} {a b : ρ} :
    c.compare a b = .eq ↔ c.ascending a b = .eq := by
  rw [Criterion.compare]
  cases c.direction with
  | ascending => rfl
  | descending => exact Ordering.swap_eq_eq

theorem compare_eq_gt_iff {c : Criterion ρ} {a b : ρ} :
    c.compare a b = .gt ↔ (c.direction = .ascending ∧ c.ascending a b = .gt) ∨
      (c.direction = .descending ∧ c.ascending a b = .lt) := by
  rw [Criterion.compare]
  cases c.direction with
  | ascending => simp [Direction.apply]
  | descending => simp [Direction.apply]

theorem compareAll_eq_gt_iff {cs : List (Criterion ρ)} {a b : ρ} :
    compareAll cs a b = .gt ↔ Exceeds cs a b := by
  induction cs with
  | nil =>
    constructor
    · intro h
      cases h
    · intro h
      cases h
  | cons c cs ih =>
    rw [compareAll, Ordering.then_eq_gt, compare_eq_gt_iff, compare_eq_eq_iff, ih]
    constructor
    · rintro ((⟨hc, h⟩ | ⟨hc, h⟩) | ⟨hc, h⟩)
      · exact .ascending hc h
      · exact .descending hc h
      · exact .next hc h
    · intro h
      cases h with
      | ascending hc h => exact .inl (.inl ⟨hc, h⟩)
      | descending hc h => exact .inl (.inr ⟨hc, h⟩)
      | next hc h => exact .inr ⟨hc, h⟩

theorem compareAll_eq_eq_iff {cs : List (Criterion ρ)} {a b : ρ} :
    compareAll cs a b = .eq ↔ Tied cs a b := by
  induction cs with
  | nil => exact ⟨fun _ c hc ↦ absurd hc List.not_mem_nil, fun _ ↦ rfl⟩
  | cons c cs ih =>
    rw [compareAll, Ordering.then_eq_eq, compare_eq_eq_iff, ih, Tied, Tied, List.forall_mem_cons]

end Criterion

/-! ## Sorting by an order -/

section Sorting

variable {ρ : Type} (cmp : ρ → ρ → Ordering) [Std.TransCmp cmp]

theorem isLE_trans (a b c : ρ) (hab : (cmp a b).isLE = true) (hbc : (cmp b c).isLE = true) :
    (cmp a c).isLE = true :=
  Std.TransCmp.isLE_trans hab hbc

theorem isLE_or_isLE (a b : ρ) : ((cmp a b).isLE || (cmp b a).isLE) = true := by
  have hswap : cmp b a = (cmp a b).swap := Std.OrientedCmp.eq_swap
  rw [hswap]
  cases cmp a b <;> rfl

/-- In a sorted list no record is greater than a later one. -/
theorem pairwise_mergeSort_isLE (records : List ρ) :
    (records.mergeSort fun a b ↦ (cmp a b).isLE).Pairwise fun a b ↦ cmp a b ≠ .gt := by
  apply (List.pairwise_mergeSort (isLE_trans cmp) (isLE_or_isLE cmp) records).imp
  intro a b hab hgt
  rw [hgt] at hab
  cases hab

/-- Sorting leaves the records that compare as equal to any given one in their order. -/
theorem filter_mergeSort_isLE (a : ρ) (records : List ρ) :
    (records.mergeSort fun x y ↦ (cmp x y).isLE).filter (fun b ↦ cmp a b = .eq)
      = records.filter fun b ↦ cmp a b = .eq := by
  have hties : (records.filter fun b ↦ cmp a b = .eq).Pairwise
      fun x y ↦ (cmp x y).isLE = true := by
    apply List.pairwise_of_forall_mem_list
    intro x hx y hy
    have hax : cmp a x = .eq := of_decide_eq_true (List.mem_filter.mp hx).2
    have hay : cmp a y = .eq := of_decide_eq_true (List.mem_filter.mp hy).2
    rw [Std.TransCmp.eq_trans (Std.OrientedCmp.eq_symm hax) hay]
    rfl
  -- ties are sorted as they stand, so they are a sublist of the sorted list as well
  have hsublist := (List.sublist_mergeSort (isLE_trans cmp) (isLE_or_isLE cmp) hties
    List.filter_sublist).filter fun b ↦ cmp a b = .eq
  simp only [List.filter_filter, Bool.and_self] at hsublist
  have hperm := (List.mergeSort_perm records fun x y ↦ (cmp x y).isLE).filter
    fun b ↦ cmp a b = .eq
  exact (hsublist.eq_of_length hperm.length_eq.symm).symm

end Sorting

/-! ## Pages of a list -/

/-- The first pages of a list, one after the other, are the front of the list. -/
theorem flatMap_pages {ρ : Type} (records : List ρ) (size count : Nat) :
    (List.range count).flatMap (fun i ↦ (records.drop (i * size)).take size)
      = records.take (count * size) := by
  induction count with
  | zero => simp
  | succ count ih =>
    rw [List.range_succ, List.flatMap_append, ih, List.flatMap_singleton, Nat.succ_mul,
      List.take_add]

/-! ## Selections -/

namespace Selection

variable {ρ : Type}

/-- Whether a record passes the filter, if there is one. -/
def accepts (s : Selection ρ) (r : ρ) : Bool :=
  match s.filter with
  | some c => c.accepts r
  | none => true

/-- All of a selection at once. -/
def unpaged (s : Selection ρ) : Selection ρ := { s with skip := 0, take := none }

/-- A page of a selection, by its number and the size of pages. -/
def page (s : Selection ρ) (size number : Nat) : Selection ρ :=
  { s with skip := number * size, take := some size }

theorem passing_eq (s : Selection ρ) (records : List ρ) :
    s.passing records = records.filter s.accepts := by
  unfold passing accepts
  cases s.filter with
  | none => exact (List.filter_eq_self.mpr fun _ _ ↦ rfl).symm
  | some c => rfl

@[simp] theorem items_unpaged (s : Selection ρ) (records : List ρ) :
    (s.unpaged.run records).items = s.sorted records := rfl

@[simp] theorem items_page (s : Selection ρ) (size number : Nat) (records : List ρ) :
    ((s.page size number).run records).items
      = ((s.sorted records).drop (number * size)).take size := rfl

theorem length_sorted (s : Selection ρ) (records : List ρ) :
    (s.sorted records).length = records.countP s.accepts := by
  rw [sorted, List.length_mergeSort, passing_eq, List.countP_eq_length_filter]

/-- What is asked of a selection from a list of records. -/
structure IsLossless (s : Selection ρ) (records : List ρ) : Prop where
  /-- The order of the criteria is a total preorder. -/
  preorder : Std.TransCmp (Criterion.compareAll s.criteria)
  total_eq : (s.run records).total = records.countP s.accepts
  perm : (s.unpaged.run records).items.Perm (records.filter s.accepts)
  /-- No record comes before one that it exceeds. -/
  sorted : (s.unpaged.run records).items.Pairwise fun a b ↦ ¬ Criterion.Exceeds s.criteria a b
  /-- Records that no criterion tells apart stay in their order. -/
  stable : ∀ a, (s.unpaged.run records).items.filter (Criterion.Tied s.criteria a ·)
    = (records.filter s.accepts).filter (Criterion.Tied s.criteria a ·)
  paged : (s.run records).items = match s.take with
    | some n => ((s.unpaged.run records).items.drop s.skip).take n
    | none => (s.unpaged.run records).items.drop s.skip
  /-- The pages of any size, as many as are needed or more, are all of the selection. -/
  pages : ∀ size, 0 < size → ∀ count, (s.run records).total ⌈/⌉ size ≤ count →
    (List.range count).flatMap (fun i ↦ ((s.page size i).run records).items)
      = (s.unpaged.run records).items

/-- A selection filters, orders and pages records without loss. -/
theorem isLossless {s : Selection ρ} (h : ∀ c ∈ s.criteria, c.IsRegistered) (records : List ρ) :
    s.IsLossless records := by
  have hcmp : Std.TransCmp (Criterion.compareAll s.criteria) :=
    Criterion.transCmp_compareAll fun c hc ↦ (h c hc).transCmp
  have htotal : (s.run records).total = records.countP s.accepts := by
    show (s.passing records).length = _
    rw [passing_eq, List.countP_eq_length_filter]
  constructor
  case preorder => exact hcmp
  case total_eq => exact htotal
  case perm =>
    rw [items_unpaged, Selection.sorted, ← passing_eq]
    exact List.mergeSort_perm _ _
  case sorted =>
    rw [items_unpaged]
    apply (pairwise_mergeSort_isLE _ (s.passing records)).imp
    intro a b hab hexceeds
    exact hab (Criterion.compareAll_eq_gt_iff.mpr hexceeds)
  case stable =>
    intro a
    have hstable := filter_mergeSort_isLE (Criterion.compareAll s.criteria) a (s.passing records)
    simp only [Criterion.compareAll_eq_eq_iff] at hstable
    rw [items_unpaged, ← passing_eq]
    exact hstable
  case paged => rfl
  case pages =>
    intro size hsize count hcount
    simp only [items_page, items_unpaged]
    rw [flatMap_pages]
    apply List.take_of_length_le
    rw [length_sorted, ← htotal, Nat.mul_comm]
    exact (ceilDiv_le_iff_le_mul hsize).mp hcount

/-- A member of a club, whose age may be unknown. Numbers tell members of one name apart. -/
structure Member where
  number : Nat
  name : String
  age : Option Int32

def members : Schema Member :=
  .ofRegistrations "Member" [.scalar "Name" Member.name, .nullable "Age" Member.age]

/-- Members by age from the oldest on and then by name, two of them after the first. -/
def byAgeThenName : Selection Member where
  criteria := [.byProperty (.nullable Member.age) .descending,
    .byProperty (.scalar Member.name) .ascending]
  skip := 1
  take := some 2

theorem isRegistered_byAgeThenName : ∀ c ∈ byAgeThenName.criteria, c.IsRegistered := by
  have hage : members.resolve false "Age" = .ok ⟨"Age", .nullable Member.age⟩ :=
    Schema.resolve_of_get? false rfl rfl
  have hname : members.resolve false "Name" = .ok ⟨"Name", .scalar Member.name⟩ :=
    Schema.resolve_of_get? false rfl rfl
  intro c hc
  rcases List.mem_cons.mp hc with rfl | hc
  · apply Criterion.IsRegistered.byPath hage (.nullable .int32 Member.age)
    · decide
    · decide
    · rw [Criterion.byPath, hage]
      rfl
  · obtain rfl := List.mem_singleton.mp hc
    apply Criterion.IsRegistered.byPath hname (.scalar .text Member.name)
    · decide
    · decide
    · rw [Criterion.byPath, hname]
      rfl

/-- A member of unknown age and three of one age, of whom two share their name as well. -/
def someMembers : List Member :=
  [⟨1, "Ann", none⟩, ⟨2, "Bo", some 36⟩, ⟨3, "Al", some 36⟩, ⟨4, "Bo", some 36⟩]

theorem isLossless_byAgeThenName :
    (∀ c ∈ byAgeThenName.criteria, c.IsRegistered) ∧ byAgeThenName.IsLossless someMembers ∧
      byAgeThenName.run someMembers = ⟨[⟨2, "Bo", some 36⟩, ⟨4, "Bo", some 36⟩], 4⟩ := by
  refine ⟨isRegistered_byAgeThenName, isLossless isRegistered_byAgeThenName someMembers, ?_⟩
  cbv

end Selection

end RecordFilter
