import Mathlib.Order.Compare
import RecordFilter.Proofs.Scalar.Order

/-!
# Comparing scalars

Scalars compare only with those on their line, and there as members of a total
order: by their ranks, or as the numbers that floating-point numbers stand for.
So the order of scalars can be turned around, and chains of smaller and equal
scalars add up, whichever types of integers come up in them.

Equality is no part of this order.  It asks for one type and for all that
belongs to a scalar, so that some pairs compare as equal and are not
(`Scalar.IsDouble`); apart from them the two agree (`Scalar.compare?_contract`).
-/

namespace RecordFilter

open Number (wideValue? cmpValues)

/-! ## Chains in total orders -/

/-- In a total order the smaller part of a chain decides. -/
theorem compare_eq_then {α : Type} [Ord α] [Std.TransOrd α] {a b c : α}
    (hab : compare a b ≠ .gt) (hbc : compare b c ≠ .gt) :
    compare a c = (compare a b).then (compare b c) := by
  cases h : compare a b with
  | lt =>
    rw [Ordering.lt_then]
    exact Std.TransCmp.lt_of_lt_of_isLE h (Ordering.isLE_iff_ne_gt.mpr hbc)
  | eq =>
    rw [Ordering.eq_then]
    exact Std.TransCmp.congr_left h
  | gt => exact absurd h hab

/-- The order of values is turned around. -/
theorem cmpValues_swap (x y : Option (WithBot (WithTop ℚ))) :
    cmpValues y x = (cmpValues x y).map Ordering.swap := by
  cases x with
  | none => cases y <;> rfl
  | some a =>
    cases y with
    | none => rfl
    | some b => exact congrArg some (cmp_swap a b).symm

/-- Chains of values add up. -/
theorem cmpValues_chain {x y z : Option (WithBot (WithTop ℚ))} {o o' : Ordering}
    (hxy : cmpValues x y = some o) (hyz : cmpValues y z = some o') (ho : o ≠ .gt)
    (ho' : o' ≠ .gt) : cmpValues x z = some (o.then o') := by
  obtain ⟨a, rfl, hxy⟩ := Option.bind_eq_some_iff.mp hxy
  obtain ⟨b, rfl, hab⟩ := Option.map_eq_some_iff.mp hxy
  obtain ⟨c, rfl, hbc⟩ := Option.map_eq_some_iff.mp hyz
  rw [cmp_eq_compare] at hab hbc
  subst hab hbc
  exact congrArg some ((cmp_eq_compare a c).trans (compare_eq_then ho ho'))

namespace Scalar

/-! ## Lines -/

/-- Only scalars of one line compare. -/
theorem line_eq_of_compare? {a b : Scalar} {o : Ordering} (h : a.compare? b = some o) :
    a.carrier.line = b.carrier.line := by
  unfold compare? at h
  split at h
  case h_13 =>
    split at h
    · next htype => rw [carrier, carrier, htype]
    · cases h
  case h_14 => cases h
  all_goals rfl

theorem compare?_eq_none {a b : Scalar} (h : a.carrier.line ≠ b.carrier.line) :
    a.compare? b = none :=
  Option.eq_none_iff_forall_ne_some.mpr fun _ ho ↦ h (line_eq_of_compare? ho)

/-- What stands on the line of floating-point numbers is one. -/
theorem exists_eq_float {a : Scalar} (h : a.carrier.line = .float) : ∃ x, a = .float x := by
  cases a with
  | float x => exact ⟨x, rfl⟩
  | _ => cases h

/-! ## The order -/

theorem compare?_swap (a b : Scalar) : b.compare? a = (a.compare? b).map Ordering.swap := by
  by_cases hline : a.carrier.line = b.carrier.line
  · by_cases hfloat : a.carrier.line = .float
    · obtain ⟨x, rfl⟩ := exists_eq_float hfloat
      obtain ⟨y, rfl⟩ := exists_eq_float (hline.symm.trans hfloat)
      rw [compare?, compare?, compareFloats_eq, compareFloats_eq, cmpValues_swap]
    · rw [compare?_eq_rank_of_line hline hfloat,
        compare?_eq_rank_of_line hline.symm (hline ▸ hfloat), Option.map_some]
      exact congrArg some Std.OrientedOrd.eq_swap
  · rw [compare?_eq_none hline, compare?_eq_none (Ne.symm hline), Option.map_none]

theorem compare?_chain {a b c : Scalar} {o o' : Ordering} (hab : a.compare? b = some o)
    (hbc : b.compare? c = some o') (ho : o ≠ .gt) (ho' : o' ≠ .gt) :
    a.compare? c = some (o.then o') := by
  have hline := line_eq_of_compare? hab
  have hline' := line_eq_of_compare? hbc
  by_cases hfloat : a.carrier.line = .float
  · obtain ⟨x, rfl⟩ := exists_eq_float hfloat
    obtain ⟨y, rfl⟩ := exists_eq_float (hline.symm.trans hfloat)
    obtain ⟨z, rfl⟩ := exists_eq_float (hline'.symm.trans (hline.symm.trans hfloat))
    rw [compare?, compareFloats_eq] at hab hbc ⊢
    exact cmpValues_chain hab hbc ho ho'
  · rw [compare?_eq_rank_of_line hline hfloat, Option.some_inj] at hab
    rw [compare?_eq_rank_of_line hline' (hline ▸ hfloat), Option.some_inj] at hbc
    subst hab hbc
    rw [compare?_eq_rank_of_line (hline.trans hline') hfloat, compare_eq_then ho ho']

/-! ## Equality -/

/-- The pairs that compare as equal without being equal: an integer with a sign and the same integer
without one, and variants with different names in one place of enumerations of one name. -/
inductive IsDouble : Scalar → Scalar → Prop
  | withoutSign {m : Int64} {n : UInt64} (h : m.toInt = n.toNat) : IsDouble (.int m) (.uint n)
  | withSign {m : UInt64} {n : Int64} (h : (m.toNat : Int) = n.toInt) : IsDouble (.uint m) (.int n)
  | variant {typeName name name' : String} {ordinal : Nat} (h : name ≠ name') :
      IsDouble (.variant typeName name ordinal) (.variant typeName name' ordinal)

theorem IsDouble.compare?_eq {a b : Scalar} (h : a.IsDouble b) : a.compare? b = some .eq := by
  cases h with
  | withoutSign h | withSign h => exact congrArg some (compare_eq_iff_eq.mpr h)
  | variant _ => exact (if_pos rfl).trans (congrArg some (compare_eq_iff_eq.mpr rfl))

theorem beq_variant_iff {t u name name' : String} {i j : Nat} :
    (variant t name i == variant u name' j) = true ↔ t = u ∧ name = name' ∧ i = j := by
  simp only [BEq.beq, same, Bool.and_eq_true, decide_eq_true_eq, and_assoc]

/-- Scalars are equal if they compare so, doubles apart. -/
theorem beq_iff {a b : Scalar} : (a == b) = true ↔ a.compare? b = some .eq ∧ ¬ a.IsDouble b := by
  -- within most types there are no doubles, and equality is what the type has
  have hplain : ∀ {p q d : Prop}, ¬ d → (p ↔ q) → (p ↔ q ∧ ¬ d) := fun hd h ↦
    h.trans (and_iff_left hd).symm
  cases a <;> cases b
  case int.uint m n =>
    refine iff_of_false nofun fun h ↦ h.2 (.withoutSign ?_)
    exact compare_eq_iff_eq.mp (Option.some_inj.mp h.1)
  case uint.int m n =>
    refine iff_of_false nofun fun h ↦ h.2 (.withSign ?_)
    exact compare_eq_iff_eq.mp (Option.some_inj.mp h.1)
  case variant.variant t name i u name' j =>
    rw [beq_variant_iff]
    constructor
    · rintro ⟨rfl, rfl, rfl⟩
      refine ⟨(if_pos rfl).trans (congrArg some (compare_eq_iff_eq.mpr rfl)), fun h ↦ ?_⟩
      cases h with
      | variant hne => exact hne rfl
    · rintro ⟨h, hdouble⟩
      change (if t = u then some (compare i j) else none) = some Ordering.eq at h
      split_ifs at h with htype
      obtain rfl := htype
      obtain rfl := compare_eq_iff_eq.mp (Option.some_inj.mp h)
      exact ⟨rfl, by_contra fun hne ↦ hdouble (.variant hne), rfl⟩
  case bool.bool x y | int.int x y | uint.uint x y | float.float x y | decimal.decimal x y
      | char.char x y | text.text x y | date.date x y | dateTime.dateTime x y
      | timestamp.timestamp x y =>
    exact hplain nofun (LawfulFieldType.same_iff x y)
  all_goals exact ⟨nofun, nofun⟩

/-- What an order that is not total has to do, and how far equality goes with it.  Scalars that
compare as equal are equal, but for doubles; the order can be turned around; and chains of smaller
and equal scalars add up, with what comes first in them deciding. -/
theorem compare?_contract (a b c : Scalar) :
    ((a == b) = true ↔ a.compare? b = some .eq ∧ ¬ a.IsDouble b) ∧
      (a.IsDouble b → a.compare? b = some .eq) ∧
      b.compare? a = (a.compare? b).map Ordering.swap ∧
      ∀ o o' : Ordering, a.compare? b = some o → b.compare? c = some o' → o ≠ .gt → o' ≠ .gt →
        a.compare? c = some (o.then o') :=
  ⟨beq_iff, IsDouble.compare?_eq, compare?_swap a b, fun _ _ ↦ compare?_chain⟩

/-- From the smallest integer to the largest, by a number that is written without a sign and with
one. -/
theorem compare?_contract_alternating :
    (int Int64.minValue).compare? (int 5) = some .lt ∧
      (uint 5).compare? (uint (UInt64.ofNat (2 ^ 64 - 1))) = some .lt :=
  ⟨(compare?_contract (int Int64.minValue) (uint 5) (int 5)).2.2.2 .lt .eq rfl rfl nofun nofun,
    (compare?_contract (uint 5) (int 5) (uint (UInt64.ofNat (2 ^ 64 - 1)))).2.2.2 .eq .lt rfl rfl
      nofun nofun⟩

/-- One number in integers of two types compares as equal to itself, and is not. -/
theorem beq_five_of_two_signs :
    (int 5).compare? (uint 5) = some .eq ∧ (int 5 == uint 5) = false :=
  ⟨rfl, rfl⟩

end Scalar

end RecordFilter
