import Mathlib.Data.Nat.Digits.Defs
import RecordFilter.Number.Digits

/-!
# Digits read back

The digits of a number are ASCII digits and denote the number, with zeros in
front of them as well.  An integer is written as a minus sign, where it needs
one, and the digits of its absolute value.
-/

namespace RecordFilter.Number

theorem isDigit_of_mem_digits {n : Nat} : ∀ c ∈ digits n, c.isDigit = true :=
  fun _ hc ↦ Nat.isDigit_of_mem_toDigits (by decide) (by decide) hc

theorem digits_ne_nil (n : Nat) : digits n ≠ [] := Nat.toDigits_ne_nil

@[simp] theorem ofDigits_digits (n : Nat) : ofDigits (digits n) = n := Nat.ofDigitChars_ten_toDigits

/-- The number whose digits are those of a number and some more behind them. -/
def extend (n : Nat) (ds : List Char) : Nat := ds.foldl (fun n c ↦ 10 * n + digitValue c) n

theorem ofDigits_append (s t : List Char) : ofDigits (s ++ t) = extend (ofDigits s) t :=
  List.foldl_append

theorem extend_append (n : Nat) (s t : List Char) : extend n (s ++ t) = extend (extend n s) t :=
  List.foldl_append

theorem le_extend (n : Nat) (ds : List Char) : n ≤ extend n ds := by
  induction ds generalizing n with
  | nil => exact le_refl n
  | cons c ds ih =>
    calc
      n ≤ 10 * n + digitValue c := by omega
      _ ≤ extend n (c :: ds) := ih _

theorem ofDigits_replicate_zero (k : Nat) : ofDigits (List.replicate k '0') = 0 := by
  induction k with
  | zero => rfl
  | succ k ih =>
    rw [List.replicate_succ', ofDigits_append, ih]
    rfl

/-- Zeros in front do not count. -/
@[simp] theorem ofDigits_padded (width n : Nat) : ofDigits (padded width n) = n := by
  rw [padded, ofDigits_append, ofDigits_replicate_zero]
  exact ofDigits_digits n

theorem isDigit_of_mem_padded {width n : Nat} : ∀ c ∈ padded width n, c.isDigit = true := by
  intro c hc
  rcases List.mem_append.mp hc with hc | hc
  · obtain rfl := List.eq_of_mem_replicate hc
    rfl
  · exact isDigit_of_mem_digits c hc

theorem padded_ne_nil (width n : Nat) : padded width n ≠ [] :=
  List.append_ne_nil_of_right_ne_nil _ (digits_ne_nil n)

theorem le_length_padded (width n : Nat) : width ≤ (padded width n).length := by
  rw [padded, List.length_append, List.length_replicate]
  omega

/-- A number that does not need more digits than there is room for fills it. -/
theorem length_padded {width n : Nat} (hwidth : 0 < width) (hn : n < 10 ^ width) :
    (padded width n).length = width := by
  have hdigits : (digits n).length ≤ width := Nat.toDigits_length 10 n width hwidth hn
  rw [padded, List.length_append, List.length_replicate]
  omega

theorem digitValue_lt {c : Char} (h : c.isDigit = true) : digitValue c < 10 := by
  simp only [Char.isDigit, Bool.and_eq_true, decide_eq_true_eq] at h
  have hhigh : c.toNat ≤ '9'.toNat := h.2
  have hlow : '0'.toNat = 48 := rfl
  have hnine : '9'.toNat = 57 := rfl
  rw [digitValue]
  omega

theorem extend_lt {n : Nat} {ds : List Char} (hds : ∀ c ∈ ds, c.isDigit = true) :
    extend n ds < (n + 1) * 10 ^ ds.length := by
  induction ds generalizing n with
  | nil => simp [extend]
  | cons c ds ih =>
    have hc := digitValue_lt (hds c List.mem_cons_self)
    calc
      extend n (c :: ds) < (10 * n + digitValue c + 1) * 10 ^ ds.length :=
        ih fun c hc ↦ hds c (List.mem_cons_of_mem _ hc)
      _ ≤ ((n + 1) * 10) * 10 ^ ds.length := Nat.mul_le_mul_right _ (by omega)
      _ = (n + 1) * 10 ^ (c :: ds).length := by
        rw [List.length_cons, Nat.pow_succ', Nat.mul_assoc]

/-- A number is below the power of ten with as many zeros as it has digits. -/
theorem ofDigits_lt {ds : List Char} (hds : ∀ c ∈ ds, c.isDigit = true) :
    ofDigits ds < 10 ^ ds.length := by
  have h : ofDigits ds < (0 + 1) * 10 ^ ds.length := extend_lt hds
  rwa [Nat.zero_add, Nat.one_mul] at h

theorem toList_repr (n : Nat) : n.repr.toList = digits n := by
  rw [Nat.repr_eq_ofList_toDigits, String.toList_ofList]
  rfl

/-- The text of an integer. -/
theorem toList_toString (n : Int) :
    (toString n).toList = (if n < 0 then ['-'] else []) ++ digits n.natAbs := by
  rw [Int.toString_eq_repr, Int.repr_eq_if]
  by_cases hn : 0 ≤ n
  · rw [if_pos hn, if_neg (by omega), toList_repr, show n.toNat = n.natAbs by omega]
    rfl
  · rw [if_neg hn, if_pos (by omega), String.toList_append, toList_repr,
      show (-n).toNat = n.natAbs by omega]
    rfl

/-- A sign and digits are taken apart again. -/
theorem takeSign_append_digits (negative : Bool) {ds : List Char} (hne : ds ≠ [])
    (hds : ∀ c ∈ ds, c.isDigit = true) :
    takeSign ((if negative then ['-'] else []) ++ ds) = (negative, ds) := by
  obtain ⟨c, ds, rfl⟩ := List.exists_cons_of_ne_nil hne
  have hc : c.isDigit = true := hds c List.mem_cons_self
  cases negative with
  | true => rfl
  | false =>
    have hminus : c ≠ '-' := by
      rintro rfl
      cases hc
    have hplus : c ≠ '+' := by
      rintro rfl
      cases hc
    simp only [Bool.false_eq_true, if_false, List.nil_append]
    rw [takeSign]
    · exact fun s heq ↦ hminus (List.cons.inj heq).1
    · exact fun s heq ↦ hplus (List.cons.inj heq).1

theorem withSign_natAbs (n : Int) : withSign (decide (n < 0)) n.natAbs = n := by
  by_cases hn : n < 0
  · simp only [withSign, hn, decide_true, if_true]
    omega
  · simp only [withSign, hn, decide_false, Bool.false_eq_true, if_false]
    omega

end RecordFilter.Number
