import Mathlib.Data.Nat.Digits.Defs
import Mathlib.Tactic.SplitIfs
import RecordFilter.Proofs.Scalar.Spelling

/-!
# Integers of a width

The integer kinds differ in a sign and a width, and hold the integers of this
width.  A lexeme denotes an integer if it is an optional sign with digits behind
it; how many digits does not matter.  Coercion to an integer kind succeeds
exactly for the lexemes that denote an integer of its width, and says of all
others that denote one that it is out of range (`coerceScalar_integer`).  What
carries the proof is that a reader with wide bounds reads any run of digits as
one integer (`readInteger_of_denotes`), so that only the bounds are left to
compare.
-/

namespace RecordFilter

open Number (takeSign takeDigits withSign digitValue)
open Literal (IsSign IsDigits)

/-! ## Lexemes of integers -/

namespace Number

/-- The number that digits of base ten denote, the last of them counting least. -/
theorem ofDigits_eq_ofDigits_reverse (ds : List Char) :
    ofDigits ds = Nat.ofDigits 10 (ds.reverse.map digitValue) := by
  rw [Nat.ofDigits_eq_foldr, List.foldr_map, List.foldr_reverse, ofDigits]
  simp only [Nat.cast_id, Nat.add_comm]

/-- Whether a text denotes an integer: an optional sign, and one or more digits behind it. -/
def Denotes (s : List Char) (n : Int) : Prop :=
  ∃ sign ds, IsSign sign ∧ IsDigits ds ∧ s = sign ++ ds ∧
    n = if sign = ['-'] then -(Nat.ofDigits 10 (ds.reverse.map digitValue) : Int)
      else Nat.ofDigits 10 (ds.reverse.map digitValue)

/-- Of a sign with digits behind it, the sign is taken. -/
theorem takeSign_append_of_isDigits {sign ds : List Char} (hsign : IsSign sign)
    (hds : IsDigits ds) : takeSign (sign ++ ds) = (decide (sign = ['-']), ds) := by
  rcases hsign with rfl | rfl | rfl
  · exact takeSign_append_digits false hds.1 hds.2
  · rfl
  · rfl

/-- A text denotes an integer if digits are left of it behind its sign; it is their number, with the
sign. -/
theorem denotes_iff {s : List Char} {n : Int} :
    Denotes s n ↔
      IsDigits (takeSign s).2 ∧ n = withSign (takeSign s).1 (ofDigits (takeSign s).2) := by
  constructor
  · rintro ⟨sign, ds, hsign, hds, rfl, rfl⟩
    rw [takeSign_append_of_isDigits hsign hds, ofDigits_eq_ofDigits_reverse, withSign]
    exact ⟨hds, by simp only [decide_eq_true_eq]; norm_cast⟩
  · rintro ⟨hds, rfl⟩
    obtain ⟨sign, hsign, hs⟩ := Literal.exists_takeSign s
    generalize hbody : (takeSign s).2 = ds at hs hds
    subst hs
    rw [takeSign_append_of_isDigits hsign hds]
    refine ⟨sign, ds, hsign, hds, rfl, ?_⟩
    rw [ofDigits_eq_ofDigits_reverse, withSign]
    simp only [decide_eq_true_eq]
    norm_cast

end Number

/-! ## Integers of a width -/

/-- Whether an integer fits into so many bits, one of them for its sign if it has one. -/
def InWidth : Bool → Nat → Int → Prop
  | true, width, n => -2 ^ (width - 1) ≤ n ∧ n < 2 ^ (width - 1)
  | false, width, n => 0 ≤ n ∧ n < 2 ^ width

instance : ∀ (signed : Bool) (width : Nat) (n : Int), Decidable (InWidth signed width n)
  | true, _, _ => inferInstanceAs (Decidable (_ ∧ _))
  | false, _, _ => inferInstanceAs (Decidable (_ ∧ _))

namespace Kind

/-- The integer kinds, with whether their integers have signs and how many bits these have. -/
inductive HoldsIntegers : Kind → Bool → Nat → Prop where
  | int8 : HoldsIntegers int8 true 8
  | int16 : HoldsIntegers int16 true 16
  | int32 : HoldsIntegers int32 true 32
  | int64 : HoldsIntegers int64 true 64
  | uint8 : HoldsIntegers uint8 false 8
  | uint16 : HoldsIntegers uint16 false 16
  | uint32 : HoldsIntegers uint32 false 32
  | uint64 : HoldsIntegers uint64 false 64

/-- The bounds of a kind are those of its width, and only kinds without signs begin at zero. -/
theorem HoldsIntegers.exists_bounds? {k : Kind} {signed : Bool} {width : Nat}
    (h : k.HoldsIntegers signed width) :
    ∃ low high, k.bounds? = some (low, high) ∧ (low = 0 ↔ signed = false) ∧
      ∀ n, InWidth signed width n ↔ low ≤ n ∧ n ≤ high := by
  cases h
  all_goals
    refine ⟨_, _, rfl, by decide, fun n ↦ ?_⟩
    simp only [InWidth]
    omega

end Kind

/-- Whether a scalar is an integer, with or without a sign. -/
inductive Scalar.IsInteger : Bool → Int → Scalar → Prop where
  | signed (m : Int64) : IsInteger true m.toInt (.int m)
  | unsigned (m : UInt64) : IsInteger false m.toNat (.uint m)

namespace Coercion

/-- No integer of a kind is lost where it is put into 64 bits. -/
theorem isInteger_integerScalar {k : Kind} {low high n : Int} {signed : Bool}
    (hk : k.bounds? = some (low, high)) (hsigned : low = 0 ↔ signed = false) (hlow : low ≤ n)
    (hhigh : n ≤ high) : (integerScalar low n).IsInteger signed n := by
  rcases k.bounds?_fit hk with ⟨rfl, hfit⟩ | ⟨hne, hlow', hhigh'⟩
  · have hn : n = (UInt64.ofNat n.toNat).toNat :=
      (toNat_ofNat_toNat hlow (hhigh.trans hfit)).symm
    rw [hsigned.mp rfl, integerScalar, if_pos rfl]
    nth_rewrite 1 [hn]
    exact .unsigned _
  · have hn : n = (Int64.ofInt n).toInt :=
      (Int64.toInt_ofInt_of_le (hlow'.trans hlow) (by omega)).symm
    have htrue : signed = true := by
      rw [← Bool.not_eq_false]
      exact fun hfalse ↦ hne (hsigned.mpr hfalse)
    rw [htrue, integerScalar, if_neg hne]
    nth_rewrite 1 [hn]
    exact .signed _

/-! ## Reading integers -/

/-- A text that denotes an integer is read as it, if the integer lies between the bounds.  Bounds of
less than 128 bits are not affected by the way that the digits are counted. -/
theorem readInteger_of_denotes {low high n : Int} {s : List Char} (h : Number.Denotes s n)
    (hlow : -wideBound ≤ low) (hhigh : high < wideBound) :
    readInteger low high s
      = if low ≤ n ∧ n ≤ high then .ok n else .error (.outsideBounds low high) := by
  obtain ⟨hds, hn⟩ := Number.denotes_iff.mp h
  have htake : takeDigits (takeSign s).2 = ((takeSign s).2, []) := by
    simpa using Literal.takeDigits_append_of_isDigits (s := []) hds (by simp)
  have hnonempty : (takeSign s).2.isEmpty = false := by simpa using hds.1
  simp only [readInteger, htake, hnonempty, ← hn]
  by_cases hbounds : low ≤ n ∧ n ≤ high
  · have hwide : ¬ (if (takeSign s).1 = true then wideBound < Number.ofDigits (takeSign s).2
        else wideBound ≤ Number.ofDigits (takeSign s).2) := by
      cases hsign : (takeSign s).1
      all_goals
        simp only [withSign, hsign, if_true, Bool.false_eq_true, if_false] at hn ⊢
        omega
    have houtside : ¬ (n < low ∨ high < n) := by omega
    simp [hwide, houtside, hbounds]
  · have houtside : n < low ∨ high < n := by omega
    simp [houtside, hbounds]

/-- A text that denotes no integer is not read. -/
theorem exists_readInteger_eq_error {s : List Char} (h : ∀ n, ¬ Number.Denotes s n)
    (low high : Int) : ∃ m, readInteger low high s = .error m := by
  have hdigits : ((takeDigits (takeSign s).2).1.isEmpty || !(takeDigits (takeSign s).2).2.isEmpty)
      = true := by
    -- Otherwise the text behind the sign is all digits, so that it denotes an integer.
    rw [← Bool.not_eq_false, Bool.or_eq_false_iff, Bool.not_eq_false', List.isEmpty_iff]
    rintro ⟨hsome, hrest⟩
    have hbody : (takeDigits (takeSign s).2).1 = (takeSign s).2 := by
      simpa only [hrest, List.append_nil] using Number.takeDigits_append (takeSign s).2
    have hds : IsDigits (takeSign s).2 := by
      rw [← hbody]
      exact ⟨List.isEmpty_eq_false_iff.mp hsome, Literal.isDigit_of_mem_takeDigits⟩
    exact h _ (Number.denotes_iff.mpr ⟨hds, rfl⟩)
  simp only [readInteger, hdigits, if_true]
  split_ifs <;> exact ⟨_, rfl⟩

/-- Coercion to an integer kind reads the text without the blanks around it. -/
theorem coerceScalar_of_bounds? {k : Kind} {low high : Int} (hk : k.bounds? = some (low, high))
    (path : String) {raw : Raw} {s : String} (hraw : raw = .number s ∨ raw = .text s) :
    coerceScalar path raw k = ((readInteger low high (Text.trim s.toList)).map
      (integerScalar low)).mapError (·.toError path raw k) := by
  rw [coerceScalar]
  rcases hraw with rfl | rfl <;> rw [convert, readLexeme_of_bounds? hk]

/-- An integer kind accepts exactly the integers of its width.  A number or text is coerced to it if
and only if, without the blanks around it, it denotes an integer of the width, and the scalar is
then this integer.  An integer that does not fit is out of range, however many digits it has, and
whatever else is written is refused as well. -/
theorem coerceScalar_integer {k : Kind} {signed : Bool} {width : Nat}
    (hk : k.HoldsIntegers signed width) (path : String) {raw : Raw} {s : String}
    (hraw : raw = .number s ∨ raw = .text s) :
    ((∃ v, coerceScalar path raw k = .ok v) ↔
      ∃ n, Number.Denotes (Text.trim s.toList) n ∧ InWidth signed width n) ∧
    (∀ n, Number.Denotes (Text.trim s.toList) n → InWidth signed width n →
      ∃ v, coerceScalar path raw k = .ok v ∧ v.IsInteger signed n) ∧
    (∀ n, Number.Denotes (Text.trim s.toList) n → ¬ InWidth signed width n →
      ∃ e, coerceScalar path raw k = .error e ∧ e.code = .outOfRange) ∧
    ((∀ n, ¬ Number.Denotes (Text.trim s.toList) n) →
      ∃ e, coerceScalar path raw k = .error e) := by
  obtain ⟨low, high, hbounds, hsigned, hwidth⟩ := hk.exists_bounds?
  obtain ⟨hlow, hhigh⟩ := bounds?_lt_wideBound hbounds
  have hcoerce := coerceScalar_of_bounds? hbounds path hraw
  have hread := fun n (hn : Number.Denotes (Text.trim s.toList) n) ↦
    readInteger_of_denotes hn hlow.le hhigh
  have hin : ∀ n, Number.Denotes (Text.trim s.toList) n → InWidth signed width n →
      ∃ v, coerceScalar path raw k = .ok v ∧ v.IsInteger signed n := by
    intro n hn hfits
    have hbetween := (hwidth n).mp hfits
    rw [hcoerce, hread n hn, if_pos hbetween]
    exact ⟨_, rfl, isInteger_integerScalar hbounds hsigned hbetween.1 hbetween.2⟩
  have hout : ∀ n, Number.Denotes (Text.trim s.toList) n → ¬ InWidth signed width n →
      ∃ e, coerceScalar path raw k = .error e ∧ e.code = .outOfRange := by
    intro n hn hfits
    rw [hcoerce, hread n hn, if_neg (mt (hwidth n).mpr hfits)]
    exact ⟨_, rfl, rfl⟩
  have hother : (∀ n, ¬ Number.Denotes (Text.trim s.toList) n) →
      ∃ e, coerceScalar path raw k = .error e := by
    intro hnone
    obtain ⟨m, hm⟩ := exists_readInteger_eq_error hnone low high
    rw [hcoerce, hm]
    exact ⟨_, rfl⟩
  refine ⟨⟨?_, ?_⟩, hin, hout, hother⟩
  · rintro ⟨v, hv⟩
    by_contra hnone
    obtain ⟨e, he⟩ : ∃ e, coerceScalar path raw k = .error e := by
      by_cases hsome : ∃ n, Number.Denotes (Text.trim s.toList) n
      · obtain ⟨n, hn⟩ := hsome
        obtain ⟨e, he, -⟩ := hout n hn fun hfits ↦ hnone ⟨n, hn, hfits⟩
        exact ⟨e, he⟩
      · exact hother (not_exists.mp hsome)
    rw [hv] at he
    cases he
  · rintro ⟨n, hn, hfits⟩
    obtain ⟨v, hv, -⟩ := hin n hn hfits
    exact ⟨v, hv⟩

/-- Blanks around a text and zeros in front count for nothing, minus zero is an integer without a
sign, and more than 128 bits are only out of range. -/
theorem coerceScalar_integer_uint8 :
    (∃ v, coerceScalar "n" (.text " -000 ") .uint8 = .ok v ∧ v.IsInteger false 0) ∧
      ∃ e, coerceScalar "n" (.number "400000000000000000000000000000000000000") .uint8 = .error e ∧
        e.code = .outOfRange := by
  have hzero : Number.Denotes (Text.trim " -000 ".toList) 0 :=
    ⟨['-'], ['0', '0', '0'], .inr (.inr rfl), Literal.isDigits_iff.mp rfl, by decide, by decide⟩
  have hlarge : Number.Denotes
      (Text.trim "400000000000000000000000000000000000000".toList) (4 * 10 ^ 38) :=
    Number.denotes_iff.mpr ⟨Literal.isDigits_iff.mp rfl, by decide⟩
  obtain ⟨-, hin, -⟩ := coerceScalar_integer .uint8 "n" (s := " -000 ") (.inr rfl)
  obtain ⟨-, -, hout, -⟩ := coerceScalar_integer .uint8 "n"
    (s := "400000000000000000000000000000000000000") (.inl rfl)
  exact ⟨hin 0 hzero (by decide), hout _ hlarge (by decide)⟩

end Coercion

end RecordFilter
