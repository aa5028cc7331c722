import RecordFilter.Number.Precision
import RecordFilter.Proofs.Number.Unpacked
import RecordFilter.Scalar.Type

/-!
# Changing the precision loses nothing on the way up

A narrow floating-point number becomes a wide one by a shift of its significand,
and rounding the wide one back only undoes the shift.  So widening keeps the
value of a number, and narrowing takes a number that was widened back to itself.
Together with the order of unpacked numbers this says that narrow numbers
compare like the wide ones they become.
-/

namespace RecordFilter.Number

open Float.Model (Format UnpackedFloat totalExponent)
open Float.Model.UnpackedFloat (Sign)

/-! ## Rounding a number that fits -/

/-- Shifting to the left moves the exponent of the leading bit. -/
theorem totalExponent_shift {m : Nat} (hpos : 0 < m) (e : Int) (k : Nat) :
    totalExponent (m * 2 ^ k) e = totalExponent m (e + k) := by
  have hlog : (m * 2 ^ k).log2 = m.log2 + k := by
    rw [Nat.log2_eq_iff (by positivity), pow_add, Nat.add_right_comm, pow_add]
    constructor
    · exact Nat.mul_le_mul_right _ (Nat.log2_self_le hpos.ne')
    · exact Nat.mul_lt_mul_of_pos_right (Nat.lt_log2_self) (by positivity)
  rw [totalExponent, totalExponent, hlog]
  push_cast
  ring

/-- The exponent of a number that fits is the one that rounding aims at. -/
theorem targetExponent_of_fits {F : Format} {m : Nat} {e : Int} (hpos : 0 < m)
    (h : Fits F m e) : F.targetExponent (totalExponent m e) = e := by
  have hlt := (Nat.log2_lt hpos.ne').mpr h.lt
  have hlowest := h.lowest_le
  rw [Format.targetExponent, totalExponent, Format.mantissaBits]
  rcases h.normal with he | hm
  · omega
  · have := (Nat.le_log2 hpos.ne').mpr hm
    omega

/-- Bits that are all zeros are shifted out without a trace. -/
theorem shiftRight_mul_two_pow (m k : Nat) :
    ((⟨m * 2 ^ k, false, false⟩ : UnpackedFloat.ExtendedMantissa) >>> k)
      = ⟨m, false, false⟩ := by
  change k.repeat UnpackedFloat.ExtendedMantissa.shiftRightOne _ = _
  induction k generalizing m with
  | zero => simp [Nat.repeat]
  | succ k ih =>
    have hm : m * 2 ^ (k + 1) = 2 * m * 2 ^ k := by ring
    rw [Nat.repeat, hm, ih]
    simp [UnpackedFloat.ExtendedMantissa.shiftRightOne]

/-- A number that fits stays as it is when it is shifted to the exponent that rounding aims at. -/
theorem shiftToTargetExponent_of_fits {F : Format} {m : Nat} {e : Int} {k : Nat} (hpos : 0 < m)
    (h : Fits F m (e + k)) :
    UnpackedFloat.shiftToTargetExponent F (m * 2 ^ k) e .exact = (⟨m, false, false⟩, e + k) := by
  rw [UnpackedFloat.shiftToTargetExponent, totalExponent_shift hpos, targetExponent_of_fits hpos h,
    UnpackedFloat.shiftToExponent]
  have hk : (e + k - e).toNat = k := by omega
  simp only [hk, UnpackedFloat.ExtendedMantissa.ofMantissaAndAccuracy, shiftRight_mul_two_pow]

/-- Rounding takes a number that fits, written with zeros behind it, to itself. -/
theorem roundWithAccuracy_of_fits {F : Format} {s : Sign} {m : Nat} {e : Int} {k : Nat}
    (hpos : 0 < m) (h : Fits F m (e + k)) :
    UnpackedFloat.roundWithAccuracy F s (m * 2 ^ k) e .exact = .finite s m (e + k) hpos := by
  have hagain : UnpackedFloat.shiftToTargetExponent F m (e + k) .exact
      = (⟨m, false, false⟩, e + k) := by
    have h0 : Fits F m (e + k + (0 : Nat)) := by simpa using h
    simpa using shiftToTargetExponent_of_fits hpos h0
  rw [UnpackedFloat.roundWithAccuracy, shiftToTargetExponent_of_fits hpos h]
  simp only [UnpackedFloat.ExtendedMantissa.roundedMantissa,
    UnpackedFloat.ExtendedMantissa.accuracy, UnpackedFloat.Accuracy.roundToNearestEven, hagain,
    hpos.ne', dite_false]

/-- Rounding drops zeros behind a number that fits without them. -/
theorem round_of_fits_shiftLeft {F : Format} {s : Sign} {m : Nat} {e : Int} {k : Nat}
    (hpos : 0 < m) (h : Fits F m (e + k)) :
    UnpackedFloat.round F s (m * 2 ^ k) e = .finite s m (e + k) hpos := by
  rw [UnpackedFloat.round, totalExponent_shift hpos, targetExponent_of_fits hpos h]
  have hk : (e - (e + k)).toNat = 0 := by omega
  simp only [UnpackedFloat.decreaseExponent, hk, Nat.shiftLeft_zero, Int.natCast_zero,
    Int.sub_zero]
  exact roundWithAccuracy_of_fits hpos h

/-- Rounding puts zeros behind a number that fits with them. -/
theorem round_of_fits_shiftRight {F : Format} {s : Sign} {m : Nat} {e : Int} {k : Nat}
    (hpos : 0 < m) (h : Fits F (m * 2 ^ k) (e - k)) :
    UnpackedFloat.round F s m e
      = .finite s (m * 2 ^ k) (e - k) (Nat.mul_pos hpos (Nat.two_pow_pos k)) := by
  have hpos' : 0 < m * 2 ^ k := by positivity
  have htotal : totalExponent m e = totalExponent (m * 2 ^ k) (e - k) := by
    rw [totalExponent_shift hpos]; simp
  rw [UnpackedFloat.round, htotal, targetExponent_of_fits hpos' h]
  have hk : (e - (e - k)).toNat = k := by omega
  simp only [UnpackedFloat.decreaseExponent, hk, Nat.shiftLeft_eq]
  have h0 : Fits F (m * 2 ^ k) (e - k + (0 : Nat)) := by simpa using h
  simpa using roundWithAccuracy_of_fits (s := s) hpos' h0

/-! ## From narrow to wide and back -/

/-- The zeros that a narrow significand gets behind it in the wide format. -/
def spareBits (m : Nat) : Nat := 52 - m.log2

/-- A narrow number fits the wide format when its significand is shifted up. -/
theorem fits_wide {m : Nat} {e : Int} (hpos : 0 < m) (h : Fits .binary32 m e) :
    Fits .binary64 (m * 2 ^ spareBits m) (e - spareBits m) := by
  obtain ⟨hlt, hlowest, hhighest, -⟩ := h
  have hlog : m.log2 < 24 := (Nat.log2_lt hpos.ne').mpr hlt
  have hbits : m.log2 + spareBits m = 52 := by rw [spareBits]; omega
  have hlower : 2 ^ 52 ≤ m * 2 ^ spareBits m := by
    rw [← hbits, pow_add]
    exact Nat.mul_le_mul_right _ (Nat.log2_self_le hpos.ne')
  have hupper : m * 2 ^ spareBits m < 2 ^ 53 := by
    have h53 : (53 : Nat) = m.log2 + 1 + spareBits m := by omega
    rw [h53, pow_add]
    exact Nat.mul_lt_mul_of_pos_right Nat.lt_log2_self (by positivity)
  simp only [Format.minExponent, Format.exponentBias, Format.mantissaBits] at hlowest hhighest
  refine ⟨hupper, ?_, ?_, Or.inr hlower⟩
  · simp only [Format.minExponent, Format.mantissaBits]
    omega
  · simp only [Format.exponentBias]
    omega

theorem rescale_wide_finite {s : Sign} {m : Nat} {e : Int} (hpos : 0 < m)
    (h : Fits .binary32 m e) :
    rescale .binary64 (.finite s m e hpos)
      = .finite s (m * 2 ^ spareBits m) (e - spareBits m)
          (Nat.mul_pos hpos (Nat.two_pow_pos (spareBits m))) :=
  round_of_fits_shiftRight hpos (fits_wide hpos h)

/-- A narrow number is in the wide format after rounding. -/
theorem inFormat_rescale_wide {x : UnpackedFloat} (h : InFormat .binary32 x) :
    InFormat .binary64 (rescale .binary64 x) := by
  cases x with
  | finite s m e hpos =>
    rw [rescale_wide_finite hpos h]
    exact fits_wide hpos h
  | _ => trivial

/-- Rounding a narrow number to the wide format keeps its value. -/
theorem value?_rescale_wide {x : UnpackedFloat} (h : InFormat .binary32 x) :
    value? (rescale .binary64 x) = value? x := by
  cases x with
  | finite s m e hpos =>
    have hvalue : ((m * 2 ^ spareBits m : Nat) * 2 ^ (e - spareBits m) : ℚ) = m * 2 ^ e := by
      rw [zpow_sub₀ (by norm_num), zpow_natCast]
      push_cast
      field_simp
    rw [rescale_wide_finite hpos h]
    cases s <;> simp only [value?, hvalue]
  | _ => rfl

/-- Rounding a narrow number to the wide format and back changes nothing. -/
theorem rescale_rescale_wide {x : UnpackedFloat} (h : InFormat .binary32 x) :
    rescale .binary32 (rescale .binary64 x) = x := by
  cases x with
  | finite s m e hpos =>
    have hback : e - spareBits m + spareBits m = e := by omega
    rw [rescale_wide_finite hpos h]
    have := round_of_fits_shiftLeft (s := s) (e := e - spareBits m) (k := spareBits m) hpos
      (by rwa [hback])
    rw [rescale, this]
    simp only [hback]
  | _ => rfl

/-! ## Machine numbers -/

/-- The number that a wide floating-point number stands for. -/
def wideValue? (x : Float) : Option (WithBot (WithTop ℚ)) := value? x.toModel.unpack

/-- The number that a narrow floating-point number stands for. -/
def narrowValue? (x : Float32) : Option (WithBot (WithTop ℚ)) := value? x.toModel.unpack

theorem inFormat_wide (x : Float) : InFormat .binary64 x.toModel.unpack :=
  inFormat_unpack (by decide) _

theorem inFormat_narrow (x : Float32) : InFormat .binary32 x.toModel.unpack :=
  inFormat_unpack (by decide) _

theorem unpack_widen (x : Float32) :
    (widen x).toModel.unpack = rescale .binary64 x.toModel.unpack :=
  unpack_pack (inFormat_rescale_wide (inFormat_narrow x))

/-- Widening keeps the value. -/
theorem wideValue?_widen (x : Float32) : wideValue? (widen x) = narrowValue? x := by
  rw [wideValue?, unpack_widen, value?_rescale_wide (inFormat_narrow x), narrowValue?]

/-- Narrowing undoes widening. -/
theorem narrowValue?_narrow_widen (x : Float32) :
    narrowValue? (narrow (widen x)) = narrowValue? x := by
  have hunpack : (narrow (widen x)).toModel.unpack = x.toModel.unpack := by
    have hback : rescale .binary32 (widen x).toModel.unpack = x.toModel.unpack := by
      rw [unpack_widen, rescale_rescale_wide (inFormat_narrow x)]
    calc
      (narrow (widen x)).toModel.unpack
        = UnpackedFloat.unpack .binary32 (UnpackedFloat.pack .binary32
            (rescale .binary32 (widen x).toModel.unpack)) := rfl
      _ = x.toModel.unpack := by rw [hback, unpack_pack (inFormat_narrow x)]
  rw [narrowValue?, hunpack, narrowValue?]

end RecordFilter.Number

namespace RecordFilter

open Number (wideValue? narrowValue? cmpValues)

/-! ## Comparisons -/

theorem cmpValues_eq_gt_iff {x y : Option (WithBot (WithTop ℚ))} :
    cmpValues x y = some .gt ↔ cmpValues y x = some .lt := by
  cases x <;> cases y <;> simp [cmpValues, cmp_eq_gt_iff, cmp_eq_lt_iff]

theorem cmpValues_eq_eq_comm {x y : Option (WithBot (WithTop ℚ))} :
    cmpValues x y = some .eq ↔ cmpValues y x = some .eq := by
  cases x with
  | none => cases y <;> simp [cmpValues]
  | some a =>
    cases y with
    | none => simp [cmpValues]
    | some b =>
      simp only [cmpValues, Option.bind_some, Option.map_some, Option.some_inj, cmp_eq_eq_iff]
      exact eq_comm

/-- The machine's three tests amount to the order of the values. -/
theorem tests_eq_cmpValues {x y : Option (WithBot (WithTop ℚ))} {lt eq gt : Prop} [Decidable lt]
    [Decidable eq] [Decidable gt] (hlt : lt ↔ cmpValues x y = some .lt)
    (heq : eq ↔ cmpValues x y = some .eq) (hgt : gt ↔ cmpValues y x = some .lt) :
    (if lt then some .lt else if eq then some .eq else if gt then some .gt else none)
      = cmpValues x y := by
  rw [← cmpValues_eq_gt_iff] at hgt
  simp only [hlt, heq, hgt]
  rcases cmpValues x y with _ | (_ | _ | _) <;> rfl

theorem float_lt_iff (x y : Float) :
    x < y ↔ cmpValues (wideValue? x) (wideValue? y) = some .lt := by
  rw [wideValue?, wideValue?,
    ← Number.compare_eq_cmpValues (Number.inFormat_wide x) (Number.inFormat_wide y)]
  exact decide_eq_true_iff.trans beq_iff_eq

theorem float_beq_iff (x y : Float) :
    x == y ↔ cmpValues (wideValue? x) (wideValue? y) = some .eq := by
  rw [wideValue?, wideValue?,
    ← Number.compare_eq_cmpValues (Number.inFormat_wide x) (Number.inFormat_wide y)]
  exact beq_iff_eq (α := Option Ordering)

theorem float32_lt_iff (x y : Float32) :
    x < y ↔ cmpValues (narrowValue? x) (narrowValue? y) = some .lt := by
  rw [narrowValue?, narrowValue?,
    ← Number.compare_eq_cmpValues (Number.inFormat_narrow x) (Number.inFormat_narrow y)]
  exact decide_eq_true_iff.trans beq_iff_eq

theorem float32_beq_iff (x y : Float32) :
    x == y ↔ cmpValues (narrowValue? x) (narrowValue? y) = some .eq := by
  rw [narrowValue?, narrowValue?,
    ← Number.compare_eq_cmpValues (Number.inFormat_narrow x) (Number.inFormat_narrow y)]
  exact beq_iff_eq (α := Option Ordering)

/-- Wide floating-point numbers are compared by the numbers they stand for. -/
theorem compareFloats_eq (x y : Float) :
    compareFloats x y = cmpValues (wideValue? x) (wideValue? y) :=
  tests_eq_cmpValues (float_lt_iff x y) (float_beq_iff x y) (float_lt_iff y x)

/-- Narrow floating-point numbers are compared by the numbers they stand for. -/
theorem compareSingles_eq (x y : Float32) :
    compareSingles x y = cmpValues (narrowValue? x) (narrowValue? y) :=
  tests_eq_cmpValues (float32_lt_iff x y) (float32_beq_iff x y) (float32_lt_iff y x)

/-- Narrow numbers compare like the wide ones they become. -/
theorem compareFloats_widen (x y : Float32) :
    compareFloats (Number.widen x) (Number.widen y) = compareSingles x y := by
  rw [compareFloats_eq, compareSingles_eq, Number.wideValue?_widen, Number.wideValue?_widen]

/-- Comparing with a number that was widened and narrowed again is comparing with it. -/
theorem compareSingles_narrow_widen (x y : Float32) :
    compareSingles x (Number.narrow (Number.widen y)) = compareSingles x y := by
  rw [compareSingles_eq, compareSingles_eq, Number.narrowValue?_narrow_widen]

end RecordFilter
