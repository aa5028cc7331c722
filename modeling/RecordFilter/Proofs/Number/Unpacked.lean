import Mathlib

/-!
# Unpacked floating-point numbers

The machine's floating-point numbers unpack into a sign, a significand and an
exponent.  A finite number has many such triples, and the operations on them
only mean something on those of a format (`InFormat`): the significand is below
its bound, the exponent between its own, and the significand is as large as the
lowest exponent allows.

Two facts carry everything else.  Packing loses nothing of a number in its
format (`unpack_pack`), and the comparison of two numbers in one format is the
comparison of the numbers they stand for (`compare_eq_cmpValues`).  The latter
does not mention the format any more, which is what lets numbers of different
formats be compared.
-/

namespace RecordFilter.Number

open Float.Model (Format UnpackedFloat)
open Float.Model.UnpackedFloat (Sign)

/-! ## Numbers in a format -/

/-- The significand and exponent of a finite number in a format. -/
structure Fits (F : Format) (m : Nat) (e : Int) : Prop where
  lt : m < 2 ^ (F.mantissaBitsWithoutImplicit + 1)
  lowest_le : F.minExponent ≤ e
  le_highest : e ≤ (F.exponentBias : Int) - F.mantissaBitsWithoutImplicit
  normal : e = F.minExponent ∨ 2 ^ F.mantissaBitsWithoutImplicit ≤ m

/-- Whether an unpacked number is in a format. -/
def InFormat (F : Format) : UnpackedFloat → Prop
  | .finite _ m e _ => Fits F m e
  | _ => True

theorem minExponent_eq (F : Format) :
    F.minExponent = 1 - (F.exponentBias : Int) - F.mantissaBitsWithoutImplicit := by
  have hpos : 1 ≤ 2 ^ (F.exponentBits - 1) := Nat.one_le_two_pow
  simp only [Format.minExponent, Format.exponentBias, Format.mantissaBits]
  push_cast [hpos]
  ring

theorem two_pow_exponentBits (F : Format) : 2 ^ F.exponentBits = 2 * F.exponentBias + 2 := by
  have hpos : 1 ≤ 2 ^ (F.exponentBits - 1) := Nat.one_le_two_pow
  obtain ⟨n, hn⟩ : ∃ n, F.exponentBits = n + 1 := ⟨F.exponentBits - 1, by have := F.he; omega⟩
  rw [Format.exponentBias]
  simp only [hn, Nat.add_sub_cancel, pow_succ] at hpos ⊢
  omega

/-- The significand of a normal number, with its leading bit. -/
theorem toNat_one_append {n : Nat} (m : BitVec n) : (1#1 ++ m).toNat = 2 ^ n + m.toNat := by
  rw [BitVec.toNat_append, ← Nat.shiftLeft_add_eq_or_of_lt m.isLt]
  simp [Nat.shiftLeft_eq]

/-- What is unpacked is in the format, unless the format has no finite exponents. -/
theorem inFormat_unpack {F : Format} (hbias : 0 < F.exponentBias) (b : BitVec F.numBits) :
    InFormat F (UnpackedFloat.unpack F b) := by
  have hm := (UnpackedFloat.unpackMantissa b).isLt
  have he := (UnpackedFloat.unpackExponent b).isLt
  have hbits := two_pow_exponentBits F
  have hlowest := minExponent_eq F
  rw [UnpackedFloat.unpack]
  split_ifs with htop hzero hbottom hzero
  · trivial
  · trivial
  · trivial
  · -- a subnormal number
    have hbottom' := congrArg BitVec.toNat hbottom
    simp only [BitVec.toNat_ofNat, Nat.zero_mod] at hbottom'
    refine ⟨?_, ?_, ?_, Or.inl ?_⟩
    · rw [pow_succ]; omega
    all_goals omega
  · -- a normal number
    have htop' : (UnpackedFloat.unpackExponent b).toNat ≠ 2 ^ F.exponentBits - 1 := by
      intro h
      refine htop (BitVec.eq_of_toNat_eq ?_)
      rw [h, BitVec.neg_one_eq_allOnes, BitVec.toNat_allOnes]
    have hbottom' : (UnpackedFloat.unpackExponent b).toNat ≠ 0 := fun h ↦
      hbottom (BitVec.eq_of_toNat_eq (by simpa using h))
    refine ⟨?_, ?_, ?_, Or.inr ?_⟩
    · rw [toNat_one_append, pow_succ]; omega
    · omega
    · omega
    · rw [toNat_one_append]; omega

/-! ## Packing -/

@[simp] theorem unpackSign_packComponents {F : Format} {s : Sign} {e : BitVec F.exponentBits}
    {m : BitVec F.mantissaBitsWithoutImplicit} :
    UnpackedFloat.unpackSign (UnpackedFloat.packComponents F s e m) = s.toBitVec := by
  ext i hi
  obtain rfl : i = 0 := by omega
  simp [UnpackedFloat.unpackSign, UnpackedFloat.packComponents, BitVec.getLsbD_append,
    BitVec.getLsbD_eq_getElem, BitVec.getElem_append]

@[simp] theorem ofBitVec_toBitVec (s : Sign) : Sign.ofBitVec s.toBitVec = s := by
  cases s <;> rfl

/-- A number of bits that are neither all ones nor all zeros. -/
theorem ofNat_ne_of_lt {n k : Nat} (h : k + 1 < 2 ^ n) (h0 : 0 < k) :
    (BitVec.ofNat n k) ≠ -1#n ∧ (BitVec.ofNat n k) ≠ 0#n := by
  have hk : (BitVec.ofNat n k).toNat = k := by
    rw [BitVec.toNat_ofNat, Nat.mod_eq_of_lt (by omega)]
  constructor
  · intro heq
    have htop := congrArg BitVec.toNat heq
    rw [hk, BitVec.neg_one_eq_allOnes, BitVec.toNat_allOnes] at htop
    omega
  · intro heq
    have hzero := congrArg BitVec.toNat heq
    rw [hk, BitVec.toNat_zero] at hzero
    omega

/-- Zeros are not all ones, where there is a bit. -/
theorem zero_ne_neg_one {n : Nat} (h : 0 < n) : (0#n) ≠ -1#n := by
  intro heq
  have htop := congrArg BitVec.toNat heq
  rw [BitVec.neg_one_eq_allOnes, BitVec.toNat_allOnes, BitVec.toNat_zero] at htop
  have := Nat.one_lt_two_pow h.ne'
  omega

/-- The highest bit is not zero. -/
theorem one_shiftLeft_ne_zero {n : Nat} (h : 0 < n) : (1#n <<< (n - 1)) ≠ 0#n := by
  intro heq
  have hbit := congrArg (·.getLsbD (n - 1)) heq
  simp [h] at hbit

/-- The exponent that is packed is neither zero nor the one that is kept for other numbers. -/
theorem exists_biasedExponent {F : Format} {m : Nat} {e : Int} (h : Fits F m e) :
    ∃ k : Nat, e + F.exponentBias + F.mantissaBitsWithoutImplicit = k ∧ 0 < k ∧
      k + 1 < 2 ^ F.exponentBits := by
  obtain ⟨-, hlowest, hhighest, -⟩ := h
  have hbits := two_pow_exponentBits F
  have hmin := minExponent_eq F
  obtain ⟨k, hk⟩ : ∃ k : Nat, e + F.exponentBias + F.mantissaBitsWithoutImplicit = k :=
    ⟨_, (Int.toNat_of_nonneg (by omega)).symm⟩
  exact ⟨k, hk, by omega, by omega⟩

/-- The leading bit of the significand of a normal number is left out and put back. -/
theorem unpack_pack_normal {F : Format} {s : Sign} {m : Nat} {e : Int} (hpos : 0 < m)
    (h : Fits F m e) (hm : 2 ^ F.mantissaBitsWithoutImplicit ≤ m) :
    UnpackedFloat.unpack F (UnpackedFloat.pack F (.finite s m e hpos)) = .finite s m e hpos := by
  obtain ⟨k, hk, hk0, hktop⟩ := exists_biasedExponent h
  obtain ⟨hlt, -, -, -⟩ := h
  have hbits := two_pow_exponentBits F
  have hkmod : k % 2 ^ F.exponentBits = k := Nat.mod_eq_of_lt (by omega)
  have hlog : m.log2 + 1 = F.mantissaBits := by
    have h1 := (Nat.le_log2 hpos.ne').mpr hm
    have h2 := (Nat.log2_lt hpos.ne').mpr hlt
    rw [Format.mantissaBits]
    omega
  have hback : (1#1 ++ BitVec.ofNat F.mantissaBitsWithoutImplicit m).toNat = m := by
    rw [toNat_one_append, BitVec.toNat_ofNat]
    rw [pow_succ] at hlt
    rw [Nat.mod_eq_sub_mod hm, Nat.mod_eq_of_lt (by omega)]
    omega
  obtain ⟨htop, hbottom⟩ := ofNat_ne_of_lt hktop hk0
  have hpack : UnpackedFloat.pack F (.finite s m e hpos)
      = UnpackedFloat.packComponents F s (BitVec.ofNat _ k) (BitVec.ofNat _ m) := by
    simp only [UnpackedFloat.pack, hk, Int.toNat_natCast]
    rw [if_neg (by omega), if_pos hlog]
  rw [hpack, UnpackedFloat.unpack]
  simp only [UnpackedFloat.unpackMantissa_packComponents,
    UnpackedFloat.unpackExponent_packComponents, unpackSign_packComponents, ofBitVec_toBitVec,
    htop, hbottom, if_false, hback, BitVec.toNat_ofNat, hkmod]
  congr 1
  omega

/-- A subnormal number is packed with its significand as it is. -/
theorem unpack_pack_subnormal {F : Format} {s : Sign} {m : Nat} {e : Int} (hpos : 0 < m)
    (h : Fits F m e) (hm : m < 2 ^ F.mantissaBitsWithoutImplicit) :
    UnpackedFloat.unpack F (UnpackedFloat.pack F (.finite s m e hpos)) = .finite s m e hpos := by
  obtain ⟨k, hk, hk0, hktop⟩ := exists_biasedExponent h
  obtain ⟨-, -, -, hnormal⟩ := h
  have hbits := two_pow_exponentBits F
  have hmin := minExponent_eq F
  have he : e = F.minExponent := hnormal.resolve_right (not_le.mpr hm)
  have hlog : ¬ m.log2 + 1 = F.mantissaBits := by
    have h1 := (Nat.log2_lt hpos.ne').mpr hm
    rw [Format.mantissaBits]
    omega
  have hback : (BitVec.ofNat F.mantissaBitsWithoutImplicit m).toNat = m := by
    rw [BitVec.toNat_ofNat, Nat.mod_eq_of_lt hm]
  have hne : BitVec.ofNat F.mantissaBitsWithoutImplicit m ≠ 0#_ := by
    intro heq
    have hzero := congrArg BitVec.toNat heq
    rw [hback, BitVec.toNat_zero] at hzero
    omega
  have hpack : UnpackedFloat.pack F (.finite s m e hpos)
      = UnpackedFloat.packComponents F s 0#_ (BitVec.ofNat _ m) := by
    simp only [UnpackedFloat.pack, hk, Int.toNat_natCast]
    rw [if_neg (by omega), if_neg hlog]
  rw [hpack, UnpackedFloat.unpack]
  simp only [UnpackedFloat.unpackMantissa_packComponents,
    UnpackedFloat.unpackExponent_packComponents, unpackSign_packComponents, ofBitVec_toBitVec,
    zero_ne_neg_one F.he, hne, if_false, if_true, dite_false, hback, BitVec.toNat_zero]
  congr 1
  omega

/-- Packing a finite number of the format loses nothing. -/
theorem unpack_pack_finite {F : Format} {s : Sign} {m : Nat} {e : Int} (hpos : 0 < m)
    (h : Fits F m e) :
    UnpackedFloat.unpack F (UnpackedFloat.pack F (.finite s m e hpos)) = .finite s m e hpos := by
  by_cases hm : 2 ^ F.mantissaBitsWithoutImplicit ≤ m
  · exact unpack_pack_normal hpos h hm
  · exact unpack_pack_subnormal hpos h (not_le.mp hm)

/-- Packing a number of the format loses nothing. -/
theorem unpack_pack {F : Format} {x : UnpackedFloat} (h : InFormat F x) :
    UnpackedFloat.unpack F (UnpackedFloat.pack F x) = x := by
  cases x with
  | notANumber =>
    have hone := one_shiftLeft_ne_zero F.hm
    simp [UnpackedFloat.pack, UnpackedFloat.packedNaN, UnpackedFloat.unpack, hone]
  | infinity s => simp [UnpackedFloat.pack, UnpackedFloat.packedInfinity, UnpackedFloat.unpack]
  | zero s =>
    simp [UnpackedFloat.pack, UnpackedFloat.packedZero, UnpackedFloat.unpack,
      zero_ne_neg_one F.he]
  | finite s m e hpos => exact unpack_pack_finite hpos h

/-! ## Values -/

/-- The place of a rational number between the infinities. -/
def ofRat (q : ℚ) : WithBot (WithTop ℚ) := ((q : WithTop ℚ) : WithBot (WithTop ℚ))

theorem ofRat_strictMono : StrictMono ofRat :=
  WithBot.coe_strictMono.comp WithTop.coe_strictMono

@[simp] theorem cmp_ofRat (p q : ℚ) : cmp (ofRat p) (ofRat q) = cmp p q :=
  ofRat_strictMono.cmp_map_eq p q

theorem ofRat_lt_top (q : ℚ) : ofRat q < ⊤ := WithBot.coe_lt_coe.mpr (WithTop.coe_lt_top q)

theorem bot_lt_ofRat (q : ℚ) : ⊥ < ofRat q := WithBot.bot_lt_coe _

@[simp] theorem cmp_ofRat_top (q : ℚ) : cmp (ofRat q) ⊤ = .lt := (ofRat_lt_top q).cmp_eq_lt

@[simp] theorem cmp_top_ofRat (q : ℚ) : cmp ⊤ (ofRat q) = .gt := (ofRat_lt_top q).cmp_eq_gt

@[simp] theorem cmp_bot_ofRat (q : ℚ) : cmp ⊥ (ofRat q) = .lt := (bot_lt_ofRat q).cmp_eq_lt

@[simp] theorem cmp_ofRat_bot (q : ℚ) : cmp (ofRat q) ⊥ = .gt := (bot_lt_ofRat q).cmp_eq_gt

@[simp] theorem cmp_bot_top : cmp (⊥ : WithBot (WithTop ℚ)) ⊤ = .lt := bot_lt_top.cmp_eq_lt

@[simp] theorem cmp_top_bot : cmp (⊤ : WithBot (WithTop ℚ)) ⊥ = .gt := bot_lt_top.cmp_eq_gt

/-- The number that an unpacked number stands for, if it is one. -/
def value? : UnpackedFloat → Option (WithBot (WithTop ℚ))
  | .notANumber => none
  | .infinity .negative => some ⊥
  | .infinity .positive => some ⊤
  | .zero _ => some (ofRat 0)
  | .finite .negative m e _ => some (ofRat (-(m * 2 ^ e)))
  | .finite .positive m e _ => some (ofRat (m * 2 ^ e))

/-- The order of values, in which what is no number has no place. -/
def cmpValues (x y : Option (WithBot (WithTop ℚ))) : Option Ordering :=
  x.bind fun a ↦ y.map fun b ↦ cmp a b

/-- A number of a format with a smaller exponent is smaller. -/
theorem value_lt_of_exponent_lt {F : Format} {m₁ m₂ : Nat} {e₁ e₂ : Int} (h₁ : Fits F m₁ e₁)
    (h₂ : Fits F m₂ e₂) (h : e₁ < e₂) : (m₁ * 2 ^ e₁ : ℚ) < m₂ * 2 ^ e₂ := by
  have hm₂ : 2 ^ F.mantissaBitsWithoutImplicit ≤ m₂ := by
    refine h₂.normal.resolve_left fun he ↦ ?_
    have := h₁.lowest_le
    omega
  have hm₁ : (m₁ : ℚ) < 2 ^ F.mantissaBitsWithoutImplicit * 2 := by
    have := h₁.lt
    rw [pow_succ] at this
    exact_mod_cast this
  calc
    (m₁ * 2 ^ e₁ : ℚ) < 2 ^ F.mantissaBitsWithoutImplicit * 2 * 2 ^ e₁ := by gcongr
    _ = 2 ^ F.mantissaBitsWithoutImplicit * 2 ^ (e₁ + 1) := by
      rw [zpow_add_one₀ (by norm_num)]; ring
    _ ≤ m₂ * 2 ^ e₂ := by
      gcongr
      · exact_mod_cast hm₂
      · norm_num
      · omega

/-- Numbers of a format compare by their exponents first, then by their significands. -/
theorem cmp_value {F : Format} {m₁ m₂ : Nat} {e₁ e₂ : Int} (h₁ : Fits F m₁ e₁)
    (h₂ : Fits F m₂ e₂) :
    cmp (m₁ * 2 ^ e₁ : ℚ) (m₂ * 2 ^ e₂) = (compare e₁ e₂).then (compare m₁ m₂) := by
  rcases lt_trichotomy e₁ e₂ with h | rfl | h
  · rw [(value_lt_of_exponent_lt h₁ h₂ h).cmp_eq_lt, compare_lt_iff_lt.mpr h]
    rfl
  · rw [cmp_mul_pos_right (by positivity), Nat.strictMono_cast.cmp_map_eq, cmp_eq_compare]
    simp
  · rw [(value_lt_of_exponent_lt h₂ h₁ h).cmp_eq_gt, compare_gt_iff_gt.mpr h]
    rfl

/-- Two numbers of one format compare as the numbers they stand for. -/
theorem compare_eq_cmpValues {F : Format} {x y : UnpackedFloat} (hx : InFormat F x)
    (hy : InFormat F y) : x.compare y = cmpValues (value? x) (value? y) := by
  have hpos {m : Nat} (h : 0 < m) (e : Int) : (0 : ℚ) < m * 2 ^ e := by positivity
  have hneg {m : Nat} (h : 0 < m) (e : Int) : -(m * 2 ^ e : ℚ) < 0 := neg_lt_zero.mpr (hpos h e)
  rcases x with (_ | _) | _ | _ | ⟨_ | _, m₁, e₁, h₁⟩ <;>
    rcases y with (_ | _) | _ | _ | ⟨_ | _, m₂, e₂, h₂⟩ <;>
    simp only [UnpackedFloat.compare, value?, cmpValues, Option.bind_none, Option.bind_some,
      Option.map_none, Option.map_some, Option.some.injEq, cmp_ofRat, cmp_ofRat_top,
      cmp_top_ofRat, cmp_bot_ofRat, cmp_ofRat_bot, cmp_bot_top, cmp_top_bot, cmp_self_eq_eq]
  · rfl
  · rfl
  · rfl
  · rfl
  -- zero beside a finite number
  · exact (hneg h₂ e₂).cmp_eq_gt.symm
  · exact (hpos h₂ e₂).cmp_eq_lt.symm
  -- a negative number on the left
  · exact (hneg h₁ e₁).cmp_eq_lt.symm
  · have hanti : StrictAnti fun q : ℚ ↦ -q := fun p q h ↦ neg_lt_neg h
    rw [← cmp_value hx hy, cmp_swap]
    exact (hanti.cmp_map_eq _ _).symm
  · exact ((hneg h₁ e₁).trans (hpos h₂ e₂)).cmp_eq_lt.symm
  -- a positive number on the left
  · exact (hpos h₁ e₁).cmp_eq_gt.symm
  · exact ((hneg h₂ e₂).trans (hpos h₁ e₁)).cmp_eq_gt.symm
  · exact (cmp_value hx hy).symm

end RecordFilter.Number
