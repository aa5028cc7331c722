import Mathlib.Tactic.SplitIfs
import RecordFilter.Proofs.Outcome
import RecordFilter.Scalar.Coercion

/-!
# What values convert to

A raw value that converts to a kind converts to a scalar of that kind, and the
kind says a good deal about the scalar: an integer lies between its bounds, a
narrow floating-point number was a narrow one before, a variant stands in its
enumeration.  Each lemma here is about one reader and says which scalars can
come out of it.  A single value and a list are coerced by converting elements,
so what is known of a coerced datum follows from what is known of its scalars.
-/

namespace RecordFilter

/-- The integers of a kind have 64 bits at most. -/
theorem Kind.bounds?_fit {k : Kind} {low high : Int} (h : k.bounds? = some (low, high)) :
    (low = 0 ∧ high ≤ 18446744073709551615) ∨
      (low ≠ 0 ∧ -9223372036854775808 ≤ low ∧ high ≤ 9223372036854775807) := by
  cases k <;> cases h <;> decide

namespace Coercion

/-! ## Readers -/

/-- A raw value converts by its lexeme, unless it is a truth value. -/
theorem convert_eq_ok {raw : Raw} {k : Kind} {v : Scalar} (h : convert raw k = .ok v) :
    (∃ lexeme, readLexeme lexeme k = .ok v) ∨ (k = .boolean ∧ ∃ b, v = .bool b) ∨
      (k = .text ∧ ∃ s, v = .text s) := by
  cases raw with
  | null => cases h
  | list items => cases h
  | number lexeme => exact Or.inl ⟨lexeme, h⟩
  | text lexeme => exact Or.inl ⟨lexeme, h⟩
  | boolean b =>
    cases k
    case boolean => cases h; exact Or.inr (Or.inl ⟨rfl, b, rfl⟩)
    case text => cases h; exact Or.inr (Or.inr ⟨rfl, _, rfl⟩)
    all_goals cases h

/-- Kinds other than truth values and texts convert by their lexemes only. -/
theorem exists_readLexeme {raw : Raw} {k : Kind} {v : Scalar} (h : convert raw k = .ok v)
    (hb : k ≠ .boolean) (ht : k ≠ .text) : ∃ lexeme, readLexeme lexeme k = .ok v := by
  rcases convert_eq_ok h with hlexeme | ⟨hk, -⟩ | ⟨hk, -⟩
  · exact hlexeme
  · exact absurd hk hb
  · exact absurd hk ht

/-- An integer that is read lies between the bounds. -/
theorem readInteger_eq_ok {low high n : Int} {s : List Char} (h : readInteger low high s = .ok n) :
    low ≤ n ∧ n ≤ high := by
  simp only [readInteger] at h
  split_ifs at h <;> cases h
  all_goals omega

/-- What an integer between the bounds of a kind is narrowed to. -/
def integerScalar (low n : Int) : Scalar :=
  if low = 0 then .uint (UInt64.ofNat n.toNat) else .int (Int64.ofInt n)

/-- An integer that has 64 bits without a sign is not changed by being put into them. -/
theorem toNat_ofNat_toNat {n : Int} (hlow : 0 ≤ n) (hhigh : n ≤ 18446744073709551615) :
    ((UInt64.ofNat n.toNat).toNat : Int) = n := by
  have hsize : UInt64.size = 18446744073709551616 := rfl
  have hnat : n.toNat < UInt64.size := by omega
  rw [UInt64.toNat_ofNat_of_lt' hnat, Int.toNat_of_nonneg hlow]

/-- Between the bounds of a kind, an integer can always be narrowed. -/
theorem narrow?_eq {k : Kind} {low high n : Int} (hk : k.bounds? = some (low, high))
    (hlow : low ≤ n) (hhigh : n ≤ high) : narrow? low n = some (integerScalar low n) := by
  rcases k.bounds?_fit hk with ⟨rfl, hfit⟩ | ⟨hsigned, hlow', hhigh'⟩
  · have hsize : 0 ≤ n ∧ n ≤ 18446744073709551615 := ⟨hlow, by omega⟩
    rw [narrow?, if_pos rfl, unsigned?, if_pos hsize, integerScalar, if_pos rfl]
  · have hsize : -9223372036854775808 ≤ n ∧ n ≤ 9223372036854775807 := by omega
    rw [narrow?, if_neg hsigned, signed?, if_pos hsize, integerScalar, if_neg hsigned]

/-- The bounds of a kind have less than 128 bits. -/
theorem bounds?_lt_wideBound {k : Kind} {low high : Int} (hk : k.bounds? = some (low, high)) :
    -(wideBound : Int) < low ∧ high < (wideBound : Int) := by
  have hwide : (18446744073709551615 : Int) < wideBound := by decide
  rcases k.bounds?_fit hk with ⟨rfl, hfit⟩ | ⟨-, hlow, hhigh⟩ <;> omega

/-- A lexeme of an integer kind is read as an integer between bounds, which is then narrowed. -/
theorem readLexeme_of_bounds? {k : Kind} {low high : Int} (hk : k.bounds? = some (low, high))
    (lexeme : String) :
    readLexeme lexeme k
      = (readInteger low high (Text.trim lexeme.toList)).map (integerScalar low) := by
  have hread : readLexeme lexeme k = readIntegerScalar low high (Text.trim lexeme.toList) := by
    cases k <;> first | cases hk; rfl | cases hk
  rw [hread, readIntegerScalar]
  cases hn : readInteger low high (Text.trim lexeme.toList) with
  | error m => rfl
  | ok n =>
    obtain ⟨hlow, hhigh⟩ := readInteger_eq_ok hn
    simp only [bind, Except.bind, narrow?_eq hk hlow hhigh]
    rfl

/-- What is read of an integer kind is an integer between the bounds of the kind. -/
theorem readLexeme_integer {lexeme : String} {k : Kind} {low high : Int} {v : Scalar}
    (hk : k.bounds? = some (low, high)) (h : readLexeme lexeme k = .ok v) :
    ∃ n, low ≤ n ∧ n ≤ high ∧ v = integerScalar low n := by
  rw [readLexeme_of_bounds? hk] at h
  obtain ⟨n, hn, rfl⟩ := map_eq_ok_iff.mp h
  obtain ⟨hlow, hhigh⟩ := readInteger_eq_ok hn
  exact ⟨n, hlow, hhigh, rfl⟩

/-- A narrow floating-point number is widened when it is read. -/
theorem readLexeme_float32 {lexeme : String} {v : Scalar}
    (h : readLexeme lexeme .float32 = .ok v) : ∃ x, v = .float (Number.widen x) := by
  simp only [readLexeme, readFloat32] at h
  split at h
  · cases h
  · next x _ =>
    split_ifs at h
    cases h
    exact ⟨x, rfl⟩

/-- The variant that is read has the name at its ordinal. -/
theorem readLexeme_enumeration {lexeme : String} {e : Enumeration} {v : Scalar}
    (h : readLexeme lexeme (.enumeration e) = .ok v) :
    ∃ name ordinal, e.variants[ordinal]? = some name ∧ v = .variant e.name name ordinal := by
  have hat : ∀ {i ordinal : Nat} {name : String}, e.at? i = some (ordinal, name) →
      e.variants[ordinal]? = some name := by
    intro i ordinal name hi
    obtain ⟨found, hfound, heq⟩ := Option.map_eq_some_iff.mp hi
    cases heq
    exact hfound
  simp only [readLexeme, readVariant] at h
  split at h
  · next ordinal name hfound =>
    cases h
    refine ⟨name, ordinal, ?_, rfl⟩
    rcases Option.or_eq_some_iff.mp hfound with hname | ⟨-, hordinal⟩
    · obtain ⟨i, -, hi⟩ := Option.bind_eq_some_iff.mp hname
      exact hat hi
    · obtain ⟨i, -, hi⟩ := Option.bind_eq_some_iff.mp hordinal
      exact hat hi
  · cases h

/-! ## Data -/

/-- Whether a scalar is what some raw value converts to. -/
def IsConversion (k : Kind) (v : Scalar) : Prop := ∃ raw, convert raw k = .ok v

/-- Whether a scalar or null is what some element of a raw value converts to. -/
def IsElement (k : Kind) (nullable : Bool) (v : Option Scalar) : Prop :=
  (nullable = true ∧ v = none) ∨ ∃ w, IsConversion k w ∧ v = some w

/-- The path only shows in the error. -/
theorem coerceScalar_eq_ok_iff {path : String} {raw : Raw} {k : Kind} {v : Scalar} :
    coerceScalar path raw k = .ok v ↔ convert raw k = .ok v := by
  rw [coerceScalar]
  cases convert raw k <;> simp [Except.mapError]

theorem coerceScalar_eq_ok {path : String} {raw : Raw} {k : Kind} {v : Scalar}
    (h : coerceScalar path raw k = .ok v) : IsConversion k v :=
  ⟨raw, coerceScalar_eq_ok_iff.mp h⟩

/-- A single value is null, where that is admitted, or a conversion. -/
theorem coerceSingle_eq_ok {path : String} {raw : Raw} {k : Kind} {nullable : Bool} {d : Datum}
    (h : coerceSingle path raw k nullable = .ok d) :
    (nullable = true ∧ d = .null) ∨ ∃ v, IsConversion k v ∧ d = .single v := by
  rw [coerceSingle] at h
  split at h
  · cases h
  · next w _ =>
    split at h
    · next hnull =>
      cases h
      exact Or.inl ⟨(Bool.and_eq_true_iff.mp hnull).2, rfl⟩
    · obtain ⟨v, hv, rfl⟩ := map_eq_ok_iff.mp h
      exact Or.inr ⟨v, coerceScalar_eq_ok hv, rfl⟩

/-- An element of a list is null, where that is admitted, or a conversion. -/
theorem coerceElement_eq_ok {path : String} {raw element : Raw} {k : Kind} {nullable : Bool}
    {v : Option Scalar} (h : coerceElement path raw k nullable element = .ok v) :
    IsElement k nullable v := by
  rw [coerceElement] at h
  split at h
  · split at h
    · next hnullable =>
      cases h
      exact Or.inl ⟨hnullable, rfl⟩
    · cases h
  · obtain ⟨w, hw, rfl⟩ := map_eq_ok_iff.mp h
    exact Or.inr ⟨w, coerceScalar_eq_ok hw, rfl⟩

/-- A list has only elements that are null, where that is admitted, or conversions. -/
theorem coerceMany_eq_ok {path : String} {raw : Raw} {k : Kind} {nullable : Bool} {d : Datum}
    (h : coerceMany path raw k nullable = .ok d) :
    ∃ vs, d = .ofOptions vs ∧ ∀ v ∈ vs, IsElement k nullable v := by
  obtain ⟨vs, hvs, rfl⟩ := map_eq_ok_iff.mp h
  refine ⟨vs, rfl, fun v hv ↦ ?_⟩
  have hall := mapM_eq_ok_iff.mp hvs
  generalize raw.elements = elements at hall
  clear h hvs
  induction hall with
  | nil => cases hv
  | cons hfirst _ ih =>
    rcases List.mem_cons.mp hv with rfl | hv
    · exact coerceElement_eq_ok hfirst
    · exact ih hv

end Coercion

end RecordFilter
