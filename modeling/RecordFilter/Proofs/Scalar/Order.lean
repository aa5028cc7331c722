import RecordFilter.Proofs.Scalar.FieldType
import Mathlib.Algebra.Order.Ring.Int

/-!
# The order of scalars

Every kind holds its values in scalars of one type, which `Carrier` names.  Two
scalars of a type compare by their ranks, a text and a list of numbers, and so do
integers with and without signs, which stand on one line.  Ranks are ordered in
full: so are, then, the scalars of a kind.  Floating-point numbers are left out,
since NaN has no place among them.
-/

namespace RecordFilter

open Number (Decimal tenTo)
open Calendar (Date Time DateTime Timestamp)

/-! ## Types of scalars -/

/-- The types of scalars; variants are of one type when their enumerations share a name. -/
inductive Carrier where
  | bool
  | int
  | uint
  | float
  | decimal
  | char
  | text
  | date
  | dateTime
  | timestamp
  | variant (typeName : String)

namespace Carrier

/-- The line that the scalars of a type stand on.  Integers with and without signs share one. -/
def line : Carrier → Carrier
  | uint => int
  | c => c

theorem line_eq_float_iff {c : Carrier} : c.line = .float ↔ c = .float := by
  cases c <;> simp [line]

end Carrier

def Scalar.carrier : Scalar → Carrier
  | bool _ => .bool
  | int _ => .int
  | uint _ => .uint
  | float _ => .float
  | decimal _ => .decimal
  | char _ => .char
  | text _ => .text
  | date _ => .date
  | dateTime _ => .dateTime
  | timestamp _ => .timestamp
  | variant typeName _ _ => .variant typeName

namespace Kind

/-- The type of the scalars that values of a kind become. -/
def carrier : Kind → Carrier
  | boolean => .bool
  | int8 | int16 | int32 | int64 => .int
  | uint8 | uint16 | uint32 | uint64 => .uint
  | float32 | float64 => .float
  | decimal => .decimal
  | char => .char
  | text => .text
  | date => .date
  | dateTime => .dateTime
  | timestamp => .timestamp
  | enumeration e => .variant e.name

/-- Whether a scalar is of the type that a kind holds its values in. -/
def Covers (k : Kind) (v : Scalar) : Prop := v.carrier = k.carrier

theorem covers_toScalar {k : Kind} (b : k.Value) : k.Covers (toScalar b) := by
  cases k <;> rfl

theorem covers_integerScalar {k : Kind} {low high : Int} (hk : k.bounds? = some (low, high))
    (n : Int) : k.Covers (Coercion.integerScalar low n) := by
  cases k <;> cases hk <;> rfl

theorem covers_of_readLexeme {k : Kind} {lexeme : String} {v : Scalar}
    (h : Coercion.readLexeme lexeme k = .ok v) : k.Covers v := by
  cases hbounds : k.bounds? with
  | some bounds =>
    obtain ⟨n, -, -, rfl⟩ := Coercion.readLexeme_integer hbounds h
    exact covers_integerScalar hbounds n
  | none =>
    cases k
    case enumeration e =>
      obtain ⟨name, ordinal, -, rfl⟩ := Coercion.readLexeme_enumeration h
      rfl
    case float32 =>
      obtain ⟨x, rfl⟩ := Coercion.readLexeme_float32 h
      rfl
    case boolean =>
      simp only [Coercion.readLexeme, Coercion.readBoolean] at h
      split_ifs at h <;> cases h <;> rfl
    case float64 =>
      simp only [Coercion.readLexeme, Coercion.readFloat64] at h
      split at h
      · cases h
      · split_ifs at h
        cases h
        rfl
    case text =>
      cases h
      rfl
    -- one reader, whose value goes into a scalar as it is
    case decimal | char | date | dateTime | timestamp =>
      simp only [Coercion.readLexeme] at h
      split at h <;> cases h
      rfl
    all_goals cases hbounds

/-- Whatever converts to a kind becomes a scalar of its type, even if names of variants repeat. -/
theorem covers_of_convert {k : Kind} {raw : Raw} {v : Scalar}
    (h : Coercion.convert raw k = .ok v) : k.Covers v := by
  rcases Coercion.convert_eq_ok h with ⟨lexeme, hread⟩ | ⟨rfl, b, rfl⟩ | ⟨rfl, s, rfl⟩
  · exact covers_of_readLexeme hread
  · rfl
  · rfl

end Kind

/-! ## Ranks -/

/-- What decides between scalars of one type: a text, and after it numbers. -/
structure Rank where
  text : String := ""
  numbers : List Int := []

namespace Rank

instance : Ord Rank := ⟨compareLex (compareOn text) (compareOn numbers)⟩

instance : Std.TransOrd Rank :=
  inferInstanceAs (Std.TransCmp (compareLex (compareOn text) (compareOn numbers)))

theorem compare_texts (s t : String) : compare (⟨s, []⟩ : Rank) ⟨t, []⟩ = compare s t := by
  show (compare s t).then (compare ([] : List Int) []) = compare s t
  rw [List.compare_nil_nil, Ordering.then_eq]

theorem compare_numbers (ms ns : List Int) :
    compare (⟨"", ms⟩ : Rank) ⟨"", ns⟩ = compare ms ns := by
  show (compare "" "").then (compare ms ns) = compare ms ns
  rw [Std.ReflOrd.compare_self, Ordering.eq_then]

theorem compare_singletons (m n : Int) :
    compare (⟨"", [m]⟩ : Rank) ⟨"", [n]⟩ = compare m n := by
  rw [compare_numbers, List.compare_cons_cons, List.compare_nil_nil, Ordering.then_eq]

end Rank

theorem compare_natCast (m n : Nat) : compare (m : Int) n = compare m n := by
  rw [← cmp_eq_compare, ← cmp_eq_compare]
  exact Nat.strictMono_cast.cmp_map_eq m n

namespace Number.Decimal

/-- The number in units of the largest scale. -/
def units (d : Decimal) : Int := d.signed * tenTo (maxScale - d.scale)

/-- What a decimal is compared by, taken times powers of ten, is its number of units. -/
theorem signed_mul_tenTo (a b : Decimal) :
    a.signed * tenTo b.scale * (tenTo (maxScale - a.scale) * tenTo (maxScale - b.scale))
      = a.units * tenTo maxScale := by
  have hpow : tenTo b.scale * tenTo (maxScale - b.scale) = tenTo maxScale := by
    show 10 ^ b.scale * 10 ^ (maxScale - b.scale) = 10 ^ maxScale
    rw [← pow_add, Nat.add_sub_cancel' b.scale_le]
  rw [units, ← hpow]
  push_cast
  ring

/-- Decimals compare as whole numbers of the least units. -/
theorem compare_eq_units (a b : Decimal) : a.compare b = Ord.compare a.units b.units := by
  have hpos : ∀ n, (0 : Int) < tenTo n := fun n ↦ Int.natCast_pos.mpr (Nat.pow_pos (by decide))
  have hfactor : (0 : Int) < tenTo (maxScale - a.scale) * tenTo (maxScale - b.scale) :=
    mul_pos (hpos _) (hpos _)
  show Ord.compare (a.signed * tenTo b.scale) (b.signed * tenTo a.scale) = _
  rw [← cmp_eq_compare, ← cmp_mul_pos_right hfactor, signed_mul_tenTo,
    mul_comm (tenTo (maxScale - a.scale) : Int), signed_mul_tenTo,
    cmp_mul_pos_right (hpos maxScale), cmp_eq_compare]

end Number.Decimal

namespace Calendar

def Date.numbers (d : Date) : List Int := [d.year, d.month, d.day]

def Time.numbers (t : Time) : List Int := [t.hour, t.minute, t.second, t.nano]

def DateTime.numbers (t : DateTime) : List Int := t.date.numbers ++ t.time.numbers

theorem Date.compare_eq_numbers (a b : Date) :
    a.compare b = Ord.compare a.numbers b.numbers := by
  simp only [Date.compare, Date.numbers, List.compare_cons_cons, List.compare_nil_nil,
    compare_natCast, Ordering.then_eq]

theorem DateTime.compare_eq_numbers (a b : DateTime) :
    a.compare b = Ord.compare a.numbers b.numbers := by
  simp only [DateTime.compare, Date.compare, Time.compare, DateTime.numbers, Date.numbers,
    Time.numbers, List.cons_append, List.nil_append, List.compare_cons_cons, List.compare_nil_nil,
    compare_natCast, Ordering.then_eq, Ordering.then_assoc]

end Calendar

namespace Scalar

def rank : Scalar → Rank
  | bool b => ⟨"", [b.toNat]⟩
  | int n => ⟨"", [n.toInt]⟩
  | uint n => ⟨"", [n.toNat]⟩
  | float _ => {}
  | decimal d => ⟨"", [d.units]⟩
  | char c => ⟨"", [c.toNat]⟩
  | text s => ⟨s, []⟩
  | date d => ⟨"", d.numbers⟩
  | dateTime t => ⟨"", t.numbers⟩
  | timestamp t => ⟨"", t.utc.numbers⟩
  | variant _ _ ordinal => ⟨"", [ordinal]⟩

/-- Scalars of one line compare by their ranks. -/
theorem compare?_eq_rank_of_line {a b : Scalar} (h : a.carrier.line = b.carrier.line)
    (hfloat : a.carrier.line ≠ .float) : a.compare? b = some (Ord.compare a.rank b.rank) := by
  cases a with
  | float x => exact absurd rfl hfloat
  | bool a =>
    cases b with
    | bool b => cases a <;> cases b <;> rfl
    | _ => cases h
  | int m =>
    cases b with
    | int n | uint n => exact congrArg some (Rank.compare_singletons _ _).symm
    | _ => cases h
  | uint m =>
    cases b with
    | int n => exact congrArg some (Rank.compare_singletons _ _).symm
    | uint n => rw [rank, rank, Rank.compare_singletons, compare_natCast, compare?]
    | _ => cases h
  | decimal d =>
    cases b with
    | decimal e => rw [rank, rank, Rank.compare_singletons, ← Decimal.compare_eq_units, compare?]
    | _ => cases h
  | char c =>
    cases b with
    | char d => rw [rank, rank, Rank.compare_singletons, compare_natCast, compare?]
    | _ => cases h
  | text s =>
    cases b with
    | text t => exact congrArg some (Rank.compare_texts s t).symm
    | _ => cases h
  | date d =>
    cases b with
    | date e => rw [rank, rank, Rank.compare_numbers, ← Date.compare_eq_numbers, compare?]
    | _ => cases h
  | dateTime t =>
    cases b with
    | dateTime u => rw [rank, rank, Rank.compare_numbers, ← DateTime.compare_eq_numbers, compare?]
    | _ => cases h
  | timestamp t =>
    cases b with
    | timestamp u =>
      rw [rank, rank, Rank.compare_numbers, ← DateTime.compare_eq_numbers]
      rfl
    | _ => cases h
  | variant t name m =>
    cases b with
    | variant u name' n =>
      obtain rfl : t = u := Carrier.variant.inj h
      rw [rank, rank, Rank.compare_singletons, compare_natCast, compare?, if_pos rfl]
    | _ => cases h

/-- Scalars of one type compare by their ranks. -/
theorem compare?_eq_rank {a b : Scalar} (h : a.carrier = b.carrier) (hfloat : a.carrier ≠ .float) :
    a.compare? b = some (Ord.compare a.rank b.rank) :=
  compare?_eq_rank_of_line (congrArg Carrier.line h) (Carrier.line_eq_float_iff.not.mpr hfloat)

/-! ## Scalars without a place -/

/-- Whether a scalar is a floating-point number that is none. -/
def isNaN : Scalar → Bool
  | float x => x.isNaN
  | _ => false

theorem isNaN_eq_false {a : Scalar} (h : a.carrier ≠ .float) : a.isNaN = false := by
  cases a with
  | float x => exact absurd rfl h
  | _ => rfl

end Scalar

theorem Number.wideValue?_isSome (x : Float) : (wideValue? x).isSome = !x.isNaN := by
  have hunpack : x.isNaN = x.toModel.unpack.isNaN := rfl
  rw [wideValue?, hunpack]
  cases x.toModel.unpack with
  | notANumber => rfl
  | zero sign => rfl
  | infinity sign | finite sign => cases sign <;> rfl

/-- Floating-point numbers compare unless one of them is none. -/
theorem isSome_compareFloats (x y : Float) :
    (compareFloats x y).isSome = (!x.isNaN && !y.isNaN) := by
  rw [compareFloats_eq, ← Number.wideValue?_isSome, ← Number.wideValue?_isSome, Number.cmpValues]
  cases Number.wideValue? x <;> cases Number.wideValue? y <;> rfl

/-- Scalars of one type compare unless one of them is no number. -/
theorem Scalar.isSome_compare? {a b : Scalar} (h : a.carrier = b.carrier) :
    (a.compare? b).isSome = (!a.isNaN && !b.isNaN) := by
  by_cases hfloat : a.carrier = .float
  · cases a with
    | float x =>
      cases b with
      | float y => exact isSome_compareFloats x y
      | _ => cases h
    | _ => cases hfloat
  · rw [compare?_eq_rank h hfloat, isNaN_eq_false hfloat, isNaN_eq_false (h ▸ hfloat)]
    rfl

end RecordFilter
