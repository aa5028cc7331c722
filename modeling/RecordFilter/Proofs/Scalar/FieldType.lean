import RecordFilter.Proofs.Number.Precision
import RecordFilter.Proofs.Scalar.Conversion

/-!
# Types of fields are lawful

A field compares its own values, and a filter compares the scalars they become.
`LawfulFieldType` says that this makes no difference: values compare like their
scalars, a scalar of the type comes back as a value that compares like the one
it was, and everything that a raw value converts to is such a scalar.  Every
type a field can have is lawful, enumerations as long as no two of their
variants share a name.
-/

namespace RecordFilter

open Number (Decimal)
open Calendar (Date DateTime Timestamp)

/-- A type of fields that can be taken for the scalars of its kind. -/
class LawfulFieldType (α : Type) [FieldType α] : Prop where
  compare?_toScalar : ∀ a b : α, (toScalar a).compare? (toScalar b) = FieldType.compare? a b
  same_iff : ∀ a b : α, FieldType.same a b = true ↔ FieldType.compare? a b = some .eq
  same_comm : ∀ a b : α, FieldType.same a b = FieldType.same b a
  exists_ofScalar? : ∀ b : α, ∃ b', ofScalar? (toScalar b) = some b' ∧
    ∀ a : α, FieldType.compare? a b' = FieldType.compare? a b
  exists_of_convert : ∀ {raw : Raw} {v : Scalar},
    Coercion.convert raw (FieldType.kind α) = .ok v → ∃ b : α, v = toScalar b

/-! ## Integers -/

section Integers

variable {α : Type} [BEq α] [LawfulBEq α]

/-- A signed type is lawful if its conversions are inverse to each other between its bounds. -/
theorem LawfulFieldType.signed {kind : Kind} {low high : Int} {toInt : α → Int} {ofInt : Int → α}
    (hkind : kind.bounds? = some (low, high)) (hlow : -2 ^ 63 ≤ low) (hneg : low < 0)
    (hhigh : high < 2 ^ 63) (hbounds : ∀ a, low ≤ toInt a ∧ toInt a ≤ high)
    (hof : ∀ a, ofInt (toInt a) = a)
    (hto : ∀ n, low ≤ n → n ≤ high → toInt (ofInt n) = n) :
    @LawfulFieldType α (.signed kind low high toInt ofInt) := by
  have hwide : ∀ a, (Int64.ofInt (toInt a)).toInt = toInt a := fun a ↦
    Int64.toInt_ofInt_of_le (by have := hbounds a; omega) (by have := hbounds a; omega)
  have hinj : ∀ a b, toInt a = toInt b ↔ a = b := fun a b ↦
    ⟨fun h ↦ by rw [← hof a, h, hof b], fun h ↦ by rw [h]⟩
  refine @LawfulFieldType.mk α (.signed kind low high toInt ofInt) (fun a b ↦ ?_) (fun a b ↦ ?_)
    (fun _ _ ↦ BEq.comm) (fun b ↦ ⟨b, ?_, fun _ ↦ rfl⟩) (fun {raw v} h ↦ ?_)
  · change some (compare (Int64.ofInt (toInt a)).toInt (Int64.ofInt (toInt b)).toInt)
      = some (compare (toInt a) (toInt b))
    rw [hwide, hwide]
  · change (a == b) = true ↔ some (compare (toInt a) (toInt b)) = some .eq
    rw [beq_iff_eq, Option.some_inj, compare_eq_iff_eq, hinj]
  · change (if low ≤ (Int64.ofInt (toInt b)).toInt ∧ (Int64.ofInt (toInt b)).toInt ≤ high then
      some (ofInt (Int64.ofInt (toInt b)).toInt) else none) = some b
    rw [hwide, if_pos (hbounds b), hof]
  · have hkind' : kind ≠ .boolean ∧ kind ≠ .text := by
      constructor <;> rintro rfl <;> cases hkind
    obtain ⟨lexeme, hread⟩ := Coercion.exists_readLexeme h hkind'.1 hkind'.2
    obtain ⟨n, hn, hn', rfl⟩ := Coercion.readLexeme_integer hkind hread
    refine ⟨ofInt n, ?_⟩
    change Coercion.integerScalar low n = .int (Int64.ofInt (toInt (ofInt n)))
    rw [hto n hn hn', Coercion.integerScalar, if_neg hneg.ne]

/-- An unsigned type is lawful if its conversions are inverse to each other up to its bound. -/
theorem LawfulFieldType.unsigned {kind : Kind} {high : Nat} {toNat : α → Nat} {ofNat : Nat → α}
    (hkind : kind.bounds? = some (0, (high : Int))) (hhigh : high < 2 ^ 64)
    (hbound : ∀ a, toNat a ≤ high) (hof : ∀ a, ofNat (toNat a) = a)
    (hto : ∀ n, n ≤ high → toNat (ofNat n) = n) :
    @LawfulFieldType α (.unsigned kind high toNat ofNat) := by
  have hwide : ∀ a, (UInt64.ofNat (toNat a)).toNat = toNat a := fun a ↦
    UInt64.toNat_ofNat_of_lt' (Nat.lt_of_le_of_lt (hbound a) hhigh)
  have hinj : ∀ a b, toNat a = toNat b ↔ a = b := fun a b ↦
    ⟨fun h ↦ by rw [← hof a, h, hof b], fun h ↦ by rw [h]⟩
  refine @LawfulFieldType.mk α (.unsigned kind high toNat ofNat) (fun a b ↦ ?_) (fun a b ↦ ?_)
    (fun _ _ ↦ BEq.comm) (fun b ↦ ⟨b, ?_, fun _ ↦ rfl⟩) (fun {raw v} h ↦ ?_)
  · change some (compare (UInt64.ofNat (toNat a)).toNat (UInt64.ofNat (toNat b)).toNat)
      = some (compare (toNat a) (toNat b))
    rw [hwide, hwide]
  · change (a == b) = true ↔ some (compare (toNat a) (toNat b)) = some .eq
    rw [beq_iff_eq, Option.some_inj, compare_eq_iff_eq, hinj]
  · change (if (UInt64.ofNat (toNat b)).toNat ≤ high then
      some (ofNat (UInt64.ofNat (toNat b)).toNat) else none) = some b
    rw [hwide, if_pos (hbound b), hof]
  · have hkind' : kind ≠ .boolean ∧ kind ≠ .text := by
      constructor <;> rintro rfl <;> cases hkind
    obtain ⟨lexeme, hread⟩ := Coercion.exists_readLexeme h hkind'.1 hkind'.2
    obtain ⟨n, hn, hn', rfl⟩ := Coercion.readLexeme_integer hkind hread
    refine ⟨ofNat n.toNat, ?_⟩
    change Coercion.integerScalar 0 n = .uint (UInt64.ofNat (toNat (ofNat n.toNat)))
    rw [hto _ (by omega), Coercion.integerScalar, if_pos rfl]

end Integers

instance : LawfulFieldType Int8 :=
  .signed rfl (by decide) (by decide) (by decide)
    (fun a ↦ ⟨a.le_toInt, Int.le_of_lt_add_one a.toInt_lt⟩) (fun _ ↦ Int8.ofInt_toInt _)
    (fun _ h h' ↦ Int8.toInt_ofInt_of_le h (Int.lt_add_one_of_le h'))

instance : LawfulFieldType Int16 :=
  .signed rfl (by decide) (by decide) (by decide)
    (fun a ↦ ⟨a.le_toInt, Int.le_of_lt_add_one a.toInt_lt⟩) (fun _ ↦ Int16.ofInt_toInt _)
    (fun _ h h' ↦ Int16.toInt_ofInt_of_le h (Int.lt_add_one_of_le h'))

instance : LawfulFieldType Int32 :=
  .signed rfl (by decide) (by decide) (by decide)
    (fun a ↦ ⟨a.le_toInt, Int.le_of_lt_add_one a.toInt_lt⟩) (fun _ ↦ Int32.ofInt_toInt _)
    (fun _ h h' ↦ Int32.toInt_ofInt_of_le h (Int.lt_add_one_of_le h'))

instance : LawfulFieldType Int64 :=
  .signed rfl (by decide) (by decide) (by decide)
    (fun a ↦ ⟨a.le_toInt, Int.le_of_lt_add_one a.toInt_lt⟩) (fun _ ↦ Int64.ofInt_toInt _)
    (fun _ h h' ↦ Int64.toInt_ofInt_of_le h (Int.lt_add_one_of_le h'))

instance : LawfulFieldType UInt8 :=
  .unsigned rfl (by decide) (fun a ↦ Nat.le_of_lt_succ a.toNat_lt) (fun _ ↦ UInt8.ofNat_toNat)
    (fun _ h ↦ UInt8.toNat_ofNat_of_lt' (Nat.lt_succ_of_le h))

instance : LawfulFieldType UInt16 :=
  .unsigned rfl (by decide) (fun a ↦ Nat.le_of_lt_succ a.toNat_lt) (fun _ ↦ UInt16.ofNat_toNat)
    (fun _ h ↦ UInt16.toNat_ofNat_of_lt' (Nat.lt_succ_of_le h))

instance : LawfulFieldType UInt32 :=
  .unsigned rfl (by decide) (fun a ↦ Nat.le_of_lt_succ a.toNat_lt) (fun _ ↦ UInt32.ofNat_toNat)
    (fun _ h ↦ UInt32.toNat_ofNat_of_lt' (Nat.lt_succ_of_le h))

instance : LawfulFieldType UInt64 :=
  .unsigned rfl (by decide) (fun a ↦ Nat.le_of_lt_succ a.toNat_lt) (fun _ ↦ UInt64.ofNat_toNat)
    (fun _ h ↦ UInt64.toNat_ofNat_of_lt' (Nat.lt_succ_of_le h))

/-! ## Numbers with a fraction -/

instance : LawfulFieldType Float32 where
  compare?_toScalar a b := compareFloats_widen a b
  same_iff a b := by
    change a == b ↔ compareSingles a b = some .eq
    rw [float32_beq_iff, compareSingles_eq]
  same_comm a b := by
    change (a == b) = (b == a)
    rw [Bool.eq_iff_iff, float32_beq_iff, float32_beq_iff, cmpValues_eq_eq_comm]
  exists_ofScalar? b :=
    ⟨Number.narrow (Number.widen b), rfl, fun a ↦ compareSingles_narrow_widen a b⟩
  exists_of_convert h := by
    obtain ⟨lexeme, hread⟩ := Coercion.exists_readLexeme h (by decide) (by decide)
    exact Coercion.readLexeme_float32 hread

instance : LawfulFieldType Float where
  compare?_toScalar _ _ := rfl
  same_iff a b := by
    change a == b ↔ compareFloats a b = some .eq
    rw [float_beq_iff, compareFloats_eq]
  same_comm a b := by
    change (a == b) = (b == a)
    rw [Bool.eq_iff_iff, float_beq_iff, float_beq_iff, cmpValues_eq_eq_comm]
  exists_ofScalar? b := ⟨b, rfl, fun _ ↦ rfl⟩
  exists_of_convert h := by
    obtain ⟨lexeme, hread⟩ := Coercion.exists_readLexeme h (by decide) (by decide)
    simp only [FieldType.kind, Coercion.readLexeme, Coercion.readFloat64] at hread
    split at hread
    · cases hread
    · next x _ =>
      split_ifs at hread
      cases hread
      exact ⟨x, rfl⟩

instance : LawfulFieldType Decimal where
  compare?_toScalar _ _ := rfl
  same_iff a b := by
    change (a.compare b == .eq) = true ↔ some (a.compare b) = some .eq
    rw [beq_iff_eq, Option.some_inj]
  same_comm a b := by
    change (a.compare b == .eq) = (b.compare a == .eq)
    rw [Bool.eq_iff_iff, beq_iff_eq, beq_iff_eq, Decimal.compare, Decimal.compare,
      compare_eq_iff_eq, compare_eq_iff_eq, eq_comm]
  exists_ofScalar? b := ⟨b, rfl, fun _ ↦ rfl⟩
  exists_of_convert h := by
    obtain ⟨lexeme, hread⟩ := Coercion.exists_readLexeme h (by decide) (by decide)
    simp only [FieldType.kind, Coercion.readLexeme] at hread
    split at hread <;> cases hread
    exact ⟨_, rfl⟩

/-! ## Truth values, characters and texts -/

instance : LawfulFieldType Bool where
  compare?_toScalar _ _ := rfl
  same_iff a b := by cases a <;> cases b <;> decide
  same_comm _ _ := BEq.comm
  exists_ofScalar? b := ⟨b, rfl, fun _ ↦ rfl⟩
  exists_of_convert h := by
    rcases Coercion.convert_eq_ok h with ⟨lexeme, hread⟩ | ⟨-, b, rfl⟩ | ⟨hk, -⟩
    · simp only [FieldType.kind, Coercion.readLexeme, Coercion.readBoolean] at hread
      split_ifs at hread <;> cases hread
      · exact ⟨true, rfl⟩
      · exact ⟨false, rfl⟩
    · exact ⟨b, rfl⟩
    · cases hk

instance : LawfulFieldType Char where
  compare?_toScalar _ _ := rfl
  same_iff a b := by
    change (a == b) = true ↔ some (compare a.toNat b.toNat) = some .eq
    rw [beq_iff_eq, Option.some_inj, compare_eq_iff_eq, Char.toNat_inj]
  same_comm _ _ := BEq.comm
  exists_ofScalar? b := ⟨b, rfl, fun _ ↦ rfl⟩
  exists_of_convert h := by
    obtain ⟨lexeme, hread⟩ := Coercion.exists_readLexeme h (by decide) (by decide)
    simp only [FieldType.kind, Coercion.readLexeme] at hread
    split at hread <;> cases hread
    exact ⟨_, rfl⟩

instance : LawfulFieldType String where
  compare?_toScalar _ _ := rfl
  same_iff a b := by
    change (a == b) = true ↔ some (compare a b) = some .eq
    rw [beq_iff_eq, Option.some_inj, Std.LawfulEqOrd.compare_eq_iff_eq]
  same_comm _ _ := BEq.comm
  exists_ofScalar? b := ⟨b, rfl, fun _ ↦ rfl⟩
  exists_of_convert h := by
    rcases Coercion.convert_eq_ok h with ⟨lexeme, hread⟩ | ⟨hk, -⟩ | ⟨-, s, rfl⟩
    · cases hread
      exact ⟨lexeme, rfl⟩
    · cases hk
    · exact ⟨s, rfl⟩

/-! ## Dates and times -/

namespace Calendar

/-- Dates that compare as equal are the same. -/
theorem Date.compare_eq_iff (a b : Date) : a.compare b = .eq ↔ a = b := by
  cases a
  cases b
  simp [Date.compare, Ordering.then_eq_eq]

/-- Times of day that compare as equal are the same. -/
theorem Time.compare_eq_iff (a b : Time) : a.compare b = .eq ↔ a = b := by
  cases a
  cases b
  simp [Time.compare, Ordering.then_eq_eq]

theorem DateTime.compare_eq_iff (a b : DateTime) : a.compare b = .eq ↔ a = b := by
  cases a
  cases b
  simp [DateTime.compare, Ordering.then_eq_eq, Date.compare_eq_iff, Time.compare_eq_iff]

theorem Timestamp.compare_eq_iff (a b : Timestamp) : a.compare b = .eq ↔ a = b := by
  cases a
  cases b
  simp [Timestamp.compare, DateTime.compare_eq_iff]

end Calendar

instance : LawfulFieldType Date where
  compare?_toScalar _ _ := rfl
  same_iff a b := by
    change (a == b) = true ↔ some (a.compare b) = some .eq
    rw [beq_iff_eq, Option.some_inj, Date.compare_eq_iff]
  same_comm _ _ := BEq.comm
  exists_ofScalar? b := ⟨b, rfl, fun _ ↦ rfl⟩
  exists_of_convert h := by
    obtain ⟨lexeme, hread⟩ := Coercion.exists_readLexeme h (by decide) (by decide)
    simp only [FieldType.kind, Coercion.readLexeme] at hread
    split at hread <;> cases hread
    exact ⟨_, rfl⟩

instance : LawfulFieldType DateTime where
  compare?_toScalar _ _ := rfl
  same_iff a b := by
    change (a == b) = true ↔ some (a.compare b) = some .eq
    rw [beq_iff_eq, Option.some_inj, DateTime.compare_eq_iff]
  same_comm _ _ := BEq.comm
  exists_ofScalar? b := ⟨b, rfl, fun _ ↦ rfl⟩
  exists_of_convert h := by
    obtain ⟨lexeme, hread⟩ := Coercion.exists_readLexeme h (by decide) (by decide)
    simp only [FieldType.kind, Coercion.readLexeme] at hread
    split at hread <;> cases hread
    exact ⟨_, rfl⟩

instance : LawfulFieldType Timestamp where
  compare?_toScalar _ _ := rfl
  same_iff a b := by
    change (a == b) = true ↔ some (a.compare b) = some .eq
    rw [beq_iff_eq, Option.some_inj, Timestamp.compare_eq_iff]
  same_comm _ _ := BEq.comm
  exists_ofScalar? b := ⟨b, rfl, fun _ ↦ rfl⟩
  exists_of_convert h := by
    obtain ⟨lexeme, hread⟩ := Coercion.exists_readLexeme h (by decide) (by decide)
    simp only [FieldType.kind, Coercion.readLexeme] at hread
    split at hread <;> cases hread
    exact ⟨_, rfl⟩

/-! ## Variants -/

section Variants

variable {e : Enumeration}

/-- The ordinal of a variant is its place, if no two variants share a name. -/
theorem idxOf_name (h : e.variants.Nodup) (v : Variant e) : e.variants.idxOf v.name = v.index := by
  rw [Variant.name, List.get_eq_getElem]
  exact h.idxOf_getElem _ _

theorem toScalar_variant (h : e.variants.Nodup) (v : Variant e) :
    toScalar v = .variant e.name v.name v.index := by
  change Scalar.variant e.name v.name (e.variants.idxOf v.name) = _
  rw [idxOf_name h]

theorem ofName?_name_of_nodup (h : e.variants.Nodup) (v : Variant e) :
    Variant.ofName? e v.name = some v := by
  have hfound : e.variants.finIdxOf? v.name = some v.index := by
    refine List.finIdxOf?_eq_some_iff.mpr ⟨rfl, fun j hj hname ↦ ?_⟩
    have hsame : (j : Nat) = v.index := h.getElem_inj_iff.mp hname
    omega
  rw [Variant.ofName?, hfound, Option.map_some]

theorem same_variant_iff (a b : Variant e) :
    FieldType.same a b = true ↔ FieldType.compare? a b = some .eq := by
  change (a == b) = true ↔ some (compare a.index.val b.index.val) = some .eq
  rw [beq_iff_eq, Option.some_inj, compare_eq_iff_eq, Fin.val_inj]
  exact ⟨congrArg Variant.index, fun hindex ↦ congrArg Variant.mk hindex⟩

/-- Variants of an enumeration without repeated names are lawful. -/
theorem lawful_variant (h : e.variants.Nodup) : LawfulFieldType (Variant e) where
  compare?_toScalar a b := by
    rw [toScalar_variant h, toScalar_variant h]
    change (if e.name = e.name then some (compare a.index.val b.index.val) else none) = _
    rw [if_pos rfl]
    rfl
  same_iff a b := same_variant_iff a b
  same_comm _ _ := BEq.comm
  exists_ofScalar? b := by
    refine ⟨b, ?_, fun _ ↦ rfl⟩
    rw [toScalar_variant h]
    change (if e.name = e.name then Variant.ofName? e b.name else none) = some b
    rw [if_pos rfl, ofName?_name_of_nodup h]
  exists_of_convert hraw := by
    obtain ⟨lexeme, hread⟩ := Coercion.exists_readLexeme hraw (by simp) (by simp)
    obtain ⟨name, ordinal, hat, rfl⟩ := Coercion.readLexeme_enumeration hread
    obtain ⟨hlt, rfl⟩ := List.getElem?_eq_some_iff.mp hat
    exact ⟨⟨⟨ordinal, hlt⟩⟩, (toScalar_variant h _).symm⟩

end Variants

/-! ## A type for each kind -/

namespace Kind

/-- The values of a kind that the fields of records have. -/
def Value : Kind → Type
  | boolean => Bool
  | int8 => Int8
  | int16 => Int16
  | int32 => Int32
  | int64 => Int64
  | uint8 => UInt8
  | uint16 => UInt16
  | uint32 => UInt32
  | uint64 => UInt64
  | float32 => Float32
  | float64 => Float
  | decimal => Decimal
  | char => Char
  | text => String
  | date => Date
  | dateTime => DateTime
  | timestamp => Timestamp
  | enumeration e => Variant e

instance (k : Kind) : FieldType k.Value :=
  match k with
  | boolean => inferInstanceAs (FieldType Bool)
  | int8 => inferInstanceAs (FieldType Int8)
  | int16 => inferInstanceAs (FieldType Int16)
  | int32 => inferInstanceAs (FieldType Int32)
  | int64 => inferInstanceAs (FieldType Int64)
  | uint8 => inferInstanceAs (FieldType UInt8)
  | uint16 => inferInstanceAs (FieldType UInt16)
  | uint32 => inferInstanceAs (FieldType UInt32)
  | uint64 => inferInstanceAs (FieldType UInt64)
  | float32 => inferInstanceAs (FieldType Float32)
  | float64 => inferInstanceAs (FieldType Float)
  | decimal => inferInstanceAs (FieldType Decimal)
  | char => inferInstanceAs (FieldType Char)
  | text => inferInstanceAs (FieldType String)
  | date => inferInstanceAs (FieldType Date)
  | dateTime => inferInstanceAs (FieldType DateTime)
  | timestamp => inferInstanceAs (FieldType Timestamp)
  | enumeration e => inferInstanceAs (FieldType (Variant e))

/-- Whether a kind is not an enumeration that repeats the name of a variant. -/
def HasDistinctNames : Kind → Prop
  | enumeration e => e.variants.Nodup
  | _ => True

@[simp] theorem kind_value (k : Kind) : FieldType.kind k.Value = k := by
  cases k <;> rfl

/-- The values of every kind are lawful. -/
theorem lawful {k : Kind} (h : k.HasDistinctNames) : LawfulFieldType k.Value :=
  match k with
  | boolean => inferInstanceAs (LawfulFieldType Bool)
  | int8 => inferInstanceAs (LawfulFieldType Int8)
  | int16 => inferInstanceAs (LawfulFieldType Int16)
  | int32 => inferInstanceAs (LawfulFieldType Int32)
  | int64 => inferInstanceAs (LawfulFieldType Int64)
  | uint8 => inferInstanceAs (LawfulFieldType UInt8)
  | uint16 => inferInstanceAs (LawfulFieldType UInt16)
  | uint32 => inferInstanceAs (LawfulFieldType UInt32)
  | uint64 => inferInstanceAs (LawfulFieldType UInt64)
  | float32 => inferInstanceAs (LawfulFieldType Float32)
  | float64 => inferInstanceAs (LawfulFieldType Float)
  | decimal => inferInstanceAs (LawfulFieldType Decimal)
  | char => inferInstanceAs (LawfulFieldType Char)
  | text => inferInstanceAs (LawfulFieldType String)
  | date => inferInstanceAs (LawfulFieldType Date)
  | dateTime => inferInstanceAs (LawfulFieldType DateTime)
  | timestamp => inferInstanceAs (LawfulFieldType Timestamp)
  | enumeration _ => lawful_variant h

end Kind

end RecordFilter
