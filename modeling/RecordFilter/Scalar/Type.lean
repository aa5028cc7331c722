import RecordFilter.Number.Precision
import RecordFilter.Scalar.Value

/-!
# Types of fields

A field of a record has a type of its own, narrower than a scalar. `FieldType`
says which kind the type has, how its values become scalars and which scalars
come from it, and how its values compare among themselves. Numbers of a narrow
type are compared as they are, without a detour through the wide one.
-/

namespace RecordFilter

open Number (Decimal)
open Calendar (Date DateTime Timestamp)

/-- A type whose values a property can hold. -/
class FieldType (α : Type) where
  kind : Kind
  toScalar : α → Scalar
  /-- The value that a scalar stands for, if it belongs to the type. -/
  ofScalar? : Scalar → Option α
  same : α → α → Bool
  compare? : α → α → Option Ordering

export FieldType (toScalar ofScalar?)

/-- A signed type of integers, given by its bounds and conversions. -/
@[reducible] def FieldType.signed {α : Type} [BEq α] (kind : Kind) (low high : Int)
    (toInt : α → Int) (ofInt : Int → α) : FieldType α where
  kind := kind
  toScalar a := .int (Int64.ofInt (toInt a))
  ofScalar?
    | .int n => if low ≤ n.toInt ∧ n.toInt ≤ high then some (ofInt n.toInt) else none
    | .uint n => if (n.toNat : Int) ≤ high then some (ofInt n.toNat) else none
    | _ => none
  same a b := a == b
  compare? a b := some (compare (toInt a) (toInt b))

/-- An unsigned type of integers, given by its bound and conversions. -/
@[reducible] def FieldType.unsigned {α : Type} [BEq α] (kind : Kind) (high : Nat) (toNat : α → Nat)
    (ofNat : Nat → α) : FieldType α where
  kind := kind
  toScalar a := .uint (UInt64.ofNat (toNat a))
  ofScalar?
    | .uint n => if n.toNat ≤ high then some (ofNat n.toNat) else none
    | .int n => if 0 ≤ n.toInt ∧ n.toInt ≤ high then some (ofNat n.toInt.toNat) else none
    | _ => none
  same a b := a == b
  compare? a b := some (compare (toNat a) (toNat b))

instance : FieldType Bool where
  kind := .boolean
  toScalar := .bool
  ofScalar?
    | .bool b => some b
    | _ => none
  same a b := a == b
  compare? a b := some (compare a b)

instance : FieldType Int8 := .signed .int8 (-128) 127 Int8.toInt Int8.ofInt
instance : FieldType Int16 := .signed .int16 (-32768) 32767 Int16.toInt Int16.ofInt
instance : FieldType Int32 := .signed .int32 (-2147483648) 2147483647 Int32.toInt Int32.ofInt
instance : FieldType Int64 :=
  .signed .int64 (-9223372036854775808) 9223372036854775807 Int64.toInt Int64.ofInt

instance : FieldType UInt8 := .unsigned .uint8 255 UInt8.toNat UInt8.ofNat
instance : FieldType UInt16 := .unsigned .uint16 65535 UInt16.toNat UInt16.ofNat
instance : FieldType UInt32 := .unsigned .uint32 4294967295 UInt32.toNat UInt32.ofNat
instance : FieldType UInt64 :=
  .unsigned .uint64 18446744073709551615 UInt64.toNat UInt64.ofNat

/-- The order of narrow floating-point numbers. -/
def compareSingles (x y : Float32) : Option Ordering :=
  if x < y then some .lt
  else if x == y then some .eq
  else if y < x then some .gt
  else none

/-- A wide number that comes from the type is narrowed without loss; any other is rounded. -/
instance : FieldType Float32 where
  kind := .float32
  toScalar x := .float (Number.widen x)
  ofScalar?
    | .float x => some (Number.narrow x)
    | _ => none
  same a b := a == b
  compare? := compareSingles

instance : FieldType Float where
  kind := .float64
  toScalar := .float
  ofScalar?
    | .float x => some x
    | _ => none
  same a b := a == b
  compare? := compareFloats

instance : FieldType Decimal where
  kind := .decimal
  toScalar := .decimal
  ofScalar?
    | .decimal d => some d
    | _ => none
  same a b := a.compare b == .eq
  compare? a b := some (a.compare b)

instance : FieldType Char where
  kind := .char
  toScalar := .char
  ofScalar?
    | .char c => some c
    | _ => none
  same a b := a == b
  compare? a b := some (compare a.toNat b.toNat)

instance : FieldType String where
  kind := .text
  toScalar := .text
  ofScalar?
    | .text s => some s
    | _ => none
  same a b := a == b
  compare? a b := some (compare a b)

instance : FieldType Date where
  kind := .date
  toScalar := .date
  ofScalar?
    | .date d => some d
    | _ => none
  same a b := a == b
  compare? a b := some (a.compare b)

instance : FieldType DateTime where
  kind := .dateTime
  toScalar := .dateTime
  ofScalar?
    | .dateTime t => some t
    | _ => none
  same a b := a == b
  compare? a b := some (a.compare b)

instance : FieldType Timestamp where
  kind := .timestamp
  toScalar := .timestamp
  ofScalar?
    | .timestamp t => some t
    | _ => none
  same a b := a == b
  compare? a b := some (a.compare b)

/-- A variant of an enumeration, as a place in its list. -/
structure Variant (e : Enumeration) where
  index : Fin e.variants.length
deriving DecidableEq, Repr

namespace Variant

def name {e : Enumeration} (v : Variant e) : String := e.variants.get v.index

/-- The first variant of that name. -/
def ofName? (e : Enumeration) (name : String) : Option (Variant e) :=
  (e.variants.finIdxOf? name).map Variant.mk

end Variant

/-- A scalar is a variant if it names one of the enumeration; the ordinal a value is given is that
of the first variant of its name. -/
instance (e : Enumeration) : FieldType (Variant e) where
  kind := .enumeration e
  toScalar v := .variant e.name v.name (e.variants.idxOf v.name)
  ofScalar?
    | .variant t name _ => if t = e.name then Variant.ofName? e name else none
    | _ => none
  same a b := a == b
  compare? a b := some (compare a.index.val b.index.val)

end RecordFilter
