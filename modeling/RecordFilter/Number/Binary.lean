import RecordFilter.Number.Digits

/-!
# Binary floating-point formats

The values of a binary format are `significand · 2 ^ exponent` with a bounded
significand and exponent. `BinaryFormat.round?` takes a ratio of natural numbers
to the nearest value of the format, a tie to the even significand. All of it is
exact arithmetic on natural numbers; the machine types appear only where bits
become a value.
-/

namespace RecordFilter.Number

/-- The number `significand · 2 ^ exponent`. -/
structure Dyadic where
  significand : Nat
  exponent : Int
deriving DecidableEq, Repr

/-- Significands lie below `2 ^ precision`, exponents from `lowest` to `highest`. -/
structure BinaryFormat where
  precision : Nat
  lowest : Int
  highest : Int
deriving DecidableEq, Repr

/-- The ratio `num / den` measured in units of `2 ^ e`, again as a ratio. -/
def inUnits (num den : Nat) (e : Int) : Nat × Nat := (num * twoTo (-e).toNat, den * twoTo e.toNat)

/-- The whole number nearest to a ratio, of two the even one. -/
def roundEven (num den : Nat) : Nat :=
  let q := num / den
  let r := num % den
  if 2 * r < den then q
  else if den < 2 * r then q + 1
  else if q % 2 = 0 then q
  else q + 1

/-- The largest `l` with `2 ^ l ≤ num / den`, for a positive ratio. -/
def floorLog (num den : Nat) : Int :=
  let l : Int := (Nat.log2 num : Int) - Nat.log2 den
  let (n, d) := inUnits num den l
  if d ≤ n then l else l - 1

namespace BinaryFormat

/-- Numbers of 64 bits. -/
def double : BinaryFormat := ⟨53, -1074, 971⟩

/-- Numbers of 32 bits. -/
def single : BinaryFormat := ⟨24, -149, 104⟩

/-- The value nearest to a positive ratio, `none` if that lies beyond the format. -/
def round? (f : BinaryFormat) (num den : Nat) : Option Dyadic :=
  let e := max f.lowest (floorLog num den - (f.precision - 1 : Nat))
  let (n, d) := inUnits num den e
  let m := roundEven n d
  let rounded : Dyadic := if m = twoTo f.precision then ⟨m / 2, e + 1⟩ else ⟨m, e⟩
  if rounded.exponent ≤ f.highest then some rounded else none

/-- The bits of a value of the format, without a sign. -/
def bits (f : BinaryFormat) (d : Dyadic) : Nat :=
  (d.exponent - f.lowest).toNat * twoTo (f.precision - 1) + d.significand

/-- The bits of infinity. -/
def infinityBits (f : BinaryFormat) : Nat :=
  (f.highest - f.lowest + 2).toNat * twoTo (f.precision - 1)

/-- The value with these bits, given without a sign and below infinity. -/
def ofBits (f : BinaryFormat) (b : Nat) : Dyadic :=
  let half := twoTo (f.precision - 1)
  if b < 2 * half then ⟨b, f.lowest⟩
  else ⟨b % half + half, f.lowest + (b / half : Nat) - 1⟩

end BinaryFormat

/-- A number of a binary format, as far as its text tells. -/
inductive Binary where
  | nan
  | infinite (negative : Bool)
  | finite (negative : Bool) (value : Dyadic)
deriving DecidableEq, Repr

namespace Binary

/-- Reads the bits of a number, the sign on top. -/
def ofBits (f : BinaryFormat) (signBit b : Nat) : Binary :=
  let negative := decide (signBit ≤ b)
  let magnitude := b % signBit
  if magnitude < f.infinityBits then .finite negative (f.ofBits magnitude)
  else if magnitude = f.infinityBits then .infinite negative
  else .nan

/-- The bits of a number. -/
def bits (f : BinaryFormat) (signBit : Nat) : Binary → Nat
  | nan => f.infinityBits + twoTo (f.precision - 2)
  | infinite negative => (if negative then signBit else 0) + f.infinityBits
  | finite negative value => (if negative then signBit else 0) + f.bits value

def ofDouble (x : Float) : Binary := ofBits .double (UInt64.size / 2) x.toBits.toNat

def ofSingle (x : Float32) : Binary := ofBits .single (UInt32.size / 2) x.toBits.toNat

def toDouble (b : Binary) : Float := Float.ofBits (UInt64.ofNat (b.bits .double (UInt64.size / 2)))

def toSingle (b : Binary) : Float32 :=
  Float32.ofBits (UInt32.ofNat (b.bits .single (UInt32.size / 2)))

end Binary

end RecordFilter.Number
