import RecordFilter.Json.Reader
import RecordFilter.Json.Value
import RecordFilter.Number.FloatText

/-!
# Numbers in JSON texts

The form of a number is read first, its value second. Whole numbers of 64 bits
are exact. All others are floating point: as many digits as fit into 64 bits are
taken for the significand, which is scaled by a power of ten once.
-/

namespace RecordFilter.Json

open RecordFilter.Number

/-- A number as it is written. -/
structure NumberText where
  negative : Bool
  whole : List Char
  /-- The digits after the point; none if there is no point. -/
  fraction : List Char
  /-- The sign of the exponent, and its digits. -/
  exponent : Option (Bool × List Char)
deriving DecidableEq, Repr

/-! ## Form -/

namespace Reader

/-- Reads the digits before the point. More than one do not start with zero. The cause is that of
a text that ends instead. -/
def wholeDigits (ending : Cause) : Reader (List Char) := fun s =>
  match takeDigits s with
  | ([], _) => .error (if s.isEmpty then ⟨ending, s, 0⟩ else ⟨.invalidNumber, s, 1⟩)
  | ('0' :: _ :: _, _) => .error ⟨.invalidNumber, s.drop 1, 1⟩
  | found => .ok found

/-- Reads digits, one at least. -/
def someDigits (ending : Cause) : Reader (List Char) := fun s =>
  match takeDigits s with
  | ([], _) => .error (if s.isEmpty then ⟨ending, s, 0⟩ else ⟨.invalidNumber, s, 1⟩)
  | found => .ok found

/-- Reads a point and digits, if the point is there. -/
def fractionDigits (ending : Cause) : Reader (List Char)
  | '.' :: s => someDigits ending s
  | s => .ok ([], s)

/-- Reads an exponent, if its mark is there. -/
def exponentDigits? (ending : Cause) : Reader (Option (Bool × List Char))
  | [] => .ok (none, [])
  | c :: s =>
    if c == 'e' || c == 'E' then do
      let (negative, s) := takeSign s
      let (ds, s) ← someDigits ending s
      return (some (negative, ds), s)
    else .ok (none, c :: s)

/-- Reads the form of a number behind its sign. -/
def numberText (negative : Bool) (ending : Cause) : Reader NumberText := do
  let whole ← wholeDigits ending
  let fraction ← fractionDigits ending
  let exponent ← exponentDigits? ending
  return { negative, whole, fraction, exponent }

end Reader

/-! ## Value -/

/-- Powers of ten as floating-point numbers. -/
def powerOfTen (n : Nat) : Float := (FloatLexeme.round .double false (.decimal 1 n)).toDouble

/-- Scales by a power of ten, in steps of at most 308 downwards. Three steps reach zero. -/
def scaleDown : Nat → Float → Nat → Float
  | 0, f, _ => f
  | steps + 1, f, e =>
    if e ≤ 308 then f / powerOfTen e else scaleDown steps (f / powerOfTen 308) (e - 308)

/-- The number `significand · 10 ^ exponent`: one floating-point multiplication or division. -/
def scaled? (significand : Nat) (exponent : Int) : Option Float :=
  let f := (UInt64.ofNat significand).toFloat
  if significand = 0 then some f
  else if exponent < 0 then some (scaleDown 4 f exponent.natAbs)
  else if 308 < exponent then none
  else
    let product := f * powerOfTen exponent.toNat
    if product.isInf then none else some product

/-- The significand of a number under way, as large as 64 bits hold. -/
structure Significand where
  value : Nat
  exponent : Int
  full : Bool

namespace Significand

/-- Adds a digit before the point. -/
def wholeDigit (s : Significand) (c : Char) : Significand :=
  if s.full then { s with exponent := s.exponent + 1 }
  else if UInt64.size ≤ 10 * s.value + digitValue c then ⟨s.value, s.exponent + 1, true⟩
  else { s with value := 10 * s.value + digitValue c }

/-- Adds a digit after the point. -/
def fractionDigit (s : Significand) (c : Char) : Significand :=
  if s.full then s
  else if UInt64.size ≤ 10 * s.value + digitValue c then { s with full := true }
  else ⟨10 * s.value + digitValue c, s.exponent - 1, false⟩

/-- The significand of digits before the point. -/
def ofWhole (ds : List Char) : Significand := ds.foldl wholeDigit ⟨0, 0, false⟩

/-- Adds the digits after the point. There a digit may still have room, though one before the
point had none. -/
def withFraction (s : Significand) (ds : List Char) : Significand :=
  ds.foldl fractionDigit { s with full := false }

end Significand

/-- The number that digits denote, as long as it fits into 31 bits; else the digits that are left
when it no longer does. -/
def exponentOf : Nat → List Char → Except (List Char) Nat
  | n, [] => .ok n
  | n, d :: ds =>
    let grown := 10 * n + digitValue d
    if UInt32.size / 2 ≤ grown then .error ds else exponentOf grown ds

namespace NumberText

/-- A whole number; minus zero and what 64 bits do not hold are floating point. -/
def wholeNumber (negative : Bool) (n : Nat) : JsonNumber :=
  if !negative then .int n
  else if n = 0 ∨ UInt64.size / 2 < n then .float (-(UInt64.ofNat n).toFloat)
  else .int (-(n : Int))

/-- The value of a number that has just been read. A number is out of range at its end, unless its
exponent is. -/
def value (t : NumberText) : Reader JsonNumber := do
  let whole := Significand.ofWhole t.whole
  let significand := if t.fraction.isEmpty then whole else whole.withFraction t.fraction
  let float (exponent : Int) : Reader JsonNumber :=
    match scaled? significand.value (significand.exponent + exponent) with
    | some f => pure (.float (if t.negative then -f else f))
    | none => Reader.failHere .numberOutOfRange
  match t.exponent with
  | some (negative, ds) =>
    match exponentOf 0 ds with
    | .ok n => float (withSign negative n)
    | .error rest =>
      if significand.value = 0 || negative then pure (.float (if t.negative then -0.0 else 0.0))
      else fun s => .error ⟨.numberOutOfRange, rest ++ s, 0⟩
  | none =>
    if t.fraction.isEmpty && !whole.full then pure (wholeNumber t.negative whole.value)
    else float 0

end NumberText

namespace Reader

/-- Reads a number behind its sign. -/
def number (negative : Bool) : Reader JsonNumber := do
  let t ← numberText negative .endInValue
  t.value

end Reader

end RecordFilter.Json
