import RecordFilter.Number.Digits

/-!
# Decimals with a scale

A decimal is a signed coefficient of at most 96 bits over a power of ten, the
scale, which is at most 28 and is kept: `1.50` and `1.5` are written differently
and compare equal. Reading accepts plain digits, with underscores between them,
and an exponent; digits that do not fit after the point are rounded away by the
first of them, and the others count for nothing.
-/

namespace RecordFilter.Number

/-- The coefficients a decimal has room for lie below this bound. -/
def coefficientBound : Nat := 79228162514264337593543950336

/-- The largest scale. -/
def maxScale : Nat := 28

/-- The number `± coefficient / 10 ^ scale`. -/
structure Decimal where
  negative : Bool
  coefficient : Nat
  scale : Nat
  coefficient_lt : coefficient < coefficientBound := by decide
  scale_le : scale ≤ maxScale := by decide
deriving DecidableEq, Repr

/-- Why a text is no decimal. -/
inductive DecimalError where
  | empty
  | unknownCharacter
  | secondPoint
  | leadingSeparator
  | noDigits
  | tooManyDigits
  | overflowAfterRounding
  | malformed
  | exceedsMaximum
  | scaleTooLarge (scale : Nat)
deriving DecidableEq, Repr

def DecimalError.message : DecimalError → String
  | empty => "Invalid decimal: empty"
  | unknownCharacter => "Invalid decimal: unknown character"
  | secondPoint => "Invalid decimal: two decimal points"
  | leadingSeparator => "Invalid decimal: must start lead with a number"
  | noDigits => "Invalid decimal: no digits found"
  | tooManyDigits => "Invalid decimal: overflow from too many digits"
  | overflowAfterRounding => "Invalid decimal: overflow from mantissa after rounding"
  | malformed => "Failed to parse"
  | exceedsMaximum => "Number exceeds maximum value that can be represented."
  | scaleTooLarge scale =>
    "Scale exceeds the maximum precision allowed: " ++ toString scale ++ " > " ++ toString maxScale

namespace Decimal

def zero : Decimal := ⟨false, 0, 0, by decide, by decide⟩

instance : Inhabited Decimal := ⟨zero⟩

/-- The decimal with these parts, if they fit. -/
def ofParts? (negative : Bool) (coefficient scale : Nat) : Option Decimal :=
  if h : coefficient < coefficientBound ∧ scale ≤ maxScale then
    some ⟨negative, coefficient, scale, h.1, h.2⟩
  else none

/-- The signed coefficient. -/
def signed (d : Decimal) : Int := withSign d.negative d.coefficient

/-- Comparison of the numbers, whatever their scales. -/
def compare (a b : Decimal) : Ordering :=
  Ord.compare (a.signed * tenTo b.scale) (b.signed * tenTo a.scale)

/-- Writes all digits of the scale. -/
def write (d : Decimal) : List Char :=
  let ds := padded (d.scale + 1) d.coefficient
  let whole := ds.length - d.scale
  (if d.negative then ['-'] else []) ++
    if d.scale = 0 then ds else ds.take whole ++ '.' :: ds.drop whole

def toText (d : Decimal) : String := String.ofList d.write

/-- What has been read of a decimal so far. -/
structure Partial where
  coefficient : Nat := 0
  scale : Nat := 0
  /-- Whether the point has been seen. -/
  point : Bool := false
  /-- Whether a digit has been seen. -/
  digit : Bool := false
  /-- Whether the coefficient was long before its scale was full. -/
  long : Bool := false

namespace Partial

/-- From here on a coefficient is long: one more digit may not fit into 64 bits. -/
def longBound : Nat := UInt64.size / 10 - 255

/-- Adds a digit. -/
def push (p : Partial) (c : Char) : Partial :=
  let coefficient := 10 * p.coefficient + digitValue c
  let scale := if p.point then p.scale + 1 else 0
  { p with
    coefficient
    scale
    digit := true
    long := p.long || (longBound ≤ coefficient && scale < maxScale) }

/-- Whether the next character is the one to round by, because the scale is full. Behind a long
coefficient a separator there is passed over. -/
def roundsBy (p : Partial) (c : Char) : Bool :=
  p.point && p.scale == maxScale && !(p.long && c == '_')

end Partial

/-- Why a character cannot stand in a decimal. -/
def rejected (c : Char) : DecimalError :=
  if c == '.' then .secondPoint else if c == '_' then .leadingSeparator else .unknownCharacter

/-- The decimal with the digits read; zero has no sign. -/
def finish (negative : Bool) (p : Partial) : Except DecimalError Decimal :=
  if !p.digit then .error .noDigits
  else
    match ofParts? (negative && p.coefficient != 0) p.coefficient p.scale with
    | some d => .ok d
    | none => .error .tooManyDigits

/-- Rounds by the first character that has no room; a separator there counts as zero. A coefficient
that outgrows its bound gives up its last digit for it. -/
def roundBy (negative : Bool) (p : Partial) (c : Char) (rest : List Char) :
    Except DecimalError Decimal :=
  match (c :: rest).find? fun c => !(c.isDigit || c == '_') with
  | some c => .error (rejected c)
  | none =>
    if c == '_' || digitValue c < 5 then finish negative p
    else if p.coefficient + 1 < coefficientBound then
      finish negative { p with coefficient := p.coefficient + 1 }
    else if p.scale = 0 then .error .overflowAfterRounding
    else finish negative { p with coefficient := (p.coefficient + 5) / 10, scale := p.scale - 1 }

/-- Reads the digits, points and separators after the sign. -/
def readFrom (negative : Bool) : Partial → List Char → Except DecimalError Decimal
  | p, [] => finish negative p
  | p, c :: s =>
    if p.roundsBy c then roundBy negative p c s
    else if c.isDigit then
      if (p.push c).coefficient < coefficientBound then readFrom negative (p.push c) s
      else if p.point then roundBy negative p c s
      else .error .tooManyDigits
    else if c == '.' && !p.point then readFrom negative { p with point := true } s
    else if c == '_' && p.digit then readFrom negative p s
    else .error (rejected c)

/-- Reads a decimal without an exponent. -/
def readPlain (s : List Char) : Except DecimalError Decimal :=
  match s with
  | [] => .error .empty
  | c :: rest =>
    if c == '-' || c == '+' then readFrom (c == '-') {} rest
    else readFrom false {} s

/-- Takes `d` to fewer digits after the point; a five or more goes up. -/
def roundTo (scale : Nat) (d : Decimal) : Nat :=
  let cut := d.coefficient / tenTo (d.scale - scale - 1)
  if d.scale ≤ scale then d.coefficient * tenTo (scale - d.scale)
  else if cut % 10 < 5 then cut / 10
  else cut / 10 + 1

/-- Moves the point of `d` by an exponent, downwards or upwards. -/
def shift (d : Decimal) (downwards : Bool) (exponent : Nat) : Except DecimalError Decimal :=
  let build (coefficient scale : Nat) : Except DecimalError Decimal :=
    match ofParts? d.negative coefficient scale with
    | some r => .ok r
    | none => .error .exceedsMaximum
  if downwards then
    if maxScale < exponent then .error (.scaleTooLarge exponent)
    else if maxScale < d.scale + exponent then build (d.roundTo (maxScale - exponent)) maxScale
    else build d.coefficient (d.scale + exponent)
  else if exponent ≤ d.scale then build d.coefficient (d.scale - exponent)
  else if maxScale < exponent then .error (.scaleTooLarge exponent)
  else if d.coefficient = 0 then .ok zero
  else build (d.coefficient * tenTo (exponent - d.scale)) 0

/-- Exponents are 32-bit numbers. -/
def readExponent? (s : List Char) : Option Nat :=
  (readNat? s).filter (· < UInt32.size)

/-- Reads a decimal with an exponent. -/
def readScientific (s : List Char) : Except DecimalError Decimal :=
  let isMark (c : Char) : Bool := c == 'e' || c == 'E'
  match s.dropWhile (!isMark ·) with
  | [] => .error .malformed
  | _ :: mark => do
    let base ← readPlain (s.takeWhile (!isMark ·))
    let (downwards, exponent) :=
      match mark with
      | '-' :: rest => (true, readExponent? rest)
      | rest => (false, readExponent? rest)
    match exponent with
    | some e => base.shift downwards e
    | none => .error .malformed

/-- Reads a decimal, without an exponent if that is possible. -/
def read (s : List Char) : Except DecimalError Decimal :=
  match readPlain s with
  | .ok d => .ok d
  | .error _ => readScientific s

end Decimal

end RecordFilter.Number
