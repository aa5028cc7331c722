import RecordFilter.Number.Binary
import RecordFilter.Number.Digits
import RecordFilter.Text.Case

/-!
# Reading floating-point numbers

A number is an optional sign, digits with at most one point among, before or
after them, and an optional exponent; `inf`, `infinity` and `nan` are words for
what has no digits, in any case. What is read is rounded once, straight to the
format asked for.
-/

namespace RecordFilter.Number

/-- A number as written: a word, or `digits · 10 ^ exponent`. -/
inductive FloatLexeme where
  | nan
  | infinite
  | decimal (digits : Nat) (exponent : Int)
deriving DecidableEq, Repr

namespace FloatLexeme

/-- The exponent part, `0` where there is none. -/
def readExponent? : List Char → Option Int
  | [] => some 0
  | c :: s =>
    if c == 'e' || c == 'E' then
      let (negative, ds) := takeSign s
      if isDigits ds then some (withSign negative (ofDigits ds)) else none
    else none

/-- Digits, point and exponent. -/
def readDecimal? (s : List Char) : Option FloatLexeme :=
  let (whole, rest) := takeDigits s
  let (fraction, rest) :=
    match rest with
    | '.' :: rest => takeDigits rest
    | _ => ([], rest)
  if whole.isEmpty && fraction.isEmpty then none
  else (readExponent? rest).map fun e =>
    .decimal (ofDigits (whole ++ fraction)) (e - fraction.length)

/-- Reads a number without its sign. -/
def read? (s : List Char) : Option FloatLexeme :=
  match readDecimal? s with
  | some lexeme => some lexeme
  | none =>
    let word := s.map Char.toLower
    if word = "nan".toList then some .nan
    else if word = "inf".toList ∨ word = "infinity".toList then some .infinite
    else none

/-- The number of the format that is nearest. Beyond `10 ^ 400` and below `10 ^ -400` no digit
matters. -/
def round (f : BinaryFormat) (negative : Bool) : FloatLexeme → Binary
  | nan => .nan
  | infinite => .infinite negative
  | decimal n e =>
    let lead := ((digits n).length : Int) + e
    if n = 0 ∨ lead < -400 then .finite negative ⟨0, f.lowest⟩
    else if 400 < lead then .infinite negative
    else
      match f.round? (n * tenTo e.toNat) (tenTo (-e).toNat) with
      | some d => .finite negative d
      | none => .infinite negative

end FloatLexeme

/-- Reads a number and rounds it to the format. -/
def readBinary? (f : BinaryFormat) (s : List Char) : Option Binary :=
  let (negative, s) := takeSign s
  (FloatLexeme.read? s).map (·.round f negative)

/-- Reads a number of 64 bits. -/
def readDouble? (s : List Char) : Option Float := (readBinary? .double s).map Binary.toDouble

/-- Reads a number of 32 bits. -/
def readSingle? (s : List Char) : Option Float32 := (readBinary? .single s).map Binary.toSingle

end RecordFilter.Number
