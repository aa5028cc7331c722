import RecordFilter.Number.Binary
import RecordFilter.Number.Digits

/-!
# The shortest decimal of a binary number

Among the decimals that round to a given binary number there is a coarsest grid
`10 ^ k` with a member; `shortest` finds it and takes the member nearest to the
number. If any multiple of `10 ^ k` rounds to the number then one of its two
neighbours on that grid does, so only those two are tried.

`FloatStyle` holds what a format decides beyond the digits: which exponents are
written out, how an exponent is marked, and what a number without digits is
called.
-/

namespace RecordFilter.Number

/-- `digits · 10 ^ exponent`. -/
structure ShortDecimal where
  digits : Nat
  exponent : Int
deriving DecidableEq, Repr

/-- Which of two equally near neighbours is taken. -/
inductive Tie where
  | up
  | toEven
deriving DecidableEq, Repr

/-- The choice between `n` and `n + 1`. -/
def Tie.pick : Tie → Nat → Nat
  | up, n => n + 1
  | toEven, n => if n % 2 = 0 then n else n + 1

/-- The reals that round to a positive value of the format, in quarters of its last place. -/
structure RoundingInterval where
  low : Nat
  value : Nat
  high : Nat
  closed : Bool
  unit : Int
deriving DecidableEq, Repr

namespace RoundingInterval

/-- Right above a power of two the numbers below lie twice as dense. -/
def ofDyadic (f : BinaryFormat) (d : Dyadic) : RoundingInterval where
  low :=
    if d.significand = twoTo (f.precision - 1) ∧ f.lowest < d.exponent then 4 * d.significand - 1
    else 4 * d.significand - 2
  value := 4 * d.significand
  high := 4 * d.significand + 2
  closed := d.significand % 2 = 0
  unit := d.exponent - 2

/-- The unit of the interval over `10 ^ k`, as a ratio. -/
def ratio (i : RoundingInterval) (k : Int) : Nat × Nat :=
  (twoTo i.unit.toNat * tenTo (-k).toNat, twoTo (-i.unit).toNat * tenTo k.toNat)

/-- Whether `n · 10 ^ k` lies in the interval. -/
def covers (i : RoundingInterval) (k : Int) (n : Nat) : Bool :=
  let (num, den) := i.ratio k
  if i.closed then i.low * num ≤ n * den && n * den ≤ i.high * num
  else i.low * num < n * den && n * den < i.high * num

/-- The multiple of `10 ^ k` in the interval that is nearest to the value. -/
def nearest? (i : RoundingInterval) (tie : Tie) (k : Int) : Option Nat :=
  let (num, den) := i.ratio k
  let n := i.value * num / den
  match i.covers k n, i.covers k (n + 1) with
  | true, true =>
    let twice := 2 * (i.value * num)
    let middle := (2 * n + 1) * den
    if twice < middle then some n
    else if middle < twice then some (n + 1)
    else some (tie.pick n)
  | true, false => some n
  | false, true => some (n + 1)
  | false, false => none

/-- The first of the exponents `k`, `k - 1`, … whose grid meets the interval. -/
def search (i : RoundingInterval) (tie : Tie) : Nat → Int → ShortDecimal
  | 0, k => ⟨i.value * (i.ratio k).1 / (i.ratio k).2, k⟩
  | steps + 1, k =>
    match i.nearest? tie k with
    | some n => ⟨n, k⟩
    | none => search i tie steps (k - 1)

end RoundingInterval

/-- The decimal with the fewest digits that reads back as the number, and of those the nearest. -/
def shortest (f : BinaryFormat) (tie : Tie) (d : Dyadic) : ShortDecimal :=
  let start := (floorLog d.significand 1 + d.exponent) * 30103 / 100000 + 2
  (RoundingInterval.ofDyadic f d).search tie 24 start

/-- What a text format decides about numbers, the digits given. -/
structure FloatStyle where
  /-- Whether a number whose first digit has this place is written without an exponent. -/
  positional : Int → Bool
  /-- Whether a whole number ends in `.0`. -/
  point : Bool
  /-- What stands before a positive exponent. -/
  exponentMark : String
  /-- The choice between two shortest decimals that are equally near. -/
  tie : Tie
  nan : String
  /-- An infinity, told whether it is negative. -/
  infinity : Bool → String

namespace FloatStyle

/-- Operands: as short as possible from `1e-4` up to `1e16`, with a point. -/
def operand : FloatStyle where
  positional e := -5 < e && e < 16
  point := true
  exponentMark := "e"
  tie := .up
  nan := "NaN"
  infinity negative := if negative then "-inf" else "inf"

/-- JSON: from `1e-5` up to `1e16` with a point, else an exponent with its sign. What is not
finite has no JSON form. -/
def json : FloatStyle where
  positional e := -6 < e && e < 16
  point := true
  exponentMark := "e+"
  tie := .toEven
  nan := "null"
  infinity _ := "null"

/-- Lexemes: never an exponent, and no point on whole numbers. -/
def lexeme : FloatStyle where
  positional _ := true
  point := false
  exponentMark := "e"
  tie := .up
  nan := "NaN"
  infinity negative := if negative then "-inf" else "inf"

/-- Places the point of `digits · 10 ^ exponent`. -/
def place (s : FloatStyle) (d : ShortDecimal) : List Char :=
  let ds := digits d.digits
  let lead := d.exponent + (ds.length : Int) - 1
  if s.positional lead then
    if 0 ≤ d.exponent then
      ds ++ List.replicate d.exponent.toNat '0' ++ (if s.point then ['.', '0'] else [])
    else if 0 ≤ lead then
      ds.take (lead.toNat + 1) ++ '.' :: ds.drop (lead.toNat + 1)
    else '0' :: '.' :: (List.replicate (-lead - 1).toNat '0' ++ ds)
  else
    let fraction := if ds.length ≤ 1 then [] else '.' :: ds.drop 1
    let mark := if lead < 0 then ['e', '-'] else s.exponentMark.toList
    ds.take 1 ++ fraction ++ mark ++ digits lead.natAbs

/-- Writes a number of a binary format. -/
def write (s : FloatStyle) (f : BinaryFormat) : Binary → List Char
  | .nan => s.nan.toList
  | .infinite negative => (s.infinity negative).toList
  | .finite negative d =>
    (if negative then ['-'] else []) ++
      if d.significand = 0 then '0' :: (if s.point then ['.', '0'] else [])
      else s.place (shortest f s.tie d)

/-- Writes a number of 64 bits. -/
def double (s : FloatStyle) (x : Float) : String := String.ofList (s.write .double (.ofDouble x))

/-- Writes a number of 32 bits. -/
def single (s : FloatStyle) (x : Float32) : String := String.ofList (s.write .single (.ofSingle x))

end FloatStyle

end RecordFilter.Number
