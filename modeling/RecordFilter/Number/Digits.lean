/-!
# Digit strings

Reading and writing natural numbers and integers as runs of ASCII digits.
Readers take the whole text or nothing; `takeDigits` is the one that leaves a
rest.
-/

namespace RecordFilter.Number

def twoTo (n : Nat) : Nat := Nat.pow 2 n

def tenTo (n : Nat) : Nat := Nat.pow 10 n

def digitValue (c : Char) : Nat := c.toNat - '0'.toNat

/-- The number that a run of digits denotes. -/
def ofDigits (s : List Char) : Nat := s.foldl (fun n c => 10 * n + digitValue c) 0

/-- The leading digits, and what follows them. -/
def takeDigits (s : List Char) : List Char × List Char :=
  (s.takeWhile Char.isDigit, s.dropWhile Char.isDigit)

/-- Whether the text is one or more digits. -/
def isDigits (s : List Char) : Bool := !s.isEmpty && s.all Char.isDigit

/-- Digits after an optional plus sign. -/
def readNat? : List Char → Option Nat
  | '+' :: s => if isDigits s then some (ofDigits s) else none
  | s => if isDigits s then some (ofDigits s) else none

/-- A sign, if there is one, and the rest; `true` for a minus sign. -/
def takeSign : List Char → Bool × List Char
  | '-' :: s => (true, s)
  | '+' :: s => (false, s)
  | s => (false, s)

/-- The number with the given sign. -/
def withSign (negative : Bool) (n : Nat) : Int := if negative then -(n : Int) else n

/-- The digits of a number. -/
def digits (n : Nat) : List Char := Nat.toDigits 10 n

/-- The digits of a number, filled up with zeros on the left. -/
def padded (width n : Nat) : List Char :=
  List.replicate (width - (digits n).length) '0' ++ digits n

@[simp] theorem takeDigits_append (s : List Char) : (takeDigits s).1 ++ (takeDigits s).2 = s :=
  List.takeWhile_append_dropWhile

@[simp] theorem takeSign_minus (s : List Char) : takeSign ('-' :: s) = (true, s) := rfl

@[simp] theorem takeSign_plus (s : List Char) : takeSign ('+' :: s) = (false, s) := rfl

end RecordFilter.Number
