/-!
# Blank characters

Two sets of characters separate things in a filter. `isBlank` is the Unicode
property White_Space and decides what is trimmed; `isLayout` is the four ASCII
characters that may stand between the tokens of a clause or of a JSON text.
-/

namespace RecordFilter.Text

/-- The 25 characters of the Unicode property White_Space. -/
def isBlank (c : Char) : Bool :=
  let n := c.toNat
  (9 ≤ n && n ≤ 13) || n == 0x20 || n == 0x85 || n == 0xA0 || n == 0x1680 ||
    (0x2000 ≤ n && n ≤ 0x200A) || n == 0x2028 || n == 0x2029 || n == 0x202F ||
    n == 0x205F || n == 0x3000

/-- Space, tab, line feed and carriage return. -/
def isLayout (c : Char) : Bool := c == ' ' || c == '\t' || c == '\n' || c == '\r'

theorem isBlank_of_isLayout {c : Char} (h : isLayout c = true) : isBlank c = true := by
  simp only [isLayout, Bool.or_eq_true, beq_iff_eq] at h
  rcases h with ((rfl | rfl) | rfl) | rfl <;> rfl

/-- Drops leading layout. -/
def skipLayout (s : List Char) : List Char := s.dropWhile isLayout

/-- Drops leading blanks. -/
def trimLeft (s : List Char) : List Char := s.dropWhile isBlank

/-- Drops trailing blanks. -/
def trimRight (s : List Char) : List Char := (s.reverse.dropWhile isBlank).reverse

/-- Drops the blanks at both ends. -/
def trim (s : List Char) : List Char := trimRight (trimLeft s)

@[simp] theorem trimLeft_nil : trimLeft [] = [] := rfl

@[simp] theorem trimRight_nil : trimRight [] = [] := rfl

@[simp] theorem trim_nil : trim [] = [] := rfl

/-- `trim` on a string. -/
def trimString (s : String) : String := String.ofList (trim s.toList)

end RecordFilter.Text
