/-!
# Spans and locations

Positions in a text are counted in bytes of its UTF-8 form; lines and columns
are counted in characters. A `Span` is a half-open range of bytes, a `Location`
says where a span starts for a reader. Texts are lists of characters here, and
`byteLength` is the measure that ties the two ways of counting.
-/

namespace RecordFilter.Text

/-- Size of a text in bytes of UTF-8. -/
def byteLength : List Char → Nat
  | [] => 0
  | c :: s => c.utf8Size + byteLength s

@[simp] theorem byteLength_nil : byteLength [] = 0 := rfl

@[simp] theorem byteLength_cons (c : Char) (s : List Char) :
    byteLength (c :: s) = c.utf8Size + byteLength s := rfl

@[simp] theorem byteLength_append (s t : List Char) :
    byteLength (s ++ t) = byteLength s + byteLength t := by
  induction s with
  | nil => simp
  | cons c s ih => simp [ih, Nat.add_assoc]

/-- Every character has a byte or more. -/
theorem length_le_byteLength (s : List Char) : s.length ≤ byteLength s := by
  induction s with
  | nil => exact Nat.le_refl 0
  | cons c s ih =>
    have hc := c.utf8Size_pos
    rw [List.length_cons, byteLength_cons]
    omega

/-- Cuts a text after exactly `n` bytes; `none` inside a character or past the end. -/
def splitAtByte : Nat → List Char → Option (List Char × List Char)
  | 0, s => some ([], s)
  | _ + 1, [] => none
  | n + 1, c :: s =>
    if c.utf8Size ≤ n + 1 then
      (splitAtByte (n + 1 - c.utf8Size) s).map fun p => (c :: p.1, p.2)
    else none

/-- The characters that start before byte `n`. -/
def startingBefore : Nat → List Char → List Char
  | 0, _ => []
  | _ + 1, [] => []
  | n + 1, c :: s => c :: startingBefore (n + 1 - c.utf8Size) s

/-- A half-open range of bytes. -/
structure Span where
  start : Nat
  stop : Nat
deriving DecidableEq, Repr, Inhabited

namespace Span

/-- The empty span at a position. -/
def point (position : Nat) : Span := ⟨position, position⟩

def size (s : Span) : Nat := s.stop - s.start

def isEmpty (s : Span) : Bool := s.stop ≤ s.start

/-- Moves the span to the right. -/
def shift (s : Span) (offset : Nat) : Span := ⟨s.start + offset, s.stop + offset⟩

/-- The smallest span that covers both. -/
def merge (s t : Span) : Span := ⟨min s.start t.start, max s.stop t.stop⟩

/-- The text under the span, if both ends fall between characters of the text. -/
def slice? (s : Span) (text : List Char) : Option (List Char) :=
  if s.start ≤ s.stop then do
    let (_, rest) ← splitAtByte s.start text
    let (covered, _) ← splitAtByte (s.stop - s.start) rest
    return covered
  else none

/-- The text under the span, empty where there is none. -/
def slice (s : Span) (text : List Char) : List Char := (s.slice? text).getD []

def render (s : Span) : String := toString s.start ++ ".." ++ toString s.stop

@[simp] theorem start_shift (s : Span) (n : Nat) : (s.shift n).start = s.start + n := rfl

@[simp] theorem stop_shift (s : Span) (n : Nat) : (s.shift n).stop = s.stop + n := rfl

@[simp] theorem size_shift (s : Span) (n : Nat) : (s.shift n).size = s.size := by
  simp only [size, start_shift, stop_shift]
  omega

end Span

/-- Line and column after one more character. -/
def advance : Nat × Nat → Char → Nat × Nat
  | (line, column), c => if c = '\n' then (line + 1, 1) else (line, column + 1)

/-- Line and column, both from 1, of the byte at `offset`. -/
def lineColumn (text : List Char) (offset : Nat) : Nat × Nat :=
  (startingBefore offset text).foldl advance (1, 1)

/-- Where something stands in a text: line and column for a reader, bytes for a program. -/
structure Location where
  line : Nat
  column : Nat
  offset : Nat
  length : Nat
deriving DecidableEq, Repr

namespace Location

/-- The location of a span in the text it was taken from. -/
def ofSpan (s : Span) (text : List Char) : Location :=
  let (line, column) := lineColumn text s.start
  ⟨line, column, s.start, s.size⟩

/-- The span a location covers. -/
def span (l : Location) : Span := ⟨l.offset, l.offset + l.length⟩

def render (l : Location) : String := toString l.line ++ ":" ++ toString l.column

@[simp] theorem offset_ofSpan (s : Span) (text : List Char) : (ofSpan s text).offset = s.start :=
  rfl

@[simp] theorem length_ofSpan (s : Span) (text : List Char) : (ofSpan s text).length = s.size := rfl

end Location

/-- The lines of a text. A line ends at a line feed, which is dropped together with a
carriage return right before it; a last line need not end. -/
def lines (text : List Char) : List (List Char) :=
  collect text []
where
  collect : List Char → List Char → List (List Char)
    | [], [] => []
    | [], held => [held.reverse]
    | '\n' :: s, '\r' :: held => held.reverse :: collect s []
    | '\n' :: s, held => held.reverse :: collect s []
    | c :: s, held => collect s (c :: held)

end RecordFilter.Text
