import RecordFilter.Text.Blank
import RecordFilter.Text.Pieces
import RecordFilter.Text.Quoted
import RecordFilter.Text.Span

/-!
# Splitting a query into clauses

Clauses stand between semicolons that are neither quoted nor inside brackets. A
quote opens a literal only where a value may start: at the beginning, or right
after a colon, a semicolon, a comma or an opening bracket, blanks aside. So the
apostrophe in `O'Brien` is an ordinary character.
-/

namespace RecordFilter

open Text (Span byteLength)

/-- A clause of a query: its text without blanks around it, and where it stands. -/
structure ClauseText where
  text : List Char
  span : Span
deriving DecidableEq, Repr

namespace Split

/-- What the splitter remembers between two characters. -/
structure State where
  /-- The quote that is open. -/
  quote : Option Char := none
  /-- Whether the next character is escaped. -/
  escaped : Bool := false
  /-- Number of open brackets. -/
  depth : Nat := 0
  /-- The last character outside quotes that is not blank. -/
  previous : Option Char := none
deriving DecidableEq, Repr

/-- Whether a quote after this character opens a literal. -/
def opensQuote : Option Char → Bool
  | none => true
  | some c => c == ':' || c == '[' || c == ',' || c == ';'

namespace State

/-- Whether a semicolon separates here. -/
def isOpen (st : State) : Bool := st.quote.isNone && st.depth == 0

/-- The state inside quotes after one more character. -/
def insideQuote (st : State) (q c : Char) : State :=
  if st.escaped then { st with escaped := false }
  else if c = '\\' then { st with escaped := true }
  else if c = q then { st with quote := none }
  else st

/-- The state outside quotes after one more character. -/
def outsideQuote (st : State) (c : Char) : State :=
  let quote := if Text.Quoted.isQuote c && opensQuote st.previous then some c else none
  let depth := if c = '[' then st.depth + 1 else if c = ']' then st.depth - 1 else st.depth
  let previous := if Text.isBlank c then st.previous else some c
  { st with quote, depth, previous }

/-- The state after one more character. -/
def next (st : State) (c : Char) : State :=
  match st.quote with
  | some q => st.insideQuote q c
  | none => st.outsideQuote c

end State

/-- The pieces between the separating semicolons. -/
def cut (st : State) : List Char → List (List Char)
  | [] => [[]]
  | c :: s =>
    if c = ';' ∧ st.isOpen then [] :: cut (st.next c) s
    else Text.consHead c (cut (st.next c) s)

/-- The clauses of the pieces, of which the first starts at `offset`. Blank pieces are no
clauses. -/
def place (offset : Nat) : List (List Char) → List ClauseText
  | [] => []
  | piece :: pieces =>
    let body := Text.trimLeft piece
    let text := Text.trimRight body
    let start := offset + (byteLength piece - byteLength body)
    let later := place (offset + byteLength piece + 1) pieces
    if text = [] then later else ⟨text, ⟨start, start + byteLength text⟩⟩ :: later

end Split

/-- The clauses of a query, in order. -/
def splitClauses (query : List Char) : List ClauseText := Split.place 0 (Split.cut {} query)

end RecordFilter
