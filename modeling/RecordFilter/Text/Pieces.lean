/-!
# Cutting a text at a character

`pieces` keeps empty pieces, so the text comes back when the separators are put between them.
-/

namespace RecordFilter.Text

/-- Puts a character in front of the first piece. -/
def consHead (c : Char) : List (List Char) → List (List Char)
  | [] => [[c]]
  | p :: ps => (c :: p) :: ps

/-- The pieces of a text between the separators, one more than there are separators. -/
def pieces (separator : Char) : List Char → List (List Char)
  | [] => [[]]
  | c :: s => if c = separator then [] :: pieces separator s else consHead c (pieces separator s)

theorem pieces_ne_nil (separator : Char) (s : List Char) : pieces separator s ≠ [] := by
  cases s with
  | nil => simp [pieces]
  | cons c s =>
    simp only [pieces]
    split
    · simp
    · cases pieces separator s <;> simp [consHead]

end RecordFilter.Text
