import RecordFilter.Diagnostic.Error
import RecordFilter.Text.Blank
import RecordFilter.Text.Pieces

/-!
# Property paths

A path is a list of segments, written with points between them. No segment is
empty, has a blank at either end or contains a point, so the text of a path
determines its segments.
-/

namespace RecordFilter

/-- Why a text is no path. -/
inductive PathError where
  | blank
  | emptySegment (path : String)
deriving DecidableEq, Repr

namespace PathError

def message : PathError → String
  | blank => "property path must not be empty or whitespace"
  | emptySegment path => "property path '" ++ path ++ "' contains an empty segment"

/-- The error of a descriptor with such a path. -/
def toError (e : PathError) : FilterError := .invalidDescriptor e.message

end PathError

/-- A segment of a path: not empty, trimmed, without a point. -/
def IsSegment (s : String) : Prop :=
  s ≠ "" ∧ Text.trim s.toList = s.toList ∧ '.' ∉ s.toList

instance (s : String) : Decidable (IsSegment s) := by
  unfold IsSegment
  infer_instance

structure Path where
  segments : List String
  ne_nil : segments ≠ []
  isSegment : ∀ s ∈ segments, IsSegment s
deriving DecidableEq, Repr

namespace Path

instance : Inhabited Path := ⟨⟨["x"], by simp, by decide⟩⟩

/-- The trimmed pieces of a text between its points. -/
def trimmedPieces (s : List Char) : List String :=
  (Text.pieces '.' s).map fun p => String.ofList (Text.trim p)

/-- Reads a path, and drops the blanks around it and around its segments. -/
def ofText (s : String) : Except PathError Path :=
  let trimmed := Text.trim s.toList
  if trimmed = [] then .error .blank
  else
    let segments := trimmedPieces trimmed
    if h : segments ≠ [] ∧ ∀ s ∈ segments, IsSegment s then .ok ⟨segments, h.1, h.2⟩
    else .error (.emptySegment (String.ofList trimmed))

/-- The segments with points between them. -/
def text (p : Path) : String := ".".intercalate p.segments

def depth (p : Path) : Nat := p.segments.length

end Path

end RecordFilter
