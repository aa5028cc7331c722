import RecordFilter.Diagnostic.Error
import RecordFilter.Schema.Basic
import RecordFilter.Text.Case
import RecordFilter.Text.Pieces

/-!
# Resolving paths

A path names the property that is registered under exactly it, or else, where
case does not matter, the first one whose path differs only in the case of ASCII
letters. A path that names nothing is reported with its first segment that leads
to no property.
-/

namespace RecordFilter

/-- A property with the path it is registered under. -/
structure Resolved (ρ : Type) where
  path : String
  property : Property ρ

/-- Whether a registered path is the given one, or goes on after it with a new segment. -/
def leadsTo (same : Char → Char → Bool) : List Char → List Char → Bool
  | [], rest => rest.isEmpty || rest.head? == some '.'
  | c :: given, d :: registered => same c d && leadsTo same given registered
  | _ :: _, [] => false

/-- Equality of characters, on request up to the case of ASCII letters. -/
def sameChar (caseSensitive : Bool) (c d : Char) : Bool :=
  if caseSensitive then c == d else c.toLower == d.toLower

namespace Schema

variable {ρ : Type}

/-- The place of the first path that differs from a path at most in the case of letters. -/
def foldedIndex? (s : Schema ρ) (path : String) : Option Nat :=
  s.paths.findIdx? (Text.sameFolded · path)

/-- The property at a place. -/
def at? (s : Schema ρ) (index : Nat) : Option (Resolved ρ) :=
  s.properties.entries[index]?.map fun (path, p) => ⟨path, p⟩

/-- The property under exactly this path, with the path. -/
def registered? (s : Schema ρ) (path : String) : Option (Resolved ρ) :=
  (s.get? path).map (⟨path, ·⟩)

/-- The first segment up to which no registered path leads, given what comes before them; the last
one if there is no such segment. -/
def missingFrom (s : Schema ρ) (caseSensitive : Bool) (before : String) :
    List String → Option String
  | [] => none
  | segment :: rest =>
    let path := if before = "" then segment else before ++ "." ++ segment
    if s.paths.any fun p => leadsTo (sameChar caseSensitive) path.toList p.toList then
      some ((missingFrom s caseSensitive path rest).getD segment)
    else some segment

/-- The segment of a path that names no property; the last one if all of them lead on. -/
def missingSegment (s : Schema ρ) (caseSensitive : Bool) (path : String) : String :=
  let segments := (Text.pieces '.' path.toList).map fun p => String.ofList (Text.trim p)
  (s.missingFrom caseSensitive "" segments).getD path

/-- The error of a path that names no property. -/
def notFound (s : Schema ρ) (caseSensitive : Bool) (path : String) : FilterError :=
  .propertyNotFound s.name path (s.missingSegment caseSensitive path) none

/-- Resolves a path. Blanks around it are dropped. -/
def resolve (s : Schema ρ) (caseSensitive : Bool) (path : String) :
    Except FilterError (Resolved ρ) :=
  let path := Text.trimString path
  let found := (s.registered? path).or
    (if caseSensitive then none else (s.foldedIndex? path).bind s.at?)
  match found with
  | some r => .ok r
  | none => .error (s.notFound caseSensitive path)

end Schema

end RecordFilter
