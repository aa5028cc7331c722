import RecordFilter.Schema.Property
import RecordFilter.Table
import RecordFilter.Text.Blank

/-!
# Schemas

A schema names a type of records and lists its properties by path, in the order
in which the paths were registered. A path that is registered again keeps its
place and gets the new property. The properties of a part of the record are
registered all at once, under the path of the part.
-/

namespace RecordFilter

structure Schema (ρ : Type) where
  name : String
  properties : Table (Property ρ)

/-- Paths with their properties, as they are registered together. -/
abbrev Registration (ρ : Type) := List (String × Property ρ)

namespace Registration

variable {ρ σ α : Type}

/-- A property under a path. Blanks around the path are dropped. -/
def property (path : String) (p : Property ρ) : Registration ρ := [(Text.trimString path, p)]

def scalar [FieldType α] (path : String) (get : ρ → α) : Registration ρ :=
  property path (.scalar get)

def nullable [FieldType α] (path : String) (get : ρ → Option α) : Registration ρ :=
  property path (.nullable get)

def sequence [FieldType α] (path : String) (kind : SequenceKind) (get : ρ → List α) :
    Registration ρ :=
  property path (.sequence kind get)

def nullableSequence [FieldType α] (path : String) (kind : SequenceKind)
    (get : ρ → List (Option α)) : Registration ρ :=
  property path (.nullableSequence kind get)

def computed (path : String) (shape : Shape) (read : ρ → Datum) : Registration ρ :=
  property path (.computed shape read)

/-- All properties of a part of the record. -/
def nested (path : String) (part : ρ → σ) (child : Schema σ) : Registration ρ :=
  child.properties.entries.map fun (p, property) =>
    (Text.trimString path ++ "." ++ p, property.ofPart part)

end Registration

namespace Schema

variable {ρ : Type}

/-- The schema of some registrations, made one after the other. -/
def ofRegistrations (name : String) (registrations : List (Registration ρ)) : Schema ρ :=
  ⟨name, .ofList registrations.flatten⟩

/-- The registered paths in order. -/
def paths (s : Schema ρ) : List String := s.properties.keys

/-- The registered paths with the shapes of their properties. -/
def shapes (s : Schema ρ) : List (String × Shape) :=
  s.properties.entries.map fun (path, p) => (path, p.shape)

def size (s : Schema ρ) : Nat := s.properties.size

def isEmpty (s : Schema ρ) : Bool := s.size == 0

/-- The property registered under exactly this path. -/
def get? (s : Schema ρ) (path : String) : Option (Property ρ) := s.properties.get? path

/-- The datum of a property of a record, if its path is registered. -/
def read? (s : Schema ρ) (path : String) (r : ρ) : Option Datum :=
  (s.get? path).map (·.read r)

end Schema

end RecordFilter
