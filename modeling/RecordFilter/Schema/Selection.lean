import RecordFilter.Schema.Compile

/-!
# Selecting records

A selection filters records, sorts them by any number of criteria and takes one
page of them. Records that no criterion tells apart stay in their order. The
total counts all records that pass the filter, whatever the page.
-/

namespace RecordFilter

namespace Datum

/-- The order of elements: null comes first, and what cannot be compared counts as equal. -/
def compareElements : Option Scalar → Option Scalar → Ordering
  | none, none => .eq
  | none, some _ => .lt
  | some _, none => .gt
  | some a, some b => (a.compare? b).getD .eq

/-- The order of lists of elements: by the first difference, or else by length. -/
def compareLists : List (Option Scalar) → List (Option Scalar) → Ordering
  | [], [] => .eq
  | [], _ :: _ => .lt
  | _ :: _, [] => .gt
  | a :: as, b :: bs => (compareElements a b).then (compareLists as bs)

/-- The order of data, in which null comes first. -/
def order (a b : Datum) : Ordering :=
  match a, b with
  | .null, .null => .eq
  | .null, _ => .lt
  | _, .null => .gt
  | a, b => compareLists a.elements b.elements

end Datum

inductive Direction where
  | ascending
  | descending
deriving DecidableEq, Repr, Inhabited

/-- An order in a direction. -/
def Direction.apply : Direction → Ordering → Ordering
  | ascending, o => o
  | descending, o => o.swap

/-- One criterion by which records are sorted. -/
structure Criterion (ρ : Type) where
  direction : Direction
  /-- The order of records before the direction is applied. -/
  ascending : ρ → ρ → Ordering

namespace Criterion

variable {ρ κ : Type}

def compare (c : Criterion ρ) (a b : ρ) : Ordering := c.direction.apply (c.ascending a b)

/-- Sorts by a key. Keys that cannot be compared count as equal. -/
def byKey (key : ρ → κ) (compare? : κ → κ → Option Ordering) (direction : Direction) :
    Criterion ρ :=
  ⟨direction, fun a b => (compare? (key a) (key b)).getD .eq⟩

/-- Sorts by what a property reads. -/
def byProperty (p : Property ρ) (direction : Direction) : Criterion ρ :=
  ⟨direction, fun a b => (p.read a).order (p.read b)⟩

/-- Sorts by the property that a path names in any case. -/
def byPath (s : Schema ρ) (path : String) (direction : Direction) :
    Except FilterError (Criterion ρ) :=
  (s.resolve false path).map fun found => byProperty found.property direction

/-- The order by several criteria, of which the first comes first. -/
def compareAll : List (Criterion ρ) → ρ → ρ → Ordering
  | [], _, _ => .eq
  | c :: cs, a, b => (c.compare a b).then (compareAll cs a b)

end Criterion

/-- What to select from a list of records. -/
structure Selection (ρ : Type) where
  filter : Option (Compiled ρ) := none
  criteria : List (Criterion ρ) := []
  skip : Nat := 0
  take : Option Nat := none

structure Page (ρ : Type) where
  items : List ρ
  /-- Number of records that pass the filter. -/
  total : Nat
deriving Repr

namespace Selection

variable {ρ : Type}

/-- The records that pass the filter. -/
def passing (s : Selection ρ) (records : List ρ) : List ρ :=
  match s.filter with
  | some c => c.filter records
  | none => records

/-- The records that pass, sorted. -/
def sorted (s : Selection ρ) (records : List ρ) : List ρ :=
  (s.passing records).mergeSort fun a b => (Criterion.compareAll s.criteria a b).isLE

/-- A page of records. -/
def run (s : Selection ρ) (records : List ρ) : Page ρ :=
  let rest := (s.sorted records).drop s.skip
  ⟨match s.take with
    | some n => rest.take n
    | none => rest, (s.passing records).length⟩

end Selection

end RecordFilter
