import RecordFilter.Schema.Resolve

/-!
# Resolving with a memory

Looking for a path up to the case of its letters goes through all registered
paths. A resolver remembers what it found, by the path in lower case. The
answers are those of the schema.
-/

namespace RecordFilter

structure Resolver (ρ : Type) where
  schema : Schema ρ
  /-- Places of properties by paths in lower case, the latest first. -/
  memo : List (String × Nat) := []

namespace Resolver

variable {ρ : Type}

/-- Looks a path up to the case of its letters, and remembers its place. -/
def foldedIndex? (r : Resolver ρ) (path : String) : Option Nat × Resolver ρ :=
  let key := Text.foldCase path
  match r.memo.lookup key with
  | some index => (some index, r)
  | none =>
    match r.schema.foldedIndex? path with
    | some index => (some index, { r with memo := (key, index) :: r.memo })
    | none => (none, r)

/-- Resolves a path. -/
def resolve (r : Resolver ρ) (caseSensitive : Bool) (path : String) :
    Except FilterError (Resolved ρ) × Resolver ρ :=
  let path := Text.trimString path
  match r.schema.registered? path with
  | some found => (.ok found, r)
  | none =>
    let (index, r) := if caseSensitive then (none, r) else r.foldedIndex? path
    match index.bind r.schema.at? with
    | some found => (.ok found, r)
    | none => (.error (r.schema.notFound caseSensitive path), r)

end Resolver

end RecordFilter
