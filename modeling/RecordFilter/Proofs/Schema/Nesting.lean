import RecordFilter.Proofs.Compile.Parallel
import RecordFilter.Proofs.Query.Paths
import RecordFilter.Proofs.Schema.Resolving
import RecordFilter.Proofs.Schema.Tables

/-!
# Paths in a nested schema

A schema that is nested in another under a path keeps its properties, in their
order, under paths that all begin with this path.  So a path is found in it, or
not, exactly as the path with the same beginning is found in the outer schema.
-/

namespace RecordFilter

/-! ## Paths -/

namespace Path

/-- The path of a property of a part, given the path of the part. -/
def place (outer : Path) (path : String) : String := outer.text ++ "." ++ path

/-- A path that goes on after another one. -/
def append (p q : Path) : Path where
  segments := p.segments ++ q.segments
  ne_nil := by simp [p.ne_nil]
  isSegment := fun s hs ↦ (List.mem_append.mp hs).elim (p.isSegment s) (q.isSegment s)

theorem intercalate_append {as bs : List (List Char)} (ha : as ≠ []) (hb : bs ≠ []) :
    ['.'].intercalate (as ++ bs) = ['.'].intercalate as ++ '.' :: ['.'].intercalate bs := by
  induction as with
  | nil => exact absurd rfl ha
  | cons a as ih =>
    cases as with
    | nil =>
      obtain ⟨b, bs, rfl⟩ := List.exists_cons_of_ne_nil hb
      simp
    | cons a' as =>
      rw [List.cons_append, List.cons_append, List.intercalate_cons_cons, ← List.cons_append,
        ih (by simp), List.intercalate_cons_cons]
      simp

theorem text_append (p q : Path) : (p.append q).text = p.place q.text := by
  have hsegments : (p.append q).segments.map String.toList
      = p.segments.map String.toList ++ q.segments.map String.toList := List.map_append
  rw [← String.toList_inj, toList_text, hsegments,
    intercalate_append (by simpa using p.ne_nil) (by simpa using q.ne_nil)]
  simp [place, toList_text]

theorem place_injective (outer : Path) : Function.Injective outer.place := by
  intro a b h
  rw [← String.toList_inj] at h ⊢
  simpa [place] using h

/-- Blanks at the end of a placed path are those of the path. -/
theorem trimString_place (outer : Path) {path : String} (h : Text.trimString path = path) :
    Text.trimString (outer.place path) = outer.place path := by
  rw [place, ← outer.trimString_text]
  exact trimString_join h outer.text

theorem sameFolded_place (outer : Path) (a b : String) :
    Text.sameFolded (outer.place a) (outer.place b) = Text.sameFolded a b := by
  rw [Bool.eq_iff_iff]
  simp [Text.sameFolded, place]

end Path

/-! ## Schemas -/

namespace Resolved

variable {ρ σ : Type}

/-- A property of a part as a property of the record. -/
def under (outer : Path) (part : ρ → σ) (found : Resolved σ) : Resolved ρ :=
  ⟨outer.place found.path, found.property.ofPart part⟩

end Resolved

namespace Schema

variable {ρ σ : Type}

/-- The schema of records whose properties are those of one part. -/
def nesting (name : String) (outer : Path) (part : ρ → σ) (child : Schema σ) : Schema ρ :=
  .ofRegistrations name [.nested outer.text part child]

variable {name : String} {outer : Path} {part : ρ → σ} {child : Schema σ}

/-- The properties of the part keep their order. -/
theorem entries_nesting : (nesting name outer part child).properties.entries
    = child.properties.entries.map fun (path, p) ↦ (outer.place path, p.ofPart part) := by
  have hentries : [Registration.nested outer.text part child].flatten
      = child.properties.entries.map fun (path, p) ↦ (outer.place path, p.ofPart part) := by
    rw [List.flatten_singleton, Registration.nested, outer.trimString_text]
    rfl
  have hnodup := child.properties.nodup.map outer.place_injective
  rw [List.map_map] at hnodup
  rw [nesting, ofRegistrations, hentries]
  refine Table.entries_ofList ?_
  rwa [List.map_map]

theorem paths_nesting : (nesting name outer part child).paths = child.paths.map outer.place := by
  rw [paths, paths, Table.keys, Table.keys, entries_nesting, List.map_map, List.map_map]
  rfl

theorem at?_nesting (i : Nat) :
    (nesting name outer part child).at? i = (child.at? i).map (.under outer part) := by
  rw [at?, at?, entries_nesting, List.getElem?_map, Option.map_map, Option.map_map]
  rfl

theorem foldedIndex?_nesting (path : String) :
    (nesting name outer part child).foldedIndex? (outer.place path) = child.foldedIndex? path := by
  rw [foldedIndex?, foldedIndex?, paths_nesting, List.findIdx?_map]
  congr 1
  funext q
  exact outer.sameFolded_place q path

theorem registered?_nesting (path : String) :
    (nesting name outer part child).registered? (outer.place path)
      = (child.registered? path).map (.under outer part) := by
  cases hget : child.get? path with
  | some p =>
    have hentry : (outer.place path, p.ofPart part)
        ∈ (nesting name outer part child).properties.entries := by
      rw [entries_nesting]
      exact List.mem_map_of_mem (mem_entries_of_get? hget)
    rw [registered?, registered?, hget, get?, Table.get?_of_mem hentry]
    rfl
  | none =>
    have hnone : (nesting name outer part child).get? (outer.place path) = none := by
      rw [get?_eq_none_iff, paths_nesting, List.mem_map_of_injective outer.place_injective]
      exact get?_eq_none_iff.mp hget
    rw [registered?, registered?, hget, hnone]
    rfl

/-- A path of the part and the path placed under the part resolve together, to the same
property. -/
theorem parallel_resolve_nesting (name : String) (outer : Path) (part : ρ → σ) (child : Schema σ)
    (caseSensitive : Bool) {path : String} (hpath : Text.trimString path = path) :
    Parallel (fun found found' ↦ found' = found.under outer part)
      (child.resolve caseSensitive path)
      ((nesting name outer part child).resolve caseSensitive (outer.place path)) := by
  have hfound : ((nesting name outer part child).registered? (outer.place path)).or
        (if caseSensitive then none else
          ((nesting name outer part child).foldedIndex? (outer.place path)).bind
            (nesting name outer part child).at?)
      = ((child.registered? path).or
        (if caseSensitive then none else (child.foldedIndex? path).bind child.at?)).map
          (.under outer part) := by
    rw [registered?_nesting, foldedIndex?_nesting, Option.map_or, apply_ite (Option.map _),
      Option.map_none, Option.map_bind]
    simp only [Function.comp_def, at?_nesting]
  simp only [resolve, hpath, outer.trimString_place hpath, hfound]
  cases (child.registered? path).or
      (if caseSensitive then none else (child.foldedIndex? path).bind child.at?) with
  | some found => exact .ok rfl
  | none => exact .error (by simp [notFound, FilterError.outline])

end Schema

end RecordFilter
