import Mathlib.Data.List.Forall2
import RecordFilter.Proofs.Query.Paths

/-!
# The normal form of a path

Many texts spell one path, for blanks may stand around every segment.  Reading a
text keeps the trimmed pieces between its points and nothing else, so it
succeeds when none of the pieces is blank (`Path.exists_ofText_eq_ok_iff`), and
two texts spell one path when their trimmed pieces agree
(`Path.eq_iff_map_trim_eq`).

Among the spellings of a path, one has no blanks around the segments.  It is the
text of the path, and it is read as the path again (`Path.ofText_normalizes`).
-/

namespace RecordFilter.Path

variable {p : Path}

/-- A piece between two points is a segment once it is trimmed, if anything is left of it. -/
theorem isSegment_trim {s piece : List Char} (hpiece : piece ∈ Text.pieces '.' s)
    (hne : Text.trim piece ≠ []) : IsSegment (String.ofList (Text.trim piece)) := by
  refine ⟨by simpa using hne, ?_, ?_⟩
  · rw [String.toList_ofList]
    exact Text.trim_trim piece
  · rw [String.toList_ofList]
    intro hpoint
    exact (Text.mem_of_mem_pieces hpiece '.' ((Text.trim_sublist piece).subset hpoint)).2 rfl

theorem exists_ofText_eq_ok_iff {s : String} :
    (∃ p, ofText s = .ok p) ↔ ∀ piece ∈ Text.pieces '.' s.toList, Text.trim piece ≠ [] := by
  constructor
  · rintro ⟨p, hp⟩
    exact (trim_ne_nil_of_ofText hp).2
  · intro h
    have hne : trimmedPieces s.toList ≠ [] := by
      rw [trimmedPieces, ne_eq, List.map_eq_nil_iff]
      exact Text.pieces_ne_nil '.' s.toList
    have hsegments : ∀ segment ∈ trimmedPieces s.toList, IsSegment segment := by
      intro segment hsegment
      obtain ⟨piece, hpiece, rfl⟩ := List.mem_map.mp hsegment
      exact isSegment_trim hpiece (h piece hpiece)
    exact ⟨⟨trimmedPieces s.toList, hne, hsegments⟩, ofText_eq_ok_iff.mpr rfl⟩

/-- The text of a path is one of its spellings, so no other path has it. -/
theorem text_inj {q : Path} : p.text = q.text ↔ p = q := by
  constructor
  · intro h
    have hp := ofText_text p
    rw [h, ofText_text] at hp
    exact (Except.ok.inj hp).symm
  · rintro rfl
    rfl

theorem segments_inj {q : Path} : p.segments = q.segments ↔ p = q := by
  cases p
  cases q
  rw [Path.mk.injEq]

theorem eq_iff_map_trim_eq {s t : String} {q : Path} (hp : ofText s = .ok p)
    (hq : ofText t = .ok q) :
    p = q ↔
      (Text.pieces '.' s.toList).map Text.trim = (Text.pieces '.' t.toList).map Text.trim := by
  have hinjective : Function.Injective (List.map String.toList) :=
    List.map_injective_iff.mpr fun _ _ ↦ String.toList_inj.mp
  rw [← map_toList_segments_of_ofText hp, ← map_toList_segments_of_ofText hq,
    hinjective.eq_iff, segments_inj]

/-- What a path has to do with a text that spells it. -/
structure IsNormalFormOf (p : Path) (s : String) : Prop where
  /-- The segments are the pieces between the points, in order, without the blanks at the ends. -/
  segments : List.Forall₂ Text.TrimsTo (s.toList.splitOn '.') (p.segments.map String.toList)
  /-- The text has a point between every two of them. -/
  text : p.text.toList = ['.'].intercalate ((s.toList.splitOn '.').map Text.trim)
  /-- Cut at its points, the text falls into the segments. -/
  splitOn_text : (p.text.toList.splitOn '.').map String.ofList = p.segments
  /-- It spells the path. -/
  ofText_text : ofText p.text = .ok p
  /-- It is the spelling without blanks around the segments. -/
  text_eq_iff : p.text = s ↔ ∀ piece ∈ s.toList.splitOn '.', Text.trim piece = piece

theorem isNormalFormOf_of_ofText {s : String} (h : ofText s = .ok p) : p.IsNormalFormOf s := by
  have hsegments := map_toList_segments_of_ofText h
  constructor
  · rw [hsegments, Text.pieces_eq_splitOn, List.forall₂_map_right_iff, List.forall₂_same]
    intro piece _
    exact Text.trimsTo_iff.mpr rfl
  · rw [toList_text, hsegments, Text.pieces_eq_splitOn]
  · rw [← Text.pieces_eq_splitOn, pieces_text, List.map_map]
    refine (List.map_congr_left fun segment _ ↦ ?_).trans (List.map_id _)
    simp
  · exact ofText_text p
  · rw [← Text.pieces_eq_splitOn]
    exact text_eq_iff h

/-- A text spells a path exactly if every piece between its points has a character that is no
blank.  The path then has the trimmed pieces for its segments and their join for its text, which
is cut into the segments and read as the path again.  Two texts spell one path exactly if their
trimmed pieces agree, which is also when the two paths have one text. -/
theorem ofText_normalizes (s : String) :
    ((∃ p, ofText s = .ok p) ↔
        ∀ piece ∈ s.toList.splitOn '.', ∃ c ∈ piece, Text.isBlank c = false) ∧
      ∀ p, ofText s = .ok p →
        p.IsNormalFormOf s ∧
          ∀ t q, ofText t = .ok q →
            (p = q ↔
              (s.toList.splitOn '.').map Text.trim = (t.toList.splitOn '.').map Text.trim) ∧
            (p = q ↔ p.text = q.text) := by
  constructor
  · rw [exists_ofText_eq_ok_iff, Text.pieces_eq_splitOn]
    exact forall₂_congr fun _ _ ↦ Text.trim_ne_nil_iff
  · intro p hp
    refine ⟨isNormalFormOf_of_ofText hp, fun t q hq ↦ ⟨?_, text_inj.symm⟩⟩
    rw [eq_iff_map_trim_eq hp hq, Text.pieces_eq_splitOn, Text.pieces_eq_splitOn]

section Examples

def ownerTown : Path := ⟨["Owner", "Home Town"], by decide, by decide⟩

/-- An em space, a no-break space, an ideographic space and a tab stand around the segments. -/
def spacedOwnerTown : String := "\u2003Owner\u00a0.\u3000Home Town\t"

theorem ofText_normalizes_spaced :
    ofText spacedOwnerTown = .ok ownerTown ∧ ofText "Owner. Home Town" = .ok ownerTown ∧
      (spacedOwnerTown.toList.splitOn '.').map Text.trim
        = ("Owner. Home Town".toList.splitOn '.').map Text.trim ∧
      ofText ownerTown.text = .ok ownerTown ∧ ownerTown.text ≠ spacedOwnerTown ∧
      ¬ ∃ p, ofText "Owner.\u3000.Town" = .ok p := by
  have hspaced : ofText spacedOwnerTown = .ok ownerTown := rfl
  have hplain : ofText "Owner. Home Town" = .ok ownerTown := rfl
  obtain ⟨-, hreads⟩ := ofText_normalizes spacedOwnerTown
  obtain ⟨hform, hagree⟩ := hreads ownerTown hspaced
  have htrimmed := (hagree _ _ hplain).1.mp rfl
  refine ⟨hspaced, hplain, htrimmed, hform.ofText_text, ?_, ?_⟩
  · intro htext
    exact absurd (hform.text_eq_iff.mp htext "\u2003Owner\u00a0".toList (by decide)) (by decide)
  · intro hread
    obtain ⟨c, hc, hshown⟩ := (ofText_normalizes _).1.mp hread ['\u3000'] (by decide)
    obtain rfl : c = '\u3000' := List.mem_singleton.mp hc
    cases hshown

end Examples

end RecordFilter.Path
