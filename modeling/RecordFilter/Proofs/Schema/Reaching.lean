import RecordFilter.Proofs.Query.NormalForm
import RecordFilter.Proofs.Schema.Resolving

/-!
# Which registered paths a descriptor reaches

A property is registered under a text as it stands, but for blanks at the two
ends.  The path of a descriptor has no blanks around any of its segments.  So of
the registered paths only those can be reached whose pieces between the points
are trimmed and not blank, and each of these is reached by its own text
(`Schema.exists_reaches_iff`).  Requests that do not care for case reach no more
of them: lowering letters moves neither points nor blanks.
-/

namespace RecordFilter

/-! ## Paths in normal form -/

namespace Text

/-- A text falls into the same pieces in any case of its letters. -/
theorem pieces_map_toLower {separator : Char} (h : separator.isAlpha = false) (s : List Char) :
    pieces separator (s.map Char.toLower)
      = (pieces separator s).map (List.map Char.toLower) := by
  induction s with
  | nil => rfl
  | cons c s ih =>
    simp only [List.map_cons, pieces, toLower_eq_iff h, ih]
    split
    · rfl
    · obtain ⟨p, ps, hp⟩ := List.exists_cons_of_ne_nil (pieces_ne_nil separator s)
      rw [hp]
      rfl

end Text

/-- Whether a text is the text of some path: no piece of it between the points is blank, and none
has blanks around it. -/
def Path.IsNormal (s : String) : Prop := ∀ piece ∈ s.toList.splitOn '.', Text.IsTrimmed piece

namespace Path

instance (s : String) : Decidable (IsNormal s) := inferInstanceAs (Decidable (∀ _ ∈ _, _))

theorem isNormal_text (p : Path) : IsNormal p.text := by
  intro piece hpiece
  rw [← Text.pieces_eq_splitOn, pieces_text] at hpiece
  obtain ⟨segment, hsegment, rfl⟩ := List.mem_map.mp hpiece
  obtain ⟨hne, htrim, -⟩ := p.isSegment segment hsegment
  exact ⟨by simpa using hne, htrim⟩

/-- A text in normal form spells the path whose text it is. -/
theorem IsNormal.exists_ofText {s : String} (h : IsNormal s) :
    ∃ p, ofText s = .ok p ∧ p.text = s := by
  rw [IsNormal, ← Text.pieces_eq_splitOn] at h
  obtain ⟨p, hp⟩ := exists_ofText_eq_ok_iff.mpr fun piece hpiece ↦ by
    rw [(h piece hpiece).2]
    exact (h piece hpiece).1
  exact ⟨p, hp, (text_eq_iff hp).mpr fun piece hpiece ↦ (h piece hpiece).2⟩

/-- The normal form does not depend on case. -/
theorem IsNormal.of_foldCase {s t : String} (ht : IsNormal t)
    (h : Text.foldCase s = Text.foldCase t) : IsNormal s := by
  rw [IsNormal, ← Text.pieces_eq_splitOn] at ht ⊢
  intro piece hpiece
  have hlower : piece.map Char.toLower
      ∈ (Text.pieces '.' t.toList).map (List.map Char.toLower) := by
    rw [← Text.pieces_map_toLower rfl, ← Text.map_toLower_of_foldCase h,
      Text.pieces_map_toLower rfl]
    exact List.mem_map_of_mem hpiece
  obtain ⟨piece', hpiece', hsame⟩ := List.mem_map.mp hlower
  obtain ⟨hne, htrim⟩ := ht piece' hpiece'
  refine ⟨?_, Text.trim_eq_self_of_map_toLower hsame.symm htrim⟩
  rintro rfl
  exact hne (List.map_eq_nil_iff.mp hsame)

end Path

/-! ## Registered paths -/

namespace Schema

variable {ρ : Type} {s : Schema ρ} {o : CompileOptions} {key : String}

/-- Whether a text for the path of a descriptor leads to the property that is registered under a
key. -/
def Reaches (s : Schema ρ) (o : CompileOptions) (text key : String) : Prop :=
  ∃ path found, Path.ofText text = .ok path ∧ s.resolve o.caseSensitive path.text = .ok found ∧
    found.path = key

/-- A key in normal form is reached by itself. -/
theorem reaches_self {p : Property ρ} (hkey : s.get? key = some p) (h : Path.IsNormal key) :
    s.Reaches o key key := by
  obtain ⟨path, hpath, rfl⟩ := h.exists_ofText
  exact ⟨path, _, hpath, resolve_of_get? o.caseSensitive path.trimString_text hkey, rfl⟩

/-- What is reached is in normal form, as the path that leads to it is. -/
theorem Reaches.isNormal {text : String} (h : s.Reaches o text key) : Path.IsNormal key := by
  obtain ⟨path, found, -, hfound, rfl⟩ := h
  have hfold := foldCase_of_resolve hfound
  rw [path.trimString_text] at hfold
  exact path.isNormal_text.of_foldCase hfold

/-- A registered key is reached exactly if it is in normal form. -/
theorem exists_reaches_iff {p : Property ρ} (hkey : s.get? key = some p) :
    (∃ text, s.Reaches o text key) ↔ Path.IsNormal key :=
  ⟨fun ⟨_, h⟩ ↦ h.isNormal, fun h ↦ ⟨key, reaches_self hkey h⟩⟩

end Schema

end RecordFilter
