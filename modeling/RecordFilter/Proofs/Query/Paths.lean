import RecordFilter.Proofs.Query.Fields

/-!
# Paths and their texts

A text is read as the path that has its trimmed pieces for segments
(`Path.ofText_eq_ok_iff`).  The segments of a path have no point in them and no
blanks around them, so its text has no blanks around it and its pieces are the
segments again (`Path.ofText_text`).  A field has no blanks at all, so the path
that it spells has that field as its text.
-/

namespace RecordFilter

/-! ## Pieces and trimmed pieces -/

namespace Text

theorem pieces_eq_splitOn (separator : Char) (s : List Char) :
    pieces separator s = s.splitOn separator := by
  induction s with
  | nil => rfl
  | cons c s ih =>
    rw [pieces, List.splitOn_cons_eq_if_modifyHead, ih]
    simp only [beq_iff_eq]
    split
    · rfl
    · obtain ⟨p, ps, hp⟩ := List.exists_cons_of_ne_nil (List.splitOn_ne_nil separator s)
      rw [hp]
      rfl

theorem intercalate_pieces (separator : Char) (s : List Char) :
    [separator].intercalate (pieces separator s) = s := by
  rw [pieces_eq_splitOn, List.intercalate_splitOn]

theorem pieces_intercalate {separator : Char} {ps : List (List Char)}
    (h : ∀ p ∈ ps, separator ∉ p) (hne : ps ≠ []) :
    pieces separator ([separator].intercalate ps) = ps := by
  rw [pieces_eq_splitOn, List.splitOn_intercalate separator h hne]

theorem pieces_of_notMem {separator : Char} {s : List Char} (h : separator ∉ s) :
    pieces separator s = [s] := by
  induction s with
  | nil => rfl
  | cons c s ih =>
    rw [List.mem_cons, not_or] at h
    rw [pieces, if_neg (Ne.symm h.1), ih h.2, consHead]

/-- The pieces consist of what is in the text besides the separators. -/
theorem mem_of_mem_pieces {separator : Char} {s p : List Char} (h : p ∈ pieces separator s) :
    ∀ c ∈ p, c ∈ s ∧ c ≠ separator := by
  induction s generalizing p with
  | nil =>
    obtain rfl : p = [] := by simpa [pieces] using h
    intro c hc
    cases hc
  | cons d s ih =>
    have hrest : p ∈ pieces separator s → ∀ c ∈ p, c ∈ d :: s ∧ c ≠ separator := by
      intro hp c hc
      exact ⟨List.mem_cons_of_mem d (ih hp c hc).1, (ih hp c hc).2⟩
    rw [pieces] at h
    split at h
    · rcases List.mem_cons.mp h with rfl | h
      · intro c hc
        cases hc
      · exact hrest h
    · next hd =>
      obtain ⟨q, qs, hq⟩ := List.exists_cons_of_ne_nil (pieces_ne_nil separator s)
      rw [hq, consHead] at h
      rcases List.mem_cons.mp h with rfl | h
      · intro c hc
        rcases List.mem_cons.mp hc with rfl | hc
        · exact ⟨List.mem_cons_self, hd⟩
        · obtain ⟨hmem, hne⟩ := ih (by rw [hq]; exact List.mem_cons_self) c hc
          exact ⟨List.mem_cons_of_mem d hmem, hne⟩
      · exact hrest (by rw [hq]; exact List.mem_cons_of_mem q h)

/-- What stands before the first separator belongs to the first piece. -/
theorem exists_pieces_append_left {separator : Char} {b : List Char} (hb : separator ∉ b)
    (s : List Char) :
    ∃ p ps, pieces separator s = p :: ps ∧ pieces separator (b ++ s) = (b ++ p) :: ps := by
  induction b with
  | nil =>
    obtain ⟨p, ps, hp⟩ := List.exists_cons_of_ne_nil (pieces_ne_nil separator s)
    exact ⟨p, ps, hp, hp⟩
  | cons c b ih =>
    rw [List.mem_cons, not_or] at hb
    obtain ⟨p, ps, hp, hbp⟩ := ih hb.2
    refine ⟨p, ps, hp, ?_⟩
    rw [List.cons_append, pieces, if_neg (Ne.symm hb.1), hbp, consHead, List.cons_append]

/-- What stands behind the last separator belongs to the last piece. -/
theorem exists_pieces_append_right {separator : Char} {b : List Char} (hb : separator ∉ b)
    (s : List Char) :
    ∃ ps p, pieces separator s = ps ++ [p] ∧ pieces separator (s ++ b) = ps ++ [p ++ b] := by
  induction s with
  | nil => exact ⟨[], [], rfl, pieces_of_notMem hb⟩
  | cons c s ih =>
    obtain ⟨ps, p, hp, hbp⟩ := ih
    rw [List.cons_append, pieces, pieces, hp, hbp]
    split
    · exact ⟨[] :: ps, p, rfl, rfl⟩
    · cases ps with
      | nil => exact ⟨[], c :: p, rfl, rfl⟩
      | cons q ps => exact ⟨(c :: q) :: ps, p, rfl, rfl⟩

theorem mem_intercalate_iff {c : Char} {separator : List Char} {ps : List (List Char)}
    (h : c ∉ separator) : c ∈ separator.intercalate ps ↔ ∃ p ∈ ps, c ∈ p := by
  induction ps with
  | nil => simp
  | cons p ps ih =>
    cases ps with
    | nil => simp
    | cons p' ps => simp_all

end Text

namespace Path

variable {p : Path}

theorem toList_text (p : Path) : p.text.toList = ['.'].intercalate (p.segments.map String.toList) :=
  String.toList_intercalate

theorem isTrimmed_text (p : Path) : Text.IsTrimmed p.text.toList := by
  have hall : ∀ ps : List (List Char), (∀ s ∈ ps, Text.IsTrimmed s) → ps ≠ [] →
      Text.IsTrimmed (['.'].intercalate ps) := by
    intro ps hps hne
    induction ps with
    | nil => exact absurd rfl hne
    | cons s ps ih =>
      have hs : Text.IsTrimmed s := hps s (by simp)
      cases ps with
      | nil => simpa using hs
      | cons s' ps =>
        have hrest := ih (fun t ht ↦ hps t (by simp [ht])) (by simp)
        rw [List.intercalate_cons_cons, List.append_assoc]
        exact hs.append hrest ['.']
  rw [toList_text]
  refine hall _ ?_ (by simpa using p.ne_nil)
  intro s hs
  obtain ⟨t, ht, rfl⟩ := List.mem_map.mp hs
  obtain ⟨hne, htrim, -⟩ := p.isSegment t ht
  exact ⟨by simpa using hne, htrim⟩

theorem trimString_text (p : Path) : Text.trimString p.text = p.text := by
  rw [Text.trimString, p.isTrimmed_text.2, String.ofList_toList]

/-- The text of a path is cut into its segments. -/
theorem pieces_text (p : Path) : Text.pieces '.' p.text.toList = p.segments.map String.toList := by
  have hpoint : ∀ s ∈ p.segments.map String.toList, '.' ∉ s := by
    intro s hs
    obtain ⟨t, ht, rfl⟩ := List.mem_map.mp hs
    exact (p.isSegment t ht).2.2
  rw [toList_text, Text.pieces_intercalate hpoint (by simpa using p.ne_nil)]

theorem trimmedPieces_text (p : Path) : trimmedPieces p.text.toList = p.segments := by
  rw [trimmedPieces, pieces_text, List.map_map]
  refine (List.map_congr_left fun s hs ↦ ?_).trans (List.map_id _)
  simp [(p.isSegment s hs).2.1]

/-- Blanks around a text are dropped from its pieces. -/
theorem trimmedPieces_trim (s : List Char) : trimmedPieces (Text.trim s) = trimmedPieces s := by
  have hpoint : ∀ b : List Char, (∀ c ∈ b, Text.isBlank c = true) → '.' ∉ b := by
    intro b hb hmem
    exact absurd (hb '.' hmem) (by decide)
  have hleft : trimmedPieces (Text.trimLeft s) = trimmedPieces s := by
    obtain ⟨b, hb, hs⟩ := Text.exists_eq_append_trimLeft s
    obtain ⟨p, ps, hp, hbp⟩ := Text.exists_pieces_append_left (hpoint b hb) (Text.trimLeft s)
    rw [← hs] at hbp
    rw [trimmedPieces, trimmedPieces, hp, hbp, List.map_cons, List.map_cons,
      Text.trim_of_isBlank_append hb]
  have hright : trimmedPieces (Text.trim s) = trimmedPieces (Text.trimLeft s) := by
    obtain ⟨b, hb, hs⟩ := Text.exists_eq_trimRight_append (Text.trimLeft s)
    obtain ⟨ps, p, hp, hbp⟩ := Text.exists_pieces_append_right (hpoint b hb) (Text.trim s)
    have hbody : Text.trim s ++ b = Text.trimLeft s := hs.symm
    rw [hbody] at hbp
    rw [trimmedPieces, trimmedPieces, hp, hbp, List.map_append, List.map_append,
      List.map_singleton, List.map_singleton, Text.trim_append_of_isBlank p hb]
  rw [hright, hleft]

theorem segments_of_ofText {s : String} (h : ofText s = .ok p) :
    p.segments = trimmedPieces (Text.trim s.toList) := by
  simp only [ofText] at h
  split at h
  · cases h
  · split at h
    · cases h
      rfl
    · cases h

/-- A text is read as the path whose segments are its trimmed pieces. -/
theorem ofText_eq_ok_iff {s : String} : ofText s = .ok p ↔ p.segments = trimmedPieces s.toList := by
  constructor
  · intro h
    rw [segments_of_ofText h, trimmedPieces_trim]
  · intro h
    -- A blank text has one piece, of which nothing is left, and that is no segment.
    have hshown : Text.trim s.toList ≠ [] := by
      intro hnil
      have hempty : "" ∈ p.segments := by
        rw [h, ← trimmedPieces_trim, hnil]
        exact List.mem_cons_self
      exact (p.isSegment "" hempty).1 rfl
    obtain ⟨segments, hne, hsegments⟩ := p
    obtain rfl : segments = trimmedPieces s.toList := h
    simp only [ofText, if_neg hshown, trimmedPieces_trim]
    rw [dif_pos ⟨hne, hsegments⟩]

/-- The text of a path is read as that path. -/
theorem ofText_text (p : Path) : ofText p.text = .ok p :=
  ofText_eq_ok_iff.mpr p.trimmedPieces_text.symm

/-- A text that is read as a path is not blank, and no piece of it is. -/
theorem trim_ne_nil_of_ofText {s : String} (h : ofText s = .ok p) :
    Text.trim s.toList ≠ [] ∧ ∀ piece ∈ Text.pieces '.' s.toList, Text.trim piece ≠ [] := by
  have hsegments := ofText_eq_ok_iff.mp h
  constructor
  · intro hblank
    simp only [ofText, hblank, if_true] at h
    cases h
  · intro piece hpiece htrim
    have hmem : String.ofList (Text.trim piece) ∈ p.segments := by
      rw [hsegments]
      exact List.mem_map_of_mem hpiece
    refine (p.isSegment _ hmem).1 ?_
    rw [htrim, String.ofList_nil]

theorem map_toList_segments_of_ofText {s : String} (h : ofText s = .ok p) :
    p.segments.map String.toList = (Text.pieces '.' s.toList).map Text.trim := by
  rw [ofText_eq_ok_iff.mp h, trimmedPieces, List.map_map]
  refine List.map_congr_left fun piece _ ↦ ?_
  simp

/-- A text is the text of the path that it is read as exactly if its pieces are trimmed. -/
theorem text_eq_iff {s : String} (h : ofText s = .ok p) :
    p.text = s ↔ ∀ piece ∈ Text.pieces '.' s.toList, Text.trim piece = piece := by
  have hsegments := map_toList_segments_of_ofText h
  constructor
  · rintro rfl
    rw [pieces_text]
    intro piece hpiece
    obtain ⟨segment, hsegment, rfl⟩ := List.mem_map.mp hpiece
    exact (p.isSegment segment hsegment).2.1
  · intro htrimmed
    rw [← String.toList_inj, toList_text, hsegments, List.map_congr_left htrimmed, List.map_id',
      Text.intercalate_pieces]

/-- A text without blanks is the text of the path that it is read as. -/
theorem text_of_ofText {s : String} (hs : ∀ c ∈ s.toList, Text.isBlank c = false)
    (h : ofText s = .ok p) : p.text = s := by
  refine (text_eq_iff h).mpr fun piece hpiece ↦ ?_
  have hblank : ∀ c ∈ piece, Text.isBlank c = false :=
    fun c hc ↦ hs c (Text.mem_of_mem_pieces hpiece c hc).1
  exact Text.trim_eq_self (fun c hc ↦ hblank c (List.mem_of_mem_head? hc))
    (fun c hc ↦ hblank c (List.mem_of_mem_getLast? hc))

end Path

/-! ## Paths in clauses -/

/-- A run of letters, numerals and underscores that does not start with a numeral. -/
def IsIdentifier (s : String) : Prop :=
  ∃ c w, s.toList = c :: w ∧ (Text.isAlphabetic c = true ∨ c = '_') ∧
    ∀ d ∈ c :: w, Text.isAlphanumeric d = true ∨ d = '_'

/-- A run of letters and numerals is an identifier if it starts with a letter. -/
theorem isIdentifier_of_all {s : String} {c : Char} {w : List Char} (hs : s.toList = c :: w)
    (hc : Text.isAlphabetic c = true) (hw : (c :: w).all Text.isAlphanumeric = true) :
    IsIdentifier s :=
  ⟨c, w, hs, .inl hc, fun d hd ↦ .inl (List.all_eq_true.mp hw d hd)⟩

/-- The paths of identifiers are those whose text is a field and whose segments start as they
should. -/
theorem Path.isIdentifier_iff {p : Path} :
    (∀ s ∈ p.segments, IsIdentifier s) ↔
      Clause.IsFieldWord p.text.toList ∧ ∀ s ∈ p.segments, Clause.startsSegment s = true := by
  have hmem : ∀ c, c ≠ '.' → (c ∈ p.text.toList ↔ ∃ s ∈ p.segments, c ∈ s.toList) := by
    intro c hc
    rw [toList_text, Text.mem_intercalate_iff (by simpa using hc)]
    simp
  constructor
  · intro h
    refine ⟨⟨p.isTrimmed_text.1, ?_⟩, ?_⟩
    · intro c hc
      by_cases hpoint : c = '.'
      · rw [hpoint]
        rfl
      · obtain ⟨s, hs, hcs⟩ := (hmem c hpoint).mp hc
        obtain ⟨d, w, hw, -, hall⟩ := h s hs
        rcases hall c (hw ▸ hcs) with hc | hc <;> simp [Clause.isFieldChar, hc]
    · intro s hs
      obtain ⟨d, w, hw, hd, -⟩ := h s hs
      simpa [Clause.startsSegment, hw] using hd
  · rintro ⟨⟨-, hfield⟩, hstarts⟩ s hs
    obtain ⟨hne, -, hpoint⟩ := p.isSegment s hs
    obtain ⟨c, w, hw⟩ := List.exists_cons_of_ne_nil (l := s.toList) (by simpa using hne)
    refine ⟨c, w, hw, ?_, ?_⟩
    · simpa [Clause.startsSegment, hw] using hstarts s hs
    · intro d hd
      rw [← hw] at hd
      have hdpoint : d ≠ '.' := by
        rintro rfl
        exact hpoint hd
      have hchar := hfield d ((hmem d hdpoint).mpr ⟨s, hs, hd⟩)
      simpa [Clause.isFieldChar, hdpoint] using hchar

namespace Clause

/-- A field spells a path of identifiers, whose text it is, or none. -/
theorem readPath_eq_ok_iff {f : Field} {p : Path} (hf : IsFieldWord f.word) :
    readPath f = .ok p ↔ p.text = f.text ∧ ∀ s ∈ p.segments, IsIdentifier s := by
  have hblank : ∀ c ∈ f.text.toList, Text.isBlank c = false := by
    intro c hc
    exact isBlank_of_isFieldChar (hf.2 c (by simpa [Field.text] using hc))
  constructor
  · intro h
    unfold readPath at h
    split at h
    · cases h
    · next q hq =>
      split at h
      · cases h
      · next hstarts =>
        cases h
        have htext := Path.text_of_ofText hblank hq
        refine ⟨htext, Path.isIdentifier_iff.mpr ⟨?_, by simpa using hstarts⟩⟩
        rw [htext, Field.text, String.toList_ofList]
        exact hf
  · rintro ⟨htext, hidentifiers⟩
    have hfind : p.segments.find? (!startsSegment ·) = none := by
      simpa using (Path.isIdentifier_iff.mp hidentifiers).2
    rw [readPath, ← htext, Path.ofText_text]
    simp only [hfind]

end Clause

end RecordFilter
