import RecordFilter.Proofs.Query.Clauses
import RecordFilter.Proofs.Query.Splitting

/-!
# Joining queries

Two queries are joined by a semicolon.  If the splitter stands outside quotes
and brackets at the end of the first, the clauses of both are the clauses of
the whole.  If it does not, the last clause of the first query runs on into the
second, and then it cannot be read as what it was before.  So two queries that
are parsed can be joined exactly when the first ends open
(`parseDescriptors_append_iff`).

Not every query that is parsed does: the splitter counts brackets everywhere
outside quotes, but to the reader a bracket in a bare text is a character like
any other.
-/

namespace RecordFilter

/-- Whether the splitter stands outside quotes and brackets at the end of a query. -/
def Split.endsOpen (query : List Char) : Bool := (({} : State).run query).isOpen

/-- If the first query ends open, nothing happens to the clauses. -/
theorem clauseTexts_append_semicolon {s : List Char} (h : Split.endsOpen s = true)
    (t : List Char) : clauseTexts (s ++ ';' :: t) = clauseTexts s ++ clauseTexts t := by
  simp only [clauseTexts_eq, Split.cut_append_semicolon (Split.State.isSound_start) h,
    List.map_append, List.filter_append]

/-- If it does not, its last clause runs on behind the semicolon. -/
theorem clauseTexts_append_of_not_endsOpen {s : List Char} (h : Split.endsOpen s = false)
    (t : List Char) :
    ∃ cs c b e cs', clauseTexts s = cs ++ [c] ∧
      clauseTexts (s ++ ';' :: t) = cs ++ (c ++ (b ++ ';' :: e)) :: cs' := by
  obtain ⟨ps, p, q, qs, hs, hst⟩ := Split.cut_append_of_not_isOpen h t
  -- Blanks alone would not have left the open state at the start of the last piece.
  have hp : Text.trim p ≠ [] := by
    intro hnil
    have hopen : (({} : Split.State).run p).isOpen = true :=
      Split.State.isOpen_run_of_isBlank rfl (Text.isBlank_of_trim_eq_nil hnil)
    have hrun : (({} : Split.State).run s).isOpen = (({} : Split.State).run p).isOpen := by
      rcases Split.run_last_piece (Split.State.isSound_start) hs with
        ⟨-, rfl⟩ | ⟨-, hagrees⟩
      · rfl
      · exact hagrees.isOpen
    rw [Split.endsOpen, hrun, hopen] at h
    cases h
  obtain ⟨b, hb⟩ := Text.exists_trim_append_cons p q (c := ';') rfl
  refine ⟨(ps.map Text.trim).filter (· ≠ []), Text.trim p, b, Text.trimRight q,
    (qs.map Text.trim).filter (· ≠ []), ?_, ?_⟩
  · simp [clauseTexts_eq, hs, hp]
  · simp [clauseTexts_eq, hst, hb]

/-- Two queries that are parsed can be joined, without any change to a descriptor, exactly when the
first of them ends open. -/
theorem parseDescriptors_append_iff {a b : String} {xs ys : List Descriptor}
    (ha : parseDescriptors a = .ok xs) (hb : parseDescriptors b = .ok ys) :
    parseDescriptors (a ++ ";" ++ b) = .ok (xs ++ ys) ↔ Split.endsOpen a.toList = true := by
  have hjoined : (a ++ ";" ++ b).toList = a.toList ++ ';' :: b.toList := by simp
  rw [parseDescriptors_eq_ok_iff] at ha hb ⊢
  rw [hjoined]
  constructor
  · intro h
    by_contra hclosed
    rw [Bool.not_eq_true] at hclosed
    obtain ⟨cs, c, x, e, cs', hs, hst⟩ := clauseTexts_append_of_not_endsOpen hclosed b.toList
    rw [hs, List.map_append, List.append_eq_map_iff] at ha
    obtain ⟨xs, ds, rfl, hxs, hds⟩ := ha
    obtain ⟨d, rfl, hd⟩ : ∃ d, ds = [d] ∧ Except.ok d = Clause.read c := by
      simpa [List.map_eq_singleton_iff] using hds
    rw [hst, List.map_append, List.map_append, List.map_append, hxs, List.append_assoc,
      List.append_cancel_left_eq, List.map_cons, List.map_singleton, List.singleton_append,
      List.cons.injEq] at h
    exact Clause.read_append_semicolon_ne hd.symm x e h.1
  · intro hopen
    rw [clauseTexts_append_semicolon hopen, List.map_append, List.map_append, ha, hb]

section Examples

/-- The condition that a property of one segment equals a value. -/
def isEqual (name : String) (h : IsSegment name) (v : Raw) : Descriptor :=
  ⟨none, .equal, ⟨[name], by simp, by simpa using h⟩, v⟩

theorem parseDescriptors_append_quoted :
    parseDescriptors "name:Equal:'x;[y'" = .ok [isEqual "name" (by decide) (.text "x;[y")] ∧
      parseDescriptors "id:Equal:1" = .ok [isEqual "id" (by decide) (.number "1")] ∧
      parseDescriptors ("name:Equal:'x;[y'" ++ ";" ++ "id:Equal:1")
        = .ok ([isEqual "name" (by decide) (.text "x;[y")] ++
          [isEqual "id" (by decide) (.number "1")]) := by
  refine ⟨rfl, rfl, ?_⟩
  exact (parseDescriptors_append_iff rfl rfl).mpr rfl

/-- An opening bracket in a bare text hides the semicolon behind it, and the second condition
becomes a part of the text. -/
theorem parseDescriptors_append_bracket :
    parseDescriptors "name:Equal:x[y" = .ok [isEqual "name" (by decide) (.text "x[y")] ∧
      parseDescriptors "id:Equal:1" = .ok [isEqual "id" (by decide) (.number "1")] ∧
      parseDescriptors ("name:Equal:x[y" ++ ";" ++ "id:Equal:1")
        = .ok [isEqual "name" (by decide) (.text "x[y;id:Equal:1")] :=
  ⟨rfl, rfl, rfl⟩

end Examples

end RecordFilter
