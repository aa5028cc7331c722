import RecordFilter.Proofs.Query.Locations

/-!
# Carets under errors

The carets under an error begin below the first character of its passage, since
columns are counted in characters, and they do not go further than its line.
How many there are is counted in bytes, however: as many as the passage has, as
long as there is something above them.  So they go past the end of a passage
with a character of several bytes, unless the line ends there as well
(`Text.Passage.marks_eq_iff`).
-/

namespace RecordFilter

open Text (Passage byteLength)

namespace Text

/-- A text has as many bytes as characters if each of these has one. -/
theorem byteLength_eq_length_iff {s : List Char} :
    byteLength s = s.length ↔ ∀ c ∈ s, c.utf8Size = 1 := by
  induction s with
  | nil => simp
  | cons c s ih =>
    have hc := c.utf8Size_pos
    have hs := length_le_byteLength s
    rw [List.forall_mem_cons, ← ih, List.length_cons, byteLength_cons]
    omega

/-- The first line of a text is what it begins with. -/
theorem FirstLine.isPrefix {line s : List Char} (h : FirstLine line s) : line <+: s := by
  cases h with
  | feed _ _ behind => exact List.prefix_append line _
  | returnFeed _ behind => exact List.prefix_append line _
  | last => exact List.prefix_rfl

namespace Passage

variable (p : Passage)

/-- What stands on the line behind the place where the passage begins. -/
def rest : List Char := p.line.drop p.back.length

/-- What stands of the passage on its line. -/
def shown : List Char := p.rest.take p.covered.length

theorem back_append_rest : p.back ++ p.rest = p.line :=
  List.prefix_iff_eq_append.mp p.inside

/-- A passage is shown from its beginning on. -/
theorem shown_isPrefix : p.shown <+: p.covered := by
  have hrest : p.rest <+: p.covered ++ p.after := by
    rw [← List.prefix_append_right_inj p.back, p.back_append_rest]
    exact p.firstLine.isPrefix
  have htake := hrest.take p.covered.length
  rwa [List.take_left] at htake

theorem length_shown : p.shown.length = min p.covered.length p.rest.length := List.length_take

/-- Carets go on for the bytes of the passage, but not beyond the line. -/
theorem marks_eq : Diagnostic.marks p.line p.location
    = min (max (byteLength p.covered) 1) (max p.rest.length 1) := by
  rw [Diagnostic.marks, rest, List.length_drop, location, Nat.add_sub_cancel_left]

theorem max_length_shown_le_marks :
    max p.shown.length 1 ≤ Diagnostic.marks p.line p.location := by
  have hbytes := length_le_byteLength p.covered
  rw [p.marks_eq, p.length_shown]
  omega

/-- There are as many carets as characters are shown of a passage, or a single one if there are
none, exactly when the line ends where they do or all of them have one byte. -/
theorem marks_eq_iff : Diagnostic.marks p.line p.location = max p.shown.length 1 ↔
    p.back ++ p.shown = p.line ∨ ∀ c ∈ p.shown, c.utf8Size = 1 := by
  have hbytes := length_le_byteLength p.covered
  have hlength := p.length_shown
  rw [p.marks_eq]
  by_cases hcut : p.rest.length ≤ p.covered.length
  · -- the passage takes up the rest of its line
    have hall : p.shown = p.rest := List.take_of_length_le hcut
    rw [hall, p.back_append_rest]
    refine iff_of_true ?_ (.inl rfl)
    omega
  · -- the whole passage is shown, with something behind it
    have hall : p.shown = p.covered := p.shown_isPrefix.eq_of_length (by omega)
    have hends : p.back ++ p.shown ≠ p.line := by
      intro heq
      rw [← p.back_append_rest, List.append_cancel_left_eq] at heq
      rw [heq] at hlength
      omega
    rw [or_iff_right hends, hall, ← byteLength_eq_length_iff]
    constructor
    · intro hmarks
      by_contra hwide
      have hsome : p.covered ≠ [] := by
        intro hnil
        rw [hnil] at hwide
        exact hwide rfl
      have hpos := List.length_pos_of_ne_nil hsome
      omega
    · intro hnarrow
      omega

end Passage

end Text

/-! ## Rendered errors -/

namespace Diagnostic

/-- Whether a diagnostic shows a source with so many carets under the line of a passage, from its
first character on.  Apart from this it says what it says without the source. -/
def Underlines (d : Diagnostic) (source : String) (p : Passage) (n : Nat) : Prop :=
  ∀ colors, ∃ head tail, d.render none colors = head ++ tail ∧
    d.render (some source) colors = head ++ ("\n   |\n   | " ++ String.ofList p.line ++ "\n   | " ++
      String.ofList (List.replicate p.back.length ' ') ++
      String.ofList (List.replicate n '^')) ++ tail

/-- The number of carets is what the source adds to the length. -/
theorem Underlines.unique {d : Diagnostic} {source : String} {p : Passage} {n m : Nat}
    (hn : d.Underlines source p n) (hm : d.Underlines source p m) : n = m := by
  obtain ⟨head, tail, hnone, hsome⟩ := hn false
  obtain ⟨head', tail', hnone', hsome'⟩ := hm false
  have hboth := congrArg String.length (hnone.symm.trans hnone')
  have hlength := congrArg String.length (hsome.symm.trans hsome')
  simp only [String.length_append, String.length_ofList, List.length_replicate] at hboth hlength
  omega

theorem underlines_of_passage {d : Diagnostic} {source : String} (p : Passage)
    (hp : p.text = source.toList) (hd : d.location = some p.location) :
    d.Underlines source p (marks p.line p.location) := by
  have hcolumn : p.location.column - 1 = p.back.length := Nat.add_sub_cancel_left ..
  have hrender := (echoes_of_passage p hp hd).render
  rwa [hcolumn] at hrender

end Diagnostic

/-- The errors of a query are located at passages of it. -/
theorem exists_passage_of_mem_errors {mode : Mode} {query : String} {e : FilterError}
    (he : e ∈ (parseWith mode query).errors) :
    ∃ p : Passage, p.text = query.toList ∧ e.toDiagnostic.location = some p.location := by
  have herrors : (parseWith mode query).errors
      = (failuresFrom 0 (mode.select (clauseOutcomes query))).map Prod.snd :=
    (map_snd_failuresFrom 0 _).symm
  rw [herrors] at he
  obtain ⟨⟨i, e⟩, hmem, rfl⟩ := List.mem_map.mp he
  obtain ⟨c, f, hc, hf, rfl⟩ := mem_failuresFrom_clauseOutcomes_iff.mp
    ((mode.failuresFrom_select_sublist 0 _).subset hmem)
  obtain ⟨p, htext, hlocation, -⟩ := Clause.exists_passage_of_read (List.mem_of_getElem? hc) hf
  refine ⟨p, htext, ?_⟩
  rw [← hlocation]
  rfl

/-- The carets under an error of a query begin below the first character of its passage and go on at
least for the characters that the line shows of it.  They end with these, if and only if the line
does so as well or all of them have one byte; an empty passage has a single caret. -/
theorem parseWith_errors_underlined (mode : Mode) (query : String) :
    ∀ e ∈ (parseWith mode query).errors, ∃ p : Passage, ∃ n,
      p.text = query.toList ∧ e.toDiagnostic.location = some p.location ∧
      e.toDiagnostic.Underlines query p n ∧ max p.shown.length 1 ≤ n ∧
      (n = max p.shown.length 1 ↔
        p.back ++ p.shown = p.line ∨ ∀ c ∈ p.shown, c.utf8Size = 1) := by
  intro e he
  obtain ⟨p, htext, hlocation⟩ := exists_passage_of_mem_errors he
  exact ⟨p, _, htext, hlocation, Diagnostic.underlines_of_passage p htext hlocation,
    p.max_length_shown_le_marks, p.marks_eq_iff⟩

/-- The letters of an unknown operator are underlined one by one, behind a path with a character of
two bytes. -/
theorem parseWith_errors_underlined_narrow :
    ∃ e ∈ (parseWith .fast "é:Foo:1").errors, ∃ p : Passage,
      p.text = "é:Foo:1".toList ∧ p.location = ⟨1, 3, 3, 3⟩ ∧
      e.toDiagnostic.Underlines "é:Foo:1" p (max p.shown.length 1) := by
  let query := "é:Foo:1"
  have hlocations : (parseWith .fast query).errors.map (fun e ↦ e.toDiagnostic.location)
      = [some ⟨1, 3, 3, 3⟩] := by decide +kernel
  obtain ⟨e, herrors, hlocation⟩ := List.map_eq_singleton_iff.mp hlocations
  have he : e ∈ (parseWith .fast query).errors := herrors ▸ List.mem_singleton_self e
  obtain ⟨p, n, htext, hp, hunderlines, -, hiff⟩ := parseWith_errors_underlined .fast query e he
  have hplace : p.location = ⟨1, 3, 3, 3⟩ := Option.some.inj (hp.symm.trans hlocation)
  have hcolumn : 1 + p.back.length = 3 := congrArg Text.Location.column hplace
  have hback : p.back.length = 2 := by omega
  have hline : some p.line = some query.toList := by
    rw [← p.getElem?_lines, htext, hplace]
    decide +kernel
  have hrest : p.rest = "Foo:1".toList := by
    rw [Text.Passage.rest, Option.some.inj hline, hback]
    decide
  have hnarrow : ∀ c ∈ p.shown, c.utf8Size = 1 := by
    have hall : ("Foo:1".toList.all (·.utf8Size == 1)) = true := by decide
    rw [← hrest, List.all_eq_true] at hall
    exact fun c hc ↦ beq_iff_eq.mp (hall c (List.mem_of_mem_take hc))
  exact ⟨e, he, p, htext, hplace, hiff.mpr (.inr hnarrow) ▸ hunderlines⟩

/-- The operator of the clause `id:é:1`, which is one character of two bytes. -/
def wideOperator : Passage where
  front := []
  back := "id:".toList
  covered := "é".toList
  after := ":1".toList
  line := "id:é:1".toList
  wholeLines := .nil
  firstLine := .last (by decide) (by decide)
  inside := by decide

/-- An unknown operator of one character, which has two bytes, has two carets. -/
theorem wideOperator_has_two_carets :
    ∃ e ∈ (parseWith .fast "id:é:1").errors, wideOperator.text = "id:é:1".toList ∧
      e.toDiagnostic.location = some wideOperator.location ∧ wideOperator.shown = ['é'] ∧
      e.toDiagnostic.Underlines "id:é:1" wideOperator 2 ∧
      ¬ e.toDiagnostic.Underlines "id:é:1" wideOperator (max wideOperator.shown.length 1) := by
  have hlocations : (parseWith .fast "id:é:1").errors.map (fun e ↦ e.toDiagnostic.location)
      = [some wideOperator.location] := by decide +kernel
  obtain ⟨e, herrors, hlocation⟩ := List.map_eq_singleton_iff.mp hlocations
  have htwo : e.toDiagnostic.Underlines "id:é:1" wideOperator 2 :=
    Diagnostic.underlines_of_passage wideOperator (by decide) hlocation
  refine ⟨e, herrors ▸ List.mem_singleton_self e, by decide, hlocation, by decide, htwo,
    fun hone ↦ ?_⟩
  have hlength : 2 = max wideOperator.shown.length 1 := htwo.unique hone
  exact absurd hlength (by decide)

end RecordFilter
