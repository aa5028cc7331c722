import RecordFilter.Proofs.Outcome
import RecordFilter.Proofs.Query.Faults
import RecordFilter.Proofs.Query.Spans

/-!
# Errors point where they say

An error of a query names the clause it was found in and a part of this clause,
by bytes and by line and column.  The bytes are those of a part of the query, and
line and column count what stands in front of it (`Text.Passage.location`).  The
line that is counted is one that the query is cut into, and the column does not
lie behind its end, so that a diagnostic can show the line and point into it
(`Diagnostic.Echoes`).  The last step needs that faults lie next to something
visible: lines are counted by line feeds alone, but cut with their carriage
returns, and a text that ends with a line feed has no line behind it.
-/

namespace RecordFilter

open Text (Span Location IsVisible WholeLines FirstLine byteLength)

/-! ## Passages -/

namespace Text

/-- A part of a text, between what stands around it, with the line that it begins on. -/
structure Passage where
  /-- The whole lines in front of it. -/
  front : List Char
  /-- The part of its line in front of it. -/
  back : List Char
  covered : List Char
  after : List Char
  line : List Char
  wholeLines : WholeLines front
  firstLine : FirstLine line (back ++ (covered ++ after))
  inside : back <+: line

namespace Passage

variable (p : Passage)

def before : List Char := p.front ++ p.back

def text : List Char := p.before ++ (p.covered ++ p.after)

/-- Where the passage stands: its line is counted by the line feeds in front of it, its column by
the characters behind the last of these. -/
def location : Location :=
  ⟨1 + p.before.count '\n', 1 + p.back.length, byteLength p.before, byteLength p.covered⟩

theorem notMem_back : '\n' ∉ p.back := fun hmem ↦ p.firstLine.notMem (p.inside.subset hmem)

theorem count_before : p.before.count '\n' = p.front.count '\n' := by
  rw [before, List.count_append, List.count_eq_zero_of_not_mem p.notMem_back, Nat.add_zero]

/-- The span of a passage is located where the passage stands. -/
theorem ofSpan_eq : Location.ofSpan
    ⟨byteLength p.before, byteLength p.before + byteLength p.covered⟩ p.text = p.location := by
  have hplace : lineColumn p.text (byteLength p.before)
      = (1 + p.before.count '\n', 1 + p.back.length) := by
    rw [count_before]
    exact lineColumn_append p.wholeLines p.notMem_back (p.covered ++ p.after)
  simp only [Location.ofSpan, hplace, Span.size, Nat.add_sub_cancel_left, location]

/-- The line of a passage is under its number among the lines of the text. -/
theorem getElem?_lines : (lines p.text)[p.location.line - 1]? = some p.line := by
  have hindex : p.location.line - 1 = p.front.count '\n' := by
    rw [← count_before, location, Nat.add_sub_cancel_left]
  rw [hindex, text, before, List.append_assoc]
  exact Text.getElem?_lines p.wholeLines p.firstLine

end Passage

/-- A part of a text next to something visible is a passage. -/
theorem IsVisible.exists_passage {before covered after : List Char}
    (h : IsVisible before (covered ++ after)) :
    ∃ p : Passage, p.before = before ∧ p.covered = covered ∧ p.after = after := by
  obtain ⟨front, back, line, rfl, hfront, hline, hback⟩ := h.exists_line
  exact ⟨⟨front, back, covered, after, line, hfront, hline, hback⟩, rfl, rfl, rfl⟩

end Text

open Text (Passage)

/-! ## Diagnostics -/

namespace Diagnostic

/-- Whether a diagnostic shows a line of a source, with carets under it, at least one of them, that
do not start behind the line.  Apart from this it says what it says without the source. -/
structure Echoes (d : Diagnostic) (source : String) (l : Location) (line : List Char) : Prop where
  column_pos : 1 ≤ l.column
  column_le : l.column - 1 ≤ line.length
  marks_pos : 1 ≤ marks line l
  render : ∀ colors, ∃ head tail, d.render none colors = head ++ tail ∧
    d.render (some source) colors = head ++ ("\n   |\n   | " ++ String.ofList line ++ "\n   | " ++
      String.ofList (List.replicate (l.column - 1) ' ') ++
      String.ofList (List.replicate (marks line l) '^')) ++ tail

theorem marks_pos (line : List Char) (l : Location) : 1 ≤ marks line l := by
  rw [marks]
  omega

/-- The source only adds the excerpt. -/
theorem exists_render_eq {d : Diagnostic} {l : Location} (hd : d.location = some l)
    (source : String) (colors : Bool) :
    ∃ head tail, d.render none colors = head ++ tail ∧
      d.render (some source) colors = head ++ excerpt source.toList l ++ tail := by
  obtain ⟨severity, code, message, location, clause, help⟩ := d
  obtain rfl : location = some l := hd
  refine ⟨_, _, ?_, rfl⟩
  show _ ++ "" ++ _ = _ ++ _
  rw [String.append_empty]

/-- A diagnostic of a passage shows the line of the passage. -/
theorem echoes_of_passage {d : Diagnostic} {source : String} (p : Passage)
    (hp : p.text = source.toList) (hd : d.location = some p.location) :
    d.Echoes source p.location p.line := by
  have hcolumn : p.location.column - 1 = p.back.length := Nat.add_sub_cancel_left ..
  refine ⟨Nat.le_add_right .., ?_, marks_pos .., fun colors ↦ ?_⟩
  · rw [hcolumn]
    exact p.inside.length_le
  · obtain ⟨head, tail, hnone, hsome⟩ := exists_render_eq hd source colors
    have hline : echoed? source.toList p.location = some p.line := by
      rw [← hp]
      exact p.getElem?_lines
    refine ⟨head, tail, hnone, ?_⟩
    rw [hsome, excerpt, hline]

end Diagnostic

/-! ## Errors of clauses -/

namespace Clause

/-- The start of a fault is next to something visible: at the end of a clause it is in the clause
that there is something to see. -/
theorem Fault.LiesIn.exists_isVisible {f : Fault} {clause : List Char} (h : f.LiesIn clause)
    (hclause : Text.IsTrimmed clause) :
    ∃ before covered, clause = before ++ (covered ++ f.stop) ∧ f.start = covered ++ f.stop ∧
      IsVisible before (covered ++ f.stop) := by
  obtain ⟨before, hbefore, hplace⟩ := h.start
  obtain ⟨covered, hcovered⟩ := h.stop
  refine ⟨before, covered, by rw [hcovered, ← hbefore], hcovered.symm, ?_⟩
  rw [hcovered]
  refine hplace.elim (fun hnil ↦ ?_) id
  rw [hnil, List.append_nil] at hbefore
  subst hbefore
  have hlast := List.getLast?_eq_some_getLast hclause.1
  have hblank := Text.isBlank_getLast?_of_trim_eq_self hclause.2 _ hlast
  exact .inr ⟨_, hlast, Text.isLayout_of_isBlank_eq_false hblank⟩

/-- The error of a clause points to a passage of the query within the clause. -/
theorem exists_passage_of_read {query : List Char} {c : ClauseText} (hc : c ∈ splitClauses query)
    {f : Fault} (hf : read c.text = .error f) :
    ∃ p : Passage, p.text = query ∧
      Location.ofSpan ((f.span c.text).shift c.span.start) query = p.location ∧
      c.span.start ≤ p.location.offset ∧
      p.location.offset + p.location.length ≤ c.span.stop := by
  obtain ⟨⟨pre, post, hquery, hspan⟩, htrimmed⟩ :=
    (Split.laidOut_splitClauses query).standsIn c hc
  obtain ⟨before, covered, hclause, hstart, hvisible⟩ :=
    (liesIn_of_read hf).exists_isVisible htrimmed
  have hplace : IsVisible (pre ++ before) (covered ++ (f.stop ++ post)) := by
    have h := (hvisible.append_left pre).append_right post
    rwa [List.append_assoc] at h
  obtain ⟨p, hbefore, hcovered, hafter⟩ := hplace.exists_passage
  have htext : p.text = query := by
    rw [Text.Passage.text, hbefore, hcovered, hafter, hquery, hclause]
    simp
  have hshift : (f.span c.text).shift c.span.start
      = ⟨byteLength p.before, byteLength p.before + byteLength p.covered⟩ := by
    rw [hspan, Fault.span, Span.shift, hclause, hstart, hbefore, hcovered]
    simp only [Text.byteLength_append, Span.mk.injEq]
    omega
  refine ⟨p, htext, ?_, ?_, ?_⟩
  · rw [hshift, ← htext, p.ofSpan_eq]
  · rw [hspan, Text.Passage.location, hbefore]
    simp
  · rw [hspan, Text.Passage.location, hbefore, hcovered, hclause]
    simp
    omega

end Clause

/-- The errors of a query in their places are those of the clauses that are not read. -/
theorem mem_failuresFrom_clauseOutcomes_iff {query : String} {i : Nat} {e : FilterError} :
    (i, e) ∈ failuresFrom 0 (clauseOutcomes query) ↔
      ∃ c f, (splitClauses query.toList)[i]? = some c ∧ Clause.read c.text = .error f ∧
        e = f.toError query.toList i c := by
  simp only [mem_failuresFrom_iff, Nat.zero_add, exists_eq_left', clauseOutcomes,
    List.getElem?_mapIdx, Option.map_eq_some_iff]
  refine exists_congr fun c ↦ ?_
  rw [Clause.outcome]
  cases Clause.read c.text <;> simp [eq_comm]

/-- The errors of a query point where they say.  Whatever the query and the mode, the errors are
those of clauses in the order of these, and each of them has the index and the text of its clause.
It is located at a passage of the query that lies within the span of the clause, and shown with the
query as its source, it shows the line of the passage and points into it. -/
theorem parseWith_errors_located (mode : Mode) (query : String) :
    ((parseWith mode query).errors.Pairwise fun e e' ↦
      ∃ i j, e.clause? = some i ∧ e'.clause? = some j ∧ i < j) ∧
    ∀ e ∈ (parseWith mode query).errors, ∃ i c code message, ∃ p : Passage,
      (splitClauses query.toList)[i]? = some c ∧ c.span.slice? query.toList = some c.text ∧
      e = .malformed code i (String.ofList c.text) message (some p.location) ∧
      p.text = query.toList ∧ c.span.start ≤ p.location.offset ∧
      p.location.offset + p.location.length ≤ c.span.stop ∧
      e.toDiagnostic.Echoes query p.location p.line := by
  let failures := failuresFrom 0 (mode.select (clauseOutcomes query))
  have herrors : (parseWith mode query).errors = failures.map Prod.snd :=
    (map_snd_failuresFrom 0 _).symm
  have hfailure : ∀ {i : Nat} {e : FilterError}, (i, e) ∈ failures →
      ∃ c f, (splitClauses query.toList)[i]? = some c ∧ Clause.read c.text = .error f ∧
        e = f.toError query.toList i c := fun hmem ↦
    mem_failuresFrom_clauseOutcomes_iff.mp ((mode.failuresFrom_select_sublist 0 _).subset hmem)
  constructor
  · rw [herrors, List.pairwise_map]
    refine (pairwise_failuresFrom 0 _).imp_of_mem ?_
    rintro ⟨i, e⟩ ⟨j, e'⟩ hi hj hlt
    obtain ⟨c, f, -, -, rfl⟩ := hfailure hi
    obtain ⟨c', f', -, -, rfl⟩ := hfailure hj
    exact ⟨i, j, rfl, rfl, hlt⟩
  · intro e he
    rw [herrors] at he
    obtain ⟨⟨i, e⟩, hmem, rfl⟩ := List.mem_map.mp he
    obtain ⟨c, f, hc, hf, rfl⟩ := hfailure hmem
    have hclause : c ∈ splitClauses query.toList := List.mem_of_getElem? hc
    obtain ⟨p, htext, hlocation, hstart, hstop⟩ := Clause.exists_passage_of_read hclause hf
    have hslice := ((Split.isFaithful_splitClauses query.toList).slice c hclause).2.2
    refine ⟨i, c, f.cause.code, f.cause.message, p, hc, hslice, ?_, htext, hstart, hstop, ?_⟩
    · rw [← hlocation]
      rfl
    · refine Diagnostic.echoes_of_passage p htext ?_
      rw [← hlocation]
      rfl

/-- A clause on the second line of a query, whose lines end with carriage returns and line feeds,
lacks a colon. -/
theorem parseWith_errors_located_colon :
    ∃ e ∈ (parseWith .fast "é:Equal:1;\r\n\tid Equal:2\r\n").errors,
      e.location? = some ⟨2, 4, 16, 8⟩ ∧
      e.toDiagnostic.Echoes "é:Equal:1;\r\n\tid Equal:2\r\n" ⟨2, 4, 16, 8⟩
        "\tid Equal:2".toList := by
  let query := "é:Equal:1;\r\n\tid Equal:2\r\n"
  have hlocations : (parseWith .fast query).errors.map FilterError.location?
      = [some ⟨2, 4, 16, 8⟩] := by decide +kernel
  obtain ⟨e, herrors, hlocation⟩ := List.map_eq_singleton_iff.mp hlocations
  have he : e ∈ (parseWith .fast query).errors := herrors ▸ List.mem_singleton_self e
  obtain ⟨i, c, code, message, p, -, -, hmalformed, htext, -, -, hechoes⟩ :=
    (parseWith_errors_located .fast query).2 e he
  have hplace : p.location = ⟨2, 4, 16, 8⟩ := by
    rw [hmalformed] at hlocation
    exact Option.some.inj hlocation
  have hline : some p.line = some "\tid Equal:2".toList := by
    rw [← p.getElem?_lines, htext, hplace]
    decide +kernel
  rw [hplace, Option.some.inj hline] at hechoes
  exact ⟨e, he, hlocation, hechoes⟩

end RecordFilter
