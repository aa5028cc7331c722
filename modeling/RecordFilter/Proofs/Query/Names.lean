import RecordFilter.Proofs.Query.Grammar
import RecordFilter.Proofs.Query.Padding

/-!
# Names without quotes

A text that is put into a query as it is, without quotes, need not be read back.
It is if it can stand where a value starts, means nothing else, and goes on to
the end of the clause (`Clause.NamesAlone`) or to the end of its item in a list
(`Clause.NamesInList`).  The two ends differ.  Alone, a name ends at a semicolon
that separates, and behind a path that is spelled like a connective it must not
look like an operator with a value.  In a list it ends at a comma or a closing
bracket; semicolons and colons are no harm there, as the splitter does not cut
inside brackets.

Both conditions are exact (`namesAlone_iff`, `namesInList_iff`).  What carries
the way back is the length of the texts: a quoted text is longer than what it
spells, so a text that is read as itself was not read as a quoted one, and it
was read to its end.
-/

namespace RecordFilter

open Text (isBlank skipLayout trimLeft trimRight)
open Text.Quoted (isQuote Spells)

/-- Whether a raw value is this text, be it a number or not. -/
def Raw.IsLexeme (raw : Raw) (s : String) : Prop := raw = .number s ∨ raw = .text s

/-! ## Bare literals -/

namespace Literal

/-- The texts that stand for themselves where a value may start. -/
structure IsUnquoted (w : List Char) : Prop where
  isTrimmed : Text.IsTrimmed w
  startsBare : ∀ c ∈ w.head?, Clause.StartsBare c
  ne_keyword : ∀ keyword ∈ ["null", "true", "false"], ¬ IsCaseOf keyword w

theorem IsUnquoted.startsBareToken {w : List Char} (h : IsUnquoted w) :
    ∀ c ∈ w.head?, Grammar.StartsBareToken c := by
  intro c hc
  have hblank : isBlank c = false := Text.isBlank_head?_of_trim_eq_self h.isTrimmed.2 c hc
  exact ⟨Text.isLayout_of_isBlank_eq_false hblank, h.startsBare c hc⟩

/-- A numeral is no keyword, because it is classified as a number. -/
theorem not_isCaseOf_of_isNumeral {w : List Char} (h : IsNumeral w) :
    ∀ keyword ∈ ["null", "true", "false"], ¬ IsCaseOf keyword w := by
  have hnumber := classify_of_isNumeral h
  simp only [List.forall_mem_cons, List.not_mem_nil, false_implies, implies_true, and_true]
  refine ⟨fun hnull ↦ ?_, fun htrue ↦ ?_, fun hfalse ↦ ?_⟩
  · rw [classify_null hnull] at hnumber
    cases hnumber
  · rw [classify_boolean (b := true) htrue] at hnumber
    cases hnumber
  · rw [classify_boolean (b := false) hfalse] at hnumber
    cases hnumber

end Literal

namespace Grammar

/-- A literal without quotes is a lexeme if it is no keyword. -/
theorem BareLiteral.isLexeme_iff {raw : Raw} {w : List Char} {s : String} (h : BareLiteral raw w) :
    raw.IsLexeme s ↔
      s.toList = w ∧ ∀ keyword ∈ ["null", "true", "false"], ¬ IsCaseOf keyword w := by
  have htext : String.ofList w = s ↔ s.toList = w := by
    rw [← String.toList_inj, String.toList_ofList, eq_comm]
  cases h with
  | null h => simp [Raw.IsLexeme, h]
  | boolean b h => cases b <;> simp_all [Raw.IsLexeme]
  | number h =>
    rw [and_iff_left (Literal.not_isCaseOf_of_isNumeral h), ← htext]
    simp [Raw.IsLexeme]
  | text hkeyword hnumeral =>
    rw [and_iff_left hkeyword, ← htext]
    simp [Raw.IsLexeme]

theorem exists_bareLiteral {s : String}
    (h : ∀ keyword ∈ ["null", "true", "false"], ¬ IsCaseOf keyword s.toList) :
    ∃ raw : Raw, raw.IsLexeme s ∧ BareLiteral raw s.toList := by
  have hbare : BareLiteral (Literal.classify s.toList) s.toList := Literal.classify_eq_iff.mp rfl
  exact ⟨_, hbare.isLexeme_iff.mpr ⟨rfl, h⟩, hbare⟩

end Grammar

/-- What is quoted is not longer than its spelling. -/
theorem Text.Quoted.Spells.length_le {q : Char} {w t : List Char} (h : Spells q w t) :
    t.length ≤ w.length := by
  induction h with
  | nil => rfl
  | escaped e _ ih => simp only [List.length_cons]; omega
  | plain _ _ _ ih => simp only [List.length_cons]; omega

/-! ## Values and items -/

namespace Grammar

variable {raw : Raw} {s : String} {u : List Char}

/-- A value that is a lexeme as long as its text is this text, without quotes. -/
theorem Value.eq_of_isLexeme (h : Value raw u) (hraw : raw.IsLexeme s)
    (hlength : u.length ≤ s.toList.length) :
    u = s.toList ∧ u ≠ [] ∧ (∀ c ∈ u.head?, StartsBareToken c) ∧
      ∀ keyword ∈ ["null", "true", "false"], ¬ IsCaseOf keyword u := by
  cases h with
  | @quoted q l w t l' hl hl' hq h =>
    obtain rfl : String.ofList t = s := by simpa [Raw.IsLexeme] using hraw
    have hle := h.length_le
    simp only [String.toList_ofList, List.length_append, List.length_cons] at hlength
    omega
  | empty | list => simp [Raw.IsLexeme] at hraw
  | @bare _ l w hl hne hstart h =>
    obtain ⟨rfl, hkeyword⟩ := h.isLexeme_iff.mp hraw
    obtain rfl : l = [] := by
      rw [List.length_append] at hlength
      exact List.length_eq_zero_iff.mp (by omega)
    exact ⟨rfl, hne, hstart, hkeyword⟩

/-- The same for an item of a list, whose text has no blanks around it then. -/
theorem Item.eq_of_isLexeme (h : Item raw u) (hraw : raw.IsLexeme s)
    (hlength : u.length ≤ s.toList.length) :
    u = s.toList ∧ Literal.IsUnquoted u ∧ ',' ∉ u ∧ ']' ∉ u := by
  cases h with
  | @quoted q w t hq h =>
    obtain rfl : String.ofList t = s := by simpa [Raw.IsLexeme] using hraw
    have hle := h.length_le
    simp only [String.toList_ofList, List.length_append, List.length_cons] at hlength
    omega
  | bare hstart hcomma hbracket hne h =>
    obtain ⟨hs, hkeyword⟩ := h.isLexeme_iff.mp hraw
    have htrim : Text.trim u = u := by
      rw [hs] at hlength
      exact Text.trim_eq_self_of_length (Nat.le_antisymm (Text.length_trim_le u) hlength)
    rw [htrim] at hs hne hkeyword
    exact ⟨hs.symm, ⟨⟨hne, htrim⟩, fun c hc ↦ (hstart c hc).2, hkeyword⟩, hcomma, hbracket⟩

/-- Layout in front of items belongs to the first of them. -/
theorem Items.append_layout {raws : List Raw} {l : List Char} (h : Items raws u)
    (hl : Text.IsLayoutRun l) : Items raws (l ++ u) := by
  have hpadded : ∀ {v : Raw} {t : List Char}, Padded (Item v) t → Padded (Item v) (l ++ t) := by
    rintro v t ⟨l₁, w, l₂, hl₁, hl₂, hw, rfl⟩
    refine ⟨l ++ l₁, w, l₂, List.forall_mem_append.mpr ⟨hl, hl₁⟩, hl₂, hw, ?_⟩
    rw [List.append_assoc]
  cases h with
  | last hv => exact .last (hpadded hv)
  | cons hv hrest =>
    rw [← List.append_assoc]
    exact .cons (hpadded hv) hrest

/-- Items with commas and spaces between them are the items of a list. -/
theorem items_intercalate {raws : List Raw} {ws : List (List Char)}
    (h : List.Forall₂ Item raws ws) (hne : raws ≠ []) : Items raws ([',', ' '].intercalate ws) := by
  have hspace : Text.IsLayoutRun [' '] := by decide
  induction h with
  | nil => exact absurd rfl hne
  | @cons v w vs ws hw hrest ih =>
    cases hrest with
    | nil =>
      rw [List.intercalate_singleton]
      exact .last (Padded.bare hw)
    | cons =>
      rw [List.intercalate_cons_cons, List.append_assoc]
      exact .cons (Padded.bare hw) ((ih (by simp)).append_layout hspace)

end Grammar

/-! ## The splitter behind the fields -/

namespace Split

/-- At a colon behind plain text the splitter has nothing open. -/
theorem passes_concat_colon {s : List Char} (h : ∀ c ∈ s, State.IsPlain c) :
    Passes {} (s ++ [':']) (.outside 0 (some ':')) := by
  obtain ⟨p, hp⟩ := passes_plain h 0 none
  have hcolon : Passes (.outside 0 p) [':'] ((State.outside 0 p).next ':') :=
    Passes.single (fun hc ↦ absurd hc (by decide))
  exact hp.append hcolon

/-- The whole text is the first piece only if there is no other. -/
theorem tail_eq_nil_of_cut {st : State} {s : List Char} {qs : List (List Char)}
    (h : cut st s = s :: qs) : qs = [] := by
  have hjoin := intercalate_cut st s
  rw [h] at hjoin
  cases qs with
  | nil => rfl
  | cons p ps => simp at hjoin

/-- Inside brackets nothing is cut before one of them is closed. -/
theorem passes_of_not_mem_close {s : List Char} (h : ']' ∉ s) {st : State} (hst : st.depth ≠ 0) :
    ∃ st', Passes st s st' := by
  induction s generalizing st with
  | nil => exact ⟨st, Passes.nil st⟩
  | cons c s ih =>
    rw [List.mem_cons, not_or] at h
    have hclose : c ≠ ']' := fun hc ↦ h.1 hc.symm
    have hnext : (st.next c).depth ≠ 0 := by
      unfold State.next
      split
      · unfold State.insideQuote
        split_ifs <;> exact hst
      · simp only [State.outsideQuote, hclose, if_false]
        split_ifs <;> omega
    obtain ⟨st', hs⟩ := ih h.2 hnext
    refine ⟨st', Passes.cons (fun _ ↦ ?_) hs⟩
    simp [State.isOpen, hst]

/-- A list is not cut if its only closing bracket is at its end. -/
theorem cut_brackets {s : List Char} (h : ']' ∉ s) (p : Option Char) :
    cut (.outside 0 p) ('[' :: (s ++ [']'])) = ['[' :: (s ++ [']'])] := by
  have hdepth : ((State.outside 0 p).next '[').depth ≠ 0 := Nat.one_ne_zero
  obtain ⟨st, hs⟩ := passes_of_not_mem_close h hdepth
  have hclose : Passes st [']'] (st.next ']') := Passes.single (fun hc ↦ absurd hc (by decide))
  exact (Passes.cons (fun hc ↦ absurd hc (by decide)) (hs.append hclose)).cut_eq

end Split

/-! ## Conditions -/

namespace Clause

open Grammar (Operates Value)

/-- Whether a clause with this path in front of a value is not one with a connective. -/
def IsUnconnected (path : Path) (u : List Char) : Prop :=
  ∀ c o v, IsCaseOf (Connective.keyword c) path.text.toList → ¬ Operates o v u

/-- The fields of a condition without a connective. -/
def conditionFront (path : Path) (operator : Operator) : List Char :=
  path.text.toList ++ ':' :: (operator.keyword.toList ++ [':'])

variable {path : Path} {operator : Operator} {raw : Raw}

/-! ### The fields of a condition -/

theorem trimLeft_conditionFront :
    trimLeft (conditionFront path operator) = conditionFront path operator := by
  refine Text.trimLeft_eq_self fun c hc ↦ ?_
  rw [conditionFront, List.head?_append_of_ne_nil _ path.isTrimmed_text.1] at hc
  exact Text.isBlank_head?_of_trim_eq_self path.isTrimmed_text.2 c hc

theorem isFieldWord_text (hpath : ∀ segment ∈ path.segments, IsIdentifier segment) :
    ∀ w, w = path.text.toList → IsFieldWord w := by
  rintro w rfl
  exact (Path.isIdentifier_iff.mp hpath).1

theorem front_conditionFront (hpath : ∀ segment ∈ path.segments, IsIdentifier segment) :
    Front 2 (conditionFront path operator) := by
  have htext : Padded (· = path.text.toList) path.text.toList := Padded.bare rfl
  have hkeyword : Padded (IsCaseOf operator.keyword) operator.keyword.toList :=
    Padded.bare (isCaseOf_self _)
  have hword : ∀ w, IsCaseOf operator.keyword w → IsFieldWord w :=
    fun _ ↦ Descriptor.isFieldWord_operator
  refine .field (not_mem_colon_of_padded (isFieldWord_text hpath) htext) (fun h ↦ ?_)
    (.field (not_mem_colon_of_padded hword hkeyword) (fun h ↦ ?_) .nil)
  · exact (Split.isPlain_of_padded (isFieldWord_text hpath) htext _ h).2.2.2 rfl
  · exact (Split.isPlain_of_padded hword hkeyword _ h).2.2.2 rfl

/-- The splitter comes to the value of a condition with nothing open. -/
theorem passes_conditionFront (hpath : ∀ segment ∈ path.segments, IsIdentifier segment) :
    Split.Passes {} (conditionFront path operator) (.outside 0 (some ':')) := by
  have hplain : ∀ c ∈ path.text.toList ++ ':' :: operator.keyword.toList,
      Split.State.IsPlain c := by
    simp only [List.forall_mem_append, List.forall_mem_cons]
    refine ⟨Split.isPlain_of_padded (isFieldWord_text hpath) (Padded.bare rfl), by decide, ?_⟩
    exact Split.isPlain_of_padded (fun _ ↦ Descriptor.isFieldWord_operator)
      (Padded.bare (isCaseOf_self _))
  simpa [conditionFront] using Split.passes_concat_colon hplain

/-- Behind the fields of a condition exactly its value is read. -/
theorem read_condition_iff (hpath : ∀ segment ∈ path.segments, IsIdentifier segment)
    {u : List Char} :
    read (conditionFront path operator ++ u) = .ok ⟨none, operator, path, raw⟩ ↔
      IsUnconnected path u ∧ readValue u = .ok raw := by
  have hword := isFieldWord_text hpath
  obtain ⟨first, hfirst, hread₁⟩ := readField_of_padded hword (Padded.bare rfl) .missingPath
    (operator.keyword.toList ++ ':' :: u)
  obtain ⟨second, hsecond, hread₂⟩ := readField_of_padded
    (fun _ ↦ Descriptor.isFieldWord_operator) (Padded.bare (isCaseOf_self operator.keyword))
    .missingOperator u
  have htext : first.text = path.text := by rw [Field.text, hfirst, String.ofList_toList]
  have hunconnected : Connective.ofKeyword? first.text = none ∨ takeOperator? u = none ↔
      IsUnconnected path u := by
    rw [Field.text, hfirst]
    exact not_connected_iff
  have hfront : conditionFront path operator ++ u
      = path.text.toList ++ ':' :: (operator.keyword.toList ++ ':' :: u) := by
    simp [conditionFront]
  rw [hfront, read_eq_ok_iff]
  constructor
  · rintro ⟨first', s₁, second', s₂, hread₁', hread₂', hread⟩
    obtain ⟨rfl, rfl⟩ := Prod.mk.inj (Except.ok.inj (hread₁.symm.trans hread₁'))
    obtain ⟨rfl, rfl⟩ := Prod.mk.inj (Except.ok.inj (hread₂.symm.trans hread₂'))
    rcases hread with ⟨⟨c, -, hc⟩, -, -⟩ | ⟨hnot, -, -, -, hvalue⟩
    · cases hc
    · exact ⟨hunconnected.mp hnot, hvalue⟩
  · rintro ⟨hnot, hvalue⟩
    refine ⟨first, _, second, _, hread₁, hread₂, .inr ⟨hunconnected.mpr hnot, rfl, ?_, ?_, hvalue⟩⟩
    · exact Operator.ofKeyword?_eq_some_iff.mpr hsecond
    · exact (readPath_eq_ok_iff (hword _ hfirst)).mpr ⟨htext.symm, hpath⟩

/-- A query is read as one condition if the piece behind the fields is its value and nothing but
blanks is behind that. -/
theorem parseDescriptors_condition_iff
    (hpath : ∀ segment ∈ path.segments, IsIdentifier segment) {text : String} :
    parseDescriptors (path.text ++ ":" ++ operator.keyword ++ ":" ++ text)
        = .ok [⟨none, operator, path, raw⟩] ↔
      ∃ q qs, Split.cut (.outside 0 (some ':')) text.toList = q :: qs ∧
        (∀ p ∈ qs, Text.trim p = []) ∧ IsUnconnected path (trimRight q) ∧
          readValue (trimRight q) = .ok raw := by
  have htext : (path.text ++ ":" ++ operator.keyword ++ ":" ++ text).toList
      = conditionFront path operator ++ text.toList := by
    simp [conditionFront]
  obtain ⟨q, qs, hq⟩ := List.exists_cons_of_ne_nil
    (Split.cut_ne_nil (.outside 0 (some ':')) text.toList)
  rw [parseDescriptors_eq_ok_iff, htext,
    clauseTexts_front (front_conditionFront hpath) (passes_conditionFront hpath) hq,
    trimLeft_conditionFront, List.map_cons, List.map_singleton, List.cons.injEq,
    read_condition_iff hpath, List.map_eq_nil_iff]
  simp [hq, and_comm, and_assoc]

/-- A text that is not cut and is a value of the grammar is read as the value of a condition. -/
theorem parseDescriptors_of_value (hpath : ∀ segment ∈ path.segments, IsIdentifier segment)
    {text : String} (hcut : Split.cut (.outside 0 (some ':')) text.toList = [text.toList])
    (hlast : ∀ c ∈ text.toList.getLast?, isBlank c = false)
    (hnot : IsUnconnected path text.toList) (hvalue : Value raw text.toList)
    (operator : Operator) :
    parseDescriptors (path.text ++ ":" ++ operator.keyword ++ ":" ++ text)
      = .ok [⟨none, operator, path, raw⟩] := by
  refine (parseDescriptors_condition_iff hpath).mpr ⟨text.toList, [], hcut, by simp, ?_⟩
  rw [Text.trimRight_eq_self hlast]
  exact ⟨hnot, (readValue_iff_grammar hlast).mpr hvalue⟩

/-- A value that is written in one of its ways is read as the value of a condition. -/
theorem parseDescriptors_of_writes (hpath : ∀ segment ∈ path.segments, IsIdentifier segment)
    {text : String} (hraw : raw.Writes text.toList) (operator : Operator) :
    parseDescriptors (path.text ++ ":" ++ operator.keyword ++ ":" ++ text)
      = .ok [⟨none, operator, path, raw⟩] := by
  have htext : (path.text ++ ":" ++ operator.keyword ++ ":" ++ text).toList
      = path.text.toList ++ ':' :: (operator.keyword.toList ++ ':' :: text.toList) := by
    simp
  have hwrites : WritesQuery [⟨none, operator, path, raw⟩]
      (path.text ++ ":" ++ operator.keyword ++ ":" ++ text).toList := by
    rw [htext]
    exact .clause (.plain rfl (Padded.bare rfl) (Padded.bare (isCaseOf_self _)) (Padded.bare hraw))
  refine parseDescriptors_eq_ok_iff.mpr (hwrites.clauseTexts fun d hd ↦ ?_).1
  obtain rfl := List.mem_singleton.mp hd
  exact ⟨hpath, hraw.isSpelled⟩

/-! ## Names alone -/

/-- Whether a text without quotes is read as it stands behind the fields of a condition. -/
structure NamesAlone (path : Path) (w : List Char) : Prop extends Literal.IsUnquoted w where
  cut_eq : Split.cut (.outside 0 (some ':')) w = [w]
  isUnconnected : IsUnconnected path w

theorem NamesAlone.exists_parseDescriptors
    (hpath : ∀ segment ∈ path.segments, IsIdentifier segment) {name : String}
    (h : NamesAlone path name.toList) :
    ∃ raw : Raw, raw.IsLexeme name ∧ ∀ operator : Operator,
      parseDescriptors (path.text ++ ":" ++ operator.keyword ++ ":" ++ name)
        = .ok [⟨none, operator, path, raw⟩] := by
  obtain ⟨raw, hraw, hbare⟩ := Grammar.exists_bareLiteral h.ne_keyword
  have hlast := Text.isBlank_getLast?_of_trim_eq_self h.isTrimmed.2
  have hvalue : Value raw name.toList :=
    .bare Text.isLayoutRun_nil h.isTrimmed.1 h.startsBareToken hbare
  exact ⟨raw, hraw, parseDescriptors_of_value hpath h.cut_eq hlast h.isUnconnected hvalue⟩

/-- Behind the fields of a condition a text without blanks around it is read as it stands just if
it names itself alone. -/
theorem namesAlone_iff (hpath : ∀ segment ∈ path.segments, IsIdentifier segment) {name : String}
    (hname : Text.trim name.toList = name.toList) (operator : Operator) :
    NamesAlone path name.toList ↔
      ∃ raw : Raw, raw.IsLexeme name ∧
        parseDescriptors (path.text ++ ":" ++ operator.keyword ++ ":" ++ name)
          = .ok [⟨none, operator, path, raw⟩] := by
  constructor
  · intro h
    obtain ⟨raw, hraw, hparse⟩ := h.exists_parseDescriptors hpath
    exact ⟨raw, hraw, hparse operator⟩
  · rintro ⟨raw, hraw, hparse⟩
    obtain ⟨q, qs, hq, -, hnot, hvalue⟩ := (parseDescriptors_condition_iff hpath).mp hparse
    -- The value is read from a start of the name, and is as long as the name.
    have hprefix := Split.isPrefix_of_cut hq
    have hlength : (trimRight q).length ≤ name.toList.length :=
      (Text.length_trimRight_le q).trans hprefix.length_le
    have hgrammar := (readValue_iff_grammar (Text.isBlank_getLast?_trimRight q)).mp hvalue
    obtain ⟨hsame, hne, hstart, hkeyword⟩ := hgrammar.eq_of_isLexeme hraw hlength
    obtain rfl : q = name.toList := by
      refine hprefix.eq_of_length (Nat.le_antisymm hprefix.length_le ?_)
      rw [← hsame]
      exact Text.length_trimRight_le q
    obtain rfl : qs = [] := Split.tail_eq_nil_of_cut hq
    rw [hsame] at hne hstart hkeyword hnot
    exact ⟨⟨⟨hne, hname⟩, fun c hc ↦ (hstart c hc).2, hkeyword⟩, hq, hnot⟩

/-! ## Names in lists -/

/-- Whether a text without quotes is read as it stands among the items of a list. -/
structure NamesInList (w : List Char) : Prop extends Literal.IsUnquoted w where
  comma : ',' ∉ w
  bracket : ']' ∉ w

/-- An item in which no bracket is closed, so that the splitter does not leave the list. -/
def IsOpenItem (raw : Raw) (w : List Char) : Prop := Grammar.Item raw w ∧ ']' ∉ w

theorem isOpenItem_null : IsOpenItem .null "null".toList := by
  have hstart : ∀ c ∈ "null".toList.head?, Grammar.StartsBareToken c := by
    rintro c ⟨⟩
    exact ⟨rfl, rfl, by decide⟩
  exact ⟨.bare hstart (by decide) (by decide) (by decide) (.null (by decide)), by decide⟩

theorem NamesInList.exists_isOpenItem {name : String} (h : NamesInList name.toList) :
    ∃ raw : Raw, raw.IsLexeme name ∧ IsOpenItem raw name.toList := by
  obtain ⟨raw, hraw, hbare⟩ := Grammar.exists_bareLiteral h.ne_keyword
  refine ⟨raw, hraw, .bare h.startsBareToken h.comma h.bracket ?_ ?_, h.bracket⟩
  · rw [h.isTrimmed.2]
    exact h.isTrimmed.1
  · rwa [h.isTrimmed.2]

theorem not_mem_close_of_isOpenItem {raws : List Raw} {ws : List (List Char)}
    (h : List.Forall₂ IsOpenItem raws ws) : ']' ∉ [',', ' '].intercalate ws := by
  rw [Text.mem_intercalate_iff (by decide)]
  rintro ⟨w, hw, hmem⟩
  induction h with
  | nil => cases hw
  | cons hitem _ ih =>
    rcases List.mem_cons.mp hw with rfl | hw
    · exact hitem.2 hmem
    · exact ih hw

/-- Such items are read as a list, whatever the path. -/
theorem parseDescriptors_list (hpath : ∀ segment ∈ path.segments, IsIdentifier segment)
    {raws : List Raw} {ws : List (List Char)} (h : List.Forall₂ IsOpenItem raws ws)
    {text : String} (htext : text.toList = '[' :: ([',', ' '].intercalate ws ++ [']']))
    (operator : Operator) :
    parseDescriptors (path.text ++ ":" ++ operator.keyword ++ ":" ++ text)
      = .ok [⟨none, operator, path, .list raws⟩] := by
  have hitems : List.Forall₂ Grammar.Item raws ws := h.imp fun _ _ hitem ↦ hitem.1
  have hlast : ∀ c ∈ text.toList.getLast?, isBlank c = false := by
    rw [htext, ← List.cons_append, List.getLast?_concat]
    rintro c ⟨⟩
    rfl
  have hvalue : Value (.list raws) text.toList := by
    have hnone := Text.isLayoutRun_nil
    rw [htext]
    cases hitems with
    | nil => exact .empty hnone hnone hnone
    | cons hw hrest =>
      exact .list hnone hnone (Grammar.items_intercalate (.cons hw hrest) (List.cons_ne_nil _ _))
  refine parseDescriptors_of_value hpath ?_ hlast (fun c o v _ hoperates ↦ ?_) hvalue operator
  · rw [htext]
    exact Split.cut_brackets (not_mem_close_of_isOpenItem h) _
  · have htake := takeOperator?_eq_some_iff_operates.mpr hoperates
    rw [htext, takeOperator?_cons_of_not rfl rfl] at htake
    cases htake

/-- A text is read as the only item of a list just if it names itself there. -/
theorem namesInList_iff (hpath : ∀ segment ∈ path.segments, IsIdentifier segment) {name : String}
    (operator : Operator) :
    NamesInList name.toList ↔
      ∃ raw : Raw, raw.IsLexeme name ∧
        parseDescriptors (path.text ++ ":" ++ operator.keyword ++ ":" ++ ("[" ++ name ++ "]"))
          = .ok [⟨none, operator, path, .list [raw]⟩] := by
  have htext : ("[" ++ name ++ "]").toList = '[' :: (name.toList ++ [']']) := by simp
  constructor
  · intro h
    obtain ⟨raw, hraw, hitem⟩ := h.exists_isOpenItem
    refine ⟨raw, hraw, parseDescriptors_list hpath (.cons hitem .nil) ?_ operator⟩
    rw [htext, List.intercalate_singleton]
  · rintro ⟨raw, hraw, hparse⟩
    obtain ⟨q, qs, hq, -, -, hvalue⟩ := (parseDescriptors_condition_iff hpath).mp hparse
    have hlength : (trimRight q).length ≤ name.toList.length + 2 := by
      have hle := (Text.length_trimRight_le q).trans (Split.isPrefix_of_cut hq).length_le
      rw [htext] at hle
      simpa using hle
    have hgrammar := (readValue_iff_grammar (Text.isBlank_getLast?_trimRight q)).mp hvalue
    generalize trimRight q = u at hlength hgrammar
    -- Between the brackets there is room for the name and nothing else.
    cases hgrammar with
    | @list _ l s l' _ _ hitems =>
      cases hitems with
      | @last _ _ hitem =>
        obtain ⟨l₁, w, l₂, -, -, hitem, rfl⟩ := hitem
        simp only [List.length_append, List.length_cons] at hlength
        obtain ⟨rfl, hunquoted, hcomma, hbracket⟩ := hitem.eq_of_isLexeme hraw (by omega)
        exact ⟨hunquoted, hcomma, hbracket⟩
      | cons _ hrest => cases hrest
    | bare _ _ _ hbare => cases hbare

end Clause

end RecordFilter
