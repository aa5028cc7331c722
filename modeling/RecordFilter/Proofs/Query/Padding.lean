import RecordFilter.Proofs.Query.Joining
import RecordFilter.Proofs.Query.Layout
import RecordFilter.Proofs.Query.Spans

/-!
# Blanks around a value

The splitter trims blanks, the reader of a clause skips layout.  What stands in front
of the value of a clause is a number of fields, each with a colon behind it
(`Clause.Front`); it is passed over by the splitter and ends in a visible character, so
that blanks on either side of the value are left to the reader.

Behind a value they are gone with the clause that was trimmed.  In front of a value the
reader goes on to the first character that is no layout.  That is the value if all of
them are layout.  Else it is one of the blanks: a bare value then starts there, and since
neither a keyword nor a number has a blank in it, it is a text, with the blank as its
first character (`parseDescriptors_padded_iff`).
-/

namespace RecordFilter

open Text (IsLayoutRun isBlank isLayout skipLayout trimLeft trimRight)

/-! ## Pieces with blanks around them -/

namespace Split

/-- The first piece is the start of the text. -/
theorem isPrefix_of_cut {st : State} {s q : List Char} {qs : List (List Char)}
    (h : cut st s = q :: qs) : q <+: s := by
  have hjoin := intercalate_cut st s
  rw [h] at hjoin
  cases qs with
  | nil => exact ⟨[], by simpa using hjoin⟩
  | cons p ps =>
    rw [List.intercalate_cons_cons, List.append_assoc] at hjoin
    exact ⟨_, hjoin⟩

/-- Blanks in front of plain text are passed over with it. -/
theorem passes_of_isPlain_trimLeft {s : List Char} (h : ∀ c ∈ trimLeft s, State.IsPlain c) :
    ∃ p, Passes {} s (.outside 0 p) := by
  obtain ⟨b, hb, hs⟩ := Text.exists_eq_append_trimLeft s
  obtain ⟨p, htext⟩ := passes_plain h 0 none
  refine ⟨p, ?_⟩
  rw [hs]
  exact (passes_of_isBlank hb 0 none).append htext

end Split

/-- From a text that starts with a visible character, only the end is trimmed. -/
theorem Text.isTrimmed_cons_trimRight {c : Char} (hc : isBlank c = false) (s : List Char) :
    IsTrimmed (c :: trimRight s) := by
  have htrim : trim (c :: s) = c :: trimRight s := by
    rw [trim, trimLeft_eq_self (by rintro d ⟨⟩; exact hc)]
    exact trimRight_append_cons (s := []) hc
  refine ⟨List.cons_ne_nil _ _, ?_⟩
  rw [← htrim, trim_trim]

/-- Blanks at the end of a query belong to no clause. -/
theorem clauseTexts_append_of_isBlank (s : List Char) {w : List Char}
    (hw : ∀ c ∈ w, isBlank c = true) : clauseTexts (s ++ w) = clauseTexts s := by
  have hsemicolon : ';' ∉ w := fun hmem ↦ (Split.State.isPlain_of_isBlank (hw _ hmem)).2.2.2 rfl
  obtain ⟨ps, p, q, qs, hs, hq, hsw⟩ := Split.cut_append {} s w
  rw [Split.cut_of_not_mem hsemicolon, List.cons.injEq] at hq
  obtain ⟨rfl, rfl⟩ := hq
  rw [clauseTexts_eq, clauseTexts_eq, hs, hsw, List.map_append, List.map_append,
    List.map_singleton, List.map_singleton, Text.trim_append_of_isBlank p hw]

namespace Clause

/-! ## In front of the value -/

/-- So many fields, each with a colon behind it. -/
inductive Front : Nat → List Char → Prop
  | nil : Front 0 []
  | field {n : Nat} {f s : List Char} (hcolon : ':' ∉ f) (hsemicolon : ';' ∉ f)
      (hs : Front n s) : Front (n + 1) (f ++ ':' :: s)

namespace Front

variable {n : Nat} {s : List Char}

theorem not_mem_semicolon (h : Front n s) : ';' ∉ s := by
  induction h with
  | nil => simp
  | field _ hsemicolon _ ih => simp [hsemicolon, ih]

/-- The last character is a colon. -/
theorem exists_eq_concat (h : Front (n + 1) s) : ∃ t, s = t ++ [':'] := by
  induction n generalizing s with
  | zero =>
    obtain _ | ⟨-, -, ⟨⟩⟩ := h
    exact ⟨_, rfl⟩
  | succ n ih =>
    obtain _ | @⟨_, f, s, -, -, hs⟩ := h
    obtain ⟨t, rfl⟩ := ih hs
    exact ⟨f ++ ':' :: t, by simp⟩

theorem trimLeft (h : Front (n + 1) s) : Front (n + 1) (Text.trimLeft s) := by
  obtain _ | @⟨_, f, s, hcolon, hsemicolon, hs⟩ := h
  have hsuffix : ∀ {c : Char}, c ∉ f → c ∉ Text.trimLeft f :=
    fun hc hmem ↦ hc ((List.dropWhile_suffix isBlank).subset hmem)
  rw [Text.trimLeft_append_cons rfl]
  exact .field (hsuffix hcolon) (hsuffix hsemicolon) hs

end Front

/-- There is no colon in a field, nor in the layout around it. -/
theorem not_mem_colon_of_padded {W : List Char → Prop} (hW : ∀ w, W w → IsFieldWord w)
    {f : List Char} (h : Padded W f) : ':' ∉ f := by
  obtain ⟨l, w, l', hl, hl', hw, rfl⟩ := h
  have hlayout : ∀ {l : List Char}, IsLayoutRun l → ':' ∉ l := by
    intro l hl hmem
    cases hl _ hmem
  have hword : ':' ∉ w := by
    intro hmem
    cases (hW w hw).2 _ hmem
  simp [hlayout hl, hword, hlayout hl']

/-- Only one colon is the first. -/
theorem append_colon_inj {f g s t : List Char} (hf : ':' ∉ f) (hg : ':' ∉ g)
    (h : f ++ ':' :: s = g ++ ':' :: t) : f = g ∧ s = t := by
  have hfirst : ∀ {f : List Char} (s : List Char), ':' ∉ f →
      (f ++ ':' :: s).takeWhile (· != ':') = f := by
    intro f s hf
    have hvisible : ∀ c ∈ f, (c != ':') = true := by
      intro c hc
      rw [bne_iff_ne]
      rintro rfl
      exact hf hc
    exact (Text.takeWhile_dropWhile_append hvisible (by simp)).1
  obtain rfl : f = g := by rw [← hfirst s hf, h, hfirst t hg]
  exact ⟨rfl, (List.cons.inj (List.append_cancel_left h)).2⟩

/-- A field that is read is padded by layout up to the colon. -/
theorem padded_of_readField {missing : Cause} {f s rest : List Char} {g : Field} (hf : ':' ∉ f)
    (h : readField missing (f ++ ':' :: s) = .ok (g, rest)) :
    Padded (fun w ↦ w = g.word ∧ IsFieldWord w) f ∧ rest = s := by
  obtain ⟨l, l', hl, hl', hword, hs, hstart, hrest⟩ := readField_eq_ok_iff.mp h
  have hpadded : Padded (fun w ↦ w = g.word ∧ IsFieldWord w) (l ++ (g.word ++ l')) :=
    ⟨l, _, l', hl, hl', ⟨rfl, hword⟩, rfl⟩
  have hcolon := not_mem_colon_of_padded (fun _ hw ↦ hw.2) hpadded
  obtain ⟨rfl, rfl⟩ := append_colon_inj (s := s) (t := rest) hf hcolon (by
    rw [hs, hstart, hrest]
    simp)
  exact ⟨hpadded, rfl⟩

/-- An operator that is taken is padded by layout up to the colon. -/
theorem padded_of_takeOperator? {f s rest : List Char} {o : Operator} (hf : ':' ∉ f)
    (h : takeOperator? (f ++ ':' :: s) = some (o, rest)) :
    Padded (IsCaseOf o.keyword) f ∧ rest = s := by
  obtain ⟨l, w, l', hl, hl', hs, hw⟩ := takeOperator?_eq_some_iff.mp h
  have hpadded : Padded (IsCaseOf o.keyword) (l ++ (w ++ l')) :=
    ⟨l, w, l', hl, hl', Operator.ofKeyword?_eq_some_iff.mp hw, rfl⟩
  have hcolon := not_mem_colon_of_padded (fun _ ↦ Descriptor.isFieldWord_operator) hpadded
  obtain ⟨rfl, rfl⟩ := append_colon_inj (s := s) (t := rest) hf hcolon (by
    rw [hs]
    simp)
  exact ⟨hpadded, rfl⟩

/-- Which path a field spells depends on its word alone. -/
theorem readPath_of_word_eq {f g : Field} (hg : g.word = f.word ∧ IsFieldWord g.word) {p : Path}
    (h : readPath f = .ok p) : readPath g = .ok p := by
  obtain ⟨hword, hfield⟩ := hg
  have htext : g.text = f.text := congrArg String.ofList hword
  rw [readPath_eq_ok_iff hfield, htext]
  rw [hword] at hfield
  exact (readPath_eq_ok_iff hfield).mp h

/-- Blanks in front of a text do not make it start with an operator. -/
theorem takeOperator?_of_isBlank_append {w s : List Char} (hw : ∀ c ∈ w, isBlank c = true)
    (h : takeOperator? s = none) : takeOperator? (w ++ s) = none := by
  induction w with
  | nil => exact h
  | cons c w ih =>
    have hrest := ih fun d hd ↦ hw d (List.mem_cons_of_mem c hd)
    have hblank : isBlank c = true := hw c List.mem_cons_self
    cases hlayout : isLayout c with
    | true =>
      have hskip : skipLayout (c :: (w ++ s)) = skipLayout (w ++ s) :=
        List.dropWhile_cons_of_pos hlayout
      rw [← hrest, List.cons_append]
      simp only [takeOperator?, takeField?, hskip]
    | false =>
      refine takeOperator?_cons_of_not hlayout ?_
      rw [Bool.eq_false_iff]
      intro hfield
      rw [isBlank_of_isFieldChar hfield] at hblank
      cases hblank

/-! ## The value -/

/-- Number of fields in front of the value. -/
def fieldCount (d : Descriptor) : Nat := if d.connective.isSome then 3 else 2

/-- A clause that is read consists of the fields in front of the value, which are plain, and the
value.  Another value can be put there, as long as it does not start with an operator where the
first one does not. -/
theorem read_front {d : Descriptor} {s u : List Char} (hs : Front (fieldCount d) s)
    (h : read (s ++ u) = .ok d) :
    (∀ c ∈ s, Split.State.IsPlain c) ∧ readValue u = .ok d.value ∧
      ∀ {u' : List Char} {v : Raw}, (takeOperator? u = none → takeOperator? u' = none) →
        readValue u' = .ok v → read (s ++ u') = .ok { d with value := v } := by
  have hcolon : Split.State.IsPlain ':' := by decide
  obtain ⟨first, s₁, second, s₂, hfirst, hsecond, hread⟩ := read_eq_ok_iff.mp h
  rcases hread with ⟨⟨c, hc, hd⟩, ⟨r, ho, hv⟩, hp⟩ | ⟨hnot, hd, ho, hp, hv⟩
  · rw [fieldCount, hd] at hs
    obtain _ | @⟨_, f₁, _, h₁, -, hs⟩ := hs
    obtain _ | @⟨_, f₂, _, h₂, -, hs⟩ := hs
    obtain _ | @⟨_, f₃, _, h₃, -, ⟨⟩⟩ := hs
    simp only [List.append_assoc, List.cons_append, List.nil_append] at hfirst ⊢
    obtain ⟨hpadded₁, rfl⟩ := padded_of_readField h₁ hfirst
    obtain ⟨hpadded₂, rfl⟩ := padded_of_readField h₂ hsecond
    obtain ⟨hpadded₃, rfl⟩ := padded_of_takeOperator? h₃ ho
    refine ⟨?_, hv, fun {u' v} _ hv' ↦ ?_⟩
    · simp only [List.forall_mem_append, List.forall_mem_cons]
      exact ⟨Split.isPlain_of_padded (fun _ hw ↦ hw.2) hpadded₁, hcolon,
        Split.isPlain_of_padded (fun _ hw ↦ hw.2) hpadded₂, hcolon,
        Split.isPlain_of_padded (fun _ ↦ Descriptor.isFieldWord_operator) hpadded₃, hcolon,
        List.forall_mem_nil _⟩
    · obtain ⟨first', hfirst', hread₁⟩ := readField_of_padded (fun _ hw ↦ hw.2) hpadded₁
        .missingPath (f₂ ++ ':' :: (f₃ ++ ':' :: u'))
      obtain ⟨second', hsecond', hread₂⟩ := readField_of_padded (fun _ hw ↦ hw.2) hpadded₂
        .missingOperator (f₃ ++ ':' :: u')
      obtain ⟨l, w, l', hl, hl', hw, rfl⟩ := hpadded₃
      have htake : takeOperator? ((l ++ (w ++ l')) ++ ':' :: u') = some (d.operator, u') :=
        takeOperator?_eq_some_iff.mpr
          ⟨l, w, l', hl, hl', by simp, Operator.ofKeyword?_eq_some_iff.mpr hw⟩
      have hc' : Connective.ofKeyword? first'.text = some c := by
        rw [Field.text, hfirst'.1]
        exact hc
      exact read_eq_ok_iff.mpr ⟨first', _, second', _, hread₁, hread₂,
        .inl ⟨⟨c, hc', hd⟩, ⟨u', htake, hv'⟩, readPath_of_word_eq hsecond' hp⟩⟩
  · rw [fieldCount, hd] at hs
    obtain _ | @⟨_, f₁, _, h₁, -, hs⟩ := hs
    obtain _ | @⟨_, f₂, _, h₂, -, ⟨⟩⟩ := hs
    simp only [List.append_assoc, List.cons_append, List.nil_append] at hfirst ⊢
    obtain ⟨hpadded₁, rfl⟩ := padded_of_readField h₁ hfirst
    obtain ⟨hpadded₂, rfl⟩ := padded_of_readField h₂ hsecond
    refine ⟨?_, hv, fun {u' v} htake hv' ↦ ?_⟩
    · simp only [List.forall_mem_append, List.forall_mem_cons]
      exact ⟨Split.isPlain_of_padded (fun _ hw ↦ hw.2) hpadded₁, hcolon,
        Split.isPlain_of_padded (fun _ hw ↦ hw.2) hpadded₂, hcolon, List.forall_mem_nil _⟩
    · obtain ⟨first', hfirst', hread₁⟩ := readField_of_padded (fun _ hw ↦ hw.2) hpadded₁
        .missingPath (f₂ ++ ':' :: u')
      obtain ⟨second', hsecond', hread₂⟩ := readField_of_padded (fun _ hw ↦ hw.2) hpadded₂
        .missingOperator u'
      have hnot' : Connective.ofKeyword? first'.text = none ∨ takeOperator? u' = none := by
        rw [Field.text, hfirst'.1]
        exact hnot.imp_right htake
      have ho' : Operator.ofKeyword? second'.text = some d.operator := by
        rw [Field.text, hsecond'.1]
        exact ho
      exact read_eq_ok_iff.mpr ⟨first', _, second', _, hread₁, hread₂,
        .inr ⟨hnot', hd, ho', readPath_of_word_eq hfirst' hp, hv'⟩⟩

/-- In front of a trimmed text only the layout that blanks start with is skipped. -/
theorem skipLayout_append_isTrimmed {u : List Char} (hu : Text.IsTrimmed u) (w : List Char) :
    skipLayout (w ++ u) = skipLayout w ++ u := by
  cases hskip : skipLayout w with
  | nil =>
    rw [Text.skipLayout_append (Text.skipLayout_eq_nil_iff.mp hskip)]
    simpa using skipLayout_append_of_isTrimmed hu []
  | cons c t =>
    rw [← hskip]
    exact Text.skipLayout_append_of_ne_nil (by simp [hskip]) u

theorem isBlank_of_skipLayout_eq_cons {w t : List Char} {c : Char}
    (hw : ∀ c ∈ w, isBlank c = true) (h : skipLayout w = c :: t) : isBlank c = true := by
  have hmem : c ∈ skipLayout w := by
    rw [h]
    exact List.mem_cons_self
  exact hw c ((List.dropWhile_suffix isLayout).subset hmem)

/-- A bare value with blanks in front of it starts at the first of them that is no layout. -/
theorem readValue_of_isBlank_append {w u : List Char} (hw : ∀ c ∈ w, isBlank c = true)
    (hu : Text.IsTrimmed u) (hbare : ∀ c ∈ u.head?, StartsBare c) :
    readValue (w ++ u) = .ok (Literal.classify (skipLayout w ++ u)) := by
  have hstart : ∀ c ∈ (skipLayout w ++ u).head?, StartsBare c := by
    intro c hc
    cases hskip : skipLayout w with
    | nil =>
      rw [hskip] at hc
      exact hbare c hc
    | cons b t =>
      rw [hskip] at hc
      obtain rfl : b = c := by simpa using hc
      obtain ⟨hquote, hopen, -⟩ :=
        Split.State.isPlain_of_isBlank (isBlank_of_skipLayout_eq_cons hw hskip)
      exact ⟨hquote, hopen⟩
  have hend : trimRight (skipLayout w ++ u) = skipLayout w ++ u := by
    apply Text.trimRight_eq_self
    intro c hc
    rw [List.getLast?_append_of_ne_nil _ hu.1] at hc
    exact Text.isBlank_getLast?_of_trim_eq_self hu.2 c hc
  obtain ⟨c, body, hbody⟩ := List.exists_cons_of_ne_nil
    (List.append_ne_nil_of_right_ne_nil (skipLayout w) hu.1)
  refine readValue_eq_ok_iff.mpr (.inr (.inr ⟨c, body, ?_, ?_, ?_⟩))
  · rw [skipLayout_append_isTrimmed hu, hbody]
  · exact hstart c (by simp [hbody])
  · rw [← hbody, hend]

/-- A bare literal with a blank in front of it is a text. -/
theorem classify_of_not_isLayoutRun {w : List Char} (hw : ∀ c ∈ w, isBlank c = true)
    (h : ¬IsLayoutRun w) (u : List Char) :
    Literal.classify (skipLayout w ++ u) = .text (String.ofList (skipLayout w ++ u)) := by
  obtain ⟨b, t, hskip⟩ := List.exists_cons_of_ne_nil (mt Text.skipLayout_eq_nil_iff.mp h)
  have hblank := isBlank_of_skipLayout_eq_cons hw hskip
  refine Literal.classify_of_not_isLexemeChar (c := b) (by simp [hskip]) ?_
  intro hlexeme
  rw [hlexeme.isBlank] at hblank
  cases hblank

end Clause

/-! ## Queries -/

open Clause (Front fieldCount StartsBare)

/-- The text of the first clause, where it has been passed over up to the value. -/
theorem clauseTexts_front {n : Nat} {s t q : List Char} {qs : List (List Char)} {st : Split.State}
    (hs : Front (n + 1) s) (hpass : Split.Passes {} s st) (hq : Split.cut st t = q :: qs) :
    clauseTexts (s ++ t)
      = (trimLeft s ++ trimRight q) :: (qs.map Text.trim).filter (· ≠ []) := by
  obtain ⟨s, rfl⟩ := hs.exists_eq_concat
  have hcolon : isBlank ':' = false := rfl
  have htrim : Text.trim ((s ++ [':']) ++ q) = trimLeft (s ++ [':']) ++ trimRight q := by
    rw [Text.trim, List.append_assoc, List.singleton_append, Text.trimLeft_append_cons hcolon,
      Text.trimRight_append_cons hcolon, Text.trimLeft_append_cons hcolon, List.append_assoc,
      List.singleton_append]
  have hne : Text.trim ((s ++ [':']) ++ q) ≠ [] := by
    rw [htrim, Text.trimLeft_append_cons hcolon]
    simp
  rw [clauseTexts_eq, hpass.cut_append hq, List.map_cons,
    List.filter_cons_of_pos (by simpa using hne), htrim]

theorem exists_fieldCount_eq_succ (d : Descriptor) : ∃ n, fieldCount d = n + 1 := by
  unfold fieldCount
  split
  · exact ⟨2, rfl⟩
  · exact ⟨1, rfl⟩

variable {d : Descriptor} {head v w w' : String}

/-- A query that is a single clause with a bare value stays one with blanks around the value, and
only those in front of it are left in its text. -/
theorem exists_clauseTexts_padded (hhead : Front (fieldCount d) head.toList)
    (hv : Text.IsTrimmed v.toList) (hbare : ∀ c ∈ v.toList.head?, StartsBare c)
    (h : parseDescriptors (head ++ v) = .ok [d]) (hw : ∀ c ∈ w.toList, isBlank c = true)
    (hw' : ∀ c ∈ w'.toList, isBlank c = true) :
    ∃ u, Text.IsTrimmed u ∧ (∀ c ∈ u.head?, StartsBare c) ∧
      Clause.read (trimLeft head.toList ++ u) = .ok d ∧
      clauseTexts (head ++ w ++ v ++ w').toList = [trimLeft head.toList ++ (w.toList ++ u)] := by
  obtain ⟨n, hn⟩ := exists_fieldCount_eq_succ d
  rw [hn] at hhead
  have hpass : Split.Passes {} head.toList (({} : Split.State).run head.toList) :=
    ⟨Split.cut_of_not_mem hhead.not_mem_semicolon _, rfl⟩
  obtain ⟨q, qs, hq⟩ := List.exists_cons_of_ne_nil
    (Split.cut_ne_nil (({} : Split.State).run head.toList) v.toList)
  -- There is no other clause, and this one ends with the first piece behind the fields.
  obtain ⟨hread, hlater⟩ : Clause.read (trimLeft head.toList ++ trimRight q) = .ok d ∧
      (qs.map Text.trim).filter (· ≠ []) = [] := by
    rw [parseDescriptors_eq_ok_iff, String.toList_append, clauseTexts_front hhead hpass hq] at h
    simpa using h
  obtain ⟨hplain, hvalue, -⟩ := Clause.read_front (hn ▸ hhead.trimLeft) hread
  -- The piece starts with the value that is given.
  obtain ⟨c, r, rfl, hc, hblank⟩ : ∃ c r, q = c :: r ∧ StartsBare c ∧ isBlank c = false := by
    obtain ⟨e, he⟩ := Split.isPrefix_of_cut hq
    cases q with
    | nil => cases hvalue
    | cons c r =>
      have hfirst : c ∈ v.toList.head? := by
        rw [← he]
        exact rfl
      exact ⟨c, r, rfl, hbare c hfirst, Text.isBlank_head?_of_trim_eq_self hv.2 c hfirst⟩
  have hright : ∀ s, trimRight (s ++ c :: r) = s ++ c :: trimRight r :=
    fun s ↦ Text.trimRight_append_cons hblank
  -- The splitter goes through the blanks in front of it without a trace.
  obtain ⟨p, hpasses⟩ := Split.passes_of_isPlain_trimLeft hplain
  have hwq : Split.cut (.outside 0 p) (w.toList ++ v.toList) = (w.toList ++ c :: r) :: qs := by
    rw [hpass.run_eq.symm.trans hpasses.run_eq] at hq
    exact (Split.passes_of_isBlank hw 0 p).cut_append hq
  refine ⟨c :: trimRight r, Text.isTrimmed_cons_trimRight hblank r, ?_, ?_, ?_⟩
  · rintro d ⟨⟩
    exact hc
  · rw [← hread]
    exact congrArg (fun u ↦ Clause.read (trimLeft head.toList ++ u)) (hright []).symm
  · rw [String.toList_append, clauseTexts_append_of_isBlank _ hw', String.toList_append,
      String.toList_append, List.append_assoc, clauseTexts_front hhead hpasses hwq, hlater, hright]

/-- Such a value is read without the blanks behind it and without the layout in front of it. -/
theorem exists_parseDescriptors_padded (hhead : Front (fieldCount d) head.toList)
    (hv : Text.IsTrimmed v.toList) (hbare : ∀ c ∈ v.toList.head?, StartsBare c)
    (h : parseDescriptors (head ++ v) = .ok [d]) (hw : ∀ c ∈ w.toList, isBlank c = true)
    (hw' : ∀ c ∈ w'.toList, isBlank c = true) :
    ∃ u, Text.IsTrimmed u ∧ Literal.classify u = d.value ∧
      parseDescriptors (head ++ w ++ v ++ w')
        = .ok [{ d with value := Literal.classify (skipLayout w.toList ++ u) }] := by
  obtain ⟨u, hu, hubare, hread, htexts⟩ := exists_clauseTexts_padded hhead hv hbare h hw hw'
  have hfront : Front (fieldCount d) (trimLeft head.toList) := by
    obtain ⟨n, hn⟩ := exists_fieldCount_eq_succ d
    rw [hn] at hhead ⊢
    exact hhead.trimLeft
  obtain ⟨-, hvalue, hreplace⟩ := Clause.read_front hfront hread
  have hclassify : Literal.classify u = d.value := by
    have hself := Clause.readValue_of_isBlank_append (List.forall_mem_nil _) hu hubare
    exact Except.ok.inj (hself.symm.trans hvalue)
  have hpadded := hreplace (Clause.takeOperator?_of_isBlank_append hw)
    (Clause.readValue_of_isBlank_append hw hu hubare)
  refine ⟨u, hu, hclassify, ?_⟩
  rw [parseDescriptors_eq_ok_iff, htexts, List.map_singleton, hpadded]
  rfl

/-- Any blanks behind a bare value are ignored, while in front of it only layout is.  With another
blank in front of it, the value becomes a text that starts with a blank. -/
theorem parseDescriptors_padded_iff (hhead : Front (fieldCount d) head.toList)
    (hv : Text.IsTrimmed v.toList) (hbare : ∀ c ∈ v.toList.head?, StartsBare c)
    (h : parseDescriptors (head ++ v) = .ok [d]) (hw : ∀ c ∈ w.toList, isBlank c = true)
    (hw' : ∀ c ∈ w'.toList, isBlank c = true) :
    (parseDescriptors (head ++ w ++ v ++ w') = .ok [d] ↔ IsLayoutRun w.toList) ∧
      (¬IsLayoutRun w.toList → ∃ u, Text.IsTrimmed u ∧ Literal.classify u = d.value ∧
        parseDescriptors (head ++ w ++ v ++ w')
          = .ok [{ d with value := .text (String.ofList (skipLayout w.toList ++ u)) }]) := by
  obtain ⟨u, hu, hvalue, hparse⟩ := exists_parseDescriptors_padded hhead hv hbare h hw hw'
  rw [hparse]
  by_cases hlayout : IsLayoutRun w.toList
  · rw [Text.skipLayout_eq_nil_iff.mpr hlayout, List.nil_append, hvalue]
    exact ⟨⟨fun _ ↦ hlayout, fun _ ↦ rfl⟩, fun hnot ↦ absurd hlayout hnot⟩
  · rw [Clause.classify_of_not_isLayoutRun hw hlayout]
    refine ⟨⟨fun heq ↦ ?_, fun hl ↦ absurd hl hlayout⟩, fun _ ↦ ⟨u, hu, hvalue, rfl⟩⟩
    have hd := (List.cons.inj (Except.ok.inj heq)).1
    have htext : Raw.text (String.ofList (skipLayout w.toList ++ u)) = d.value :=
      congrArg Descriptor.value hd
    have hsame := Literal.eq_of_classify_eq_text (hvalue.trans htext.symm)
    have hskip : skipLayout w.toList = [] := by
      simpa using String.ofList_injective hsame
    exact absurd (Text.skipLayout_eq_nil_iff.mp hskip) hlayout

section Examples

/-- Blanks of all kinds behind a number, and layout in front of it, do not matter; behind a line
tabulation it is a text. -/
theorem parseDescriptors_padded_number :
    parseDescriptors "id:Equal:5" = .ok [isEqual "id" (by decide) (.number "5")] ∧
      parseDescriptors ("id:Equal:" ++ " \t" ++ "5" ++ "\u00a0\n")
        = .ok [isEqual "id" (by decide) (.number "5")] ∧
      ∃ u, parseDescriptors ("id:Equal:" ++ "\x0b" ++ "5" ++ " ")
        = .ok [isEqual "id" (by decide) (.text (String.ofList (Char.ofNat 11 :: u)))] := by
  have hhead : Front (fieldCount (isEqual "id" (by decide) (.number "5"))) "id:Equal:".toList :=
    .field (f := "id".toList) (by decide) (by decide)
      (.field (f := "Equal".toList) (by decide) (by decide) .nil)
  have hv : Text.IsTrimmed "5".toList := ⟨by decide, rfl⟩
  have hbare : ∀ c ∈ "5".toList.head?, StartsBare c := by
    rintro c ⟨⟩
    exact ⟨rfl, by decide⟩
  have h : parseDescriptors ("id:Equal:" ++ "5") = .ok [isEqual "id" (by decide) (.number "5")] :=
    rfl
  have hlayout : ∀ c ∈ " \t".toList, isBlank c = true := List.all_eq_true.mp rfl
  have hbreak : ∀ c ∈ "\u00a0\n".toList, isBlank c = true := List.all_eq_true.mp rfl
  have htabulation : ∀ c ∈ "\x0b".toList, isBlank c = true := List.all_eq_true.mp rfl
  have hspace : ∀ c ∈ " ".toList, isBlank c = true := List.all_eq_true.mp rfl
  refine ⟨rfl, ?_, ?_⟩
  · obtain ⟨hsame, -⟩ := parseDescriptors_padded_iff hhead hv hbare h hlayout hbreak
    exact hsame.mpr (by decide)
  · obtain ⟨-, hother⟩ := parseDescriptors_padded_iff hhead hv hbare h htabulation hspace
    obtain ⟨u, -, -, hparse⟩ := hother (by decide)
    exact ⟨u, hparse⟩

/-- A no-break space in front of the number makes it a text. -/
theorem parseDescriptors_noBreakSpace :
    Text.isBlank '\u00a0' = true ∧
      parseDescriptors "id:Equal:5" = .ok [isEqual "id" (by decide) (.number "5")] ∧
      parseDescriptors "id:Equal:\u00a05"
        = .ok [isEqual "id" (by decide) (.text "\u00a05")] :=
  ⟨rfl, rfl, rfl⟩

end Examples

end RecordFilter
