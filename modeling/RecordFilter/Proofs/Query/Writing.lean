import RecordFilter.Proofs.Query.Clauses

/-!
# Ways of writing a clause

A descriptor can be written in many ways: keywords in any case, texts quoted or
bare, characters in quotes raw or escaped, and layout around every token.
`Writes` says which they are, from scalars up to clauses.  Whichever is chosen,
the clause is read as the descriptor (`Descriptor.Writes.read_eq`).

All that the readers need of a scalar is in `Raw.WritesScalar.cases`: it is
quoted, or it is a bare word, which has no separator in it and is classified as
that scalar.
-/

namespace RecordFilter

open Text (IsLayoutRun skipLayout)
open Text.Quoted (isQuote Spells)

/-! ## Tokens -/

/-- A text that is written in some way, with layout around it. -/
def Padded (W : List Char → Prop) (s : List Char) : Prop :=
  ∃ l w l', IsLayoutRun l ∧ IsLayoutRun l' ∧ W w ∧ s = l ++ (w ++ l')

/-- There need not be any layout. -/
theorem Padded.bare {W : List Char → Prop} {w : List Char} (h : W w) : Padded W w :=
  ⟨[], w, [], Text.isLayoutRun_nil, Text.isLayoutRun_nil, h, by simp⟩

/-- A keyword in any case. -/
def IsCaseOf (keyword : String) (w : List Char) : Prop :=
  Text.sameFolded keyword (String.ofList w) = true

instance (keyword : String) (w : List Char) : Decidable (IsCaseOf keyword w) :=
  inferInstanceAs (Decidable (_ = _))

theorem isCaseOf_self (keyword : String) : IsCaseOf keyword keyword.toList := by
  rw [IsCaseOf, String.ofList_toList]
  exact Text.sameFolded_refl keyword

namespace Literal

/-- The words that do not have to be quoted, as far as their characters go: they have no blanks at
their ends, do not start with a quote, and no separator occurs in them. -/
structure IsBareWord (w : List Char) : Prop where
  isTrimmed : Text.IsTrimmed w
  head : ∀ c ∈ w.head?, isQuote c = false
  mem : ∀ c ∈ w, c ∉ [';', ':', ',', '[', ']']

/-- The texts that do not have to be quoted: words that mean nothing else. -/
structure IsBareText (w : List Char) : Prop where
  isBareWord : IsBareWord w
  ne_keyword : ∀ keyword ∈ ["null", "true", "false"], ¬ IsCaseOf keyword w
  not_isNumeral : ¬ IsNumeral w

theorem IsBareWord.startsBare {w : List Char} (h : IsBareWord w) :
    ∀ c ∈ w.head?, Clause.StartsBare c := by
  intro c hc
  refine ⟨h.head c hc, ?_⟩
  rintro rfl
  exact h.mem '[' (List.mem_of_mem_head? hc) (by decide)

theorem IsBareWord.endsItem {w : List Char} (h : IsBareWord w) :
    ∀ c ∈ w, Clause.endsItem c = false := by
  intro c hc
  have hmem := h.mem c hc
  simp only [List.mem_cons, List.not_mem_nil, or_false, not_or] at hmem
  simp [Clause.endsItem, hmem]

/-- A literal that is no keyword and no numeral is a text. -/
theorem classify_of_not_keyword {w : List Char}
    (hkeyword : ∀ keyword ∈ ["null", "true", "false"], ¬IsCaseOf keyword w)
    (hnumeral : ¬IsNumeral w) : classify w = .text (String.ofList w) := by
  have hsame : ∀ keyword ∈ ["null", "true", "false"],
      Text.sameFolded (String.ofList w) keyword = false := by
    intro keyword hmem
    rw [Text.sameFolded_comm, Bool.eq_false_iff]
    exact hkeyword keyword hmem
  have hnumber : isNumber w = false := by
    rw [Bool.eq_false_iff, ne_eq, isNumber_iff]
    exact hnumeral
  simp [classify, hsame, hnumber]

theorem IsBareText.classify_eq {w : List Char} (h : IsBareText w) :
    classify w = .text (String.ofList w) :=
  classify_of_not_keyword h.ne_keyword h.not_isNumeral

theorem sameFolded_of_isCaseOf {keyword : String} {w : List Char} (h : IsCaseOf keyword w)
    (t : String) : Text.sameFolded (String.ofList w) t = Text.sameFolded keyword t := by
  rw [Bool.eq_iff_iff, Text.sameFolded_iff, Text.sameFolded_iff, Text.sameFolded_iff.mp h]

theorem classify_null {w : List Char} (h : IsCaseOf "null" w) : classify w = .null := by
  rw [classify, sameFolded_of_isCaseOf h]
  exact if_pos (Text.sameFolded_refl "null")

theorem classify_boolean {b : Bool} {w : List Char}
    (h : IsCaseOf (if b then "true" else "false") w) : classify w = .boolean b := by
  simp only [classify, sameFolded_of_isCaseOf h]
  cases b <;> rfl

/-- A word of the characters of keywords and numbers is bare. -/
theorem isBareWord_of_isLexemeChar {w : List Char} (hne : w ≠ [])
    (h : ∀ c ∈ w, IsLexemeChar c) : IsBareWord w := by
  refine ⟨Text.IsTrimmed.of_forall hne fun c hc ↦ (h c hc).isBlank,
    fun c hc ↦ (h c (List.mem_of_mem_head? hc)).isQuote, fun c hc hmem ↦ ?_⟩
  have hlexeme := h c hc
  revert hlexeme
  simp only [List.mem_cons, List.not_mem_nil, or_false] at hmem
  rcases hmem with rfl | rfl | rfl | rfl | rfl <;> decide

theorem isBareWord_of_isCaseOf {keyword : String} {w : List Char}
    (hletters : keyword.toList.all Char.isAlpha = true) (hne : keyword ≠ "")
    (h : IsCaseOf keyword w) : IsBareWord w := by
  have hw : w.all Char.isAlpha = true := by simpa using Text.all_isAlpha_of_sameFolded hletters h
  refine isBareWord_of_isLexemeChar ?_ fun c hc ↦
    isLexemeChar_of_isAlpha (List.all_eq_true.mp hw c hc)
  rintro rfl
  refine hne (String.toList_eq_nil_iff.mp ?_)
  simpa [IsCaseOf, Text.sameFolded] using h

end Literal

/-! ## Values -/

namespace Raw

/-- The ways of writing a scalar. -/
inductive WritesScalar : Raw → List Char → Prop
  | null {w : List Char} (h : IsCaseOf "null" w) : WritesScalar null w
  | boolean (b : Bool) {w : List Char} (h : IsCaseOf (if b then "true" else "false") w) :
      WritesScalar (boolean b) w
  | number {lexeme : String} (h : Literal.IsNumeral lexeme.toList) :
      WritesScalar (number lexeme) lexeme.toList
  | quoted {q : Char} {w : List Char} {t : String} (hq : isQuote q = true)
      (h : Spells q w t.toList) : WritesScalar (text t) (q :: (w ++ [q]))
  | bare {t : String} (h : Literal.IsBareText t.toList) : WritesScalar (text t) t.toList

/-- The ways of writing the items of a list, one or more, with commas between them. -/
inductive WritesItems : List Raw → List Char → Prop
  | last {v : Raw} {s : List Char} (h : Padded v.WritesScalar s) : WritesItems [v] s
  | cons {v : Raw} {vs : List Raw} {s t : List Char} (h : Padded v.WritesScalar s)
      (hrest : WritesItems vs t) : WritesItems (v :: vs) (s ++ ',' :: t)

/-- The ways of writing a value. -/
inductive Writes : Raw → List Char → Prop
  | scalar {v : Raw} {w : List Char} (h : WritesScalar v w) : Writes v w
  | empty {l : List Char} (h : IsLayoutRun l) : Writes (list []) ('[' :: (l ++ [']']))
  | list {vs : List Raw} {s : List Char} (h : WritesItems vs s) :
      Writes (list vs) ('[' :: (s ++ [']']))

/-- A scalar is written between quotes, or as a bare word that is classified as the scalar. -/
theorem WritesScalar.cases {v : Raw} {w : List Char} (h : v.WritesScalar w) :
    (∃ q u t, isQuote q = true ∧ Spells q u t ∧ v = .text (String.ofList t) ∧
      w = q :: (u ++ [q])) ∨
    (Literal.IsBareWord w ∧ Literal.classify w = v) := by
  cases h with
  | null h =>
    exact .inr ⟨Literal.isBareWord_of_isCaseOf rfl (by decide) h, Literal.classify_null h⟩
  | boolean b h =>
    refine .inr ⟨Literal.isBareWord_of_isCaseOf ?_ ?_ h, Literal.classify_boolean h⟩
    · cases b <;> rfl
    · cases b <;> decide
  | number h =>
    refine .inr ⟨Literal.isBareWord_of_isLexemeChar h.ne_nil h.isLexemeChar, ?_⟩
    rw [Literal.classify_of_isNumeral h, String.ofList_toList]
  | @quoted q w t hq h =>
    exact .inl ⟨q, w, t.toList, hq, h, by rw [String.ofList_toList], rfl⟩
  | bare h =>
    refine .inr ⟨h.isBareWord, ?_⟩
    rw [h.classify_eq, String.ofList_toList]

/-- A written value has no blanks at its ends. -/
theorem WritesScalar.isTrimmed {v : Raw} {w : List Char} (h : v.WritesScalar w) :
    Text.IsTrimmed w := by
  rcases h.cases with ⟨q, u, t, hq, -, -, rfl⟩ | ⟨hbare, -⟩
  · have hquote : Text.IsTrimmed [q] := by
      rcases Text.Quoted.isQuote_iff.mp hq with rfl | rfl <;> exact ⟨by simp, rfl⟩
    exact hquote.append hquote u
  · exact hbare.isTrimmed

theorem Writes.isTrimmed {v : Raw} {w : List Char} (h : v.Writes w) : Text.IsTrimmed w := by
  have hopen : Text.IsTrimmed ['['] := ⟨by simp, rfl⟩
  have hclose : Text.IsTrimmed [']'] := ⟨by simp, rfl⟩
  cases h with
  | scalar h => exact h.isTrimmed
  | @empty l _ => exact hopen.append hclose l
  | @list vs s _ => exact hopen.append hclose s

/-- Only scalars and lists of scalars are written. -/
theorem WritesScalar.isScalar {v : Raw} {w : List Char} (h : v.WritesScalar w) : v.IsScalar := by
  cases h with
  | null => exact .null
  | boolean b => exact .boolean b
  | number h => exact .number h
  | quoted => exact .text _
  | bare => exact .text _

theorem WritesItems.isScalar {vs : List Raw} {s : List Char} (h : WritesItems vs s) :
    ∀ v ∈ vs, v.IsScalar := by
  have hscalar : ∀ {v : Raw} {s : List Char}, Padded v.WritesScalar s → v.IsScalar := by
    rintro v s ⟨l, w, l', -, -, hw, -⟩
    exact hw.isScalar
  induction h with
  | last hv => exact List.forall_mem_singleton.mpr (hscalar hv)
  | cons hv _ ih => exact List.forall_mem_cons.mpr ⟨hscalar hv, ih⟩

theorem Writes.isSpelled {v : Raw} {w : List Char} (h : v.Writes w) : v.IsSpelled := by
  cases h with
  | scalar h => exact .scalar h.isScalar
  | empty => exact .list (by simp)
  | list h => exact .list h.isScalar

/-- Layout in front of items belongs to the first of them. -/
theorem WritesItems.append_layout {vs : List Raw} {s l : List Char} (h : WritesItems vs s)
    (hl : IsLayoutRun l) : WritesItems vs (l ++ s) := by
  have hpadded : ∀ {v : Raw} {s : List Char}, Padded v.WritesScalar s →
      Padded v.WritesScalar (l ++ s) := by
    rintro v s ⟨l₁, w, l₂, hl₁, hl₂, hw, rfl⟩
    refine ⟨l ++ l₁, w, l₂, List.forall_mem_append.mpr ⟨hl, hl₁⟩, hl₂, hw, ?_⟩
    rw [List.append_assoc]
  cases h with
  | last hv => exact .last (hpadded hv)
  | cons hv hrest =>
    rw [← List.append_assoc]
    exact .cons (hpadded hv) hrest

/-- Scalars with commas and spaces between them are items. -/
theorem writesItems_intercalate {vs : List Raw} {ws : List (List Char)}
    (h : List.Forall₂ WritesScalar vs ws) (hne : vs ≠ []) :
    WritesItems vs ([',', ' '].intercalate ws) := by
  have hspace : IsLayoutRun [' '] := by decide
  induction h with
  | nil => exact absurd rfl hne
  | @cons v w vs ws hw hrest ih =>
    cases hrest with
    | nil =>
      rw [List.intercalate_singleton]
      exact .last (Padded.bare hw)
    | cons =>
      rw [List.intercalate_cons_cons, List.append_assoc]
      exact .cons (Padded.bare hw) ((ih (by simp)).append_layout hspace)

/-- A list is written with commas and spaces between its scalars. -/
theorem writes_list {vs : List Raw} {ws : List (List Char)} (h : List.Forall₂ WritesScalar vs ws) :
    Writes (list vs) ('[' :: ([',', ' '].intercalate ws ++ [']'])) := by
  cases h with
  | nil => exact .empty Text.isLayoutRun_nil
  | cons hw hrest => exact .list (writesItems_intercalate (.cons hw hrest) (by simp))

end Raw

namespace Clause

open Text (isLayout)

/-! ### Items -/

/-- In front of a trimmed text there is no layout to skip. -/
theorem skipLayout_append_of_isTrimmed {s : List Char} (h : Text.IsTrimmed s) (t : List Char) :
    skipLayout (s ++ t) = s ++ t := by
  obtain ⟨c, s, rfl⟩ := List.exists_cons_of_ne_nil h.1
  have hc := Text.isBlank_head?_of_trim_eq_self h.2 c rfl
  exact Text.skipLayout_cons_of_not (Text.isLayout_of_isBlank_eq_false hc)

theorem endsItem_of_isLayout {c : Char} (h : Text.isLayout c = true) : endsItem c = false := by
  simp only [Text.isLayout, Bool.or_eq_true, beq_iff_eq] at h
  rcases h with ((rfl | rfl) | rfl) | rfl <;> rfl

/-- An item that is written, with layout behind it, is read up to what ends it. -/
theorem readItem_of_writes {v : Raw} {w l : List Char} (h : v.WritesScalar w)
    (hl : IsLayoutRun l) {c : Char} (hc : endsItem c = true) (list t : List Char) :
    ∃ r, readItem list (w ++ (l ++ c :: t)) = .ok (v, r) ∧ skipLayout r = c :: t := by
  have hskip : skipLayout (c :: t) = c :: t := by
    refine Text.skipLayout_cons_of_not ?_
    simp only [endsItem, Bool.or_eq_true, beq_iff_eq] at hc
    rcases hc with rfl | rfl <;> rfl
  rcases h.cases with ⟨q, u, s, hq, hspells, rfl, rfl⟩ | ⟨hbare, rfl⟩
  · refine ⟨l ++ c :: t, readItem_eq_ok_iff.mpr (.inl ⟨q, u, s, by simp, hq, hspells, rfl⟩), ?_⟩
    rw [Text.skipLayout_append hl, hskip]
  · have htrim : Text.trim (w ++ l) = w := hbare.isTrimmed.trim_append Text.isLayoutRun_nil hl
    refine ⟨c :: t, readItem_eq_ok_iff.mpr (.inr ⟨w ++ l, by simp, ?_, ?_, ?_, ?_, ?_⟩), hskip⟩
    · intro d hd
      rw [List.head?_append_of_ne_nil w hbare.isTrimmed.1] at hd
      exact hbare.startsBare d hd
    · intro d hd
      rcases List.mem_append.mp hd with hd | hd
      · exact hbare.endsItem d hd
      · exact endsItem_of_isLayout (hl d hd)
    · rintro d hd
      cases hd
      exact hc
    · rw [htrim]
      exact hbare.isTrimmed.1
    · rw [htrim]

theorem skipLayout_of_padded {W : List Char → Prop} (hW : ∀ w, W w → Text.IsTrimmed w)
    {s : List Char} (h : Padded W s) (t : List Char) :
    ∃ w l, IsLayoutRun l ∧ W w ∧ skipLayout (s ++ t) = w ++ (l ++ t) := by
  obtain ⟨l, w, l', hl, hl', hw, rfl⟩ := h
  refine ⟨w, l', hl', hw, ?_⟩
  rw [List.append_assoc, Text.skipLayout_append hl, List.append_assoc,
    skipLayout_append_of_isTrimmed (hW w hw)]

theorem readItems_skipLayout (list s : List Char) (n : Nat) :
    readItems list n (skipLayout s) = readItems list n s := by
  cases n with
  | zero => rfl
  | succ n =>
    have hskip : skipLayout (skipLayout s) = skipLayout s := List.dropWhile_idempotent isLayout s
    rw [readItems, readItems, hskip]

/-- Items that are written are read, up to the closing bracket, if as many may be read. -/
theorem readItems_of_writes {vs : List Raw} {s : List Char} (h : Raw.WritesItems vs s) {n : Nat}
    (hn : vs.length ≤ n) (list t : List Char) :
    readItems list n (s ++ ']' :: t) = .ok (vs, t) := by
  induction h generalizing n with
  | @last v s hv =>
    obtain ⟨n, rfl⟩ : ∃ m, n = m + 1 := ⟨n - 1, by simp at hn; omega⟩
    obtain ⟨w, l, hl, hw, hskip⟩ :=
      skipLayout_of_padded (fun _ hw ↦ hw.isTrimmed) hv (']' :: t)
    obtain ⟨r, hread, hr⟩ := readItem_of_writes hw hl (c := ']') rfl list t
    exact readItems_succ_eq_ok_iff.mpr ⟨v, r, hskip ▸ hread, .inr ⟨hr, rfl⟩⟩
  | @cons v vs s u hv _ ih =>
    obtain ⟨n, rfl⟩ : ∃ m, n = m + 1 := ⟨n - 1, by simp at hn; omega⟩
    obtain ⟨w, l, hl, hw, hskip⟩ :=
      skipLayout_of_padded (fun _ hw ↦ hw.isTrimmed) hv (',' :: (u ++ ']' :: t))
    obtain ⟨r, hread, hr⟩ := readItem_of_writes hw hl (c := ',') rfl list (u ++ ']' :: t)
    rw [List.append_assoc, List.cons_append]
    refine readItems_succ_eq_ok_iff.mpr ⟨v, r, hskip ▸ hread, .inl ⟨_, vs, hr, ?_, rfl⟩⟩
    exact ih (by simpa using hn)

theorem length_le_of_writesItems {vs : List Raw} {s : List Char} (h : Raw.WritesItems vs s) :
    vs.length ≤ s.length := by
  have hlength : ∀ (v : Raw) (s : List Char), Padded v.WritesScalar s → 1 ≤ s.length := by
    rintro v s ⟨l, w, l', -, -, hw, rfl⟩
    have hne : w.length ≠ 0 := fun h ↦ hw.isTrimmed.1 (List.length_eq_zero_iff.mp h)
    simp only [List.length_append]
    omega
  induction h with
  | last hv => exact hlength _ _ hv
  | cons hv _ ih =>
    have hfirst := hlength _ _ hv
    simp only [List.length_cons, List.length_append]
    omega

/-! ### Whole values -/

/-- A value that is written is read, whatever layout stands around it. -/
theorem readValue_of_writes {v : Raw} {s : List Char} (h : Padded v.Writes s) :
    readValue s = .ok v := by
  obtain ⟨w, l, hl, hw, hskip⟩ := skipLayout_of_padded (fun _ hw ↦ hw.isTrimmed) h []
  rw [List.append_nil, List.append_nil] at hskip
  rw [readValue_eq_ok_iff, hskip]
  cases hw with
  | scalar hw =>
    rcases hw.cases with ⟨q, u, t, hq, hspells, rfl, rfl⟩ | ⟨hbare, rfl⟩
    · exact .inr (.inl ⟨q, u, t, l, by simp, hq, hspells, hl, rfl⟩)
    · obtain ⟨c, u, rfl⟩ := List.exists_cons_of_ne_nil hbare.isTrimmed.1
      refine .inr (.inr ⟨c, u ++ l, rfl, hbare.startsBare c rfl, ?_⟩)
      have hblank : ∀ d ∈ l, Text.isBlank d = true := fun d hd ↦ Text.isBlank_of_isLayout (hl d hd)
      rw [← List.cons_append, Text.trimRight_append_of_isBlank _ hblank,
        Text.trimRight_eq_self (Text.isBlank_getLast?_of_trim_eq_self hbare.isTrimmed.2)]
  | @empty l' hl' =>
    refine .inl ⟨l' ++ ']' :: l, l, by simp, ?_, hl⟩
    refine readList_cons_eq_ok_iff.mpr (.inl ⟨?_, rfl⟩)
    rw [Text.skipLayout_append hl']
    exact Text.skipLayout_cons_of_not rfl
  | @list vs u hvs =>
    refine .inl ⟨u ++ ']' :: l, l, by simp, ?_, hl⟩
    refine readList_cons_eq_ok_iff.mpr (.inr ⟨vs, ?_, rfl⟩)
    rw [readItems_skipLayout]
    refine readItems_of_writes hvs ?_ _ l
    have hlength := length_le_of_writesItems hvs
    simp only [List.length_append, List.length_cons]
    omega

theorem takeOperator?_cons_of_not {c : Char} {s : List Char} (hl : isLayout c = false)
    (hf : isFieldChar c = false) : takeOperator? (c :: s) = none := by
  have hfield : takeField? (c :: s) = none := by
    simp [takeField?, Text.skipLayout_cons_of_not hl, hf]
  simp [takeOperator?, hfield]

/-- No operator is taken off a value that is written: a bare word has no colon in it, and anything
else does not start like a field. -/
theorem takeOperator?_of_writes {v : Raw} {s : List Char} (h : Padded v.Writes s) :
    takeOperator? s = none := by
  obtain ⟨l, w, l', hl, hl', hw, rfl⟩ := h
  have hlayout : ∀ t, takeOperator? (l ++ t) = takeOperator? t := by
    intro t
    simp only [takeOperator?, takeField?, Text.skipLayout_append hl]
  rw [hlayout]
  have hquote : ∀ q u, isQuote q = true → takeOperator? (q :: u) = none := by
    intro q u hq
    rcases Text.Quoted.isQuote_iff.mp hq with rfl | rfl <;>
      exact takeOperator?_cons_of_not rfl rfl
  cases hw with
  | empty => exact takeOperator?_cons_of_not rfl rfl
  | list => exact takeOperator?_cons_of_not rfl rfl
  | scalar hw =>
    rcases hw.cases with ⟨q, u, t, hq, -, -, rfl⟩ | ⟨hbare, -⟩
    · exact hquote q _ hq
    · cases htake : takeOperator? (w ++ l') with
      | none => rfl
      | some p =>
        obtain ⟨k, u, k', -, -, hs, -⟩ := takeOperator?_eq_some_iff.mp htake
        have hcolon : ':' ∈ w ++ l' := by
          rw [hs]
          simp
        rcases List.mem_append.mp hcolon with hmem | hmem
        · exact absurd (hbare.mem ':' hmem) (by decide)
        · cases hl' ':' hmem

end Clause

/-! ## Clauses -/

namespace Clause

/-- A field that is written with layout around it is read up to the colon behind it. -/
theorem readField_of_padded {W : List Char → Prop} (hW : ∀ w, W w → IsFieldWord w)
    {s : List Char} (h : Padded W s) (missing : Cause) (rest : List Char) :
    ∃ f, W f.word ∧ readField missing (s ++ ':' :: rest) = .ok (f, rest) := by
  obtain ⟨l, w, l', hl, hl', hw, rfl⟩ := h
  obtain ⟨f, rfl, hread⟩ := readField_append hl (hW w hw) hl' missing rest
  exact ⟨f, hw, by simpa using hread⟩

end Clause

namespace Descriptor

/-- A descriptor that a query can spell. -/
structure IsGrammatical (d : Descriptor) : Prop where
  segments : ∀ s ∈ d.path.segments, IsIdentifier s
  value : d.value.IsSpelled

/-- The ways of writing a descriptor. -/
inductive Writes (d : Descriptor) : List Char → Prop
  | plain {p o v : List Char} (hd : d.connective = none)
      (hp : Padded (· = d.path.text.toList) p) (ho : Padded (IsCaseOf d.operator.keyword) o)
      (hv : Padded d.value.Writes v) : Writes d (p ++ ':' :: (o ++ ':' :: v))
  | connected {c : Connective} {k p o v : List Char} (hd : d.connective = some c)
      (hk : Padded (IsCaseOf c.keyword) k) (hp : Padded (· = d.path.text.toList) p)
      (ho : Padded (IsCaseOf d.operator.keyword) o) (hv : Padded d.value.Writes v) :
      Writes d (k ++ ':' :: (p ++ ':' :: (o ++ ':' :: v)))

/-- A keyword in some case is a field, and so is a path of identifiers. -/
theorem isFieldWord_of_isCaseOf {keyword : String} {w : List Char}
    (hletters : keyword.toList.all Char.isAlpha = true) (hne : keyword ≠ "")
    (h : IsCaseOf keyword w) : Clause.IsFieldWord w := by
  have hw : w.all Char.isAlpha = true := by simpa using Text.all_isAlpha_of_sameFolded hletters h
  exact Clause.isFieldWord_of_all_isAlpha
    (Literal.isBareWord_of_isCaseOf hletters hne h).isTrimmed.1 hw

theorem isFieldWord_operator {o : Operator} {w : List Char} (h : IsCaseOf o.keyword w) :
    Clause.IsFieldWord w :=
  isFieldWord_of_isCaseOf o.all_isAlpha_keyword (by cases o <;> decide) h

theorem isFieldWord_connective {c : Connective} {w : List Char} (h : IsCaseOf c.keyword w) :
    Clause.IsFieldWord w :=
  isFieldWord_of_isCaseOf c.all_isAlpha_keyword (by cases c <;> decide) h

variable {d : Descriptor}

theorem IsGrammatical.isFieldWord_text (h : d.IsGrammatical) :
    Clause.IsFieldWord d.path.text.toList :=
  (Path.isIdentifier_iff.mp h.segments).1

theorem IsGrammatical.isFieldWord_path (h : d.IsGrammatical) :
    ∀ w, w = d.path.text.toList → Clause.IsFieldWord w := by
  rintro w rfl
  exact h.isFieldWord_text

theorem IsGrammatical.readPath_eq (h : d.IsGrammatical) {f : Clause.Field}
    (hf : f.word = d.path.text.toList) : Clause.readPath f = .ok d.path := by
  refine (Clause.readPath_eq_ok_iff (h.isFieldWord_path _ hf)).mpr ⟨?_, h.segments⟩
  rw [Clause.Field.text, hf, String.ofList_toList]

/-- A clause that is written is read as its descriptor. -/
theorem Writes.read_eq {s : List Char} (h : d.Writes s) (hd : d.IsGrammatical) :
    Clause.read s = .ok d := by
  rw [Clause.read_eq_ok_iff]
  cases h with
  | @plain p o v hconnective hp ho hv =>
    obtain ⟨first, hfirst, hread₁⟩ := Clause.readField_of_padded hd.isFieldWord_path hp
      .missingPath (o ++ ':' :: v)
    obtain ⟨second, hsecond, hread₂⟩ := Clause.readField_of_padded
      (fun _ ↦ isFieldWord_operator) ho .missingOperator v
    refine ⟨first, _, second, _, hread₁, hread₂, .inr ⟨?_, hconnective, ?_, ?_, ?_⟩⟩
    · exact .inr (Clause.takeOperator?_of_writes hv)
    · exact Operator.ofKeyword?_eq_some_iff.mpr hsecond
    · exact hd.readPath_eq hfirst
    · exact Clause.readValue_of_writes hv
  | @connected c k p o v hconnective hk hp ho hv =>
    obtain ⟨first, hfirst, hread₁⟩ := Clause.readField_of_padded
      (fun _ ↦ isFieldWord_connective) hk .missingPath (p ++ ':' :: (o ++ ':' :: v))
    obtain ⟨second, hsecond, hread₂⟩ := Clause.readField_of_padded hd.isFieldWord_path hp
      .missingOperator (o ++ ':' :: v)
    obtain ⟨l, w, l', hl, hl', hw, rfl⟩ := ho
    have htake : Clause.takeOperator? ((l ++ (w ++ l')) ++ ':' :: v) = some (d.operator, v) :=
      Clause.takeOperator?_eq_some_iff.mpr
        ⟨l, w, l', hl, hl', by simp, Operator.ofKeyword?_eq_some_iff.mpr hw⟩
    refine ⟨first, _, second, _, hread₁, hread₂, .inl ⟨⟨c, ?_, hconnective⟩, ⟨v, htake, ?_⟩, ?_⟩⟩
    · exact Connective.ofKeyword?_of_sameFolded hfirst
    · exact Clause.readValue_of_writes hv
    · exact hd.readPath_eq hsecond

end Descriptor

end RecordFilter
