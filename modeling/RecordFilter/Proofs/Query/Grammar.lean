import RecordFilter.Proofs.Query.Splitting
import RecordFilter.Proofs.Query.Writing

/-!
# The grammar of clauses

`Writing` lists ways of writing a descriptor that are sure to be read back.  This
file says what is read at all.  `Grammar.Clause` is the grammar of clauses, from
bare literals up, without a word about scanning: runs of layout, fields of field
characters, keywords in any case, quoted texts, and lists whose bare items go on to
the next comma or bracket.  A clause of a query is read as a descriptor if and only
if the grammar derives that descriptor from it (`read_iff_grammar`).

The readers have been characterised one by one by the suffixes that they leave.
What is left to do here is to put these together: an item with the layout around it
and the character that ends it (`readItem_skipLayout_iff`), the loop over items
(`readItems_eq_ok_iff`), whole values, and the two readings of a clause.
-/

namespace RecordFilter

open Text (IsLayoutRun isLayout skipLayout)
open Text.Quoted (isQuote Spells)

/-! ## The grammar -/

namespace Grammar

/-- A literal without quotes. -/
inductive BareLiteral : Raw → List Char → Prop where
  | null {w : List Char} (h : IsCaseOf "null" w) : BareLiteral .null w
  | boolean (b : Bool) {w : List Char} (h : IsCaseOf (if b then "true" else "false") w) :
      BareLiteral (.boolean b) w
  | number {w : List Char} (h : Literal.IsNumeral w) : BareLiteral (.number (String.ofList w)) w
  | text {w : List Char} (hkeyword : ∀ keyword ∈ ["null", "true", "false"], ¬IsCaseOf keyword w)
      (hnumeral : ¬Literal.IsNumeral w) : BareLiteral (.text (String.ofList w)) w

/-- Whether a token without quotes may start with this character. -/
def StartsBareToken (c : Char) : Prop := isLayout c = false ∧ isQuote c = false ∧ c ≠ '['

/-- An item of a list: a quoted text, or a bare run in which the list neither goes on nor
ends, whose blanks at the ends do not count. -/
inductive Item : Raw → List Char → Prop where
  | quoted {q : Char} {w t : List Char} (hq : isQuote q = true) (h : Spells q w t) :
      Item (.text (String.ofList t)) (q :: (w ++ [q]))
  | bare {v : Raw} {w : List Char} (hstart : ∀ c ∈ w.head?, StartsBareToken c)
      (hcomma : ',' ∉ w) (hbracket : ']' ∉ w) (hne : Text.trim w ≠ [])
      (h : BareLiteral v (Text.trim w)) : Item v w

/-- The items of a list, one or more, with commas between them. -/
inductive Items : List Raw → List Char → Prop where
  | last {v : Raw} {s : List Char} (h : Padded (Item v) s) : Items [v] s
  | cons {v : Raw} {vs : List Raw} {s t : List Char} (h : Padded (Item v) s)
      (hrest : Items vs t) : Items (v :: vs) (s ++ ',' :: t)

/-- A value: a quoted text or a list with layout around it, or a bare literal. -/
inductive Value : Raw → List Char → Prop where
  | quoted {q : Char} {l w t l' : List Char} (hl : IsLayoutRun l) (hl' : IsLayoutRun l')
      (hq : isQuote q = true) (h : Spells q w t) :
      Value (.text (String.ofList t)) (l ++ q :: (w ++ q :: l'))
  | empty {l m l' : List Char} (hl : IsLayoutRun l) (hm : IsLayoutRun m) (hl' : IsLayoutRun l') :
      Value (.list []) (l ++ '[' :: (m ++ ']' :: l'))
  | list {vs : List Raw} {l s l' : List Char} (hl : IsLayoutRun l) (hl' : IsLayoutRun l')
      (h : Items vs s) : Value (.list vs) (l ++ '[' :: (s ++ ']' :: l'))
  | bare {v : Raw} {l w : List Char} (hl : IsLayoutRun l) (hne : w ≠ [])
      (hstart : ∀ c ∈ w.head?, StartsBareToken c) (h : BareLiteral v w) : Value v (l ++ w)

/-- The spelling of a path: its segments with points between them, none of them empty and
each with a letter or an underscore in front. -/
structure SpellsPath (p : Path) (w : List Char) : Prop where
  segments : p.segments.map String.toList = w.splitOn '.'
  starts : ∀ s ∈ w.splitOn '.', ∃ c t, s = c :: t ∧ (Text.isAlphabetic c = true ∨ c = '_')

/-- Two fields, with the colons and the layout behind them, and the rest of the clause. -/
def Fields (f₁ f₂ r s : List Char) : Prop :=
  ∃ l₁ l₂ l₃, IsLayoutRun l₁ ∧ IsLayoutRun l₂ ∧ IsLayoutRun l₃ ∧ Clause.IsFieldWord f₁ ∧
    Clause.IsFieldWord f₂ ∧ s = f₁ ++ (l₁ ++ ':' :: (l₂ ++ (f₂ ++ (l₃ ++ ':' :: r))))

/-- An operator with a colon behind it, and what follows that. -/
def Operates (o : Operator) (v r : List Char) : Prop :=
  ∃ l w l', IsLayoutRun l ∧ IsLayoutRun l' ∧ IsCaseOf o.keyword w ∧
    r = l ++ (w ++ (l' ++ ':' :: v))

/-- A clause.  The reading with a connective has precedence, also where its path or its
value cannot be read. -/
inductive Clause (d : Descriptor) (s : List Char) : Prop where
  | connected {f₁ f₂ r v : List Char} (c : Connective) (hs : Fields f₁ f₂ r s)
      (hconnective : d.connective = some c) (hword : IsCaseOf c.keyword f₁)
      (hoperator : Operates d.operator v r) (hpath : SpellsPath d.path f₂)
      (hvalue : Value d.value v)
  | plain {f₁ f₂ r : List Char} (hs : Fields f₁ f₂ r s)
      (hnot : ∀ c o v, IsCaseOf (Connective.keyword c) f₁ → ¬Operates o v r)
      (hconnective : d.connective = none) (hoperator : IsCaseOf d.operator.keyword f₂)
      (hpath : SpellsPath d.path f₁) (hvalue : Value d.value r)

end Grammar

open Grammar

/-! ## Literals -/

namespace Literal

/-- Every literal is classified as what it denotes, which is only one value. -/
theorem classify_eq_iff {w : List Char} {v : Raw} : classify w = v ↔ BareLiteral v w := by
  have hdenotes : BareLiteral (classify w) w := by
    by_cases hnull : IsCaseOf "null" w
    · rw [classify_null hnull]
      exact .null hnull
    by_cases hboolean : ∃ b : Bool, IsCaseOf (if b then "true" else "false") w
    · obtain ⟨b, hb⟩ := hboolean
      rw [classify_boolean hb]
      exact .boolean b hb
    have hkeyword : ∀ keyword ∈ ["null", "true", "false"], ¬IsCaseOf keyword w := by
      simp only [List.forall_mem_cons, List.not_mem_nil, false_implies, implies_true, and_true]
      exact ⟨hnull, fun h ↦ hboolean ⟨true, h⟩, fun h ↦ hboolean ⟨false, h⟩⟩
    by_cases hnumeral : IsNumeral w
    · rw [classify_of_isNumeral hnumeral]
      exact .number hnumeral
    · rw [classify_of_not_keyword hkeyword hnumeral]
      exact .text hkeyword hnumeral
  constructor
  · rintro rfl
    exact hdenotes
  · intro h
    cases h with
    | null h => exact classify_null h
    | boolean b h => exact classify_boolean h
    | number h => exact classify_of_isNumeral h
    | text hkeyword hnumeral => exact classify_of_not_keyword hkeyword hnumeral

end Literal

namespace Clause

/-! ## Items -/

theorem endsItem_iff {c : Char} : endsItem c = true ↔ c = ',' ∨ c = ']' := by
  simp [endsItem]

theorem forall_endsItem_iff {w : List Char} :
    (∀ c ∈ w, endsItem c = false) ↔ ',' ∉ w ∧ ']' ∉ w := by
  constructor
  · intro h
    exact ⟨fun hmem ↦ absurd (h ',' hmem) (by decide), fun hmem ↦ absurd (h ']' hmem) (by decide)⟩
  · rintro ⟨hcomma, hbracket⟩ c hc
    rw [Bool.eq_false_iff, ne_eq, endsItem_iff]
    rintro (rfl | rfl)
    · exact hcomma hc
    · exact hbracket hc

theorem isLayout_of_endsItem {c : Char} (h : endsItem c = true) : isLayout c = false := by
  rcases endsItem_iff.mp h with rfl | rfl <;> rfl

theorem isLayout_of_isQuote {c : Char} (h : isQuote c = true) : isLayout c = false := by
  rcases Text.Quoted.isQuote_iff.mp h with rfl | rfl <;> rfl

/-- What stands in front of a text that starts with another character is skipped. -/
theorem skipLayout_append_cons {l s : List Char} {c : Char} (hl : IsLayoutRun l)
    (hc : isLayout c = false) : skipLayout (l ++ c :: s) = c :: s := by
  rw [Text.skipLayout_append hl, Text.skipLayout_cons_of_not hc]

theorem skipLayout_eq_cons_iff {s t : List Char} {c : Char} (hc : isLayout c = false) :
    skipLayout s = c :: t ↔ ∃ l, IsLayoutRun l ∧ s = l ++ c :: t := by
  constructor
  · intro h
    obtain ⟨l, hl, hs⟩ := Text.exists_eq_append_skipLayout s
    exact ⟨l, hl, by rw [← h, ← hs]⟩
  · rintro ⟨l, hl, rfl⟩
    exact skipLayout_append_cons hl hc

/-- An item is read together with the layout around it, up to the character that ends it. -/
theorem readItem_skipLayout_iff {list s t : List Char} {v : Raw} {c : Char}
    (hc : endsItem c = true) :
    (∃ r, readItem list (skipLayout s) = .ok (v, r) ∧ skipLayout r = c :: t) ↔
      ∃ u, Padded (Item v) u ∧ s = u ++ c :: t := by
  have hclayout := isLayout_of_endsItem hc
  constructor
  · rintro ⟨r, hread, hr⟩
    obtain ⟨l, hl, hs⟩ := Text.exists_eq_append_skipLayout s
    obtain ⟨l', hl', rfl⟩ := (skipLayout_eq_cons_iff hclayout).mp hr
    rcases readItem_eq_ok_iff.mp hread with
      ⟨q, w, t', hstart, hq, hw, rfl⟩ | ⟨w, hstart, hhead, hw, hend, htrim, rfl⟩
    · refine ⟨l ++ ((q :: (w ++ [q])) ++ l'), ⟨l, _, l', hl, hl', .quoted hq hw, rfl⟩, ?_⟩
      rw [hs, hstart]
      simp
    · -- a bare run has taken the layout behind it
      obtain rfl : l' = [] := by
        cases l' with
        | nil => rfl
        | cons d l' =>
          have hlayout := isLayout_of_endsItem (hend d rfl)
          rw [hl' d (by simp)] at hlayout
          cases hlayout
      have hne : w ≠ [] := by
        rintro rfl
        exact htrim rfl
      refine ⟨l ++ (w ++ []), ⟨l, w, [], hl, hl', .bare ?_ ?_ ?_ htrim ?_, rfl⟩, ?_⟩
      · intro d hd
        obtain ⟨hquote, hopen⟩ := hhead d hd
        refine ⟨?_, hquote, hopen⟩
        refine Text.eq_false_of_mem_head?_dropWhile (s := s) d ?_
        rw [show s.dropWhile isLayout = w ++ ([] ++ c :: t) from hstart,
          List.head?_append_of_ne_nil w hne]
        exact hd
      · exact (forall_endsItem_iff.mp hw).1
      · exact (forall_endsItem_iff.mp hw).2
      · exact Literal.classify_eq_iff.mp rfl
      · rw [hs, hstart]
        simp
  · rintro ⟨u, ⟨l, w, l', hl, hl', hitem, rfl⟩, rfl⟩
    cases hitem with
    | @quoted q w t' hq hw =>
      refine ⟨l' ++ c :: t, ?_, skipLayout_append_cons hl' hclayout⟩
      refine readItem_eq_ok_iff.mpr (.inl ⟨q, w, t', ?_, hq, hw, rfl⟩)
      have hsplit : (l ++ ((q :: (w ++ [q])) ++ l')) ++ c :: t
          = l ++ q :: (w ++ q :: (l' ++ c :: t)) := by simp
      rw [hsplit, skipLayout_append_cons hl (isLayout_of_isQuote hq)]
    | bare hstart hcomma hbracket hne hbare =>
      obtain ⟨d, w', rfl⟩ : ∃ d w', w = d :: w' := by
        refine List.exists_cons_of_ne_nil ?_
        rintro rfl
        exact hne rfl
      obtain ⟨hdlayout, hquote, hopen⟩ := hstart d rfl
      have hblank : ∀ e ∈ l', Text.isBlank e = true := by
        intro e he
        exact Text.isBlank_of_isLayout (hl' e he)
      have htrim : Text.trim ((d :: w') ++ l') = Text.trim (d :: w') :=
        Text.trim_append_of_isBlank _ hblank
      refine ⟨c :: t, ?_, Text.skipLayout_cons_of_not hclayout⟩
      refine readItem_eq_ok_iff.mpr (.inr ⟨(d :: w') ++ l', ?_, ?_, ?_, ?_, ?_, ?_⟩)
      · have hsplit : (l ++ ((d :: w') ++ l')) ++ c :: t = l ++ d :: (w' ++ (l' ++ c :: t)) := by
          simp
        rw [hsplit, skipLayout_append_cons hl hdlayout]
        simp
      · rintro e he
        cases he
        exact ⟨hquote, hopen⟩
      · intro e he
        rcases List.mem_append.mp he with he | he
        · exact forall_endsItem_iff.mpr ⟨hcomma, hbracket⟩ e he
        · exact endsItem_of_isLayout (hl' e he)
      · rintro e he
        cases he
        exact hc
      · rw [htrim]
        exact hne
      · rw [htrim]
        exact (Literal.classify_eq_iff.mpr hbare).symm

/-! ## Lists -/

/-- The loop over items reads exactly the items in front of a closing bracket, if it may take
as many steps as there are characters. -/
theorem readItems_eq_ok_iff {list s rest : List Char} {n : Nat} {vs : List Raw}
    (hn : s.length ≤ n) :
    readItems list n s = .ok (vs, rest) ↔ ∃ t, s = t ++ ']' :: rest ∧ Items vs t := by
  induction n generalizing s vs with
  | zero =>
    obtain rfl : s = [] := List.length_eq_zero_iff.mp (Nat.le_zero.mp hn)
    constructor
    · intro h
      cases h
    · rintro ⟨t, ht, -⟩
      simp at ht
  | succ n ih =>
    have hshorter : ∀ {u t : List Char}, s = u ++ ',' :: t → t.length ≤ n := by
      rintro u t rfl
      simp only [List.length_append, List.length_cons] at hn
      omega
    rw [readItems_succ_eq_ok_iff]
    constructor
    · rintro ⟨v, r, hv, ⟨r', vs', hr, hvs, rfl⟩ | ⟨hr, rfl⟩⟩
      · obtain ⟨u, hu, hs⟩ := (readItem_skipLayout_iff (c := ',') rfl).mp ⟨r, hv, hr⟩
        obtain ⟨t, rfl, ht⟩ := (ih (hshorter hs)).mp hvs
        exact ⟨u ++ ',' :: t, by rw [hs]; simp, .cons hu ht⟩
      · obtain ⟨u, hu, hs⟩ := (readItem_skipLayout_iff (c := ']') rfl).mp ⟨r, hv, hr⟩
        exact ⟨u, hs, .last hu⟩
    · rintro ⟨t, rfl, ht⟩
      cases ht with
      | @last v _ hv =>
        obtain ⟨r, hread, hr⟩ := (readItem_skipLayout_iff (c := ']') rfl).mpr ⟨t, hv, rfl⟩
        exact ⟨v, r, hread, .inr ⟨hr, rfl⟩⟩
      | @cons v vs' u t' hv hrest =>
        have hs : (u ++ ',' :: t') ++ ']' :: rest = u ++ ',' :: (t' ++ ']' :: rest) := by simp
        obtain ⟨r, hread, hr⟩ := (readItem_skipLayout_iff (c := ',') rfl).mpr ⟨u, hv, hs⟩
        exact ⟨v, r, hread, .inl ⟨_, vs', hr, (ih (hshorter hs)).mpr ⟨t', rfl, hrest⟩, rfl⟩⟩

theorem readList_eq_ok_iff {body rest : List Char} {v : Raw} :
    readList ('[' :: body) = .ok (v, rest) ↔
      (∃ m, IsLayoutRun m ∧ body = m ++ ']' :: rest ∧ v = .list []) ∨
      (∃ vs t, Items vs t ∧ body = t ++ ']' :: rest ∧ v = .list vs) := by
  rw [readList_cons_eq_ok_iff, skipLayout_eq_cons_iff rfl]
  simp only [readItems_skipLayout, readItems_eq_ok_iff (Nat.le_succ body.length)]
  constructor
  · rintro (⟨⟨m, hm, hbody⟩, hv⟩ | ⟨vs, ⟨t, hbody, ht⟩, hv⟩)
    · exact .inl ⟨m, hm, hbody, hv⟩
    · exact .inr ⟨vs, t, ht, hbody, hv⟩
  · rintro (⟨m, hm, hbody, hv⟩ | ⟨vs, t, ht, hbody, hv⟩)
    · exact .inl ⟨⟨m, hm, hbody⟩, hv⟩
    · exact .inr ⟨vs, ⟨t, hbody, ht⟩, hv⟩

/-! ## Values -/

/-- At the end of a text without blanks there, exactly the values of the grammar are read. -/
theorem readValue_iff_grammar {s : List Char} {v : Raw}
    (hs : ∀ c ∈ s.getLast?, Text.isBlank c = false) : readValue s = .ok v ↔ Value v s := by
  rw [readValue_eq_ok_iff]
  constructor
  · rintro (⟨body, rest, hskip, hlist, hrest⟩ | ⟨q, w, t, rest, hskip, hq, hw, hrest, rfl⟩ |
      ⟨c, body, hskip, hc, rfl⟩)
    · obtain ⟨l, hl, rfl⟩ := (skipLayout_eq_cons_iff rfl).mp hskip
      rcases readList_eq_ok_iff.mp hlist with ⟨m, hm, rfl, rfl⟩ | ⟨vs, t, ht, rfl, rfl⟩
      · exact .empty hl hm hrest
      · exact .list hl hrest ht
    · obtain ⟨l, hl, rfl⟩ := (skipLayout_eq_cons_iff (isLayout_of_isQuote hq)).mp hskip
      exact .quoted hl hrest hq hw
    · obtain ⟨l, hl, heq⟩ := Text.exists_eq_append_skipLayout s
      have hlayout : isLayout c = false :=
        Text.eq_false_of_mem_head?_dropWhile (s := s) c (by rw [← skipLayout, hskip]; rfl)
      have hlast : Text.trimRight (c :: body) = c :: body := by
        refine Text.trimRight_eq_self fun d hd ↦ hs d ?_
        rw [heq, hskip]
        exact List.mem_getLast?_append_of_mem_getLast? hd
      rw [heq, hskip, hlast]
      refine .bare hl (by simp) ?_ (Literal.classify_eq_iff.mp rfl)
      rintro d hd
      cases hd
      exact ⟨hlayout, hc.1, hc.2⟩
  · intro h
    cases h with
    | @quoted q l w t l' hl hl' hq hw =>
      exact .inr (.inl ⟨q, w, t, l', skipLayout_append_cons hl (isLayout_of_isQuote hq), hq, hw,
        hl', rfl⟩)
    | @empty l m l' hl hm hl' =>
      exact .inl ⟨m ++ ']' :: l', l', skipLayout_append_cons hl rfl,
        readList_eq_ok_iff.mpr (.inl ⟨m, hm, rfl, rfl⟩), hl'⟩
    | @list vs l t l' hl hl' ht =>
      exact .inl ⟨t ++ ']' :: l', l', skipLayout_append_cons hl rfl,
        readList_eq_ok_iff.mpr (.inr ⟨vs, t, ht, rfl, rfl⟩), hl'⟩
    | @bare _ l w hl hne hstart hbare =>
      obtain ⟨c, body, rfl⟩ := List.exists_cons_of_ne_nil hne
      obtain ⟨hlayout, hquote, hopen⟩ := hstart c rfl
      have hlast : Text.trimRight (c :: body) = c :: body := by
        refine Text.trimRight_eq_self fun d hd ↦ hs d ?_
        exact List.mem_getLast?_append_of_mem_getLast? hd
      refine .inr (.inr ⟨c, body, skipLayout_append_cons hl hlayout, ⟨hquote, hopen⟩, ?_⟩)
      rw [hlast]
      exact (Literal.classify_eq_iff.mpr hbare).symm

/-! ## Paths, fields and operators -/

theorem readPath_iff_spellsPath {f : Field} {p : Path} (hf : IsFieldWord f.word) :
    readPath f = .ok p ↔ SpellsPath p f.word := by
  have hstarts : ∀ s : String, startsSegment s = true ↔
      ∃ c t, s.toList = c :: t ∧ (Text.isAlphabetic c = true ∨ c = '_') := by
    intro s
    unfold startsSegment
    cases s.toList with
    | nil => simp
    | cons c t => simp
  rw [readPath_eq_ok_iff hf, Path.isIdentifier_iff]
  constructor
  · rintro ⟨htext, -, hsegments⟩
    have hpieces : p.segments.map String.toList = f.word.splitOn '.' := by
      have hpoint : ∀ s ∈ p.segments.map String.toList, '.' ∉ s := by
        intro s hs
        obtain ⟨t, ht, rfl⟩ := List.mem_map.mp hs
        exact (p.isSegment t ht).2.2
      have hword : f.word = ['.'].intercalate (p.segments.map String.toList) := by
        rw [← Path.toList_text, htext, Field.text, String.toList_ofList]
      rw [hword, List.splitOn_intercalate '.' hpoint (by simpa using p.ne_nil)]
    refine ⟨hpieces, fun s hs ↦ ?_⟩
    rw [← hpieces] at hs
    obtain ⟨t, ht, rfl⟩ := List.mem_map.mp hs
    exact (hstarts t).mp (hsegments t ht)
  · rintro ⟨hsegments, hpieces⟩
    have htext : p.text.toList = f.word := by
      rw [Path.toList_text, hsegments, List.intercalate_splitOn]
    refine ⟨?_, htext ▸ hf, fun s hs ↦ ?_⟩
    · rw [Field.text, ← htext, String.ofList_toList]
    · refine (hstarts s).mpr (hpieces s.toList ?_)
      rw [← hsegments]
      exact List.mem_map_of_mem hs

theorem takeOperator?_eq_some_iff_operates {o : Operator} {r v : List Char} :
    takeOperator? r = some (o, v) ↔ Operates o v r := by
  rw [takeOperator?_eq_some_iff]
  simp only [Operator.ofKeyword?_eq_some_iff]
  constructor
  · rintro ⟨l, w, l', hl, hl', hr, hw⟩
    exact ⟨l, w, l', hl, hl', hw, hr⟩
  · rintro ⟨l, w, l', hl, hl', hw, hr⟩
    exact ⟨l, w, l', hl, hl', hr, hw⟩

/-- The connected reading is out of the question when there is no connective or no operator. -/
theorem not_connected_iff {f r : List Char} :
    Connective.ofKeyword? (String.ofList f) = none ∨ takeOperator? r = none ↔
      ∀ c o v, IsCaseOf (Connective.keyword c) f → ¬Operates o v r := by
  constructor
  · rintro (h | h) c o v hc ho
    · rw [Connective.ofKeyword?_eq_some_iff.mpr hc] at h
      cases h
    · rw [takeOperator?_eq_some_iff_operates.mpr ho] at h
      cases h
  · intro h
    cases hc : Connective.ofKeyword? (String.ofList f) with
    | none => exact .inl rfl
    | some c =>
      cases ho : takeOperator? r with
      | none => exact .inr rfl
      | some p =>
        exact absurd (takeOperator?_eq_some_iff_operates.mp ho)
          (h c p.1 p.2 (Connective.ofKeyword?_eq_some_iff.mp hc))

/-- The fields that are read off a text without blanks at its ends. -/
theorem readFields_eq_ok_iff {s r : List Char} {f₁ f₂ : List Char} (hs : Text.IsTrimmed s) :
    Fields f₁ f₂ r s ↔
      ∃ first s₁ second, readField .missingPath s = .ok (first, s₁) ∧
        readField .missingOperator s₁ = .ok (second, r) ∧ first.word = f₁ ∧ second.word = f₂ := by
  constructor
  · rintro ⟨l₁, l₂, l₃, hl₁, hl₂, hl₃, hf₁, hf₂, rfl⟩
    obtain ⟨first, hfirst, hread₁⟩ := readField_append Text.isLayoutRun_nil hf₁ hl₁ .missingPath
      (l₂ ++ (f₂ ++ (l₃ ++ ':' :: r)))
    obtain ⟨second, hsecond, hread₂⟩ := readField_append hl₂ hf₂ hl₃ .missingOperator r
    exact ⟨first, _, second, hread₁, hread₂, hfirst, hsecond⟩
  · rintro ⟨first, s₁, second, hread₁, hread₂, rfl, rfl⟩
    obtain ⟨l, l₁, hl, hl₁, hf₁, hs₁, hstart₁, hrest₁⟩ := readField_eq_ok_iff.mp hread₁
    obtain ⟨l₂, l₃, hl₂, hl₃, hf₂, hs₂, hstart₂, hrest₂⟩ := readField_eq_ok_iff.mp hread₂
    obtain rfl : l = [] := by
      cases l with
      | nil => rfl
      | cons c l =>
        have hblank := Text.isBlank_head?_of_trim_eq_self hs.2 c (by rw [hs₁]; rfl)
        rw [Text.isBlank_of_isLayout (hl c (by simp))] at hblank
        cases hblank
    refine ⟨l₁, l₂, l₃, hl₁, hl₂, hl₃, hf₁, hf₂, ?_⟩
    rw [hs₁, hstart₁, hrest₁, hs₂, hstart₂, hrest₂, List.nil_append]

/-! ## Clauses -/

theorem isBlank_getLast?_of_append {s t u : List Char} (h : Text.IsTrimmed s) (hs : s = t ++ u) :
    ∀ c ∈ u.getLast?, Text.isBlank c = false := by
  intro c hc
  refine Text.isBlank_getLast?_of_trim_eq_self h.2 c ?_
  rw [hs]
  exact List.mem_getLast?_append_of_mem_getLast? hc

/-- The values behind two fields, and behind an operator there, reach to the end of the clause. -/
theorem exists_append_of_fields {f₁ f₂ r s : List Char} (h : Fields f₁ f₂ r s) :
    ∃ t, s = t ++ r := by
  obtain ⟨l₁, l₂, l₃, -, -, -, -, -, rfl⟩ := h
  exact ⟨f₁ ++ (l₁ ++ ':' :: (l₂ ++ (f₂ ++ (l₃ ++ [':'])))), by simp⟩

theorem exists_append_of_operates {o : Operator} {v r : List Char} (h : Operates o v r) :
    ∃ t, r = t ++ v := by
  obtain ⟨l, w, l', -, -, -, rfl⟩ := h
  exact ⟨l ++ (w ++ (l' ++ [':'])), by simp⟩

theorem read_iff_of_isTrimmed {s : List Char} {d : Descriptor} (hs : Text.IsTrimmed s) :
    read s = .ok d ↔ Grammar.Clause d s := by
  rw [read_eq_ok_iff]
  constructor
  · rintro ⟨first, s₁, second, r, hread₁, hread₂, hread⟩
    have hfields : Fields first.word second.word r s :=
      (readFields_eq_ok_iff hs).mpr ⟨first, s₁, second, hread₁, hread₂, rfl, rfl⟩
    obtain ⟨-, -, -, -, -, -, hf₁, hf₂, -⟩ := id hfields
    obtain ⟨t, ht⟩ := exists_append_of_fields hfields
    rcases hread with ⟨⟨c, hc, hd⟩, ⟨v, ho, hv⟩, hp⟩ | ⟨hnot, hd, ho, hp, hv⟩
    · have hoperates := takeOperator?_eq_some_iff_operates.mp ho
      obtain ⟨u, hu⟩ := exists_append_of_operates hoperates
      have hlast := isBlank_getLast?_of_append (t := t ++ u) hs (by rw [ht, hu, List.append_assoc])
      exact .connected c hfields hd (Connective.ofKeyword?_eq_some_iff.mp hc) hoperates
        ((readPath_iff_spellsPath hf₂).mp hp) ((readValue_iff_grammar hlast).mp hv)
    · exact .plain hfields (not_connected_iff.mp hnot) hd (Operator.ofKeyword?_eq_some_iff.mp ho)
        ((readPath_iff_spellsPath hf₁).mp hp)
        ((readValue_iff_grammar (isBlank_getLast?_of_append hs ht)).mp hv)
  · intro h
    cases h with
    | @connected f₁ f₂ r v c hfields hd hword hoperates hp hv =>
      obtain ⟨-, -, -, -, -, -, -, hf₂, -⟩ := id hfields
      obtain ⟨t, ht⟩ := exists_append_of_fields hfields
      obtain ⟨u, hu⟩ := exists_append_of_operates hoperates
      have hlast := isBlank_getLast?_of_append (t := t ++ u) hs (by rw [ht, hu, List.append_assoc])
      obtain ⟨first, s₁, second, hread₁, hread₂, rfl, rfl⟩ := (readFields_eq_ok_iff hs).mp hfields
      refine ⟨first, s₁, second, r, hread₁, hread₂, .inl ⟨⟨c, ?_, hd⟩, ⟨v, ?_, ?_⟩, ?_⟩⟩
      · exact Connective.ofKeyword?_eq_some_iff.mpr hword
      · exact takeOperator?_eq_some_iff_operates.mpr hoperates
      · exact (readValue_iff_grammar hlast).mpr hv
      · exact (readPath_iff_spellsPath hf₂).mpr hp
    | @plain f₁ f₂ r hfields hnot hd ho hp hv =>
      obtain ⟨-, -, -, -, -, -, hf₁, -, -⟩ := id hfields
      obtain ⟨t, ht⟩ := exists_append_of_fields hfields
      obtain ⟨first, s₁, second, hread₁, hread₂, rfl, rfl⟩ := (readFields_eq_ok_iff hs).mp hfields
      refine ⟨first, s₁, second, r, hread₁, hread₂, .inr ⟨?_, hd, ?_, ?_, ?_⟩⟩
      · exact not_connected_iff.mpr hnot
      · exact Operator.ofKeyword?_eq_some_iff.mpr ho
      · exact (readPath_iff_spellsPath hf₁).mpr hp
      · exact (readValue_iff_grammar (isBlank_getLast?_of_append hs ht)).mpr hv

/-- The clauses of a query are read exactly as the grammar says. -/
theorem read_iff_grammar {query : List Char} {clause : ClauseText}
    (h : clause ∈ splitClauses query) (d : Descriptor) :
    read clause.text = .ok d ↔ Grammar.Clause d clause.text :=
  read_iff_of_isTrimmed (isTrimmed_of_mem_splitClauses h)

/-- Keywords in mixed case, layout around every token and an apostrophe in a bare item. -/
def mixedClause : ClauseText := ⟨"oR: tags.x :containsonvalue :[ tRuE ,O'Brien]".toList, ⟨16, 61⟩⟩

def mixedDescriptor : Descriptor :=
  ⟨some .or, .containsOnValue, ⟨["tags", "x"], by decide, by decide⟩,
    .list [.boolean true, .text "O'Brien"]⟩

/-- A clause behind another one, whose quoted semicolon does not end it. -/
theorem read_iff_grammar_mixed :
    mixedClause ∈ splitClauses
        "And:Equal:';' ;\toR: tags.x :containsonvalue :[ tRuE ,O'Brien] ".toList ∧
      read mixedClause.text = .ok mixedDescriptor ∧
      Grammar.Clause mixedDescriptor mixedClause.text := by
  have hmem : mixedClause ∈ splitClauses
      "And:Equal:';' ;\toR: tags.x :containsonvalue :[ tRuE ,O'Brien] ".toList := by decide
  refine ⟨hmem, rfl, ?_⟩
  exact (read_iff_grammar hmem mixedDescriptor).mp rfl

end Clause

end RecordFilter
