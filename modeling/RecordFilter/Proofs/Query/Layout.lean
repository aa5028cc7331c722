import RecordFilter.Proofs.Query.Joining
import RecordFilter.Proofs.Query.Writing

/-!
# Layout does not matter

A query is written from clauses and runs of layout with semicolons between them,
and each clause in any of its ways.  The splitter and the reader of clauses go
through the same text by different rules: the splitter counts brackets and
quotes, the reader takes tokens.  They stay in step because the splitter passes
over everything that may be written for a value: a quote opens a literal only
where a value may start, and behind the first character of a bare word no value
may start before the next separator.

So the clauses are those that were written, layout at their ends aside
(`WritesQuery.clauseTexts`), and the query is parsed as what was written
(`WritesQuery.parseQuery_eq`).
-/

namespace RecordFilter

open Text (IsLayoutRun)

/-! ## Splitting -/

namespace Split

open State

theorem passes_layout {l : List Char} (hl : IsLayoutRun l) (n : Nat) (p : Option Char) :
    Passes (outside n p) l (outside n p) :=
  passes_of_isBlank (fun c hc ↦ Text.isBlank_of_isLayout (hl c hc)) n p

/-- Where no value may start, the splitter stays outside quotes and where no value may start, as
long as it meets no separator. -/
theorem passes_of_not_opensQuote {s : List Char} (hs : ∀ c ∈ s, c ∉ [';', ':', ',', '[', ']'])
    (n : Nat) {p : Option Char} (hp : opensQuote p = false) :
    ∃ p', Passes (outside n p) s (outside n p') := by
  induction s generalizing p with
  | nil => exact ⟨p, Passes.nil _⟩
  | cons c s ih =>
    have hc := hs c List.mem_cons_self
    simp only [List.mem_cons, List.not_mem_nil, or_false, not_or] at hc
    obtain ⟨hsemicolon, hcolon, hcomma, hopen, hclose⟩ := hc
    have hnext : (outside n p).next c = outside n (if Text.isBlank c then p else some c) := by
      simp [outside, next, outsideQuote, hp, hopen, hclose]
    have hp' : opensQuote (if Text.isBlank c then p else some c) = false := by
      split
      · exact hp
      · simp [opensQuote, hsemicolon, hcolon, hcomma, hopen]
    obtain ⟨p', hrest⟩ := ih (fun d hd ↦ hs d (List.mem_cons_of_mem _ hd)) hp'
    refine ⟨p', Passes.cons (fun heq ↦ absurd heq hsemicolon) ?_⟩
    rw [hnext]
    exact hrest

/-- A bare word is passed over: its first character is neither a quote nor a blank, and behind it no
value may start. -/
theorem passes_bareWord {w : List Char} (h : Literal.IsBareWord w) (n : Nat) (p : Option Char) :
    ∃ p', Passes (outside n p) w (outside n p') := by
  cases w with
  | nil => exact absurd rfl h.isTrimmed.1
  | cons c w =>
    have hquote : Text.Quoted.isQuote c = false := h.head c rfl
    have hblank : Text.isBlank c = false := Text.isBlank_head?_of_trim_eq_self h.isTrimmed.2 c rfl
    have hc := h.mem c List.mem_cons_self
    simp only [List.mem_cons, List.not_mem_nil, or_false, not_or] at hc
    obtain ⟨hsemicolon, hcolon, hcomma, hopen, hclose⟩ := hc
    have hnext : (outside n p).next c = outside n (some c) := by
      simp [outside, next, outsideQuote, hquote, hopen, hclose, hblank]
    have hp : opensQuote (some c) = false := by
      simp [opensQuote, hsemicolon, hcolon, hcomma, hopen]
    obtain ⟨p', hrest⟩ :=
      passes_of_not_opensQuote (fun d hd ↦ h.mem d (List.mem_cons_of_mem _ hd)) n hp
    refine ⟨p', Passes.cons (fun heq ↦ absurd heq hsemicolon) ?_⟩
    rw [hnext]
    exact hrest

/-- A scalar, where a value may start, is passed over however it is written. -/
theorem passes_writesScalar {v : Raw} {w : List Char} (h : v.WritesScalar w) (n : Nat)
    {p : Option Char} (hp : opensQuote p = true) :
    ∃ p', Passes (outside n p) w (outside n p') := by
  rcases h.cases with ⟨q, u, t, hq, hspells, -, rfl⟩ | ⟨hbare, -⟩
  · exact ⟨_, passes_quoted hq hp hspells n⟩
  · exact passes_bareWord hbare n p

/-- Layout around what is passed over is passed over too. -/
theorem passes_padded {W : List Char → Prop} {n : Nat} {p : Option Char}
    (hW : ∀ w, W w → ∃ p', Passes (outside n p) w (outside n p')) {s : List Char}
    (h : Padded W s) : ∃ p', Passes (outside n p) s (outside n p') := by
  obtain ⟨l, w, l', hl, hl', hw, rfl⟩ := h
  obtain ⟨p', hpass⟩ := hW w hw
  exact ⟨p', (passes_layout hl n p).append (hpass.append (passes_layout hl' n p'))⟩

theorem passes_writesItems {vs : List Raw} {s : List Char} (h : Raw.WritesItems vs s) (n : Nat)
    {p : Option Char} (hp : opensQuote p = true) :
    ∃ p', Passes (outside n p) s (outside n p') := by
  induction h generalizing p with
  | last hv => exact passes_padded (fun w hw ↦ passes_writesScalar hw n hp) hv
  | cons hv _ ih =>
    obtain ⟨p₁, hfirst⟩ := passes_padded (fun w hw ↦ passes_writesScalar hw n hp) hv
    obtain ⟨p₂, hrest⟩ := ih (p := some ',') rfl
    have hcomma : Passes (outside n p₁) [','] (outside n (some ',')) := Passes.single (by simp)
    exact ⟨p₂, hfirst.append (hcomma.append hrest)⟩

/-- A value, where one may start, is passed over however it is written. -/
theorem passes_writes {v : Raw} {w : List Char} (h : v.Writes w) {p : Option Char}
    (hp : opensQuote p = true) : ∃ p', Passes (outside 0 p) w (outside 0 p') := by
  have hbrackets : ∀ {s : List Char} {p₁ : Option Char},
      Passes (outside 1 (some '[')) s (outside 1 p₁) →
        Passes (outside 0 p) ('[' :: (s ++ [']'])) (outside 0 (some ']')) := by
    intro s p₁ hs
    have hopen : Passes (outside 0 p) ['['] (outside 1 (some '[')) := Passes.single (by simp)
    have hclose : Passes (outside 1 p₁) [']'] (outside 0 (some ']')) := Passes.single (by simp)
    exact hopen.append (hs.append hclose)
  cases h with
  | scalar h => exact passes_writesScalar h 0 hp
  | empty hl => exact ⟨_, hbrackets (passes_layout hl 1 _)⟩
  | list h =>
    obtain ⟨p₁, hitems⟩ := passes_writesItems h 1 (p := some '[') rfl
    exact ⟨_, hbrackets hitems⟩

theorem isPlain_of_isFieldChar {c : Char} (h : Clause.isFieldChar c = true) : IsPlain c := by
  have hdouble : c ≠ '"' := Clause.ne_of_isFieldChar h rfl
  have hsingle : c ≠ '\'' := Clause.ne_of_isFieldChar h rfl
  refine ⟨?_, Clause.ne_of_isFieldChar h rfl, Clause.ne_of_isFieldChar h rfl,
    Clause.ne_of_isFieldChar h rfl⟩
  simp [Text.Quoted.isQuote, hdouble, hsingle]

/-- A field is plain, and so is the layout around it. -/
theorem isPlain_of_padded {W : List Char → Prop} (hW : ∀ w, W w → Clause.IsFieldWord w)
    {s : List Char} (h : Padded W s) : ∀ c ∈ s, IsPlain c := by
  obtain ⟨l, w, l', hl, hl', hw, rfl⟩ := h
  simp only [List.forall_mem_append]
  exact ⟨fun c hc ↦ isPlain_of_isBlank (Text.isBlank_of_isLayout (hl c hc)),
    fun c hc ↦ isPlain_of_isFieldChar ((hW w hw).2 c hc),
    fun c hc ↦ isPlain_of_isBlank (Text.isBlank_of_isLayout (hl' c hc))⟩

end Split

/-! ## Clauses -/

namespace Padded

variable {A V : List Char → Prop} {a m v : List Char}

/-- From a text between two padded ones only the layout at its ends is trimmed. -/
theorem trim_append (hA : ∀ w, A w → Text.IsTrimmed w) (hV : ∀ w, V w → Text.IsTrimmed w)
    (ha : Padded A a) (hv : Padded V v) :
    ∃ a' v', Padded A a' ∧ Padded V v' ∧ Text.trim (a ++ (m ++ v)) = a' ++ (m ++ v') ∧
      a' ≠ [] := by
  obtain ⟨l, w, l', hl, hl', hw, rfl⟩ := ha
  obtain ⟨k, u, k', hk, hk', hu, rfl⟩ := hv
  refine ⟨w ++ l', k ++ u, ⟨[], w, l', Text.isLayoutRun_nil, hl', hw, rfl⟩,
    ⟨k, u, [], hk, Text.isLayoutRun_nil, hu, by simp⟩, ?_, by simp [(hA w hw).1]⟩
  have hcore : Text.IsTrimmed (w ++ ((l' ++ (m ++ k)) ++ u)) := (hA w hw).append (hV u hu) _
  calc
    Text.trim ((l ++ (w ++ l')) ++ (m ++ (k ++ (u ++ k'))))
        = Text.trim (l ++ ((w ++ ((l' ++ (m ++ k)) ++ u)) ++ k')) := by simp
    _ = w ++ ((l' ++ (m ++ k)) ++ u) := hcore.trim_append hl hk'
    _ = (w ++ l') ++ (m ++ (k ++ u)) := by simp

end Padded

namespace Descriptor

variable {d : Descriptor} {s : List Char}

/-- A clause that is written is still so when it has been trimmed. -/
theorem Writes.trim (h : d.Writes s) (hd : d.IsGrammatical) :
    d.Writes (Text.trim s) ∧ Text.trim s ≠ [] := by
  have hvalue : ∀ w, d.value.Writes w → Text.IsTrimmed w := fun _ hw ↦ hw.isTrimmed
  cases h with
  | @plain p o v hconnective hp ho hv =>
    obtain ⟨p', v', hp', hv', htrim, hne⟩ := Padded.trim_append (m := ':' :: (o ++ [':']))
      (fun w hw ↦ (hd.isFieldWord_path w hw).isTrimmed) hvalue hp hv
    have htext : Text.trim (p ++ ':' :: (o ++ ':' :: v)) = p' ++ ':' :: (o ++ ':' :: v') := by
      simpa using htrim
    rw [htext]
    exact ⟨.plain hconnective hp' ho hv', by simp⟩
  | @connected c k p o v hconnective hk hp ho hv =>
    obtain ⟨k', v', hk', hv', htrim, hne⟩ :=
      Padded.trim_append (m := ':' :: (p ++ ':' :: (o ++ [':'])))
        (fun w hw ↦ (isFieldWord_connective hw).isTrimmed) hvalue hk hv
    have htext : Text.trim (k ++ ':' :: (p ++ ':' :: (o ++ ':' :: v)))
        = k' ++ ':' :: (p ++ ':' :: (o ++ ':' :: v')) := by
      simpa using htrim
    rw [htext]
    exact ⟨.connected hconnective hk' hp ho hv', by simp⟩

/-- A clause that is written is passed over by the splitter. -/
theorem Writes.passes (h : d.Writes s) (hd : d.IsGrammatical) :
    ∃ p, Split.Passes {} s (.outside 0 p) := by
  -- in front of the value there are fields, colons and layout only
  have hpasses : ∀ head : List Char, (∀ c ∈ head, Split.State.IsPlain c) → ∀ {v : List Char},
      Padded d.value.Writes v → ∃ p, Split.Passes {} (head ++ ':' :: v) (.outside 0 p) := by
    intro head hhead v hv
    obtain ⟨p₁, hplain⟩ := Split.passes_plain hhead 0 none
    have hcolon : Split.Passes (.outside 0 p₁) [':'] (.outside 0 (some ':')) :=
      Split.Passes.single (by simp)
    obtain ⟨p₂, hvalue⟩ := Split.passes_padded
      (fun w hw ↦ Split.passes_writes hw (p := some ':') rfl) hv
    exact ⟨p₂, hplain.append (hcolon.append hvalue)⟩
  have hcolon : Split.State.IsPlain ':' := by decide
  cases h with
  | @plain p o v hconnective hp ho hv =>
    have hpath := Split.isPlain_of_padded hd.isFieldWord_path hp
    have hoperator := Split.isPlain_of_padded (fun _ ↦ isFieldWord_operator) ho
    have hclause := hpasses (p ++ ':' :: o) ?_ hv
    · simpa using hclause
    · simp only [List.forall_mem_append, List.forall_mem_cons]
      exact ⟨hpath, hcolon, hoperator⟩
  | @connected c k p o v hconnective hk hp ho hv =>
    have hmode := Split.isPlain_of_padded (fun _ ↦ isFieldWord_connective) hk
    have hpath := Split.isPlain_of_padded hd.isFieldWord_path hp
    have hoperator := Split.isPlain_of_padded (fun _ ↦ isFieldWord_operator) ho
    have hclause := hpasses (k ++ ':' :: (p ++ ':' :: o)) ?_ hv
    · simpa using hclause
    · simp only [List.forall_mem_append, List.forall_mem_cons]
      exact ⟨hmode, hcolon, hpath, hcolon, hoperator⟩

end Descriptor

/-! ## Queries -/

/-- The ways of writing descriptors as a query: clauses with semicolons between them, and any number
of empty ones among them. -/
inductive WritesQuery : List Descriptor → List Char → Prop
  | empty {l : List Char} (h : IsLayoutRun l) : WritesQuery [] l
  | clause {d : Descriptor} {s : List Char} (h : d.Writes s) : WritesQuery [d] s
  | join {ds ds' : List Descriptor} {s t : List Char} (hs : WritesQuery ds s)
      (ht : WritesQuery ds' t) : WritesQuery (ds ++ ds') (s ++ ';' :: t)

/-- Queries that end open end open when they are joined. -/
theorem Split.endsOpen_append_semicolon {s t : List Char} (hs : Split.endsOpen s = true)
    (ht : Split.endsOpen t = true) : Split.endsOpen (s ++ ';' :: t) = true := by
  have hfresh : ((({} : Split.State).run s).next ';').Agrees {} :=
    State.agrees_next_semicolon (State.isSound_run State.isSound_start s) hs
  rw [endsOpen, State.run_append, State.run_cons, (hfresh.run t).isOpen]
  exact ht

/-- What is not cut is a clause, unless it is blank. -/
theorem clauseTexts_eq_of_passes {s : List Char} {st : Split.State} (h : Split.Passes {} s st) :
    clauseTexts s = [Text.trim s].filter (· ≠ []) := by
  rw [clauseTexts_eq, h.cut_eq, List.map_singleton]

namespace WritesQuery

variable {ds : List Descriptor}

/-- The clauses of a query are read as the descriptors it was written for, and its end is open. -/
theorem clauseTexts {s : List Char} (h : WritesQuery ds s) (hds : ∀ d ∈ ds, d.IsGrammatical) :
    (RecordFilter.clauseTexts s).map Clause.read = ds.map .ok ∧ Split.endsOpen s = true := by
  induction h with
  | @empty l hl =>
    have hpasses : Split.Passes {} l {} := Split.passes_layout hl 0 none
    have htrim : Text.trim l = [] := by
      have hleft : Text.trimLeft l = [] :=
        List.dropWhile_eq_nil_iff.mpr fun c hc ↦ Text.isBlank_of_isLayout (hl c hc)
      rw [Text.trim, hleft, Text.trimRight_nil]
    refine ⟨?_, ?_⟩
    · simp [clauseTexts_eq_of_passes hpasses, htrim]
    · rw [Split.endsOpen, hpasses.run_eq]
      rfl
  | @clause d s hs =>
    have hd := hds d List.mem_cons_self
    obtain ⟨p, hpasses⟩ := hs.passes hd
    obtain ⟨htrim, hne⟩ := hs.trim hd
    refine ⟨?_, ?_⟩
    · simp [clauseTexts_eq_of_passes hpasses, hne, htrim.read_eq hd]
    · rw [Split.endsOpen, hpasses.run_eq]
      rfl
  | join hs ht ihs iht =>
    obtain ⟨hleft, hright⟩ := List.forall_mem_append.mp hds
    obtain ⟨hreads, hsopen⟩ := ihs hleft
    obtain ⟨hreadt, htopen⟩ := iht hright
    refine ⟨?_, Split.endsOpen_append_semicolon hsopen htopen⟩
    rw [clauseTexts_append_semicolon hsopen, List.map_append, hreads, hreadt, List.map_append]

/-- Layout does not matter.  However grammatical descriptors are written, with whatever layout and
empty clauses, the query is parsed as these descriptors, in their order. -/
theorem parseQuery_eq {query : String} (h : WritesQuery ds query.toList)
    (hds : ∀ d ∈ ds, d.IsGrammatical) :
    ∃ found, parseQuery query = .ok found ∧ found.map (·.value) = ds := by
  have hparse : parseDescriptors query = .ok ds :=
    parseDescriptors_eq_ok_iff.mpr (h.clauseTexts hds).1
  obtain ⟨found, hfound, hvalues⟩ := bind_eq_ok_iff.mp hparse
  exact ⟨found, hfound, Except.ok.inj hvalues⟩

/-- A path that is spelled like a keyword, compared with a text. -/
def keywordPath : Descriptor := ⟨none, .equal, ⟨["And"], by decide, by decide⟩, .text "a;'"⟩

/-- A list of a truth value and a text. -/
def memberOf : Descriptor :=
  ⟨some .or, .containsOnValue, ⟨["tags"], by decide, by decide⟩,
    .list [.boolean true, .text "O'Brien"]⟩

theorem isGrammatical_keywordPath : keywordPath.IsGrammatical :=
  ⟨List.forall_mem_singleton.mpr (isIdentifier_of_all rfl rfl rfl), .scalar (.text _)⟩

theorem isGrammatical_memberOf : memberOf.IsGrammatical := by
  refine ⟨List.forall_mem_singleton.mpr (isIdentifier_of_all rfl rfl rfl), .list fun v hv ↦ ?_⟩
  simp only [List.mem_cons, List.not_mem_nil, or_false] at hv
  rcases hv with rfl | rfl
  · exact .boolean true
  · exact .text _

theorem isBareText_apostrophe : Literal.IsBareText "O'Brien".toList := by
  refine ⟨⟨⟨by decide, rfl⟩, ?_, ?_⟩, by decide, ?_⟩
  · rintro c ⟨⟩
    rfl
  · have hall : "O'Brien".toList.all (fun c ↦ !([';', ':', ',', '[', ']'].contains c)) = true := rfl
    intro c hc
    simpa using List.all_eq_true.mp hall c hc
  · rw [← Literal.isNumber_iff]
    decide

/-- An escaped quote and a semicolon between quotes, an apostrophe in a bare item, layout and an
empty clause. -/
theorem parseQuery_eq_mixed :
    ∃ found, parseQuery "\n; And :EQUAL: 'a;\\'' ;oR:tags:containsonvalue :[ tRuE ,O'Brien]"
        = .ok found ∧ found.map (·.value) = [keywordPath, memberOf] := by
  have hnone : IsLayoutRun [] := Text.isLayoutRun_nil
  have hspace : IsLayoutRun [' '] := by decide
  have htext : (Raw.text "a;'").Writes "'a;\\''".toList :=
    .scalar (.quoted (q := '\'') (w := ['a', ';', '\\', '\'']) rfl
      (.plain (by decide) (by decide) (.plain (by decide) (by decide) (.escaped '\'' .nil))))
  have hlist : (Raw.list [.boolean true, .text "O'Brien"]).Writes "[ tRuE ,O'Brien]".toList :=
    .list (s := " tRuE ,O'Brien".toList) (.cons (s := " tRuE ".toList)
      ⟨[' '], "tRuE".toList, [' '], hspace, hspace, .boolean true (by decide), rfl⟩
      (.last ⟨[], _, [], hnone, hnone, .bare isBareText_apostrophe, rfl⟩))
  have hequal : IsCaseOf Operator.equal.keyword "EQUAL".toList := by decide
  have hor : IsCaseOf Connective.or.keyword "oR".toList := by decide
  have hmember : IsCaseOf Operator.containsOnValue.keyword "containsonvalue".toList := by decide
  have hempty : WritesQuery [] ['\n'] := .empty (by decide)
  have hfirst : WritesQuery [keywordPath] " And :EQUAL: 'a;\\'' ".toList :=
    .clause (.plain (p := " And ".toList) (o := "EQUAL".toList) (v := " 'a;\\'' ".toList) rfl
      ⟨[' '], _, [' '], hspace, hspace, rfl, rfl⟩ ⟨[], _, [], hnone, hnone, hequal, rfl⟩
      ⟨[' '], _, [' '], hspace, hspace, htext, rfl⟩)
  have hsecond : WritesQuery [memberOf] "oR:tags:containsonvalue :[ tRuE ,O'Brien]".toList :=
    .clause (.connected (k := "oR".toList) (p := "tags".toList) (o := "containsonvalue ".toList)
      (v := "[ tRuE ,O'Brien]".toList) rfl
      ⟨[], _, [], hnone, hnone, hor, rfl⟩ ⟨[], _, [], hnone, hnone, rfl, rfl⟩
      ⟨[], _, [' '], hnone, hspace, hmember, rfl⟩ ⟨[], _, [], hnone, hnone, hlist, rfl⟩)
  have hquery : "\n; And :EQUAL: 'a;\\'' ;oR:tags:containsonvalue :[ tRuE ,O'Brien]".toList
      = ['\n'] ++ ';' :: (" And :EQUAL: 'a;\\'' ".toList ++ ';' ::
        "oR:tags:containsonvalue :[ tRuE ,O'Brien]".toList) := by decide
  have hwrites := hempty.join (hfirst.join hsecond)
  rw [← hquery] at hwrites
  refine parseQuery_eq hwrites fun d hd ↦ ?_
  rcases List.mem_cons.mp hd with rfl | hd
  · exact isGrammatical_keywordPath
  · obtain rfl := List.mem_singleton.mp hd
    exact isGrammatical_memberOf

end WritesQuery

end RecordFilter
