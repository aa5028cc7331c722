import RecordFilter.Proofs.Query.Splitting

/-!
# Where the clauses of a query stand

Splitting loses nothing: the clauses stand in the query one behind the other, where
their spans say, and all that stands between them is blanks and semicolons
(`Split.IsFaithful`).  This does not depend on where the query is cut, only on how
pieces are trimmed and placed; `LaidOut` is the layout of any pieces with their
clauses, and the rest is read off it by induction.

What a clause is read as depends on its text alone, since the splitter starts afresh
behind every semicolon at which it cuts: a piece is not cut again by itself, and the
blanks in front of its clause leave no trace in the state (`cut_text`).  So a clause
can be parsed by itself, and its error, if it has one, only stands elsewhere (`Moved`).
-/

namespace RecordFilter

open Text (Span Location byteLength isBlank)
open Diagnostic (Code)

/-! ## Slices -/

namespace Text

theorem byteLength_pos {s : List Char} (h : s ≠ []) : 0 < byteLength s := by
  obtain ⟨c, s, rfl⟩ := List.exists_cons_of_ne_nil h
  have hc := c.utf8Size_pos
  rw [byteLength_cons]
  omega

theorem splitAtByte_append (s t : List Char) :
    splitAtByte (byteLength s) (s ++ t) = some (s, t) := by
  induction s with
  | nil => cases t <;> rfl
  | cons c s ih =>
    have hc := c.utf8Size_pos
    have hlength := byteLength_cons c s
    obtain ⟨n, hn⟩ : ∃ n, byteLength (c :: s) = n + 1 := ⟨byteLength (c :: s) - 1, by omega⟩
    have hrest : n + 1 - c.utf8Size = byteLength s := by omega
    rw [hn, List.cons_append, splitAtByte, if_pos (by omega), hrest, ih]
    rfl

theorem Span.slice?_append (before s after : List Char) :
    (⟨byteLength before, byteLength before + byteLength s⟩ : Span).slice?
      (before ++ (s ++ after)) = some s := by
  have hsize : byteLength before + byteLength s - byteLength before = byteLength s := by omega
  rw [Span.slice?, if_pos (Nat.le_add_right _ _), splitAtByte_append, hsize]
  show (splitAtByte (byteLength s) (s ++ after)).bind _ = _
  rw [splitAtByte_append]
  rfl

end Text

/-! ## Pieces and their clauses -/

namespace Split

/-- The clauses of a piece that begins at a position, of which there is at most one. -/
inductive ClausesOf (n : Nat) : List Char → List ClauseText → Prop where
  | blank {b : List Char} (hb : ∀ c ∈ b, isBlank c = true) : ClausesOf n b []
  | clause {b t b' : List Char} (hb : ∀ c ∈ b, isBlank c = true)
      (hb' : ∀ c ∈ b', isBlank c = true) (ht : Text.IsTrimmed t) :
      ClausesOf n (b ++ (t ++ b'))
        [⟨t, ⟨n + byteLength b, n + byteLength b + byteLength t⟩⟩]

/-- Pieces with semicolons between them, from a position on, and all of their clauses. -/
inductive LaidOut : Nat → List Char → List ClauseText → Prop where
  | piece {n : Nat} {p : List Char} {cs : List ClauseText} (h : ClausesOf n p cs) :
      LaidOut n p cs
  | cons {n : Nat} {p s : List Char} {cs cs' : List ClauseText} (h : ClausesOf n p cs)
      (hrest : LaidOut (n + byteLength p + 1) s cs') : LaidOut n (p ++ ';' :: s) (cs ++ cs')

theorem exists_place_cons (n : Nat) (piece : List Char) :
    ∃ cs, ClausesOf n piece cs ∧
      ∀ pieces, place n (piece :: pieces) = cs ++ place (n + byteLength piece + 1) pieces := by
  obtain ⟨b, hb, hpiece⟩ := Text.exists_eq_append_trimLeft piece
  obtain ⟨b', hb', hbody⟩ := Text.exists_eq_trimRight_append (Text.trimLeft piece)
  have htrim : Text.trimRight (Text.trimLeft piece) = Text.trim piece := rfl
  by_cases hblank : Text.trim piece = []
  · refine ⟨[], .blank (Text.isBlank_of_trim_eq_nil hblank), fun pieces ↦ ?_⟩
    simp only [place, htrim, hblank, if_true, List.nil_append]
  · have hstart : byteLength piece - byteLength (Text.trimLeft piece) = byteLength b := by
      have hlength := congrArg byteLength hpiece
      rw [Text.byteLength_append] at hlength
      omega
    have hclause : ClausesOf n (b ++ (Text.trim piece ++ b')) _ :=
      .clause hb hb' ⟨hblank, Text.trim_trim piece⟩
    rw [← htrim, ← hbody, ← hpiece, htrim] at hclause
    refine ⟨_, hclause, fun pieces ↦ ?_⟩
    simp only [place, htrim, hblank, if_false, hstart, List.singleton_append]

theorem laidOut_place (n : Nat) {pieces : List (List Char)} (h : pieces ≠ []) :
    LaidOut n ([';'].intercalate pieces) (place n pieces) := by
  induction pieces generalizing n with
  | nil => exact absurd rfl h
  | cons piece pieces ih =>
    obtain ⟨cs, hcs, hplace⟩ := exists_place_cons n piece
    rw [hplace]
    cases pieces with
    | nil =>
      rw [place, List.append_nil, List.intercalate_singleton]
      exact .piece hcs
    | cons piece' pieces =>
      rw [List.intercalate_cons_cons, List.append_assoc]
      exact .cons hcs (ih _ (by simp))

/-! ## Clauses in their places -/

/-- The clause stands in a text that begins at a position, where its span says. -/
def StandsIn (c : ClauseText) (n : Nat) (s : List Char) : Prop :=
  ∃ before after, s = before ++ (c.text ++ after) ∧
    c.span = ⟨n + byteLength before, n + byteLength before + byteLength c.text⟩

theorem StandsIn.bounds {c : ClauseText} {n : Nat} {s : List Char} (h : StandsIn c n s) :
    n ≤ c.span.start ∧ c.span.stop ≤ n + byteLength s := by
  obtain ⟨before, after, rfl, hspan⟩ := h
  rw [hspan, Text.byteLength_append, Text.byteLength_append]
  constructor
  · show n ≤ n + byteLength before
    omega
  · show n + byteLength before + byteLength c.text ≤ _
    omega

/-- The first of two parts of a text may stand for the whole. -/
theorem StandsIn.append {c : ClauseText} {n : Nat} {s : List Char} (h : StandsIn c n s)
    (t : List Char) : StandsIn c n (s ++ t) := by
  obtain ⟨before, after, rfl, hspan⟩ := h
  exact ⟨before, after ++ t, by simp, hspan⟩

/-- The part behind a semicolon may stand for the whole as well. -/
theorem StandsIn.append_semicolon {c : ClauseText} {n : Nat} {p s : List Char}
    (h : StandsIn c (n + byteLength p + 1) s) : StandsIn c n (p ++ ';' :: s) := by
  obtain ⟨before, after, rfl, hspan⟩ := h
  refine ⟨p ++ ';' :: before, after, by simp, ?_⟩
  have hlength : n + byteLength p + 1 + byteLength before
      = n + byteLength (p ++ ';' :: before) := by
    rw [Text.byteLength_append, Text.byteLength_cons, show ';'.utf8Size = 1 from rfl]
    omega
  rw [hspan, hlength]

/-- A character of a text stands in one of its two parts. -/
theorem append_eq_append_cons {s t before after : List Char} {ch : Char}
    (h : s ++ t = before ++ ch :: after) :
    (∃ r, s = before ++ ch :: r) ∨ (∃ r, before = s ++ r ∧ t = r ++ ch :: after) := by
  rcases List.append_eq_append_iff.mp h with ⟨r, hbefore, ht⟩ | ⟨r, hs, hr⟩
  · exact .inr ⟨r, hbefore, ht⟩
  · cases r with
    | nil => exact .inr ⟨[], by rw [hs, List.append_nil, List.append_nil], hr.symm⟩
    | cons d r =>
      obtain ⟨rfl, -⟩ := List.cons.inj hr
      exact .inl ⟨r, hs⟩

/-- The character behind a text is under a span, unless it is blank or a semicolon. -/
def IsCovered (cs : List ClauseText) (n : Nat) (before : List Char) (ch : Char) : Prop :=
  isBlank ch = true ∨ ch = ';' ∨
    ∃ c ∈ cs, c.span.start ≤ n + byteLength before ∧ n + byteLength before < c.span.stop

namespace ClausesOf

variable {n : Nat} {p : List Char} {cs : List ClauseText}

theorem pairwise (h : ClausesOf n p cs) (R : ClauseText → ClauseText → Prop) : cs.Pairwise R := by
  cases h with
  | blank => exact List.Pairwise.nil
  | clause => exact List.pairwise_singleton R _

theorem standsIn (h : ClausesOf n p cs) : ∀ c ∈ cs, StandsIn c n p ∧ Text.IsTrimmed c.text := by
  intro c hc
  cases h with
  | blank => cases hc
  | @clause b t b' _ _ ht =>
    obtain rfl := List.mem_singleton.mp hc
    exact ⟨⟨b, b', rfl, rfl⟩, ht⟩

theorem isCovered (h : ClausesOf n p cs) {before after : List Char} {ch : Char}
    (hp : p = before ++ ch :: after) : IsCovered cs n before ch := by
  cases h with
  | blank hb =>
    refine .inl (hb ch ?_)
    rw [hp]
    simp
  | @clause b t b' hb hb' _ =>
    rcases append_eq_append_cons hp with ⟨r, rfl⟩ | ⟨r, rfl, hbehind⟩
    · exact .inl (hb ch (by simp))
    · rcases append_eq_append_cons hbehind with ⟨r', rfl⟩ | ⟨r', -, rfl⟩
      · have hch := ch.utf8Size_pos
        refine .inr (.inr ⟨_, List.mem_singleton.mpr rfl, ?_, ?_⟩)
        · simp only [Text.byteLength_append]
          omega
        · simp only [Text.byteLength_append, Text.byteLength_cons]
          omega
      · exact .inl (hb' ch (by simp))

end ClausesOf

namespace LaidOut

variable {n : Nat} {s : List Char} {cs : List ClauseText}

theorem standsIn (h : LaidOut n s cs) : ∀ c ∈ cs, StandsIn c n s ∧ Text.IsTrimmed c.text := by
  induction h with
  | piece h => exact h.standsIn
  | @cons n p s cs cs' h _ ih =>
    intro c hc
    rcases List.mem_append.mp hc with hc | hc
    · obtain ⟨hstands, ht⟩ := h.standsIn c hc
      exact ⟨hstands.append _, ht⟩
    · obtain ⟨hstands, ht⟩ := ih c hc
      exact ⟨hstands.append_semicolon, ht⟩

/-- Somewhere between two clauses there is a semicolon. -/
theorem separated (h : LaidOut n s cs) :
    cs.Pairwise fun c c' ↦ ∃ before after, s = before ++ ';' :: after ∧
      c.span.stop ≤ n + byteLength before ∧ n + byteLength before < c'.span.start := by
  induction h with
  | piece h => exact h.pairwise _
  | @cons n p s cs cs' h hrest ih =>
    refine List.pairwise_append.mpr ⟨h.pairwise _, ?_, ?_⟩
    · refine ih.imp ?_
      rintro c c' ⟨before, after, rfl, hstop, hstart⟩
      refine ⟨p ++ ';' :: before, after, by simp, ?_, ?_⟩ <;>
        rw [Text.byteLength_append, Text.byteLength_cons, show ';'.utf8Size = 1 from rfl] <;> omega
    · intro c hc c' hc'
      have hstop := (h.standsIn c hc).1.bounds.2
      have hstart := (hrest.standsIn c' hc').1.bounds.1
      exact ⟨p, s, rfl, hstop, by omega⟩

theorem isCovered (h : LaidOut n s cs) {before after : List Char} {ch : Char}
    (hs : s = before ++ ch :: after) : IsCovered cs n before ch := by
  induction h generalizing before with
  | piece h => exact h.isCovered hs
  | @cons n p s cs cs' h _ ih =>
    rcases append_eq_append_cons hs with ⟨r, hp⟩ | ⟨r, rfl, hrest⟩
    · rcases h.isCovered hp with hblank | hsemicolon | ⟨c, hc, hspan⟩
      · exact .inl hblank
      · exact .inr (.inl hsemicolon)
      · exact .inr (.inr ⟨c, List.mem_append_left _ hc, hspan⟩)
    · cases r with
      | nil =>
        obtain ⟨rfl, -⟩ := List.cons.inj hrest
        exact .inr (.inl rfl)
      | cons d r =>
        obtain ⟨rfl, hbehind⟩ := List.cons.inj hrest
        rcases ih hbehind with hblank | hsemicolon | ⟨c, hc, hstart, hstop⟩
        · exact .inl hblank
        · exact .inr (.inl hsemicolon)
        · have hlength : byteLength (p ++ ';' :: r) = byteLength p + (1 + byteLength r) :=
            Text.byteLength_append p (';' :: r)
          refine .inr (.inr ⟨c, List.mem_append_right _ hc, ?_, ?_⟩) <;> omega

end LaidOut

/-! ## Pieces by themselves -/

/-- With semicolons between them, the pieces are the text again. -/
theorem intercalate_cut (st : State) (s : List Char) : [';'].intercalate (cut st s) = s := by
  induction s generalizing st with
  | nil => exact List.intercalate_singleton
  | cons c s ih =>
    rw [cut]
    split
    · next h =>
      rw [List.intercalate_cons_of_ne_nil (cut_ne_nil _ s), ih, h.1]
      rfl
    · obtain ⟨p, ps, hp⟩ := List.exists_cons_of_ne_nil (cut_ne_nil (st.next c) s)
      have hjoin := ih (st.next c)
      rw [hp] at hjoin ⊢
      rw [Text.consHead, ← hjoin]
      cases ps with
      | nil => simp
      | cons q qs => simp

/-- A text that is not cut has no part that is cut. -/
theorem cut_parts {st : State} {s t : List Char} (h : cut st (s ++ t) = [s ++ t]) :
    cut st s = [s] ∧ cut (st.run s) t = [t] := by
  have hself : ∀ {st : State} {s p : List Char}, cut st s = [p] → cut st s = [s] := by
    intro st s p hp
    have hjoin := intercalate_cut st s
    rw [hp, List.intercalate_singleton] at hjoin
    rw [hp, hjoin]
  obtain ⟨ps, p, q, qs, hs, ht, hst⟩ := cut_append st s t
  rw [hst] at h
  obtain ⟨rfl, rfl⟩ : ps = [] ∧ qs = [] := by
    have hlength := congrArg List.length h
    simp only [List.length_append, List.length_cons, List.length_nil] at hlength
    constructor <;> exact List.length_eq_zero_iff.mp (by omega)
  exact ⟨hself hs, hself ht⟩

/-- A piece is not cut again: the first one from the same state, every later one from the
start. -/
theorem cut_pieces {st : State} (hst : st.IsSound) (s : List Char) :
    ∃ p ps, cut st s = p :: ps ∧ cut st p = [p] ∧ ∀ p' ∈ ps, cut {} p' = [p'] := by
  induction s generalizing st with
  | nil => exact ⟨[], [], rfl, rfl, by simp⟩
  | cons c s ih =>
    obtain ⟨p, ps, hs, hp, hps⟩ := ih (State.isSound_next hst c)
    rw [cut, hs]
    split
    · next hc =>
      obtain ⟨rfl, hopen⟩ := hc
      rw [cut_congr (State.agrees_next_semicolon hst hopen)] at hp
      exact ⟨[], p :: ps, rfl, rfl, List.forall_mem_cons.mpr ⟨hp, hps⟩⟩
    · next hc =>
      refine ⟨c :: p, ps, rfl, ?_, hps⟩
      rw [cut, if_neg hc, hp]
      rfl

theorem cut_of_mem_cut {s p : List Char} (h : p ∈ cut {} s) : cut {} p = [p] := by
  obtain ⟨q, qs, hs, hq, hqs⟩ := cut_pieces State.isSound_start s
  rw [hs] at h
  rcases List.mem_cons.mp h with rfl | h
  · exact hq
  · exact hqs p h

/-- The text of a clause is not cut by itself. -/
theorem cut_text {query : List Char} {c : ClauseText} (h : c ∈ splitClauses query) :
    cut {} c.text = [c.text] := by
  have hmem : c.text ∈ clauseTexts query := List.mem_map_of_mem h
  rw [clauseTexts_eq, List.mem_filter] at hmem
  obtain ⟨piece, hpiece, htext⟩ := List.mem_map.mp hmem.1
  obtain ⟨b, b', hb, -, hsplit⟩ := Text.exists_eq_append_trim piece
  rw [htext] at hsplit
  have hcut := cut_of_mem_cut hpiece
  rw [hsplit] at hcut
  have hrun : ({} : State).run b = {} := (passes_of_isBlank hb 0 none).run_eq
  have hbody := (cut_parts hcut).2
  rw [hrun] at hbody
  exact (cut_parts hbody).1

theorem splitClauses_text {query : List Char} {c : ClauseText} (h : c ∈ splitClauses query) :
    splitClauses c.text = [⟨c.text, ⟨0, byteLength c.text⟩⟩] := by
  obtain ⟨hne, htrim⟩ := isTrimmed_of_mem_splitClauses h
  have hleft : Text.trimLeft c.text = c.text :=
    Text.trimLeft_eq_self (Text.isBlank_head?_of_trim_eq_self htrim)
  have hright : Text.trimRight c.text = c.text :=
    Text.trimRight_eq_self (Text.isBlank_getLast?_of_trim_eq_self htrim)
  rw [splitClauses, cut_text h]
  simp [place, hleft, hright, hne]

/-! ## Faithfulness -/

/-- What the clauses of a query have to do with the query. -/
structure IsFaithful (query : List Char) (clauses : List ClauseText) : Prop where
  /-- There is something to see at both ends of a clause. -/
  visible : ∀ c ∈ clauses, (∀ ch ∈ c.text.head?, isBlank ch = false) ∧
    ∀ ch ∈ c.text.getLast?, isBlank ch = false
  /-- The span is not empty, stays inside the query, and the clause is what is under it. -/
  slice : ∀ c ∈ clauses, c.span.start < c.span.stop ∧ c.span.stop ≤ byteLength query ∧
    c.span.slice? query = some c.text
  /-- The clauses stand one behind the other, with a semicolon between them. -/
  separated : clauses.Pairwise fun c c' ↦ ∃ before after, query = before ++ ';' :: after ∧
    c.span.stop ≤ byteLength before ∧ byteLength before < c'.span.start
  /-- Every character is blank, a semicolon or under one of the spans. -/
  covered : ∀ before ch after, query = before ++ ch :: after →
    isBlank ch = true ∨ ch = ';' ∨
      ∃ c ∈ clauses, c.span.start ≤ byteLength before ∧ byteLength before < c.span.stop

theorem laidOut_splitClauses (query : List Char) : LaidOut 0 query (splitClauses query) := by
  have h := laidOut_place 0 (cut_ne_nil {} query)
  rwa [intercalate_cut] at h

theorem isFaithful_splitClauses (query : List Char) : IsFaithful query (splitClauses query) := by
  have hlaid := laidOut_splitClauses query
  constructor
  · intro c hc
    obtain ⟨-, htrim⟩ := isTrimmed_of_mem_splitClauses hc
    exact ⟨Text.isBlank_head?_of_trim_eq_self htrim, Text.isBlank_getLast?_of_trim_eq_self htrim⟩
  · intro c hc
    obtain ⟨hstands, ht⟩ := hlaid.standsIn c hc
    have hstop := hstands.bounds.2
    obtain ⟨before, after, hquery, hspan⟩ := hstands
    have hpos := Text.byteLength_pos ht.1
    rw [Nat.zero_add] at hspan hstop
    refine ⟨?_, hstop, ?_⟩
    · rw [hspan]
      show byteLength before < byteLength before + byteLength c.text
      omega
    · rw [hspan, hquery]
      exact Text.Span.slice?_append before c.text after
  · simpa only [Nat.zero_add] using hlaid.separated
  · intro before ch after hquery
    simpa only [IsCovered, Nat.zero_add] using hlaid.isCovered hquery

end Split

/-! ## Clauses by themselves -/

/-- The outcome of a clause by itself, and that of the same clause further on in a query: the
same descriptor, or an error that only stands elsewhere. -/
inductive Moved (offset index : Nat) : Except FilterError (Spanned Descriptor) →
    Except FilterError (Spanned Descriptor) → Prop where
  | ok (d : Descriptor) (span : Span) :
      Moved offset index (.ok ⟨d, span⟩) (.ok ⟨d, span.shift offset⟩)
  | error (code : Code) (text message : String) {l l' : Location}
      (hoffset : l'.offset = l.offset + offset) (hlength : l'.length = l.length) :
      Moved offset index (.error (.malformed code 0 text message (some l)))
        (.error (.malformed code index text message (some l')))

theorem Clause.moved_outcome (query query' : List Char) (index : Nat) (c : ClauseText)
    (hspan : c.span.stop = c.span.start + byteLength c.text) :
    Moved c.span.start index (outcome query' 0 ⟨c.text, ⟨0, byteLength c.text⟩⟩)
      (outcome query index c) := by
  unfold outcome
  cases Clause.read c.text with
  | ok d =>
    have hshift : (⟨0, byteLength c.text⟩ : Span).shift c.span.start = c.span := by
      rw [Span.shift, Nat.zero_add, Nat.add_comm, ← hspan]
    have hmoved : Moved c.span.start index (.ok ⟨d, ⟨0, byteLength c.text⟩⟩)
        (.ok ⟨d, (⟨0, byteLength c.text⟩ : Span).shift c.span.start⟩) := .ok d _
    rwa [hshift] at hmoved
  | error f => exact .error _ _ _ (by simp) (by simp)

/-- With a single outcome there is nothing left to stop at. -/
theorem parseWith_of_clauseOutcomes_singleton {query : String}
    {o : Except FilterError (Spanned Descriptor)} (h : clauseOutcomes query = [o]) (mode : Mode) :
    parseWith mode query = ⟨resultsOf [o], errorsOf [o]⟩ := by
  have hselect : mode.select [o] = [o] := by
    cases mode with
    | analysis => rfl
    | fast => cases o <;> rfl
  rw [parseWith, h, hselect]

/-- Splitting loses nothing and clauses are independent: every clause is split off and parsed
by itself as it is in the query. -/
theorem splitClauses_faithful (query : String) :
    Split.IsFaithful query.toList (splitClauses query.toList) ∧
      ∀ i c, (splitClauses query.toList)[i]? = some c →
        splitClauses c.text = [⟨c.text, ⟨0, byteLength c.text⟩⟩] ∧
        ∃ alone inQuery, clauseOutcomes (String.ofList c.text) = [alone] ∧
          (clauseOutcomes query)[i]? = some inQuery ∧ Moved c.span.start i alone inQuery ∧
          ∀ mode, parseWith mode (String.ofList c.text)
            = ⟨resultsOf [alone], errorsOf [alone]⟩ := by
  refine ⟨Split.isFaithful_splitClauses _, fun i c hc ↦ ?_⟩
  have hmem : c ∈ splitClauses query.toList := List.mem_of_getElem? hc
  have hsplit := Split.splitClauses_text hmem
  have halone : clauseOutcomes (String.ofList c.text)
      = [Clause.outcome c.text 0 ⟨c.text, ⟨0, byteLength c.text⟩⟩] := by
    rw [clauseOutcomes, String.toList_ofList, hsplit]
    rfl
  have hquery : (clauseOutcomes query)[i]? = some (Clause.outcome query.toList i c) := by
    rw [clauseOutcomes, List.getElem?_mapIdx, hc]
    rfl
  have hspan : c.span.stop = c.span.start + byteLength c.text := by
    obtain ⟨⟨before, after, -, hspan⟩, -⟩ :=
      (Split.laidOut_splitClauses query.toList).standsIn c hmem
    rw [hspan]
  exact ⟨hsplit, _, _, halone, hquery, Clause.moved_outcome _ _ i c hspan,
    parseWith_of_clauseOutcomes_singleton halone⟩

/-- The second clause of a query whose first one has a quoted semicolon and letters of two bytes. -/
def unknownOperatorClause : ClauseText := ⟨"id:Bogus:1".toList, ⟨21, 31⟩⟩

theorem splitClauses_faithful_bogus :
    (splitClauses " é:Equal:'ü;' ;\n ;\tid:Bogus:1 ".toList)[1]? = some unknownOperatorClause ∧
      ∃ alone inQuery, clauseOutcomes "id:Bogus:1" = [alone] ∧
        (clauseOutcomes " é:Equal:'ü;' ;\n ;\tid:Bogus:1 ")[1]? = some inQuery ∧
        Moved 21 1 alone inQuery := by
  have hclause : (splitClauses " é:Equal:'ü;' ;\n ;\tid:Bogus:1 ".toList)[1]?
      = some unknownOperatorClause := rfl
  obtain ⟨-, alone, inQuery, halone, hquery, hmoved, -⟩ :=
    (splitClauses_faithful _).2 1 unknownOperatorClause hclause
  exact ⟨hclause, alone, inQuery, halone, hquery, hmoved⟩

end RecordFilter
