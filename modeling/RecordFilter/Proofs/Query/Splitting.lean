import Mathlib.Tactic.SplitIfs
import RecordFilter.Proofs.Outcome
import RecordFilter.Proofs.Text.Blank
import RecordFilter.Proofs.Text.Quoted
import RecordFilter.Query.Parse

/-!
# The clauses of a query

The splitter goes through a query with a state and cuts at the semicolons that
it meets in an open one.  Cutting a text in two parts is cutting the first part
and then, from the state this leads to, the second, where the last piece of the
first part runs on into the first piece of the second (`Split.cut_append`).  So
two things have to be known about a text: whether it is cut, and the state
behind it.  `Passes` says both about a text that is not cut.

For the descriptors of a query only the texts of its clauses count, which are
the pieces, trimmed, that are not blank; where they stand shows in the errors.
-/

namespace RecordFilter

namespace Split

/-! ## States along a text -/

namespace State

/-- The state after a text. -/
def run (st : State) (s : List Char) : State := s.foldl next st

@[simp] theorem run_nil (st : State) : st.run [] = st := rfl

@[simp] theorem run_cons (st : State) (c : Char) (s : List Char) :
    st.run (c :: s) = (st.next c).run s := rfl

theorem run_append (st : State) (s t : List Char) : st.run (s ++ t) = (st.run s).run t :=
  List.foldl_append

/-- Only inside quotes a character can be escaped. -/
def IsSound (st : State) : Prop := st.quote = none → st.escaped = false

theorem isSound_next {st : State} (h : st.IsSound) (c : Char) : (st.next c).IsSound := by
  intro hquote
  unfold next at hquote ⊢
  split
  · next q hq =>
    simp only [hq, insideQuote] at hquote ⊢
    split_ifs at hquote ⊢ <;> simp_all
  · next hq => exact h hq

theorem isSound_run {st : State} (h : st.IsSound) (s : List Char) : (st.run s).IsSound := by
  induction s generalizing st with
  | nil => exact h
  | cons c s ih => exact ih (isSound_next h c)

/-- States that differ in nothing but the last visible character, and there only in a way that
does not show. -/
structure Agrees (st st' : State) : Prop where
  quote : st.quote = st'.quote
  escaped : st.escaped = st'.escaped
  depth : st.depth = st'.depth
  opensQuote : opensQuote st.previous = opensQuote st'.previous

theorem Agrees.isOpen {st st' : State} (h : st.Agrees st') : st.isOpen = st'.isOpen := by
  rw [State.isOpen, State.isOpen, h.quote, h.depth]

theorem Agrees.next {st st' : State} (h : st.Agrees st') (c : Char) :
    (st.next c).Agrees (st'.next c) := by
  obtain ⟨quote, escaped, depth, previous⟩ := st
  obtain ⟨quote', escaped', depth', previous'⟩ := st'
  obtain ⟨rfl, rfl, rfl, hp⟩ := h
  cases quote with
  | some q =>
    simp only [State.next, insideQuote]
    split_ifs <;> exact ⟨rfl, rfl, rfl, hp⟩
  | none =>
    simp only [State.next, outsideQuote]
    refine ⟨?_, rfl, rfl, ?_⟩
    · simp only at hp
      simp only [hp]
    · simp only
      split_ifs
      · exact hp
      · rfl

theorem Agrees.run {st st' : State} (h : st.Agrees st') (s : List Char) :
    (st.run s).Agrees (st'.run s) := by
  induction s generalizing st st' with
  | nil => exact h
  | cons c s ih => exact ih (h.next c)

/-- Behind a separating semicolon the state is as good as at the start. -/
theorem agrees_next_semicolon {st : State} (hst : st.IsSound) (h : st.isOpen = true) :
    (st.next ';').Agrees {} := by
  simp only [isOpen, Bool.and_eq_true, Option.isNone_iff_eq_none, beq_iff_eq] at h
  simp only [State.next, h.1, outsideQuote]
  exact ⟨rfl, hst h.1, by simp [h.2], rfl⟩

/-- The state outside quotes and in so many brackets. -/
def outside (depth : Nat) (previous : Option Char) : State where
  depth := depth
  previous := previous

/-- The state inside a quoted text that may go on with any character. -/
def inside (quote : Char) (depth : Nat) (previous : Option Char) : State where
  quote := some quote
  depth := depth
  previous := previous

theorem isSound_start : ({} : State).IsSound := fun _ ↦ rfl

/-- Blanks do not leave an open state. -/
theorem isOpen_run_of_isBlank {st : State} {s : List Char} (hst : st.isOpen = true)
    (hs : ∀ c ∈ s, Text.isBlank c = true) : (st.run s).isOpen = true := by
  induction s generalizing st with
  | nil => exact hst
  | cons c s ih =>
    refine ih ?_ fun d hd ↦ hs d (by simp [hd])
    have hc : Text.isBlank c = true := hs c (by simp)
    have hquote : Text.Quoted.isQuote c = false := by
      have hd : c ≠ '"' := Text.ne_of_isBlank hc rfl
      have hs : c ≠ '\'' := Text.ne_of_isBlank hc rfl
      simp [Text.Quoted.isQuote, hd, hs]
    have hopen : c ≠ '[' := Text.ne_of_isBlank hc rfl
    simp only [isOpen, Bool.and_eq_true, Option.isNone_iff_eq_none, beq_iff_eq] at hst ⊢
    simp only [next, hst.1, outsideQuote, hquote, hst.2]
    simp [hopen]

end State

/-! ## Pieces -/

theorem cut_ne_nil (st : State) (s : List Char) : cut st s ≠ [] := by
  cases s with
  | nil => simp [cut]
  | cons c s =>
    simp only [cut]
    split
    · simp
    · cases cut (st.next c) s <;> simp [Text.consHead]

/-- The last piece of a text runs on into the first piece of the text behind it. -/
theorem cut_append (st : State) (s t : List Char) :
    ∃ ps p q qs, cut st s = ps ++ [p] ∧ cut (st.run s) t = q :: qs ∧
      cut st (s ++ t) = ps ++ (p ++ q) :: qs := by
  induction s generalizing st with
  | nil =>
    obtain ⟨q, qs, hq⟩ := List.exists_cons_of_ne_nil (cut_ne_nil st t)
    exact ⟨[], [], q, qs, rfl, hq, hq⟩
  | cons c s ih =>
    obtain ⟨ps, p, q, qs, hs, ht, hst⟩ := ih (st.next c)
    rw [List.cons_append]
    simp only [cut, hs, hst]
    split
    · exact ⟨[] :: ps, p, q, qs, rfl, ht, rfl⟩
    · cases ps with
      | nil => exact ⟨[], c :: p, q, qs, rfl, ht, rfl⟩
      | cons p₀ ps => exact ⟨(c :: p₀) :: ps, p, q, qs, rfl, ht, rfl⟩

theorem cut_congr {st st' : State} (h : st.Agrees st') (s : List Char) : cut st s = cut st' s := by
  induction s generalizing st st' with
  | nil => rfl
  | cons c s ih => simp only [cut, h.isOpen, ih (h.next c)]

/-- Behind an open state a semicolon is a cut, and the splitter starts afresh. -/
theorem cut_append_semicolon {st : State} {s : List Char} (hst : st.IsSound)
    (h : (st.run s).isOpen = true) (t : List Char) :
    cut st (s ++ ';' :: t) = cut st s ++ cut {} t := by
  obtain ⟨ps, p, q, qs, hs, ht, hst'⟩ := cut_append st s (';' :: t)
  have hfresh : ((st.run s).next ';').Agrees {} :=
    State.agrees_next_semicolon (State.isSound_run hst s) h
  rw [cut, if_pos ⟨rfl, h⟩, cut_congr hfresh, List.cons.injEq] at ht
  obtain ⟨rfl, rfl⟩ := ht
  rw [hst', hs]
  simp

/-- Behind any other state a semicolon belongs to the piece it stands in. -/
theorem cut_append_of_not_isOpen {st : State} {s : List Char} (h : (st.run s).isOpen = false)
    (t : List Char) :
    ∃ ps p q qs, cut st s = ps ++ [p] ∧ cut st (s ++ ';' :: t) = ps ++ (p ++ ';' :: q) :: qs := by
  obtain ⟨ps, p, q, qs, hs, ht, hst⟩ := cut_append st s (';' :: t)
  obtain ⟨q', qs', hq⟩ := List.exists_cons_of_ne_nil (cut_ne_nil ((st.run s).next ';') t)
  rw [cut, if_neg (by simp [h]), hq, Text.consHead, List.cons.injEq] at ht
  obtain ⟨rfl, rfl⟩ := ht
  exact ⟨ps, p, q', qs', hs, hst⟩

/-- The state at the end of a text is the one that the last piece leads to by itself. -/
theorem run_last_piece {st : State} {s p : List Char} {ps : List (List Char)} (hst : st.IsSound)
    (h : cut st s = ps ++ [p]) :
    (ps = [] ∧ p = s) ∨ (ps ≠ [] ∧ (st.run s).Agrees (({} : State).run p)) := by
  induction s generalizing st ps p with
  | nil =>
    obtain ⟨rfl, rfl⟩ : ps = [] ∧ p = [] := by simpa [cut, List.singleton_eq_append_iff] using h
    exact .inl ⟨rfl, rfl⟩
  | cons c s ih =>
    have hnext : (st.next c).IsSound := State.isSound_next hst c
    rw [cut] at h
    split at h
    · next hc =>
      obtain ⟨rfl, hopen⟩ := hc
      cases ps with
      | nil => exact absurd (List.cons.inj h).2 (cut_ne_nil _ _)
      | cons p₀ ps =>
        refine .inr ⟨by simp, ?_⟩
        rcases ih hnext (List.cons.inj h).2 with ⟨-, rfl⟩ | ⟨-, hrun⟩
        · exact (State.agrees_next_semicolon hst hopen).run p
        · exact hrun
    · obtain ⟨q, qs, hq⟩ := List.exists_cons_of_ne_nil (cut_ne_nil (st.next c) s)
      rw [hq, Text.consHead] at h
      cases ps with
      | nil =>
        obtain ⟨rfl, rfl⟩ : c :: q = p ∧ qs = [] := by simpa using h
        have hpiece : cut (st.next c) s = [] ++ [q] := hq
        rcases ih hnext hpiece with ⟨-, rfl⟩ | ⟨hps, -⟩
        · exact .inl ⟨rfl, rfl⟩
        · exact absurd rfl hps
      | cons p₀ ps =>
        obtain ⟨rfl, rfl⟩ := List.cons.inj h
        have hpieces : cut (st.next c) s = (q :: ps) ++ [p] := hq
        rcases ih hnext hpieces with ⟨hps, -⟩ | ⟨-, hrun⟩
        · cases hps
        · exact .inr ⟨by simp, hrun⟩

/-! ## Texts that are not cut -/

/-- From one state to another the text is not cut. -/
structure Passes (st : State) (s : List Char) (st' : State) : Prop where
  cut_eq : cut st s = [s]
  run_eq : st.run s = st'

theorem Passes.nil (st : State) : Passes st [] st := ⟨rfl, rfl⟩

/-- A text that is passed over becomes the start of the first piece behind it. -/
theorem Passes.cut_append {st st' : State} {s t q : List Char} {qs : List (List Char)}
    (hs : Passes st s st') (ht : cut st' t = q :: qs) : cut st (s ++ t) = (s ++ q) :: qs := by
  obtain ⟨ps, p, q', qs', hp, hq, hst⟩ := Split.cut_append st s t
  rw [hs.run_eq, ht, List.cons.injEq] at hq
  obtain ⟨rfl, rfl⟩ := hq
  rw [hs.cut_eq] at hp
  obtain ⟨rfl, rfl⟩ : ps = [] ∧ p = s := by simpa [List.singleton_eq_append_iff] using hp
  rw [hst]
  rfl

theorem Passes.append {st st' st'' : State} {s t : List Char} (hs : Passes st s st')
    (ht : Passes st' t st'') : Passes st (s ++ t) st'' := by
  constructor
  · exact hs.cut_append ht.cut_eq
  · rw [State.run_append, hs.run_eq, ht.run_eq]

theorem Passes.single {st : State} {c : Char} (h : c = ';' → st.isOpen = false) :
    Passes st [c] (st.next c) := by
  refine ⟨?_, rfl⟩
  rw [cut, if_neg]
  · rfl
  · rintro ⟨hc, hopen⟩
    rw [h hc] at hopen
    cases hopen

theorem Passes.cons {st st' : State} {c : Char} {s : List Char} (hc : c = ';' → st.isOpen = false)
    (hs : Passes (st.next c) s st') : Passes st (c :: s) st' :=
  (Passes.single hc).append hs

/-- Without a semicolon there is nothing to cut at. -/
theorem cut_of_not_mem {s : List Char} (h : ';' ∉ s) (st : State) : cut st s = [s] := by
  induction s generalizing st with
  | nil => rfl
  | cons c s ih =>
    have hc : ¬(c = ';' ∧ st.isOpen = true) := by
      rintro ⟨rfl, -⟩
      exact h List.mem_cons_self
    rw [cut, if_neg hc, ih (fun hs ↦ h (List.mem_cons_of_mem c hs)), Text.consHead]

/-! ## States outside and inside quotes -/

namespace State

/-- Neither a quote nor a bracket nor a semicolon. -/
def IsPlain (c : Char) : Prop :=
  Text.Quoted.isQuote c = false ∧ c ≠ '[' ∧ c ≠ ']' ∧ c ≠ ';'

instance (c : Char) : Decidable (IsPlain c) := inferInstanceAs (Decidable (_ ∧ _ ∧ _ ∧ _))

theorem next_outside_of_isPlain {c : Char} (h : IsPlain c) (n : Nat) (p : Option Char) :
    ∃ p', (outside n p).next c = outside n p' := by
  obtain ⟨hquote, hopen, hclose, -⟩ := h
  refine ⟨if Text.isBlank c then p else some c, ?_⟩
  simp [outside, next, outsideQuote, hquote, hopen, hclose]

theorem isPlain_of_isBlank {c : Char} (h : Text.isBlank c = true) : IsPlain c := by
  have hdouble : c ≠ '"' := Text.ne_of_isBlank h rfl
  have hsingle : c ≠ '\'' := Text.ne_of_isBlank h rfl
  refine ⟨?_, Text.ne_of_isBlank h rfl, Text.ne_of_isBlank h rfl, Text.ne_of_isBlank h rfl⟩
  simp [Text.Quoted.isQuote, hdouble, hsingle]

/-- Blanks do not change the state outside quotes. -/
theorem next_outside_of_isBlank {c : Char} (h : Text.isBlank c = true) (n : Nat)
    (p : Option Char) : (outside n p).next c = outside n p := by
  obtain ⟨hquote, hopen, hclose, -⟩ := isPlain_of_isBlank h
  simp [outside, next, outsideQuote, hquote, hopen, hclose, h]

theorem next_inside_backslash (q : Char) (n : Nat) (p : Option Char) :
    (inside q n p).next '\\' = { inside q n p with escaped := true } := by
  simp [inside, next, insideQuote]

theorem next_inside_escaped (q c : Char) (n : Nat) (p : Option Char) :
    ({ inside q n p with escaped := true } : State).next c = inside q n p := by
  simp [inside, next, insideQuote]

theorem next_inside_quote {q : Char} (hq : q ≠ '\\') (n : Nat) (p : Option Char) :
    (inside q n p).next q = outside n p := by
  simp [inside, outside, next, insideQuote, hq]

theorem next_inside {q c : Char} (hb : c ≠ '\\') (hq : c ≠ q) (n : Nat) (p : Option Char) :
    (inside q n p).next c = inside q n p := by
  simp [inside, next, insideQuote, hb, hq]

end State

open State

/-- Plain text is passed over; only the last visible character changes. -/
theorem passes_plain {s : List Char} (h : ∀ c ∈ s, IsPlain c) (n : Nat) (p : Option Char) :
    ∃ p', Passes (outside n p) s (outside n p') := by
  induction s generalizing p with
  | nil => exact ⟨p, Passes.nil _⟩
  | cons c s ih =>
    have hc : IsPlain c := h c (by simp)
    obtain ⟨p₁, hp₁⟩ := next_outside_of_isPlain hc n p
    obtain ⟨p', hp'⟩ := ih (fun d hd ↦ h d (by simp [hd])) p₁
    refine ⟨p', Passes.cons (fun heq ↦ absurd heq hc.2.2.2) ?_⟩
    rw [hp₁]
    exact hp'

/-- Blanks are passed over without a trace. -/
theorem passes_of_isBlank {w : List Char} (hw : ∀ c ∈ w, Text.isBlank c = true) (n : Nat)
    (p : Option Char) : Passes (outside n p) w (outside n p) := by
  induction w with
  | nil => exact Passes.nil _
  | cons c w ih =>
    have hblank : Text.isBlank c = true := hw c List.mem_cons_self
    refine Passes.cons (fun heq ↦ absurd heq (Text.ne_of_isBlank hblank rfl)) ?_
    rw [next_outside_of_isBlank hblank]
    exact ih fun d hd ↦ hw d (List.mem_cons_of_mem _ hd)

/-- Inside quotes, the splitter goes on to the quote that ends the text. -/
theorem passes_spells {q : Char} {w t : List Char} (hq : q ≠ '\\')
    (h : Text.Quoted.Spells q w t) (n : Nat) (p : Option Char) :
    Passes (inside q n p) (w ++ [q]) (outside n p) := by
  have hclosed : ∀ c, c = ';' → (inside q n p).isOpen = false := fun _ _ ↦ rfl
  induction h with
  | nil =>
    have hpass := Passes.single (hclosed q)
    rwa [next_inside_quote hq] at hpass
  | escaped e _ ih =>
    refine Passes.cons (hclosed _) ?_
    rw [next_inside_backslash]
    refine Passes.cons (fun _ ↦ rfl) ?_
    rw [next_inside_escaped]
    exact ih
  | plain hb hq _ ih =>
    refine Passes.cons (hclosed _) ?_
    rw [next_inside hb hq]
    exact ih

/-- A quoted text, where a value may start, is passed over as a whole. -/
theorem passes_quoted {q : Char} {w t : List Char} {p : Option Char}
    (hq : Text.Quoted.isQuote q = true) (hp : opensQuote p = true)
    (h : Text.Quoted.Spells q w t) (n : Nat) :
    Passes (outside n p) (q :: (w ++ [q])) (outside n (some q)) := by
  have hvisible : q ≠ ';' ∧ q ≠ '[' ∧ q ≠ ']' ∧ Text.isBlank q = false := by
    rcases Text.Quoted.isQuote_iff.mp hq with rfl | rfl <;> decide
  obtain ⟨hsemicolon, hopen, hclose, hblank⟩ := hvisible
  refine Passes.cons (fun heq ↦ absurd heq hsemicolon) ?_
  have hnext : (outside n p).next q = inside q n (some q) := by
    simp [outside, inside, next, outsideQuote, hq, hp, hopen, hclose, hblank]
  rw [hnext]
  exact passes_spells (Text.Quoted.ne_backslash_of_isQuote hq) h n (some q)

end Split

/-! ## Texts of clauses -/

/-- The texts of the clauses of a query, in order. -/
def clauseTexts (query : List Char) : List (List Char) := (splitClauses query).map (·.text)

/-- The clauses are the pieces, trimmed, that are not blank. -/
theorem clauseTexts_eq (query : List Char) :
    clauseTexts query = ((Split.cut {} query).map Text.trim).filter (· ≠ []) := by
  have hplace : ∀ offset pieces,
      (Split.place offset pieces).map (·.text) = (pieces.map Text.trim).filter (· ≠ []) := by
    intro offset pieces
    induction pieces generalizing offset with
    | nil => rfl
    | cons piece pieces ih =>
      have htrim : Text.trimRight (Text.trimLeft piece) = Text.trim piece := rfl
      simp only [Split.place, htrim, List.map_cons, List.filter_cons]
      split
      · next hnil => simp [hnil, ih]
      · next hne => simp [hne, ih]
  exact hplace 0 _

theorem isTrimmed_of_mem_splitClauses {query : List Char} {clause : ClauseText}
    (h : clause ∈ splitClauses query) : Text.IsTrimmed clause.text := by
  have hmem : clause.text ∈ clauseTexts query := List.mem_map_of_mem h
  rw [clauseTexts_eq, List.mem_filter] at hmem
  obtain ⟨hmem, hne⟩ := hmem
  obtain ⟨piece, -, hpiece⟩ := List.mem_map.mp hmem
  refine ⟨by simpa using hne, ?_⟩
  rw [← hpiece, Text.trim_trim]

theorem Clause.outcome_eq_ok_iff {query : List Char} {index : Nat} {clause : ClauseText}
    {found : Spanned Descriptor} :
    outcome query index clause = .ok found ↔
      ∃ d, read clause.text = .ok d ∧ found = ⟨d, clause.span⟩ := by
  unfold outcome
  cases read clause.text <;> simp [eq_comm]

/-- The outcomes are all descriptors when all texts are read; where in the query the clauses stand,
from `first` on, does not matter. -/
theorem Clause.exists_outcomes_eq_iff {query : List Char} {clauses : List ClauseText} {first : Nat}
    {ds : List Descriptor} :
    (∃ found : List (Spanned Descriptor),
      clauses.mapIdx (fun i c ↦ outcome query (first + i) c) = found.map .ok ∧
        found.map (·.value) = ds) ↔
      (clauses.map (·.text)).map read = ds.map .ok := by
  induction clauses generalizing first ds with
  | nil =>
    simp only [List.mapIdx_nil, List.map_nil, List.nil_eq, List.map_eq_nil_iff]
    constructor
    · rintro ⟨found, rfl, rfl⟩
      rfl
    · rintro rfl
      exact ⟨[], rfl, rfl⟩
  | cons clause clauses ih =>
    have hshift : ∀ i c, outcome query (first + (i + 1)) c = outcome query (first + 1 + i) c := by
      intro i c
      rw [Nat.add_assoc, Nat.add_comm 1 i]
    simp only [List.mapIdx_cons, hshift, List.map_cons]
    constructor
    · rintro ⟨found, hfound, rfl⟩
      cases found with
      | nil => cases hfound
      | cons x found =>
        obtain ⟨hx, hrest⟩ := List.cons.inj hfound
        obtain ⟨d, hd, rfl⟩ := outcome_eq_ok_iff.mp hx
        rw [hd, ih.mp ⟨found, hrest, rfl⟩]
        rfl
    · intro hread
      cases ds with
      | nil => cases hread
      | cons d ds =>
        obtain ⟨hd, hrest⟩ := List.cons.inj hread
        obtain ⟨found, hfound, rfl⟩ := ih.mpr hrest
        refine ⟨⟨d, clause.span⟩ :: found, ?_, rfl⟩
        rw [hfound, outcome_eq_ok_iff.mpr ⟨d, hd, rfl⟩]
        rfl

/-- Parsing a query is reading all of its clauses. -/
theorem parseDescriptors_eq_ok_iff {query : String} {ds : List Descriptor} :
    parseDescriptors query = .ok ds ↔ (clauseTexts query.toList).map Clause.read = ds.map .ok := by
  have houtcomes : clauseOutcomes query
      = (splitClauses query.toList).mapIdx fun i c ↦ Clause.outcome query.toList (0 + i) c := by
    simp only [Nat.zero_add]
    rfl
  rw [clauseTexts, ← Clause.exists_outcomes_eq_iff, ← houtcomes]
  constructor
  · intro h
    obtain ⟨found, hfound, hds⟩ := bind_eq_ok_iff.mp h
    exact ⟨found, Mode.collect_eq_ok_iff.mp hfound, Except.ok.inj hds⟩
  · rintro ⟨found, hfound, rfl⟩
    exact bind_eq_ok_iff.mpr ⟨found, Mode.collect_eq_ok_iff.mpr hfound, rfl⟩

theorem descriptors_of_parseDescriptors {query : String} {ds : List Descriptor}
    (h : parseDescriptors query = .ok ds) :
    (parseWith .fast query).descriptors.map (·.value) = ds := by
  obtain ⟨found, hfound, hds⟩ := bind_eq_ok_iff.mp h
  obtain ⟨-, hdescriptors⟩ := FilterError.unless_eq_ok_iff.mp hfound
  rw [hdescriptors]
  exact Except.ok.inj hds

/-- Whatever the mode, a descriptor that is found in a query was read from one of its clauses. -/
theorem exists_read_of_mem_parseWith {mode : Mode} {query : String} {d : Descriptor}
    (h : d ∈ (parseWith mode query).descriptors.map (·.value)) :
    ∃ s ∈ clauseTexts query.toList, Clause.read s = .ok d := by
  obtain ⟨found, hfound, rfl⟩ := List.mem_map.mp h
  have hmem : Except.ok found ∈ clauseOutcomes query :=
    Mode.mem_of_mem_select (mem_resultsOf_iff.mp hfound)
  obtain ⟨i, hi, houtcome⟩ := List.mem_mapIdx.mp hmem
  obtain ⟨d, hd, rfl⟩ := Clause.outcome_eq_ok_iff.mp houtcome
  exact ⟨_, List.mem_map_of_mem (List.getElem_mem hi), hd⟩

end RecordFilter
