import RecordFilter.Predicate.Basic

/-!
# Reading a rendered formula

A formula is rendered between its operators, with parentheses only where it would
otherwise nest differently.  Whether the parentheses stand in the right places is a
question about the grammar of such sequences, `Derives`: "and" binds tighter than
"or", both associate to the left, and parentheses may stand around anything.

Three facts are shown of it.  The tokens of a formula derive that formula
(`derives_tokens`); whatever a sequence derives, the reader returns
(`Derives.ofTokens?_eq`), so the grammar is unambiguous; and the reader returns
nothing else (`derives_of_ofTokens?`).  Rendering can therefore be read back, and
what it loses of a predicate are only the leaves that have the same text.  What the
tokens are written as is said by `Token.Writes`, and by `Predicate.IsInfix` for the
predicate itself.
-/

namespace RecordFilter

universe u

variable {α : Type u}

namespace Token

/-- The leaf that a token stands for. -/
def leaf? : Token α → Option α
  | atom a => some a
  | _ => none

/-- How tokens are written one behind the other: a leaf as its text, an operator as its name in
capitals between blanks, and parentheses as they are. -/
inductive Writes : List (Token String) → String → Prop where
  | nil : Writes [] ""
  | atom {ts : List (Token String)} {text : String} (leaf : String) :
      Writes ts text → Writes (.atom leaf :: ts) (leaf ++ text)
  | and {ts : List (Token String)} {text : String} :
      Writes ts text → Writes (.and :: ts) (" AND " ++ text)
  | or {ts : List (Token String)} {text : String} :
      Writes ts text → Writes (.or :: ts) (" OR " ++ text)
  | opening {ts : List (Token String)} {text : String} :
      Writes ts text → Writes (.opening :: ts) ("(" ++ text)
  | closing {ts : List (Token String)} {text : String} :
      Writes ts text → Writes (.closing :: ts) (")" ++ text)

/-- Tokens are written in one way. -/
theorem writes_iff {ts : List (Token String)} {text : String} :
    Writes ts text ↔ text = String.join (ts.map Token.text) := by
  constructor
  · intro h
    induction h with
    | nil => rfl
    | atom | and | or | opening | closing => simp [Token.text, *]
  · rintro rfl
    induction ts with
    | nil => exact .nil
    | cons t ts ih =>
      rw [List.map_cons, String.join_cons]
      cases t with
      | atom leaf => exact .atom leaf ih
      | and => exact .and ih
      | or => exact .or ih
      | opening => exact .opening ih
      | closing => exact .closing ih

end Token

namespace Formula

/-! ## The grammar -/

/-- How tightly a sequence of tokens holds together, the tightest first. -/
inductive Level where
  | operand
  | conjunction
  | disjunction

/-- The tokens that stand for a formula: a disjunction is a chain of conjunctions and a
conjunction a chain of operands, each chain nested to the left. -/
inductive Derives : Level → Formula α → List (Token α) → Prop where
  | atom (a : α) : Derives .operand (.atom a) [.atom a]
  | enclosed {p : Formula α} {ts : List (Token α)} :
      Derives .disjunction p ts → Derives .operand p (.opening :: (ts ++ [.closing]))
  | conjunction {p : Formula α} {ts : List (Token α)} :
      Derives .operand p ts → Derives .conjunction p ts
  | and {l r : Formula α} {ts us : List (Token α)} :
      Derives .conjunction l ts → Derives .operand r us →
        Derives .conjunction (.and l r) (ts ++ .and :: us)
  | disjunction {p : Formula α} {ts : List (Token α)} :
      Derives .conjunction p ts → Derives .disjunction p ts
  | or {l r : Formula α} {ts us : List (Token α)} :
      Derives .disjunction l ts → Derives .conjunction r us →
        Derives .disjunction (.or l r) (ts ++ .or :: us)

namespace Derives

variable {k : Level} {p : Formula α} {ts us : List (Token α)}

/-- An operand may stand at any level. -/
theorem of_operand (h : Derives .operand p ts) : Derives k p ts := by
  cases k with
  | operand => exact h
  | conjunction => exact h.conjunction
  | disjunction => exact h.conjunction.disjunction

/-- A formula that is no "or" needs no parentheses in a conjunction. -/
theorem conjunction_of_isOr (h : Derives .disjunction p ts) (hp : p.isOr = false) :
    Derives .conjunction p ts := by
  cases h with
  | disjunction h => exact h
  | or => cases hp

/-- An atom needs no parentheses at all. -/
theorem operand_of_isAtom (h : Derives .disjunction p ts) (hp : p.isAtom = true) :
    Derives .operand p ts := by
  cases h with
  | or => cases hp
  | disjunction h =>
    cases h with
    | conjunction h => exact h
    | and => cases hp

/-- Parentheses are right where they are needed, and where they are not, the tokens have
to hold together on their own. -/
theorem enclose {needed : Bool} (h : Derives .disjunction p ts)
    (hk : needed = false → Derives k p ts) : Derives k p (Formula.enclose needed ts) := by
  cases needed with
  | false => exact hk rfl
  | true => exact h.enclosed.of_operand

end Derives

/-- The tokens of a formula derive it. -/
theorem derives_tokens (p : Formula α) : Derives .disjunction p p.tokens := by
  induction p with
  | atom a => exact (Derives.atom a).of_operand
  | and l r ihl ihr =>
    apply Derives.disjunction
    apply Derives.and
    · exact ihl.enclose ihl.conjunction_of_isOr
    · exact ihr.enclose fun h ↦ ihr.operand_of_isAtom (by simpa using h)
  | or l r ihl ihr => exact ihl.or (ihr.enclose ihr.conjunction_of_isOr)

/-! ## The reader finds every derivation -/

section Complete

variable (outer : List (Pending α)) (q : Pending α) (x : Formula α) {rest : List (Token α)}

/-- A pending "and" binds before anything that can follow. -/
theorem readOperator_conjoin :
    readOperator outer q x rest
      = readOperator outer { disjunct := q.disjunct } (q.conjoin x) rest := by
  rcases rest with _ | ⟨t, rest⟩
  · rfl
  · cases t <;> rfl

/-- A pending "or" binds before anything that can follow but an "and". -/
theorem readOperator_finish (h : rest.head? ≠ some .and) :
    readOperator outer q x rest = readOperator outer {} (q.finish x) rest := by
  rcases rest with _ | ⟨t, rest⟩
  · rfl
  · cases t with
    | and => exact absurd rfl h
    | _ => rfl

end Complete

/-- What it takes for the reader to get from some tokens to the formula they stand for.
An operand may be read under anything pending, a conjunction only where no "and" is
pending, and a disjunction only where nothing is and no "and" follows. -/
def Reads : Level → Formula α → List (Token α) → Prop
  | .operand, p, ts => ∀ outer q rest,
      readOperand outer q (ts ++ rest) = readOperator outer q p rest
  | .conjunction, p, ts => ∀ outer d rest,
      readOperand outer { disjunct := d } (ts ++ rest)
        = readOperator outer { disjunct := d } p rest
  | .disjunction, p, ts => ∀ outer rest, rest.head? ≠ some .and →
      readOperand outer {} (ts ++ rest) = readOperator outer {} p rest

theorem Derives.reads {k : Level} {p : Formula α} {ts : List (Token α)} (h : Derives k p ts) :
    Reads k p ts := by
  induction h with
  | atom a =>
    intro outer q rest
    rfl
  | @enclosed p ts _ ih =>
    intro outer q rest
    show readOperand (q :: outer) {} (ts ++ [.closing] ++ rest) = _
    rw [List.append_assoc]
    exact ih (q :: outer) (.closing :: rest) (by simp)
  | conjunction _ ih =>
    intro outer d rest
    exact ih outer { disjunct := d } rest
  | @and l r ts us _ _ ihl ihr =>
    intro outer d rest
    rw [List.append_assoc, ihl outer d (.and :: us ++ rest)]
    show readOperand outer ⟨d, some l⟩ (us ++ rest) = _
    rw [ihr, readOperator_conjoin]
    rfl
  | disjunction _ ih =>
    intro outer rest _
    exact ih outer none rest
  | @or l r ts us _ _ ihl ihr =>
    intro outer rest hrest
    rw [List.append_assoc, ihl outer (.or :: us ++ rest) (by simp)]
    show readOperand outer ⟨some l, none⟩ (us ++ rest) = _
    rw [ihr, readOperator_finish outer _ r hrest]
    rfl

/-- What some tokens stand for, the reader returns. -/
theorem Derives.ofTokens?_eq {p : Formula α} {ts : List (Token α)}
    (h : Derives .disjunction p ts) : ofTokens? ts = some p := by
  have hreads := h.reads [] [] (by simp)
  rw [List.append_nil] at hreads
  exact hreads

/-! ## The reader finds nothing else -/

/-- The tokens read so far between one pair of parentheses, with what they leave pending. -/
inductive Pending.Holds : Pending α → List (Token α) → Prop where
  | nothing : Holds {} []
  | conjunct {m : Formula α} {us : List (Token α)} :
      Derives .conjunction m us → Holds { conjunct := some m } (us ++ [.and])
  | disjunct {l : Formula α} {ts : List (Token α)} :
      Derives .disjunction l ts → Holds { disjunct := some l } (ts ++ [.or])
  | both {l m : Formula α} {ts us : List (Token α)} :
      Derives .disjunction l ts → Derives .conjunction m us →
        Holds { disjunct := some l, conjunct := some m } (ts ++ [.or] ++ (us ++ [.and]))

/-- The tokens read before the innermost open parenthesis, and that one. -/
inductive Opened : List (Pending α) → List (Token α) → Prop where
  | nil : Opened [] []
  | cons {outer : List (Pending α)} {q : Pending α} {ts us : List (Token α)} :
      Opened outer ts → q.Holds us → Opened (q :: outer) (ts ++ us ++ [.opening])

namespace Pending.Holds

variable {q : Pending α} {x : Formula α} {ts us : List (Token α)}

/-- With its right operand, a pending "and" becomes a conjunction. -/
theorem conjoin (hq : q.Holds ts) (hx : Derives .operand x us) :
    ∃ before conj, ts ++ us = before ++ conj ∧ Derives .conjunction (q.conjoin x) conj ∧
      Pending.Holds { disjunct := q.disjunct } before := by
  cases hq with
  | nothing => exact ⟨[], us, rfl, hx.conjunction, .nothing⟩
  | @conjunct m vs hm => exact ⟨[], vs ++ .and :: us, by simp, hm.and hx, .nothing⟩
  | @disjunct l ts hl => exact ⟨ts ++ [.or], us, rfl, hx.conjunction, .disjunct hl⟩
  | @both l m ts vs hl hm =>
    exact ⟨ts ++ [.or], vs ++ .and :: us, by simp, hm.and hx, .disjunct hl⟩

/-- An "and" leaves the conjunction before it pending. -/
theorem and (hq : q.Holds ts) (hx : Derives .operand x us) :
    Pending.Holds { disjunct := q.disjunct, conjunct := some (q.conjoin x) }
      (ts ++ us ++ [.and]) := by
  obtain ⟨before, conj, hsplit, hconj, hbefore⟩ := hq.conjoin hx
  rw [hsplit, List.append_assoc]
  obtain ⟨d, c⟩ := q
  cases hbefore with
  | nothing => exact .conjunct hconj
  | disjunct hl => exact .both hl hconj

/-- With its right operand, all that is pending becomes a disjunction. -/
theorem finish (hq : q.Holds ts) (hx : Derives .operand x us) :
    Derives .disjunction (q.finish x) (ts ++ us) := by
  obtain ⟨before, conj, hsplit, hconj, hbefore⟩ := hq.conjoin hx
  rw [hsplit]
  obtain ⟨d, c⟩ := q
  cases hbefore with
  | nothing => exact hconj.disjunction
  | @disjunct l ts hl =>
    rw [List.append_assoc]
    exact hl.or hconj

end Pending.Holds

/-- Reading on keeps in step with the grammar: the tokens before, together with the rest,
derive the result.  The induction is on the rest, for both states of the reader at once. -/
theorem derives_of_read {p : Formula α} (rest : List (Token α)) :
    (∀ {outer q ts us}, Opened outer ts → q.Holds us →
      readOperand outer q rest = some p → Derives .disjunction p (ts ++ us ++ rest)) ∧
    (∀ {outer q x ts us vs}, Opened outer ts → q.Holds us → Derives .operand x vs →
      readOperator outer q x rest = some p →
        Derives .disjunction p (ts ++ us ++ vs ++ rest)) := by
  induction rest with
  | nil =>
    constructor
    · intro outer q ts us _ _ h
      cases h
    · intro outer q x ts us vs houter hq hx h
      cases houter with
      | cons => cases h
      | nil =>
        obtain rfl : q.finish x = p := Option.some.inj h
        simpa using hq.finish hx
  | cons t rest ih =>
    obtain ⟨ihOperand, ihOperator⟩ := ih
    constructor
    · intro outer q ts us houter hq h
      cases t with
      | atom a => simpa using ihOperator houter hq (.atom a) h
      | opening => simpa using ihOperand (houter.cons hq) .nothing h
      | and | or | closing => cases h
    · intro outer q x ts us vs houter hq hx h
      cases t with
      | atom | opening => cases h
      | and => simpa using ihOperand houter (hq.and hx) h
      | or => simpa using ihOperand houter (.disjunct (hq.finish hx)) h
      | closing =>
        cases houter with
        | nil => cases h
        | cons houter hq' => simpa using ihOperator houter hq' (hq.finish hx).enclosed h

theorem derives_of_ofTokens? {p : Formula α} {ts : List (Token α)} (h : ofTokens? ts = some p) :
    Derives .disjunction p ts :=
  (derives_of_read ts).1 .nil .nothing h

/-- The reader decides the grammar. -/
theorem ofTokens?_eq_some_iff {p : Formula α} {ts : List (Token α)} :
    ofTokens? ts = some p ↔ Derives .disjunction p ts :=
  ⟨derives_of_ofTokens?, Derives.ofTokens?_eq⟩

example : ofTokens? [.atom 0, .or, .atom 1, .and, .atom 2, .or, .atom 3]
    = some (.or (.or (.atom 0) (.and (.atom 1) (.atom 2))) (.atom 3)) := by decide

/-! ## The tokens of a formula -/

theorem ofTokens?_tokens (p : Formula α) : ofTokens? p.tokens = some p :=
  (derives_tokens p).ofTokens?_eq

theorem tokens_injective : Function.Injective (tokens : Formula α → List (Token α)) := by
  intro p q h
  have hread := ofTokens?_tokens p
  rw [h, ofTokens?_tokens q] at hread
  exact (Option.some.inj hread).symm

/-- Parentheses add no leaf. -/
theorem filterMap_leaf?_enclose (needed : Bool) (ts : List (Token α)) :
    (enclose needed ts).filterMap Token.leaf? = ts.filterMap Token.leaf? := by
  cases needed <;> simp [enclose, List.filterMap_cons, Token.leaf?]

/-- The leaves stand in the order of the atoms. -/
theorem filterMap_leaf?_tokens (p : Formula α) : p.tokens.filterMap Token.leaf? = p.atoms := by
  induction p with
  | atom a => rfl
  | and l r ihl ihr =>
    simp [tokens, List.filterMap_cons, filterMap_leaf?_enclose, ihl, ihr, Token.leaf?]
  | or l r ihl ihr =>
    simp [tokens, List.filterMap_cons, filterMap_leaf?_enclose, ihl, ihr, Token.leaf?]

end Formula

namespace Predicate

/-- The predicate with every leaf replaced by its text. -/
def spelled (p : Predicate) : Formula String := p.map Atom.render

/-- How a predicate is written between its operators: a comparison as its path, its symbol and its
operand; "and" and "or" between their sides; and in parentheses what is an "or" in an "and", what
is an "or" on the right of an "or", and what is no leaf on the right of an "and". -/
inductive IsInfix : Predicate → String → Prop where
  | true : IsInfix (literal true) "true"
  | false : IsInfix (literal false) "false"
  | compare (c : Comparison) :
      IsInfix (compare c) (c.path ++ " " ++ c.operator.symbol ++ " " ++ c.operand.render)
  | and {l r : Predicate} {s t : String} : IsInfix l s → IsInfix r t →
      IsInfix (.and l r)
        (Formula.parenthesize l.isOr s ++ " AND " ++ Formula.parenthesize (!r.isAtom) t)
  | or {l r : Predicate} {s t : String} : IsInfix l s → IsInfix r t →
      IsInfix (.or l r) (s ++ " OR " ++ Formula.parenthesize r.isOr t)

/-- A predicate is written in one way. -/
theorem isInfix_iff {p : Predicate} {text : String} : p.IsInfix text ↔ text = p.render := by
  constructor
  · intro h
    induction h with
    | true => exact (render_literal Bool.true).symm
    | false => exact (render_literal Bool.false).symm
    | compare c => exact (render_compare c).symm
    | and _ _ ihl ihr => rw [render_and, ihl, ihr]
    | or _ _ ihl ihr => rw [render_or, ihl, ihr]
  · rintro rfl
    induction p with
    | atom a =>
      cases a with
      | literal value =>
        cases value with
        | false => exact .false
        | true => exact .true
      | compare c =>
        have h := IsInfix.compare c
        rwa [← render_compare] at h
    | and l r ihl ihr =>
      rw [render_and]
      exact .and ihl ihr
    | or l r ihl ihr =>
      rw [render_or]
      exact .or ihl ihr

/-- Rendering is faithful.  The text is the predicate between its operators.  It is also what the
tokens of the predicate with every leaf replaced by its text are written as; these tokens derive
that formula and no other, the reader returns it, and the leaves stand in the order of the
predicate, the comparisons among them in the order of `comparisons`.  Two predicates with the same
tokens therefore differ only in leaves of the same text. -/
theorem render_faithful (p : Predicate) :
    (∀ text, p.IsInfix text ↔ text = p.render) ∧
    (∀ text, Token.Writes p.spelled.tokens text ↔ text = p.render) ∧
    (∀ q, Formula.Derives .disjunction q p.spelled.tokens ↔ q = p.spelled) ∧
    Formula.ofTokens? p.spelled.tokens = some p.spelled ∧
    p.spelled.tokens.filterMap Token.leaf? = p.atoms.map Atom.render ∧
    p.comparisons = p.atoms.filterMap Atom.comparison? ∧
    ∀ p' : Predicate, p'.spelled.tokens = p.spelled.tokens ↔ p'.spelled = p.spelled := by
  refine ⟨fun _ ↦ isInfix_iff, fun _ ↦ Token.writes_iff, ?_, Formula.ofTokens?_tokens _, ?_, rfl,
    ?_⟩
  · intro q
    rw [← Formula.ofTokens?_eq_some_iff, Formula.ofTokens?_tokens, Option.some.injEq]
    exact eq_comm
  · rw [Formula.filterMap_leaf?_tokens, spelled, Formula.atoms_map]
  · intro p'
    exact Formula.tokens_injective.eq_iff

end Predicate

end RecordFilter
