import RecordFilter.Proofs.Compile.Descriptors
import RecordFilter.Proofs.Schema.Resolving

/-!
# Lowering interprets a predicate

A predicate is lowered by lowering its comparisons, one after the other from the
left (`Formula.traverse_atoms`).  So whether it can be lowered, and which error
there is if it cannot, depends on the list of its comparisons alone and not on
the connectives between them: an operand that no record ever reaches has to be
right as well.  What a record is worth to the compiled predicate is the truth of
the tree (`Predicate.truth`), every comparison being worth what it is worth on
its own.
-/

namespace RecordFilter

namespace Formula

variable {ε : Type} {α β : Type}

/-- A traversal goes through the atoms from left to right. -/
theorem traverse_atoms (f : α → Except ε β) (p : Formula α) :
    p.atoms.mapM f = (p.traverse f).map atoms := by
  induction p with
  | atom a =>
    rw [atoms_atom, List.mapM_cons, List.mapM_nil, traverse]
    cases f a <;> rfl
  | and l r ihl ihr =>
    rw [atoms_and, List.mapM_append, ihl, ihr, traverse]
    cases l.traverse f with
    | error e => rfl
    | ok l' => cases r.traverse f <;> rfl
  | or l r ihl ihr =>
    rw [atoms_or, List.mapM_append, ihl, ihr, traverse]
    cases l.traverse f with
    | error e => rfl
    | ok l' => cases r.traverse f <;> rfl

end Formula

/-! ## The truth of a tree -/

namespace Predicate

/-- The truth of a predicate, given that of its comparisons. -/
def truth (holds : Comparison → Bool) : Predicate → Bool
  | .atom (.literal value) => value
  | .atom (.compare k) => holds k
  | .and l r => truth holds l && truth holds r
  | .or l r => truth holds l || truth holds r

/-- The truth of a predicate is that of the formula. -/
theorem truth_eq_eval {holds : Comparison → Bool} {v : Atom → Bool}
    (hliteral : ∀ value, v (.literal value) = value) (hcompare : ∀ k, v (.compare k) = holds k)
    (p : Predicate) : truth holds p = p.eval v := by
  induction p with
  | atom a =>
    cases a with
    | literal value => exact (hliteral value).symm
    | compare k => exact (hcompare k).symm
  | and l r ihl ihr => rw [truth, ihl, ihr, Formula.eval_and]
  | or l r ihl ihr => rw [truth, ihl, ihr, Formula.eval_or]

end Predicate

namespace Schema

variable {ρ : Type} {s : Schema ρ} {p : Predicate} {k : Comparison}

/-! ## Comparisons on their own -/

/-- A comparison on its own is lowered to its test. -/
theorem lower_compare (s : Schema ρ) (k : Comparison) :
    s.lower (.compare k) = (s.atomTest (.compare k)).map fun test ↦ ⟨.compare k, test⟩ := by
  rw [lower, Predicate.compare, Formula.traverse]
  cases s.atomTest (.compare k) <;> rfl

theorem exists_lower_compare_iff :
    (∃ c, s.lower (.compare k) = .ok c) ↔ ∃ test, s.atomTest (.compare k) = .ok test := by
  simp only [lower_compare, map_eq_ok_iff]
  exact ⟨fun ⟨_, test, htest, _⟩ ↦ ⟨test, htest⟩, fun ⟨test, htest⟩ ↦ ⟨_, test, htest, rfl⟩⟩

theorem lower_compare_eq_error_iff {e : FilterError} :
    s.lower (.compare k) = .error e ↔ s.atomTest (.compare k) = .error e := by
  rw [lower_compare, map_eq_error_iff]

/-- Whether a comparison, lowered on its own, accepts a record; none, if it cannot be lowered. -/
def acceptsAlone (s : Schema ρ) (r : ρ) (k : Comparison) : Bool :=
  match s.lower (.compare k) with
  | .ok c => c.accepts r
  | .error _ => false

theorem acceptsAlone_eq_atomHolds (s : Schema ρ) (r : ρ) (k : Comparison) :
    s.acceptsAlone r k = s.atomHolds r (.compare k) := by
  rw [acceptsAlone, lower_compare, atomHolds]
  cases s.atomTest (.compare k) <;> rfl

/-! ## Trees -/

/-- Only comparisons can fail to be lowered. -/
theorem exists_lower_iff :
    (∃ c, s.lower p = .ok c) ↔ ∀ k ∈ p.comparisons, ∃ c, s.lower (.compare k) = .ok c := by
  simp only [exists_lower_compare_iff, Predicate.comparisons, List.mem_filterMap]
  rw [exists_lower_eq_ok_iff]
  constructor
  · rintro h k ⟨a, ha, hak⟩
    cases a with
    | literal value => cases hak
    | compare k' =>
      cases hak
      exact h _ ha
  · intro h a ha
    cases a with
    | literal value => exact ⟨_, rfl⟩
    | compare k => exact h k ⟨_, ha, rfl⟩

/-- Every comparison of a predicate that can be lowered can be lowered on its own. -/
theorem exists_lower_compare {c : Compiled ρ} (h : s.lower p = .ok c) (hk : k ∈ p.comparisons) :
    ∃ alone, s.lower (.compare k) = .ok alone := exists_lower_iff.mp ⟨c, h⟩ k hk

/-- The tests of atoms fail as those of the comparisons among them do: truth values have a test. -/
theorem mapM_atomTest_eq_error_iff {e : FilterError} (atoms : List Atom) :
    atoms.mapM s.atomTest = .error e ↔
      (atoms.filterMap Atom.comparison?).mapM (fun k ↦ s.lower (.compare k)) = .error e := by
  induction atoms with
  | nil => exact ⟨nofun, nofun⟩
  | cons a atoms ih =>
    rw [mapM_cons_eq_error_iff, ih]
    cases a with
    | literal value =>
      rw [List.filterMap_cons_none rfl]
      exact ⟨fun h ↦ h.elim nofun And.right, fun h ↦ .inr ⟨⟨_, rfl⟩, h⟩⟩
    | compare k =>
      have hcons : (Atom.compare k :: atoms).filterMap Atom.comparison?
          = k :: atoms.filterMap Atom.comparison? := rfl
      rw [hcons, mapM_cons_eq_error_iff, lower_compare_eq_error_iff, exists_lower_compare_iff]

/-- A predicate that cannot be lowered has the error of its leftmost comparison that cannot. -/
theorem lower_eq_error_iff {e : FilterError} :
    s.lower p = .error e ↔ ∃ before k after, p.comparisons = before ++ k :: after ∧
      (∀ k' ∈ before, ∃ c, s.lower (.compare k') = .ok c) ∧ s.lower (.compare k) = .error e := by
  have htraverse : s.lower p = .error e ↔ p.atoms.mapM s.atomTest = .error e := by
    rw [Formula.traverse_atoms, map_eq_error_iff, lower]
    cases p.traverse s.atomTest with
    | error e' => simp [bind, Except.bind]
    | ok tests => exact ⟨nofun, nofun⟩
  rw [htraverse, mapM_atomTest_eq_error_iff, mapM_eq_error_iff]
  rfl

/-- A compiled predicate accepts the records for which the tree is true. -/
theorem accepts_eq_truth {c : Compiled ρ} (h : s.lower p = .ok c) (r : ρ) :
    c.accepts r = p.truth (s.acceptsAlone r) := by
  rw [(lower_eq_ok h).2 r]
  exact (Predicate.truth_eq_eval (s.atomHolds_literal r)
    (fun k ↦ (s.acceptsAlone_eq_atomHolds r k).symm) p).symm

/-! ## Compiled predicates -/

/-- What a schema compiles: the predicate that always holds, any predicate that it lowers, and what
it makes of descriptors and queries, with a memory of paths or without. -/
inductive Compiles (s : Schema ρ) : Compiled ρ → Prop where
  | always : Compiles s .always
  | lower {p : Predicate} {c : Compiled ρ} (h : s.lower p = .ok c) : Compiles s c
  | compile {o : CompileOptions} {ds : List Descriptor} {c : Compiled ρ}
      (h : s.compile o ds = .ok c) : Compiles s c
  | build {o : CompileOptions} {query : String} {c : Compiled ρ}
      (h : s.build o query = .ok c) : Compiles s c
  | compileWith {r : Resolver ρ} (hr : r.Serves s) {o : CompileOptions} {ds : List Descriptor}
      {c : Compiled ρ} (h : (r.compile o ds).1 = .ok c) : Compiles s c
  | buildWith {r : Resolver ρ} (hr : r.Serves s) {o : CompileOptions} {query : String}
      {c : Compiled ρ} (h : (r.build o query).1 = .ok c) : Compiles s c

theorem exists_lower_of_compile {o : CompileOptions} {ds : List Descriptor} {c : Compiled ρ}
    (h : s.compile o ds = .ok c) : ∃ p, s.lower p = .ok c := by
  obtain ⟨conditions, -, hc⟩ := compile_eq_ok_iff.mp h
  exact ⟨_, hc⟩

theorem exists_lower_of_build {o : CompileOptions} {query : String} {c : Compiled ρ}
    (h : s.build o query = .ok c) : ∃ p, s.lower p = .ok c := by
  obtain ⟨found, -, hc⟩ := bind_eq_ok_iff.mp h
  exact exists_lower_of_compile hc

/-- Whatever a schema compiles is a predicate that has been lowered. -/
theorem Compiles.exists_lower {c : Compiled ρ} (h : s.Compiles c) : ∃ p, s.lower p = .ok c := by
  cases h with
  | always => exact ⟨.always, rfl⟩
  | lower h => exact ⟨_, h⟩
  | compile h => exact exists_lower_of_compile h
  | build h => exact exists_lower_of_build h
  | compileWith hr h => exact exists_lower_of_compile ((hr.compile _ _).1 ▸ h)
  | buildWith hr h => exact exists_lower_of_build ((hr.build _ _).1 ▸ h)

/-- The expression of a compiled predicate is lowered to it. -/
theorem Compiles.lower_expression {c : Compiled ρ} (h : s.Compiles c) :
    s.lower c.expression = .ok c := by
  obtain ⟨p, hp⟩ := h.exists_lower
  rwa [(lower_eq_ok hp).1]

/-- A filter is what its own expression is lowered to. -/
theorem lower_expression {o : CompileOptions} {ds : List Descriptor} {c : Compiled ρ}
    (h : s.compile o ds = .ok c) : s.lower c.expression = .ok c :=
  (Compiles.compile h).lower_expression

/-- Lowering interprets any predicate.  It succeeds if and only if every comparison can be lowered
on its own; if some cannot, the error is that of the first of them, whether the tree is ever
evaluated as far as there or not.  A record is accepted if and only if the tree is true for it, a
comparison being true if the record is accepted by it alone.  So what a schema has compiled, from
whatever it was made, is what the schema lowers its expression to. -/
theorem lower_interprets (s : Schema ρ) :
    (∀ p, ((∃ c, s.lower p = .ok c) ↔
        ∀ k ∈ p.comparisons, ∃ c, s.lower (.compare k) = .ok c) ∧
      (∀ e, s.lower p = .error e ↔ ∃ before k after, p.comparisons = before ++ k :: after ∧
        (∀ k' ∈ before, ∃ c, s.lower (.compare k') = .ok c) ∧
        s.lower (.compare k) = .error e) ∧
      ∀ c, s.lower p = .ok c → c.expression = p ∧
        ∀ r, c.accepts r = p.truth (s.acceptsAlone r)) ∧
    ∀ c, s.Compiles c → s.lower c.expression = .ok c := by
  refine ⟨fun p ↦ ⟨exists_lower_iff, fun e ↦ lower_eq_error_iff, fun c hc ↦ ?_⟩,
    fun c hc ↦ hc.lower_expression⟩
  exact ⟨(lower_eq_ok hc).1, accepts_eq_truth hc⟩

/-- A schema of one field, which is a truth value. -/
def switch : Schema Bool := .ofRegistrations "Switch" [.scalar "on" id]

/-- The comparison of the field with the truth value true. -/
def isOn : Comparison := ⟨"on", .equal, .scalar .boolean, .single (.bool true)⟩

/-- A comparison of a property that the schema does not have. -/
def isMissing : Comparison := ⟨"off", .equal, .scalar .boolean, .single (.bool true)⟩

/-- A disjunction that is true before its last comparison is reached. -/
def decided : Predicate :=
  .or (Predicate.literal true) (.and (Predicate.compare isOn) (Predicate.compare isMissing))

/-- A disjunction that a record decides. -/
def undecided : Predicate := .or (Predicate.literal false) (Predicate.compare isOn)

theorem lower_interprets_switch :
    switch.lower decided = .error (.propertyNotFound "Switch" "off" "off" none) ∧
      ∃ c, switch.lower undecided = .ok c ∧ c.accepts true = true ∧ c.accepts false = false ∧
        switch.lower c.expression = .ok c := by
  obtain ⟨htrees, hcompiled⟩ := lower_interprets switch
  have halone : ∀ k ∈ [isOn], ∃ c, switch.lower (.compare k) = .ok c := by
    rintro k hk
    obtain rfl := List.mem_singleton.mp hk
    exact ⟨_, rfl⟩
  constructor
  · obtain ⟨-, herror, -⟩ := htrees decided
    exact (herror _).mpr ⟨[isOn], isMissing, [], rfl, halone, rfl⟩
  · obtain ⟨hsome, -, haccepts⟩ := htrees undecided
    obtain ⟨c, hc⟩ := hsome.mpr halone
    obtain ⟨-, htruth⟩ := haccepts c hc
    exact ⟨c, hc, (htruth true).trans rfl, (htruth false).trans rfl, hcompiled c (.lower hc)⟩

end Schema

end RecordFilter
