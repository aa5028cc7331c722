import RecordFilter.Proofs.Outcome
import RecordFilter.Schema.Compile

/-!
# Lowering a predicate

`Schema.lower` replaces every atom of a predicate by a test of records and runs
the tests under the connectives of the predicate.  This file says both halves
without the traversal: lowering succeeds exactly when every atom has a test, and
what it gives then is the truth of the formula under `Schema.atomHolds`, the
truth of a single atom.  Nothing is left out and nothing is reordered, so what
is proved about formulas carries over to compiled predicates.
-/

namespace RecordFilter

universe u v

namespace Formula

variable {ε : Type} {α : Type u} {β : Type v}

/-! ## Replacing atoms by results -/

theorem traverse_and_eq_ok_iff {f : α → Except ε β} {l r : Formula α} {q : Formula β} :
    (and l r).traverse f = .ok q ↔
      ∃ l' r', l.traverse f = .ok l' ∧ r.traverse f = .ok r' ∧ q = and l' r' := by
  cases hl : l.traverse f with
  | error e => simp [traverse, bind, Except.bind, hl]
  | ok l' =>
    cases hr : r.traverse f <;>
      simp [traverse, bind, Except.bind, pure, Except.pure, hl, hr, eq_comm]

theorem traverse_or_eq_ok_iff {f : α → Except ε β} {l r : Formula α} {q : Formula β} :
    (or l r).traverse f = .ok q ↔
      ∃ l' r', l.traverse f = .ok l' ∧ r.traverse f = .ok r' ∧ q = or l' r' := by
  cases hl : l.traverse f with
  | error e => simp [traverse, bind, Except.bind, hl]
  | ok l' =>
    cases hr : r.traverse f <;>
      simp [traverse, bind, Except.bind, pure, Except.pure, hl, hr, eq_comm]

/-- A traversal succeeds with `q` exactly when `q` has the results in the places
of the atoms. -/
theorem traverse_eq_ok_iff {f : α → Except ε β} {p : Formula α} {q : Formula β} :
    p.traverse f = .ok q ↔ p.map f = q.map Except.ok := by
  induction p generalizing q with
  | atom a => cases q <;> simp [traverse, map, map_eq_ok_iff]
  | and l r ihl ihr =>
    rw [traverse_and_eq_ok_iff]
    cases q <;> simp [map, ihl, ihr]
  | or l r ihl ihr =>
    rw [traverse_or_eq_ok_iff]
    cases q <;> simp [map, ihl, ihr]

/-- A traversal succeeds exactly when every atom has a result. -/
theorem exists_traverse_eq_ok_iff {f : α → Except ε β} {p : Formula α} :
    (∃ q, p.traverse f = .ok q) ↔ ∀ a ∈ p.atoms, ∃ b, f a = .ok b := by
  induction p with
  | atom a =>
    simp only [traverse, map_eq_ok_iff, atoms_atom, List.mem_singleton, forall_eq]
    constructor
    · rintro ⟨_, b, hb, _⟩
      exact ⟨b, hb⟩
    · rintro ⟨b, hb⟩
      exact ⟨atom b, b, hb, rfl⟩
  | and l r ihl ihr =>
    simp only [traverse_and_eq_ok_iff, atoms_and, List.forall_mem_append, ← ihl, ← ihr]
    constructor
    · rintro ⟨_, l', r', hl, hr, _⟩
      exact ⟨⟨l', hl⟩, ⟨r', hr⟩⟩
    · rintro ⟨⟨l', hl⟩, ⟨r', hr⟩⟩
      exact ⟨_, l', r', hl, hr, rfl⟩
  | or l r ihl ihr =>
    simp only [traverse_or_eq_ok_iff, atoms_or, List.forall_mem_append, ← ihl, ← ihr]
    constructor
    · rintro ⟨_, l', r', hl, hr, _⟩
      exact ⟨⟨l', hl⟩, ⟨r', hr⟩⟩
    · rintro ⟨⟨l', hl⟩, ⟨r', hr⟩⟩
      exact ⟨_, l', r', hl, hr, rfl⟩

/-- A traversal fails with the error of one of the atoms. -/
theorem exists_of_traverse_eq_error {f : α → Except ε β} {p : Formula α} {e : ε}
    (h : p.traverse f = .error e) : ∃ a, f a = .error e := by
  induction p with
  | atom a => exact ⟨a, map_eq_error_iff.mp h⟩
  | and l r ihl ihr | or l r ihl ihr =>
    rcases bind_eq_error_iff.mp h with hl | ⟨l', -, h⟩
    · exact ihl hl
    · rcases bind_eq_error_iff.mp h with hr | ⟨r', -, h⟩
      · exact ihr hr
      · cases h

/-! ## Conjunctions -/

/-- A conjunction holds when all its parts do, and one of no parts always. -/
theorem eval_all (v : α → Bool) {unit : α} (hunit : v unit = true) (ps : List (Formula α)) :
    (all unit ps).eval v = ps.all (·.eval v) := by
  have hfold : ∀ (p : Formula α) (ps : List (Formula α)),
      (ps.foldl and p).eval v = (p.eval v && ps.all (·.eval v)) := by
    intro p ps
    induction ps generalizing p with
    | nil => simp
    | cons q ps ih => simp [ih, Bool.and_assoc]
  cases ps with
  | nil => simp [all, hunit]
  | cons p ps => simp [all, hfold]

/-- A conjunction of one part or more has the atoms of its parts, in order. -/
theorem atoms_all (unit : α) {ps : List (Formula α)} (h : ps ≠ []) :
    (all unit ps).atoms = ps.flatMap atoms := by
  have hfold : ∀ (p : Formula α) (ps : List (Formula α)),
      (ps.foldl and p).atoms = p.atoms ++ ps.flatMap atoms := by
    intro p ps
    induction ps generalizing p with
    | nil => simp
    | cons q ps ih => simp [ih, List.append_assoc]
  cases ps with
  | nil => exact absurd rfl h
  | cons p ps => simp [all, hfold]

end Formula

namespace Schema

variable {ρ : Type}

/-! ## The truth of an atom -/

/-- Whether a record satisfies an atom; none does where the atom has no test. -/
def atomHolds (s : Schema ρ) (r : ρ) (a : Atom) : Bool :=
  match s.atomTest a with
  | .ok test => test r
  | .error _ => false

@[simp] theorem atomHolds_literal (s : Schema ρ) (r : ρ) (value : Bool) :
    s.atomHolds r (.literal value) = value := rfl

theorem atomHolds_of_atomTest {s : Schema ρ} {a : Atom} {test : ρ → Bool}
    (h : s.atomTest a = .ok test) (r : ρ) : s.atomHolds r a = test r := by
  simp [atomHolds, h]

/-! ## The compiled predicate -/

/-- What lowering gives keeps the predicate as its expression and accepts the
records that satisfy it. -/
theorem lower_eq_ok {s : Schema ρ} {p : Predicate} {c : Compiled ρ} (h : s.lower p = .ok c) :
    c.expression = p ∧ ∀ r, c.accepts r = p.eval (s.atomHolds r) := by
  obtain ⟨tests, htests, hc⟩ := bind_eq_ok_iff.mp h
  cases hc
  refine ⟨rfl, fun r ↦ ?_⟩
  let run : Except FilterError (ρ → Bool) → Bool
    | .ok test => test r
    | .error _ => false
  -- the tests are the results of `atomTest` in the places of the atoms
  calc
    tests.eval (fun test ↦ test r) = (tests.map Except.ok).eval run := by
      rw [Formula.eval_map]; rfl
    _ = (p.map s.atomTest).eval run := by rw [Formula.traverse_eq_ok_iff.mp htests]
    _ = p.eval (s.atomHolds r) := by rw [Formula.eval_map]; rfl

/-- A predicate can be lowered exactly when all its atoms have a test. -/
theorem exists_lower_eq_ok_iff {s : Schema ρ} {p : Predicate} :
    (∃ c, s.lower p = .ok c) ↔ ∀ a ∈ p.atoms, ∃ test, s.atomTest a = .ok test := by
  rw [← Formula.exists_traverse_eq_ok_iff]
  constructor
  · rintro ⟨c, h⟩
    obtain ⟨tests, htests, _⟩ := bind_eq_ok_iff.mp h
    exact ⟨tests, htests⟩
  · rintro ⟨tests, htests⟩
    exact ⟨_, bind_eq_ok_iff.mpr ⟨tests, htests, rfl⟩⟩

end Schema

end RecordFilter
