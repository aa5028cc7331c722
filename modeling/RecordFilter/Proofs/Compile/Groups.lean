import Mathlib.Data.List.Forall2
import Mathlib.Data.List.SplitBy
import RecordFilter.Proofs.Compile.Descriptors

/-!
# Compilation is compositional

What a list of descriptors means can be said without predicates.  Each
descriptor is compiled on its own, without its connective, and run on the
record; the truth values are then cut into groups and folded.  This file has
that reading (`Verdict.holds`) and shows that compiling the list gives nothing
else: a record is accepted exactly when the reading says so, and the comparisons
of the predicate are those of the descriptors, one each and in their order.

The grouping is stated with `List.splitBy`, on neighbours only, while
`groupsFrom` carries a path and a growing predicate along.  The two meet in
`map_groupsFrom`, whose invariant is that the group so far is a chain with the
truth of the growing predicate.
-/

namespace RecordFilter

/-! ## The reading of verdicts -/

/-- What is known of a descriptor and a record: the connective of the descriptor,
the path it resolves to and the truth of the descriptor on its own. -/
structure Verdict where
  connective : Option Connective
  path : String
  truth : Bool
deriving DecidableEq, Repr

namespace Verdict

/-- Whether a verdict continues the group of the one before it. -/
def joins (before v : Verdict) : Bool := v.connective.isSome && before.path == v.path

/-- A truth value combined with the next one by the connective of the latter. -/
def step (truth : Bool) (v : Verdict) : Bool :=
  match v.connective with
  | some connective => connective.apply truth v.truth
  | none => v.truth

/-- The truth of a group, folded strictly from the left. -/
def fold : List Verdict → Bool
  | [] => true
  | v :: vs => vs.foldl step v.truth

/-- The conjunction of the groups. -/
def holds (vs : List Verdict) : Bool := (vs.splitBy joins).all fold

theorem fold_append_singleton {vs : List Verdict} (h : vs ≠ []) (v : Verdict) :
    fold (vs ++ [v]) = step (fold vs) v := by
  cases vs with
  | nil => exact absurd rfl h
  | cons w vs => simp [fold]

theorem isChain_append_singleton {vs : List Verdict} {v : Verdict}
    (hvs : vs.IsChain fun a b ↦ joins a b) (hv : ∀ a ∈ vs.getLast?, joins a v) :
    (vs ++ [v]).IsChain fun a b ↦ joins a b := by
  refine List.isChain_append.mpr ⟨hvs, List.isChain_singleton v, ?_⟩
  intro a ha b hb
  obtain rfl : v = b := by simpa using hb
  exact hv a ha

end Verdict

open Verdict (joins fold holds)

/-! ## Groups of conditions -/

/-- The verdict of a condition under a valuation of atoms. -/
def Condition.verdict (v : Atom → Bool) (c : Condition) : Verdict :=
  ⟨c.connective, c.path, c.predicate.eval v⟩

theorem Connective.eval_join (k : Connective) (v : Atom → Bool) (p q : Predicate) :
    (k.join p q).eval v = k.apply (p.eval v) (q.eval v) := by
  cases k <;> rfl

theorem Connective.atoms_join (k : Connective) (p q : Predicate) :
    (k.join p q).atoms = p.atoms ++ q.atoms := by
  cases k <;> rfl

/-- The truth of the groups that `groupsFrom` gives.  The invariant is that `done`, the
verdicts of the group so far, is a chain on the path with the truth of the growing
predicate. -/
theorem map_groupsFrom {v : Atom → Bool} {path : String} {current : Predicate}
    {cs : List Condition} (done : List Verdict) (hne : done ≠ [])
    (hchain : done.IsChain fun a b ↦ joins a b) (hpath : ∀ a ∈ done.getLast?, a.path = path)
    (htruth : fold done = current.eval v) :
    (groupsFrom path current cs).map (·.eval v)
      = ((done ++ cs.map (Condition.verdict v)).splitBy joins).map fold := by
  induction cs generalizing path current done with
  | nil =>
    rw [List.map_nil, List.append_nil, List.splitBy_of_isChain hne hchain]
    simp [groupsFrom, htruth]
  | cons c cs ih =>
    have hopen : (∀ a ∈ done.getLast?, joins a (c.verdict v) = false) →
        (current :: groupsFrom c.path c.predicate cs).map (·.eval v)
          = ((done ++ (c :: cs).map (Condition.verdict v)).splitBy joins).map fold := by
      intro hc
      rw [List.map_cons, List.map_cons, List.splitBy_append_cons _ hc,
        List.splitBy_of_isChain hne hchain,
        ih [c.verdict v] (by simp) (List.isChain_singleton _)
          (by simp [Condition.verdict]) (by simp [fold, Condition.verdict])]
      simp [htruth]
    cases hk : c.connective with
    | none =>
      simp only [groupsFrom, hk]
      exact hopen fun a _ ↦ by simp [joins, Condition.verdict, hk]
    | some k =>
      simp only [groupsFrom, hk]
      by_cases hp : c.path = path
      · -- the condition continues the group
        have hjoin : ∀ a ∈ done.getLast?, joins a (c.verdict v) := by
          intro a ha
          simp [joins, Condition.verdict, hk, hpath a ha, hp]
        rw [if_pos hp, ih (done ++ [c.verdict v]) (by simp)
          (Verdict.isChain_append_singleton hchain hjoin)
          (by simp [Condition.verdict, hp]) ?_]
        · simp
        · rw [Verdict.fold_append_singleton hne, htruth, Connective.eval_join]
          simp [Verdict.step, Condition.verdict, hk]
      · rw [if_neg hp]
        refine hopen fun a ha ↦ ?_
        simp [joins, Condition.verdict, hk, hpath a ha, Ne.symm hp]

/-- Conditions taken together hold where their verdicts do. -/
theorem eval_aggregate {v : Atom → Bool} (hv : v (.literal true) = true) (cs : List Condition) :
    (aggregate cs).eval v = holds (cs.map (Condition.verdict v)) := by
  rw [aggregate, Predicate.all, Formula.eval_all v hv, holds]
  cases cs with
  | nil => rfl
  | cons c cs =>
    have hgroups : (groups (c :: cs)).map (·.eval v)
        = (((c :: cs).map (Condition.verdict v)).splitBy joins).map fold :=
      map_groupsFrom [c.verdict v] (by simp) (List.isChain_singleton _)
        (by simp [Condition.verdict]) (by simp [fold, Condition.verdict])
    have hall := congrArg (·.all id) hgroups
    simpa [List.all_map, Function.comp_def] using hall

theorem flatMap_atoms_groupsFrom (path : String) (current : Predicate) (cs : List Condition) :
    (groupsFrom path current cs).flatMap Formula.atoms
      = current.atoms ++ cs.flatMap (·.predicate.atoms) := by
  induction cs generalizing path current with
  | nil => simp [groupsFrom]
  | cons c cs ih =>
    cases hk : c.connective with
    | none => simp [groupsFrom, hk, ih]
    | some k =>
      by_cases hp : c.path = path <;> simp [groupsFrom, hk, hp, ih, Connective.atoms_join]

theorem groupsFrom_ne_nil (path : String) (current : Predicate) (cs : List Condition) :
    groupsFrom path current cs ≠ [] := by
  intro h
  induction cs generalizing path current with
  | nil => simp [groupsFrom] at h
  | cons c cs ih =>
    cases hk : c.connective with
    | none => simp [groupsFrom, hk] at h
    | some k =>
      by_cases hp : c.path = path
      · simp only [groupsFrom, hk, if_pos hp] at h
        exact ih _ _ h
      · simp [groupsFrom, hk, hp] at h

/-- Conditions taken together have the atoms of all of them, in order. -/
theorem atoms_aggregate {cs : List Condition} (h : cs ≠ []) :
    (aggregate cs).atoms = cs.flatMap (·.predicate.atoms) := by
  cases cs with
  | nil => exact absurd rfl h
  | cons c cs =>
    rw [aggregate, Predicate.all, groups, Formula.atoms_all _ (groupsFrom_ne_nil _ _ _),
      flatMap_atoms_groupsFrom, List.flatMap_cons]

namespace Schema

variable {ρ : Type} {s : Schema ρ} {o : CompileOptions}

/-! ## Descriptors on their own -/

/-- A descriptor compiled on its own, without its connective. -/
def compileAlone (s : Schema ρ) (o : CompileOptions) (d : Descriptor) :
    Except FilterError (Compiled ρ) :=
  s.compile o [{ d with connective := none }]

/-- The verdict on a descriptor and a record: the path is the registered one, the truth that of
the descriptor compiled on its own. -/
def verdict (s : Schema ρ) (o : CompileOptions) (r : ρ) (d : Descriptor) :
    Except FilterError Verdict := do
  let found ← s.resolve o.caseSensitive d.path.text
  let alone ← s.compileAlone o d
  return ⟨d.connective, found.path, alone.accepts r⟩

/-- The comparison that a descriptor stands for. -/
def comparisonOf (s : Schema ρ) (o : CompileOptions) (d : Descriptor) :
    Except FilterError Comparison := do
  let found ← s.resolve o.caseSensitive d.path.text
  let shape := found.property.shape
  let operand ← Coercion.coerce found.path d.value shape d.operator
  return ⟨found.path, d.operator, shape, operand⟩

/-- A descriptor with a condition has a comparison, which is all of the condition's predicate. -/
theorem comparisonOf_of_conditionOf {d : Descriptor} {k : Condition}
    (h : s.conditionOf o d = .ok k) :
    ∃ leaf, s.comparisonOf o d = .ok leaf ∧ k.predicate = Predicate.compare leaf := by
  obtain ⟨found, operand, hfound, hoperand, -, rfl⟩ := conditionOf_eq_ok_iff.mp h
  refine ⟨⟨found.path, d.operator, found.property.shape, operand⟩, ?_, rfl⟩
  exact bind_eq_ok_iff.mpr ⟨found, hfound, bind_eq_ok_iff.mpr ⟨operand, hoperand, rfl⟩⟩

/-- The verdict on a descriptor is that of its condition. -/
theorem verdict_of_conditionOf {d : Descriptor} {k : Condition} (h : s.conditionOf o d = .ok k)
    (hlower : ∃ alone, s.lower k.predicate = .ok alone) (r : ρ) :
    s.verdict o r d = .ok (k.verdict (s.atomHolds r)) := by
  obtain ⟨alone, hlower⟩ := hlower
  have halone : s.compileAlone o d = .ok alone :=
    compile_singleton_eq_ok_iff.mpr ⟨_, conditionOf_with_connective h none, hlower⟩
  obtain ⟨found, operand, hfound, -, -, rfl⟩ := conditionOf_eq_ok_iff.mp h
  refine bind_eq_ok_iff.mpr ⟨found, hfound, bind_eq_ok_iff.mpr ⟨alone, halone, ?_⟩⟩
  simp [Condition.verdict, (lower_eq_ok hlower).2 r, pure, Except.pure]

/-- In a list of conditions that can be lowered together, each can be lowered on its own. -/
theorem exists_lower_of_mem {cs : List Condition} {c : Compiled ρ}
    (h : s.lower (aggregate cs) = .ok c) {k : Condition} (hk : k ∈ cs) :
    ∃ alone, s.lower k.predicate = .ok alone := by
  refine exists_lower_eq_ok_iff.mpr fun a ha ↦ ?_
  refine exists_lower_eq_ok_iff.mp ⟨c, h⟩ a ?_
  rw [atoms_aggregate (List.ne_nil_of_mem hk)]
  exact List.mem_flatMap.mpr ⟨k, hk, ha⟩

/-! ## Lists of descriptors -/

theorem map_eq_map_ok_iff {α β : Type} {f : α → Except FilterError β} {as : List α}
    {bs : List β} : as.map f = bs.map .ok ↔ List.Forall₂ (fun a b ↦ f a = .ok b) as bs := by
  rw [← List.forall₂_eq_eq_eq, List.forall₂_map_left_iff, List.forall₂_map_right_iff]

/-- The conditions of descriptors, each with its descriptor, in a list that compiles. -/
theorem forall₂_conditionOf {ds : List Descriptor} {c : Compiled ρ} (h : s.compile o ds = .ok c) :
    ∃ cs, s.lower (aggregate cs) = .ok c ∧ List.Forall₂ (fun d k ↦
      s.conditionOf o d = .ok k ∧ ∃ alone, s.lower k.predicate = .ok alone) ds cs := by
  obtain ⟨cs, hcs, hc⟩ := compile_eq_ok_iff.mp h
  have hboth := (List.forall₂_and_left cs ds).mpr
    ⟨fun k hk ↦ exists_lower_of_mem hc hk, (map_eq_map_ok_iff.mp hcs).flip⟩
  exact ⟨cs, hc, (hboth.imp fun k d hkd ↦ ⟨hkd.2, hkd.1⟩).flip⟩

/-- The predicates of the conditions are the comparisons of the descriptors. -/
theorem exists_comparisons {ds : List Descriptor} {cs : List Condition}
    (h : List.Forall₂ (fun d k ↦ s.conditionOf o d = .ok k) ds cs) :
    ∃ leaves : List Comparison, ds.map (s.comparisonOf o) = leaves.map .ok ∧
      cs.map (·.predicate) = leaves.map Predicate.compare := by
  induction h with
  | nil => exact ⟨[], rfl, rfl⟩
  | cons hd _ ih =>
    obtain ⟨leaf, hleaf, hk⟩ := comparisonOf_of_conditionOf hd
    obtain ⟨leaves, hds, hcs⟩ := ih
    exact ⟨leaf :: leaves, by simp [hleaf, hds], by simp [hk, hcs]⟩

/-- Comparisons taken together are the atoms, unless there are none. -/
theorem atoms_aggregate_of_leaves {cs : List Condition} {leaves : List Comparison}
    (h : cs.map (·.predicate) = leaves.map Predicate.compare) (hne : cs ≠ []) :
    (aggregate cs).atoms = leaves.map .compare := by
  calc
    (aggregate cs).atoms = (cs.map (·.predicate)).flatMap Formula.atoms := by
      rw [atoms_aggregate hne, List.flatMap_map]
    _ = leaves.flatMap fun leaf ↦ [Atom.compare leaf] := by
      rw [h, List.flatMap_map]; rfl
    _ = leaves.map .compare := List.map_eq_flatMap.symm

/-- A list of descriptors means what its descriptors mean one by one.  A record is accepted
exactly when the verdicts on the descriptors hold, and the comparisons of the predicate are those
of the descriptors, in order, with no other atom beside them.  No descriptors accept every
record. -/
theorem compile_compositional {ds : List Descriptor} {c : Compiled ρ}
    (h : s.compile o ds = .ok c) :
    (∀ r, ∃ vs, ds.map (s.verdict o r) = vs.map .ok ∧ c.accepts r = holds vs) ∧
      ds.map (s.comparisonOf o) = c.expression.comparisons.map .ok ∧
      (ds ≠ [] → c.expression.atoms = c.expression.comparisons.map .compare) ∧
      (ds = [] → c = Compiled.always) := by
  obtain ⟨cs, hc, hall⟩ := forall₂_conditionOf h
  obtain ⟨hexpression, haccepts⟩ := lower_eq_ok hc
  obtain ⟨leaves, hds, hleaves⟩ := exists_comparisons (hall.imp fun _ _ hdk ↦ hdk.1)
  have hatoms : ds ≠ [] → c.expression.atoms = leaves.map .compare := by
    intro hne
    rw [hexpression]
    refine atoms_aggregate_of_leaves hleaves ?_
    rintro rfl
    exact hne (List.forall₂_nil_right_iff.mp hall)
  have hcomparisons : c.expression.comparisons = leaves := by
    by_cases hne : ds = []
    · subst hne
      obtain rfl : leaves = [] := by simpa using hds
      obtain rfl := List.forall₂_nil_left_iff.mp hall
      rw [hexpression]; rfl
    · rw [Predicate.comparisons, hatoms hne]
      simp [List.filterMap_map, Function.comp_def, Atom.comparison?]
  refine ⟨fun r ↦ ⟨cs.map (Condition.verdict (s.atomHolds r)), ?_, ?_⟩, ?_, ?_, ?_⟩
  · rw [map_eq_map_ok_iff, List.forall₂_map_right_iff]
    exact hall.imp fun d k hdk ↦ verdict_of_conditionOf hdk.1 hdk.2 r
  · rw [haccepts, eval_aggregate (s.atomHolds_literal r true)]
  · rw [hds, hcomparisons]
  · intro hne
    rw [hatoms hne, hcomparisons]
  · rintro rfl
    obtain rfl := List.forall₂_nil_left_iff.mp hall
    cases hc
    rfl

/-- A schema with a single field, the record itself. -/
def flag : Schema Bool := .ofRegistrations "Flag" [.scalar "on" id]

/-- The conditions that the record is true, or is false, and is true. -/
def flagConditions : List Descriptor :=
  let on : Path := ⟨["on"], by decide, by decide⟩
  [⟨none, .equal, on, .boolean true⟩, ⟨some .or, .equal, on, .boolean false⟩,
    ⟨some .and, .equal, on, .boolean true⟩]

theorem compile_compositional_flag :
    ∃ c, flag.compile {} flagConditions = .ok c ∧
      (∀ r, ∃ vs, flagConditions.map (flag.verdict {} r) = vs.map .ok ∧
        c.accepts r = holds vs) ∧
      c.expression.comparisons.length = 3 := by
  refine ⟨_, rfl, ?_, rfl⟩
  exact (compile_compositional rfl).1

end Schema

end RecordFilter
