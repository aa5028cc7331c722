import RecordFilter.Proofs.Schema.Nesting

/-!
# Nesting is transparent

Descriptors over a part of a record compile to the same filter, applied to the
part, when the part's schema is nested in that of the record and their paths are
placed under the part.  Both compilations go in parallel, step by step: the paths
resolve together, the values are coerced alike, equal paths stay equal and
distinct ones distinct, so the conditions fall into the same groups, and every
comparison of the one predicate has the test of the other, on the part.
-/

namespace RecordFilter

/-! ## Formulas with their atoms replaced -/

namespace Formula

variable {α β γ : Type}

theorem map_map (f : α → β) (g : β → γ) (p : Formula α) : (p.map f).map g = p.map (g ∘ f) := by
  induction p with
  | atom a => rfl
  | and l r ihl ihr | or l r ihl ihr => rw [map, map, map, ihl, ihr]

theorem map_id (p : Formula α) : p.map id = p := by
  induction p with
  | atom a => rfl
  | and l r ihl ihr | or l r ihl ihr => rw [map, ihl, ihr]

theorem map_all (f : α → β) (unit : α) (ps : List (Formula α)) :
    (all unit ps).map f = all (f unit) (ps.map (map f)) := by
  have hfold : ∀ (ps : List (Formula α)) (p : Formula α),
      (ps.foldl and p).map f = (ps.map (map f)).foldl and (p.map f) := by
    intro ps
    induction ps with
    | nil => exact fun p ↦ rfl
    | cons q ps ih => exact fun p ↦ ih (and p q)
  cases ps with
  | nil => rfl
  | cons p ps => exact hfold ps p

end Formula

/-! ## Conditions with their paths replaced -/

/-- The atom with the path of its comparison replaced. -/
def Atom.mapPath (f : String → String) : Atom → Atom
  | literal value => literal value
  | compare c => compare { c with path := f c.path }

/-- The condition with its path replaced, also in its comparisons. -/
def Condition.mapPath (f : String → String) (c : Condition) : Condition :=
  ⟨f c.path, c.connective, c.predicate.map (Atom.mapPath f)⟩

theorem Atom.mapPath_id : Atom.mapPath id = id := by
  funext a
  cases a <;> rfl

theorem Atom.mapPath_comp (f g : String → String) :
    Atom.mapPath g ∘ Atom.mapPath f = Atom.mapPath (g ∘ f) := by
  funext a
  cases a <;> rfl

/-- Groups are formed by the equality of paths only. -/
theorem map_mapPath_groupsFrom {f : String → String} (hf : Function.Injective f) (path : String)
    (current : Predicate) (cs : List Condition) :
    (groupsFrom path current cs).map (Formula.map (Atom.mapPath f))
      = groupsFrom (f path) (current.map (Atom.mapPath f)) (cs.map (Condition.mapPath f)) := by
  induction cs generalizing path current with
  | nil => rfl
  | cons c cs ih =>
    have hopen : (current :: groupsFrom c.path c.predicate cs).map (Formula.map (Atom.mapPath f))
        = current.map (Atom.mapPath f) :: groupsFrom (c.mapPath f).path (c.mapPath f).predicate
            (cs.map (Condition.mapPath f)) := by
      rw [List.map_cons, ih]
      rfl
    have hconnective : (c.mapPath f).connective = c.connective := rfl
    rw [List.map_cons, groupsFrom, groupsFrom, hconnective]
    cases c.connective with
    | none => exact hopen
    | some connective =>
      have hjoin : (connective.join current c.predicate).map (Atom.mapPath f)
          = connective.join (current.map (Atom.mapPath f)) (c.mapPath f).predicate := by
        cases connective <;> rfl
      have hpath : (c.mapPath f).path = f path ↔ c.path = path := hf.eq_iff
      simp only [hpath]
      split
      · rw [ih, hjoin]
      · exact hopen

theorem map_mapPath_aggregate {f : String → String} (hf : Function.Injective f)
    (cs : List Condition) :
    (aggregate cs).map (Atom.mapPath f) = aggregate (cs.map (Condition.mapPath f)) := by
  have hgroups : (groups cs).map (Formula.map (Atom.mapPath f))
      = groups (cs.map (Condition.mapPath f)) := by
    cases cs with
    | nil => rfl
    | cons c cs => exact map_mapPath_groupsFrom hf c.path c.predicate cs
  rw [aggregate, Predicate.all, Formula.map_all, hgroups]
  rfl

/-- What holds of the atom that is always true and of those of some conditions holds of the atoms
of the conditions together. -/
theorem forall_mem_atoms_aggregate {P : Atom → Prop} {cs : List Condition}
    (htrue : P (.literal true)) (h : ∀ c ∈ cs, ∀ a ∈ c.predicate.atoms, P a) :
    ∀ a ∈ (aggregate cs).atoms, P a := by
  intro a ha
  by_cases hcs : cs = []
  · subst hcs
    obtain rfl : a = .literal true := List.mem_singleton.mp ha
    exact htrue
  · rw [atoms_aggregate hcs] at ha
    obtain ⟨c, hc, ha⟩ := List.mem_flatMap.mp ha
    exact h c hc a ha

/-! ## One level -/

/-- The descriptor with its path placed under a part. -/
def Descriptor.under (outer : Path) (d : Descriptor) : Descriptor :=
  { d with path := outer.append d.path }

namespace Schema

variable {ρ σ : Type} {name : String} {outer : Path} {part : ρ → σ} {child : Schema σ}
  {o : CompileOptions}

/-- A comparison of a trimmed path has the test of the placed one, on the part. -/
theorem parallel_atomTest_nesting {c : Comparison} (hpath : Text.trimString c.path = c.path) :
    Parallel (fun test test' ↦ test' = test ∘ part) (child.atomTest (.compare c))
      ((nesting name outer part child).atomTest (.mapPath outer.place (.compare c))) := by
  refine (parallel_resolve_nesting name outer part child true hpath).bind ?_
  rintro found _ rfl
  exact found.property.parallel_test_ofPart part _ _ c.operator c.operand

/-- What the two conditions of a descriptor have in common: the path is placed, and the atoms have
tests in parallel. -/
structure Places (name : String) (outer : Path) (part : ρ → σ) (child : Schema σ)
    (c c' : Condition) : Prop where
  parallel : ∀ a ∈ c.predicate.atoms,
    Parallel (fun test test' ↦ test' = test ∘ part) (child.atomTest a)
      ((nesting name outer part child).atomTest (a.mapPath outer.place))
  mapPath_eq : c.mapPath outer.place = c'

theorem parallel_conditionOf_nesting (d : Descriptor) :
    Parallel (Places name outer part child) (child.conditionOf o d)
      ((nesting name outer part child).conditionOf o (d.under outer)) := by
  have hresolve :=
    parallel_resolve_nesting name outer part child o.caseSensitive d.path.trimString_text
  rw [← Path.text_append] at hresolve
  refine hresolve.with_eq.bind fun found found' ⟨hunder, hfound⟩ ↦ ?_
  rw [hunder]
  refine (Coercion.parallel_coerce _ _ _ _ _).bind fun operand operand' hoperand ↦ ?_
  refine (Property.parallel_ensureSupported _ _ _ _).bind fun _ _ _ ↦ .ok ⟨?_, ?_⟩
  · intro a ha
    obtain rfl := List.mem_singleton.mp ha
    exact parallel_atomTest_nesting (trimString_of_resolve hfound)
  · rw [← hoperand]
    rfl

/-- The schema of the part and the one it is nested in compile in parallel. -/
theorem parallel_compile_nesting (name : String) (outer : Path) (part : ρ → σ) (child : Schema σ)
    (o : CompileOptions) (ds : List Descriptor) :
    Parallel (fun c c' ↦ c'.expression = c.expression.map (Atom.mapPath outer.place) ∧
        ∀ r, c'.accepts r = c.accepts (part r)) (child.compile o ds)
      ((nesting name outer part child).compile o (ds.map (Descriptor.under outer))) := by
  refine parallel_compile (R := Places name outer part child) ?_ fun cs cs' hcs ↦ ?_
  · rw [List.forall₂_map_right_iff, List.forall₂_same]
    exact fun d _ ↦ parallel_conditionOf_nesting d
  · obtain ⟨hparallel, hmap⟩ := List.forall₂_and_left cs cs' |>.mp
      (hcs.imp fun c c' h ↦ ⟨h.parallel, h.mapPath_eq⟩)
    obtain rfl : cs.map (Condition.mapPath outer.place) = cs' := by
      rwa [← List.forall₂_eq_eq_eq, List.forall₂_map_left_iff]
    rw [← map_mapPath_aggregate outer.place_injective]
    exact parallel_lower (forall_mem_atoms_aggregate (.ok rfl) hparallel)

end Schema

/-! ## Any depth -/

/-- The ways down from a record to a part that is nested in it at some depth: at each level the
schema of the record has the properties of one part, under a path. -/
inductive Nesting (σ : Type) : Type → Type 1
  | here : Nesting σ σ
  | within {ρ τ : Type} (name : String) (outer : Path) (part : τ → ρ) (inner : Nesting σ ρ) :
      Nesting σ τ

namespace Nesting

variable {σ : Type}

/-- The part of a record. -/
def part : {ρ : Type} → Nesting σ ρ → ρ → σ
  | _, here => id
  | _, within _ _ part inner => inner.part ∘ part

/-- The schema of the records, given that of the parts. -/
def schema (child : Schema σ) : {ρ : Type} → Nesting σ ρ → Schema ρ
  | _, here => child
  | _, within name outer part inner =>
    .ofRegistrations name [.nested outer.text part (inner.schema child)]

/-- The path of a property of the part. -/
def place : {ρ : Type} → Nesting σ ρ → String → String
  | _, here => id
  | _, within _ outer _ inner => outer.place ∘ inner.place

/-- The descriptor of a property of the part. -/
def descriptor : {ρ : Type} → Nesting σ ρ → Descriptor → Descriptor
  | _, here => id
  | _, within _ outer _ inner => Descriptor.under outer ∘ inner.descriptor

/-- The path of a descriptor is placed as the comparisons are. -/
theorem text_descriptor {ρ : Type} (n : Nesting σ ρ) (d : Descriptor) :
    (n.descriptor d).path.text = n.place d.path.text := by
  induction n with
  | here => rfl
  | within name outer part inner ih =>
    rw [descriptor, place, Function.comp_apply, Function.comp_apply, ← ih]
    exact outer.text_append _

/-- Nesting is transparent at any depth.  Descriptors over the part and the same ones with their
paths placed under it compile together or fail together.  Where they compile, the records that are
accepted are those whose part is, and the predicates differ in the paths of their comparisons only;
where they fail, the errors differ in their texts only. -/
theorem compile_transparent {ρ : Type} (n : Nesting σ ρ) (child : Schema σ) (o : CompileOptions)
    (ds : List Descriptor) :
    Parallel (fun c c' ↦ c'.expression = c.expression.map (Atom.mapPath n.place) ∧
        ∀ r, c'.accepts r = c.accepts (n.part r)) (child.compile o ds)
      ((n.schema child).compile o (ds.map n.descriptor)) := by
  induction n with
  | here =>
    rw [descriptor, List.map_id]
    refine Parallel.refl (fun c ↦ ⟨?_, fun r ↦ rfl⟩) (child.compile o ds)
    rw [place, Atom.mapPath_id, Formula.map_id]
  | within name outer part inner ih =>
    have hlevel := ih.trans
      (Schema.parallel_compile_nesting name outer part _ o (ds.map inner.descriptor))
    rw [List.map_map] at hlevel
    refine hlevel.imp fun c c' ⟨cmid, ⟨hmid, hacceptsmid⟩, hexpression, haccepts⟩ ↦ ⟨?_, fun r ↦ ?_⟩
    · rw [hexpression, hmid, Formula.map_map, Atom.mapPath_comp]
      rfl
    · rw [haccepts, hacceptsmid]
      rfl

/-- A record whose part has a flag in it. -/
def flagged : Nesting Bool ((Bool × Nat) × Bool) :=
  .within "Record" ⟨["Part"], by decide, by decide⟩ Prod.fst
    (.within "Part" ⟨["deep", "down"], by decide, by decide⟩ Prod.fst .here)

theorem compile_transparent_flagged :
    (∃ c', (flagged.schema Schema.flag).compile {}
          (Schema.flagConditions.map flagged.descriptor) = .ok c' ∧
        (∀ r, c'.accepts r = r.1.1) ∧
        c'.expression.comparisons.map Comparison.path
          = ["Part.deep.down.on", "Part.deep.down.on", "Part.deep.down.on"]) ∧
      ∃ e', (flagged.schema Schema.flag).compile ⟨.analysis, false⟩
          (Schema.flagMistakes.map flagged.descriptor) = .error e' ∧
        e'.flatten.map (fun e ↦ (e.code, e.clause?))
          = [(.propertyNotFound, some 1), (.invalidValue, some 2)] := by
  obtain ⟨c', hc', hexpression, haccepts⟩ :=
    (compile_transparent flagged Schema.flag {} Schema.flagConditions).exists_ok
  obtain ⟨e', he', houtline⟩ :=
    (compile_transparent flagged Schema.flag ⟨.analysis, false⟩ Schema.flagMistakes).exists_error
  refine ⟨⟨c', hc', fun r ↦ ?_, ?_⟩, e', he', ?_⟩
  · rw [haccepts]
    rcases r with ⟨⟨b, n⟩, b'⟩
    cases b <;> rfl
  · rw [hexpression]
    rfl
  · rw [← FilterError.flatten_codes_of_outline_eq houtline]
    rfl

end Nesting

end RecordFilter
