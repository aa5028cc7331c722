import RecordFilter.Proofs.Compile.Attribution
import RecordFilter.Proofs.Compile.Groups
import RecordFilter.Proofs.Schema.Registrations

/-!
# Compilation is all or nothing

A list of descriptors fails to compile exactly when one of them does on its own,
and one of them does exactly when its path does not resolve, its value is not
coerced or its operator is not supported (`Fails`).  Nothing can go wrong after
that: a path that was resolved resolves again, and an operand that was coerced
has a test.  So every error that is reported belongs to some descriptor, and
`Reports` says how it is put together from the errors of the descriptors.
-/

namespace RecordFilter

namespace Schema

variable {ρ : Type} {s : Schema ρ} {o : CompileOptions} {d : Descriptor} {ds : List Descriptor}
  {e : FilterError}

/-! ## One descriptor -/

/-- The error of a descriptor that does not pass all three steps, before it is told its clause. -/
inductive Fails (s : Schema ρ) (o : CompileOptions) (d : Descriptor) : FilterError → Prop
  | unresolved {e : FilterError} (h : s.resolve o.caseSensitive d.path.text = .error e) :
      Fails s o d e
  | uncoerced {found : Resolved ρ} {e : FilterError}
      (hfound : s.resolve o.caseSensitive d.path.text = .ok found)
      (h : Coercion.coerce found.path d.value found.property.shape d.operator = .error e) :
      Fails s o d e
  | unsupported {found : Resolved ρ} {operand : Datum}
      (hfound : s.resolve o.caseSensitive d.path.text = .ok found)
      (hoperand : Coercion.coerce found.path d.value found.property.shape d.operator = .ok operand)
      (h : found.property.shape.supports d.operator = false) :
      Fails s o d (Property.unsupported found.property.shape d.operator found.path)

/-- A descriptor has no condition exactly when it fails in one of the three steps. -/
theorem fails_iff : s.Fails o d e ↔ s.conditionOf o d = .error e := by
  rw [conditionOf, bind_eq_error_iff]
  constructor
  · intro h
    cases h with
    | unresolved h => exact Or.inl h
    | uncoerced hfound h => exact Or.inr ⟨_, hfound, bind_eq_error_iff.mpr (Or.inl h)⟩
    | unsupported hfound hoperand h =>
      refine Or.inr ⟨_, hfound, bind_eq_error_iff.mpr (Or.inr ⟨_, hoperand, ?_⟩)⟩
      exact bind_eq_error_iff.mpr (Or.inl (ensureSupported_eq_error_iff.mpr ⟨h, rfl⟩))
  · rintro (h | ⟨found, hfound, h⟩)
    · exact .unresolved h
    · rcases bind_eq_error_iff.mp h with h | ⟨operand, hoperand, h⟩
      · exact .uncoerced hfound h
      · rcases bind_eq_error_iff.mp h with h | ⟨-, -, h⟩
        · obtain ⟨hop, rfl⟩ := ensureSupported_eq_error_iff.mp h
          exact .unsupported hfound hoperand hop
        · cases h

theorem Fails.isOfCondition (h : s.Fails o d e) : e.IsOfCondition none := by
  cases h with
  | unresolved h => exact isOfCondition_of_resolve h
  | uncoerced _ h => exact Coercion.isOfCondition_of_coerce h
  | unsupported => exact .unsupported _ _ _

/-! ## Lowering -/

/-- What the three steps found can be lowered: the path resolves again, exactly, and the property
has a test for the operand. -/
theorem IsProvided.exists_test (hs : s.IsProvided) {found : Resolved ρ} {operand : Datum}
    (hfound : s.resolve o.caseSensitive d.path.text = .ok found)
    (hoperand : Coercion.coerce found.path d.value found.property.shape d.operator = .ok operand)
    (hop : found.property.shape.supports d.operator = true) :
    s.resolve true found.path = .ok found ∧
      ∃ test, found.property.test found.path d.operator operand = .ok test := by
  refine ⟨hs.resolve_found hfound, ?_⟩
  have hmade := (hs.isEntry _ (mem_entries_of_resolve hfound)).2
  obtain ⟨test, htest⟩ := hmade.exists_test hop (operand_of_coerce hop hoperand)
  exact ⟨test, Property.test_eq_ok found.path hop htest⟩

/-- The conditions of descriptors can be lowered together. -/
theorem IsProvided.exists_lower (hs : s.IsProvided) {cs : List Condition}
    (h : ds.map (s.conditionOf o) = cs.map .ok) : ∃ c, s.lower (aggregate cs) = .ok c := by
  refine exists_lower_eq_ok_iff.mpr fun a ha ↦ ?_
  by_cases hcs : cs = []
  · subst hcs
    obtain rfl : a = .literal true := List.mem_singleton.mp ha
    exact ⟨fun _ ↦ true, rfl⟩
  · rw [atoms_aggregate hcs] at ha
    obtain ⟨k, hk, ha⟩ := List.mem_flatMap.mp ha
    have hmem : .ok k ∈ ds.map (s.conditionOf o) := by
      rw [h]
      exact List.mem_map_of_mem hk
    obtain ⟨d, -, hd⟩ := List.mem_map.mp hmem
    obtain ⟨found, operand, hfound, hoperand, hsupported, rfl⟩ := conditionOf_eq_ok_iff.mp hd
    obtain rfl := List.mem_singleton.mp ha
    obtain ⟨hagain, test, htest⟩ :=
      hs.exists_test hfound hoperand (ensureSupported_eq_ok_iff.mp hsupported)
    exact ⟨test, bind_eq_ok_iff.mpr ⟨found, hagain, htest⟩⟩

/-! ## Lists of descriptors -/

/-- Compilation fails as the collection of the conditions does. -/
theorem IsProvided.compile_eq_error_iff (hs : s.IsProvided) :
    s.compile o ds = .error e ↔ o.mode.collect (s.outcomes o ds) = .error e := by
  rw [compile]
  constructor
  · intro h
    rcases bind_eq_error_iff.mp h with hcollect | ⟨cs, hcs, hlower⟩
    · exact hcollect
    · obtain ⟨c, hc⟩ := hs.exists_lower
        (mapIdx_tagClause_eq_map_ok_iff.mp (Mode.collect_eq_ok_iff.mp hcs))
      rw [hc] at hlower
      cases hlower
  · exact fun h ↦ bind_eq_error_iff.mpr (Or.inl h)

/-- An error stands in the place of the descriptor that fails with it. -/
theorem outcomes_getElem?_eq_error_iff {i : Nat} {f : FilterError} :
    (s.outcomes o ds)[i]? = some (.error f) ↔
      ∃ d e, ds[i]? = some d ∧ s.Fails o d e ∧ f = e.atClause i := by
  simp only [outcomes, List.getElem?_mapIdx, List.getElem?_map, Option.map_map,
    Option.map_eq_some_iff, Function.comp_apply, tagClause, mapError_eq_error_iff, fails_iff]
  constructor
  · rintro ⟨d, hd, e, he, rfl⟩
    exact ⟨d, e, hd, he, rfl⟩
  · rintro ⟨d, e, hd, he, rfl⟩
    exact ⟨d, hd, e, he, rfl⟩

/-- How the error of a list of descriptors is put together from errors of its descriptors, listed
with their places. -/
structure Reports (s : Schema ρ) (o : CompileOptions) (ds : List Descriptor) (e : FilterError)
    (failures : List (Nat × FilterError)) : Prop where
  increasing : failures.Pairwise fun a b ↦ a.1 < b.1
  /-- Every error is one of the three of a condition, carries its place, and is the one with which
  the descriptor in that place fails. -/
  attributed : ∀ i f, (i, f) ∈ failures →
    f.IsOfCondition (some i) ∧ ∃ d e₀, ds[i]? = some d ∧ s.Fails o d e₀ ∧ f = e₀.atClause i
  together : failures.map Prod.snd = [e] ∨
    (2 ≤ failures.length ∧ e = .multiple (failures.map Prod.snd))
  /-- The first failure is all that a fast compilation reports. -/
  first : o.mode = .fast → ∃ i, failures = [(i, e)] ∧
    ∀ j d e₀, ds[j]? = some d → s.Fails o d e₀ → i ≤ j
  /-- An analysis reports all failures. -/
  complete : o.mode = .analysis → ∀ i d e₀, ds[i]? = some d → s.Fails o d e₀ →
    (i, e₀.atClause i) ∈ failures

/-- The errors of the descriptors that a mode reports. -/
def failures (s : Schema ρ) (o : CompileOptions) (ds : List Descriptor) :
    List (Nat × FilterError) :=
  failuresFrom 0 (o.mode.select (s.outcomes o ds))

theorem mem_failuresFrom_outcomes_iff {i : Nat} {f : FilterError} :
    (i, f) ∈ failuresFrom 0 (s.outcomes o ds) ↔
      ∃ d e, ds[i]? = some d ∧ s.Fails o d e ∧ f = e.atClause i := by
  rw [mem_failuresFrom_iff]
  simp [outcomes_getElem?_eq_error_iff]

/-- A mode reports some of the errors, from the first on. -/
theorem failures_sublist : (s.failures o ds).Sublist (failuresFrom 0 (s.outcomes o ds)) :=
  o.mode.failuresFrom_select_sublist 0 _

theorem IsProvided.reports (hs : s.IsProvided) (h : s.compile o ds = .error e) :
    s.Reports o ds e (s.failures o ds) := by
  have herrors : (s.failures o ds).map Prod.snd
      = errorsOf (o.mode.select (s.outcomes o ds)) := map_snd_failuresFrom 0 _
  have htogether := FilterError.unless_eq_error_iff.mp (hs.compile_eq_error_iff.mp h)
  rw [← herrors, List.length_map] at htogether
  refine ⟨(pairwise_failuresFrom 0 _).sublist failures_sublist, ?_, htogether, ?_, ?_⟩
  · intro i f hf
    obtain ⟨d, e₀, hd, he₀, rfl⟩ :=
      mem_failuresFrom_outcomes_iff.mp (failures_sublist.subset hf)
    exact ⟨he₀.isOfCondition.atClause i, d, e₀, hd, he₀, rfl⟩
  · intro hmode
    have htake : s.failures o ds = (failuresFrom 0 (s.outcomes o ds)).take 1 := by
      rw [failures, hmode, Mode.select, failuresFrom_upToError]
    have hpairwise := pairwise_failuresFrom 0 (s.outcomes o ds)
    cases hall : failuresFrom 0 (s.outcomes o ds) with
    | nil => simp [htake, hall] at htogether
    | cons failure rest =>
      obtain ⟨i, f⟩ := failure
      have hone : s.failures o ds = [(i, f)] := by simp [htake, hall]
      obtain rfl : f = e := by simpa [hone] using htogether
      refine ⟨i, hone, fun j d e₀ hd he₀ ↦ ?_⟩
      have hmem := mem_failuresFrom_outcomes_iff.mpr ⟨d, e₀, hd, he₀, rfl⟩
      rw [hall] at hmem hpairwise
      rcases List.mem_cons.mp hmem with heq | hrest
      · cases heq
        exact le_refl _
      · exact (List.rel_of_pairwise_cons hpairwise hrest).le
  · intro hmode i d e₀ hd he₀
    rw [failures, hmode, Mode.select]
    exact mem_failuresFrom_outcomes_iff.mpr ⟨d, e₀, hd, he₀, rfl⟩

/-- Descriptors have conditions, all of them, unless one of them fails. -/
theorem exists_conditions (h : ∀ d ∈ ds, ∀ e, ¬ s.Fails o d e) :
    ∃ cs : List Condition, ds.map (s.conditionOf o) = cs.map .ok := by
  induction ds with
  | nil => exact ⟨[], rfl⟩
  | cons d ds ih =>
    obtain ⟨cs, hcs⟩ := ih fun d' hd' ↦ h d' (List.mem_cons_of_mem _ hd')
    cases hd : s.conditionOf o d with
    | error e => exact absurd (fails_iff.mpr hd) (h d List.mem_cons_self e)
    | ok k => exact ⟨k :: cs, by rw [List.map_cons, hd, hcs, List.map_cons]⟩

/-- A list of descriptors fails exactly when one of them fails in one of the three steps. -/
theorem IsProvided.exists_compile_eq_error_iff (hs : s.IsProvided) :
    (∃ e, s.compile o ds = .error e) ↔ ∃ d ∈ ds, ∃ e, s.Fails o d e := by
  constructor
  · rintro ⟨e, h⟩
    by_contra hnone
    have hall : ∀ d ∈ ds, ∀ e, ¬ s.Fails o d e := fun d hd e he ↦ hnone ⟨d, hd, e, he⟩
    obtain ⟨cs, hcs⟩ := exists_conditions hall
    obtain ⟨c, hc⟩ := hs.exists_lower hcs
    rw [compile_eq_ok_iff.mpr ⟨cs, hcs, hc⟩] at h
    cases h
  · rintro ⟨d, hd, e, he⟩
    cases hcompile : s.compile o ds with
    | error e' => exact ⟨e', rfl⟩
    | ok c =>
      obtain ⟨cs, hcs, -⟩ := compile_eq_ok_iff.mp hcompile
      have hmem : s.conditionOf o d ∈ cs.map .ok := by
        rw [← hcs]
        exact List.mem_map_of_mem hd
      obtain ⟨k, -, hk⟩ := List.mem_map.mp hmem
      rw [fails_iff.mp he] at hk
      cases hk

/-- A single descriptor fails with its own error in the first place. -/
theorem IsProvided.compile_singleton_eq_error_iff (hs : s.IsProvided) :
    s.compile o [d] = .error e ↔ ∃ e₀, s.Fails o d e₀ ∧ e = e₀.atClause 0 := by
  have hfailures : ∀ e₀, s.Fails o d e₀ → s.compile o [d] = .error (e₀.atClause 0) := by
    intro e₀ he₀
    have houtcomes : s.outcomes o [d] = [.error (e₀.atClause 0)] := by
      simp [outcomes, fails_iff.mp he₀, tagClause, Except.mapError]
    rw [hs.compile_eq_error_iff, houtcomes, Mode.collect]
    cases o.mode <;> rfl
  constructor
  · intro h
    obtain ⟨d', hd', e₀, he₀⟩ := hs.exists_compile_eq_error_iff.mp ⟨e, h⟩
    obtain rfl := List.mem_singleton.mp hd'
    refine ⟨e₀, he₀, ?_⟩
    rw [hfailures e₀ he₀] at h
    exact (Except.error.inj h).symm
  · rintro ⟨e₀, he₀, rfl⟩
    exact hfailures e₀ he₀

/-- Compilation is all or nothing, and every failure is attributed to its clause.  Over a schema
made of registrations a list of descriptors fails exactly when one of its descriptors fails in one
of the three steps, and each descriptor fails on its own exactly then.  What passed the three steps
can be lowered: each path resolves again, exactly, each property has a test for its operand, and
conditions can be taken together.  An error that is reported is put together from the errors of the
descriptors, each in its place. -/
theorem compile_all_or_nothing (hs : s.IsProvided) (o : CompileOptions) (ds : List Descriptor) :
    ((∃ e, s.compile o ds = .error e) ↔ ∃ d ∈ ds, ∃ e, s.Fails o d e) ∧
      (∀ d e, s.compile o [d] = .error e ↔ ∃ e₀, s.Fails o d e₀ ∧ e = e₀.atClause 0) ∧
      (∀ (d : Descriptor) found operand,
        s.resolve o.caseSensitive d.path.text = .ok found →
        Coercion.coerce found.path d.value found.property.shape d.operator = .ok operand →
        found.property.shape.supports d.operator = true →
        s.resolve true found.path = .ok found ∧
          ∃ test, found.property.test found.path d.operator operand = .ok test) ∧
      (∀ cs : List Condition, ds.map (s.conditionOf o) = cs.map .ok →
        ∃ c, s.lower (aggregate cs) = .ok c) ∧
      ∀ e, s.compile o ds = .error e → ∃ failures, s.Reports o ds e failures := by
  refine ⟨hs.exists_compile_eq_error_iff, ?_, ?_, ?_, ?_⟩
  · intro d e
    exact hs.compile_singleton_eq_error_iff
  · intro d found operand hfound hoperand hop
    exact hs.exists_test hfound hoperand hop
  · intro cs hcs
    exact hs.exists_lower hcs
  · intro e he
    exact ⟨s.failures o ds, hs.reports he⟩

theorem flag_isProvided : flag.IsProvided := by
  refine ⟨"Flag", [.scalar "on" id], rfl, fun reg hreg ↦ ?_⟩
  obtain rfl := List.mem_singleton.mp hreg
  exact .scalar "on" .boolean id

/-- The conditions that the record is true, that a property which is missing is null, and that the
record is one. -/
def flagMistakes : List Descriptor :=
  let on : Path := ⟨["On"], by decide, by decide⟩
  let off : Path := ⟨["off"], by decide, by decide⟩
  [⟨none, .equal, on, .boolean true⟩, ⟨none, .equal, off, .null⟩, ⟨none, .equal, on, .number "1"⟩]

/-- An analysis reports both mistakes, each in its place. -/
theorem compile_all_or_nothing_flag :
    ∃ e failures, flag.compile ⟨.analysis, false⟩ flagMistakes = .error e ∧
      flag.Reports ⟨.analysis, false⟩ flagMistakes e failures ∧
      e.flatten.map (·.clause?) = [some 1, some 2] := by
  obtain ⟨-, -, -, -, hreports⟩ :=
    compile_all_or_nothing flag_isProvided ⟨.analysis, false⟩ flagMistakes
  obtain ⟨failures, h⟩ := hreports _ rfl
  exact ⟨_, failures, rfl, h, rfl⟩

end Schema

end RecordFilter
