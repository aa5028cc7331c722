import RecordFilter.Proofs.Compile.Failures

/-!
# Outcomes that concur

Conditions that are written differently can come to the same.  Two outcomes
concur (`Concur`) if both are results, which are related, or both are errors
with one code; what the errors say, and of which clause, may differ, which is
why it is less than going in parallel.  Steps one after the other and lists of
steps keep this, and a list of descriptors concurs with its conditions, taken
one after the other: it compiles if each of them can be made, and otherwise is
reported with the code of the first that cannot.
-/

namespace RecordFilter

/-- Whether two outcomes are results in a relation, or errors with one code. -/
inductive Concur {α β : Type} (R : α → β → Prop) :
    Except FilterError α → Except FilterError β → Prop
  | ok {a : α} {b : β} (h : R a b) : Concur R (.ok a) (.ok b)
  | error {e f : FilterError} (h : e.code = f.code) : Concur R (.error e) (.error f)

namespace Concur

variable {α β γ δ : Type} {R : α → β → Prop} {S : γ → δ → Prop} {x : Except FilterError α}
  {y : Except FilterError β}

theorem symm (h : Concur R x y) : Concur (fun b a ↦ R a b) y x := by
  cases h with
  | ok h => exact .ok h
  | error h => exact .error h.symm

theorem trans {T : β → γ → Prop} {z : Except FilterError γ} (hxy : Concur R x y)
    (hyz : Concur T y z) : Concur (fun a c ↦ ∃ b, R a b ∧ T b c) x z := by
  cases hxy with
  | ok hab =>
    cases hyz with
    | ok hbc => exact .ok ⟨_, hab, hbc⟩
  | error hef =>
    cases hyz with
    | error hfg => exact .error (hef.trans hfg)

theorem imp {T : α → β → Prop} (hRT : ∀ a b, R a b → T a b) (h : Concur R x y) :
    Concur T x y := by
  cases h with
  | ok h => exact .ok (hRT _ _ h)
  | error h => exact .error h

/-- The related results are those of the first outcome. -/
theorem with_eq (h : Concur R x y) : Concur (fun a b ↦ R a b ∧ x = .ok a) x y := by
  cases h with
  | ok h => exact .ok ⟨h, rfl⟩
  | error h => exact .error h

/-- A result that is changed concurs with what it is changed to. -/
theorem map_self {x : Except FilterError α} (f : α → β) :
    Concur (fun a b ↦ b = f a) x (x.map f) := by
  cases x with
  | ok a => exact .ok rfl
  | error e => exact .error rfl

/-- Steps that follow concurrent ones and concur themselves. -/
theorem bind {f : α → Except FilterError γ} {g : β → Except FilterError δ} (h : Concur R x y)
    (hfg : ∀ a b, R a b → Concur S (f a) (g b)) : Concur S (x.bind f) (y.bind g) := by
  cases h with
  | ok h => exact hfg _ _ h
  | error h => exact .error h

theorem mapM {ι : Type} {f : ι → Except FilterError α} {g : ι → Except FilterError β} {is : List ι}
    (h : ∀ i ∈ is, Concur R (f i) (g i)) :
    Concur (List.Forall₂ R) (is.mapM f) (is.mapM g) := by
  induction is with
  | nil => exact .ok .nil
  | cons i is ih =>
    rw [List.mapM_cons, List.mapM_cons]
    refine (h i List.mem_cons_self).bind fun a b hab ↦ ?_
    refine (ih fun j hj ↦ h j (List.mem_cons_of_mem _ hj)).bind fun as bs habs ↦ ?_
    exact .ok (.cons hab habs)

theorem mapM_eq {ι : Type} {f : ι → Except FilterError α} {g : ι → Except FilterError β}
    {is : List ι} {change : α → β} (h : ∀ i ∈ is, Concur (fun a b ↦ b = change a) (f i) (g i)) :
    Concur (fun as bs ↦ bs = as.map change) (is.mapM f) (is.mapM g) := by
  refine (Concur.mapM h).imp fun as bs hall ↦ ?_
  rw [← List.forall₂_eq_eq_eq, List.forall₂_map_right_iff]
  exact hall.flip

end Concur

/-! ## Descriptors -/

theorem FilterError.code_atClause (e : FilterError) (index : Nat) :
    (e.atClause index).code = e.code := by
  cases e <;> simp [atClause, code]

namespace Schema

variable {ρ : Type} {s : Schema ρ} {o : CompileOptions}

/-- Descriptors concur with their conditions, which can be lowered together. -/
theorem IsProvided.concur_compile (hs : s.IsProvided) (ds : List Descriptor) :
    Concur (fun cs c ↦ s.lower (aggregate cs) = .ok c) (ds.mapM (s.conditionOf o))
      (s.compile o ds) := by
  cases h : ds.mapM (s.conditionOf o) with
  | ok cs =>
    have hcs := map_eq_map_ok_iff.mpr (mapM_eq_ok_iff.mp h)
    obtain ⟨c, hc⟩ := hs.exists_lower hcs
    rw [compile_eq_ok_iff.mpr ⟨cs, hcs, hc⟩]
    exact .ok hc
  | error e =>
    obtain ⟨before, d, after, rfl, hbefore, hd⟩ := mapM_eq_error_iff.mp h
    have hnone : ∀ d' ∈ before, ∀ e', ¬ s.Fails o d' e' := by
      intro d' hd' e' he'
      obtain ⟨k, hk⟩ := hbefore d' hd'
      rw [fails_iff.mp he'] at hk
      cases hk
    obtain ⟨ks, hks⟩ := exists_conditions hnone
    have houtcomes : ∃ rest, s.outcomes o (before ++ d :: after)
        = ks.map .ok ++ .error (e.atClause before.length) :: rest := by
      rw [outcomes, List.map_append, List.map_cons, hd, List.mapIdx_append, List.mapIdx_cons,
        mapIdx_tagClause_eq_map_ok_iff.mpr hks, List.length_map, Nat.zero_add]
      exact ⟨_, rfl⟩
    obtain ⟨rest, houtcomes⟩ := houtcomes
    obtain ⟨f, hf, hcode⟩ := Mode.exists_collect_eq_error ks (e.atClause before.length) rest
    rw [hs.compile_eq_error_iff.mpr (houtcomes ▸ hf)]
    exact .error (hcode.trans (e.code_atClause _)).symm

/-- The condition of a descriptor whose operator is supported, by what its value is coerced to. -/
theorem conditionOf_eq {d : Descriptor} {found : Resolved ρ}
    (hfound : s.resolve o.caseSensitive d.path.text = .ok found)
    (hop : found.property.shape.supports d.operator = true) :
    s.conditionOf o d
      = (Coercion.coerce found.path d.value found.property.shape d.operator).map fun operand ↦
          ⟨found.path, d.connective,
            .compare ⟨found.path, d.operator, found.property.shape, operand⟩⟩ := by
  rw [conditionOf, hfound]
  change condition d found = _
  rw [condition]
  cases Coercion.coerce found.path d.value found.property.shape d.operator with
  | error e => rfl
  | ok operand =>
    have hsupported :
        Property.ensureSupported found.property.shape d.operator found.path = .ok () :=
      ensureSupported_eq_ok_iff.mpr hop
    simp only [bind, Except.bind, hsupported]
    rfl

end Schema

end RecordFilter
