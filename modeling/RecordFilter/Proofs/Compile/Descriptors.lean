import RecordFilter.Proofs.Compile.Lowering

/-!
# Compiling descriptors one by one

Compiling a list of descriptors turns each of them into a condition, and fails
as soon as one of them does not become one.  What a descriptor becomes depends
on the descriptor alone: its place in the list only shows in the errors, and
its connective is handed on as it is.  So a list compiles exactly when each of
its descriptors has a condition and the conditions, taken together, can be
lowered.
-/

namespace RecordFilter

namespace Schema

variable {ρ : Type} {s : Schema ρ} {o : CompileOptions}

/-! ## Conditions -/

/-- A descriptor becomes a condition when its path resolves, its value is coerced and its operator
is supported; the condition is a comparison under the path that was found. -/
theorem conditionOf_eq_ok_iff {d : Descriptor} {c : Condition} :
    s.conditionOf o d = .ok c ↔
      ∃ found operand, s.resolve o.caseSensitive d.path.text = .ok found ∧
        Coercion.coerce found.path d.value found.property.shape d.operator = .ok operand ∧
        Property.ensureSupported found.property.shape d.operator found.path = .ok () ∧
        c = ⟨found.path, d.connective,
          .compare ⟨found.path, d.operator, found.property.shape, operand⟩⟩ := by
  rw [conditionOf, bind_eq_ok_iff]
  constructor
  · rintro ⟨found, hfound, h⟩
    obtain ⟨operand, hoperand, h⟩ := bind_eq_ok_iff.mp h
    obtain ⟨⟨⟩, hsupported, h⟩ := bind_eq_ok_iff.mp h
    cases h
    exact ⟨found, operand, hfound, hoperand, hsupported, rfl⟩
  · rintro ⟨found, operand, hfound, hoperand, hsupported, rfl⟩
    refine ⟨found, hfound, ?_⟩
    exact bind_eq_ok_iff.mpr ⟨operand, hoperand, bind_eq_ok_iff.mpr ⟨(), hsupported, rfl⟩⟩

/-- The condition of a descriptor hands its connective on and does not depend on it otherwise. -/
theorem conditionOf_with_connective {d : Descriptor} {c : Condition}
    (h : s.conditionOf o d = .ok c) (connective : Option Connective) :
    s.conditionOf o { d with connective } = .ok { c with connective } := by
  obtain ⟨found, operand, hfound, hoperand, hsupported, rfl⟩ := conditionOf_eq_ok_iff.mp h
  exact conditionOf_eq_ok_iff.mpr ⟨found, operand, hfound, hoperand, hsupported, rfl⟩

/-! ## Lists of descriptors -/

@[simp] theorem tagClause_eq_ok_iff {α : Type} {index : Nat} {outcome : Except FilterError α}
    {a : α} : tagClause index outcome = .ok a ↔ outcome = .ok a := by
  cases outcome with
  | error e => constructor <;> intro h <;> cases h
  | ok b => exact Iff.rfl

/-- Saying which clause an outcome belongs to changes no result. -/
theorem mapIdx_tagClause_eq_map_ok_iff {α : Type} {outcomes : List (Except FilterError α)}
    {as : List α} : outcomes.mapIdx tagClause = as.map .ok ↔ outcomes = as.map .ok := by
  simp only [List.ext_getElem?_iff, List.getElem?_mapIdx, List.getElem?_map]
  refine forall_congr' fun i ↦ ?_
  cases outcomes[i]? <;> cases as[i]? <;> simp

/-- Descriptors compile exactly when each has a condition and the conditions together can be
lowered. -/
theorem compile_eq_ok_iff {ds : List Descriptor} {c : Compiled ρ} :
    s.compile o ds = .ok c ↔
      ∃ cs, ds.map (s.conditionOf o) = cs.map .ok ∧ s.lower (aggregate cs) = .ok c := by
  rw [compile, outcomes]
  constructor
  · intro h
    obtain ⟨cs, hcs, hc⟩ := bind_eq_ok_iff.mp h
    exact ⟨cs, mapIdx_tagClause_eq_map_ok_iff.mp (Mode.collect_eq_ok_iff.mp hcs), hc⟩
  · rintro ⟨cs, hcs, hc⟩
    refine bind_eq_ok_iff.mpr ⟨cs, ?_, hc⟩
    exact Mode.collect_eq_ok_iff.mpr (mapIdx_tagClause_eq_map_ok_iff.mpr hcs)

/-- A single descriptor compiles to what the predicate of its condition is lowered to. -/
theorem compile_singleton_eq_ok_iff {d : Descriptor} {c : Compiled ρ} :
    s.compile o [d] = .ok c ↔ ∃ k, s.conditionOf o d = .ok k ∧ s.lower k.predicate = .ok c := by
  rw [compile_eq_ok_iff]
  constructor
  · rintro ⟨cs, hcs, hc⟩
    obtain ⟨k, rfl⟩ : ∃ k, cs = [k] :=
      List.length_eq_one_iff.mp (by simpa using (congrArg List.length hcs).symm)
    exact ⟨k, (List.cons.inj hcs).1, hc⟩
  · rintro ⟨k, hk, hc⟩
    exact ⟨[k], congrArg (fun x ↦ [x]) hk, hc⟩

/-- The predicate of a single descriptor is that of its condition. -/
theorem expression_of_compile_singleton {d : Descriptor} {k : Condition} {c : Compiled ρ}
    (hk : s.conditionOf o d = .ok k) (h : s.compile o [d] = .ok c) :
    c.expression = k.predicate := by
  obtain ⟨k', hk', hc⟩ := compile_singleton_eq_ok_iff.mp h
  obtain rfl : k = k' := Except.ok.inj (hk.symm.trans hk')
  exact (lower_eq_ok hc).1

end Schema

end RecordFilter
