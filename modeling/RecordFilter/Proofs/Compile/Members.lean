import RecordFilter.Proofs.Compile.Complements
import RecordFilter.Proofs.Compile.Concur
import RecordFilter.Proofs.Scalar.Coercing
import RecordFilter.Proofs.Schema.Members

/-!
# Lists of members and chains of alternatives

One condition can ask for a member of a list, and several conditions for one
value each, joined by `or`.  The list is coerced at once and tested in one go;
the chain is coerced, lowered and folded value by value.  They concur all the
same (`Schema.members_alternatives`).  What carries this is that both look at
the list element by element and in order: both have an operand as long as each
element is coerced, and are refused for the first that is not.
-/

namespace RecordFilter

/-! ## Chains -/

/-- Things made of the elements of a list, of which all but the first are joined by `or`. -/
def orChain {α β : Type} (make : Option Connective → α → β) : List α → List β
  | [] => []
  | a :: as => make none a :: as.map (make (some .or))

/-- The conditions that a property satisfies an operator with one of some values. -/
def Descriptor.anyOf (operator : Operator) (path : Path) (vs : List Raw) : List Descriptor :=
  orChain (⟨·, operator, path, ·⟩) vs

/-- Chains concur if what they are made of does. -/
theorem Concur.orChain {α β γ δ : Type} {F : α → Except FilterError γ}
    {G : β → Except FilterError δ} {f : Option Connective → α → β}
    {g : Option Connective → γ → δ} (h : ∀ k a, Concur (fun c d ↦ d = g k c) (F a) (G (f k a)))
    (as : List α) :
    Concur (fun cs ds ↦ ds = RecordFilter.orChain g cs) (as.mapM F)
      ((RecordFilter.orChain f as).mapM G) := by
  cases as with
  | nil => exact .ok rfl
  | cons a as =>
    rw [RecordFilter.orChain, List.mapM_cons, List.mapM_cons, List.mapM_map]
    refine (h none a).bind fun c d hd ↦ ?_
    refine (Concur.mapM_eq fun a' _ ↦ h (some .or) a').bind fun cs ds hds ↦ .ok ?_
    rw [hd, hds, RecordFilter.orChain]

/-- Conditions on one path that are joined by `or` stay in one group. -/
theorem groupsFrom_or {path : String} {cs : List Condition}
    (h : ∀ c ∈ cs, c.path = path ∧ c.connective = some .or) (current : Predicate) :
    groupsFrom path current cs = [cs.foldl (fun p c ↦ .or p c.predicate) current] := by
  induction cs generalizing current with
  | nil => rfl
  | cons c cs ih =>
    obtain ⟨⟨hpath, hor⟩, hcs⟩ := List.forall_mem_cons.mp h
    simp only [groupsFrom, hor, hpath, if_true]
    exact ih hcs _

theorem eval_foldl_or (v : Atom → Bool) (cs : List Condition) (current : Predicate) :
    (cs.foldl (fun p c ↦ Formula.or p c.predicate) current).eval v
      = (current.eval v || cs.any (·.predicate.eval v)) := by
  induction cs generalizing current with
  | nil => simp
  | cons c cs ih => simp [ih, Bool.or_assoc]

/-- A chain of conditions on one path holds where one of them does. -/
theorem eval_aggregate_orChain {α : Type} (v : Atom → Bool) (path : String)
    (predicate : α → Predicate) {as : List α} (h : as ≠ []) :
    (aggregate (orChain (fun k a ↦ ⟨path, k, predicate a⟩) as)).eval v
      = as.any fun a ↦ (predicate a).eval v := by
  cases as with
  | nil => exact absurd rfl h
  | cons a as =>
    let rest : List Condition := as.map fun a ↦ ⟨path, some .or, predicate a⟩
    have hgroup : groupsFrom path (predicate a) rest
        = [rest.foldl (fun p c ↦ .or p c.predicate) (predicate a)] := by
      apply groupsFrom_or
      simp [rest]
    have haggregate : aggregate (⟨path, none, predicate a⟩ :: rest)
        = rest.foldl (fun p c ↦ .or p c.predicate) (predicate a) := by
      rw [aggregate, groups, hgroup]
      rfl
    rw [orChain, haggregate, eval_foldl_or, List.any_cons, List.any_map]
    rfl

namespace Schema

variable {ρ : Type} {s : Schema ρ} {o : CompileOptions} {path : Path} {found : Resolved ρ}
  {operator : Operator}

/-- A record satisfies a comparison on a path that was resolved where it passes the test of the
property. -/
theorem IsProvided.atomHolds_compare (hs : s.IsProvided)
    (hfound : s.resolve o.caseSensitive path.text = .ok found)
    (hop : found.property.shape.supports operator = true) (shape : Shape) (operand : Datum)
    (r : ρ) : s.atomHolds r (.compare ⟨found.path, operator, shape, operand⟩)
      = found.property.passes operator operand r := by
  have hagain := hs.resolve_found hfound
  have hatom : s.atomTest (.compare ⟨found.path, operator, shape, operand⟩)
      = found.property.test found.path operator operand := by
    simp only [atomTest, hagain, bind, Except.bind]
  cases htest : found.property.test? operator operand with
  | some test =>
    rw [atomHolds_of_atomTest (hatom.trans (Property.test_eq_ok found.path hop htest)),
      Property.passes_of_test? htest]
  | none =>
    have hsupported : Property.ensureSupported found.property.shape operator found.path = .ok () :=
      ensureSupported_eq_ok_iff.mpr hop
    rw [atomHolds, hatom, Property.test, Property.passes, hsupported, htest]
    rfl

/-- A chain of conditions on a path concurs with the coercion of their values, one after the other,
and accepts the records that pass the test with one of the operands. -/
theorem IsProvided.concur_anyOf (hs : s.IsProvided)
    (hfound : s.resolve o.caseSensitive path.text = .ok found)
    (hop : found.property.shape.supports operator = true) {vs : List Raw} (hvs : vs ≠ []) :
    Concur (fun operands c ↦ ∀ r,
        c.accepts r = operands.any fun operand ↦ found.property.passes operator operand r)
      (vs.mapM fun v ↦ Coercion.coerce found.path v found.property.shape operator)
      (s.compile o (Descriptor.anyOf operator path vs)) := by
  let shape := found.property.shape
  let comparison (operand : Datum) : Predicate :=
    .compare ⟨found.path, operator, shape, operand⟩
  have hconditions : Concur
      (fun operands cs ↦
        cs = orChain (fun k operand ↦ ⟨found.path, k, comparison operand⟩) operands)
      (vs.mapM fun v ↦ Coercion.coerce found.path v shape operator)
      ((Descriptor.anyOf operator path vs).mapM (s.conditionOf o)) := by
    apply Concur.orChain
    intro k v
    rw [conditionOf_eq (d := ⟨k, operator, path, v⟩) hfound hop]
    exact Concur.map_self _
  have hlower := hs.concur_compile (o := o) (Descriptor.anyOf operator path vs)
  refine (hconditions.with_eq.trans hlower).imp ?_
  rintro operands c ⟨cs, ⟨rfl, hoperands⟩, hc⟩ r
  have hne : operands ≠ [] := by
    rintro rfl
    exact hvs (List.forall₂_nil_right_iff.mp (mapM_eq_ok_iff.mp hoperands))
  rw [(lower_eq_ok hc).2 r, eval_aggregate_orChain _ _ _ hne]
  congr 1
  funext operand
  exact hs.atomHolds_compare hfound hop shape operand r

end Schema

/-! ## Members -/

namespace Coercion

variable {path : String} {shape : Shape} {v : Raw} {vs : List Raw} {ws : List (Option Scalar)}

/-- A value that is no list is coerced on its own as it is among others. -/
theorem concur_coerceElement (raw : Raw) (hv : v.isList = false) :
    Concur (fun w operand ↦ operand = .ofOption w)
      (coerceElement path raw shape.element shape.admitsNull v)
      (coerceSingle path v shape.element shape.admitsNull) := by
  have hsingle : v.IsSingle v := .inr ⟨rfl, hv⟩
  cases h : coerceElement path raw shape.element shape.admitsNull v with
  | ok w =>
    have hgives := coerceElement_eq_ok_iff.mp h
    rw [(coerceSingle_eq_ok_iff_gives hsingle).mpr ⟨w, hgives, rfl⟩]
    exact .ok rfl
  | error e =>
    have hoffends := (coerceElement_eq_error_iff raw).mp ⟨e, h, rfl⟩
    obtain ⟨e', he', hcode⟩ := (coerceSingle_eq_error_iff_offends hsingle).mpr hoffends
    rw [he']
    exact .error hcode.symm

section Lists

variable (path) (hshape : shape.isSequence = false)

include hshape

/-- A list of members is coerced element by element. -/
theorem concur_members (vs : List Raw) :
    Concur (fun ws operands ↦ operands = [Datum.ofOptions ws])
      (vs.mapM (coerceElement path (.list vs) shape.element shape.admitsNull))
      ([Raw.list vs].mapM fun v ↦ coerce path v shape .containsOnValue) := by
  have hop : shape.supports .containsOnValue = true := by simp [Shape.supports, hshape]
  rw [List.mapM_cons, List.mapM_nil, coerce_eq_many hop (wantsList_value hshape .containsOnValue),
    coerceMany, Raw.elements]
  cases vs.mapM (coerceElement path (.list vs) shape.element shape.admitsNull) with
  | ok ws => exact .ok rfl
  | error e => exact .error rfl

/-- Values that are no lists are coerced one by one as they are as members. -/
theorem concur_values (hvs : ∀ v ∈ vs, v.isList = false) :
    Concur (fun ws operands ↦ operands = ws.map Datum.ofOption)
      (vs.mapM (coerceElement path (.list vs) shape.element shape.admitsNull))
      (vs.mapM fun v ↦ coerce path v shape .equal) := by
  refine Concur.mapM_eq fun v hv ↦ ?_
  rw [coerce_eq_single (wantsList_value hshape .equal)]
  exact concur_coerceElement (.list vs) (hvs v hv)

end Lists

theorem Gives.eq_none_iff {w : Option Scalar} (h : Gives path shape v w) :
    w = none ↔ v = .null := by
  cases h with
  | null => simp
  | scalar h => simp [← isNull_eq_true_iff, isNull_of_coerceScalar h]

/-- There is a null among elements where there is one among what they are coerced to. -/
theorem none_mem_iff (h : List.Forall₂ (Gives path shape) vs ws) : none ∈ ws ↔ .null ∈ vs := by
  induction h with
  | nil => simp
  | cons hv _ ih => rw [List.mem_cons, List.mem_cons, ih, eq_comm, hv.eq_none_iff, eq_comm]

end Coercion

namespace Schema

variable {ρ : Type} {s : Schema ρ} {path : Path} {found : Resolved ρ} {vs : List Raw}

/-- Asking for a member of a list concurs with asking for its values one by one.  The list may be
of any length but empty, hold null and hold a value several times, and the property be a field or
computed, in a part of a record or not, as long as it is no list itself.  The two compile together
or fail with one code, and they accept the same records.  Only with a null in the list and over a
property that is computed against its shape, membership accepts more: the records where a list is
read. -/
theorem members_concur (hs : s.IsProvided) (o : CompileOptions)
    (hfound : s.resolve o.caseSensitive path.text = .ok found)
    (hshape : found.property.shape.isSequence = false) (hne : vs ≠ [])
    (hvs : ∀ v ∈ vs, v.isList = false) :
    Concur (fun c c' ↦
        (∀ r, c.accepts r = true ↔ c'.accepts r = true ∨
          (.null ∈ vs ∧ ¬ found.property.shape.Holds (found.property.read r))) ∧
        (found.property.MadeOf Shape.Holds → ∀ r, c.accepts r = c'.accepts r))
      (s.compileCondition o path (.list vs) .containsOnValue)
      (s.compile o (Descriptor.anyOf .equal path vs)) := by
  let shape := found.property.shape
  have hmember : shape.supports .containsOnValue = true := by simp [Shape.supports, shape, hshape]
  have hequal : shape.supports .equal = true := by simp [Shape.supports, shape, hshape]
  -- both sides concur with the coercion of the elements of the list, in order
  have hleft := (Coercion.concur_members found.path hshape vs).trans
    (hs.concur_anyOf hfound hmember (List.cons_ne_nil (Raw.list vs) []))
  have hright := (Coercion.concur_values found.path hshape hvs).trans
    (hs.concur_anyOf hfound hequal hne)
  refine (hleft.with_eq.symm.trans hright).imp ?_
  rintro c c' ⟨ws, ⟨⟨_, rfl, hc⟩, hws⟩, _, rfl, hc'⟩
  have hnull : none ∈ ws ↔ .null ∈ vs := by
    apply Coercion.none_mem_iff
    exact (mapM_eq_ok_iff.mp hws).imp fun _ _ ↦ Coercion.coerceElement_eq_ok_iff.mp
  have hform : ∀ w ∈ ws, Coercion.IsElement shape.element shape.admitsNull w := by
    have hmany : Coercion.coerceMany found.path (.list vs) shape.element shape.admitsNull
        = .ok (.ofOptions ws) := map_eq_ok_iff.mpr ⟨ws, hws, rfl⟩
    obtain ⟨ws', hws', hform⟩ := Coercion.coerceMany_eq_ok hmany
    rwa [← Datum.elements_ofOptions ws', ← hws', Datum.elements_ofOptions] at hform
  have hmade := (hs.isEntry _ (mem_entries_of_resolve hfound)).2
  have hiff : ∀ r, c.accepts r = true ↔ c'.accepts r = true ∨
      (.null ∈ vs ∧ ¬ shape.Holds (found.property.read r)) := by
    intro r
    have hr := hmade.passes_members_iff hshape hform r
    rw [hc, hc', ← hnull]
    simpa [List.any_map] using hr
  refine ⟨hiff, fun hholds r ↦ ?_⟩
  have hr := hholds.holds_read hshape r
  rw [Bool.eq_iff_iff, hiff r]
  exact or_iff_left fun h ↦ h.2 hr

/-- The number 5, twice, and null, asked for in a list and one by one. -/
theorem members_concur_score :
    ∃ c c', score.compileCondition {} scorePath (.list [.number "5", .null, .number "5"])
        .containsOnValue = .ok c ∧
      score.compile {} (Descriptor.anyOf .equal scorePath [.number "5", .null, .number "5"])
        = .ok c' ∧
      ∀ r, c.accepts r = c'.accepts r := by
  have hfound : score.resolve false scorePath.text = .ok ⟨"score", .nullable id⟩ := rfl
  have hne : [Raw.number "5", .null, .number "5"] ≠ [] := by simp
  have hconcur := members_concur score_isProvided {} hfound rfl hne (by simp [Raw.isList])
  obtain ⟨c, hc⟩ : ∃ c, score.compileCondition {} scorePath
      (.list [.number "5", .null, .number "5"]) .containsOnValue = .ok c := ⟨_, rfl⟩
  obtain ⟨c', hc'⟩ : ∃ c', score.compile {}
      (Descriptor.anyOf .equal scorePath [.number "5", .null, .number "5"]) = .ok c' := ⟨_, rfl⟩
  rw [hc, hc'] at hconcur
  cases hconcur with
  | ok h => exact ⟨c, c', hc, hc', h.2 (.nullable .int32 id)⟩

end Schema

end RecordFilter
