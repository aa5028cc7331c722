import RecordFilter.Proofs.Compile.Failures

/-!
# Runs that go in parallel

Compiling can be done twice with paths that are spelled or placed differently.
The two runs go in parallel (`Parallel`) if both give results, which are related,
or both give errors that differ in their texts only (`FilterError.outline`).
Every step of compilation keeps this: steps one after the other, lists of steps,
the collection of their outcomes in either mode, and the traversal of a formula.
-/

namespace RecordFilter

universe u v

/-! ## Errors without their texts -/

namespace FilterError

mutual

/-- What is left of an error without its texts: its variant, its code and its clause. -/
def outline : FilterError → FilterError
  | malformed code clause _ _ _ => malformed code clause "" "" none
  | propertyNotFound _ _ _ clause code => propertyNotFound "" "" "" clause code
  | coercion code _ _ _ _ clause => coercion code "" "" "" "" clause
  | unsupported _ _ _ clause code => unsupported "" "" "" clause code
  | invalidDescriptor reason => invalidDescriptor { reason with message := "" }
  | multiple errors => multiple (outlineAll errors)

def outlineAll : List FilterError → List FilterError
  | [] => []
  | e :: es => outline e :: outlineAll es

end

theorem outlineAll_eq_map (errors : List FilterError) : outlineAll errors = errors.map outline := by
  induction errors with
  | nil => rw [outlineAll, List.map_nil]
  | cons e errors ih => rw [outlineAll, ih, List.map_cons]

@[simp] theorem outline_multiple (errors : List FilterError) :
    (multiple errors).outline = multiple (errors.map outline) := by
  rw [outline, outlineAll_eq_map]

/-- The code is part of what is left. -/
theorem code_outline (e : FilterError) : e.outline.code = e.code := by
  induction e using code.induct with
  | case6 => rw [outline_multiple, List.map_nil]
  | case7 e errors ih => simpa [code] using ih
  | _ => simp [outline, code]

/-- The clause is part of what is left. -/
theorem clause?_outline (e : FilterError) : e.outline.clause? = e.clause? := by
  induction e using clause?.induct with
  | case6 => rw [outline_multiple, List.map_nil]
  | case7 e errors ih => simpa [clause?] using ih
  | _ => simp [outline, clause?]

mutual

theorem flatten_outline : ∀ e : FilterError, e.outline.flatten = e.flatten.map outline
  | malformed .. | propertyNotFound .. | coercion .. | unsupported .. | invalidDescriptor _ => by
    simp [outline, flatten]
  | multiple errors => by
    rw [outline, flatten, flatten]
    exact flattenAll_outlineAll errors

theorem flattenAll_outlineAll :
    ∀ errors : List FilterError, flattenAll (outlineAll errors) = (flattenAll errors).map outline
  | [] => by simp [outlineAll, flattenAll]
  | e :: errors => by
    rw [outlineAll, flattenAll, flattenAll, flatten_outline e, flattenAll_outlineAll errors,
      List.map_append]

end

/-- Errors that differ in their texts only consist of single errors with the same codes and
clauses. -/
theorem flatten_codes_of_outline_eq {e f : FilterError} (h : e.outline = f.outline) :
    e.flatten.map (fun e ↦ (e.code, e.clause?)) = f.flatten.map fun e ↦ (e.code, e.clause?) := by
  have hcodes : ∀ e : FilterError, e.outline.flatten.map (fun e ↦ (e.code, e.clause?))
      = e.flatten.map fun e ↦ (e.code, e.clause?) := by
    intro e
    simp [flatten_outline, Function.comp_def, code_outline, clause?_outline]
  rw [← hcodes e, h, hcodes f]

theorem outline_atClause (e : FilterError) (index : Nat) :
    (e.atClause index).outline = e.outline.atClause index := by
  cases e with
  | multiple errors =>
    rw [outline_multiple]
    exact outline_multiple errors
  | _ => simp [atClause, outline]

end FilterError

/-! ## Two outcomes -/

/-- Whether two outcomes are results in a relation, or errors that differ in their texts only. -/
inductive Parallel {α : Type u} {β : Type v} (R : α → β → Prop) :
    Except FilterError α → Except FilterError β → Prop
  | ok {a : α} {b : β} (h : R a b) : Parallel R (.ok a) (.ok b)
  | error {e f : FilterError} (h : e.outline = f.outline) : Parallel R (.error e) (.error f)

namespace Parallel

variable {α β γ δ : Type} {R : α → β → Prop} {S : γ → δ → Prop}

theorem refl {R : α → α → Prop} (hR : ∀ a, R a a) (x : Except FilterError α) :
    Parallel R x x := by
  cases x with
  | ok a => exact .ok (hR a)
  | error e => exact .error rfl

theorem imp {R' : α → β → Prop} (hR : ∀ a b, R a b → R' a b) {x : Except FilterError α}
    {y : Except FilterError β} (h : Parallel R x y) : Parallel R' x y := by
  cases h with
  | ok h => exact .ok (hR _ _ h)
  | error h => exact .error h

theorem exists_ok {a : α} {y : Except FilterError β} (h : Parallel R (.ok a) y) :
    ∃ b, y = .ok b ∧ R a b := by
  cases h with
  | ok h => exact ⟨_, rfl, h⟩

theorem exists_error {e : FilterError} {y : Except FilterError β} (h : Parallel R (.error e) y) :
    ∃ f, y = .error f ∧ e.outline = f.outline := by
  cases h with
  | error h => exact ⟨_, rfl, h⟩

/-- The related results are those of the two outcomes. -/
theorem with_eq {x : Except FilterError α} {y : Except FilterError β} (h : Parallel R x y) :
    Parallel (fun a b ↦ R a b ∧ x = .ok a) x y := by
  cases h with
  | ok h => exact .ok ⟨h, rfl⟩
  | error h => exact .error h

theorem trans {T : β → γ → Prop} {x : Except FilterError α} {y : Except FilterError β}
    {z : Except FilterError γ} (hxy : Parallel R x y) (hyz : Parallel T y z) :
    Parallel (fun a c ↦ ∃ b, R a b ∧ T b c) x z := by
  cases hxy with
  | ok hab =>
    cases hyz with
    | ok hbc => exact .ok ⟨_, hab, hbc⟩
  | error hef =>
    cases hyz with
    | error hfg => exact .error (hef.trans hfg)

/-- Steps that follow parallel ones and go in parallel themselves. -/
theorem bind {x : Except FilterError α} {y : Except FilterError β} {f : α → Except FilterError γ}
    {g : β → Except FilterError δ} (h : Parallel R x y)
    (hfg : ∀ a b, R a b → Parallel S (f a) (g b)) : Parallel S (x.bind f) (y.bind g) := by
  cases h with
  | ok h => exact hfg _ _ h
  | error h => exact .error h

theorem map {x : Except FilterError α} {y : Except FilterError β} {f : α → γ} {g : β → δ}
    (h : Parallel R x y) (hfg : ∀ a b, R a b → S (f a) (g b)) : Parallel S (x.map f) (y.map g) := by
  cases h with
  | ok h => exact .ok (hfg _ _ h)
  | error h => exact .error h

theorem mapM {ι : Type} {f : ι → Except FilterError α} {g : ι → Except FilterError β} {is : List ι}
    (h : ∀ i ∈ is, Parallel R (f i) (g i)) :
    Parallel (List.Forall₂ R) (is.mapM f) (is.mapM g) := by
  induction is with
  | nil => exact .ok .nil
  | cons i is ih =>
    rw [List.mapM_cons, List.mapM_cons]
    refine (h i List.mem_cons_self).bind fun a b hab ↦ ?_
    refine (ih fun j hj ↦ h j (List.mem_cons_of_mem _ hj)).bind fun as bs habs ↦ ?_
    exact .ok (.cons hab habs)

/-! ## Many outcomes -/

theorem tagClause {x : Except FilterError α} {y : Except FilterError β} (h : Parallel R x y)
    (index : Nat) : Parallel R (Schema.tagClause index x) (Schema.tagClause index y) := by
  cases h with
  | ok h => exact .ok h
  | error h =>
    refine .error ?_
    rw [FilterError.outline_atClause, FilterError.outline_atClause, h]

theorem mapIdx_tagClause {xs : List (Except FilterError α)} {ys : List (Except FilterError β)}
    (h : List.Forall₂ (Parallel R) xs ys) :
    List.Forall₂ (Parallel R) (xs.mapIdx Schema.tagClause) (ys.mapIdx Schema.tagClause) := by
  refine List.forall₂_iff_get.mpr ⟨by simpa using h.length_eq, fun i hx hy ↦ ?_⟩
  have hi := h.get (by simpa using hx) (by simpa using hy)
  simpa using hi.tagClause i

theorem upToError {xs : List (Except FilterError α)} {ys : List (Except FilterError β)}
    (h : List.Forall₂ (Parallel R) xs ys) :
    List.Forall₂ (Parallel R) (upToError xs) (upToError ys) := by
  induction h with
  | nil => exact .nil
  | cons hxy hrest ih =>
    cases hxy with
    | ok hab => exact .cons (.ok hab) ih
    | error hef => exact .cons (.error hef) .nil

theorem errorsOf {xs : List (Except FilterError α)} {ys : List (Except FilterError β)}
    (h : List.Forall₂ (Parallel R) xs ys) :
    (errorsOf xs).map FilterError.outline = (errorsOf ys).map FilterError.outline := by
  induction h with
  | nil => rfl
  | cons hxy _ ih =>
    cases hxy with
    | ok hab => exact ih
    | error hef => exact congrArg₂ List.cons hef ih

theorem resultsOf {xs : List (Except FilterError α)} {ys : List (Except FilterError β)}
    (h : List.Forall₂ (Parallel R) xs ys) :
    List.Forall₂ R (resultsOf xs) (resultsOf ys) := by
  induction h with
  | nil => exact .nil
  | cons hxy _ ih =>
    cases hxy with
    | ok hab => exact .cons hab ih
    | error hef => exact ih

/-- What is reported for errors that differ in their texts only, or for none. -/
theorem report {es fs : List FilterError} {a : α} {b : β}
    (h : es.map FilterError.outline = fs.map FilterError.outline) (hab : R a b) :
    Parallel R (FilterError.unless es a) (FilterError.unless fs b) := by
  match es, fs with
  | [], [] => exact .ok hab
  | [e], [f] => exact .error (List.cons.inj h).1
  | e :: e' :: es, f :: f' :: fs =>
    refine .error ?_
    rw [FilterError.outline_multiple, FilterError.outline_multiple, h]
  | [_], _ :: _ :: _ | _ :: _ :: _, [_] => simp at h

/-- The collection of parallel outcomes, in either mode. -/
theorem collect {xs : List (Except FilterError α)} {ys : List (Except FilterError β)} (mode : Mode)
    (h : List.Forall₂ (Parallel R) xs ys) :
    Parallel (List.Forall₂ R) (mode.collect xs) (mode.collect ys) := by
  have hseen : List.Forall₂ (Parallel R) (mode.select xs) (mode.select ys) := by
    cases mode with
    | fast => exact upToError h
    | analysis => exact h
  exact report (errorsOf hseen) (resultsOf hseen)

/-! ## Formulas -/

/-- A formula and the same one with its atoms replaced. -/
theorem traverse {f : α → Except FilterError γ} {g : β → Except FilterError δ} {atom : α → β}
    {result : γ → δ} {p : Formula α}
    (h : ∀ a ∈ p.atoms, Parallel (fun c d ↦ d = result c) (f a) (g (atom a))) :
    Parallel (fun q q' ↦ q' = q.map result) (p.traverse f) ((p.map atom).traverse g) := by
  induction p with
  | atom a =>
    refine (h a (List.mem_singleton_self a)).map fun c d hcd ↦ ?_
    rw [hcd, Formula.map]
  | and l r ihl ihr | or l r ihl ihr =>
    refine (ihl fun a ha ↦ h a (List.mem_append_left _ ha)).bind fun ql ql' hl ↦ ?_
    refine (ihr fun a ha ↦ h a (List.mem_append_right _ ha)).bind fun qr qr' hr ↦ ?_
    refine .ok ?_
    rw [hl, hr, Formula.map]

end Parallel

/-! ## The steps of a condition -/

namespace Coercion

/-! What is said of a value depends on the path of its property in the texts only, and what is said
of an element on the list that it stands in. -/

variable {path path' : String} {raw raw' : Raw} {k : Kind} {nullable : Bool}

theorem parallel_coerceScalar :
    Parallel Eq (coerceScalar path raw k) (coerceScalar path' raw k) := by
  rw [coerceScalar, coerceScalar]
  cases convert raw k with
  | ok v => exact .ok rfl
  | error m => exact .error rfl

theorem parallel_coerceSingle :
    Parallel Eq (coerceSingle path raw k nullable) (coerceSingle path' raw k nullable) := by
  rw [coerceSingle, coerceSingle]
  split
  · exact .error rfl
  · split
    · exact .ok rfl
    · exact parallel_coerceScalar.map fun _ _ h ↦ congrArg Datum.single h

theorem parallel_coerceElement {element : Raw} :
    Parallel Eq (coerceElement path raw k nullable element)
      (coerceElement path' raw' k nullable element) := by
  rw [coerceElement, coerceElement]
  split
  · split
    · exact .ok rfl
    · exact .error rfl
  · exact parallel_coerceScalar.map fun _ _ h ↦ congrArg some h

/-- Of a raw value only the elements count where a list is wanted. -/
theorem parallel_coerceMany (helements : raw.elements = raw'.elements) :
    Parallel Eq (coerceMany path raw k nullable) (coerceMany path' raw' k nullable) := by
  rw [coerceMany, coerceMany, helements]
  refine (Parallel.mapM fun _ _ ↦ parallel_coerceElement).map fun as bs h ↦ ?_
  rw [List.forall₂_eq_eq_eq] at h
  rw [h]

theorem parallel_coerce (path path' : String) (raw : Raw) (shape : Shape) (operator : Operator) :
    Parallel Eq (coerce path raw shape operator) (coerce path' raw shape operator) := by
  simp only [coerce]
  split
  · split
    · exact parallel_coerceSingle
    · exact parallel_coerceMany rfl
    · exact parallel_coerceMany rfl
    · split
      · exact parallel_coerceMany rfl
      · exact parallel_coerceSingle
  · split
    · exact parallel_coerceMany rfl
    · exact parallel_coerceSingle

end Coercion

namespace Property

theorem parallel_ensureSupported (path path' : String) (shape : Shape) (operator : Operator) :
    Parallel Eq (ensureSupported shape operator path) (ensureSupported shape operator path') := by
  rw [ensureSupported, ensureSupported]
  split
  · exact .ok rfl
  · exact .error rfl

/-- What is said of an operand that does not fit depends on the path in the texts only. -/
theorem parallel_test_ofPart {ρ σ : Type} (p : Property σ) (part : ρ → σ) (path path' : String)
    (operator : Operator) (operand : Datum) :
    Parallel (fun test test' ↦ test' = test ∘ part) (p.test path operator operand)
      ((p.ofPart part).test path' operator operand) := by
  refine (parallel_ensureSupported path path' p.shape operator).bind fun _ _ _ ↦ ?_
  simp only [ofPart]
  cases p.test? operator operand with
  | some test => exact .ok rfl
  | none => exact .error rfl

end Property

/-! ## Compiling -/

namespace Schema

variable {ρ σ : Type} {s : Schema σ} {s' : Schema ρ}

/-- A predicate and the same one with its atoms replaced, where their tests go in parallel. -/
theorem parallel_lower {part : ρ → σ} {atom : Atom → Atom} {p : Predicate}
    (h : ∀ a ∈ p.atoms, Parallel (fun test test' ↦ test' = test ∘ part) (s.atomTest a)
      (s'.atomTest (atom a))) :
    Parallel (fun c c' ↦ c'.expression = c.expression.map atom ∧
      ∀ r, c'.accepts r = c.accepts (part r)) (s.lower p) (s'.lower (p.map atom)) := by
  refine (Parallel.traverse h).bind fun tests tests' htests ↦ .ok ⟨rfl, fun r ↦ ?_⟩
  rw [htests]
  exact Formula.eval_map (· ∘ part) (fun test ↦ test r) tests

/-- Descriptors compile in parallel if their conditions do and can be lowered in parallel. -/
theorem parallel_compile {R : Condition → Condition → Prop} {S : Compiled σ → Compiled ρ → Prop}
    {o : CompileOptions} {ds ds' : List Descriptor}
    (hconditions : List.Forall₂ (fun d d' ↦ Parallel R (s.conditionOf o d) (s'.conditionOf o d'))
      ds ds')
    (hlower : ∀ cs cs', List.Forall₂ R cs cs' →
      Parallel S (s.lower (aggregate cs)) (s'.lower (aggregate cs'))) :
    Parallel S (s.compile o ds) (s'.compile o ds') := by
  rw [compile, compile]
  refine (Parallel.collect o.mode (Parallel.mapIdx_tagClause ?_)).bind hlower
  rwa [List.forall₂_map_left_iff, List.forall₂_map_right_iff]

end Schema

end RecordFilter
