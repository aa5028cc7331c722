import Mathlib.Data.List.Forall2
import RecordFilter.Outcome

/-!
# When steps succeed

A sequence of two steps succeeds when both do.  A list of steps is collected
into a list of results when every step has one; which mode looks at the
outcomes shows in the errors only.
-/

namespace RecordFilter

universe u v

/-! ## Steps one after the other -/

/-- A sequence of two steps succeeds when both do. -/
theorem bind_eq_ok_iff {ε : Type} {α : Type u} {β : Type v} {x : Except ε α}
    {f : α → Except ε β} {b : β} : x.bind f = .ok b ↔ ∃ a, x = .ok a ∧ f a = .ok b := by
  cases x <;> simp [Except.bind]

/-- A mapped outcome is a result when the outcome is. -/
theorem map_eq_ok_iff {ε : Type} {α : Type u} {β : Type v} {x : Except ε α} {f : α → β} {b : β} :
    x.map f = .ok b ↔ ∃ a, x = .ok a ∧ f a = b := by
  cases x <;> simp [Except.map]

/-- A sequence of two steps fails when the first does, or the second after it. -/
theorem bind_eq_error_iff {ε : Type} {α : Type u} {β : Type v} {x : Except ε α}
    {f : α → Except ε β} {e : ε} :
    x.bind f = .error e ↔ x = .error e ∨ ∃ a, x = .ok a ∧ f a = .error e := by
  cases x <;> simp [Except.bind]

theorem map_eq_error_iff {ε : Type} {α : Type u} {β : Type v} {x : Except ε α} {f : α → β}
    {e : ε} : x.map f = .error e ↔ x = .error e := by
  cases x <;> simp [Except.map]

theorem mapError_eq_error_iff {ε ε' : Type} {α : Type u} {x : Except ε α} {f : ε → ε'} {e : ε'} :
    x.mapError f = .error e ↔ ∃ e₀, x = .error e₀ ∧ f e₀ = e := by
  cases x <;> simp [Except.mapError]

theorem toOption_eq_some_iff {ε : Type} {α : Type u} {x : Except ε α} {a : α} :
    x.toOption = some a ↔ x = .ok a := by
  cases x <;> simp [Except.toOption]

/-- A sequence of two steps that pass on a state succeeds when the second does in the state that the
first leaves. -/
theorem bind_state_eq_ok_iff {σ ε α β : Type} {x : StateT σ (Except ε) α}
    {f : α → StateT σ (Except ε) β} {s t : σ} {b : β} :
    (x >>= f) s = .ok (b, t) ↔ ∃ a s', x s = .ok (a, s') ∧ f a s' = .ok (b, t) := by
  cases hx : x s with
  | error e => simp [bind, StateT.bind, Except.bind, hx]
  | ok p =>
    obtain ⟨a, s'⟩ := p
    simp [bind, StateT.bind, Except.bind, hx]

/-- A list of steps succeeds when each of them does. -/
theorem mapM_eq_ok_iff {ε α β : Type} {f : α → Except ε β} {as : List α} {bs : List β} :
    as.mapM f = .ok bs ↔ List.Forall₂ (fun a b ↦ f a = .ok b) as bs := by
  induction as generalizing bs with
  | nil =>
    rw [List.mapM_nil, List.forall₂_nil_left_iff]
    constructor
    · rintro ⟨⟩
      rfl
    · rintro rfl
      rfl
  | cons a as ih =>
    rw [List.mapM_cons, List.forall₂_cons_left_iff]
    constructor
    · intro h
      obtain ⟨b, hb, h⟩ := bind_eq_ok_iff.mp h
      obtain ⟨bs', hbs, h⟩ := bind_eq_ok_iff.mp h
      cases h
      exact ⟨b, bs', hb, ih.mp hbs, rfl⟩
    · rintro ⟨b, bs', hb, hbs, rfl⟩
      exact bind_eq_ok_iff.mpr ⟨b, hb, bind_eq_ok_iff.mpr ⟨bs', ih.mpr hbs, rfl⟩⟩

/-- A list of checks succeeds when each of them does. -/
theorem forM_eq_ok_iff {ε α : Type} {f : α → Except ε Unit} {as : List α} :
    as.forM f = .ok () ↔ ∀ a ∈ as, f a = .ok () := by
  induction as with
  | nil =>
    constructor
    · intro _ a ha
      cases ha
    · intro _
      rfl
  | cons a as ih =>
    rw [List.forall_mem_cons, ← ih]
    constructor
    · intro h
      obtain ⟨⟨⟩, ha, has⟩ := bind_eq_ok_iff.mp h
      exact ⟨ha, has⟩
    · rintro ⟨ha, has⟩
      exact bind_eq_ok_iff.mpr ⟨(), ha, has⟩

/-- A list of steps fails where its first step does, or where the others do after it. -/
theorem mapM_cons_eq_error_iff {ε α β : Type} {f : α → Except ε β} {a : α} {as : List α} {e : ε} :
    (a :: as).mapM f = .error e ↔
      f a = .error e ∨ ((∃ b, f a = .ok b) ∧ as.mapM f = .error e) := by
  rw [List.mapM_cons]
  cases f a with
  | error e' => simp [bind, Except.bind]
  | ok b => cases as.mapM f <;> simp [bind, Except.bind, pure, Except.pure]

/-- A list of steps fails with the error of the first one that does. -/
theorem mapM_eq_error_iff {ε α β : Type} {f : α → Except ε β} {as : List α} {e : ε} :
    as.mapM f = .error e ↔ ∃ before a after, as = before ++ a :: after ∧
      (∀ a' ∈ before, ∃ b, f a' = .ok b) ∧ f a = .error e := by
  induction as with
  | nil =>
    constructor
    · intro h
      cases h
    · rintro ⟨before, a, after, has, -⟩
      cases before <;> cases has
  | cons first as ih =>
    rw [List.mapM_cons]
    constructor
    · intro h
      rcases bind_eq_error_iff.mp h with hfirst | ⟨b, hfirst, h⟩
      · exact ⟨[], first, as, rfl, by simp, hfirst⟩
      · rcases bind_eq_error_iff.mp h with hrest | ⟨bs, -, h⟩
        · obtain ⟨before, a, after, rfl, hbefore, ha⟩ := ih.mp hrest
          exact ⟨first :: before, a, after, rfl,
            List.forall_mem_cons.mpr ⟨⟨b, hfirst⟩, hbefore⟩, ha⟩
        · cases h
    · rintro ⟨before, a, after, has, hbefore, ha⟩
      cases before with
      | nil =>
        cases has
        exact bind_eq_error_iff.mpr (.inl ha)
      | cons first' before =>
        cases has
        obtain ⟨⟨b, hfirst⟩, hbefore⟩ := List.forall_mem_cons.mp hbefore
        have hrest := ih.mpr ⟨before, a, after, rfl, hbefore, ha⟩
        exact bind_eq_error_iff.mpr (.inr ⟨b, hfirst, bind_eq_error_iff.mpr (.inl hrest)⟩)

/-- A list of steps fails with the error of one of them. -/
theorem mapM_eq_error {ε α β : Type} {f : α → Except ε β} {as : List α} {e : ε}
    (h : as.mapM f = .error e) : ∃ a ∈ as, f a = .error e := by
  obtain ⟨before, a, after, rfl, -, ha⟩ := mapM_eq_error_iff.mp h
  exact ⟨a, List.mem_append_right _ List.mem_cons_self, ha⟩

/-- A list of steps has results when each of them has one. -/
theorem mapM_eq_some_iff {α β : Type} {f : α → Option β} {as : List α} {bs : List β} :
    as.mapM f = some bs ↔ List.Forall₂ (fun a b ↦ f a = some b) as bs := by
  induction as generalizing bs with
  | nil => simp [eq_comm]
  | cons a as ih =>
    rw [List.mapM_cons, List.forall₂_cons_left_iff]
    simp only [Option.bind_eq_bind, Option.bind_eq_some_iff, ih]
    constructor
    · rintro ⟨b, hb, bs', hbs, ⟨⟩⟩
      exact ⟨b, bs', hb, hbs, rfl⟩
    · rintro ⟨b, bs', hb, hbs, rfl⟩
      exact ⟨b, hb, bs', hbs, rfl⟩

/-- In a list of results each is that of some step. -/
theorem exists_of_mem_mapM {α β : Type} {f : α → Option β} {as : List α} {bs : List β}
    (h : as.mapM f = some bs) {b : β} (hb : b ∈ bs) : ∃ a ∈ as, f a = some b := by
  induction as generalizing bs with
  | nil =>
    cases h
    cases hb
  | cons a as ih =>
    rw [List.mapM_cons] at h
    obtain ⟨b', hb', h⟩ := Option.bind_eq_some_iff.mp h
    obtain ⟨bs', hbs, h⟩ := Option.bind_eq_some_iff.mp h
    cases h
    rcases List.mem_cons.mp hb with rfl | hb
    · exact ⟨a, List.mem_cons_self, hb'⟩
    · obtain ⟨a', ha', h'⟩ := ih hbs hb
      exact ⟨a', List.mem_cons_of_mem _ ha', h'⟩

/-! ## Many outcomes -/

section Outcomes

variable {ε α : Type}

/-- Outcomes without an error are the outcomes of their results. -/
theorem errorsOf_eq_nil_and_resultsOf_eq_iff {outcomes : List (Except ε α)} {as : List α} :
    errorsOf outcomes = [] ∧ resultsOf outcomes = as ↔ outcomes = as.map .ok := by
  induction outcomes generalizing as with
  | nil => simp [errorsOf, resultsOf, eq_comm]
  | cons outcome outcomes ih =>
    cases outcome with
    | error e => cases as <;> simp [errorsOf]
    | ok a =>
      cases as with
      | nil => simp [resultsOf]
      | cons b as =>
        simp only [errorsOf, resultsOf, List.cons.injEq, List.map_cons, Except.ok.injEq, ← ih]
        constructor
        · rintro ⟨he, hab, hr⟩
          exact ⟨hab, he, hr⟩
        · rintro ⟨hab, he, hr⟩
          exact ⟨he, hab, hr⟩

theorem mem_resultsOf_iff {outcomes : List (Except ε α)} {a : α} :
    a ∈ resultsOf outcomes ↔ .ok a ∈ outcomes := by
  induction outcomes with
  | nil => simp [resultsOf]
  | cons outcome outcomes ih => cases outcome <;> simp [resultsOf, ih]

@[simp] theorem Mode.select_nil (mode : Mode) : mode.select ([] : List (Except ε α)) = [] := by
  cases mode <;> rfl

/-- Behind a result every mode looks on. -/
@[simp] theorem Mode.select_ok_cons (mode : Mode) (a : α) (outcomes : List (Except ε α)) :
    mode.select (.ok a :: outcomes) = .ok a :: mode.select outcomes := by
  cases mode <;> rfl

/-- Behind an error only one mode looks on. -/
theorem Mode.select_error_cons (mode : Mode) (e : ε) (outcomes : List (Except ε α)) :
    mode.select (.error e :: outcomes)
      = .error e :: if mode = .fast then [] else mode.select outcomes := by
  cases mode <;> rfl

theorem Mode.mem_of_mem_select {mode : Mode} {outcomes : List (Except ε α)} {outcome : Except ε α}
    (h : outcome ∈ mode.select outcomes) : outcome ∈ outcomes := by
  cases mode with
  | analysis => exact h
  | fast =>
    rw [select] at h
    induction outcomes with
    | nil => exact h
    | cons first outcomes ih =>
      cases first with
      | error e => simpa [upToError] using Or.inl h
      | ok a =>
        rcases List.mem_cons.mp h with rfl | hrest
        · exact List.mem_cons_self
        · exact List.mem_cons_of_mem _ (ih hrest)

/-- Where no error is met, nothing is cut off. -/
theorem upToError_of_errorsOf_eq_nil {outcomes : List (Except ε α)}
    (h : errorsOf (upToError outcomes) = []) : upToError outcomes = outcomes := by
  induction outcomes with
  | nil => rfl
  | cons outcome outcomes ih =>
    cases outcome with
    | error e => simp [upToError, errorsOf] at h
    | ok a => simpa [upToError] using ih (by simpa [upToError, errorsOf] using h)

theorem upToError_map_ok (as : List α) :
    upToError (as.map (Except.ok (ε := ε))) = as.map .ok := by
  induction as with
  | nil => rfl
  | cons a as ih => simp [upToError, ih]

theorem FilterError.unless_eq_ok_iff {errors : List FilterError} {a b : α} :
    FilterError.unless errors a = .ok b ↔ errors = [] ∧ a = b := by
  match errors with
  | [] => simp [FilterError.unless]
  | [e] => simp [FilterError.unless]
  | e :: e' :: es => simp [FilterError.unless]

/-- Errors are reported when there are any: the only one as itself, several together. -/
theorem FilterError.unless_eq_error_iff {errors : List FilterError} {a : α} {e : FilterError} :
    FilterError.unless errors a = .error e ↔
      errors = [e] ∨ (2 ≤ errors.length ∧ e = .multiple errors) := by
  match errors with
  | [] => simp [FilterError.unless]
  | [e'] => simp [FilterError.unless]
  | e' :: e'' :: es => simp [FilterError.unless, eq_comm]

/-- What is reported for several errors has the code of the first one. -/
theorem FilterError.exists_unless_cons (e : FilterError) (es : List FilterError) (a : α) :
    ∃ f, FilterError.unless (e :: es) a = .error f ∧ f.code = e.code := by
  cases es with
  | nil => exact ⟨e, rfl, rfl⟩
  | cons e' es => exact ⟨.multiple (e :: e' :: es), rfl, by rw [FilterError.code]⟩

theorem errorsOf_map_ok_append (as : List α) (outcomes : List (Except ε α)) :
    errorsOf (as.map .ok ++ outcomes) = errorsOf outcomes := by
  induction as with
  | nil => rfl
  | cons a as ih => exact ih

/-- Up to the first error there is at most one. -/
theorem errorsOf_upToError (outcomes : List (Except ε α)) :
    errorsOf (upToError outcomes) = (errorsOf outcomes).take 1 := by
  induction outcomes with
  | nil => rfl
  | cons outcome outcomes ih =>
    cases outcome with
    | error e => simp [upToError, errorsOf]
    | ok a => simpa [upToError, errorsOf] using ih

/-- The results up to the first error are those of the outcomes before it. -/
theorem resultsOf_upToError (outcomes : List (Except ε α)) :
    resultsOf (upToError outcomes) = resultsOf (outcomes.takeWhile Except.isOk) := by
  induction outcomes with
  | nil => rfl
  | cons outcome outcomes ih =>
    cases outcome with
    | error e => rfl
    | ok a =>
      have hok : (Except.ok (ε := ε) a).isOk = true := rfl
      rw [List.takeWhile_cons_of_pos hok]
      exact congrArg (a :: ·) ih

/-- In either mode all outcomes have to be results. -/
theorem Mode.collect_eq_ok_iff {mode : Mode} {outcomes : List (Except FilterError α)}
    {as : List α} : mode.collect outcomes = .ok as ↔ outcomes = as.map .ok := by
  rw [Mode.collect, FilterError.unless_eq_ok_iff]
  cases mode with
  | analysis => exact errorsOf_eq_nil_and_resultsOf_eq_iff
  | fast =>
    constructor
    · rintro ⟨he, hr⟩
      have hall : upToError outcomes = outcomes := upToError_of_errorsOf_eq_nil he
      rw [← errorsOf_eq_nil_and_resultsOf_eq_iff]
      exact ⟨by simpa [select, hall] using he, by simpa [select, hall] using hr⟩
    · rintro rfl
      rw [select, upToError_map_ok]
      exact errorsOf_eq_nil_and_resultsOf_eq_iff.mpr rfl

/-- What is reported for outcomes has the code of the first error among them, in either mode. -/
theorem Mode.exists_collect_eq_error {mode : Mode} (as : List α) (e : FilterError)
    (outcomes : List (Except FilterError α)) :
    ∃ f, mode.collect (as.map .ok ++ .error e :: outcomes) = .error f ∧ f.code = e.code := by
  rw [collect]
  cases mode with
  | fast =>
    rw [select, errorsOf_upToError, errorsOf_map_ok_append]
    exact FilterError.exists_unless_cons e [] _
  | analysis =>
    rw [select, errorsOf_map_ok_append]
    exact FilterError.exists_unless_cons e (errorsOf outcomes) _

/-! ### Errors in their places -/

/-- The errors among some outcomes with their places, which are counted from a number on. -/
def failuresFrom (first : Nat) : List (Except ε α) → List (Nat × ε)
  | [] => []
  | .ok _ :: rest => failuresFrom (first + 1) rest
  | .error e :: rest => (first, e) :: failuresFrom (first + 1) rest

theorem map_snd_failuresFrom (first : Nat) (outcomes : List (Except ε α)) :
    (failuresFrom first outcomes).map Prod.snd = errorsOf outcomes := by
  induction outcomes generalizing first with
  | nil => rfl
  | cons outcome outcomes ih => cases outcome <;> simp [failuresFrom, errorsOf, ih]

/-- An error is listed with its place. -/
theorem mem_failuresFrom_iff {first i : Nat} {e : ε} {outcomes : List (Except ε α)} :
    (i, e) ∈ failuresFrom first outcomes ↔
      ∃ k, i = first + k ∧ outcomes[k]? = some (.error e) := by
  induction outcomes generalizing first with
  | nil => simp [failuresFrom]
  | cons outcome outcomes ih =>
    have hlater : (∃ k, i = first + 1 + k ∧ outcomes[k]? = some (.error e)) ↔
        ∃ k, i = first + (k + 1) ∧ (outcome :: outcomes)[k + 1]? = some (.error e) := by
      simp only [List.getElem?_cons_succ, Nat.add_assoc, Nat.add_comm 1]
    rw [← Nat.or_exists_add_one, ← hlater, ← ih]
    cases outcome with
    | ok a => simp [failuresFrom]
    | error e' => simp [failuresFrom, eq_comm]

theorem pairwise_failuresFrom (first : Nat) (outcomes : List (Except ε α)) :
    (failuresFrom first outcomes).Pairwise fun a b ↦ a.1 < b.1 := by
  induction outcomes generalizing first with
  | nil => exact .nil
  | cons outcome outcomes ih =>
    cases outcome with
    | ok a => exact ih _
    | error e =>
      refine .cons (fun b hb ↦ ?_) (ih _)
      obtain ⟨k, hk, -⟩ := mem_failuresFrom_iff.mp hb
      omega

theorem failuresFrom_upToError (first : Nat) (outcomes : List (Except ε α)) :
    failuresFrom first (upToError outcomes) = (failuresFrom first outcomes).take 1 := by
  induction outcomes generalizing first with
  | nil => rfl
  | cons outcome outcomes ih => cases outcome <;> simp [upToError, failuresFrom, ih]

/-- A mode looks at some of the errors, from the first on. -/
theorem Mode.failuresFrom_select_sublist (mode : Mode) (first : Nat)
    (outcomes : List (Except ε α)) :
    (failuresFrom first (mode.select outcomes)).Sublist (failuresFrom first outcomes) := by
  cases mode with
  | analysis => exact List.Sublist.refl _
  | fast =>
    rw [select, failuresFrom_upToError]
    exact List.take_sublist 1 _

end Outcomes

end RecordFilter
