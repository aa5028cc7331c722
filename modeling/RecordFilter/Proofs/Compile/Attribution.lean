import RecordFilter.Proofs.Compile.Lowering

/-!
# Errors and their clauses

What goes wrong with one descriptor is one of three errors: a path that names no
property, a value that does not fit, or an operator that is not supported.  They
are found without a clause and get the place of their descriptor afterwards.  A
single error is what a list of errors consists of (`flatten`), and an error that
is reported for several steps is either the only one of them or holds them all,
in order.
-/

namespace RecordFilter

/-! ## Errors of one condition -/

/-- The errors of one condition, with the clause they carry. -/
inductive FilterError.IsOfCondition (clause : Option Nat) : FilterError → Prop
  | propertyNotFound (typeName path segment : String) :
      IsOfCondition clause (.propertyNotFound typeName path segment clause)
  | coercion (code : Diagnostic.Code) (path expected raw reason : String) :
      IsOfCondition clause (.coercion code path expected raw reason clause)
  | unsupported (operator shape path : String) :
      IsOfCondition clause (.unsupported operator shape path clause)

namespace FilterError

variable {clause : Option Nat} {e : FilterError}

/-- An error of a condition is told its clause, whatever it knew before. -/
theorem IsOfCondition.atClause (h : e.IsOfCondition clause) (index : Nat) :
    (e.atClause index).IsOfCondition (some index) := by
  cases h with
  | propertyNotFound t p s => exact .propertyNotFound t p s
  | coercion c p x r w => exact .coercion c p x r w
  | unsupported o s p => exact .unsupported o s p

theorem IsOfCondition.flatten (h : e.IsOfCondition clause) : e.flatten = [e] := by
  cases h <;> simp [FilterError.flatten]

/-- Single errors are listed as they are. -/
theorem flattenAll_eq_self {errors : List FilterError} (h : ∀ e ∈ errors, e.flatten = [e]) :
    flattenAll errors = errors := by
  induction errors with
  | nil => rw [flattenAll]
  | cons e errors ih =>
    rw [flattenAll, h e List.mem_cons_self, ih fun e' he' ↦ h e' (List.mem_cons_of_mem _ he')]
    rfl

/-- What is reported for single errors lists just these errors. -/
theorem flatten_of_unless_eq_error {α : Type} {errors : List FilterError} {a : α}
    (herrors : ∀ e ∈ errors, e.flatten = [e]) (h : FilterError.unless errors a = .error e) :
    e.flatten = errors := by
  rcases unless_eq_error_iff.mp h with rfl | ⟨-, rfl⟩
  · exact herrors e List.mem_cons_self
  · rw [FilterError.flatten, flattenAll_eq_self herrors]

end FilterError

/-! ## The three steps -/

namespace Coercion

variable {path : String} {raw : Raw} {k : Kind} {nullable : Bool} {e : FilterError}

theorem isOfCondition_toError (m : Misfit) : (m.toError path raw k).IsOfCondition none :=
  .coercion _ _ _ _ _

theorem isOfCondition_of_coerceScalar (h : coerceScalar path raw k = .error e) :
    e.IsOfCondition none := by
  obtain ⟨m, -, rfl⟩ := mapError_eq_error_iff.mp h
  exact isOfCondition_toError m

theorem isOfCondition_of_coerceSingle (h : coerceSingle path raw k nullable = .error e) :
    e.IsOfCondition none := by
  rw [coerceSingle] at h
  split at h
  · cases h
    exact isOfCondition_toError _
  · split at h
    · cases h
    · exact isOfCondition_of_coerceScalar (map_eq_error_iff.mp h)

theorem isOfCondition_of_coerceElement {element : Raw}
    (h : coerceElement path raw k nullable element = .error e) : e.IsOfCondition none := by
  rw [coerceElement] at h
  split at h
  · split at h
    · cases h
    · cases h
      exact isOfCondition_toError _
  · exact isOfCondition_of_coerceScalar (map_eq_error_iff.mp h)

theorem isOfCondition_of_coerceMany (h : coerceMany path raw k nullable = .error e) :
    e.IsOfCondition none := by
  obtain ⟨element, -, helement⟩ := mapM_eq_error (map_eq_error_iff.mp h)
  exact isOfCondition_of_coerceElement helement

/-- A value is coerced as a single one or as a list. -/
theorem coerce_eq_single_or_many (path : String) (raw : Raw) (shape : Shape)
    (operator : Operator) :
    (∃ nullable, coerce path raw shape operator = coerceSingle path raw shape.element nullable) ∨
      coerce path raw shape operator = coerceMany path raw shape.element shape.admitsNull := by
  simp only [coerce]
  split
  · split
    · exact Or.inl ⟨_, rfl⟩
    · exact Or.inr rfl
    · exact Or.inr rfl
    · split
      · exact Or.inr rfl
      · exact Or.inl ⟨true, rfl⟩
  · split
    · exact Or.inr rfl
    · exact Or.inl ⟨_, rfl⟩

/-- Coercion fails with an error of the condition. -/
theorem isOfCondition_of_coerce {shape : Shape} {operator : Operator}
    (h : coerce path raw shape operator = .error e) : e.IsOfCondition none := by
  rcases coerce_eq_single_or_many path raw shape operator with ⟨nullable, hsingle⟩ | hmany
  · exact isOfCondition_of_coerceSingle (hsingle ▸ h)
  · exact isOfCondition_of_coerceMany (hmany ▸ h)

end Coercion

namespace Schema

variable {ρ : Type} {s : Schema ρ} {e : FilterError}

/-- A path that does not resolve names no property. -/
theorem isOfCondition_of_resolve {caseSensitive : Bool} {path : String}
    (h : s.resolve caseSensitive path = .error e) : e.IsOfCondition none := by
  simp only [resolve] at h
  split at h
  · cases h
  · cases h
    exact .propertyNotFound _ _ _

theorem ensureSupported_eq_ok_iff {shape : Shape} {operator : Operator} {path : String} :
    Property.ensureSupported shape operator path = .ok () ↔ shape.supports operator = true := by
  rw [Property.ensureSupported]
  cases shape.supports operator <;> simp

theorem ensureSupported_eq_error_iff {shape : Shape} {operator : Operator} {path : String} :
    Property.ensureSupported shape operator path = .error e ↔
      shape.supports operator = false ∧ Property.unsupported shape operator path = e := by
  rw [Property.ensureSupported]
  cases shape.supports operator <;> simp

theorem isOfCondition_of_ensureSupported {shape : Shape} {operator : Operator} {path : String}
    (h : Property.ensureSupported shape operator path = .error e) :
    e.IsOfCondition none := by
  obtain ⟨-, rfl⟩ := ensureSupported_eq_error_iff.mp h
  exact .unsupported _ _ _

/-- A predicate that cannot be lowered has an atom without a test. -/
theorem isOfCondition_of_lower {p : Predicate} (h : s.lower p = .error e) :
    e.IsOfCondition none := by
  rcases bind_eq_error_iff.mp h with h | ⟨tests, -, h⟩
  · obtain ⟨a, ha⟩ := Formula.exists_of_traverse_eq_error h
    cases a with
    | literal value => cases ha
    | compare c =>
      rcases bind_eq_error_iff.mp ha with hpath | ⟨found, -, htest⟩
      · exact isOfCondition_of_resolve hpath
      · rcases bind_eq_error_iff.mp htest with hsupported | ⟨-, -, htest⟩
        · exact isOfCondition_of_ensureSupported hsupported
        · split at htest
          · cases htest
          · cases htest
            exact .coercion _ _ _ _ _
  · cases h

end Schema

end RecordFilter
