import RecordFilter.Proofs.Compile.Complements
import RecordFilter.Proofs.Compile.Concur
import RecordFilter.Proofs.Compile.Parallel
import RecordFilter.Proofs.Scalar.Coercing

/-!
# Brackets around a single value

A single value can be written as it is or in brackets, alone in a list.  Where
one value is wanted, coercion takes it out of the list; where a list is wanted,
it makes the value a list of one.  Either way it goes on with the same element,
so that the operands are equal, and so is everything that is made of them.

Operators that the shape does not support are left out: a value for them is
coerced as it stands, and null then is refused in brackets only.
-/

namespace RecordFilter

/-- The only element of a single value is the one that it stands for. -/
theorem Raw.IsSingle.elements_eq {raw element : Raw} (h : raw.IsSingle element) :
    raw.elements = [element] := by
  obtain rfl | ⟨rfl, hlist⟩ := h
  · rfl
  · cases raw with
    | list items => cases hlist
    | _ => rfl

namespace Coercion

/-- Single values that stand for the same element are coerced alike. -/
theorem parallel_coerce_of_isSingle {raw raw' element : Raw} (h : raw.IsSingle element)
    (h' : raw'.IsSingle element) {shape : Shape} {operator : Operator}
    (hop : shape.supports operator = true) (path : String) :
    Parallel Eq (coerce path raw shape operator) (coerce path raw' shape operator) := by
  cases hlist : wantsList shape operator with
  | true =>
    rw [coerce_eq_many hop hlist, coerce_eq_many hop hlist]
    exact parallel_coerceMany (h.elements_eq.trans h'.elements_eq.symm)
  | false =>
    rw [coerce_eq_single hlist, coerce_eq_single hlist, coerceSingle_of_isSingle h,
      coerceSingle_of_isSingle h']
    exact Parallel.refl (fun _ ↦ rfl) _

end Coercion

/-- The descriptor with its value in brackets. -/
def Descriptor.bracketed (d : Descriptor) : Descriptor := { d with value := .list [d.value] }

namespace Schema

variable {ρ : Type} {s : Schema ρ} {o : CompileOptions} {d : Descriptor}

/-- Whether the operator of a descriptor is supported by the property that its path names, if there
is one. -/
def Supports (s : Schema ρ) (o : CompileOptions) (d : Descriptor) : Prop :=
  ∀ found, s.resolve o.caseSensitive d.path.text = .ok found →
    found.property.shape.supports d.operator = true

/-- A single value and the same one in brackets make the same condition. -/
theorem parallel_conditionOf_bracketed (hop : s.Supports o d) (hd : d.value.isList = false) :
    Parallel Eq (s.conditionOf o d) (s.conditionOf o d.bracketed) := by
  have hbare : d.value.IsSingle d.value := .inr ⟨rfl, hd⟩
  have hbracketed : d.bracketed.value.IsSingle d.value := .inl rfl
  cases hfound : s.resolve o.caseSensitive d.path.text with
  | error e =>
    have hfails : s.Fails o d e := .unresolved hfound
    have hfails' : s.Fails o d.bracketed e := .unresolved hfound
    rw [fails_iff.mp hfails, fails_iff.mp hfails']
    exact .error rfl
  | ok found =>
    have hsupported := hop found hfound
    rw [conditionOf_eq hfound hsupported, conditionOf_eq (d := d.bracketed) hfound hsupported]
    apply (Coercion.parallel_coerce_of_isSingle hbare hbracketed hsupported found.path).map
    rintro operand _ rfl
    rfl

/-- Brackets around a single value do not matter.  For any property, any operator that is supported
for its shape and any value that is no list, null included, a descriptor and the same one with its
value in brackets compile together or fail together, on their own or among any others.  Where they
compile, the predicates are equal and accept the same records; where they fail, the errors differ in
their texts only, so that they have one code. -/
theorem compile_bracketed (hop : s.Supports o d) (hd : d.value.isList = false)
    (before after : List Descriptor) :
    Parallel (fun c c' ↦ c.expression = c'.expression ∧ ∀ r, c.accepts r = c'.accepts r)
      (s.compile o (before ++ d :: after)) (s.compile o (before ++ d.bracketed :: after)) := by
  have hsame : ∀ ds : List Descriptor,
      List.Forall₂ (fun d d' ↦ Parallel Eq (s.conditionOf o d) (s.conditionOf o d')) ds ds := by
    intro ds
    rw [List.forall₂_same]
    intro d _
    exact Parallel.refl (fun _ ↦ rfl) _
  have hconditions := List.rel_append (hsame before)
    (.cons (parallel_conditionOf_bracketed hop hd) (hsame after))
  apply parallel_compile hconditions
  intro cs cs' hcs
  rw [List.forall₂_eq_eq_eq] at hcs
  rw [hcs]
  exact Parallel.refl (fun _ ↦ ⟨rfl, fun _ ↦ rfl⟩) _

/-- Null as a member of a set of nullable numbers, and a text that is no number. -/
theorem compile_bracketed_score :
    (∃ c, score.compile {} [⟨none, .containsOnValue, scorePath, .list [.null]⟩] = .ok c ∧
      c.expression = .compare ⟨"score", .containsOnValue, .nullable .int32, .optional [none]⟩) ∧
    ∃ e, score.compile {} [⟨none, .equal, scorePath, .list [.text "x"]⟩] = .error e ∧
      e.code = .invalidValue := by
  have hop : ∀ operator raw, operator ≠ .contains →
      score.Supports {} ⟨none, operator, scorePath, raw⟩ := by
    intro operator raw hoperator found hfound
    have hscore : score.resolve false scorePath.text = .ok ⟨"score", .nullable id⟩ := rfl
    obtain rfl := Except.ok.inj (hscore.symm.trans hfound)
    have hshape : (Property.nullable id : Property (Option Int32)).shape = .nullable .int32 := rfl
    simpa [hshape, Shape.supports, Shape.isSequence] using hoperator
  have hnull := compile_bracketed (hop .containsOnValue .null (by decide)) rfl [] []
  have htext := compile_bracketed (hop .equal (.text "x") (by decide)) rfl [] []
  obtain ⟨c, hc, hexpression, -⟩ := hnull.exists_ok
  obtain ⟨e, he, houtline⟩ := htext.exists_error
  refine ⟨⟨c, hc, hexpression.symm⟩, e, he, ?_⟩
  rw [← FilterError.code_outline, ← houtline]
  rfl

end Schema

end RecordFilter
