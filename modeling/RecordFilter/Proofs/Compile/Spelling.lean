import RecordFilter.Proofs.Compile.Parallel
import RecordFilter.Proofs.Query.Paths
import RecordFilter.Proofs.Schema.Resolving

/-!
# The case of paths

Where case does not matter and no two registered paths are the same in lower
case, a path names the one property whose path is the same in lower case, so all
its spellings do (`HasDistinctFolds.resolve_eq_ok_iff`).  What a path
resolves to is all that a condition takes from it.  The conditions of descriptors
that are spelled differently are therefore equal, and with them their groups.
-/

namespace RecordFilter

/-- Whether two descriptors differ at most in the case of the ASCII letters of their paths. -/
structure Descriptor.Respells (d d' : Descriptor) : Prop where
  connective : d.connective = d'.connective
  operator : d.operator = d'.operator
  value : d.value = d'.value
  path : Text.foldCase d.path.text = Text.foldCase d'.path.text

namespace Schema

variable {ρ : Type} {s : Schema ρ}

/-- Whether no two registered paths are equal up to the case of ASCII letters. -/
def HasDistinctFolds (s : Schema ρ) : Prop := (s.paths.map Text.foldCase).Nodup

/-- A path that is the same in lower case leads to one property. -/
theorem HasDistinctFolds.eq_of_mem_entries (hs : s.HasDistinctFolds) {found found' : Resolved ρ}
    (hentry : (found.path, found.property) ∈ s.properties.entries)
    (hentry' : (found'.path, found'.property) ∈ s.properties.entries)
    (h : Text.foldCase found.path = Text.foldCase found'.path) : found = found' := by
  obtain ⟨path, p⟩ := found
  obtain ⟨path', p'⟩ := found'
  have hpath : path = path' :=
    List.inj_on_of_nodup_map hs (mem_paths_iff.mpr ⟨p, hentry⟩) (mem_paths_iff.mpr ⟨p', hentry'⟩) h
  subst hpath
  obtain rfl : p = p' :=
    Option.some.inj ((Table.get?_of_mem hentry).symm.trans (Table.get?_of_mem hentry'))
  rfl

theorem HasDistinctFolds.resolve_eq_ok_iff (hs : s.HasDistinctFolds) {path : String}
    {found : Resolved ρ} :
    s.resolve false path = .ok found ↔
      (found.path, found.property) ∈ s.properties.entries ∧
        Text.foldCase found.path = Text.foldCase (Text.trimString path) := by
  refine ⟨fun h ↦ ⟨mem_entries_of_resolve h, foldCase_of_resolve h⟩, fun ⟨hentry, hfold⟩ ↦ ?_⟩
  cases hanswer : s.resolve false path with
  | ok found' =>
    rw [hs.eq_of_mem_entries hentry (mem_entries_of_resolve hanswer)
      (hfold.trans (foldCase_of_resolve hanswer).symm)]
  | error e =>
    cases resolve_eq_iff.mp hanswer with
    | missing _ hfolded =>
      exact absurd hfold (hfolded rfl _ (mem_paths_iff.mpr ⟨_, hentry⟩))

/-- All spellings of a path name the same property, or all of them name none. -/
theorem parallel_resolve_of_foldCase (hs : s.HasDistinctFolds) {path path' : String}
    (h : Text.foldCase (Text.trimString path) = Text.foldCase (Text.trimString path')) :
    Parallel Eq (s.resolve false path) (s.resolve false path') := by
  have hsame : ∀ found, s.resolve false path = .ok found ↔ s.resolve false path' = .ok found := by
    intro found
    rw [hs.resolve_eq_ok_iff, hs.resolve_eq_ok_iff, h]
  cases hpath : s.resolve false path with
  | ok found =>
    rw [(hsame found).mp hpath]
    exact .ok rfl
  | error e =>
    cases hpath' : s.resolve false path' with
    | ok found =>
      rw [(hsame found).mpr hpath'] at hpath
      cases hpath
    | error e' =>
      cases resolve_eq_iff.mp hpath with
      | missing _ _ =>
        cases resolve_eq_iff.mp hpath' with
        | missing _ _ => exact .error rfl

theorem parallel_conditionOf_of_respells (hs : s.HasDistinctFolds) {o : CompileOptions}
    (ho : o.caseSensitive = false) {d d' : Descriptor} (h : d.Respells d') :
    Parallel Eq (s.conditionOf o d) (s.conditionOf o d') := by
  obtain ⟨connective, operator, path, value⟩ := d
  obtain ⟨connective', operator', path', value'⟩ := d'
  obtain ⟨rfl, rfl, rfl, hpath⟩ := h
  have htrimmed : Text.foldCase (Text.trimString path.text)
      = Text.foldCase (Text.trimString path'.text) := by
    rw [Path.trimString_text, Path.trimString_text]
    exact hpath
  simp only [conditionOf, ho]
  refine (parallel_resolve_of_foldCase hs htrimmed).bind ?_
  rintro found _ rfl
  exact Parallel.refl (fun _ ↦ rfl) _

/-- Descriptors compile in parallel with other spellings of them. -/
theorem parallel_compile_of_respells (hs : s.HasDistinctFolds) {o : CompileOptions}
    (ho : o.caseSensitive = false) {ds ds' : List Descriptor}
    (h : List.Forall₂ Descriptor.Respells ds ds') :
    Parallel Eq (s.compile o ds) (s.compile o ds') := by
  refine parallel_compile (h.imp fun d d' ↦ parallel_conditionOf_of_respells hs ho) ?_
  intro cs cs' hcs
  rw [List.forall₂_eq_eq_eq] at hcs
  rw [hcs]
  exact Parallel.refl (fun _ ↦ rfl) _

end Schema

namespace Resolver

variable {ρ : Type} {s : Schema ρ}

/-- The case of paths does not matter, whatever resolvers have been asked before.  Descriptors and
other spellings of them compile together or fail together.  Where they compile, the predicates are
equal, with their groups, and accept the same records; where they fail, the errors differ in their
texts only. -/
theorem compile_respelled (hs : s.HasDistinctFolds) (mode : Mode) {ds ds' : List Descriptor}
    (hds : List.Forall₂ Descriptor.Respells ds ds') (requests requests' : List (Bool × String)) :
    Parallel (fun c c' ↦ c.expression = c'.expression ∧ ∀ r, c.accepts r = c'.accepts r)
      (((fresh s).run requests).2.compile ⟨mode, false⟩ ds).1
      (((fresh s).run requests').2.compile ⟨mode, false⟩ ds').1 := by
  have hserves := ((serves_fresh s).run requests).2
  have hserves' := ((serves_fresh s).run requests').2
  rw [(hserves.compile ⟨mode, false⟩ ds).1, (hserves'.compile ⟨mode, false⟩ ds').1]
  refine (Schema.parallel_compile_of_respells hs rfl hds).imp ?_
  rintro c _ rfl
  exact ⟨rfl, fun _ ↦ rfl⟩

/-- A schema of two fields whose paths stay distinct in lower case. -/
def fields : Schema (Bool × Bool) :=
  .ofRegistrations "Fields" [.scalar "Value" Prod.fst, .scalar "Other" Prod.snd]

def value : Path := ⟨["Value"], by decide, by decide⟩

def shouted : Path := ⟨["VALUE"], by decide, by decide⟩

def nothing : Path := ⟨["nothing"], by decide, by decide⟩

/-- The conditions that a property is true, or another one is false. -/
def trueOrFalse (path path' : Path) : List Descriptor :=
  [⟨none, .equal, path, .boolean true⟩, ⟨some .or, .equal, path', .boolean false⟩]

/-- Two spellings of one property make one group, and the place of a mistake stays the same. -/
theorem compile_respelled_fields :
    fields.HasDistinctFolds ∧
      (∃ c, (((fresh fields).run [(false, "vaLUE")]).2.compile {} (trueOrFalse value shouted)).1
          = .ok c ∧
        (∀ r, c.accepts r = true) ∧
        c.expression.comparisons.map Comparison.path = ["Value", "Value"]) ∧
      ∃ e, (((fresh fields).run []).2.compile ⟨.analysis, false⟩ (trueOrFalse shouted nothing)).1
          = .error e ∧
        e.flatten.map (fun e ↦ (e.code, e.clause?)) = [(.propertyNotFound, some 1)] := by
  have hs : fields.HasDistinctFolds := by
    unfold Schema.HasDistinctFolds
    decide
  have hvalue : Text.foldCase value.text = Text.foldCase shouted.text := by decide +kernel
  have hone : List.Forall₂ Descriptor.Respells (trueOrFalse value value)
      (trueOrFalse value shouted) :=
    .cons ⟨rfl, rfl, rfl, rfl⟩ (.cons ⟨rfl, rfl, rfl, hvalue⟩ .nil)
  have hnone : List.Forall₂ Descriptor.Respells (trueOrFalse value nothing)
      (trueOrFalse shouted nothing) :=
    .cons ⟨rfl, rfl, rfl, hvalue⟩ (.cons ⟨rfl, rfl, rfl, rfl⟩ .nil)
  obtain ⟨c, hc, hexpression, haccepts⟩ :=
    (compile_respelled hs .fast hone [] [(false, "vaLUE")]).exists_ok
  obtain ⟨e, he, houtline⟩ := (compile_respelled hs .analysis hnone [] []).exists_error
  refine ⟨hs, ⟨c, hc, fun r ↦ ?_, ?_⟩, e, he, ?_⟩
  · rw [← haccepts]
    rcases r with ⟨⟨⟩, b⟩ <;> rfl
  · rw [← hexpression]
    rfl
  · rw [← FilterError.flatten_codes_of_outline_eq houtline]
    rfl

end Resolver

end RecordFilter
