import RecordFilter.Proofs.Compile.Equality
import RecordFilter.Proofs.Compile.Failures
import RecordFilter.Proofs.Schema.Complements

/-!
# Complementary operators split the records

Two conditions with the same path and value whose operators are complements fail
together, since they are resolved and coerced alike.  Where they compile, every
record passes exactly one of equality and inequality, and exactly one of two
complements of order as long as there is an order between what the record holds
and the operand; where there is none, it passes neither.
-/

namespace RecordFilter

/-- Whether two compilations fail with the same error, or give filters in a relation. -/
def Together {ρ : Type} (R : Compiled ρ → Compiled ρ → Prop) :
    Except FilterError (Compiled ρ) → Except FilterError (Compiled ρ) → Prop
  | .ok c, .ok c' => R c c'
  | .error e, .error e' => e = e'
  | _, _ => False

/-- Whether a property reads a scalar and the value is coerced to one, such that the two have an
order. -/
def Resolved.Comparable {ρ : Type} (found : Resolved ρ) (raw : Raw) (r : ρ) : Prop :=
  ∃ a b, found.property.read r = .single a ∧
    Coercion.coerceSingle found.path raw found.property.shape.element
      found.property.shape.admitsNull = .ok (.single b) ∧ (a.compare? b).isSome = true

namespace Schema

variable {ρ : Type} {s : Schema ρ} {o : CompileOptions} {path : Path} {raw : Raw}

/-- The filter of a single condition. -/
def compileCondition (s : Schema ρ) (o : CompileOptions) (path : Path) (raw : Raw)
    (operator : Operator) : Except FilterError (Compiled ρ) :=
  s.compile o [⟨none, operator, path, raw⟩]

/-! ## Single conditions -/

/-- Whether two operators are supported and have their values coerced alike, by what the path
resolves to. -/
def Similar (s : Schema ρ) (o : CompileOptions) (path : Path) (raw : Raw)
    (operator operator' : Operator) : Prop :=
  ∀ found, s.resolve o.caseSensitive path.text = .ok found →
    found.property.shape.supports operator = true ∧
      found.property.shape.supports operator' = true ∧
      Coercion.coerce found.path raw found.property.shape operator
        = Coercion.coerce found.path raw found.property.shape operator'

variable {operator operator' : Operator}

theorem Similar.symm (h : s.Similar o path raw operator operator') :
    s.Similar o path raw operator' operator := by
  intro found hfound
  obtain ⟨hop, hop', hcoerce⟩ := h found hfound
  exact ⟨hop', hop, hcoerce.symm⟩

/-- Conditions fail in the same way if their operators do not tell them apart. -/
theorem Similar.fails (h : s.Similar o path raw operator operator') {e : FilterError}
    (he : s.Fails o ⟨none, operator, path, raw⟩ e) : s.Fails o ⟨none, operator', path, raw⟩ e := by
  cases he with
  | unresolved hpath => exact .unresolved hpath
  | uncoerced hfound hvalue => exact .uncoerced hfound ((h _ hfound).2.2 ▸ hvalue)
  | unsupported hfound _ hop =>
    rw [(h _ hfound).1] at hop
    cases hop

/-- A condition whose operand has a test compiles to that test. -/
theorem IsProvided.exists_compileCondition (hs : s.IsProvided) {found : Resolved ρ}
    {operand : Datum} {test : ρ → Bool} (hfound : s.resolve o.caseSensitive path.text = .ok found)
    (hoperand : Coercion.coerce found.path raw found.property.shape operator = .ok operand)
    (hop : found.property.shape.supports operator = true)
    (htest : found.property.test? operator operand = some test) :
    ∃ c, s.compileCondition o path raw operator = .ok c ∧ ∀ r, c.accepts r = test r :=
  exists_compile_singleton (d := ⟨none, operator, path, raw⟩) hfound (hs.resolve_found hfound)
    hoperand hop (Property.test_eq_ok found.path hop htest)

/-- What a condition that compiles is made of. -/
theorem IsProvided.exists_of_compileCondition (hs : s.IsProvided) {c : Compiled ρ}
    (h : s.compileCondition o path raw operator = .ok c) :
    ∃ found operand, s.resolve o.caseSensitive path.text = .ok found ∧
      Coercion.coerce found.path raw found.property.shape operator = .ok operand ∧
      ∀ test, found.property.test? operator operand = some test → ∀ r, c.accepts r = test r := by
  obtain ⟨k, hk, -⟩ := compile_singleton_eq_ok_iff.mp h
  obtain ⟨found, operand, hfound, hoperand, hsupported, -⟩ := conditionOf_eq_ok_iff.mp hk
  refine ⟨found, operand, hfound, hoperand, fun test htest r ↦ ?_⟩
  obtain ⟨c', hc', haccepts⟩ := hs.exists_compileCondition hfound hoperand
    (ensureSupported_eq_ok_iff.mp hsupported) htest
  obtain rfl : c = c' := Except.ok.inj (h.symm.trans hc')
  exact haccepts r

/-- Two conditions that their operators do not tell apart compile together, and the filters run the
tests of one property with one operand. -/
theorem IsProvided.together (hs : s.IsProvided) (h : s.Similar o path raw operator operator')
    {R : Compiled ρ → Compiled ρ → Prop}
    (hR : ∀ found operand c c', s.resolve o.caseSensitive path.text = .ok found →
      Coercion.coerce found.path raw found.property.shape operator = .ok operand →
      (∀ test, found.property.test? operator operand = some test → ∀ r, c.accepts r = test r) →
      (∀ test, found.property.test? operator' operand = some test → ∀ r, c'.accepts r = test r) →
      R c c') :
    Together R (s.compileCondition o path raw operator)
      (s.compileCondition o path raw operator') := by
  have herror : ∀ e, s.compileCondition o path raw operator = .error e ↔
      s.compileCondition o path raw operator' = .error e := by
    intro e
    rw [compileCondition, compileCondition, hs.compile_singleton_eq_error_iff,
      hs.compile_singleton_eq_error_iff]
    refine exists_congr fun e₀ ↦ and_congr_left fun _ ↦ ?_
    exact ⟨h.fails, h.symm.fails⟩
  cases hc : s.compileCondition o path raw operator with
  | error e => rw [(herror e).mp hc]; rfl
  | ok c =>
    cases hc' : s.compileCondition o path raw operator' with
    | error e => rw [(herror e).mpr hc'] at hc; cases hc
    | ok c' =>
      obtain ⟨found, operand, hfound, hoperand, haccepts⟩ := hs.exists_of_compileCondition hc
      obtain ⟨found', operand', hfound', hoperand', haccepts'⟩ :=
        hs.exists_of_compileCondition hc'
      obtain rfl : found = found' := Except.ok.inj (hfound.symm.trans hfound')
      obtain rfl : operand = operand' := by
        rw [← (h found hfound).2.2, hoperand] at hoperand'
        exact Except.ok.inj hoperand'
      exact hR found operand c c' hfound hoperand haccepts haccepts'

/-! ## Equality -/

theorem similar_equal_notEqual : s.Similar o path raw .equal .notEqual := by
  intro found _
  cases hs : found.property.shape.isSequence <;>
    simp [Shape.supports, Coercion.coerce, hs]

/-- Every record passes exactly one of equality and inequality. -/
theorem IsProvided.equal_notEqual (hs : s.IsProvided) :
    Together (fun c c' ↦ ∀ r, c.accepts r = !c'.accepts r)
      (s.compileCondition o path raw .equal) (s.compileCondition o path raw .notEqual) := by
  refine hs.together similar_equal_notEqual fun found operand c c' hfound hoperand hc hc' r ↦ ?_
  have hmade := (hs.isEntry _ (mem_entries_of_resolve hfound)).2
  have hsimilar : s.Similar o path raw .equal .notEqual := similar_equal_notEqual
  have hop := (hsimilar found hfound).1
  obtain ⟨test, htest⟩ := hmade.exists_test hop (operand_of_coerce hop hoperand)
  rw [hc test htest, hc' _ (by rw [hmade.test?_notEqual, htest]; rfl), Bool.not_not]

/-! ## Order -/

section Order

variable {found : Resolved ρ}

theorem isOrdering_complement (h : operator.complement? = some operator')
    (hop : operator.isOrdering = true) : operator'.isOrdering = true := by
  cases operator <;> cases h <;> first | rfl | cases hop

/-- The operators of order and equality are supported by all properties that are no lists, and want
a single value. -/
theorem supports_of_isOrdering (raw : Raw) (operator : Operator)
    (hs : found.property.shape.isSequence = false)
    (hop : operator.isOrdering = true ∨ operator = .equal) :
    found.property.shape.supports operator = true ∧
      wantsList found.property.shape operator = false ∧
      Coercion.coerce found.path raw found.property.shape operator
        = Coercion.coerceSingle found.path raw found.property.shape.element
            found.property.shape.admitsNull := by
  have hne : operator ≠ .contains ∧ operator ≠ .containsOnValue := by
    constructor <;> rintro rfl <;> rcases hop with h | h <;> cases h
  refine ⟨?_, ?_, ?_⟩
  · rw [Shape.supports_iff, if_neg (by simp [hs])]
    exact hne.1
  · rw [wantsList_value hs, decide_eq_false hne.2]
  · simp [Coercion.coerce, hs, hne.2]

theorem similar_of_isOrdering (hfound : s.resolve o.caseSensitive path.text = .ok found)
    (hs : found.property.shape.isSequence = false)
    (hop : operator.isOrdering = true ∨ operator = .equal)
    (hop' : operator'.isOrdering = true ∨ operator' = .equal) :
    s.Similar o path raw operator operator' := by
  intro found' hfound'
  obtain rfl : found = found' := Except.ok.inj (hfound.symm.trans hfound')
  obtain ⟨hsupports, -, hcoerce⟩ := supports_of_isOrdering raw operator hs hop
  obtain ⟨hsupports', -, hcoerce'⟩ := supports_of_isOrdering raw operator' hs hop'
  exact ⟨hsupports, hsupports', hcoerce.trans hcoerce'.symm⟩

/-- The conditions on a property that is no list all look at the outcome of one comparison. -/
theorem IsProvided.exists_compares (hs : s.IsProvided)
    (hfound : s.resolve o.caseSensitive path.text = .ok found)
    (hshape : found.property.shape.isSequence = false)
    (hop : operator.isOrdering = true ∨ operator = .equal) {operand : Datum}
    (hoperand : Coercion.coerce found.path raw found.property.shape operator = .ok operand) :
    ∃ outcome, found.property.Compares operand outcome ∧
      ∀ r, (outcome r).isSome = true ↔ found.Comparable raw r := by
  have hmade := (hs.isEntry _ (mem_entries_of_resolve hfound)).2
  obtain ⟨hsupports, hwants, hcoerce⟩ := supports_of_isOrdering raw operator hshape hop
  have hform := operand_of_coerce hsupports hoperand
  rw [hwants] at hform
  obtain ⟨outcome, hcompares⟩ := hmade.exists_compares hshape hform
  refine ⟨outcome, hcompares, fun r ↦ ?_⟩
  rw [hcompares.isSome_iff, Datum.Comparable, Resolved.Comparable, ← hcoerce, hoperand]
  simp

/-- Every record passes exactly one of two complements of order if there is an order between what
it holds and the operand, and otherwise neither. -/
theorem IsProvided.complement (hs : s.IsProvided)
    (hfound : s.resolve o.caseSensitive path.text = .ok found)
    (hshape : found.property.shape.isSequence = false) (hop : operator.isOrdering = true)
    (hcomplement : operator.complement? = some operator') :
    Together (fun c c' ↦ ∀ r,
        (found.Comparable raw r → c.accepts r = !c'.accepts r) ∧
        (¬ found.Comparable raw r → c.accepts r = false ∧ c'.accepts r = false))
      (s.compileCondition o path raw operator) (s.compileCondition o path raw operator') := by
  have hop' := isOrdering_complement hcomplement hop
  refine hs.together (similar_of_isOrdering hfound hshape (.inl hop) (.inl hop'))
    fun found' operand c c' hfound' hoperand hc hc' r ↦ ?_
  obtain rfl : found = found' := Except.ok.inj (hfound.symm.trans hfound')
  obtain ⟨outcome, hcompares, hsome⟩ := hs.exists_compares hfound hshape (.inl hop) hoperand
  rw [← hsome, hc _ (hcompares.ordered operator hop), hc' _ (hcompares.ordered operator' hop')]
  cases outcome r with
  | none => exact ⟨fun h ↦ absurd h (by simp), fun _ ↦ ⟨rfl, rfl⟩⟩
  | some order =>
    refine ⟨fun _ ↦ ?_, fun h ↦ absurd rfl h⟩
    exact Operator.accepts_complement hcomplement hop order

/-- What is less or equal is less, or it is equal, as long as there is an order. -/
theorem IsProvided.lessThanOrEqual (hs : s.IsProvided)
    (hfound : s.resolve o.caseSensitive path.text = .ok found)
    (hshape : found.property.shape.isSequence = false) {c : Compiled ρ}
    (h : s.compileCondition o path raw .lessThanOrEqual = .ok c) :
    ∃ less equal, s.compileCondition o path raw .lessThan = .ok less ∧
      s.compileCondition o path raw .equal = .ok equal ∧
      ∀ r, found.Comparable raw r → c.accepts r = (less.accepts r || equal.accepts r) := by
  obtain ⟨found', operand, hfound', hoperand, haccepts⟩ := hs.exists_of_compileCondition h
  obtain rfl : found = found' := Except.ok.inj (hfound.symm.trans hfound')
  obtain ⟨outcome, hcompares, hsome⟩ := hs.exists_compares hfound hshape (.inl rfl) hoperand
  obtain ⟨test, htest, hequal⟩ := hcompares.equal
  obtain ⟨-, -, hcoerce⟩ := supports_of_isOrdering raw .lessThanOrEqual hshape (.inl rfl)
  obtain ⟨hless, -, hlessCoerce⟩ := supports_of_isOrdering raw .lessThan hshape (.inl rfl)
  obtain ⟨heq, -, heqCoerce⟩ := supports_of_isOrdering raw .equal hshape (.inr rfl)
  obtain ⟨less, hless, hlessAccepts⟩ := hs.exists_compileCondition hfound
    (hlessCoerce.trans (hcoerce.symm.trans hoperand)) hless (hcompares.ordered .lessThan rfl)
  obtain ⟨equal, heq, heqAccepts⟩ := hs.exists_compileCondition hfound
    (heqCoerce.trans (hcoerce.symm.trans hoperand)) heq htest
  refine ⟨less, equal, hless, heq, fun r hr ↦ ?_⟩
  have hr' := (hsome r).mpr hr
  rw [haccepts _ (hcompares.ordered .lessThanOrEqual rfl), hlessAccepts, heqAccepts,
    Bool.eq_iff_iff, Bool.or_eq_true, hequal r hr']
  cases horder : outcome r with
  | none => simp [horder] at hr'
  | some order => cases order <;> simp [Operator.accepts]

/-- There is an order between what a property reads of its own kind and the operand unless one of
them is null or no number. -/
theorem comparable_iff (hmade : found.property.MadeOf Shape.Covers) (r : ρ) :
    found.Comparable raw r ↔
      ∃ a b, found.property.read r = .single a ∧
        Coercion.coerceSingle found.path raw found.property.shape.element
          found.property.shape.admitsNull = .ok (.single b) ∧
        a.isNaN = false ∧ b.isNaN = false := by
  rw [Resolved.Comparable]
  refine exists_congr fun a ↦ exists_congr fun b ↦ and_congr_right fun ha ↦
    and_congr_right fun hb ↦ ?_
  have hcovers : found.property.shape.element.Covers a := by
    refine hmade.covers r a ?_
    rw [ha]
    exact List.mem_singleton_self _
  obtain ⟨v, ⟨raw', hv⟩, hbv⟩ :=
    (Coercion.coerceSingle_eq_ok hb).resolve_left fun h ↦ by cases h.2
  cases hbv
  have hcarrier : a.carrier = b.carrier := hcovers.trans (Kind.covers_of_convert hv).symm
  rw [Scalar.isSome_compare? hcarrier, Bool.and_eq_true, Bool.not_eq_true', Bool.not_eq_true']

end Order

/-- Complementary operators split the records.  With any value, equality and inequality compile
together or fail together, and every record passes exactly one of them.  So do the complements of
order on a property that is no list, where a record passes exactly one of them if there is an order
between what it holds and the operand, and otherwise neither; being less or equal is being less or
being equal then.  As long as a property reads values of its own kind there is an order unless one
of the two is null or no number. -/
theorem complements_split (hs : s.IsProvided) (o : CompileOptions) (path : Path) (raw : Raw) :
    Together (fun c c' ↦ ∀ r, c.accepts r = !c'.accepts r)
        (s.compileCondition o path raw .equal) (s.compileCondition o path raw .notEqual) ∧
      ∀ found, s.resolve o.caseSensitive path.text = .ok found →
        found.property.shape.isSequence = false →
        (∀ operator operator' : Operator, operator.isOrdering = true →
          operator.complement? = some operator' →
          Together (fun c c' ↦ ∀ r,
              (found.Comparable raw r → c.accepts r = !c'.accepts r) ∧
              (¬ found.Comparable raw r → c.accepts r = false ∧ c'.accepts r = false))
            (s.compileCondition o path raw operator)
            (s.compileCondition o path raw operator')) ∧
        (∀ c, s.compileCondition o path raw .lessThanOrEqual = .ok c →
          ∃ less equal, s.compileCondition o path raw .lessThan = .ok less ∧
            s.compileCondition o path raw .equal = .ok equal ∧
            ∀ r, found.Comparable raw r → c.accepts r = (less.accepts r || equal.accepts r)) ∧
        (found.property.MadeOf Shape.Covers → ∀ r, found.Comparable raw r ↔
          ∃ a b, found.property.read r = .single a ∧
            Coercion.coerceSingle found.path raw found.property.shape.element
              found.property.shape.admitsNull = .ok (.single b) ∧
            a.isNaN = false ∧ b.isNaN = false) := by
  refine ⟨hs.equal_notEqual, fun found hfound hshape ↦ ⟨?_, ?_, ?_⟩⟩
  · intro operator operator' hop hcomplement
    exact hs.complement hfound hshape hop hcomplement
  · intro c hc
    exact hs.lessThanOrEqual hfound hshape hc
  · intro hmade r
    exact comparable_iff hmade r

/-- A schema with a single field, the record itself, which may be null. -/
def score : Schema (Option Int32) := .ofRegistrations "Score" [.nullable "score" id]

theorem score_isProvided : score.IsProvided := by
  refine ⟨"Score", [.nullable "score" id], rfl, fun reg hreg ↦ ?_⟩
  obtain rfl := List.mem_singleton.mp hreg
  exact .nullable "score" .int32 id

def scorePath : Path := ⟨["score"], by decide, by decide⟩

/-- A number is either below 5 or not, and null is neither; both are 5 or not. -/
theorem complements_split_score :
    ∃ less notLess equal notEqual,
      score.compileCondition {} scorePath (.number "5") .lessThan = .ok less ∧
        score.compileCondition {} scorePath (.number "5") .greaterThanOrEqual = .ok notLess ∧
        score.compileCondition {} scorePath (.number "5") .equal = .ok equal ∧
        score.compileCondition {} scorePath (.number "5") .notEqual = .ok notEqual ∧
        (∀ n, less.accepts (some n) = !notLess.accepts (some n)) ∧
        (less.accepts none = false ∧ notLess.accepts none = false) ∧
        ∀ r, equal.accepts r = !notEqual.accepts r := by
  obtain ⟨hequal, horder⟩ := complements_split score_isProvided {} scorePath (.number "5")
  obtain ⟨hpairs, -, -⟩ := horder _ rfl rfl
  have hless := hpairs .lessThan .greaterThanOrEqual rfl rfl
  refine ⟨_, _, _, _, rfl, rfl, rfl, rfl, fun n ↦ (hless (some n)).1 ⟨_, .int 5, rfl, rfl, rfl⟩,
    (hless none).2 ?_, hequal⟩
  rintro ⟨a, b, ha, -⟩
  cases ha

end Schema

end RecordFilter
