import RecordFilter.Proofs.Schema.Fitting

/-!
# What coercion gives and what it refuses

Everything that coercion decides comes down to the coercion of single scalars.
`Coerces` says which datum a raw value is coerced to, element by element, and
`Refuses` with which code it is refused.  There is a datum or a code for every
raw value (`coerce_sound_complete`), and the scalars of the datum are values of
the kind of the shape.
-/

namespace RecordFilter

/-- Whether a raw value is a single one: no list, or out of its list of one. -/
def Raw.IsSingle (raw element : Raw) : Prop :=
  raw = .list [element] ∨ (raw = element ∧ raw.isList = false)

theorem Raw.single?_eq_some_iff {raw element : Raw} :
    raw.single? = some element ↔ raw.IsSingle element := by
  cases raw with
  | list items =>
    match items with
    | [] => simp [single?, IsSingle, isList]
    | [item] => simp [single?, IsSingle, isList]
    | _ :: _ :: _ => simp [single?, IsSingle, isList]
  | _ => simp [single?, IsSingle, isList]

theorem Raw.single?_eq_none_iff {raw : Raw} :
    raw.single? = none ↔ ∃ items, raw = .list items ∧ items.length ≠ 1 := by
  cases raw with
  | list items =>
    match items with
    | [] => simp [single?]
    | [item] => simp [single?]
    | _ :: _ :: _ => simp [single?]
  | _ => simp [single?]

namespace Coercion

variable {path : String} {raw element : Raw} {shape : Shape} {operator : Operator}
  {operand : Datum} {code : Diagnostic.Code}

/-! ## Single values and elements -/

/-- What an element is coerced to: null, where that is admitted, or its scalar. -/
inductive Gives (path : String) (shape : Shape) : Raw → Option Scalar → Prop
  | null (h : shape.admitsNull = true) : Gives path shape .null none
  | scalar {element : Raw} {v : Scalar} (h : coerceScalar path element shape.element = .ok v) :
      Gives path shape element (some v)

/-- The code with which an element is refused: a null that is not admitted has one of its own, and
any other element that of its scalar. -/
inductive Offends (path : String) (shape : Shape) : Raw → Diagnostic.Code → Prop
  | null (h : shape.admitsNull = false) : Offends path shape .null .nullNotAllowed
  | scalar {element : Raw} {e : FilterError} (hnull : element ≠ .null)
      (h : coerceScalar path element shape.element = .error e) :
      Offends path shape element e.code

theorem isNull_eq_true_iff : element.isNull = true ↔ element = .null := by
  cases element <;> simp [Raw.isNull]

theorem isNull_of_coerceScalar {k : Kind} {v : Scalar} (h : coerceScalar path element k = .ok v) :
    element.isNull = false := by
  rw [← Bool.not_eq_true, isNull_eq_true_iff]
  rintro rfl
  cases h

theorem coerceElement_eq_ok_iff {v : Option Scalar} :
    coerceElement path raw shape.element shape.admitsNull element = .ok v ↔
      Gives path shape element v := by
  rw [coerceElement]
  constructor
  · intro h
    split at h
    · next hnull =>
      obtain rfl := isNull_eq_true_iff.mp hnull
      split at h
      · next hadmits =>
        cases h
        exact .null hadmits
      · cases h
    · obtain ⟨w, hw, rfl⟩ := map_eq_ok_iff.mp h
      exact .scalar hw
  · intro h
    cases h with
    | null hadmits => simp [Raw.isNull, hadmits]
    | scalar hv => simp [isNull_of_coerceScalar hv, hv, Except.map]

theorem coerceElement_eq_error_iff (raw : Raw) :
    (∃ e, coerceElement path raw shape.element shape.admitsNull element = .error e ∧
      e.code = code) ↔ Offends path shape element code := by
  rw [coerceElement]
  constructor
  · rintro ⟨e, h, rfl⟩
    split at h
    · next hnull =>
      obtain rfl := isNull_eq_true_iff.mp hnull
      split at h
      · cases h
      · next hadmits =>
        cases h
        exact .null (Bool.not_eq_true _ ▸ hadmits)
    · next hnull =>
      rw [isNull_eq_true_iff] at hnull
      exact .scalar hnull (map_eq_error_iff.mp h)
  · intro h
    cases h with
    | null hadmits =>
      rw [hadmits]
      exact ⟨_, rfl, rfl⟩
    | @scalar _ e hnull h =>
      rw [Ne, ← isNull_eq_true_iff] at hnull
      exact ⟨e, by simp [hnull, h, Except.map], rfl⟩

/-! ## Raw values -/

/-- What a raw value is coerced to.  Where a list is wanted, its elements are coerced one by one,
and the list is one of scalars unless there is a null in it; elsewhere a single value is. -/
inductive Coerces (path : String) (raw : Raw) (shape : Shape) (operator : Operator) :
    Datum → Prop
  | many (hlist : wantsList shape operator = true) {vs : List Scalar}
      (h : List.Forall₂ (Gives path shape) raw.elements (vs.map some)) :
      Coerces path raw shape operator (.many vs)
  | optional (hlist : wantsList shape operator = true) {vs : List (Option Scalar)}
      (h : List.Forall₂ (Gives path shape) raw.elements vs) (hnull : none ∈ vs) :
      Coerces path raw shape operator (.optional vs)
  | null (hlist : wantsList shape operator = false) (hraw : raw.IsSingle .null)
      (h : shape.admitsNull = true) : Coerces path raw shape operator .null
  | single (hlist : wantsList shape operator = false) {element : Raw} {v : Scalar}
      (hraw : raw.IsSingle element) (h : coerceScalar path element shape.element = .ok v) :
      Coerces path raw shape operator (.single v)

/-- The code with which a raw value is refused: that of the first element that offends, or of
several values or none where one is wanted. -/
inductive Refuses (path : String) (raw : Raw) (shape : Shape) (operator : Operator) :
    Diagnostic.Code → Prop
  | first (hlist : wantsList shape operator = true) {before after : List Raw} {element : Raw}
      {code : Diagnostic.Code} (hraw : raw.elements = before ++ element :: after)
      (hbefore : ∀ r ∈ before, ∃ v, Gives path shape r v)
      (h : Offends path shape element code) : Refuses path raw shape operator code
  | several (hlist : wantsList shape operator = false) {items : List Raw}
      (hraw : raw = .list items) (h : items.length ≠ 1) :
      Refuses path raw shape operator .multipleValues
  | single (hlist : wantsList shape operator = false) {element : Raw} {code : Diagnostic.Code}
      (hraw : raw.IsSingle element) (h : Offends path shape element code) :
      Refuses path raw shape operator code

/-- A list is one of scalars, or it has a null in it. -/
theorem ofOptions_eq_iff {vs : List (Option Scalar)} :
    Datum.ofOptions vs = operand ↔
      (∃ ws : List Scalar, vs = ws.map some ∧ operand = .many ws) ∨
        (none ∈ vs ∧ operand = .optional vs) := by
  rw [Datum.ofOptions]
  split
  · next hnull =>
    have hmem : none ∈ vs := by simpa using hnull
    have hsome : ∀ ws : List Scalar, vs ≠ ws.map some := by
      rintro ws rfl
      simp at hmem
    simp [hmem, hsome, eq_comm]
  · next hnull =>
    have hmem : none ∉ vs := by simpa using hnull
    have hself : vs = (vs.filterMap id).map some := by
      have hall := Datum.elements_ofOptions vs
      rw [Datum.ofOptions, if_neg hnull, Datum.elements_many] at hall
      exact hall.symm
    constructor
    · rintro rfl
      exact .inl ⟨_, hself, rfl⟩
    · rintro (⟨ws, rfl, rfl⟩ | ⟨hmem', -⟩)
      · simp [List.filterMap_map]
      · exact absurd hmem' hmem

theorem coerceMany_eq_ok_iff (hlist : wantsList shape operator = true) :
    coerceMany path raw shape.element shape.admitsNull = .ok operand ↔
      Coerces path raw shape operator operand := by
  have hmap : coerceMany path raw shape.element shape.admitsNull = .ok operand ↔
      ∃ vs, List.Forall₂ (Gives path shape) raw.elements vs ∧ Datum.ofOptions vs = operand := by
    rw [coerceMany, map_eq_ok_iff]
    simp only [mapM_eq_ok_iff, coerceElement_eq_ok_iff]
  rw [hmap]
  constructor
  · rintro ⟨vs, hvs, h⟩
    rcases ofOptions_eq_iff.mp h with ⟨ws, rfl, rfl⟩ | ⟨hnull, rfl⟩
    · exact .many hlist hvs
    · exact .optional hlist hvs hnull
  · intro h
    cases h with
    | many _ hvs => exact ⟨_, hvs, ofOptions_eq_iff.mpr (.inl ⟨_, rfl, rfl⟩)⟩
    | optional _ hvs hnull => exact ⟨_, hvs, ofOptions_eq_iff.mpr (.inr ⟨hnull, rfl⟩)⟩
    | null hsingle => simp [hlist] at hsingle
    | single hsingle => simp [hlist] at hsingle

theorem coerceMany_eq_error_iff (hlist : wantsList shape operator = true) :
    (∃ e, coerceMany path raw shape.element shape.admitsNull = .error e ∧ e.code = code) ↔
      Refuses path raw shape operator code := by
  constructor
  · rintro ⟨e, h, hcode⟩
    obtain ⟨before, element, after, hraw, hbefore, helement⟩ :=
      mapM_eq_error_iff.mp (map_eq_error_iff.mp h)
    have hrefuses := (coerceElement_eq_error_iff raw).mp ⟨e, helement, hcode⟩
    refine .first hlist hraw (fun r hr ↦ ?_) hrefuses
    obtain ⟨v, hv⟩ := hbefore r hr
    exact ⟨v, coerceElement_eq_ok_iff.mp hv⟩
  · intro h
    cases h with
    | first _ hraw hbefore h =>
      obtain ⟨e, helement, hcode⟩ := (coerceElement_eq_error_iff raw).mpr h
      refine ⟨e, map_eq_error_iff.mpr (mapM_eq_error_iff.mpr ?_), hcode⟩
      refine ⟨_, _, _, hraw, fun r hr ↦ ?_, helement⟩
      obtain ⟨v, hv⟩ := hbefore r hr
      exact ⟨v, coerceElement_eq_ok_iff.mpr hv⟩
    | several hsingle => simp [hlist] at hsingle
    | single hsingle => simp [hlist] at hsingle

theorem coerceSingle_of_isSingle (hraw : raw.IsSingle element) (path : String) (k : Kind)
    (nullable : Bool) : coerceSingle path raw k nullable
      = if element.isNull && nullable then .ok .null
        else (coerceScalar path element k).map .single := by
  rw [coerceSingle, Raw.single?_eq_some_iff.mpr hraw]

/-- A single value is coerced as an element of a list is. -/
theorem coerceSingle_eq_ok_iff_gives (hraw : raw.IsSingle element) :
    coerceSingle path raw shape.element shape.admitsNull = .ok operand ↔
      ∃ v, Gives path shape element v ∧ operand = (v.map Datum.single).getD .null := by
  rw [coerceSingle_of_isSingle hraw]
  constructor
  · intro h
    split at h
    · next hnull =>
      rw [Bool.and_eq_true_iff, isNull_eq_true_iff] at hnull
      obtain ⟨rfl, hadmits⟩ := hnull
      cases h
      exact ⟨none, .null hadmits, rfl⟩
    · obtain ⟨v, hv, rfl⟩ := map_eq_ok_iff.mp h
      exact ⟨some v, .scalar hv, rfl⟩
  · rintro ⟨v, hv, rfl⟩
    cases hv with
    | null hadmits => simp [Raw.isNull, hadmits]
    | scalar hv => simp [isNull_of_coerceScalar hv, hv, Except.map]

/-- A single value is refused as an element of a list is. -/
theorem coerceSingle_eq_error_iff_offends (hraw : raw.IsSingle element) :
    (∃ e, coerceSingle path raw shape.element shape.admitsNull = .error e ∧ e.code = code) ↔
      Offends path shape element code := by
  rw [coerceSingle_of_isSingle hraw]
  constructor
  · rintro ⟨e, h, rfl⟩
    split at h
    · cases h
    · next hnull =>
      rw [Bool.and_eq_true_iff, isNull_eq_true_iff] at hnull
      have herror := map_eq_error_iff.mp h
      by_cases helement : element = .null
      · subst helement
        cases herror
        exact .null (Bool.not_eq_true _ ▸ fun hadmits ↦ hnull ⟨rfl, hadmits⟩)
      · exact .scalar helement herror
  · intro h
    cases h with
    | null hadmits =>
      rw [hadmits]
      exact ⟨_, rfl, rfl⟩
    | @scalar _ e hnull h =>
      rw [Ne, ← isNull_eq_true_iff] at hnull
      exact ⟨e, by simp [hnull, h, Except.map], rfl⟩

theorem coerceSingle_eq_ok_iff (hlist : wantsList shape operator = false) :
    coerceSingle path raw shape.element shape.admitsNull = .ok operand ↔
      Coerces path raw shape operator operand := by
  constructor
  · intro h
    cases hsingle : raw.single? with
    | none => simp [coerceSingle, hsingle] at h
    | some element =>
      have hraw := Raw.single?_eq_some_iff.mp hsingle
      obtain ⟨v, hv, rfl⟩ := (coerceSingle_eq_ok_iff_gives hraw).mp h
      cases hv with
      | null hadmits => exact .null hlist hraw hadmits
      | scalar hv => exact .single hlist hraw hv
  · intro h
    cases h with
    | many hmany => simp [hlist] at hmany
    | optional hmany => simp [hlist] at hmany
    | null _ hraw hadmits =>
      exact (coerceSingle_eq_ok_iff_gives hraw).mpr ⟨none, .null hadmits, rfl⟩
    | single _ hraw hv =>
      exact (coerceSingle_eq_ok_iff_gives hraw).mpr ⟨some _, .scalar hv, rfl⟩

theorem coerceSingle_eq_error_iff (hlist : wantsList shape operator = false) :
    (∃ e, coerceSingle path raw shape.element shape.admitsNull = .error e ∧ e.code = code) ↔
      Refuses path raw shape operator code := by
  constructor
  · intro h
    cases hsingle : raw.single? with
    | none =>
      obtain ⟨items, hraw, hlength⟩ := Raw.single?_eq_none_iff.mp hsingle
      obtain ⟨e, he, rfl⟩ := h
      rw [coerceSingle, hsingle] at he
      cases he
      have hcode : (if raw.elements.isEmpty then Misfit.emptyList else .severalValues).code
          = .multipleValues := by
        split <;> rfl
      rw [Misfit.toError, FilterError.code, hcode]
      exact .several hlist hraw hlength
    | some element =>
      have hraw := Raw.single?_eq_some_iff.mp hsingle
      exact .single hlist hraw ((coerceSingle_eq_error_iff_offends hraw).mp h)
  · intro h
    cases h with
    | first hmany => simp [hlist] at hmany
    | several _ hraw hlength =>
      rw [coerceSingle, Raw.single?_eq_none_iff.mpr ⟨_, hraw, hlength⟩]
      refine ⟨_, rfl, ?_⟩
      split <;> rfl
    | single _ hraw h => exact (coerceSingle_eq_error_iff_offends hraw).mpr h

/-! ## Both directions -/

/-- The shapes and operators that want a list. -/
theorem wantsList_iff (hop : shape.supports operator = true) :
    wantsList shape operator = true ↔
      (shape.isSequence = false ∧ operator = .containsOnValue) ∨
        (shape.isSequence = true ∧ (operator = .equal ∨ operator = .notEqual)) := by
  rw [Shape.supports_iff] at hop
  cases hs : shape.isSequence with
  | false => simp [wantsList_value hs]
  | true =>
    simp only [hs, if_true] at hop
    rw [wantsList_sequence hs]
    rcases hop with rfl | rfl | rfl <;> simp

/-- Whether a scalar belongs to a kind: some value of the kind is made of it.  Where no two variants
share a name, it also is the scalar of a value, and the value that is made of it compares like
it. -/
def BelongsTo (k : Kind) (w : Scalar) : Prop :=
  (∃ b : k.Value, ofScalar? w = some b) ∧
    (k.HasDistinctNames → (∃ b : k.Value, w = toScalar b) ∧
      ∃ b : k.Value, ofScalar? w = some b ∧
        ∀ a : k.Value, FieldType.compare? a b = (toScalar a).compare? w)

theorem belongsTo_of_isConversion {k : Kind} {w : Scalar} (h : IsConversion k w) :
    BelongsTo k w := by
  refine ⟨Kind.exists_ofScalar? h, fun hk ↦ ?_⟩
  have hlawful := Kind.lawful hk
  rw [← Kind.kind_value k] at h
  obtain ⟨raw, hraw⟩ := h
  exact ⟨LawfulFieldType.exists_of_convert hraw, Matching.exists_ofScalar? ⟨raw, hraw⟩⟩

/-- The scalars of a coerced datum belong to the kind. -/
theorem belongsTo_of_coerce (hop : shape.supports operator = true)
    (h : coerce path raw shape operator = .ok operand) {w : Scalar}
    (hw : some w ∈ operand.elements) : BelongsTo shape.element w := by
  have hoperand := operand_of_coerce hop h
  generalize wantsList shape operator = list at hoperand
  cases hoperand with
  | null => cases hw
  | single hv =>
    obtain rfl := Option.some.inj (List.mem_singleton.mp hw)
    exact belongsTo_of_isConversion hv
  | list hvs =>
    rw [Datum.elements_ofOptions] at hw
    rcases hvs _ hw with ⟨-, hnone⟩ | ⟨v, hv, hsome⟩
    · cases hnone
    · cases hsome
      exact belongsTo_of_isConversion hv

/-- Coercion is sound and complete for a shape and a supported operator.  A list is wanted as
members of a set and as the value of a sequence.  A raw value is coerced to a datum, or refused with
a code, exactly as its elements are; and the scalars of the datum belong to the kind. -/
theorem coerce_sound_complete (path : String) (raw : Raw) {shape : Shape} {operator : Operator}
    (hop : shape.supports operator = true) :
    (wantsList shape operator = true ↔
      (shape.isSequence = false ∧ operator = .containsOnValue) ∨
        (shape.isSequence = true ∧ (operator = .equal ∨ operator = .notEqual))) ∧
    (∀ operand, coerce path raw shape operator = .ok operand ↔
      Coerces path raw shape operator operand) ∧
    (∀ code, (∃ e, coerce path raw shape operator = .error e ∧ e.code = code) ↔
      Refuses path raw shape operator code) ∧
    ∀ operand, coerce path raw shape operator = .ok operand →
      ∀ w, some w ∈ operand.elements → BelongsTo shape.element w := by
  refine ⟨wantsList_iff hop, ?_, ?_, fun operand h w ↦ belongsTo_of_coerce hop h⟩
  · intro operand
    cases hlist : wantsList shape operator with
    | true =>
      rw [coerce_eq_many hop hlist]
      exact coerceMany_eq_ok_iff hlist
    | false =>
      rw [coerce_eq_single hlist]
      exact coerceSingle_eq_ok_iff hlist
  · intro code
    cases hlist : wantsList shape operator with
    | true =>
      rw [coerce_eq_many hop hlist]
      exact coerceMany_eq_error_iff hlist
    | false =>
      rw [coerce_eq_single hlist]
      exact coerceSingle_eq_error_iff hlist

/-- A list with a null in it, as members of a set of nullable numbers; and one with a text in it. -/
theorem coerce_sound_complete_members :
    (Shape.nullable .int32).supports .containsOnValue = true ∧
      coerce "n" (.list [.null, .number "5"]) (.nullable .int32) .containsOnValue
        = .ok (.optional [none, some (.int 5)]) ∧
      ∃ e, coerce "n" (.list [.number "5", .text "x", .null]) (.nullable .int32) .containsOnValue
        = .error e ∧ e.code = .invalidValue := by
  have hop : (Shape.nullable .int32).supports .containsOnValue = true := rfl
  have hlist : wantsList (.nullable .int32) .containsOnValue = true := rfl
  have hfive : Gives "n" (.nullable .int32) (.number "5") (some (.int 5)) := .scalar rfl
  obtain ⟨-, hok, -, -⟩ := coerce_sound_complete "n" (.list [.null, .number "5"]) hop
  obtain ⟨-, -, herror, -⟩ := coerce_sound_complete "n" (.list [.number "5", .text "x", .null]) hop
  refine ⟨hop, (hok _).mpr (.optional hlist ?_ (by simp)), (herror _).mpr ?_⟩
  · exact .cons (.null rfl) (.cons hfive .nil)
  · have hraw : (Raw.list [.number "5", .text "x", .null]).elements
        = [.number "5"] ++ .text "x" :: [.null] := rfl
    obtain ⟨e, hx, hcode⟩ : ∃ e, coerceScalar "n" (.text "x") .int32 = .error e ∧
        e.code = .invalidValue := ⟨_, rfl, rfl⟩
    refine .first hlist hraw (by simpa using ⟨_, hfive⟩) ?_
    rw [← hcode]
    exact .scalar (by simp) hx

end Coercion

end RecordFilter
