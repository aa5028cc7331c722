import RecordFilter.Proofs.Compile.Attribution
import RecordFilter.Proofs.Compile.Descriptors
import RecordFilter.Proofs.Query.Layout
import RecordFilter.Proofs.Scalar.Spelling
import RecordFilter.Proofs.Schema.Conforming
import RecordFilter.Proofs.Schema.Registrations

/-!
# Asking for what is there

The text of what a record holds can be put into a query, behind the path of the
property and an operator of equality.  The query compiles, the record is among
those that are equal and not among those that are not
(`Schema.accepts_own_datum`).  Of the variants of an enumeration this holds for
those that a query can tell by their names (`Shape.IsLegible`).

On the way from the record to the test and back the datum takes on three forms:
its text, the raw value that the text is read as, and the operand that this raw
value is coerced to.  `Datum.IsSpelledAs` ties them together.  Lists are spelled
element by element, in one of two ways of writing: any scalar with its quotes,
or names as they are.
-/

namespace RecordFilter

/-! ## Elements -/

namespace Coercion

theorem isNull_of_convert {raw : Raw} {k : Kind} {v : Scalar} (h : convert raw k = .ok v) :
    raw.isNull = false := by
  cases raw <;> first | rfl | cases h

theorem coerceScalar_of_convert {raw : Raw} {k : Kind} {v : Scalar} (h : convert raw k = .ok v)
    (path : String) : coerceScalar path raw k = .ok v := coerceScalar_eq_ok_iff.mpr h

/-- What converts is a single value, and coerced to its scalar. -/
theorem coerceSingle_of_convert {raw : Raw} {k : Kind} {v : Scalar} (h : convert raw k = .ok v)
    (path : String) (nullable : Bool) : coerceSingle path raw k nullable = .ok (.single v) := by
  have hsingle : raw.single? = some raw := by
    cases raw <;> first | rfl | cases h
  simp only [coerceSingle, hsingle, isNull_of_convert h, coerceScalar_of_convert h]
  rfl

end Coercion

namespace Shape

variable {shape : Shape} {W : Raw → List Char → Prop}

/-- Whether an element is a null that is admitted or a scalar that is spelled in some way. -/
def IsSpelledElement (W : Raw → List Char → Prop) (shape : Shape) (x : Option Scalar) : Prop :=
  (shape.admitsNull = true ∧ x = none) ∨
    ∃ v raw, x = some v ∧ v.IsSpelledAs W shape.element raw

/-- The text of an element is a way of writing a raw value that is coerced to one like it. -/
theorem IsSpelledElement.exists_coerceElement (hnull : W .null "null".toList)
    {x : Option Scalar} (hx : shape.IsSpelledElement W x) :
    ∃ (raw : Raw) (w : Option Scalar), W raw (Datum.renderElement x).toList ∧
      (∀ path list, Coercion.coerceElement path list shape.element shape.admitsNull raw = .ok w) ∧
      Alike x w := by
  rcases hx with ⟨hadmits, rfl⟩ | ⟨v, raw, rfl, hwrites, w, hconvert, hsame⟩
  · refine ⟨.null, none, hnull, fun path list ↦ ?_, trivial⟩
    exact (if_pos rfl).trans (if_pos hadmits)
  · refine ⟨raw, some w, hwrites, fun path list ↦ ?_, hsame⟩
    rw [Coercion.coerceElement, Coercion.isNull_of_convert hconvert,
      Coercion.coerceScalar_of_convert hconvert]
    rfl

/-- The same for all elements of a list. -/
theorem exists_coerceElements (hnull : W .null "null".toList) {xs : List (Option Scalar)}
    (hxs : ∀ x ∈ xs, shape.IsSpelledElement W x) :
    ∃ (raws : List Raw) (ws : List (Option Scalar)),
      List.Forall₂ W raws (xs.map fun x ↦ (Datum.renderElement x).toList) ∧
      (∀ path list,
        raws.mapM (Coercion.coerceElement path list shape.element shape.admitsNull) = .ok ws) ∧
      List.Forall₂ Alike xs ws := by
  induction xs with
  | nil => exact ⟨[], [], .nil, fun _ _ ↦ rfl, .nil⟩
  | cons x xs ih =>
    obtain ⟨hx, hxs⟩ := List.forall_mem_cons.mp hxs
    obtain ⟨raw, w, hwrites, hcoerce, halike⟩ := hx.exists_coerceElement hnull
    obtain ⟨raws, ws, hwritesAll, hcoerceAll, halikeAll⟩ := ih hxs
    refine ⟨raw :: raws, w :: ws, .cons hwrites hwritesAll, fun path list ↦ ?_,
      .cons halike halikeAll⟩
    exact mapM_eq_ok_iff.mpr
      (.cons (hcoerce path list) (mapM_eq_ok_iff.mp (hcoerceAll path list)))

/-- Whether a query can tell the variants in a datum by their names.  Data of other kinds have
none. -/
def IsLegible (path : Path) (shape : Shape) (d : Datum) : Prop :=
  ∀ e, shape.element = .enumeration e → ∀ t name ordinal,
    some (.variant t name ordinal) ∈ d.elements → e.IsTold path shape name ordinal

end Shape

/-! ## Data -/

namespace Datum

/-- Whether the text of a datum of a shape is read, behind a path, as a raw value, which is coerced,
for both operators of equality, to an operand that the datum equals. -/
structure IsSpelledAs (path : Path) (shape : Shape) (d : Datum) (raw : Raw) (operand : Datum) :
    Prop where
  holds : shape.Holds d
  parses : ∀ operator : Operator,
    parseDescriptors (path.text ++ ":" ++ operator.keyword ++ ":" ++ d.render)
      = .ok [⟨none, operator, path, raw⟩]
  coerces : ∀ operator, operator = .equal ∨ operator = .notEqual →
    Coercion.coerce path.text raw shape operator = .ok operand
  equals : Matches shape .equal operand d

/-- The text of a list. -/
theorem toList_render_of_isSequence {shape : Shape} (hs : shape.isSequence = true) {d : Datum}
    (hd : shape.Holds d) : d.render.toList
      = '[' :: ([',', ' '].intercalate (d.elements.map fun x ↦ (renderElement x).toList)
        ++ [']']) := by
  cases d with
  | null | single v => simp [Shape.Holds, hs] at hd
  | many vs | optional vs => simp [render, Function.comp_def]

section Spelled

variable {path : Path} {shape : Shape} {d : Datum}

theorem exists_isSpelledAs_null (hpath : ∀ segment ∈ path.segments, IsIdentifier segment)
    (h : shape.isNullable = true) : ∃ raw operand, null.IsSpelledAs path shape raw operand := by
  cases shape
  case nullable k =>
    refine ⟨.null, .null, rfl, ?_, ?_, trivial⟩
    · exact Clause.parseDescriptors_of_writes hpath (.scalar (.null (by decide)))
    · rintro operator (rfl | rfl) <;> rfl
  all_goals cases h

/-- A scalar whose text is read as what converts back to it. -/
theorem isSpelledAs_single (hs : shape.isSequence = false) {v w : Scalar} {raw : Raw}
    (hparse : ∀ operator : Operator,
      parseDescriptors (path.text ++ ":" ++ operator.keyword ++ ":" ++ v.render)
        = .ok [⟨none, operator, path, raw⟩])
    (hconvert : Coercion.convert raw shape.element = .ok w) (hsame : v.compare? w = some .eq) :
    (single v).IsSpelledAs path shape raw (single w) := by
  have hcoerce : Coercion.coerceSingle path.text raw shape.element shape.admitsNull
      = .ok (.single w) := Coercion.coerceSingle_of_convert hconvert path.text _
  refine ⟨hs, hparse, ?_, ?_⟩
  · rintro operator (rfl | rfl) <;> simpa [Coercion.coerce, hs] using hcoerce
  · simpa [Matches, hs, ValueMatches, single?, Alike] using hsame

/-- A list whose elements are all spelled in a way that is read among the items of a list. -/
theorem exists_isSpelledAs_list {W : Raw → List Char → Prop}
    (hnull : W .null "null".toList)
    (hparse : ∀ (raws : List Raw) (ws : List (List Char)) (text : String),
      List.Forall₂ W raws ws →
      text.toList = '[' :: ([',', ' '].intercalate ws ++ [']']) → ∀ operator : Operator,
        parseDescriptors (path.text ++ ":" ++ operator.keyword ++ ":" ++ text)
          = .ok [⟨none, operator, path, .list raws⟩])
    (hs : shape.isSequence = true) (hd : shape.Holds d)
    (h : ∀ x ∈ d.elements, shape.IsSpelledElement W x) :
    ∃ raw operand, d.IsSpelledAs path shape raw operand := by
  obtain ⟨raws, ws, hwrites, hcoerce, halike⟩ := Shape.exists_coerceElements hnull h
  have hmany : Coercion.coerceMany path.text (.list raws) shape.element shape.admitsNull
      = .ok (.ofOptions ws) := map_eq_ok_iff.mpr ⟨ws, hcoerce path.text (.list raws), rfl⟩
  refine ⟨.list raws, .ofOptions ws, hd, ?_, ?_, ?_⟩
  · exact hparse raws _ d.render hwrites (toList_render_of_isSequence hs hd)
  · rintro operator (rfl | rfl) <;> simpa [Coercion.coerce, hs] using hmany
  · rw [Matches, if_pos hs, ListMatches, elements_ofOptions]
    exact halike

/-! ### Scalars with their quotes -/

section Spellable

variable (hpath : ∀ segment ∈ path.segments, IsIdentifier segment)
  (hk : shape.element.IsSpellable) (hne : ∀ e, shape.element ≠ .enumeration e)

include hpath hk hne

theorem exists_isSpelledAs_scalar (hs : shape.isSequence = false) {v : Scalar}
    (hv : shape.element.Includes v) :
    ∃ raw operand, (single v).IsSpelledAs path shape raw operand := by
  obtain ⟨b, rfl⟩ := (Kind.includes_iff hne).mp hv
  obtain ⟨raw, hwrites, w, hconvert, hsame⟩ := Kind.exists_isSpelledAs hk hne b
  exact ⟨raw, _, isSpelledAs_single hs (Clause.parseDescriptors_of_writes hpath (.scalar hwrites))
    hconvert hsame⟩

theorem exists_isSpelledAs_scalars (hs : shape.isSequence = true) (hd : shape.Holds d)
    (h : ∀ x ∈ d.elements, shape.IncludesElement x) :
    ∃ raw operand, d.IsSpelledAs path shape raw operand := by
  refine exists_isSpelledAs_list (W := Raw.WritesScalar) (.null (by decide)) ?_ hs hd ?_
  · intro raws ws text hwrites htext operator
    refine Clause.parseDescriptors_of_writes hpath ?_ operator
    rw [htext]
    exact Raw.writes_list hwrites
  · intro x hx
    refine (h x hx).imp_right ?_
    rintro ⟨v, hv, rfl⟩
    obtain ⟨b, rfl⟩ := (Kind.includes_iff hne).mp hv
    obtain ⟨raw, hraw⟩ := Kind.exists_isSpelledAs hk hne b
    exact ⟨_, raw, rfl, hraw⟩

end Spellable

/-! ### Variants by their names -/

theorem exists_isSpelledAs_variant (hpath : ∀ segment ∈ path.segments, IsIdentifier segment)
    (hs : shape.isSequence = false) {e : Enumeration} (he : shape.element = .enumeration e)
    {v : Scalar} (hv : shape.element.Includes v) (hlegible : shape.IsLegible path (.single v)) :
    ∃ raw operand, (single v).IsSpelledAs path shape raw operand := by
  rw [he] at hv
  obtain ⟨name, ordinal, hat, rfl⟩ := hv
  have htold := hlegible e he _ _ _ List.mem_cons_self
  have hnames : Clause.NamesAlone path name.toList := by simpa [hs] using htold.names
  obtain ⟨raw, hraw, hparse⟩ := hnames.exists_parseDescriptors hpath
  obtain ⟨w, hconvert, hsame⟩ := htold.converts hat hraw
  rw [← he] at hconvert
  exact ⟨raw, _, isSpelledAs_single hs hparse hconvert hsame⟩

theorem exists_isSpelledAs_variants (hpath : ∀ segment ∈ path.segments, IsIdentifier segment)
    (hs : shape.isSequence = true) {e : Enumeration} (he : shape.element = .enumeration e)
    (hd : shape.Holds d) (h : ∀ x ∈ d.elements, shape.IncludesElement x)
    (hlegible : shape.IsLegible path d) : ∃ raw operand, d.IsSpelledAs path shape raw operand := by
  refine exists_isSpelledAs_list Clause.isOpenItem_null ?_ hs hd ?_
  · exact fun raws ws text hwrites htext ↦ Clause.parseDescriptors_list hpath hwrites htext
  · intro x hx
    refine (h x hx).imp_right ?_
    rintro ⟨v, hv, rfl⟩
    rw [he] at hv
    obtain ⟨name, ordinal, hat, rfl⟩ := hv
    have htold := hlegible e he _ _ _ hx
    have hnames : Clause.NamesInList name.toList := by simpa [hs] using htold.names
    obtain ⟨raw, hraw, hitem⟩ := hnames.exists_isOpenItem
    have hconverts := htold.converts hat hraw
    rw [← he] at hconverts
    exact ⟨_, raw, rfl, hitem, hconverts⟩

/-- Whatever a shape includes is spelled so, if its variants can be told by their names, and except
for a null that cannot be asked for. -/
theorem exists_isSpelledAs (hpath : ∀ segment ∈ path.segments, IsIdentifier segment)
    (hk : shape.element.IsSpellable) (hd : shape.Includes d) (hlegible : shape.IsLegible path d)
    (hnull : d ≠ .null ∨ shape.isNullable = true) :
    ∃ raw operand, d.IsSpelledAs path shape raw operand := by
  rcases hd with rfl | ⟨hholds, helements⟩
  · exact exists_isSpelledAs_null hpath (hnull.resolve_left fun h ↦ h rfl)
  cases hs : shape.isSequence with
  | true =>
    rcases em (∃ e, shape.element = .enumeration e) with ⟨e, he⟩ | hne
    · exact exists_isSpelledAs_variants hpath hs he hholds helements hlegible
    · exact exists_isSpelledAs_scalars hpath hk (not_exists.mp hne) hs hholds helements
  | false =>
    cases d with
    | null => exact exists_isSpelledAs_null hpath (hnull.resolve_left fun h ↦ h rfl)
    | many vs | optional vs => simp [Shape.Holds, hs] at hholds
    | single v =>
      have hv : shape.element.Includes v := by
        rcases helements _ List.mem_cons_self with ⟨-, hnone⟩ | ⟨w, hw, hv⟩
        · cases hnone
        · rwa [Option.some.inj hv]
      rcases em (∃ e, shape.element = .enumeration e) with ⟨e, he⟩ | hne
      · exact exists_isSpelledAs_variant hpath hs he hv hlegible
      · exact exists_isSpelledAs_scalar hpath hk (not_exists.mp hne) hs hv

end Spelled

end Datum

theorem matches_notEqual_iff {shape : Shape} {operand d : Datum} :
    Matches shape .notEqual operand d ↔ ¬ Matches shape .equal operand d := by
  rw [Matches, Matches]
  split <;> rfl

/-! ## Queries of one condition -/

namespace Schema

variable {ρ : Type} {s : Schema ρ} {o : CompileOptions}

/-- A query compiles, in either mode, when its descriptors do. -/
theorem build_eq_ok_iff {query : String} {c : Compiled ρ} :
    s.build o query = .ok c ↔
      ∃ ds, parseDescriptors query = .ok ds ∧ s.compile o ds = .ok c := by
  have hresult : ∀ (mode : Mode) found, (parseWith mode query).result = .ok found ↔
      clauseOutcomes query = found.map .ok := fun _ _ ↦ Mode.collect_eq_ok_iff
  constructor
  · intro h
    obtain ⟨found, hfound, hc⟩ := bind_eq_ok_iff.mp h
    rw [hresult] at hfound
    exact ⟨_, bind_eq_ok_iff.mpr ⟨found, (hresult _ _).mpr hfound, rfl⟩, hc⟩
  · rintro ⟨ds, hds, hc⟩
    obtain ⟨found, hfound, hvalues⟩ := bind_eq_ok_iff.mp hds
    cases hvalues
    exact bind_eq_ok_iff.mpr ⟨found, (hresult _ _).mpr ((hresult _ _).mp hfound), hc⟩

/-- A descriptor compiles to the test of the property that its path names. -/
theorem exists_compile_singleton {d : Descriptor} {found : Resolved ρ} {operand : Datum}
    {test : ρ → Bool} (hfound : s.resolve o.caseSensitive d.path.text = .ok found)
    (hagain : s.resolve true found.path = .ok found)
    (hoperand : Coercion.coerce found.path d.value found.property.shape d.operator = .ok operand)
    (hop : found.property.shape.supports d.operator = true)
    (htest : found.property.test found.path d.operator operand = .ok test) :
    ∃ c, s.compile o [d] = .ok c ∧ ∀ r, c.accepts r = test r := by
  let atom : Atom := .compare ⟨found.path, d.operator, found.property.shape, operand⟩
  have hatom : s.atomTest atom = .ok test := bind_eq_ok_iff.mpr ⟨found, hagain, htest⟩
  have hcondition : s.conditionOf o d = .ok ⟨found.path, d.connective, .atom atom⟩ :=
    conditionOf_eq_ok_iff.mpr
      ⟨found, operand, hfound, hoperand, ensureSupported_eq_ok_iff.mpr hop, rfl⟩
  obtain ⟨c, hc⟩ : ∃ c, s.lower (.atom atom) = .ok c := by
    refine exists_lower_eq_ok_iff.mpr fun a ha ↦ ?_
    obtain rfl := List.mem_singleton.mp ha
    exact ⟨test, hatom⟩
  refine ⟨c, compile_singleton_eq_ok_iff.mpr ⟨_, hcondition, hc⟩, fun r ↦ ?_⟩
  rw [(lower_eq_ok hc).2 r]
  exact atomHolds_of_atomTest hatom r

/-- A descriptor whose value is coerced to an operand compiles to the reading of this operand. -/
theorem exists_compile_matches {d : Descriptor} {found : Resolved ρ} {operand : Datum}
    (hfound : s.resolve o.caseSensitive d.path.text = .ok found)
    (hagain : s.resolve true found.path = .ok found) {Reads : Shape → Datum → Prop}
    (hmade : found.property.MadeOf Reads)
    (hk : found.property.shape.element.HasDistinctNames ∨ found.property.IsComputed)
    (hoperand : Coercion.coerce found.path d.value found.property.shape d.operator = .ok operand)
    (hop : found.property.shape.supports d.operator = true) :
    ∃ c, s.compile o [d] = .ok c ∧ ∀ r, found.property.shape.Holds (found.property.read r) →
      (c.accepts r = true ↔
        Matches found.property.shape d.operator operand (found.property.read r)) := by
  have hfits := operand_of_coerce hop hoperand
  obtain ⟨test, htest, hmatches⟩ := hk.elim (fun hk ↦ hmade.exists_test? hk hop hfits)
    fun hcomputed ↦ hcomputed.exists_test? hop hfits
  obtain ⟨c, hc, haccepts⟩ := exists_compile_singleton hfound hagain hoperand hop
    (Property.test_eq_ok found.path hop htest)
  refine ⟨c, hc, fun r hr ↦ ?_⟩
  rw [haccepts]
  exact hmatches r hr

/-- A condition on a property, with the text of a datum, accepts the records whose own datum
satisfies the operator and the operand. -/
theorem exists_build_condition {path : Path} {p : Property ρ} (hp : s.get? path.text = some p)
    {Reads : Shape → Datum → Prop} (hmade : p.MadeOf Reads)
    (hk : p.shape.element.HasDistinctNames ∨ p.IsComputed) {d operand : Datum} {raw : Raw}
    (hd : d.IsSpelledAs path p.shape raw operand) {operator : Operator}
    (hop : operator = .equal ∨ operator = .notEqual) :
    ∃ c, s.build o (path.text ++ ":" ++ operator.keyword ++ ":" ++ d.render) = .ok c ∧
      ∀ r, p.shape.Holds (p.read r) →
        (c.accepts r = true ↔ Matches p.shape operator operand (p.read r)) := by
  have hresolve : ∀ caseSensitive, s.resolve caseSensitive path.text = .ok ⟨path.text, p⟩ :=
    fun caseSensitive ↦ resolve_of_get? caseSensitive path.trimString_text hp
  have hsupports : p.shape.supports operator = true := by
    rw [Shape.supports_iff]
    rcases hop with rfl | rfl <;> split <;> simp
  obtain ⟨c, hc, haccepts⟩ := exists_compile_matches (o := o) (d := ⟨none, operator, path, raw⟩)
    (hresolve o.caseSensitive) (hresolve true) hmade hk (hd.coerces operator hop) hsupports
  exact ⟨c, build_eq_ok_iff.mpr ⟨_, hd.parses operator, hc⟩, haccepts⟩

/-- A datum that is spelled is accepted by the condition that it is equal and not by the one that it
is not. -/
theorem accepts_of_isSpelledAs {path : Path} {p : Property ρ} (hp : s.get? path.text = some p)
    {Reads : Shape → Datum → Prop} (hmade : p.MadeOf Reads)
    (hk : p.shape.element.HasDistinctNames ∨ p.IsComputed) {r : ρ} {raw : Raw} {operand : Datum}
    (hd : (p.read r).IsSpelledAs path p.shape raw operand) :
    (∃ c, s.build o (path.text ++ ":Equal:" ++ (p.read r).render) = .ok c ∧
      c.accepts r = true) ∧
    ∃ c, s.build o (path.text ++ ":NotEqual:" ++ (p.read r).render) = .ok c ∧
      c.accepts r = false := by
  have hequal : path.text ++ ":" ++ Operator.equal.keyword ++ ":" ++ (p.read r).render
      = path.text ++ ":Equal:" ++ (p.read r).render := by
    rw [← String.toList_inj]
    simp [Operator.keyword]
  have hnotEqual : path.text ++ ":" ++ Operator.notEqual.keyword ++ ":" ++ (p.read r).render
      = path.text ++ ":NotEqual:" ++ (p.read r).render := by
    rw [← String.toList_inj]
    simp [Operator.keyword]
  constructor
  · obtain ⟨c, hc, haccepts⟩ := exists_build_condition (o := o) hp hmade hk hd (.inl rfl)
    rw [hequal] at hc
    exact ⟨c, hc, (haccepts r hd.holds).mpr hd.equals⟩
  · obtain ⟨c, hc, haccepts⟩ := exists_build_condition (o := o) hp hmade hk hd (.inr rfl)
    rw [hnotEqual] at hc
    refine ⟨c, hc, ?_⟩
    rw [← Bool.not_eq_true, haccepts r hd.holds, matches_notEqual_iff]
    exact fun hne ↦ hne hd.equals

/-- A record is found by what it holds.  Whatever a property reads from a record, unless it is a
null that cannot be asked for, its text behind the path of the property makes up a query for
equality that compiles and accepts the record, and one for inequality that compiles and does not.
The kinds are those whose values can be told by their texts, the property may be a field, be
computed, stand for a part of a document or belong to a part of the record, and the path is one
that a query can spell.  Of the variants of an enumeration this holds as far as a query can tell
them by their names, and those that it can tell are just those whose names are read back.  No two
variants of a declared type have the same name; for computed properties nothing of the kind is
asked. -/
theorem accepts_own_datum {path : Path} {p : Property ρ}
    (hpath : ∀ segment ∈ path.segments, IsIdentifier segment) (hp : s.get? path.text = some p)
    (hmade : p.MadeOf Shape.Includes) (hk : p.shape.element.IsSpellable)
    (hdistinct : p.shape.element.HasDistinctNames ∨ p.IsComputed) (r : ρ)
    (hr : p.read r ≠ .null ∨ p.shape.isNullable = true) (o : CompileOptions) :
    (p.shape.IsLegible path (p.read r) →
      (∃ c, s.build o (path.text ++ ":Equal:" ++ (p.read r).render) = .ok c ∧
        c.accepts r = true) ∧
      ∃ c, s.build o (path.text ++ ":NotEqual:" ++ (p.read r).render) = .ok c ∧
        c.accepts r = false) ∧
    ∀ e, p.shape.element = .enumeration e → ∀ t name ordinal,
      some (.variant t name ordinal) ∈ (p.read r).elements →
        (e.IsTold path p.shape name ordinal ↔ e.IsReadBack path p.shape name ordinal) := by
  have hincludes := hmade.includes r
  constructor
  · intro hlegible
    obtain ⟨raw, operand, hd⟩ := Datum.exists_isSpelledAs hpath hk hincludes hlegible hr
    exact accepts_of_isSpelledAs hp hmade hdistinct hd
  · intro e he t name ordinal hmem
    exact Enumeration.isTold_iff hpath (hincludes.getElem?_of_mem he hmem)

/-- Slots with a separator in their names. -/
def slots : Enumeration := ⟨"Slot", ["a;b", "12:30"]⟩

/-- A property that is one of the slots. -/
def slot : Property (Fin 2) :=
  .computed (.scalar (.enumeration slots)) fun i ↦
    .single (.variant slots.name (slots.variants.get i) i)

/-- Records that have a slot. -/
def slotted : Schema (Fin 2) := .ofRegistrations "Slotted" [.property "slot" slot]

theorem madeOf_slot : slot.MadeOf Shape.Includes := by
  refine .computed _ _ fun i ↦ Shape.includes_single rfl ⟨_, _, ?_, rfl⟩
  exact List.getElem?_eq_getElem i.isLt

/-- A colon does no harm to a name. -/
theorem accepts_own_datum_slot :
    (∃ c, slotted.build {} "slot:Equal:12:30" = .ok c ∧ c.accepts 1 = true) ∧
    ∃ c, slotted.build {} "slot:NotEqual:12:30" = .ok c ∧ c.accepts 1 = false := by
  let path : Path := ⟨["slot"], by decide, by decide⟩
  have hslot : IsIdentifier "slot" := isIdentifier_of_all rfl rfl rfl
  have hp : slotted.get? path.text = some slot := rfl
  have hnames : Clause.NamesAlone path "12:30".toList := by
    refine ⟨⟨⟨by decide, rfl⟩, ?_, by decide⟩, rfl, ?_⟩
    · rintro c ⟨⟩
      exact ⟨rfl, by decide⟩
    · rintro c o v hword
      cases c <;> exact absurd hword (by decide)
  refine (accepts_own_datum (List.forall_mem_singleton.mpr hslot) hp madeOf_slot trivial
    (.inr (.computed _ _)) 1 (.inl ?_) {}).1 ?_
  · rintro ⟨⟩
  · rintro e ⟨⟩ t name ordinal hmem
    cases List.mem_singleton.mp hmem
    exact ⟨hnames, rfl⟩

/-- A semicolon makes two clauses of the query for a variant that has it in its name. -/
theorem not_accepts_semicolon :
    slotted.get? "slot" = some slot ∧ slot.MadeOf Shape.Includes ∧
      (slots.variants.Nodup ∧ ∀ name ∈ slots.variants, ∀ keyword ∈ ["null", "true", "false"],
        ¬ IsCaseOf keyword name.toList) ∧
      slot.read 0 = .single (.variant "Slot" "a;b" 0) ∧ (slot.read 0).render = "a;b" ∧
      ¬ ∃ c, slotted.build {} "slot:Equal:a;b" = .ok c := by
  have hparse : (parseDescriptors "slot:Equal:a;b").toOption = none := rfl
  refine ⟨rfl, madeOf_slot, ⟨by decide, by decide⟩, rfl, rfl, ?_⟩
  rintro ⟨c, hc⟩
  obtain ⟨ds, hds, -⟩ := build_eq_ok_iff.mp hc
  rw [hds] at hparse
  cases hparse

end Schema

end RecordFilter
