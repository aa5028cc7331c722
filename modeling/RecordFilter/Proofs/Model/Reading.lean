import RecordFilter.Proofs.Model.Queryable
import RecordFilter.Proofs.Scalar.Coercing
import RecordFilter.Proofs.Schema.Conforming

/-!
# What the properties of a model read

A property of a model follows the segments of its path from object to object and
converts the value that it comes to.  `Json.LeadsTo` and `Json.Gives` say so as
relations: under the shape of a single value the scalar that the value spells is
read, under that of a sequence the list of what its items stand for, and null
where there is no such datum (`RecordModel.read_eq_iff`).  The list is taken
over item by item, so that no item can be left out without leaving nothing at
all.  Null is what is left then, also under the shape of a sequence, which has no
such datum: what is read conforms to its shape but for that.  Nor do elements
tell null from the empty list, as they tell apart everything else.
-/

namespace RecordFilter

/-! ## Paths through documents -/

namespace Json

variable {document node : Json} {key : String} {keys : List String}

/-- Whether keys lead from a value to another one, each of them through an object. -/
inductive LeadsTo : Json → List String → Json → Prop where
  | here (node : Json) : LeadsTo node [] node
  | through {members : List (String × Json)} {key : String} {keys : List String} {next node : Json}
      (hnext : members.lookup key = some next) (h : LeadsTo next keys node) :
      LeadsTo (.object members) (key :: keys) node

theorem follow?_eq_some_iff : document.follow? keys = some node ↔ document.LeadsTo keys node := by
  induction keys generalizing document with
  | nil =>
    constructor
    · rintro ⟨⟩
      exact .here _
    · rintro ⟨⟩
      rfl
  | cons key keys ih =>
    rw [follow?, Option.bind_eq_some_iff]
    constructor
    · rintro ⟨next, hnext, h⟩
      cases document with
      | object members => exact .through hnext (ih.mp h)
      | _ => cases hnext
    · rintro (_ | ⟨hnext, h⟩)
      exact ⟨_, hnext, ih.mpr h⟩

/-! ## Values as data -/

/-- The raw value that a truth value, a number or a text would be in a query. -/
inductive Spells : Json → Raw → Prop where
  | bool (b : Bool) : Spells (.bool b) (.boolean b)
  | number (n : JsonNumber) : Spells (.number n) (.number n.text)
  | string (s : String) : Spells (.string s) (.text s)

theorem toRaw?_eq_some_iff {raw : Raw} : node.toRaw? = some raw ↔ node.Spells raw := by
  constructor
  · intro h
    cases node with
    | bool b =>
      cases h
      exact .bool b
    | number n =>
      cases h
      exact .number n
    | string s =>
      cases h
      exact .string s
    | _ => cases h
  · rintro ⟨⟩ <;> rfl

variable {path : String} {shape : Shape} {d : Datum}

/-- What an item stands for: null, where that is admitted, or the scalar that it spells. -/
inductive StandsFor (path : String) (shape : Shape) : Json → Option Scalar → Prop where
  | null (h : shape.admitsNull = true) : StandsFor path shape .null none
  | scalar {node : Json} {raw : Raw} {v : Scalar} (hraw : node.Spells raw)
      (h : Coercion.coerceScalar path raw shape.element = .ok v) :
      StandsFor path shape node (some v)

theorem readScalar?_eq_some_iff (path : String) {v : Scalar} :
    readScalar? shape.element node = some v ↔ node.StandsFor path shape (some v) := by
  simp only [readScalar?, Option.bind_eq_some_iff, toRaw?_eq_some_iff, toOption_eq_some_iff]
  constructor
  · rintro ⟨raw, hraw, h⟩
    exact .scalar hraw (Coercion.coerceScalar_eq_ok_iff.mpr h)
  · rintro (_ | ⟨hraw, h⟩)
    exact ⟨_, hraw, Coercion.coerceScalar_eq_ok_iff.mp h⟩

theorem readItem?_eq_some_iff (path : String) {x : Option Scalar} :
    readItem? shape.element shape.admitsNull node = some x ↔ node.StandsFor path shape x := by
  unfold readItem?
  split
  · constructor
    · intro h
      split at h
      · next hnull =>
        cases h
        exact .null hnull
      · cases h
    · intro h
      cases h with
      | null hnull => rw [if_pos hnull]
      | scalar hraw => cases hraw
  · next hne =>
    rw [Option.map_eq_some_iff]
    constructor
    · rintro ⟨v, hv, rfl⟩
      exact (readScalar?_eq_some_iff path).mp hv
    · intro h
      cases h with
      | null => exact absurd rfl hne
      | scalar hraw h => exact ⟨_, (readScalar?_eq_some_iff path).mpr (.scalar hraw h), rfl⟩

/-- The datum that a value gives under a shape, if it gives one: a scalar, or the list of what its
items stand for, which is one of scalars unless there is a null in it. -/
inductive Gives (path : String) (shape : Shape) : Json → Datum → Prop where
  | single (hs : shape.isSequence = false) {node : Json} {v : Scalar}
      (h : node.StandsFor path shape (some v)) : Gives path shape node (.single v)
  | many (hs : shape.isSequence = true) {items : List Json} {vs : List Scalar}
      (h : List.Forall₂ (StandsFor path shape) items (vs.map some)) :
      Gives path shape (.array items) (.many vs)
  | optional (hs : shape.isSequence = true) {items : List Json} {vs : List (Option Scalar)}
      (h : List.Forall₂ (StandsFor path shape) items vs) (hnull : none ∈ vs) :
      Gives path shape (.array items) (.optional vs)

/-- The datum that a value gives, if it does. -/
def given? (shape : Shape) (node : Json) : Option Datum :=
  if shape.isSequence then
    match node with
    | array items => (items.mapM (readItem? shape.element shape.admitsNull)).map .ofOptions
    | _ => none
  else (readScalar? shape.element node).map .single

/-- Where nothing is given, null is read. -/
theorem readDatum_eq_getD (shape : Shape) (node : Json) :
    readDatum shape node = (given? shape node).getD .null := by
  unfold readDatum given?
  cases shape.isSequence with
  | false => rfl
  | true => cases node <;> rfl

theorem given?_eq_some_iff (path : String) :
    given? shape node = some d ↔ node.Gives path shape d := by
  cases hs : shape.isSequence with
  | false =>
    simp only [given?, hs, Bool.false_eq_true, if_false, Option.map_eq_some_iff,
      readScalar?_eq_some_iff path]
    constructor
    · rintro ⟨v, hv, rfl⟩
      exact .single hs hv
    · intro h
      cases h with
      | single _ hv => exact ⟨_, hv, rfl⟩
      | many hs' => cases hs.symm.trans hs'
      | optional hs' => cases hs.symm.trans hs'
  | true =>
    have hlist : ∀ {items : List Json}, given? shape (.array items) = some d ↔
        ∃ vs, List.Forall₂ (StandsFor path shape) items vs ∧ Datum.ofOptions vs = d := by
      intro items
      simp only [given?, hs, if_true, Option.map_eq_some_iff, mapM_eq_some_iff,
        readItem?_eq_some_iff path]
    constructor
    · intro h
      cases node with
      | array items =>
        obtain ⟨vs, hvs, h⟩ := hlist.mp h
        rcases Coercion.ofOptions_eq_iff.mp h with ⟨ws, rfl, rfl⟩ | ⟨hnull, rfl⟩
        · exact .many hs hvs
        · exact .optional hs hvs hnull
      | _ => simp [given?, hs] at h
    · intro h
      cases h with
      | single hs' => cases hs.symm.trans hs'
      | many _ hvs => exact hlist.mpr ⟨_, hvs, Coercion.ofOptions_eq_iff.mpr (.inl ⟨_, rfl, rfl⟩)⟩
      | optional _ hvs hnull =>
        exact hlist.mpr ⟨_, hvs, Coercion.ofOptions_eq_iff.mpr (.inr ⟨hnull, rfl⟩)⟩

/-- A list gives no datum if one of its items stands for nothing. -/
theorem not_gives_of_mem {items : List Json} {item : Json} (hs : shape.isSequence = true)
    (hitem : item ∈ items) (h : ∀ x, ¬ item.StandsFor path shape x) :
    ¬ (array items).Gives path shape d := by
  have hlist : ∀ {vs}, ¬ List.Forall₂ (StandsFor path shape) items vs := by
    intro vs hvs
    obtain ⟨i, hi, rfl⟩ := List.getElem_of_mem hitem
    exact h _ (hvs.get hi (hvs.length_eq ▸ hi))
  rintro (hs' | ⟨-, hvs⟩ | ⟨-, hvs⟩)
  · cases hs'.symm.trans hs
  · exact hlist hvs
  · exact hlist hvs

/-! ## Elements -/

/-- The only datum without elements that a value can give is the empty list. -/
theorem Gives.eq_many_nil (h : node.Gives path shape d) (hd : d.elements = []) : d = .many [] := by
  cases h with
  | single => cases hd
  | many => rw [List.map_eq_nil_iff.mp hd]
  | optional _ _ hnull =>
    obtain rfl : _ = [] := hd
    cases hnull

/-- Data of one form are determined by their elements. -/
theorem Gives.eq_of_elements_eq {path' : String} {shape' : Shape} {node' : Json} {d' : Datum}
    (h : node.Gives path shape d) (h' : node'.Gives path' shape' d')
    (hform : shape.isSequence = shape'.isSequence) (heq : d.elements = d'.elements) : d = d' := by
  have hsome : ∀ {vs : List Scalar}, none ∉ vs.map some := by simp
  cases h with
  | single hs =>
    have hs' := hform.symm.trans hs
    cases h' with
    | single =>
      cases heq
      rfl
    | many hs'' => cases hs'.symm.trans hs''
    | optional hs'' => cases hs'.symm.trans hs''
  | many hs =>
    have hs' := hform.symm.trans hs
    cases h' with
    | single hs'' => cases hs'.symm.trans hs''
    | many => exact congrArg Datum.many (List.map_injective_iff.mpr (Option.some_injective _) heq)
    | optional _ _ hnull =>
      obtain rfl := heq
      exact absurd hnull hsome
  | optional hs _ hnull =>
    have hs' := hform.symm.trans hs
    cases h' with
    | single hs'' => cases hs'.symm.trans hs''
    | many =>
      obtain rfl := heq
      exact absurd hnull hsome
    | optional => exact congrArg Datum.optional heq

end Json

/-! ## Reading along a path -/

namespace RecordModel

variable {path path' : String} {shape : Shape} {keys keys' : List String} {document : Json}
  {d : Datum}

/-- What is read from a document: the datum that the value gives to which the keys lead, or null if
there is no such value or it gives no datum. -/
inductive Reads (path : String) (shape : Shape) (keys : List String) (document : Json) :
    Datum → Prop where
  | given {node : Json} {d : Datum} (hnode : document.LeadsTo keys node)
      (h : node.Gives path shape d) : Reads path shape keys document d
  | null (h : ∀ node d, document.LeadsTo keys node → ¬ node.Gives path shape d) :
      Reads path shape keys document .null

theorem read_eq_iff :
    read path shape document = d ↔ Reads path shape (segments path) document d := by
  have hread : read path shape document
      = ((document.follow? (segments path)).bind (Json.given? shape)).getD .null := by
    rw [read]
    cases document.follow? (segments path) with
    | none => rfl
    | some node => exact Json.readDatum_eq_getD shape node
  have hgiven : ∀ {d}, (document.follow? (segments path)).bind (Json.given? shape) = some d ↔
      ∃ node, document.LeadsTo (segments path) node ∧ node.Gives path shape d := by
    simp only [Option.bind_eq_some_iff, Json.follow?_eq_some_iff, Json.given?_eq_some_iff path,
      implies_true]
  rw [hread]
  constructor
  · rintro rfl
    cases hsome : (document.follow? (segments path)).bind (Json.given? shape) with
    | some d =>
      obtain ⟨node, hnode, h⟩ := hgiven.mp hsome
      exact .given hnode h
    | none =>
      refine .null fun node d hnode h ↦ ?_
      cases hsome.symm.trans (hgiven.mpr ⟨node, hnode, h⟩)
  · rintro (⟨hnode, h⟩ | hnone)
    · rw [hgiven.mpr ⟨_, hnode, h⟩, Option.getD_some]
    · cases hsome : (document.follow? (segments path)).bind (Json.given? shape) with
      | none => rfl
      | some d =>
        obtain ⟨node, hnode, h⟩ := hgiven.mp hsome
        exact absurd h (hnone node d hnode)

/-- Two data with the same elements are equal, if they are read under shapes of one form, unless one
of them is null and the other the empty list. -/
theorem Reads.eq_or_of_elements_eq {shape' : Shape} {document' : Json} {d' : Datum}
    (h : Reads path shape keys document d) (h' : Reads path' shape' keys' document' d')
    (hform : shape.isSequence = shape'.isSequence) (heq : d.elements = d'.elements) :
    d = d' ∨ (d = .null ∧ d' = .many []) ∨ (d = .many [] ∧ d' = .null) := by
  cases h with
  | given _ h =>
    cases h' with
    | given _ h' => exact .inl (h.eq_of_elements_eq h' hform heq)
    | null => exact .inr (.inr ⟨h.eq_many_nil heq, rfl⟩)
  | null =>
    cases h' with
    | given _ h' => exact .inr (.inl ⟨rfl, h'.eq_many_nil heq.symm⟩)
    | null => exact .inl rfl

end RecordModel

/-! ## Properties -/

/-- Whether a property reads documents exactly: what it reads is what its shape says of the value to
which the keys lead; it is null or conforms to the shape, whose form it has unless it is null in
place of a list; and one item that stands for nothing leaves nothing of a list. -/
structure Property.ReadsExactly (path : String) (keys : List String) (property : Property Json) :
    Prop where
  reads : ∀ document d, property.read document = d ↔
    RecordModel.Reads path property.shape keys document d
  conforms : ∀ document, property.shape.Conforms (property.read document)
  holds_iff : ∀ document, property.shape.Holds (property.read document) ↔
    ¬ (property.shape.isSequence = true ∧ property.read document = .null)
  null_of_mem : ∀ document items item, property.shape.isSequence = true →
    document.LeadsTo keys (.array items) → item ∈ items →
    (∀ x, ¬ item.StandsFor path property.shape x) → property.read document = .null

/-- What conforms to a shape has its form, unless it is null and a list is missing. -/
theorem Shape.Conforms.holds_iff {shape : Shape} {d : Datum} (h : shape.Conforms d) :
    shape.Holds d ↔ ¬ (shape.isSequence = true ∧ d = .null) := by
  rcases h with rfl | ⟨hholds, -⟩
  · rw [Holds, and_iff_left rfl, Bool.not_eq_true]
  · refine iff_of_true hholds ?_
    rintro ⟨hs, rfl⟩
    cases hs.symm.trans hholds

/-- A kind that is known by a name has no variants with a name in common. -/
theorem Kind.hasDistinctNames_of_ofName? {name : String} {k : Kind} (h : ofName? name = some k) :
    k.HasDistinctNames := by
  have halias : ∀ {name : String}, alias? name = some k → k.HasDistinctNames := by
    intro name h
    unfold alias? at h
    split at h <;> cases h <;> trivial
  rcases Option.or_eq_some_iff.mp h with h | ⟨-, h⟩
  · exact halias h
  · have hnamed : ∀ k ∈ named, k.HasDistinctNames := by simp [named, HasDistinctNames]
    exact hnamed k (List.mem_of_find?_eq_some h)

theorem PropertySpec.hasDistinctNames_element {spec : PropertySpec} {shape : Shape}
    (h : spec.shape? = some shape) : shape.element.HasDistinctNames := by
  obtain ⟨k, hk, rfl⟩ := Option.map_eq_some_iff.mp h
  have helement : (spec.form.shape k).element = k := by cases spec.form <;> rfl
  rw [helement]
  exact Kind.hasDistinctNames_of_ofName? hk

namespace RecordModel

variable {m : RecordModel} {s : Schema Json} {path : String} {property : Property Json}

/-- Whether a model declares a property under a path. -/
def Declares (m : RecordModel) (path : String) (property : Property Json) : Prop :=
  ∃ spec, (path, spec) ∈ m.properties.entries ∧
    register path spec = .ok [(Text.trimString path, property)]

theorem exists_of_register {spec : PropertySpec}
    (h : register path spec = .ok [(Text.trimString path, property)]) :
    ∃ shape, spec.shape? = some shape ∧ property = .computed shape (read path shape) := by
  obtain ⟨property', hreg, shape, hshape, rfl⟩ := register_eq_ok_iff.mp h
  rw [read_trimString] at hreg
  cases hreg
  exact ⟨shape, hshape, rfl⟩

theorem Declares.readsExactly (h : m.Declares path property) {p : Path}
    (hp : Path.ofText path = .ok p) : property.ReadsExactly path p.segments := by
  obtain ⟨spec, -, hreg⟩ := h
  obtain ⟨shape, hshape, rfl⟩ := exists_of_register hreg
  have hkeys : p.segments = segments path := Path.ofText_eq_ok_iff.mp hp
  have hreads : ∀ document d, (Property.computed shape (read path shape)).read document = d ↔
      Reads path shape p.segments document d := by
    intro document d
    rw [hkeys]
    exact read_eq_iff
  have hconforms : ∀ document, shape.Conforms (read path shape document) := fun document ↦
    ((Property.MadeOf.document path shape).includes document).conforms
      (PropertySpec.hasDistinctNames_element hshape)
  refine ⟨hreads, hconforms, fun document ↦ (hconforms document).holds_iff,
    fun document items item hs hnode hitem hbad ↦ ?_⟩
  refine (hreads _ _).mpr (.null fun node d hnode' hgives ↦ ?_)
  obtain rfl : node = .array items :=
    Option.some.inj ((Json.follow?_eq_some_iff.mpr hnode').symm.trans
      (Json.follow?_eq_some_iff.mpr hnode))
  exact Json.not_gives_of_mem hs hitem hbad hgives

/-- What is declared is found in the schema, unless another property is registered later under the
same path. -/
theorem get?_of_register (h : m.schema = .ok s) {spec : PropertySpec}
    (hreg : register path spec = .ok [(Text.trimString path, property)])
    (hlast : m.registered.get? (Text.trimString path) = some spec) :
    s.get? (Text.trimString path) = some property := by
  have hrel := rel_get?_schema h (Text.trimString path)
  rw [hlast] at hrel
  generalize hget : s.get? (Text.trimString path) = found at hrel
  cases hrel with
  | some hregistered =>
    have hreg' := register_eq_ok_iff.mpr ⟨_, rfl, hregistered⟩
    cases hreg'.symm.trans hreg
    rfl

/-- A valid model has a schema, in which its properties read documents exactly.  Two reads by
properties of one form that have the same elements are equal, or one is null and the other the empty
list. -/
theorem reads_exactly (h : m.validate = .ok ()) :
    ∃ s, m.schema = .ok s ∧
      (∀ path spec, (path, spec) ∈ m.properties.entries →
        ∃ property, m.Declares path property ∧ spec.shape? = some property.shape ∧
          (m.registered.get? (Text.trimString path) = some spec →
            s.get? (Text.trimString path) = some property)) ∧
      (∀ path property, m.Declares path property →
        ∃ p, Path.ofText path = .ok p ∧ property.ReadsExactly path p.segments) ∧
      ∀ path property path' property', m.Declares path property → m.Declares path' property' →
        property.shape.isSequence = property'.shape.isSequence → ∀ document document',
        (property.read document).elements = (property'.read document').elements →
        property.read document = property'.read document' ∨
          (property.read document = .null ∧ property'.read document' = .many []) ∨
          (property.read document = .many [] ∧ property'.read document' = .null) := by
  obtain ⟨s, hs⟩ := exists_schema h
  rw [validate_eq_ok_iff] at h
  have hexact : ∀ path property, m.Declares path property →
      ∃ p, Path.ofText path = .ok p ∧ property.ReadsExactly path p.segments := by
    intro path property hdeclares
    obtain ⟨spec, hspec, -⟩ := id hdeclares
    obtain ⟨⟨p, hp⟩, -⟩ := h _ hspec
    exact ⟨p, hp, hdeclares.readsExactly hp⟩
  refine ⟨s, hs, fun path spec hspec ↦ ?_, hexact, ?_⟩
  · obtain ⟨-, shape, hshape⟩ := h _ hspec
    obtain ⟨property, hreg, hregistered⟩ : ∃ property,
        register path spec = .ok [(Text.trimString path, property)] ∧
          spec.shape? = some property.shape :=
      ⟨_, register_eq_ok_iff.mpr ⟨_, rfl, shape, hshape, rfl⟩, hshape⟩
    exact ⟨property, ⟨spec, hspec, hreg⟩, hregistered, get?_of_register hs hreg⟩
  · intro path property path' property' hdeclares hdeclares' hform document document' heq
    obtain ⟨p, -, hreads⟩ := hexact path property hdeclares
    obtain ⟨p', -, hreads'⟩ := hexact path' property' hdeclares'
    exact ((hreads.reads document _).mp rfl).eq_or_of_elements_eq
      ((hreads'.reads document' _).mp rfl) hform heq

/-! ### Nulls, bad items and empty lists -/

def nestedTags : RecordModel where
  name := "M"
  properties := ⟨[("a.tags", ⟨"text", .nullableCollection⟩)], by decide⟩

/-- The document with this value under `a.tags`. -/
def withTags (tags : Json) : Json := .object [("a", .object [("tags", tags)])]

theorem reads_exactly_nested :
    nestedTags.validate = .ok () ∧ ∃ s property, nestedTags.schema = .ok s ∧
      s.get? "a.tags" = some property ∧
      property.read (withTags (.array [.string "x", .null])) = .optional [some (.text "x"), none] ∧
      property.read (withTags (.array [.string "x", .array []])) = .null := by
  have hvalid : nestedTags.validate = .ok () := rfl
  obtain ⟨s, hs, hall, hexact, -⟩ := reads_exactly hvalid
  obtain ⟨property, hdeclares, hshape, hget⟩ :=
    hall "a.tags" ⟨"text", .nullableCollection⟩ List.mem_cons_self
  obtain ⟨p, hp, hreads⟩ := hexact _ _ hdeclares
  have hkeys : p.segments = ["a", "tags"] := by
    rw [Path.segments_of_ofText hp]
    decide +kernel
  have hsequence : property.shape = .nullableCollection .text := (Option.some.inj hshape).symm
  have hleads : ∀ tags, (withTags tags).LeadsTo p.segments tags := by
    intro tags
    rw [hkeys]
    exact .through rfl (.through rfl (.here tags))
  refine ⟨hvalid, s, property, hs, ?_, ?_, ?_⟩
  · exact hget (by decide +kernel)
  · have hx : (Json.string "x").StandsFor "a.tags" property.shape (some (.text "x")) := by
      rw [hsequence]
      exact .scalar (.string "x") rfl
    have hnull : Json.null.StandsFor "a.tags" property.shape none := by
      rw [hsequence]
      exact .null rfl
    refine (hreads.reads _ _).mpr (.given (hleads _) (.optional ?_ ?_ ?_))
    · rw [hsequence]
      rfl
    · exact .cons hx (.cons hnull .nil)
    · exact List.mem_cons_of_mem _ List.mem_cons_self
  · refine hreads.null_of_mem _ _ (.array []) ?_ (hleads _) ?_ ?_
    · rw [hsequence]
      rfl
    · simp
    · rintro x (_ | ⟨hraw, -⟩)
      cases hraw

/-- A document without the list is read as null, which is no datum of the form of the shape and has
the elements of the empty list, but is not equal to it. -/
theorem missing_list_breaks_shape :
    nestedTags.validate = .ok () ∧ ∃ s property, nestedTags.schema = .ok s ∧
      s.get? "a.tags" = some property ∧
      ¬ property.shape.Holds (property.read (.object [])) ∧
      (property.read (.object [])).elements = (property.read (withTags (.array []))).elements ∧
      property.read (.object []) ≠ property.read (withTags (.array [])) := by
  let property : Property Json :=
    .computed (.nullableCollection .text) (read "a.tags" (.nullableCollection .text))
  have hmissing : property.read (.object []) = .null := rfl
  have hempty : property.read (withTags (.array [])) = .many [] := rfl
  refine ⟨rfl, _, property, rfl, rfl, ?_, ?_, ?_⟩
  · rw [hmissing]
    nofun
  · rw [hmissing, hempty]
    rfl
  · rw [hmissing, hempty]
    nofun

end RecordModel

end RecordFilter
