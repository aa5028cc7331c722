import RecordFilter.Model.Document
import RecordFilter.Proofs.Outcome
import RecordFilter.Proofs.Query.Paths
import RecordFilter.Proofs.Schema.Resolving
import RecordFilter.Proofs.Schema.Tables

/-!
# Which properties of a model can be queried

A path of a model is read in three ways.  It is checked as a path, which drops
the blanks around each segment; a document is read along these segments; but the
property is registered under the text as it stands, without the blanks at its
two ends only.  Requests come with the text of a path.  So a property answers
them when this text is what some property of the same shape is registered under
(`answers_iff`), as all are in a model whose paths have no blanks inside.
-/

namespace RecordFilter

/-- Whether the text of a path resolves, in any case, to a property of a shape that reads documents
along the segments of the path. -/
def Schema.Answers (s : Schema Json) (p : Path) (shape : Shape) : Prop :=
  ∀ caseSensitive, ∃ found, s.resolve caseSensitive p.text = .ok found ∧
    found.property.shape = shape ∧
    ∀ document, found.property.read document =
      ((document.follow? p.segments).map (Json.readDatum shape)).getD .null

namespace RecordModel

variable {m : RecordModel} {s : Schema Json}

/-! ## Valid models -/

theorem checkProperty_eq_ok_iff {path : String} {spec : PropertySpec} :
    checkProperty path spec = .ok () ↔
      (∃ p, Path.ofText path = .ok p) ∧ ∃ shape, spec.shape? = some shape := by
  rw [checkProperty, ← Option.isSome_iff_exists]
  cases hpath : Path.ofText path with
  | error e => simp
  | ok p => cases spec.shape? <;> simp

theorem validate_eq_ok_iff :
    m.validate = .ok () ↔ ∀ e ∈ m.properties.entries,
      (∃ p, Path.ofText e.1 = .ok p) ∧ ∃ shape, e.2.shape? = some shape := by
  rw [validate, forM_eq_ok_iff]
  exact forall₂_congr fun e _ ↦ checkProperty_eq_ok_iff

/-- A model that is read from a text is valid. -/
theorem validate_of_ofText {text : String} (h : ofText text = .ok m) : m.validate = .ok () := by
  obtain ⟨m', -, h⟩ := bind_eq_ok_iff.mp h
  obtain ⟨⟨⟩, hvalid, h⟩ := bind_eq_ok_iff.mp h
  cases h
  exact hvalid

/-! ## Registered properties -/

/-- The properties under the paths that they are registered under.  Of several under one path the
last one counts. -/
def registered (m : RecordModel) : Table PropertySpec :=
  .ofList (m.properties.entries.map fun e ↦ (Text.trimString e.1, e.2))

/-- Blanks around a path do not change what is read. -/
theorem read_trimString (path : String) (shape : Shape) :
    read (Text.trimString path) shape = read path shape := by
  funext document
  rw [read, read, segments, segments, Text.trimString, String.toList_ofList,
    Path.trimmedPieces_trim]

theorem read_text (p : Path) (shape : Shape) (document : Json) :
    read p.text shape document =
      ((document.follow? p.segments).map (Json.readDatum shape)).getD .null := by
  rw [read, segments, p.trimmedPieces_text]

/-- Whether a property is the one that is registered under a path as it is declared. -/
def IsRegistered (path : String) (spec : PropertySpec) (property : Property Json) : Prop :=
  ∃ shape, spec.shape? = some shape ∧ property = .computed shape (read path shape)

theorem register_eq_ok_iff {path : String} {spec : PropertySpec} {reg : Registration Json} :
    register path spec = .ok reg ↔
      ∃ property, reg = [(Text.trimString path, property)] ∧
        IsRegistered (Text.trimString path) spec property := by
  simp only [IsRegistered, read_trimString]
  rw [register]
  cases hshape : spec.shape? with
  | none => simp
  | some shape => simp [Registration.computed, Registration.property, eq_comm]

/-- The schema is made of one registration for each property. -/
theorem schema_eq_ok_iff :
    m.schema = .ok s ↔ ∃ regs, s = .ofRegistrations m.name regs ∧
      List.Forall₂ (fun e reg ↦ register e.1 e.2 = .ok reg) m.properties.entries regs := by
  constructor
  · intro h
    obtain ⟨regs, hregs, h⟩ := bind_eq_ok_iff.mp h
    cases h
    exact ⟨regs, rfl, mapM_eq_ok_iff.mp hregs⟩
  · rintro ⟨regs, rfl, hregs⟩
    exact bind_eq_ok_iff.mpr ⟨regs, mapM_eq_ok_iff.mpr hregs, rfl⟩

/-- Properties whose kinds are known can be registered. -/
theorem exists_registrations {entries : List (String × PropertySpec)}
    (h : ∀ e ∈ entries, ∃ shape, e.2.shape? = some shape) :
    ∃ regs, List.Forall₂ (fun e reg ↦ register e.1 e.2 = .ok reg) entries regs := by
  induction entries with
  | nil => exact ⟨[], .nil⟩
  | cons e entries ih =>
    rw [List.forall_mem_cons] at h
    obtain ⟨⟨shape, hshape⟩, hentries⟩ := h
    obtain ⟨regs, hregs⟩ := ih hentries
    exact ⟨_, .cons (register_eq_ok_iff.mpr ⟨_, rfl, shape, hshape, rfl⟩) hregs⟩

/-- A valid model has a schema. -/
theorem exists_schema (h : m.validate = .ok ()) : ∃ s, m.schema = .ok s := by
  rw [validate_eq_ok_iff] at h
  obtain ⟨regs, hregs⟩ := exists_registrations fun e he ↦ (h e he).2
  exact ⟨_, schema_eq_ok_iff.mpr ⟨regs, rfl, hregs⟩⟩

/-- The registrations follow the properties of the model one by one. -/
theorem forall₂_flatten {entries : List (String × PropertySpec)} {regs : List (Registration Json)}
    (h : List.Forall₂ (fun e reg ↦ register e.1 e.2 = .ok reg) entries regs) :
    List.Forall₂ (fun a b ↦ a.1 = b.1 ∧ IsRegistered a.1 a.2 b.2)
      (entries.map fun e ↦ (Text.trimString e.1, e.2)) regs.flatten := by
  induction h with
  | nil => exact .nil
  | cons hreg _ ih =>
    obtain ⟨property, rfl, hproperty⟩ := register_eq_ok_iff.mp hreg
    exact .cons ⟨rfl, hproperty⟩ ih

/-- What is found under a path is the property that was registered there last. -/
theorem rel_get?_schema (h : m.schema = .ok s) (path : String) :
    Option.Rel (IsRegistered path) (m.registered.get? path) (s.get? path) := by
  obtain ⟨regs, rfl, hregs⟩ := schema_eq_ok_iff.mp h
  exact Table.rel_get?_ofList (forall₂_flatten hregs) path

/-- The schema has all properties of the model when their paths differ by more than the blanks
around them. -/
theorem size_schema_iff (h : m.schema = .ok s) :
    s.size = m.properties.size ↔ (m.properties.keys.map Text.trimString).Nodup := by
  obtain ⟨regs, rfl, hregs⟩ := schema_eq_ok_iff.mp h
  have hentries := forall₂_flatten hregs
  have hlength : m.properties.size = regs.flatten.length := by
    rw [← hentries.length_eq, List.length_map, Table.size]
  have hkeys : m.properties.keys.map Text.trimString = regs.flatten.map Prod.fst := by
    rw [← Table.map_fst_eq hentries, Table.keys, List.map_map, List.map_map]
    rfl
  rw [hlength, hkeys]
  exact Table.size_ofList_eq_iff

/-! ## Requests -/

/-- A path is answered with a shape when the last property that was registered under its text is
declared with this shape. -/
theorem answers_iff (h : m.schema = .ok s) {p : Path} {shape : Shape} :
    s.Answers p shape ↔ (m.registered.get? p.text).bind PropertySpec.shape? = some shape := by
  have hrel := rel_get?_schema h p.text
  constructor
  · intro hanswers
    obtain ⟨found, hfound, hshape, -⟩ := hanswers true
    cases Schema.resolve_eq_iff.mp hfound with
    | folded hcase => cases hcase
    | @exact property hentry =>
      rw [p.trimString_text] at hentry
      have hget : s.get? p.text = some property := Table.get?_of_mem hentry
      rw [hget] at hrel
      generalize m.registered.get? p.text = declared at hrel
      cases hrel with
      | some hregistered =>
        obtain ⟨shape', hshape', rfl⟩ := hregistered
        exact hshape'.trans (congrArg some hshape)
  · intro hshape
    obtain ⟨spec, hspec, hshape⟩ := Option.bind_eq_some_iff.mp hshape
    rw [hspec] at hrel
    generalize hget : s.get? p.text = registered at hrel
    cases hrel with
    | some hregistered =>
      obtain ⟨shape', hshape', rfl⟩ := hregistered
      cases hshape.symm.trans hshape'
      intro caseSensitive
      refine ⟨_, Schema.resolve_of_get? caseSensitive p.trimString_text hget,
        Property.shape_computed shape _, fun document ↦ ?_⟩
      rw [Property.read_computed, read_text]

/-- What is declared under a path without blanks inside is answered as declared, unless another path
differs from it in the blanks around it only. -/
theorem answers_of_text (h : m.schema = .ok s) {path : String} {spec : PropertySpec} {shape : Shape}
    (hspec : (path, spec) ∈ m.properties.entries) (hshape : spec.shape? = some shape)
    (hdistinct : (m.properties.keys.map Text.trimString).Nodup) {p : Path}
    (hp : Text.trimString path = p.text) : s.Answers p shape := by
  have hkeys :
      ((m.properties.entries.map fun e ↦ (Text.trimString e.1, e.2)).map Prod.fst).Nodup := by
    rw [Table.keys, List.map_map] at hdistinct
    rwa [List.map_map]
  have hmem : (p.text, spec) ∈ m.registered.entries := by
    rw [registered, Table.entries_ofList hkeys, ← hp]
    exact List.mem_map.mpr ⟨(path, spec), hspec, rfl⟩
  rw [answers_iff h, Table.get?_of_mem hmem]
  exact hshape

/-- A model that is read from a text has a schema.  A property of the model answers the text of its
path as it is declared if and only if the property that is registered last under this text is
declared with the same shape, and the schema has as many properties as the model if and only if no
two paths differ in the blanks around them only. -/
theorem queryable_iff {text : String} (h : ofText text = .ok m) :
    ∃ s, m.schema = .ok s ∧
      (∀ path spec, (path, spec) ∈ m.properties.entries →
        ∃ p shape, Path.ofText path = .ok p ∧ spec.shape? = some shape ∧
          (s.Answers p shape ↔
            (m.registered.get? p.text).bind PropertySpec.shape? = some shape)) ∧
      (s.size = m.properties.size ↔ (m.properties.keys.map Text.trimString).Nodup) := by
  have hvalid := validate_of_ofText h
  obtain ⟨s, hs⟩ := exists_schema hvalid
  refine ⟨s, hs, fun path spec hspec ↦ ?_, size_schema_iff hs⟩
  obtain ⟨⟨p, hp⟩, shape, hshape⟩ := validate_eq_ok_iff.mp hvalid _ hspec
  exact ⟨p, shape, hp, hshape, answers_iff hs⟩

/-! ### Blanks around a path and blanks inside -/

/-- The path `a.b`. -/
def ab : Path := ⟨["a", "b"], by decide, by decide⟩

def padded : RecordModel where
  name := "M"
  properties := ⟨[(" a.b", ⟨"int64", .scalar⟩), ("c", ⟨"text", .nullable⟩)], by decide⟩

def paddedText : String :=
  "\x7b\"name\":\"M\",\"properties\":\x7b\" a.b\":\x7b\"type\":\"int64\"\x7d," ++
    "\"c\":\x7b\"type\":\"text\",\"shape\":\"nullable\"\x7d\x7d\x7d"

theorem queryable_iff_padded :
    ofText paddedText = .ok padded ∧ Path.ofText " a.b" = .ok ab ∧
      ∃ s, padded.schema = .ok s ∧ s.Answers ab (.scalar .int64) ∧ s.size = 2 := by
  have htext : ofText paddedText = .ok padded := toOption_eq_some_iff.mp (by decide +kernel)
  have hpath : Path.ofText " a.b" = .ok ab := toOption_eq_some_iff.mp (by decide +kernel)
  obtain ⟨s, hs, hanswers, hsize⟩ := queryable_iff htext
  obtain ⟨p, shape, hp, hshape, hiff⟩ := hanswers " a.b" ⟨"int64", .scalar⟩ List.mem_cons_self
  cases hpath.symm.trans hp
  cases hshape
  exact ⟨htext, hpath, s, hs, hiff.mpr (by decide +kernel), hsize.mpr (by decide +kernel)⟩

def spaced : RecordModel where
  name := "M"
  properties := ⟨[("a . b", ⟨"int64", .scalar⟩)], by decide⟩

def spacedText : String :=
  "\x7b\"name\":\"M\",\"properties\":\x7b\"a . b\":\x7b\"type\":\"int64\"\x7d\x7d\x7d"

/-- The property of this model is accepted, but not found under the text of its path. -/
theorem spaced_not_found :
    ofText spacedText = .ok spaced ∧ Path.ofText "a . b" = .ok ab ∧
      ∃ s, spaced.schema = .ok s ∧ ¬ s.Answers ab (.scalar .int64) ∧
        ∀ caseSensitive, (s.resolve caseSensitive ab.text).toOption.isNone := by
  have htext : ofText spacedText = .ok spaced := toOption_eq_some_iff.mp (by decide +kernel)
  have hpath : Path.ofText "a . b" = .ok ab := toOption_eq_some_iff.mp (by decide +kernel)
  obtain ⟨s, hs⟩ := exists_schema (validate_of_ofText htext)
  have hanswers : ¬ s.Answers ab (.scalar .int64) := by
    rw [answers_iff hs]
    decide +kernel
  refine ⟨htext, hpath, s, hs, hanswers, fun caseSensitive ↦ ?_⟩
  cases hs
  cases caseSensitive <;> decide +kernel

end RecordModel

end RecordFilter
