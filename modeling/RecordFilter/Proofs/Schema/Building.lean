import RecordFilter.Proofs.Schema.Resolving

/-!
# Building schemas

A schema is built by calls, each of which registers a single property or all properties
of a part of the record, whose schema has been built before.  One more call binds its own
paths to its properties, while all others stay bound as they were
(`get?_schema_concat`).  By induction on the calls, each path is bound by the last call
that registers it, and it stays where it was registered first.

What makes a built schema fit for being nested and for being asked is that no path in it
has blanks around it, since these are dropped from a path whenever it is registered or
resolved.
-/

namespace RecordFilter

namespace Builder

variable {ρ : Type}

/-- A schema whose paths have no blanks around them. -/
structure Built (ρ : Type) where
  schema : Schema ρ
  trimString_eq : ∀ path ∈ schema.paths, Text.trimString path = path

/-- The ways to say what a single property of a record is. -/
inductive Accessor (ρ : Type) : Type 1
  | scalar {α : Type} [FieldType α] (get : ρ → α)
  | nullable {α : Type} [FieldType α] (get : ρ → Option α)
  | sequence {α : Type} [FieldType α] (kind : SequenceKind) (get : ρ → List α)
  | nullableSequence {α : Type} [FieldType α] (kind : SequenceKind) (get : ρ → List (Option α))
  | computed (shape : Shape) (read : ρ → Datum)
  | custom (p : Property ρ)

namespace Accessor

/-- The property that an accessor is. -/
def property : Accessor ρ → Property ρ
  | scalar get => .scalar get
  | nullable get => .nullable get
  | sequence kind get => .sequence kind get
  | nullableSequence kind get => .nullableSequence kind get
  | computed shape read => .computed shape read
  | custom p => p

/-- The registration of an accessor under a path. -/
def registration (path : String) : Accessor ρ → Registration ρ
  | scalar get => .scalar path get
  | nullable get => .nullable path get
  | sequence kind get => .sequence path kind get
  | nullableSequence kind get => .nullableSequence path kind get
  | computed shape read => .computed path shape read
  | custom p => .property path p

theorem registration_eq (path : String) (a : Accessor ρ) :
    a.registration path = [(Text.trimString path, a.property)] := by
  cases a <;> rfl

end Accessor

/-- The calls that build a schema. -/
inductive Call (ρ : Type) : Type 1
  | property (path : String) (accessor : Accessor ρ)
  | nested {σ : Type} (path : String) (part : ρ → σ) (child : Built σ)

namespace Call

/-- The paths that a call registers, in order. -/
def paths : Call ρ → List String
  | property path _ => [Text.trimString path]
  | nested path _ child => child.schema.paths.map (Text.trimString path ++ "." ++ ·)

/-- Whether a call registers a path for a property. -/
inductive Binds : Call ρ → String → Property ρ → Prop
  | property (path : String) (accessor : Accessor ρ) :
      Binds (.property path accessor) (Text.trimString path) accessor.property
  | nested {σ : Type} (path : String) (part : ρ → σ) {child : Built σ} {q : String}
      {p : Property σ} (h : child.schema.get? q = some p) :
      Binds (.nested path part child) (Text.trimString path ++ "." ++ q) (p.ofPart part)

def registration : Call ρ → Registration ρ
  | property path accessor => accessor.registration path
  | nested path part child => .nested path part child.schema

variable {call : Call ρ} {path : String} {p : Property ρ}

theorem map_fst_registration (call : Call ρ) : call.registration.map Prod.fst = call.paths := by
  cases call with
  | property path accessor => rw [registration, accessor.registration_eq, paths, List.map_singleton]
  | nested path part child =>
    rw [registration, Registration.nested, paths, Schema.paths, Table.keys, List.map_map,
      List.map_map]
    rfl

theorem binds_iff : call.Binds path p ↔ (path, p) ∈ call.registration := by
  constructor
  · rintro (⟨path, accessor⟩ | @⟨σ, path, part, child, q, p, h⟩)
    · rw [registration, accessor.registration_eq]
      exact List.mem_singleton_self _
    · exact List.mem_map.mpr ⟨(q, p), Schema.mem_entries_of_get? h, rfl⟩
  · intro h
    cases call with
    | property path accessor =>
      rw [registration, accessor.registration_eq, List.mem_singleton] at h
      cases h
      exact .property path accessor
    | nested path part child =>
      obtain ⟨⟨q, p⟩, hentry, heq⟩ := List.mem_map.mp h
      cases heq
      exact .nested path part (Table.get?_of_mem hentry)

/-- A call does not register a path twice. -/
theorem nodup_paths (call : Call ρ) : call.paths.Nodup := by
  cases call with
  | property path accessor => exact List.nodup_singleton _
  | nested path part child =>
    refine child.schema.properties.nodup.map ?_
    intro a b h
    rw [← String.toList_inj] at h ⊢
    simpa using h

/-- The paths that a call registers have no blanks around them. -/
theorem trimString_of_mem_paths (h : path ∈ call.paths) : Text.trimString path = path := by
  cases call with
  | property q accessor =>
    obtain rfl := List.mem_singleton.mp h
    exact trimString_trimString q
  | nested outer part child =>
    obtain ⟨q, hq, rfl⟩ := List.mem_map.mp h
    exact trimString_join (child.trimString_eq q hq) outer

end Call

/-! ## Schemas -/

/-- The schema that calls build, made one after the other. -/
def schema (name : String) (calls : List (Call ρ)) : Schema ρ :=
  .ofRegistrations name (calls.map Call.registration)

variable {name : String} {calls : List (Call ρ)} {path : String} {p : Property ρ}

/-- The paths come in the order in which they were first registered. -/
theorem paths_schema (name : String) (calls : List (Call ρ)) :
    (schema name calls).paths = (calls.flatMap Call.paths).eraseDups := by
  have hpaths : (calls.map Call.registration).flatten.map Prod.fst = calls.flatMap Call.paths := by
    rw [List.map_flatten, List.map_map, List.flatMap]
    congr 2
    funext call
    exact call.map_fst_registration
  rw [schema, Schema.paths, Schema.ofRegistrations, Table.keys_ofList, hpaths]

/-- One more call binds its own paths, and leaves all others bound as they were. -/
theorem get?_schema_concat (call : Call ρ) :
    (schema name (calls ++ [call])).get? path = some p ↔
      call.Binds path p ∨ path ∉ call.paths ∧ (schema name calls).get? path = some p := by
  have hnodup : (call.registration.map Prod.fst).Nodup := by
    rw [call.map_fst_registration]
    exact call.nodup_paths
  have hflatten : ((calls ++ [call]).map Call.registration).flatten
      = (calls.map Call.registration).flatten ++ call.registration := by
    rw [List.map_append, List.flatten_append, List.map_singleton, List.flatten_singleton]
  rw [Schema.get?, schema, Schema.ofRegistrations, hflatten,
    Table.get?_ofList_append_eq_some_iff hnodup, call.map_fst_registration, Call.binds_iff]
  rfl

/-- Whether the last of the calls that register a path registers it for a property. -/
def LastBinds (calls : List (Call ρ)) (path : String) (p : Property ρ) : Prop :=
  ∃ before call after, calls = before ++ call :: after ∧ call.Binds path p ∧
    ∀ later ∈ after, path ∉ later.paths

theorem lastBinds_concat_iff {call : Call ρ} :
    LastBinds (calls ++ [call]) path p ↔
      call.Binds path p ∨ path ∉ call.paths ∧ LastBinds calls path p := by
  constructor
  · rintro ⟨before, last, after, hsplit, hbinds, hafter⟩
    rcases List.eq_nil_or_concat after with rfl | ⟨after, final, rfl⟩
    · obtain ⟨-, rfl⟩ : calls = before ∧ call = last := by simpa using hsplit
      exact .inl hbinds
    · rw [List.concat_eq_append] at hafter hsplit
      rw [← List.cons_append, ← List.append_assoc] at hsplit
      obtain ⟨rfl, hlast⟩ := List.append_inj' hsplit rfl
      obtain rfl := List.singleton_inj.mp hlast
      rw [List.forall_mem_append, List.forall_mem_singleton] at hafter
      exact .inr ⟨hafter.2, before, last, after, rfl, hbinds, hafter.1⟩
  · rintro (hbinds | ⟨hnew, before, last, after, rfl, hbinds, hafter⟩)
    · exact ⟨calls, call, [], rfl, hbinds, List.forall_mem_nil _⟩
    · refine ⟨before, last, after ++ [call], by simp, hbinds, ?_⟩
      rw [List.forall_mem_append, List.forall_mem_singleton]
      exact ⟨hafter, hnew⟩

/-- A path is bound by the last call that registers it. -/
theorem get?_schema_eq_some_iff :
    (schema name calls).get? path = some p ↔ LastBinds calls path p := by
  induction calls using List.reverseRecOn with
  | nil =>
    constructor
    · rintro ⟨⟩
    · rintro ⟨before, last, after, hsplit, -, -⟩
      simp at hsplit
  | append_singleton calls call ih => rw [get?_schema_concat, lastBinds_concat_iff, ih]

/-- The registered paths have no blanks around them, so that the schema can be nested. -/
theorem trimString_of_mem_schema (h : path ∈ (schema name calls).paths) :
    Text.trimString path = path := by
  rw [paths_schema, List.mem_eraseDups, List.mem_flatMap] at h
  obtain ⟨call, -, hpath⟩ := h
  exact Call.trimString_of_mem_paths hpath

def build (name : String) (calls : List (Call ρ)) : Built ρ :=
  ⟨schema name calls, fun _ ↦ trimString_of_mem_schema⟩

/-- What a schema is when it has been built by some calls: a table of paths, in the order in which
they were first registered, each with what the last call for it registered.  All ways to ask a
schema for its properties agree on this table. -/
structure IsTableOf (s : Schema ρ) (calls : List (Call ρ)) : Prop where
  paths : s.paths = (calls.flatMap Call.paths).eraseDups
  nodup : s.paths.Nodup
  size : s.size = s.paths.length
  shapes : s.shapes.map Prod.fst = s.paths
  bound : ∀ path ∈ s.paths, ∃ p, LastBinds calls path p ∧ s.get? path = some p ∧
    (path, p.shape) ∈ s.shapes ∧ (∀ r, s.read? path r = some (p.read r)) ∧
    ∀ caseSensitive, s.resolve caseSensitive path = .ok ⟨path, p⟩
  unbound : ∀ path ∉ s.paths, s.get? path = none ∧ ∀ r, s.read? path r = none

/-- Whatever the calls, they build the table of what they register. -/
theorem isTableOf_build (name : String) (calls : List (Call ρ)) :
    IsTableOf (build name calls).schema calls where
  paths := paths_schema name calls
  nodup := (schema name calls).properties.nodup
  size := (Table.length_keys _).symm
  shapes := by
    rw [Schema.shapes, List.map_map]
    rfl
  bound := by
    intro path hpath
    obtain ⟨p, hentry⟩ := Schema.mem_paths_iff.mp hpath
    have hget : (schema name calls).get? path = some p := Table.get?_of_mem hentry
    have hshape : (path, p.shape) ∈ (schema name calls).shapes :=
      List.mem_map.mpr ⟨(path, p), hentry, rfl⟩
    have hread : ∀ r, (schema name calls).read? path r = some (p.read r) := by
      intro r
      rw [Schema.read?, hget, Option.map_some]
    have htrimmed := trimString_of_mem_schema hpath
    exact ⟨p, get?_schema_eq_some_iff.mp hget, hget, hshape, hread,
      fun caseSensitive ↦ Schema.resolve_of_get? caseSensitive htrimmed hget⟩
  unbound := by
    intro path hpath
    have hget : (schema name calls).get? path = none := Schema.get?_eq_none_iff.mpr hpath
    have hread : ∀ r, (schema name calls).read? path r = none := by
      intro r
      rw [Schema.read?, hget, Option.map_none]
    exact ⟨hget, hread⟩

end Builder

end RecordFilter
