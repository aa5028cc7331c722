import RecordFilter.Proofs.Schema.Fitting
import RecordFilter.Proofs.Schema.Tables
import RecordFilter.Proofs.Text.Blank
import RecordFilter.Schema.Resolve

/-!
# Schemas made of registrations

The registrations of fields, of computed properties and of parts give every
property a path without blanks around it.  A path that was resolved can thus be
resolved again, exactly and to the same property, although blanks are dropped
from it once more.
-/

namespace RecordFilter

/-! ## Resolved paths -/

namespace Schema

variable {ρ : Type} {s : Schema ρ}

theorem mem_entries_of_get? {path : String} {p : Property ρ} (h : s.get? path = some p) :
    (path, p) ∈ s.properties.entries :=
  Table.mem_of_lookup h

/-- A path resolves to a property with the path it is registered under. -/
theorem mem_entries_of_resolve {caseSensitive : Bool} {path : String} {found : Resolved ρ}
    (h : s.resolve caseSensitive path = .ok found) :
    (found.path, found.property) ∈ s.properties.entries := by
  simp only [resolve] at h
  split at h
  · next r hr =>
    cases h
    rcases Option.or_eq_some_iff.mp hr with hexact | ⟨-, hfolded⟩
    · obtain ⟨p, hp, rfl⟩ := Option.map_eq_some_iff.mp hexact
      exact mem_entries_of_get? hp
    · split at hfolded
      · cases hfolded
      · obtain ⟨i, -, hi⟩ := Option.bind_eq_some_iff.mp hfolded
        obtain ⟨entry, hentry, rfl⟩ := Option.map_eq_some_iff.mp hi
        exact List.mem_of_getElem? hentry
  · cases h

/-- A registered path without blanks around it resolves to itself, whatever is said of case. -/
theorem resolve_of_get? {path : String} {p : Property ρ} (caseSensitive : Bool)
    (hpath : Text.trimString path = path) (h : s.get? path = some p) :
    s.resolve caseSensitive path = .ok ⟨path, p⟩ := by
  simp [resolve, hpath, registered?, h]

end Schema

/-! ## Registrations -/

namespace Registration

/-- The registrations that schemas are made of, one for each way to register: fields of every
kind, computed properties, and the properties of a part, whose schema is made in the same way. -/
inductive Provided : {ρ : Type} → Registration ρ → Prop
  | scalar {ρ : Type} (path : String) (k : Kind) (get : ρ → k.Value) :
      Provided (Registration.scalar path get)
  | nullable {ρ : Type} (path : String) (k : Kind) (get : ρ → Option k.Value) :
      Provided (Registration.nullable path get)
  | sequence {ρ : Type} (path : String) (kind : SequenceKind) (k : Kind)
      (get : ρ → List k.Value) : Provided (Registration.sequence path kind get)
  | nullableSequence {ρ : Type} (path : String) (kind : SequenceKind) (k : Kind)
      (get : ρ → List (Option k.Value)) : Provided (Registration.nullableSequence path kind get)
  | computed {ρ : Type} (path : String) (shape : Shape) (read : ρ → Datum) :
      Provided (Registration.computed path shape read)
  | nested {ρ σ : Type} (path : String) (part : ρ → σ) (name : String)
      (registrations : List (Registration σ)) (h : ∀ reg ∈ registrations, Provided reg) :
      Provided (Registration.nested path part (.ofRegistrations name registrations))

end Registration

/-- Whether a schema is made of such registrations. -/
def Schema.IsProvided {ρ : Type} (s : Schema ρ) : Prop :=
  ∃ name, ∃ registrations : List (Registration ρ),
    s = .ofRegistrations name registrations ∧ ∀ reg ∈ registrations, reg.Provided

/-- Whether a path has no blanks around it and its property is made as all others are. -/
def IsEntry {ρ : Type} (entry : String × Property ρ) : Prop :=
  Text.trimString entry.1 = entry.1 ∧ entry.2.MadeOf fun _ _ ↦ True

theorem trimString_trimString (path : String) :
    Text.trimString (Text.trimString path) = Text.trimString path := by
  rw [Text.trimString, Text.trimString, String.toList_ofList, Text.trim_trim]

/-- The path of a part and that of a property in it, joined, have no blanks around them. -/
theorem trimString_join {p : String} (h : Text.trimString p = p) (path : String) :
    Text.trimString (Text.trimString path ++ "." ++ p) = Text.trimString path ++ "." ++ p := by
  have hp : Text.trim p.toList = p.toList := by
    rw [← String.toList_ofList (l := Text.trim p.toList)]
    exact congrArg String.toList h
  have hpath : Text.trim (Text.trimString path).toList = (Text.trimString path).toList := by
    rw [Text.trimString, String.toList_ofList, Text.trim_trim]
  have htrim := Text.trim_append_cons_eq_self hpath hp (c := '.') rfl
  rw [← String.toList_inj, Text.trimString, String.toList_ofList]
  simpa using htrim

theorem IsEntry.of_property {ρ : Type} {path : String} {p : Property ρ}
    (hp : p.MadeOf fun _ _ ↦ True) : ∀ entry ∈ Registration.property path p, IsEntry entry := by
  rintro entry hentry
  obtain rfl := List.mem_singleton.mp hentry
  exact ⟨trimString_trimString path, hp⟩

theorem Registration.Provided.isEntry {ρ : Type} {reg : Registration ρ} (h : reg.Provided) :
    ∀ entry ∈ reg, IsEntry entry := by
  induction h with
  | scalar path k get => exact .of_property (.scalar k get)
  | nullable path k get => exact .of_property (.nullable k get)
  | sequence path kind k get => exact .of_property (.sequence kind k get)
  | nullableSequence path kind k get => exact .of_property (.nullableSequence kind k get)
  | computed path shape read => exact .of_property (.computed shape read fun _ ↦ trivial)
  | nested path part name registrations _ ih =>
    rintro entry hentry
    obtain ⟨⟨p, property⟩, hp, rfl⟩ := List.mem_map.mp hentry
    obtain ⟨reg, hreg, hmem⟩ := List.mem_flatten.mp (Table.mem_of_mem_ofList hp)
    obtain ⟨hpath, hmade⟩ := ih reg hreg _ hmem
    exact ⟨trimString_join hpath path, .ofPart part hmade⟩

theorem Schema.IsProvided.isEntry {ρ : Type} {s : Schema ρ} (h : s.IsProvided) :
    ∀ entry ∈ s.properties.entries, IsEntry entry := by
  obtain ⟨name, registrations, rfl, hregistrations⟩ := h
  intro entry hentry
  obtain ⟨reg, hreg, hmem⟩ := List.mem_flatten.mp (Table.mem_of_mem_ofList hentry)
  exact (hregistrations reg hreg).isEntry entry hmem

/-- A path that was resolved resolves again, exactly and to the same property. -/
theorem Schema.IsProvided.resolve_found {ρ : Type} {s : Schema ρ} (h : s.IsProvided)
    {caseSensitive : Bool} {path : String} {found : Resolved ρ}
    (hfound : s.resolve caseSensitive path = .ok found) :
    s.resolve true found.path = .ok found := by
  have hmem := mem_entries_of_resolve hfound
  exact resolve_of_get? true (h.isEntry _ hmem).1 (Table.get?_of_mem hmem)

end RecordFilter
