import RecordFilter.Proofs.Compile.Equality
import RecordFilter.Proofs.Scalar.Coercing
import RecordFilter.Proofs.Schema.Members
import RecordFilter.Proofs.Schema.Reaching

/-!
# Native values mean themselves

Truth values, integers of every width and texts can be put into a descriptor as
they are, alone, in lists and as options.  On the way to the records such a value
becomes a raw value, which is a text for integers, then a scalar, and then a
value of the type of the field again.  Nothing is lost on this way: equality
with the value selects the records whose field is the value, and membership in a
list those whose field is in the list (`Schema.IsProvided.selects_native`).  The
field has to be registered under a key that a descriptor reaches.
-/

namespace RecordFilter

namespace Coercion

variable {k : Kind}

/-- The text of an integer of a kind with negative values converts to the integer. -/
theorem convert_signed {low high n : Int} (hk : k.bounds? = some (low, high)) (hneg : low ≠ 0)
    (hlow : low ≤ n) (hhigh : n < high + 1) :
    convert (.number (toString n)) k = .ok (.int (Int64.ofInt n)) := by
  rw [convert_number_toString hk hlow (Int.le_of_lt_add_one hhigh), integerScalar, if_neg hneg]

/-- The text of an integer of a kind without negative values converts to the integer. -/
theorem convert_unsigned {n high : Nat} (hk : k.bounds? = some (0, (high : Int)))
    (hhigh : n < high + 1) :
    convert (.number (toString n)) k = .ok (.uint (UInt64.ofNat n)) := by
  have h := convert_number_toString (n := n) hk (Int.natCast_nonneg n) (by omega)
  rwa [integerScalar, if_pos rfl] at h

end Coercion

/-- The types whose values are put into descriptors without loss. -/
inductive IsNative : (α : Type) → [FieldType α] → [ToRaw α] → Prop
  | bool : IsNative Bool
  | int8 : IsNative Int8
  | int16 : IsNative Int16
  | int32 : IsNative Int32
  | int64 : IsNative Int64
  | uint8 : IsNative UInt8
  | uint16 : IsNative UInt16
  | uint32 : IsNative UInt32
  | uint64 : IsNative UInt64
  | text : IsNative String

namespace IsNative

variable {α : Type} [FieldType α] [ToRaw α] (h : IsNative α)

include h

theorem lawful : LawfulFieldType α := by
  cases h <;> infer_instance

theorem hasDistinctNames : (FieldType.kind α).HasDistinctNames := by
  cases h <;> trivial

theorem same_iff_eq {x y : α} : FieldType.same x y = true ↔ x = y := by
  cases h <;> exact beq_iff_eq

theorem isList_toRaw (x : α) : (toRaw x).isList = false := by
  cases h <;> rfl

/-- What a value is put into a descriptor as converts to the scalar of the value. -/
theorem convert_toRaw (x : α) :
    Coercion.convert (toRaw x) (FieldType.kind α) = .ok (toScalar x) := by
  cases h with
  | bool | text => rfl
  | int8 => exact Coercion.convert_signed (k := .int8) rfl nofun x.le_toInt x.toInt_lt
  | int16 => exact Coercion.convert_signed (k := .int16) rfl nofun x.le_toInt x.toInt_lt
  | int32 => exact Coercion.convert_signed (k := .int32) rfl nofun x.le_toInt x.toInt_lt
  | int64 => exact Coercion.convert_signed (k := .int64) rfl nofun x.le_toInt x.toInt_lt
  | uint8 => exact Coercion.convert_unsigned (k := .uint8) rfl x.toNat_lt
  | uint16 => exact Coercion.convert_unsigned (k := .uint16) rfl x.toNat_lt
  | uint32 => exact Coercion.convert_unsigned (k := .uint32) rfl x.toNat_lt
  | uint64 => exact Coercion.convert_unsigned (k := .uint64) rfl x.toNat_lt

/-- Values are like one another if they are equal. -/
theorem alike_iff {x y : Option α} : Alike (x.map toScalar) (y.map toScalar) ↔ x = y := by
  have hlawful := h.lawful
  cases x with
  | none => cases y <;> simp [Alike]
  | some a =>
    cases y with
    | none => simp [Alike]
    | some b =>
      rw [Option.some_inj, ← h.same_iff_eq, LawfulFieldType.same_iff,
        ← LawfulFieldType.compare?_toScalar]
      rfl

variable {path : String} {shape : Shape}

/-- A value is coerced to its scalar. -/
theorem gives_toRaw (hshape : shape.element = FieldType.kind α) (x : α) :
    Coercion.Gives path shape (toRaw x) (some (toScalar x)) :=
  .scalar (Coercion.coerceScalar_of_convert (hshape ▸ h.convert_toRaw x) path)

/-- A value that may be missing is coerced to its scalar or to null. -/
theorem gives_toRaw_option (hshape : shape.element = FieldType.kind α)
    (hadmits : shape.admitsNull = true) (x : Option α) :
    Coercion.Gives path shape (toRaw x) (x.map toScalar) := by
  cases x with
  | none => exact .null hadmits
  | some a => exact h.gives_toRaw hshape a

theorem isList_toRaw_option (x : Option α) : (toRaw x).isList = false := by
  cases x with
  | none => rfl
  | some a => exact h.isList_toRaw a

end IsNative

/-! ## Operands -/

@[simp] theorem Datum.single?_ofOption (w : Option Scalar) : (ofOption w).single? = w := by
  cases w <;> rfl

theorem Shape.holds_ofOption {shape : Shape} (hs : shape.isSequence = false) (w : Option Scalar) :
    shape.Holds (.ofOption w) := by
  cases w <;> exact hs

namespace Coercion

variable {path : String} {shape : Shape} (hs : shape.isSequence = false)

include hs

theorem coerce_of_gives {raw : Raw} {w : Option Scalar} (hlist : raw.isList = false)
    (h : Gives path shape raw w) : coerce path raw shape .equal = .ok (.ofOption w) := by
  rw [coerce_eq_single (wantsList_value hs .equal)]
  exact (coerceSingle_eq_ok_iff_gives (.inr ⟨rfl, hlist⟩)).mpr ⟨w, h, rfl⟩

theorem coerce_list_of_gives {raws : List Raw} {ws : List (Option Scalar)}
    (h : List.Forall₂ (Gives path shape) raws ws) :
    coerce path (.list raws) shape .containsOnValue = .ok (.ofOptions ws) := by
  have hsupports : shape.supports .containsOnValue = true :=
    Shape.supports_iff.mpr (by simp [hs])
  rw [coerce_eq_many hsupports (wantsList_value hs .containsOnValue)]
  exact map_eq_ok_iff.mpr
    ⟨ws, mapM_eq_ok_iff.mpr (h.imp fun _ _ ↦ coerceElement_eq_ok_iff.mpr), rfl⟩

end Coercion

/-! ## Fields -/

namespace Property

variable {ρ α : Type} [FieldType α]

/-- Whether a property is a field that is never null. -/
structure IsField (p : Property ρ) (get : ρ → α) : Prop where
  shape_eq : p.shape = .scalar (FieldType.kind α)
  read_eq : ∀ r, p.read r = .single (toScalar (get r))

/-- Whether a property is a field that may be null. -/
structure IsNullableField (p : Property ρ) (get : ρ → Option α) : Prop where
  shape_eq : p.shape = .nullable (FieldType.kind α)
  read_eq : ∀ r, p.read r = .ofOption ((get r).map toScalar)

theorem isField_scalar (get : ρ → α) : (Property.scalar get).IsField get := ⟨rfl, fun _ ↦ rfl⟩

theorem isNullableField_nullable (get : ρ → Option α) :
    (Property.nullable get).IsNullableField get := by
  refine ⟨rfl, fun r ↦ ?_⟩
  show ((get r).map _).getD _ = _
  cases get r <;> rfl

variable {σ : Type} {p : Property σ} (part : ρ → σ)

theorem IsField.ofPart {get : σ → α} (h : p.IsField get) :
    (p.ofPart part).IsField fun r ↦ get (part r) :=
  ⟨h.shape_eq, fun r ↦ h.read_eq (part r)⟩

theorem IsNullableField.ofPart {get : σ → Option α} (h : p.IsNullableField get) :
    (p.ofPart part).IsNullableField fun r ↦ get (part r) :=
  ⟨h.shape_eq, fun r ↦ h.read_eq (part r)⟩

end Property

namespace Schema

variable {ρ α : Type} [ToRaw α] {s : Schema ρ} {o : CompileOptions}

/-- Whether a descriptor, if it is one, compiles to a filter of the records with a property. -/
def Selects (s : Schema ρ) (o : CompileOptions) (d : Except FilterError Descriptor)
    (P : ρ → Prop) : Prop :=
  ∃ c, (d.bind fun d ↦ s.compile o [d]) = .ok c ∧ ∀ r, c.accepts r = true ↔ P r

theorem selects_ofParts {connective : Option Connective} {operator : Operator} {text : String}
    {path : Path} {x : α} {P : ρ → Prop} (htext : Path.ofText text = .ok path)
    (h : ∃ c, s.compile o [⟨connective, operator, path, toRaw x⟩] = .ok c ∧
      ∀ r, c.accepts r = true ↔ P r) :
    s.Selects o (Descriptor.ofParts connective operator text x) P := by
  rw [Selects, Descriptor.ofParts, htext]
  exact h

variable [FieldType α]

section Values

variable {found : Resolved ρ} {get : ρ → Option α} {d : Descriptor}
  (hs : s.IsProvided) (hα : IsNative α) (hfound : s.resolve o.caseSensitive d.path.text = .ok found)
  (hvalue : found.property.shape.isSequence = false)
  (hkind : found.property.shape.element = FieldType.kind α)
  (hread : ∀ r, found.property.read r = .ofOption ((get r).map toScalar))

include hs hα hfound hvalue hkind hread

/-- A descriptor on a field compiles to the reading of the operand that its value is coerced to. -/
theorem IsProvided.exists_compile_value {operand : Datum}
    (hoperand : Coercion.coerce found.path d.value found.property.shape d.operator = .ok operand)
    (hop : d.operator ≠ .contains) :
    ∃ c, s.compile o [d] = .ok c ∧
      ∀ r, c.accepts r = true ↔ ValueMatches d.operator operand ((get r).map toScalar) := by
  have hsupports : found.property.shape.supports d.operator = true :=
    Shape.supports_iff.mpr (by simpa [hvalue] using hop)
  obtain ⟨c, hc, haccepts⟩ := exists_compile_matches hfound (hs.resolve_found hfound)
    (hs.isEntry _ (mem_entries_of_resolve hfound)).2 (.inl (hkind ▸ hα.hasDistinctNames)) hoperand
    hsupports
  refine ⟨c, hc, fun r ↦ ?_⟩
  have hr := haccepts r
  rw [hread r] at hr
  simpa [Matches, hvalue] using hr (Shape.holds_ofOption hvalue _)

/-- Equality with what a value is coerced to selects the records with this value. -/
theorem IsProvided.exists_compile_equal {x : Option α} (hop : d.operator = .equal)
    (hlist : d.value.isList = false)
    (hgives : Coercion.Gives found.path found.property.shape d.value (x.map toScalar)) :
    ∃ c, s.compile o [d] = .ok c ∧ ∀ r, c.accepts r = true ↔ get r = x := by
  have hoperand : Coercion.coerce found.path d.value found.property.shape d.operator
      = .ok (.ofOption (x.map toScalar)) := hop ▸ Coercion.coerce_of_gives hvalue hlist hgives
  obtain ⟨c, hc, haccepts⟩ :=
    hs.exists_compile_value hα hfound hvalue hkind hread hoperand (hop ▸ nofun)
  refine ⟨c, hc, fun r ↦ (haccepts r).trans ?_⟩
  rw [hop, ValueMatches, Datum.single?_ofOption, hα.alike_iff]

/-- Membership in what the values of a list are coerced to selects the records with one of them. -/
theorem IsProvided.exists_compile_members {raws : List Raw} {xs : List (Option α)}
    (hop : d.operator = .containsOnValue) (hlist : d.value = .list raws)
    (hgives : List.Forall₂ (Coercion.Gives found.path found.property.shape) raws
      (xs.map (Option.map toScalar))) :
    ∃ c, s.compile o [d] = .ok c ∧ ∀ r, c.accepts r = true ↔ get r ∈ xs := by
  have hoperand : Coercion.coerce found.path d.value found.property.shape d.operator
      = .ok (.ofOptions (xs.map (Option.map toScalar))) := by
    rw [hop, hlist]
    exact Coercion.coerce_list_of_gives hvalue hgives
  obtain ⟨c, hc, haccepts⟩ :=
    hs.exists_compile_value hα hfound hvalue hkind hread hoperand (hop ▸ nofun)
  refine ⟨c, hc, fun r ↦ (haccepts r).trans ?_⟩
  simp [hop, ValueMatches, Datum.elements_ofOptions, hα.alike_iff]

end Values

/-- On a field that was found, native values mean themselves. -/
theorem IsProvided.selects_of_resolve (hs : s.IsProvided) (hα : IsNative α) {text : String}
    {path : Path} (htext : Path.ofText text = .ok path) {found : Resolved ρ}
    (hfound : s.resolve o.caseSensitive path.text = .ok found) (connective : Option Connective) :
    (∀ get : ρ → α, found.property.IsField get →
      (∀ x : α, s.Selects o (Descriptor.ofParts connective .equal text x) fun r ↦ get r = x) ∧
      ∀ xs : List α, s.Selects o (Descriptor.ofParts connective .containsOnValue text xs)
        fun r ↦ get r ∈ xs) ∧
    ∀ get : ρ → Option α, found.property.IsNullableField get →
      ∀ x : Option α,
        s.Selects o (Descriptor.ofParts connective .equal text x) fun r ↦ get r = x := by
  refine ⟨fun get hget ↦ ?_, fun get hget x ↦ ?_⟩
  · have hvalue : found.property.shape.isSequence = false := hget.shape_eq ▸ rfl
    have hkind : found.property.shape.element = FieldType.kind α := hget.shape_eq ▸ rfl
    -- a field that is never null is read like an option that is always there
    have hread : ∀ r, found.property.read r = .ofOption ((some (get r)).map toScalar) :=
      hget.read_eq
    refine ⟨fun x ↦ selects_ofParts htext ?_, fun xs ↦ selects_ofParts htext ?_⟩
    · obtain ⟨c, hc, haccepts⟩ := hs.exists_compile_equal (x := some x)
        (d := ⟨connective, .equal, path, toRaw x⟩) hα hfound hvalue hkind hread rfl
        (hα.isList_toRaw x) (hα.gives_toRaw hkind x)
      exact ⟨c, hc, fun r ↦ (haccepts r).trans Option.some_inj⟩
    · have hgives : List.Forall₂ (Coercion.Gives found.path found.property.shape)
          (xs.map toRaw) ((xs.map some).map (Option.map toScalar)) := by
        rw [List.map_map, List.forall₂_map_left_iff, List.forall₂_map_right_iff]
        exact List.forall₂_same.mpr fun x _ ↦ hα.gives_toRaw hkind x
      obtain ⟨c, hc, haccepts⟩ := hs.exists_compile_members
        (d := ⟨connective, .containsOnValue, path, toRaw xs⟩) hα hfound hvalue hkind hread rfl
        rfl hgives
      refine ⟨c, hc, fun r ↦ (haccepts r).trans ?_⟩
      exact List.mem_map_of_injective (Option.some_injective α)
  · have hvalue : found.property.shape.isSequence = false := hget.shape_eq ▸ rfl
    have hkind : found.property.shape.element = FieldType.kind α := hget.shape_eq ▸ rfl
    have hadmits : found.property.shape.admitsNull = true := hget.shape_eq ▸ rfl
    exact selects_ofParts htext (hs.exists_compile_equal
      (d := ⟨connective, .equal, path, toRaw x⟩) hα hfound hvalue hkind hget.read_eq rfl
      (hα.isList_toRaw_option x) (hα.gives_toRaw_option hkind hadmits x))

/-- Native values mean themselves on every field that a descriptor reaches, and the fields that are
reached are those whose keys are in normal form.  If the key of a field has blanks around a piece
between its points, or a piece that is blank, no text for the path of a descriptor leads to it;
otherwise its key does.  Whatever leads to it, on a field that is never null, equality with a value
and membership in a list of values select the records whose field is the value or in the list; on
one that may be null, equality with an option selects those whose field is the option. -/
theorem IsProvided.selects_native (hs : s.IsProvided) (hα : IsNative α) {key : String}
    {p : Property ρ} (hkey : s.get? key = some p) (connective : Option Connective) :
    ((∃ text, s.Reaches o text key) ↔ Path.IsNormal key) ∧
    (s.Reaches o key key ↔ Path.IsNormal key) ∧
    ∀ text, s.Reaches o text key →
      (∀ get : ρ → α, p.IsField get →
        (∀ x : α, s.Selects o (Descriptor.ofParts connective .equal text x) fun r ↦ get r = x) ∧
        ∀ xs : List α, s.Selects o (Descriptor.ofParts connective .containsOnValue text xs)
          fun r ↦ get r ∈ xs) ∧
      ∀ get : ρ → Option α, p.IsNullableField get →
        ∀ x : Option α,
          s.Selects o (Descriptor.ofParts connective .equal text x) fun r ↦ get r = x := by
  refine ⟨exists_reaches_iff hkey, ⟨Reaches.isNormal, reaches_self hkey⟩, ?_⟩
  rintro text ⟨path, found, hpath, hfound, rfl⟩
  have hproperty : s.get? found.path = some found.property :=
    Table.get?_of_mem (mem_entries_of_resolve hfound)
  obtain rfl : found.property = p := Option.some.inj (hproperty.symm.trans hkey)
  exact hs.selects_of_resolve hα hpath hfound connective

/-- Records of a number and a part, which is a text and a number that may be missing. -/
def parcels : Schema (Int64 × String × Option UInt64) :=
  .ofRegistrations "Parcel" [.scalar "id" Prod.fst, .nested "content" Prod.snd
    (.ofRegistrations "Content" [.scalar "label" Prod.fst, .nullable "weight" Prod.snd])]

theorem parcels_isProvided : parcels.IsProvided := by
  refine ⟨"Parcel", _, rfl, List.forall_mem_cons.mpr ⟨.scalar "id" .int64 Prod.fst,
    List.forall_mem_singleton.mpr (.nested "content" Prod.snd "Content" _ ?_)⟩⟩
  exact List.forall_mem_cons.mpr ⟨.scalar "label" .text Prod.fst,
    List.forall_mem_singleton.mpr (.nullable "weight" .uint64 Prod.snd)⟩

/-- The smallest number, texts that look like other values, the largest number, and null. -/
theorem selects_native_parcels :
    parcels.Selects {} (Descriptor.ofParts none .equal "ID" Int64.minValue)
        (fun r ↦ r.1 = Int64.minValue) ∧
      parcels.Selects {} (Descriptor.ofParts none .containsOnValue "content.label" ["null", " 5"])
        (fun r ↦ r.2.1 ∈ ["null", " 5"]) ∧
      parcels.Selects {}
        (Descriptor.ofParts none .equal "content.weight" (some (UInt64.ofNat (2 ^ 64 - 1))))
        (fun r ↦ r.2.2 = some (UInt64.ofNat (2 ^ 64 - 1))) ∧
      parcels.Selects {}
        (Descriptor.ofParts none .equal "content.weight" (none : Option UInt64))
        (fun r ↦ r.2.2 = none) := by
  obtain ⟨p, hp⟩ : ∃ p, parcels.resolve false "ID" = .ok ⟨"id", p⟩ := ⟨_, rfl⟩
  have hid : parcels.Reaches {} "ID" "id" :=
    ⟨⟨["ID"], by decide, by decide⟩, ⟨"id", p⟩, rfl, hp, rfl⟩
  obtain ⟨-, -, hids⟩ :=
    parcels_isProvided.selects_native (o := {}) .int64 (rfl : parcels.get? "id" = some _) none
  obtain ⟨-, hlabel, hlabels⟩ :=
    parcels_isProvided.selects_native (o := {}) .text
      (rfl : parcels.get? "content.label" = some _) none
  obtain ⟨-, hweight, hweights⟩ :=
    parcels_isProvided.selects_native (o := {}) .uint64
      (rfl : parcels.get? "content.weight" = some _) none
  have hids := (hids "ID" hid).1 Prod.fst (Property.isField_scalar _)
  have hlabels := (hlabels _ (hlabel.mpr (by decide))).1 (fun r ↦ r.2.1)
    ((Property.isField_scalar Prod.fst).ofPart Prod.snd)
  have hweights := (hweights _ (hweight.mpr (by decide))).2 (fun r ↦ r.2.2)
    ((Property.isNullableField_nullable Prod.snd).ofPart Prod.snd)
  exact ⟨hids.1 _, hlabels.2 _, hweights _, hweights none⟩

/-- Numbers under a key with blanks around the point. -/
def spaced : Schema Int64 := .ofRegistrations "Reading" [.scalar "a . b" id]

theorem spaced_isProvided : spaced.IsProvided :=
  ⟨"Reading", _, rfl, List.forall_mem_singleton.mpr (.scalar "a . b" .int64 id)⟩

/-- The number 5 is not found under the key that it is registered under. -/
theorem not_selects_spaced :
    spaced.IsProvided ∧ IsNative Int64 ∧
      (∃ p, spaced.get? "a . b" = some p ∧ p.IsField (id : Int64 → Int64)) ∧
      ¬ spaced.Selects {} (Descriptor.ofParts none .equal "a . b" (5 : Int64)) (fun r ↦ id r = 5) ∧
      ∃ e, ((Descriptor.ofParts none .equal "a . b" (5 : Int64)).bind fun d ↦
        spaced.compile {} [d]) = .error e ∧ e.code = .propertyNotFound := by
  have hfails : ∃ e, ((Descriptor.ofParts none .equal "a . b" (5 : Int64)).bind fun d ↦
      spaced.compile {} [d]) = .error e ∧ e.code = .propertyNotFound := ⟨_, rfl, rfl⟩
  refine ⟨spaced_isProvided, .int64, ⟨_, rfl, Property.isField_scalar _⟩, ?_, hfails⟩
  rintro ⟨c, hc, -⟩
  obtain ⟨e, he, -⟩ := hfails
  rw [hc] at he
  cases he

end Schema

end RecordFilter
