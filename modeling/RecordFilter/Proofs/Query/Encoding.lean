import RecordFilter.Proofs.Json.Depth
import RecordFilter.Proofs.Json.Writing
import RecordFilter.Proofs.Query.Paths
import RecordFilter.Query.Descriptor

/-!
# Descriptors are read back from their JSON form

The JSON form of a raw value is an object of a kind and a content, that of a
descriptor an object of its fields, and both are read back member by member.  A
value that is nested as deep as a text may be is read back too: each list of raw
values takes two levels, which are the two that its reader takes off the depth.
-/

namespace RecordFilter

open Json (Reader)
open Json.Reader

variable {α σ : Type}

theorem structureBy_readsBack {expected : String} {list : Reader α}
    {member : σ → String → Reader σ} {finish : σ → Reader α} {state final : σ} {a : α}
    {ms : List (String × Json)} (h : ReadsBackMembers member state ms final)
    (hfinish : ∀ s, finish final s = .ok (a, s)) :
    ReadsBack (structureBy expected list (do advance; finish (← members member state)))
      (.object ms) a := by
  intro rest
  have hmembers := members_eq_ok_of_readsBack h rest
  rw [Json.toList_compact_object, List.cons_append, List.append_assoc]
  refine reads_bind_iff.mpr ⟨_, _, peek_of_skipLayout rfl, ?_⟩
  refine reads_bind_iff.mpr ⟨(), _, rfl, ?_⟩
  exact reads_bind_iff.mpr ⟨final, rest, hmembers, hfinish rest⟩

theorem colon_cons (s : List Char) : colon (':' :: s) = .ok ((), s) := rfl

namespace Raw

theorem toJsonAll_eq_map (vs : List Raw) : toJsonAll vs = vs.map toJson := by
  induction vs with
  | nil => rfl
  | cons v vs ih => rw [toJsonAll, ih, List.map_cons]

theorem find?_tag (tag : Tag) : Tag.all.find? (·.name == tag.name) = some tag := by
  cases tag <;> rfl

/-- The kind of a value is read back. -/
theorem readMember_kind (item : Reader Raw) (depth : Nat) (tag : Tag) (rest : List Char) :
    readMember item depth .start "kind" (':' :: ((Json.string tag.name).compact.toList ++ rest))
      = .ok (.kind tag, rest) := by
  refine reads_bind_iff.mpr ⟨_, _, colon_cons _, ?_⟩
  exact reads_bind_iff.mpr ⟨tag, rest, oneOf_quote (find?_tag tag) depth rest, rfl⟩

/-- The content of a value is read back behind its kind. -/
theorem readMember_value {item : Reader Raw} {depth : Nat} {tag : Tag} {content : Json} {v : Raw}
    (h : ReadsBack (readContent item depth tag) content v) (rest : List Char) :
    readMember item depth (.kind tag) "value" (':' :: (content.compact.toList ++ rest))
      = .ok (.whole v, rest) := by
  refine reads_bind_iff.mpr ⟨_, _, colon_cons _, ?_⟩
  exact reads_bind_iff.mpr ⟨v, rest, h rest, rfl⟩

/-- The reader of the items of a list, which has so much room for them and for itself. -/
def itemReader : Nat → Reader Raw
  | 0 => Reader.failNext .recursionLimit
  | depth + 1 => reader depth

theorem reader_succ (depth : Nat) : reader (depth + 1) =
    structureBy expectation
      (do
        advance
        let tag ← requiredField 0 expectation do
          named Tag.all Tag.name (← Reader.text "variant identifier")
        let value ← requiredField 1 expectation (readContent (itemReader depth) depth tag)
        endList
        return value)
      (do
        advance
        finish (← members (readMember (itemReader depth) depth) .start)) := by
  cases depth <;> rfl

/-- A value without content is read back from its kind. -/
theorem readsBack_null (depth : Nat) :
    ReadsBack (reader (depth + 1)) (.object [("kind", .string "null")]) null := by
  have hmembers : ReadsBackMembers (readMember (itemReader depth) depth) Partial.start
      [("kind", .string "null")] (Partial.kind .null) :=
    .cons (readMember_kind _ depth .null) .nil
  rw [reader_succ]
  exact structureBy_readsBack hmembers fun s ↦ rfl

/-- A value is read back from its kind and its content. -/
theorem readsBack_content {depth : Nat} (tag : Tag) {content : Json} {v : Raw}
    (h : ReadsBack (readContent (itemReader depth) depth tag) content v) :
    ReadsBack (reader (depth + 1)) (.object [("kind", .string tag.name), ("value", content)])
      v := by
  have hmembers : ReadsBackMembers (readMember (itemReader depth) depth) Partial.start
      [("kind", .string tag.name), ("value", content)] (Partial.whole v) :=
    .cons (readMember_kind _ depth tag) (.cons (readMember_value h) .nil)
  rw [reader_succ]
  exact structureBy_readsBack hmembers fun s ↦ rfl

theorem readsBack_readContent_boolean (item : Reader Raw) (depth : Nat) (b : Bool) :
    ReadsBack (readContent item depth .boolean) (.bool b) (boolean b) := by
  intro rest
  cases b <;> rfl

theorem readsBack_readContent_number (item : Reader Raw) (depth : Nat) (lexeme : String) :
    ReadsBack (readContent item depth .number) (.string lexeme) (number lexeme) := by
  intro rest
  exact reads_bind_iff.mpr ⟨lexeme, rest, text_quote _ lexeme rest, rfl⟩

theorem readsBack_readContent_text (item : Reader Raw) (depth : Nat) (s : String) :
    ReadsBack (readContent item depth .text) (.string s) (text s) := by
  intro rest
  exact reads_bind_iff.mpr ⟨s, rest, text_quote _ s rest, rfl⟩

theorem toJson_isObject (v : Raw) : ∃ ms, v.toJson = .object ms := by
  cases v <;> exact ⟨_, rfl⟩

/-- A list is read back from its items, where there is room for a list. -/
theorem readsBack_readContent_sequence {item : Reader Raw} {vs : List Raw} (depth : Nat)
    (h : List.Forall₂ (ReadsBack item) (toJsonAll vs) vs) :
    ReadsBack (readContent item (depth + 1) .sequence) (.array (toJsonAll vs)) (list vs) := by
  intro rest
  have hobject : ∀ v ∈ toJsonAll vs, ∃ ms, v = .object ms := by
    rw [toJsonAll_eq_map, List.forall_mem_map]
    exact fun v _ ↦ v.toJson_isObject
  have hitems := items_eq_ok_of_readsBack h hobject rest
  rw [Json.toList_compact_array, List.cons_append, List.append_assoc]
  refine reads_bind_iff.mpr ⟨_, _, peek_of_skipLayout rfl, ?_⟩
  exact reads_bind_iff.mpr ⟨(), _, rfl, reads_bind_iff.mpr ⟨vs, rest, hitems, rfl⟩⟩

/-- A raw value takes one level at least, and a list two more than its items. -/
theorem depth_toJson_pos (v : Raw) : 0 < v.toJson.depth := by
  obtain ⟨ms, hms⟩ := v.toJson_isObject
  rw [hms, Json.depth]
  exact Nat.succ_pos _

theorem depth_toJson_list (vs : List Raw) :
    (list vs).toJson.depth = Json.depthOfItems (toJsonAll vs) + 2 := by
  simp [toJson, Json.depth, Json.depthOfMembers]

mutual

/-- A raw value is read back, where it is not nested too deep. -/
theorem readsBack_toJson (v : Raw) {k : Nat} (h : v.toJson.depth ≤ k) :
    ReadsBack (reader k) v.toJson v := by
  obtain ⟨depth, rfl⟩ := Nat.exists_eq_add_one.mpr (v.depth_toJson_pos.trans_le h)
  cases v with
  | null => exact readsBack_null depth
  | boolean b => exact readsBack_content .boolean (readsBack_readContent_boolean _ depth b)
  | number lexeme =>
    exact readsBack_content .number (readsBack_readContent_number _ depth lexeme)
  | text s => exact readsBack_content .text (readsBack_readContent_text _ depth s)
  | list vs =>
    rw [depth_toJson_list] at h
    cases depth with
    | zero => omega
    | succ depth =>
      have hitems := readsBack_toJsonAll vs (Nat.le_of_add_le_add_right h)
      exact readsBack_content .sequence (readsBack_readContent_sequence depth hitems)

theorem readsBack_toJsonAll (vs : List Raw) {k : Nat} (h : Json.depthOfItems (toJsonAll vs) ≤ k) :
    List.Forall₂ (ReadsBack (reader k)) (toJsonAll vs) vs := by
  cases vs with
  | nil => exact .nil
  | cons v vs =>
    rw [toJsonAll, Json.depthOfItems, Nat.max_le] at h
    exact .cons (readsBack_toJson v h.1) (readsBack_toJsonAll vs h.2)

end

end Raw

namespace Descriptor

/-- A field that has not been there before is read back. -/
theorem field_readsBack {reader : Reader α} {v : Json} {a : α} (h : ReadsBack reader v a)
    (key : String) (rest : List Char) :
    field key none reader (':' :: (v.compact.toList ++ rest)) = .ok (some a, rest) := by
  refine reads_bind_iff.mpr ⟨(), _, colon_cons _, ?_⟩
  exact reads_bind_iff.mpr ⟨a, rest, h rest, rfl⟩

theorem readsBack_readConnective (c : Connective) :
    ReadsBack readConnective (.string c.keyword) (some c) := by
  intro rest
  have hfind : [Connective.and, .or].find? (·.keyword == c.keyword) = some c := by
    cases c <;> rfl
  have hname := oneOf_quote hfind depth rest
  obtain ⟨t, ht, -⟩ := exists_string_quote c.keyword rest
  have hword : (Json.string c.keyword).compact.toList ++ rest = '"' :: t := ht
  rw [ht] at hname
  rw [hword]
  refine reads_bind_iff.mpr ⟨_, _, peek_of_skipLayout rfl, ?_⟩
  exact reads_bind_iff.mpr ⟨c, rest, hname, rfl⟩

theorem readsBack_readOperator (o : Operator) :
    ReadsBack readOperator (.string o.keyword) o := by
  intro rest
  have hfind : Operator.all.find? (·.keyword == o.keyword) = some o := by
    cases o <;> rfl
  exact oneOf_quote hfind depth rest

theorem readsBack_readPath (p : Path) : ReadsBack readPath (.string p.text) p := by
  intro rest
  refine reads_bind_iff.mpr ⟨p.text, rest, text_quote _ p.text rest, ?_⟩
  rw [p.ofText_text]
  rfl

/-- The fields of a descriptor are read back, whether there is a connective or not. -/
theorem readsBackMembers_fields (connective : Option (Option Connective)) (operator : Operator)
    (path : Path) {value : Raw} (h : value.toJson.depth ≤ depth) :
    ReadsBackMembers readMember ⟨connective, none, none, none⟩
      [("operator", .string operator.keyword), ("property_path", .string path.text),
        ("value", value.toJson)]
      ⟨connective, some operator, some path, some value⟩ := by
  have hoperator : ∀ rest, readMember ⟨connective, none, none, none⟩ "operator"
      (':' :: ((Json.string operator.keyword).compact.toList ++ rest))
        = .ok (⟨connective, some operator, none, none⟩, rest) := fun rest ↦
    reads_bind_iff.mpr ⟨_, rest, field_readsBack (readsBack_readOperator operator) _ rest, rfl⟩
  have hpath : ∀ rest, readMember ⟨connective, some operator, none, none⟩ "property_path"
      (':' :: ((Json.string path.text).compact.toList ++ rest))
        = .ok (⟨connective, some operator, some path, none⟩, rest) := fun rest ↦
    reads_bind_iff.mpr ⟨_, rest, field_readsBack (readsBack_readPath path) _ rest, rfl⟩
  have hvalue : ∀ rest, readMember ⟨connective, some operator, some path, none⟩ "value"
      (':' :: (value.toJson.compact.toList ++ rest))
        = .ok (⟨connective, some operator, some path, some value⟩, rest) := fun rest ↦
    reads_bind_iff.mpr ⟨_, rest, field_readsBack (value.readsBack_toJson h) _ rest, rfl⟩
  exact .cons hoperator (.cons hpath (.cons hvalue .nil))

theorem depth_toJson (d : Descriptor) : d.toJson.depth = d.value.toJson.depth + 1 := by
  obtain ⟨connective, operator, path, value⟩ := d
  cases connective <;> simp [toJson, Json.depth, Json.depthOfMembers]

/-- A descriptor is read back, where its value is not nested too deep. -/
theorem readsBack_toJson {d : Descriptor} (h : d.value.toJson.depth ≤ depth) :
    ReadsBack reader d.toJson d := by
  obtain ⟨connective, operator, path, value⟩ := d
  cases connective with
  | none =>
    exact structureBy_readsBack (readsBackMembers_fields none operator path h) fun s ↦ rfl
  | some c =>
    have hconnective : ∀ rest, readMember {} "aggregate"
        (':' :: ((Json.string c.keyword).compact.toList ++ rest))
          = .ok (⟨some (some c), none, none, none⟩, rest) := fun rest ↦
      reads_bind_iff.mpr ⟨_, rest, field_readsBack (readsBack_readConnective c) _ rest, rfl⟩
    have hfields := readsBackMembers_fields (some (some c)) operator path h
    exact structureBy_readsBack (.cons hconnective hfields) fun s ↦ rfl

/-- The JSON text of a descriptor is read as the descriptor. -/
theorem ofJsonText_compact {d : Descriptor} (h : d.toJson.depth ≤ Json.maxDepth) :
    ofJsonText d.toJson.compact = .ok d := by
  have hvalue : d.value.toJson.depth ≤ depth := by
    rw [depth_toJson] at h
    exact Nat.le_of_succ_le_succ h
  have hread := readsBack_toJson hvalue []
  rw [List.append_nil] at hread
  exact readWith_eq_ok_iff.mpr ⟨[], hread, rfl⟩

end Descriptor

end RecordFilter
