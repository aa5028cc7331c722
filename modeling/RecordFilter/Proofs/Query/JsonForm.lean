import RecordFilter.Proofs.Json.Members
import RecordFilter.Proofs.Query.Decoding

/-!
# Reading the JSON form of descriptors

What stands in a text that is read as a descriptor.  The value is not nested too
deep, so the descriptor can be written and read again, and in an object the path
is read from the member that is named for it.
-/

namespace RecordFilter

open Json (Reader)
open Json.Reader
open Text (skipLayout)

namespace Descriptor

variable {s rest : List Char} {d : Descriptor} {parts parts' : Parts} {key : String}

/-! ## Fields -/

theorem readPath_eq_ok {p : Path} (h : readPath s = .ok (p, rest)) :
    ∃ t w, skipLayout s = '"' :: t ∧ string t = .ok (w, rest) ∧ Path.ofText w = .ok p := by
  obtain ⟨w, t, hw, h⟩ := reads_bind_iff.mp h
  obtain ⟨u, hs, hstring⟩ := text_eq_ok hw
  cases hpath : Path.ofText w with
  | error e =>
    simp only [hpath] at h
    cases h
  | ok q =>
    simp only [hpath] at h
    obtain ⟨rfl, rfl⟩ := reads_pure_iff.mp h
    exact ⟨u, w, hs, hstring, hpath⟩

theorem passes_of_readPath {p : Path} (h : readPath s = .ok (p, rest)) : PassesValue s rest := by
  obtain ⟨t, w, hs, hstring, -⟩ := readPath_eq_ok h
  exact passes_of_string hs hstring

theorem passes_of_readConnective {c : Option Connective} (h : readConnective s = .ok (c, rest)) :
    PassesValue s rest := by
  rcases optional_eq_ok h with hnull | ⟨a, -, ha⟩
  · exact passes_of_readsScalar hnull
  · exact .of_skipLayout (passes_of_readsName (oneOf_eq_ok ha))

/-- How a member takes the fields of a descriptor on. -/
inductive ReadsMember (s rest : List Char) (parts : Parts) : String → Parts → Prop
  | connective {t : List Char} {c : Option Connective} (hcolon : colon s = .ok ((), t))
      (h : readConnective t = .ok (c, rest)) :
      ReadsMember s rest parts "aggregate" { parts with connective := some c }
  | operator {t : List Char} {o : Operator} (hcolon : colon s = .ok ((), t))
      (h : readOperator t = .ok (o, rest)) :
      ReadsMember s rest parts "operator" { parts with operator := some o }
  | path {t : List Char} {p : Path} (hbefore : parts.path = none) (hcolon : colon s = .ok ((), t))
      (h : readPath t = .ok (p, rest)) :
      ReadsMember s rest parts "property_path" { parts with path := some p }
  | value {t : List Char} {v : Raw} (hcolon : colon s = .ok ((), t))
      (h : Raw.reader depth t = .ok (v, rest)) :
      ReadsMember s rest parts "value" { parts with value := some v }
  | other {key : String} (hkey : key ≠ "property_path") (h : skipField s = .ok ((), rest)) :
      ReadsMember s rest parts key parts

theorem readMember_eq_ok (h : readMember parts key s = .ok (parts', rest)) :
    ReadsMember s rest parts key parts' := by
  unfold readMember at h
  split at h
  · obtain ⟨found, t, hfield, h⟩ := reads_bind_iff.mp h
    obtain ⟨rfl, rfl⟩ := reads_pure_iff.mp h
    obtain ⟨-, u, c, hcolon, hc, rfl⟩ := field_eq_ok hfield
    exact .connective hcolon hc
  · obtain ⟨found, t, hfield, h⟩ := reads_bind_iff.mp h
    obtain ⟨rfl, rfl⟩ := reads_pure_iff.mp h
    obtain ⟨-, u, o, hcolon, ho, rfl⟩ := field_eq_ok hfield
    exact .operator hcolon ho
  · obtain ⟨found, t, hfield, h⟩ := reads_bind_iff.mp h
    obtain ⟨rfl, rfl⟩ := reads_pure_iff.mp h
    obtain ⟨hbefore, u, p, hcolon, hp, rfl⟩ := field_eq_ok hfield
    exact .path hbefore hcolon hp
  · obtain ⟨found, t, hfield, h⟩ := reads_bind_iff.mp h
    obtain ⟨rfl, rfl⟩ := reads_pure_iff.mp h
    obtain ⟨-, u, v, hcolon, hv, rfl⟩ := field_eq_ok hfield
    exact .value hcolon hv
  · next hpath _ =>
    obtain ⟨_, t, hskip, h⟩ := reads_bind_iff.mp h
    obtain ⟨rfl, rfl⟩ := reads_pure_iff.mp h
    exact .other hpath hskip

theorem ReadsMember.passes (h : ReadsMember s rest parts key parts') : PassesField s rest := by
  cases h with
  | connective hcolon h => exact ⟨_, hcolon, passes_of_readConnective h⟩
  | operator hcolon h => exact ⟨_, hcolon, passes_of_readsName (oneOf_eq_ok h)⟩
  | path _ hcolon h => exact ⟨_, hcolon, passes_of_readPath h⟩
  | value hcolon h => exact ⟨_, hcolon, Raw.passes_of_reader h⟩
  | other _ h => exact passes_of_skipField h

/-- A member is the path of a descriptor that had none, or it leaves the path as it is. -/
theorem ReadsMember.path_cases (h : ReadsMember s rest parts key parts') :
    (key = "property_path" ∧ parts.path = none ∧
        ∃ t p, colon s = .ok ((), t) ∧ readPath t = .ok (p, rest) ∧ parts'.path = some p) ∨
      (key ≠ "property_path" ∧ parts'.path = parts.path) := by
  cases h with
  | path hbefore hcolon h => exact .inl ⟨rfl, hbefore, _, _, hcolon, h, rfl⟩
  | connective _ _ => exact .inr ⟨by decide, rfl⟩
  | operator _ _ => exact .inr ⟨by decide, rfl⟩
  | value _ _ => exact .inr ⟨by decide, rfl⟩
  | other hkey _ => exact .inr ⟨hkey, rfl⟩

/-- A path that has been read stays. -/
theorem path_of_readsMembers {first : Bool} {keys : List String} {final : Parts} {p : Path}
    (h : ReadsMembers readMember first s parts keys final rest) (hpath : parts.path = some p) :
    final.path = some p := by
  refine h.invariant (P := fun parts ↦ parts.path = some p) ?_ hpath
  intro parts key s parts' t hparts hm
  rcases (readMember_eq_ok hm).path_cases with ⟨-, hnone, -⟩ | ⟨-, hsame⟩
  · rw [hparts] at hnone
    cases hnone
  · rw [hsame, hparts]

/-- The path is read from the member that is named for it. -/
theorem exists_memberAt {first : Bool} {keys : List String} {final : Parts} {p : Path}
    (h : ReadsMembers readMember first s parts keys final rest) (hbefore : parts.path = none)
    (hfinal : final.path = some p) :
    ∃ place t, MemberAt "property_path" first s place ∧ readPath place = .ok (p, t) := by
  induction h with
  | close _ =>
    rw [hbefore] at hfinal
    cases hfinal
  | member hmore hkey hm hrest ih =>
    have hreads := readMember_eq_ok hm
    rcases hreads.path_cases with ⟨rfl, -, t, q, hcolon, hq, hpath⟩ | ⟨hne, hsame⟩
    · -- A second member of this key would be refused, so this path is the one in the end.
      have hstays := path_of_readsMembers hrest hpath
      obtain rfl : q = p := Option.some.inj (hstays.symm.trans hfinal)
      exact ⟨t, _, .here hmore hkey hcolon, hq⟩
    · obtain ⟨place, t, hplace, hp⟩ := ih (hsame.trans hbefore) hfinal
      exact ⟨place, t, .there hmore hkey hne hreads.passes hplace, hp⟩

/-- The value of a descriptor is not nested deeper than there is room for. -/
theorem depth_le_of_readsMembers {first : Bool} {keys : List String} {final : Parts} {v : Raw}
    (h : ReadsMembers readMember first s {} keys final rest) (hfinal : final.value = some v) :
    v.toJson.depth ≤ depth := by
  refine h.invariant (P := fun parts ↦ ∀ v, parts.value = some v → v.toJson.depth ≤ depth) ?_
    (fun _ hv ↦ by cases hv) v hfinal
  intro parts key s parts' t hparts hm v hv
  cases readMember_eq_ok hm with
  | value _ hread =>
    cases hv
    exact Raw.depth_le_of_reader hread
  | _ => exact hparts v hv

/-! ## Descriptors -/

theorem Parts.finish_eq_ok (h : parts.finish s = .ok (d, rest)) :
    rest = s ∧ parts.path = some d.path ∧ parts.value = some d.value := by
  obtain ⟨connective, operator, path, value⟩ := parts
  rcases operator with _ | operator
  · cases h
  rcases path with _ | path
  · cases h
  rcases value with _ | value
  · cases h
  obtain ⟨rfl, rfl⟩ := reads_pure_iff.mp h
  exact ⟨rfl, rfl, rfl⟩

/-- A descriptor that is read from an object has its path from the member that is named for it. -/
theorem hasString_of_ofJsonText {text : String} (h : ofJsonText text = .ok d)
    (hobject : (skipLayout text.toList).head? = some '\x7b') :
    ∃ w, HasString text "property_path" w ∧ Path.ofText w = .ok d.path := by
  obtain ⟨rest, hread, -⟩ := readWith_eq_ok_iff.mp h
  rcases structureBy_eq_ok hread with ⟨t, hs, -⟩ | ⟨t, hs, hread⟩
  · rw [hs] at hobject
    cases hobject
  · rw [advance_bind] at hread
    obtain ⟨parts, u, hmembers, hfinish⟩ := reads_bind_iff.mp hread
    obtain ⟨-, hpath, -⟩ := Parts.finish_eq_ok hfinish
    obtain ⟨keys, hreads⟩ := readsMembers_of_members hmembers
    obtain ⟨place, v, hplace, hp⟩ := exists_memberAt hreads rfl hpath
    obtain ⟨x, w, hx, hstring, hw⟩ := readPath_eq_ok hp
    exact ⟨w, ⟨t, place, x, v, hs, hplace, hx, hstring⟩, hw⟩

/-- A descriptor that is read is not nested deeper than a text may be. -/
theorem depth_le_of_ofJsonText {text : String} (h : ofJsonText text = .ok d) :
    d.toJson.depth ≤ Json.maxDepth := by
  have hvalue : d.value.toJson.depth ≤ depth := by
    obtain ⟨rest, hread, -⟩ := readWith_eq_ok_iff.mp h
    rcases structureBy_eq_ok hread with ⟨t, -, hread⟩ | ⟨t, -, hread⟩
    · rw [advance_bind] at hread
      obtain ⟨connective, u, -, hread⟩ := reads_bind_iff.mp hread
      obtain ⟨operator, v, -, hread⟩ := reads_bind_iff.mp hread
      obtain ⟨path, w, -, hread⟩ := reads_bind_iff.mp hread
      obtain ⟨value, x, hfield, hread⟩ := reads_bind_iff.mp hread
      obtain ⟨-, y, -, hread⟩ := reads_bind_iff.mp hread
      obtain ⟨rfl, -⟩ := reads_pure_iff.mp hread
      obtain ⟨z, -, hreader⟩ := requiredField_eq_ok hfield
      exact Raw.depth_le_of_reader hreader
    · rw [advance_bind] at hread
      obtain ⟨parts, u, hmembers, hfinish⟩ := reads_bind_iff.mp hread
      obtain ⟨-, -, hfinal⟩ := Parts.finish_eq_ok hfinish
      obtain ⟨keys, hreads⟩ := readsMembers_of_members hmembers
      exact depth_le_of_readsMembers hreads hfinal
  rw [depth_toJson]
  exact Nat.succ_le_succ hvalue

/-- The JSON text of a descriptor is read as the descriptor exactly if it is not nested deeper
than a text may be.  What is read from any text can be written and read again.  If the text is an
object, its one member for the path is a string that is not blank and has no blank piece between
its points; the path has the trimmed pieces for its segments, and it is written as these with
points between them. -/
theorem json_round_trip :
    (∀ d : Descriptor, ofJsonText d.toJson.compact = .ok d ↔ d.toJson.depth ≤ Json.maxDepth) ∧
      ∀ (text : String) (d : Descriptor), ofJsonText text = .ok d →
        ofJsonText d.toJson.compact = .ok d ∧
          ((skipLayout text.toList).head? = some '\x7b' →
            ∃ path, (∀ w, HasString text "property_path" w ↔ w = path) ∧
              Text.trim path.toList ≠ [] ∧
              (∀ piece ∈ Text.pieces '.' path.toList, Text.trim piece ≠ []) ∧
              d.path.segments =
                (Text.pieces '.' path.toList).map (fun piece ↦ String.ofList (Text.trim piece)) ∧
              d.toJson.get? "property_path"
                = some (.string (".".intercalate d.path.segments))) := by
  refine ⟨fun d ↦ ⟨depth_le_of_ofJsonText, ofJsonText_compact⟩, fun text d h ↦ ⟨?_, ?_⟩⟩
  · exact ofJsonText_compact (depth_le_of_ofJsonText h)
  · intro hobject
    obtain ⟨path, hpath, hd⟩ := hasString_of_ofJsonText h hobject
    obtain ⟨hblank, hpieces⟩ := Path.trim_ne_nil_of_ofText hd
    have hsegments : d.path.segments = Path.trimmedPieces path.toList := by
      rw [Path.segments_of_ofText hd, Path.trimmedPieces_trim]
    have hget : d.toJson.get? "property_path" = some (.string d.path.text) := by
      obtain ⟨connective, operator, p, value⟩ := d
      cases connective <;> rfl
    have honly : ∀ w, HasString text "property_path" w ↔ w = path := by
      intro w
      constructor
      · intro hw
        exact hw.unique hpath
      · rintro rfl
        exact hpath
    exact ⟨path, honly, hblank, hpieces, hsegments, hget⟩

def loose : Descriptor where
  connective := none
  operator := .equal
  path := ⟨["p", "q"], by decide, by decide⟩
  value := .boolean true

/-- The fields are in another order, and there is one that nobody asks for. -/
def looseText : String :=
  "\x7b\"note\":[1,\x7b\"x\":null\x7d],\"property_path\":\" p . q \"," ++
    "\"value\":\x7b\"value\":true,\"kind\":\"boolean\"\x7d,\"operator\":\"Equal\"\x7d"

theorem json_round_trip_loose :
    ofJsonText looseText = .ok loose ∧
      (skipLayout looseText.toList).head? = some '\x7b' ∧
        ofJsonText loose.toJson.compact = .ok loose ∧
          ∃ path, HasString looseText "property_path" path ∧
            (Text.pieces '.' path.toList).map (fun piece ↦ String.ofList (Text.trim piece))
              = ["p", "q"] := by
  have htext : ofJsonText looseText = .ok loose := toOption_eq_some_iff.mp (by decide +kernel)
  have hobject : (skipLayout looseText.toList).head? = some '\x7b' := by decide +kernel
  obtain ⟨hagain, hpath⟩ := json_round_trip.2 looseText loose htext
  obtain ⟨path, honly, -, -, hsegments, -⟩ := hpath hobject
  exact ⟨htext, hobject, hagain, path, (honly path).mpr rfl, hsegments.symm⟩

end Descriptor

end RecordFilter
