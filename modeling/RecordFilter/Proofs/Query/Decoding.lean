import RecordFilter.Proofs.Json.Passing
import RecordFilter.Proofs.Outcome
import RecordFilter.Proofs.Query.Encoding

/-!
# What is read as a descriptor

What stands in a text that is read as a raw value or as a descriptor: an object,
member by member, or a list of its fields.  In particular no value is nested
deeper than a text may be, so a descriptor that was read can be written and read
again.
-/

namespace RecordFilter

open Json (Reader)
open Json.Reader
open Text (skipLayout)

namespace Raw

variable {item : Reader Raw} {depth : Nat} {s rest : List Char} {v : Raw}

/-- How a member takes an object with a kind and a content on. -/
inductive ReadsMember (item : Reader Raw) (depth : Nat) (s rest : List Char) :
    Partial → String → Partial → Prop
  | kind {t : List Char} {tag : Tag} (hcolon : colon s = .ok ((), t))
      (h : oneOf Tag.all Tag.name depth t = .ok (tag, rest)) :
      ReadsMember item depth s rest .start "kind" (.kind tag)
  | kindLast {t : List Char} {tag : Tag} {tree : Json} {v : Raw} (hcolon : colon s = .ok ((), t))
      (h : oneOf Tag.all Tag.name depth t = .ok (tag, rest))
      (hfit : ofContent? (ofJson? Json.maxDepth) tag tree = some v) :
      ReadsMember item depth s rest (.content tree) "kind" (.whole v)
  | content {t : List Char} {tree : Json} (hcolon : colon s = .ok ((), t))
      (h : Json.Reader.value depth t = .ok (tree, rest)) :
      ReadsMember item depth s rest .start "value" (.content tree)
  | whole {t : List Char} {tag : Tag} {v : Raw} (hcolon : colon s = .ok ((), t))
      (h : readContent item depth tag t = .ok (v, rest)) :
      ReadsMember item depth s rest (.kind tag) "value" (.whole v)
  | other {state : Partial} {key : String} (h : skipField s = .ok ((), rest)) :
      ReadsMember item depth s rest state key state

theorem readMember_eq_ok {state state' : Partial} {key : String}
    (h : readMember item depth state key s = .ok (state', rest)) :
    ReadsMember item depth s rest state key state' := by
  unfold readMember at h
  split at h
  · obtain ⟨_, t, hcolon, h⟩ := reads_bind_iff.mp h
    obtain ⟨tag, _, htag, h⟩ := reads_bind_iff.mp h
    obtain ⟨rfl, rfl⟩ := reads_pure_iff.mp h
    exact .kind hcolon htag
  · next tree =>
    obtain ⟨_, t, hcolon, h⟩ := reads_bind_iff.mp h
    obtain ⟨tag, u, htag, h⟩ := reads_bind_iff.mp h
    cases hfit : ofContent? (ofJson? Json.maxDepth) tag tree with
    | none =>
      simp only [hfit] at h
      cases h
    | some v =>
      simp only [hfit] at h
      obtain ⟨rfl, rfl⟩ := reads_pure_iff.mp h
      exact .kindLast hcolon htag hfit
  · obtain ⟨_, t, hcolon, h⟩ := reads_bind_iff.mp h
    obtain ⟨tree, _, htree, h⟩ := reads_bind_iff.mp h
    obtain ⟨rfl, rfl⟩ := reads_pure_iff.mp h
    exact .content hcolon htree
  · obtain ⟨_, t, hcolon, h⟩ := reads_bind_iff.mp h
    obtain ⟨v, _, hv, h⟩ := reads_bind_iff.mp h
    obtain ⟨rfl, rfl⟩ := reads_pure_iff.mp h
    exact .whole hcolon hv
  · exact absurd h duplicate_ne_ok
  · exact absurd h duplicate_ne_ok
  · obtain ⟨_, _, hskip, h⟩ := reads_bind_iff.mp h
    obtain ⟨rfl, rfl⟩ := reads_pure_iff.mp h
    exact .other hskip

/-- The content of a value is a scalar, or a list of values. -/
theorem readContent_eq_ok {tag : Tag} (h : readContent item depth tag s = .ok (v, rest)) :
    (v.isList = false ∧ ∃ w, ReadsScalar (skipLayout s) w rest) ∨
      ∃ t vs, depth ≠ 0 ∧ skipLayout s = '[' :: t ∧ ReadsItems item true t vs rest ∧
        v = list vs := by
  cases tag with
  | null =>
    obtain ⟨w, t, hw, h⟩ := reads_bind_iff.mp h
    have hrefused : ∀ s w t,
        (if depth = 0 then failNext .recursionLimit else misfit "unit variant" : Reader Json) s
          ≠ .ok (w, t) := by
      intro s w t hw
      split at hw
      · cases hw
      · exact misfit_ne_ok hw
    rcases valueBy_eq_ok hw with ⟨u, -, hu⟩ | ⟨u, -, hu⟩ | hscalar
    · exact absurd hu (hrefused _ _ _)
    · exact absurd hu (hrefused _ _ _)
    · split at h
      · obtain ⟨rfl, rfl⟩ := reads_pure_iff.mp h
        exact .inl ⟨rfl, _, hscalar⟩
      · cases h
  | boolean =>
    obtain ⟨b, t, hb, h⟩ := reads_bind_iff.mp h
    obtain ⟨rfl, rfl⟩ := reads_pure_iff.mp h
    exact .inl ⟨rfl, _, boolean_eq_ok hb⟩
  | number | text =>
    obtain ⟨w, t, hw, h⟩ := reads_bind_iff.mp h
    obtain ⟨rfl, rfl⟩ := reads_pure_iff.mp h
    obtain ⟨u, hs, hstring⟩ := text_eq_ok hw
    rw [hs]
    exact .inl ⟨rfl, _, .string hstring⟩
  | sequence =>
    obtain ⟨_, _, hpeek, h⟩ := reads_bind_iff.mp h
    split at h
    · obtain ⟨t, hs, rfl⟩ := exists_of_peek hpeek
      split at h
      · cases h
      · next hdepth =>
        obtain ⟨vs, hvs, rfl⟩ := exists_of_advance h
        exact .inr ⟨t, vs, hdepth, hs, readsItems_of_items hvs, rfl⟩
    · obtain ⟨a, t, ha, -⟩ := reads_bind_iff.mp h
      exact absurd h misfit_ne_ok

theorem finish_eq_ok {state : Partial} (h : finish state s = .ok (v, rest)) :
    rest = s ∧ (state = .whole v ∨ v = null) := by
  unfold finish at h
  split at h
  · obtain ⟨rfl, rfl⟩ := reads_pure_iff.mp h
    exact ⟨rfl, .inl rfl⟩
  · obtain ⟨rfl, rfl⟩ := reads_pure_iff.mp h
    exact ⟨rfl, .inr rfl⟩
  · cases h
  · cases h

/-- What is read of a raw value, from its opening bracket on: a list of a kind and a content, or an
object. -/
inductive ReadsRaw (depth : Nat) : List Char → Raw → List Char → Prop
  | list {t u v w x rest : List Char} {word : String} {tag : Tag} {value : Raw}
      (hkind : Another true t true u) (hword : skipLayout u = '"' :: v)
      (hstring : string v = .ok (word, w)) (hnext : Another false w true x) {y : List Char}
      (hcontent : readContent (itemReader depth) depth tag x = .ok (value, y))
      (hend : skipLayout y = ']' :: rest) : ReadsRaw depth ('[' :: t) value rest
  | object {t rest : List Char} {keys : List String} {final : Partial} {value : Raw}
      (hmembers : ReadsMembers (readMember (itemReader depth) depth) true t .start keys final rest)
      (hfinal : final = .whole value ∨ value = null) : ReadsRaw depth ('\x7b' :: t) value rest

theorem reader_eq_ok {k : Nat} (h : reader k s = .ok (v, rest)) :
    ∃ depth, k = depth + 1 ∧ ReadsRaw depth (skipLayout s) v rest := by
  cases k with
  | zero =>
    rcases structureBy_eq_ok h with ⟨t, -, h⟩ | ⟨t, -, h⟩
    · cases h
    · cases h
  | succ depth =>
    refine ⟨depth, rfl, ?_⟩
    rw [reader_succ] at h
    rcases structureBy_eq_ok h with ⟨t, hs, h⟩ | ⟨t, hs, h⟩
    · rw [hs]
      rw [advance_bind] at h
      obtain ⟨tag, w, htag, h⟩ := reads_bind_iff.mp h
      obtain ⟨value, y, hvalue, h⟩ := reads_bind_iff.mp h
      obtain ⟨_, _, hend, h⟩ := reads_bind_iff.mp h
      obtain ⟨rfl, rfl⟩ := reads_pure_iff.mp h
      obtain ⟨u, hkind, htag⟩ := requiredField_eq_ok htag
      obtain ⟨x, hnext, hcontent⟩ := requiredField_eq_ok hvalue
      obtain ⟨word, w', hword, htag⟩ := reads_bind_iff.mp htag
      obtain rfl := named_eq_ok htag
      obtain ⟨v, hu, hstring⟩ := text_eq_ok hword
      exact .list hkind hu hstring hnext hcontent (endList_eq_ok hend)
    · rw [hs]
      rw [advance_bind] at h
      obtain ⟨final, t', hmembers, h⟩ := reads_bind_iff.mp h
      obtain ⟨rfl, hfinal⟩ := finish_eq_ok h
      obtain ⟨keys, hreads⟩ := readsMembers_of_members hmembers
      exact .object hreads hfinal

/-! ### Depth -/

theorem depthOfItems_toJsonAll_le_iff {vs : List Raw} {n : Nat} :
    Json.depthOfItems (toJsonAll vs) ≤ n ↔ ∀ v ∈ vs, v.toJson.depth ≤ n := by
  rw [Json.depthOfItems_le_iff, toJsonAll_eq_map, List.forall_mem_map]

theorem depth_toJson_of_not_isList (h : v.isList = false) : v.toJson.depth = 1 := by
  cases v with
  | list vs => cases h
  | _ => rfl

/-- A value is nested at most one level deeper than its content. -/
theorem depth_le_of_ofContent? {item : Json → Option Raw} {tag : Tag} {content : Json}
    (hitem : ∀ j v, item j = some v → v.toJson.depth ≤ j.depth)
    (h : ofContent? item tag content = some v) : v.toJson.depth ≤ content.depth + 1 := by
  unfold ofContent? at h
  split at h
  · cases h
    exact Nat.le_add_left 1 _
  · cases h
    exact Nat.le_add_left 1 _
  · cases h
    exact Nat.le_add_left 1 _
  · cases h
    exact Nat.le_add_left 1 _
  · next items =>
    obtain ⟨vs, hvs, rfl⟩ := Option.map_eq_some_iff.mp h
    rw [depth_toJson_list, Json.depth]
    refine Nat.succ_le_succ (Nat.succ_le_succ (depthOfItems_toJsonAll_le_iff.mpr fun v hv ↦ ?_))
    obtain ⟨j, hj, hread⟩ := exists_of_mem_mapM hvs hv
    exact (hitem j v hread).trans (Json.depthOfItems_le_iff.mp (Nat.le_refl _) j hj)
  · cases h

/-- The value of a member is nested less deep than the object. -/
theorem depth_lt_of_mem_named {members : List (String × Json)} {key : String} {content : Json}
    (h : content ∈ members.filterMap fun (k, v) ↦ if k = key then some v else none) :
    content.depth + 1 ≤ (Json.object members).depth := by
  obtain ⟨⟨k, v⟩, hmem, hv⟩ := List.mem_filterMap.mp h
  have hcontent : v = content := by
    by_cases hk : k = key
    · simpa [hk] using hv
    · simp [hk] at hv
  rw [Json.depth, ← hcontent]
  exact Nat.succ_le_succ (Json.depthOfMembers_le_iff.mp (Nat.le_refl _) (k, v) hmem)

/-- A value is nested at most as deep as the tree that it is read from. -/
theorem depth_le_of_ofJson? {n : Nat} {tree : Json} (h : ofJson? n tree = some v) :
    v.toJson.depth ≤ tree.depth := by
  induction n generalizing tree v with
  | zero => cases tree <;> cases h
  | succ n ih =>
    have hread : ∀ j v, ofJson? n j = some v → v.toJson.depth ≤ j.depth := fun _ _ hj ↦ ih hj
    unfold ofJson? at h
    split at h
    · next kind content hn =>
      cases hn
      obtain ⟨tag, -, hcontent⟩ := Option.bind_eq_some_iff.mp h
      have hle := depth_le_of_ofContent? hread hcontent
      simp only [Json.depth, Json.depthOfItems]
      omega
    · next members hn =>
      cases hn
      simp only at h
      split at h
      · next content hkind hvalue =>
        obtain ⟨tag, -, hcontent⟩ := Option.bind_eq_some_iff.mp h
        refine (depth_le_of_ofContent? hread hcontent).trans ?_
        exact depth_lt_of_mem_named (hvalue ▸ List.mem_singleton_self content)
      · next kind hkind hvalue =>
        obtain ⟨tag, -, hnull⟩ := Option.bind_eq_some_iff.mp h
        split at hnull
        · cases hnull
          exact Nat.succ_le_of_lt (Nat.succ_pos _)
        · cases hnull
      · cases h
    · cases h

/-- What is read of a content is nested at most one level deeper than there is room for. -/
theorem depth_le_of_readContent {tag : Tag}
    (hitem : ∀ d, depth = d + 1 → ∀ s v t, item s = .ok (v, t) → v.toJson.depth ≤ d)
    (h : readContent item depth tag s = .ok (v, rest)) : v.toJson.depth ≤ depth + 1 := by
  rcases readContent_eq_ok h with ⟨hlist, -⟩ | ⟨t, vs, hdepth, -, hitems, rfl⟩
  · rw [depth_toJson_of_not_isList hlist]
    exact Nat.le_add_left 1 depth
  · obtain ⟨d, rfl⟩ := Nat.exists_eq_succ_of_ne_zero hdepth
    rw [depth_toJson_list]
    refine Nat.add_le_add_right (depthOfItems_toJsonAll_le_iff.mpr ?_) 2
    exact hitems.forall_mem (hitem d rfl)

/-- What an object with a kind and a content has come to is not nested too deep. -/
def Partial.Fits (depth : Nat) : Partial → Prop
  | .start | .kind _ => True
  | .content tree => tree.depth ≤ depth
  | .whole v => v.toJson.depth ≤ depth + 1

theorem Partial.Fits.readMember {state state' : Partial} {key : String}
    (hitem : ∀ d, depth = d + 1 → ∀ s v t, item s = .ok (v, t) → v.toJson.depth ≤ d)
    (hstate : state.Fits depth) (h : Raw.readMember item depth state key s = .ok (state', rest)) :
    state'.Fits depth := by
  cases readMember_eq_ok h with
  | kind _ _ => trivial
  | kindLast _ _ hfit =>
    exact (depth_le_of_ofContent? (fun _ _ ↦ depth_le_of_ofJson?) hfit).trans
      (Nat.succ_le_succ hstate)
  | content _ htree => exact depth_le_of_value htree
  | whole _ hcontent => exact depth_le_of_readContent hitem hcontent
  | other _ => exact hstate

/-- What is read as a raw value is not nested deeper than there is room for. -/
theorem depth_le_of_reader {k : Nat} (h : reader k s = .ok (v, rest)) : v.toJson.depth ≤ k := by
  induction k using Nat.strong_induction_on generalizing s v rest with
  | _ k ih =>
    obtain ⟨depth, rfl, hraw⟩ := reader_eq_ok h
    have hitem : ∀ d, depth = d + 1 → ∀ s v t, itemReader depth s = .ok (v, t) →
        v.toJson.depth ≤ d := by
      rintro d rfl s v t hv
      exact ih d (by omega) hv
    generalize skipLayout s = u at hraw
    cases hraw with
    | list _ _ _ _ hcontent _ => exact depth_le_of_readContent hitem hcontent
    | object hmembers hfinal =>
      have hfits := hmembers.invariant (P := Partial.Fits depth)
        (fun _ _ _ _ _ hstate hm ↦ hstate.readMember hitem hm) trivial
      rcases hfinal with rfl | rfl
      · exact hfits
      · exact Nat.le_add_left 1 depth

/-! ### Form -/

theorem passes_of_readContent {tag : Tag}
    (hitem : ∀ s v t, item s = .ok (v, t) → PassesValue s t)
    (h : readContent item depth tag s = .ok (v, rest)) : PassesValue s rest := by
  rcases readContent_eq_ok h with ⟨-, w, hw⟩ | ⟨t, vs, -, hs, hitems, -⟩
  · exact passes_of_readsScalar hw
  · exact .bracketed .list hs (hitems.passes hitem)

theorem passes_of_readMember {state state' : Partial} {key : String}
    (hitem : ∀ s v t, item s = .ok (v, t) → PassesValue s t)
    (h : readMember item depth state key s = .ok (state', rest)) : PassesField s rest := by
  cases readMember_eq_ok h with
  | kind hcolon htag => exact ⟨_, hcolon, passes_of_readsName (oneOf_eq_ok htag)⟩
  | kindLast hcolon htag _ => exact ⟨_, hcolon, passes_of_readsName (oneOf_eq_ok htag)⟩
  | content hcolon htree => exact ⟨_, hcolon, passes_of_value htree⟩
  | whole hcolon hcontent => exact ⟨_, hcolon, passes_of_readContent hitem hcontent⟩
  | other hskip => exact passes_of_skipField hskip

/-- What is read as a raw value is passed over as a value. -/
theorem passes_of_reader {k : Nat} (h : reader k s = .ok (v, rest)) : PassesValue s rest := by
  induction k using Nat.strong_induction_on generalizing s v rest with
  | _ k ih =>
    obtain ⟨depth, rfl, hraw⟩ := reader_eq_ok h
    have hitem : ∀ s v t, itemReader depth s = .ok (v, t) → PassesValue s t := by
      intro s v t hv
      cases depth with
      | zero => cases hv
      | succ d => exact ih d (by omega) hv
    generalize hs : skipLayout s = u at hraw
    cases hraw with
    | list hkind hword hstring hnext hcontent hend =>
      have hvalue := passes_of_readContent hitem hcontent
      have hrest := PassesInside.item hnext hvalue (.close hend)
      exact .bracketed .list hs (.item hkind (passes_of_string hword hstring) hrest)
    | object hmembers _ =>
      refine .bracketed .object hs (hmembers.passes ?_)
      intro state key s state' t hm
      exact passes_of_readMember hitem hm

end Raw

end RecordFilter
