import Mathlib.Data.List.Forall2
import Mathlib.Data.List.Induction
import RecordFilter.Table

/-!
# Tables made of lists

A table that is made of some entries has their keys, each where it came first,
and under each key the value that came last.  Entries with distinct keys are the
entries of their table.
-/

namespace RecordFilter

universe u v

namespace Table

variable {α : Type u} {β : Type v}

/-- The last entry is put last. -/
theorem ofList_append_singleton (entries : List (String × α)) (e : String × α) :
    ofList (entries ++ [e]) = (ofList entries).put e.1 e.2 := by
  rw [ofList, List.foldl_append]
  rfl

/-- The keys come in the order in which they came first. -/
theorem keys_ofList (entries : List (String × α)) :
    (ofList entries).keys = (entries.map Prod.fst).eraseDups := by
  induction entries using List.reverseRecOn with
  | nil => rfl
  | append_singleton entries e ih =>
    rw [ofList_append_singleton, keys_put, ih, List.map_append, List.eraseDups_append]
    by_cases h : e.1 ∈ entries.map Prod.fst
    · rw [if_pos (List.mem_eraseDups.mpr h)]
      simp [List.removeAll, h]
    · rw [if_neg (mt List.mem_eraseDups.mp h)]
      simp [List.removeAll, List.eraseDups_cons, h]

theorem mem_putEntry {key : String} {a : α} {entries : List (String × α)} {e : String × α}
    (h : e ∈ putEntry key a entries) : e = (key, a) ∨ e ∈ entries := by
  induction entries with
  | nil => exact Or.inl (List.mem_singleton.mp h)
  | cons entry rest ih =>
    obtain ⟨k, b⟩ := entry
    by_cases hk : k = key
    · subst hk
      simp only [putEntry, if_true, List.mem_cons] at h
      rcases h with rfl | h
      · exact Or.inl rfl
      · exact Or.inr (List.mem_cons_of_mem _ h)
    · simp only [putEntry, hk, if_false, List.mem_cons] at h
      rcases h with rfl | h
      · exact Or.inr List.mem_cons_self
      · exact (ih h).imp_right (List.mem_cons_of_mem _)

/-- A table holds nothing but what was put into it. -/
theorem mem_of_mem_ofList {entries : List (String × α)} {e : String × α}
    (h : e ∈ (ofList entries).entries) : e ∈ entries := by
  induction entries using List.reverseRecOn with
  | nil => exact h
  | append_singleton entries last ih =>
    rw [ofList_append_singleton] at h
    rw [List.mem_append, List.mem_singleton]
    rcases mem_putEntry h with rfl | h
    · exact Or.inr rfl
    · exact Or.inl (ih h)

theorem mem_keys_ofList_iff {entries : List (String × α)} {key : String} :
    key ∈ (ofList entries).keys ↔ key ∈ entries.map Prod.fst := by
  rw [keys_ofList, List.mem_eraseDups]

/-- What is found under a key was put there. -/
theorem mem_of_lookup {entries : List (String × α)} {key : String} {a : α}
    (h : entries.lookup key = some a) : (key, a) ∈ entries := by
  obtain ⟨front, back, hsplit, -⟩ := List.lookup_eq_some_iff.mp h
  rw [hsplit]
  exact List.mem_append_right _ List.mem_cons_self

theorem lookup_eq_none_iff_notMem {entries : List (String × α)} {key : String} :
    entries.lookup key = none ↔ key ∉ entries.map Prod.fst := by
  rw [List.lookup_eq_none_iff, List.mem_map]
  constructor
  · rintro h ⟨entry, hentry, rfl⟩
    simpa using h entry hentry
  · rintro h entry hentry
    rw [bne_iff_ne]
    rintro rfl
    exact h ⟨entry, hentry, rfl⟩

/-- An entry is found by its key. -/
theorem get?_of_mem {t : Table α} {key : String} {a : α} (h : (key, a) ∈ t.entries) :
    t.get? key = some a := by
  obtain ⟨front, back, hsplit⟩ := List.append_of_mem h
  rw [get?, List.lookup_eq_some_iff]
  refine ⟨front, back, hsplit, fun entry hentry ↦ ?_⟩
  have hnodup := t.nodup
  rw [hsplit, List.map_append, List.map_cons, List.nodup_append] at hnodup
  have hne := hnodup.2.2 entry.1 (List.mem_map_of_mem hentry) key List.mem_cons_self
  simpa using hne.symm

/-- Under each key there is what came last. -/
theorem get?_ofList (entries : List (String × α)) (key : String) :
    (ofList entries).get? key = entries.reverse.lookup key := by
  induction entries using List.reverseRecOn with
  | nil => rfl
  | append_singleton entries e ih =>
    rw [ofList_append_singleton, get?_put, ih, List.reverse_concat, List.lookup_cons]
    by_cases h : key = e.1
    · simp [h]
    · simp [h, beq_false_of_ne h]

theorem putEntry_of_notMem {key : String} {a : α} {entries : List (String × α)}
    (h : key ∉ entries.map Prod.fst) : putEntry key a entries = entries ++ [(key, a)] := by
  induction entries with
  | nil => rfl
  | cons e entries ih =>
    rw [List.map_cons, List.mem_cons, not_or] at h
    rw [putEntry, if_neg (Ne.symm h.1), ih h.2, List.cons_append]

/-- Entries with distinct keys are kept as they are. -/
theorem entries_ofList {entries : List (String × α)} (h : (entries.map Prod.fst).Nodup) :
    (ofList entries).entries = entries := by
  induction entries using List.reverseRecOn with
  | nil => rfl
  | append_singleton entries e ih =>
    rw [List.map_append, List.nodup_append] at h
    obtain ⟨hentries, -, hnew⟩ := h
    have hkey : e.1 ∉ entries.map Prod.fst := fun hmem ↦ hnew e.1 hmem e.1 (by simp) rfl
    calc (ofList (entries ++ [e])).entries
        = putEntry e.1 e.2 (ofList entries).entries := by rw [ofList_append_singleton, put]
      _ = putEntry e.1 e.2 entries := by rw [ih hentries]
      _ = entries ++ [e] := putEntry_of_notMem hkey

/-- Of distinct keys it does not matter from which end they are looked up. -/
theorem lookup_reverse_eq_some_iff {entries : List (String × α)}
    (h : (entries.map Prod.fst).Nodup) {key : String} {a : α} :
    entries.reverse.lookup key = some a ↔ (key, a) ∈ entries := by
  rw [← get?_ofList]
  constructor
  · intro hget
    rw [← entries_ofList h]
    exact mem_of_lookup hget
  · intro hmem
    rw [← entries_ofList h] at hmem
    exact get?_of_mem hmem

/-- What is put later hides what has been put before. -/
theorem get?_ofList_append_eq_some_iff {before later : List (String × α)}
    (h : (later.map Prod.fst).Nodup) {key : String} {a : α} :
    (ofList (before ++ later)).get? key = some a ↔
      (key, a) ∈ later ∨ key ∉ later.map Prod.fst ∧ (ofList before).get? key = some a := by
  rw [get?_ofList, get?_ofList, List.reverse_append, List.lookup_append, Option.or_eq_some_iff,
    lookup_reverse_eq_some_iff h, lookup_eq_none_iff_notMem, List.map_reverse, List.mem_reverse]

theorem length_keys (t : Table α) : t.keys.length = t.size := by
  rw [keys, List.length_map, size]

theorem size_ofList_le (entries : List (String × α)) : (ofList entries).size ≤ entries.length := by
  induction entries using List.reverseRecOn with
  | nil => exact Nat.le_refl _
  | append_singleton entries e ih =>
    rw [← length_keys] at ih
    rw [← length_keys, ofList_append_singleton, keys_put, List.length_append, List.length_singleton]
    split
    · exact Nat.le_trans ih (Nat.le_succ _)
    · rw [List.length_append, List.length_singleton]
      exact Nat.succ_le_succ ih

/-- No entry is lost exactly when the keys are distinct. -/
theorem size_ofList_eq_iff {entries : List (String × α)} :
    (ofList entries).size = entries.length ↔ (entries.map Prod.fst).Nodup := by
  constructor
  · intro h
    induction entries using List.reverseRecOn with
    | nil => exact .nil
    | append_singleton entries e ih =>
      have hle := size_ofList_le entries
      rw [← length_keys] at hle ih
      rw [← length_keys, ofList_append_singleton, keys_put, List.length_append,
        List.length_singleton] at h
      split at h
      · omega
      · next hnew =>
        rw [List.length_append, List.length_singleton] at h
        rw [mem_keys_ofList_iff] at hnew
        rw [List.map_append, List.nodup_append]
        refine ⟨ih (by omega), by simp, ?_⟩
        rintro key hkey _ hlast rfl
        obtain rfl := List.mem_singleton.mp hlast
        exact hnew hkey
  · intro h
    rw [size, entries_ofList h]

/-! ## Related tables -/

/-- In lists whose values are related under each key, what is found under a key is. -/
theorem rel_lookup {R : String → α → β → Prop} {as : List (String × α)} {bs : List (String × β)}
    (h : List.Forall₂ (fun a b ↦ a.1 = b.1 ∧ R a.1 a.2 b.2) as bs) (key : String) :
    Option.Rel (R key) (as.lookup key) (bs.lookup key) := by
  induction h with
  | nil => exact .none
  | @cons a b as bs hab _ ih =>
    obtain ⟨k, a⟩ := a
    obtain ⟨k', b⟩ := b
    obtain ⟨hk, hR⟩ := hab
    cases hk
    by_cases hkey : key = k
    · cases hkey
      simpa [List.lookup_cons] using hR
    · simpa [List.lookup_cons, beq_false_of_ne hkey] using ih

theorem map_fst_eq {R : String → α → β → Prop} {as : List (String × α)} {bs : List (String × β)}
    (h : List.Forall₂ (fun a b ↦ a.1 = b.1 ∧ R a.1 a.2 b.2) as bs) :
    as.map Prod.fst = bs.map Prod.fst := by
  induction h with
  | nil => rfl
  | cons hab _ ih => rw [List.map_cons, List.map_cons, hab.1, ih]

/-- Tables made of entries that are related one by one have related values under each key. -/
theorem rel_get?_ofList {R : String → α → β → Prop} {as : List (String × α)}
    {bs : List (String × β)} (h : List.Forall₂ (fun a b ↦ a.1 = b.1 ∧ R a.1 a.2 b.2) as bs)
    (key : String) : Option.Rel (R key) ((ofList as).get? key) ((ofList bs).get? key) := by
  rw [get?_ofList, get?_ofList]
  exact rel_lookup (List.forall₂_reverse_iff.mpr h) key

end Table

end RecordFilter
