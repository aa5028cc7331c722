import RecordFilter.Proofs.Json.Reading

/-!
# How deep values are nested

A reader of values is given how deep they may be nested, and what it reads is not
nested deeper.
-/

namespace RecordFilter.Json

mutual

/-- How deep lists and objects are nested in a value. -/
def depth : Json → Nat
  | array items => depthOfItems items + 1
  | object members => depthOfMembers members + 1
  | _ => 0

def depthOfItems : List Json → Nat
  | [] => 0
  | v :: vs => max v.depth (depthOfItems vs)

def depthOfMembers : List (String × Json) → Nat
  | [] => 0
  | (_, v) :: ms => max v.depth (depthOfMembers ms)

end

theorem depthOfItems_le_iff {vs : List Json} {n : Nat} :
    depthOfItems vs ≤ n ↔ ∀ v ∈ vs, v.depth ≤ n := by
  induction vs with
  | nil => simp [depthOfItems]
  | cons v vs ih => rw [depthOfItems, Nat.max_le, ih, List.forall_mem_cons]

theorem depthOfMembers_le_iff {ms : List (String × Json)} {n : Nat} :
    depthOfMembers ms ≤ n ↔ ∀ m ∈ ms, m.2.depth ≤ n := by
  induction ms with
  | nil => simp [depthOfMembers]
  | cons m ms ih => rw [depthOfMembers, Nat.max_le, ih, List.forall_mem_cons]

namespace Reader

variable {α σ : Type} {s rest : List Char}

/-- What holds of all items that a reader reads holds of the items of a list. -/
theorem ReadsItems.forall_mem {item : Reader α} {P : α → Prop}
    (hitem : ∀ s a t, item s = .ok (a, t) → P a) {first : Bool} {as : List α}
    (h : ReadsItems item first s as rest) : ∀ a ∈ as, P a := by
  induction h with
  | close _ => simp
  | item _ ha _ ih => exact List.forall_mem_cons.mpr ⟨hitem _ _ _ ha, ih⟩

/-- What holds at first and is kept by every member holds in the end. -/
theorem ReadsMembers.invariant {member : σ → String → Reader σ} {P : σ → Prop}
    (hmember : ∀ state key s state' t, P state → member state key s = .ok (state', t) → P state')
    {first : Bool} {state final : σ} {keys : List String}
    (h : ReadsMembers member first s state keys final rest) (hstate : P state) : P final := by
  induction h with
  | close _ => exact hstate
  | member _ _ hm _ ih => exact ih (hmember _ _ _ _ _ hstate hm)

theorem ReadsScalar.depth_eq_zero {v : Json} (h : ReadsScalar s v rest) : v.depth = 0 := by
  cases h <;> rfl

/-- A value that is read is not nested deeper than it may be. -/
theorem depth_le_of_value {n : Nat} {v : Json} (h : value n s = .ok (v, rest)) : v.depth ≤ n := by
  induction n generalizing s v rest with
  | zero =>
    rcases valueBy_eq_ok h with ⟨t, -, h⟩ | ⟨t, -, h⟩ | h
    · cases h
    · cases h
    · exact Nat.le_of_eq h.depth_eq_zero
  | succ n ih =>
    rcases valueBy_eq_ok h with ⟨t, -, h⟩ | ⟨t, -, h⟩ | h
    · obtain ⟨vs, hvs, rfl⟩ := exists_of_advance h
      refine Nat.succ_le_succ (depthOfItems_le_iff.mpr ?_)
      exact (readsItems_of_items hvs).forall_mem fun s v t hv ↦ ih hv
    · obtain ⟨ms, hms, rfl⟩ := exists_of_advance h
      obtain ⟨keys, hreads⟩ := readsMembers_of_members hms
      refine Nat.succ_le_succ (depthOfMembers_le_iff.mpr ?_)
      have hall : ∀ m ∈ ms, m.2.depth ≤ n := by
        refine hreads.invariant (P := fun ms ↦ ∀ m ∈ ms, m.2.depth ≤ n) ?_ (by simp)
        intro found key s found' t hfound hm
        obtain ⟨_, u, hcolon, hm⟩ := reads_bind_iff.mp hm
        obtain ⟨v, w, hv, hm⟩ := reads_bind_iff.mp hm
        obtain ⟨rfl, rfl⟩ := reads_pure_iff.mp hm
        exact List.forall_mem_cons.mpr ⟨ih hv, hfound⟩
      simpa using hall
    · rw [h.depth_eq_zero]
      exact Nat.zero_le _

end Reader

end RecordFilter.Json
