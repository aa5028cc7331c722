/-!
# Tables

A table maps keys to values and remembers the order in which the keys came. A
value that is put under a known key replaces the old one in its place.
-/

namespace RecordFilter

universe u

/-- Entries with a value put under a key. -/
def putEntry {α : Type u} (key : String) (a : α) : List (String × α) → List (String × α)
  | [] => [(key, a)]
  | (k, b) :: rest => if k = key then (k, a) :: rest else (k, b) :: putEntry key a rest

theorem keys_putEntry {α : Type u} (key : String) (a : α) (entries : List (String × α)) :
    (putEntry key a entries).map Prod.fst =
      if key ∈ entries.map Prod.fst then entries.map Prod.fst
      else entries.map Prod.fst ++ [key] := by
  induction entries with
  | nil => simp [putEntry]
  | cons e rest ih =>
    obtain ⟨k, b⟩ := e
    by_cases h : k = key
    · simp [putEntry, h]
    · simp only [putEntry, h, if_false, List.map_cons, ih, List.mem_cons, Ne.symm h, false_or]
      split <;> rfl

/-- Entries with distinct keys, in the order in which the keys came. -/
structure Table (α : Type u) where
  entries : List (String × α)
  nodup : (entries.map Prod.fst).Nodup
deriving DecidableEq

namespace Table

variable {α : Type u}

def empty : Table α := ⟨[], by simp⟩

instance : Inhabited (Table α) := ⟨empty⟩

def put (t : Table α) (key : String) (a : α) : Table α :=
  ⟨putEntry key a t.entries, by
    rw [keys_putEntry]
    split
    · exact t.nodup
    · next h => exact List.nodup_append.2 ⟨t.nodup, by simp, by grind⟩⟩

/-- The table of some entries, put one after the other. -/
def ofList (entries : List (String × α)) : Table α :=
  entries.foldl (fun t e => t.put e.1 e.2) empty

/-- The keys in the order in which they came. -/
def keys (t : Table α) : List String := t.entries.map Prod.fst

def size (t : Table α) : Nat := t.entries.length

/-- The value under exactly this key. -/
def get? (t : Table α) (key : String) : Option α := t.entries.lookup key

@[simp] theorem keys_empty : (empty : Table α).keys = [] := rfl

@[simp] theorem keys_put (t : Table α) (key : String) (a : α) :
    (t.put key a).keys = if key ∈ t.keys then t.keys else t.keys ++ [key] :=
  keys_putEntry key a t.entries

theorem get?_put (t : Table α) (key k : String) (a : α) :
    (t.put key a).get? k = if k = key then some a else t.get? k := by
  obtain ⟨entries, nodup⟩ := t
  simp only [put, get?]
  clear nodup
  induction entries with
  | nil =>
    by_cases h : k = key
    · simp [putEntry, h]
    · simp [putEntry, List.lookup_cons, h, beq_false_of_ne h]
  | cons e rest ih =>
    obtain ⟨j, b⟩ := e
    by_cases hj : j = key <;> by_cases hk : k = j <;>
      simp_all [putEntry, List.lookup_cons] <;> grind

end Table

end RecordFilter
