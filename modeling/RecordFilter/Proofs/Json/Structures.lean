import RecordFilter.Proofs.Json.Reading

/-!
# What the readers of structures read

The building blocks of readers of structures, turned around: what stands in the
text where such a reader succeeds.
-/

namespace RecordFilter.Json.Reader

open Text (skipLayout)

variable {α σ : Type} {s rest : List Char}

theorem misfit_ne_ok {expected : String} {a : α} : misfit expected s ≠ .ok (a, rest) := by
  intro h
  obtain ⟨v, t, -, h⟩ := reads_bind_iff.mp h
  cases h

theorem text_eq_ok {expected w : String} (h : text expected s = .ok (w, rest)) :
    ∃ t, skipLayout s = '"' :: t ∧ string t = .ok (w, rest) := by
  obtain ⟨_, _, hpeek, h⟩ := reads_bind_iff.mp h
  split at h
  · obtain ⟨t, hs, rfl⟩ := exists_of_peek hpeek
    exact ⟨t, hs, h⟩
  · exact absurd h misfit_ne_ok

theorem boolean_eq_ok {b : Bool} (h : boolean s = .ok (b, rest)) :
    ReadsScalar (skipLayout s) (.bool b) rest := by
  obtain ⟨_, _, hpeek, h⟩ := reads_bind_iff.mp h
  split at h
  · obtain ⟨t, hs, rfl⟩ := exists_of_peek hpeek
    obtain ⟨_, hword, rfl⟩ := exists_of_advance (f := fun _ ↦ true) h
    rw [hs]
    exact .true hword
  · obtain ⟨t, hs, rfl⟩ := exists_of_peek hpeek
    obtain ⟨_, hword, rfl⟩ := exists_of_advance (f := fun _ ↦ false) h
    rw [hs]
    exact .false hword
  · exact absurd h misfit_ne_ok

theorem optional_eq_ok {reader : Reader α} {o : Option α}
    (h : optional reader s = .ok (o, rest)) :
    ReadsScalar (skipLayout s) .null rest ∨
      ∃ a, o = some a ∧ reader (skipLayout s) = .ok (a, rest) := by
  obtain ⟨_, _, hpeek, h⟩ := reads_bind_iff.mp h
  split at h
  · obtain ⟨t, hs, rfl⟩ := exists_of_peek hpeek
    obtain ⟨_, hword, -⟩ := exists_of_advance (f := fun _ ↦ none) h
    rw [hs]
    exact .inl (.null hword)
  · cases hpeek
    obtain ⟨a, t, ha, h⟩ := reads_bind_iff.mp h
    obtain ⟨rfl, rfl⟩ := reads_pure_iff.mp h
    exact .inr ⟨a, rfl, ha⟩

theorem reads_discard_iff {reader : Reader α} :
    (discard reader : Reader Unit) s = .ok ((), rest) ↔ ∃ a, reader s = .ok (a, rest) := by
  have hmap : (discard reader : Reader Unit) = reader >>= fun _ ↦ pure () := rfl
  rw [hmap, reads_bind_iff]
  constructor
  · rintro ⟨a, t, ha, h⟩
    obtain ⟨-, rfl⟩ := reads_pure_iff.mp h
    exact ⟨a, ha⟩
  · rintro ⟨a, ha⟩
    exact ⟨a, rest, ha, rfl⟩

theorem unit_eq_ok (h : unit s = .ok ((), rest)) : ReadsScalar (skipLayout s) .null rest := by
  obtain ⟨o, h⟩ := reads_discard_iff.mp h
  rcases optional_eq_ok h with hnull | ⟨a, -, ha⟩
  · exact hnull
  · exact absurd ha misfit_ne_ok

theorem named_eq_ok {all : List α} {name : α → String} {word : String} {a : α}
    (h : named all name word s = .ok (a, rest)) : rest = s := by
  rw [named] at h
  cases hfind : all.find? (name · == word) with
  | none =>
    rw [hfind] at h
    cases h
  | some b =>
    rw [hfind] at h
    exact (reads_pure_iff.mp h).2

/-- What is read of a name: a string, or an object with one member, which is null. -/
inductive ReadsName : List Char → List Char → Prop
  | string {t rest : List Char} {w : String} (h : string t = .ok (w, rest)) :
      ReadsName ('"' :: t) rest
  | object {t u v w rest : List Char} {key : String} (hquote : skipLayout t = '"' :: u)
      (hkey : string u = .ok (key, v)) (hcolon : colon v = .ok ((), w)) {x : List Char}
      (hnull : ReadsScalar (skipLayout w) .null x) (hbrace : skipLayout x = '\x7d' :: rest) :
      ReadsName ('\x7b' :: t) rest

theorem oneOf_eq_ok {all : List α} {name : α → String} {depth : Nat} {a : α}
    (h : oneOf all name depth s = .ok (a, rest)) : ReadsName (skipLayout s) rest := by
  obtain ⟨_, _, hpeek, h⟩ := reads_bind_iff.mp h
  split at h
  · obtain ⟨t, hs, rfl⟩ := exists_of_peek hpeek
    obtain ⟨w, u, hw, hname⟩ := reads_bind_iff.mp h
    obtain rfl := named_eq_ok hname
    obtain ⟨t', ht', hstring⟩ := text_eq_ok hw
    cases ht'
    rw [hs]
    exact .string hstring
  · obtain ⟨t, hs, rfl⟩ := exists_of_peek hpeek
    rw [hs]
    split at h
    · cases h
    · rw [advance_bind] at h
      obtain ⟨key, u, hkey, hbody⟩ := reads_bind_iff.mp h
      obtain ⟨b, v, hname, hcontent⟩ := reads_bind_iff.mp hbody
      obtain rfl := named_eq_ok hname
      obtain ⟨t', ht', hstring⟩ := text_eq_ok hkey
      obtain ⟨_, w, hcolon, hvalue⟩ := reads_bind_iff.mp hcontent
      obtain ⟨_, x, hunit, hend⟩ := reads_bind_iff.mp hvalue
      obtain ⟨_, _, hbrace, hend⟩ := reads_bind_iff.mp hend
      split at hend
      · obtain ⟨y, hy, rfl⟩ := exists_of_peek hbrace
        cases hend
        exact .object ht' hstring hcolon (unit_eq_ok hunit) hy
      · cases hend
      · cases hend
  · cases h
  · cases h

/-! ## Structures -/

theorem structureBy_eq_ok {expected : String} {list object : Reader α} {a : α}
    (h : structureBy expected list object s = .ok (a, rest)) :
    (∃ t, skipLayout s = '[' :: t ∧ list ('[' :: t) = .ok (a, rest)) ∨
      ∃ t, skipLayout s = '\x7b' :: t ∧ object ('\x7b' :: t) = .ok (a, rest) := by
  obtain ⟨_, _, hpeek, h⟩ := reads_bind_iff.mp h
  split at h
  · obtain ⟨t, hs, rfl⟩ := exists_of_peek hpeek
    exact .inl ⟨t, hs, h⟩
  · obtain ⟨t, hs, rfl⟩ := exists_of_peek hpeek
    exact .inr ⟨t, hs, h⟩
  · exact absurd h misfit_ne_ok

theorem duplicate_ne_ok {key : String} {a : α} : duplicate key s ≠ .ok (a, rest) := by
  intro h
  obtain ⟨_, _, hpeek, h⟩ := reads_bind_iff.mp h
  split at h
  · cases h
  · cases h

theorem field_eq_ok {key : String} {before found : Option α} {reader : Reader α}
    (h : field key before reader s = .ok (found, rest)) :
    before = none ∧ ∃ t a, colon s = .ok ((), t) ∧ reader t = .ok (a, rest) ∧ found = some a := by
  unfold field at h
  split at h
  · exact absurd h duplicate_ne_ok
  · next hbefore =>
    obtain ⟨_, t, hcolon, h⟩ := reads_bind_iff.mp h
    obtain ⟨a, u, ha, h⟩ := reads_bind_iff.mp h
    obtain ⟨rfl, rfl⟩ := reads_pure_iff.mp h
    exact ⟨by simpa using hbefore, t, a, hcolon, ha, rfl⟩

theorem nextField_eq_ok {first : Bool} {reader : Reader α} {found : Option α}
    (h : nextField first reader s = .ok (found, rest)) :
    (found = none ∧ ∃ t, skipLayout s = ']' :: t ∧ rest = ']' :: t) ∨
      ∃ t a, Another first s true t ∧ reader t = .ok (a, rest) ∧ found = some a := by
  obtain ⟨more, t, hmore, h⟩ := reads_bind_iff.mp h
  rw [anotherItem_eq_ok_iff] at hmore
  cases more with
  | false =>
    obtain ⟨rfl, rfl⟩ := reads_pure_iff.mp h
    exact .inl ⟨rfl, hmore.exists_close⟩
  | true =>
    obtain ⟨a, u, ha, h⟩ := reads_bind_iff.mp h
    obtain ⟨rfl, rfl⟩ := reads_pure_iff.mp h
    exact .inr ⟨t, a, hmore, ha, rfl⟩

theorem requiredField_eq_ok {length : Nat} {expected : String} {reader : Reader α} {a : α}
    (h : requiredField length expected reader s = .ok (a, rest)) :
    ∃ t, Another (length == 0) s true t ∧ reader t = .ok (a, rest) := by
  obtain ⟨found, t, hfound, h⟩ := reads_bind_iff.mp h
  split at h
  · obtain ⟨rfl, rfl⟩ := reads_pure_iff.mp h
    rcases nextField_eq_ok hfound with ⟨hnone, -⟩ | ⟨t, a, hmore, ha, hsome⟩
    · cases hnone
    · cases hsome
      exact ⟨t, hmore, ha⟩
  · cases h

theorem endList_eq_ok (h : endList s = .ok ((), rest)) : skipLayout s = ']' :: rest := by
  obtain ⟨_, _, hpeek, h⟩ := reads_bind_iff.mp h
  split at h
  · obtain ⟨t, hs, rfl⟩ := exists_of_peek hpeek
    cases h
    exact hs
  · obtain ⟨_, _, hadvance, h⟩ := reads_bind_iff.mp h
    obtain ⟨_, _, hpeek', h⟩ := reads_bind_iff.mp h
    split at h
    · cases h
    · cases h
  · cases h
  · cases h

end RecordFilter.Json.Reader
