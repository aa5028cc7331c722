import RecordFilter.Proofs.Json.Passing

/-!
# Where the members of an object stand

The form of a value determines where it ends, whichever reader has read it.  So a
member of an object has one place: it is found by passing over the members before
it, and it does not matter what is made of those.
-/

namespace RecordFilter.Json.Reader

open Text (skipLayout)

variable {α : Type} {s t u : List Char}

/-! ## Ends of values -/

theorem reads_unique {x : Reader α} {a a' : α} (h : x s = .ok (a, t)) (h' : x s = .ok (a', u)) :
    a = a' ∧ t = u :=
  Prod.mk.inj (Except.ok.inj (h.symm.trans h'))

theorem PassesScalar.unique (h : PassesScalar s t) (h' : PassesScalar s u) : t = u := by
  cases h with
  | null h =>
    cases h' with
    | null h' => exact (reads_unique h h').2
    | number hc _ => exact absurd hc (by decide)
  | true h =>
    cases h' with
    | true h' => exact (reads_unique h h').2
    | number hc _ => exact absurd hc (by decide)
  | false h =>
    cases h' with
    | false h' => exact (reads_unique h h').2
    | number hc _ => exact absurd hc (by decide)
  | string h =>
    cases h' with
    | string h' => exact (reads_unique h h').2
    | number hc _ => exact absurd hc (by decide)
  | negative h =>
    cases h' with
    | negative h' => exact (reads_unique h h').2
    | number hc _ => exact absurd hc (by decide)
  | number hc h =>
    cases h' with
    | number _ h' => exact (reads_unique h h').2
    | _ => exact absurd hc (by decide)

theorem not_passesScalar_opening (b : Bracket) : ¬ PassesScalar (b.opening :: s) t := by
  intro h
  cases b with
  | list =>
    cases h with
    | number hc _ => exact absurd hc (by decide)
  | object =>
    cases h with
    | number hc _ => exact absurd hc (by decide)

theorem Starts.unique {b : Bracket} {first : Bool} (h : Starts b first s t)
    (h' : Starts b first s u) : t = u := by
  cases h with
  | first h _ henter =>
    cases h' with
    | first h' _ henter' =>
      cases h.symm.trans h'
      exact (reads_unique henter henter').2
  | next h henter =>
    cases h' with
    | next h' henter' =>
      cases h.symm.trans h'
      exact (reads_unique henter henter').2

theorem Starts.ne_closing {b : Bracket} {first : Bool} (h : Starts b first s t) :
    skipLayout s ≠ b.closing :: u := by
  intro hs
  cases h with
  | first h hc _ =>
    cases h.symm.trans hs
    exact hc rfl
  | next h _ =>
    cases b with
    | list => cases h.symm.trans hs
    | object => cases h.symm.trans hs

/-- Where a value ends is determined. -/
theorem PassesValue.unique (h : PassesValue s t) (h' : PassesValue s u) : t = u := by
  -- Values and what stands inside their brackets have one end by one induction.
  refine @PassesValue.rec (fun s t _ ↦ ∀ u, PassesValue s u → t = u)
    (fun b first s t _ ↦ ∀ u, PassesInside b first s u → t = u)
    ?scalar ?bracketed ?close ?value s t h u h'
  case scalar =>
    intro s t h u h'
    cases h' with
    | scalar h' => exact h.unique h'
    | bracketed b hb _ =>
      rw [hb] at h
      exact absurd h (not_passesScalar_opening b)
  case bracketed =>
    intro s t rest b hb hinside ih u h'
    cases h' with
    | scalar h' =>
      rw [hb] at h'
      exact absurd h' (not_passesScalar_opening b)
    | bracketed b' hb' hinside' =>
      obtain ⟨hopening, rfl⟩ := List.cons.inj (hb.symm.trans hb')
      obtain rfl := Bracket.opening_injective hopening
      exact ih u hinside'
  case close =>
    intro b first s rest h u h'
    cases h' with
    | close h' => exact (List.cons.inj (h.symm.trans h')).2
    | value hstart _ _ => exact absurd h hstart.ne_closing
  case value =>
    intro b first s t v rest hstart hvalue hrest ihvalue ihrest u h'
    cases h' with
    | close h' => exact absurd h' hstart.ne_closing
    | value hstart' hvalue' hrest' =>
      obtain rfl := hstart.unique hstart'
      obtain rfl := ihvalue _ hvalue'
      exact ihrest u hrest'

theorem PassesField.unique (h : PassesField s t) (h' : PassesField s u) : t = u := by
  obtain ⟨v, hcolon, hvalue⟩ := h
  obtain ⟨v', hcolon', hvalue'⟩ := h'
  obtain ⟨-, rfl⟩ := reads_unique hcolon hcolon'
  exact hvalue.unique hvalue'

theorem AnotherKey.unique {first : Bool} (h : AnotherKey first s true t)
    (h' : AnotherKey first s true u) : t = u := by
  have ht := anotherKey_eq_ok_iff.mpr h
  exact (reads_unique ht (anotherKey_eq_ok_iff.mpr h')).2

/-! ## Members of objects -/

/-- The place of the value of the first member with this key, in an object from one of its members
on. -/
inductive MemberAt (key : String) : Bool → List Char → List Char → Prop
  | here {first : Bool} {s s' t place : List Char} (h : AnotherKey first s true ('"' :: s'))
      (hkey : string s' = .ok (key, t)) (hcolon : colon t = .ok ((), place)) :
      MemberAt key first s place
  | there {first : Bool} {s s' t u place : List Char} {other : String}
      (h : AnotherKey first s true ('"' :: s')) (hkey : string s' = .ok (other, t))
      (hne : other ≠ key) (hfield : PassesField t u) (hrest : MemberAt key false u place) :
      MemberAt key first s place

/-- The text holds an object with a string as its member of this key. -/
def HasString (text key w : String) : Prop :=
  ∃ s place t rest, skipLayout text.toList = '\x7b' :: s ∧ MemberAt key true s place ∧
    skipLayout place = '"' :: t ∧ string t = .ok (w, rest)

/-- Where the first member with a key stands is determined. -/
theorem MemberAt.unique {key : String} {first : Bool} (h : MemberAt key first s t)
    (h' : MemberAt key first s u) : t = u := by
  induction h with
  | here hmore hkey hcolon =>
    cases h' with
    | here hmore' hkey' hcolon' =>
      cases hmore.unique hmore'
      obtain ⟨-, rfl⟩ := reads_unique hkey hkey'
      exact (reads_unique hcolon hcolon').2
    | there hmore' hkey' hne _ _ =>
      cases hmore.unique hmore'
      exact absurd (reads_unique hkey' hkey).1 hne
  | there hmore hkey hne hfield _ ih =>
    cases h' with
    | here hmore' hkey' _ =>
      cases hmore.unique hmore'
      exact absurd (reads_unique hkey hkey').1 hne
    | there hmore' hkey' _ hfield' hrest' =>
      cases hmore.unique hmore'
      obtain ⟨-, rfl⟩ := reads_unique hkey hkey'
      obtain rfl := hfield.unique hfield'
      exact ih hrest'

theorem HasString.unique {text key w w' : String} (h : HasString text key w)
    (h' : HasString text key w') : w = w' := by
  obtain ⟨s, place, t, rest, hs, hplace, ht, hw⟩ := h
  obtain ⟨s', place', t', rest', hs', hplace', ht', hw'⟩ := h'
  cases hs.symm.trans hs'
  obtain rfl := hplace.unique hplace'
  cases ht.symm.trans ht'
  exact (reads_unique hw hw').1

end RecordFilter.Json.Reader
