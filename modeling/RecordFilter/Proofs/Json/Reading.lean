import RecordFilter.Json.Decode
import RecordFilter.Proofs.Outcome
import RecordFilter.Proofs.Text.Blank

/-!
# What the loops of a reader read

Lists and objects are read in loops with a bound.  `ReadsItems` and `ReadsMembers`
say what such a loop reads without the bound: item by item or member by member,
from a place in the text to the place behind the closing bracket.  The loops read
nothing else, and they read all of it as long as the text is longer than the list.
-/

namespace RecordFilter.Json.Reader

open Text (skipLayout)

variable {α β σ : Type} {s t rest : List Char}

/-! ## Steps one after the other -/

theorem reads_bind_iff {x : Reader α} {f : α → Reader β} {b : β} :
    (x >>= f) s = .ok (b, rest) ↔ ∃ a s', x s = .ok (a, s') ∧ f a s' = .ok (b, rest) :=
  bind_state_eq_ok_iff

theorem reads_pure_iff {a b : α} :
    (pure a : Reader α) s = .ok (b, rest) ↔ b = a ∧ rest = s := by
  constructor
  · intro h
    cases h
    exact ⟨rfl, rfl⟩
  · rintro ⟨rfl, rfl⟩
    rfl

theorem peek_of_skipLayout {c : Char} (h : skipLayout s = c :: t) :
    peek s = .ok (some c, c :: t) := by
  rw [peek, h]
  rfl

theorem exists_of_peek {c : Char} (h : peek s = .ok (some c, t)) :
    ∃ u, skipLayout s = c :: u ∧ t = c :: u := by
  cases hs : skipLayout s with
  | nil =>
    rw [peek, hs] at h
    cases h
  | cons d u =>
    rw [peek_of_skipLayout hs] at h
    cases h
    exact ⟨u, rfl, rfl⟩

theorem advance_bind (f : Unit → Reader β) (c : Char) (t : List Char) :
    (advance >>= f) (c :: t) = f () t := rfl

/-- What is read behind one character. -/
theorem exists_of_advance {x : Reader α} {f : α → β} {c : Char} {b : β}
    (h : (do advance; return f (← x)) (c :: t) = .ok (b, rest)) :
    ∃ a, x t = .ok (a, rest) ∧ b = f a := by
  rw [advance_bind] at h
  obtain ⟨a, _, ha, h⟩ := reads_bind_iff.mp h
  obtain ⟨rfl, rfl⟩ := reads_pure_iff.mp h
  exact ⟨a, ha, rfl⟩

theorem skipLayout_skipLayout (s : List Char) : skipLayout (skipLayout s) = skipLayout s := by
  cases h : skipLayout s with
  | nil => rfl
  | cons c t =>
    refine Text.skipLayout_cons_of_not (Text.eq_false_of_mem_head?_dropWhile (s := s) c ?_)
    rw [← skipLayout, h]
    rfl

/-! ## Lists -/

/-- What stands before an item of a list, or before its end. -/
inductive Another : Bool → List Char → Bool → List Char → Prop
  | close {first : Bool} {s t : List Char} (h : skipLayout s = ']' :: t) :
      Another first s false (']' :: t)
  | first {s t : List Char} {c : Char} (h : skipLayout s = c :: t) (hc : c ≠ ']') :
      Another true s true (c :: t)
  | next {s t u : List Char} {c : Char} (h : skipLayout s = ',' :: t) (h' : skipLayout t = c :: u)
      (hc : c ≠ ']') : Another false s true (c :: u)

theorem anotherItem_eq_ok_iff {first more : Bool} {s' : List Char} :
    anotherItem first s = .ok (more, s') ↔ Another first s more s' := by
  constructor
  · intro h
    obtain ⟨_, _, hpeek, h⟩ := reads_bind_iff.mp h
    split at h
    · obtain ⟨t, hs, rfl⟩ := exists_of_peek hpeek
      cases h
      exact .close hs
    · obtain ⟨t, hs, rfl⟩ := exists_of_peek hpeek
      cases first with
      | true =>
        cases h
        exact .first hs (by decide)
      | false =>
        obtain ⟨_, _, hadvance, h⟩ := reads_bind_iff.mp h
        cases hadvance
        obtain ⟨_, _, hpeek', h⟩ := reads_bind_iff.mp h
        split at h
        · cases h
        · next d hd =>
          obtain ⟨u, hu, rfl⟩ := exists_of_peek hpeek'
          cases h
          exact .next hs hu hd
        · cases h
    · next c hc _ =>
      obtain ⟨t, hs, rfl⟩ := exists_of_peek hpeek
      cases first with
      | true =>
        cases h
        exact .first hs hc
      | false => cases h
    · cases h
  · intro h
    cases h with
    | close h => exact reads_bind_iff.mpr ⟨_, _, peek_of_skipLayout h, rfl⟩
    | @first _ _ c h hc =>
      refine reads_bind_iff.mpr ⟨_, _, peek_of_skipLayout h, ?_⟩
      by_cases hcomma : c = ','
      · subst hcomma
        rfl
      · simp only
        rfl
    | @next _ _ _ c h h' hc =>
      refine reads_bind_iff.mpr ⟨_, _, peek_of_skipLayout h, ?_⟩
      refine reads_bind_iff.mpr ⟨_, _, rfl, ?_⟩
      refine reads_bind_iff.mpr ⟨_, _, peek_of_skipLayout h', ?_⟩
      simp only
      rfl

/-- What is read of a list from one of its items on, up to and with its closing bracket. -/
inductive ReadsItems (item : Reader α) : Bool → List Char → List α → List Char → Prop
  | close {first : Bool} {s rest : List Char} (h : skipLayout s = ']' :: rest) :
      ReadsItems item first s [] rest
  | item {first : Bool} {s s' t rest : List Char} {a : α} {as : List α}
      (h : Another first s true s') (hitem : item s' = .ok (a, t))
      (hrest : ReadsItems item false t as rest) : ReadsItems item first s (a :: as) rest

theorem Another.exists_close {first : Bool} {s' : List Char} (h : Another first s false s') :
    ∃ t, skipLayout s = ']' :: t ∧ s' = ']' :: t := by
  cases h with
  | close h => exact ⟨_, h, rfl⟩

theorem readsItems_of_itemsFrom {item : Reader α} {bound : List Char} {found as : List α}
    {s' : List Char} (h : itemsFrom item bound found s = .ok (as, s')) :
    ∃ bs rest, as = found.reverse ++ bs ∧ s' = ']' :: rest ∧
      ReadsItems item found.isEmpty s bs rest := by
  induction bound generalizing s found with
  | nil => cases h
  | cons b bound ih =>
    obtain ⟨more, t, hmore, h⟩ := reads_bind_iff.mp h
    rw [anotherItem_eq_ok_iff] at hmore
    cases more with
    | false =>
      obtain ⟨rfl, rfl⟩ := reads_pure_iff.mp h
      obtain ⟨rest, hs, rfl⟩ := hmore.exists_close
      exact ⟨[], rest, by simp, rfl, .close hs⟩
    | true =>
      obtain ⟨a, u, ha, h⟩ := reads_bind_iff.mp h
      obtain ⟨bs, rest, rfl, hrest, hreads⟩ := ih h
      exact ⟨a :: bs, rest, by simp, hrest, .item hmore ha hreads⟩

theorem itemsFrom_eq_ok {item : Reader α} {bound : List Char} {found as : List α}
    (h : ReadsItems item found.isEmpty s as rest) (hbound : as.length < bound.length) :
    itemsFrom item bound found s = .ok (found.reverse ++ as, ']' :: rest) := by
  induction bound generalizing s found as with
  | nil => cases hbound
  | cons b bound ih =>
    generalize hfirst : found.isEmpty = first at h
    cases h with
    | close hs =>
      refine reads_bind_iff.mpr ⟨false, _, anotherItem_eq_ok_iff.mpr (.close hs), ?_⟩
      rw [List.append_nil]
      rfl
    | @item _ _ t u _ a as hmore ha hreads =>
      rw [← hfirst] at hmore
      refine reads_bind_iff.mpr ⟨true, t, anotherItem_eq_ok_iff.mpr hmore, ?_⟩
      refine reads_bind_iff.mpr ⟨a, u, ha, ?_⟩
      have hrest : itemsFrom item bound (a :: found) u
          = .ok ((a :: found).reverse ++ as, ']' :: rest) :=
        ih hreads (Nat.lt_of_succ_lt_succ hbound)
      rwa [List.reverse_cons, List.append_assoc] at hrest

theorem readsItems_of_items {item : Reader α} {as : List α} (h : items item s = .ok (as, rest)) :
    ReadsItems item true s as rest := by
  obtain ⟨text, _, hget, h⟩ := reads_bind_iff.mp h
  cases hget
  obtain ⟨bs, t, hitems, h⟩ := reads_bind_iff.mp h
  obtain ⟨cs, rest', rfl, rfl, hreads⟩ := readsItems_of_itemsFrom hitems
  obtain ⟨_, _, hend, h⟩ := reads_bind_iff.mp h
  cases hend
  obtain ⟨rfl, rfl⟩ := reads_pure_iff.mp h
  exact hreads

theorem items_eq_ok {item : Reader α} {as : List α} (h : ReadsItems item true s as rest)
    (hlength : as.length < s.length) : items item s = .ok (as, rest) := by
  refine reads_bind_iff.mpr ⟨s, s, rfl, reads_bind_iff.mpr ⟨as, ']' :: rest, ?_, rfl⟩⟩
  exact itemsFrom_eq_ok h hlength

/-! ## Objects -/

/-- What stands before the key of a member of an object, or before its end. -/
inductive AnotherKey : Bool → List Char → Bool → List Char → Prop
  | close {first : Bool} {s t : List Char} (h : skipLayout s = '\x7d' :: t) :
      AnotherKey first s false ('\x7d' :: t)
  | first {s t : List Char} (h : skipLayout s = '"' :: t) : AnotherKey true s true ('"' :: t)
  | next {s t u : List Char} (h : skipLayout s = ',' :: t) (h' : skipLayout t = '"' :: u) :
      AnotherKey false s true ('"' :: u)

theorem anotherKey_eq_ok_iff {first more : Bool} {s' : List Char} :
    anotherKey first s = .ok (more, s') ↔ AnotherKey first s more s' := by
  constructor
  · intro h
    obtain ⟨_, _, hpeek, h⟩ := reads_bind_iff.mp h
    split at h
    · obtain ⟨t, hs, rfl⟩ := exists_of_peek hpeek
      cases h
      exact .close hs
    · obtain ⟨t, hs, rfl⟩ := exists_of_peek hpeek
      cases first with
      | true => cases h
      | false =>
        obtain ⟨_, _, hadvance, h⟩ := reads_bind_iff.mp h
        cases hadvance
        obtain ⟨_, _, hpeek', h⟩ := reads_bind_iff.mp h
        split at h
        · obtain ⟨u, hu, rfl⟩ := exists_of_peek hpeek'
          cases h
          exact .next hs hu
        · cases h
        · cases h
        · cases h
    · next c _ _ =>
      obtain ⟨t, hs, rfl⟩ := exists_of_peek hpeek
      cases first with
      | true =>
        by_cases hc : c = '"'
        · subst hc
          cases h
          exact .first hs
        · simp only [Bool.not_true, Bool.false_eq_true, if_false, hc] at h
          cases h
      | false => cases h
    · cases h
  · intro h
    cases h with
    | close h => exact reads_bind_iff.mpr ⟨_, _, peek_of_skipLayout h, rfl⟩
    | first h => exact reads_bind_iff.mpr ⟨_, _, peek_of_skipLayout h, rfl⟩
    | next h h' =>
      refine reads_bind_iff.mpr ⟨_, _, peek_of_skipLayout h, ?_⟩
      refine reads_bind_iff.mpr ⟨_, _, rfl, ?_⟩
      exact reads_bind_iff.mpr ⟨_, _, peek_of_skipLayout h', rfl⟩

theorem AnotherKey.exists_close {first : Bool} {s' : List Char} (h : AnotherKey first s false s') :
    ∃ t, skipLayout s = '\x7d' :: t ∧ s' = '\x7d' :: t := by
  cases h with
  | close h => exact ⟨_, h, rfl⟩

theorem AnotherKey.exists_quote {first : Bool} {s' : List Char} (h : AnotherKey first s true s') :
    ∃ t, s' = '"' :: t := by
  cases h with
  | first h => exact ⟨_, rfl⟩
  | next h h' => exact ⟨_, rfl⟩

/-- What is read of an object from one of its members on, up to and with its closing brace: the
keys, and what the members come to. -/
inductive ReadsMembers (member : σ → String → Reader σ) :
    Bool → List Char → σ → List String → σ → List Char → Prop
  | close {first : Bool} {s rest : List Char} {state : σ} (h : skipLayout s = '\x7d' :: rest) :
      ReadsMembers member first s state [] state rest
  | member {first : Bool} {s s' t u rest : List Char} {key : String} {keys : List String}
      {state state' final : σ} (h : AnotherKey first s true ('"' :: s'))
      (hkey : string s' = .ok (key, t)) (hmember : member state key t = .ok (state', u))
      (hrest : ReadsMembers member false u state' keys final rest) :
      ReadsMembers member first s state (key :: keys) final rest

theorem readsMembers_of_membersFrom {member : σ → String → Reader σ} {bound : List Char}
    {first : Bool} {state final : σ} {s' : List Char}
    (h : membersFrom member bound first state s = .ok (final, s')) :
    ∃ keys rest, s' = '\x7d' :: rest ∧ ReadsMembers member first s state keys final rest := by
  induction bound generalizing s first state with
  | nil => cases h
  | cons b bound ih =>
    obtain ⟨more, t, hmore, h⟩ := reads_bind_iff.mp h
    rw [anotherKey_eq_ok_iff] at hmore
    cases more with
    | false =>
      obtain ⟨rfl, rfl⟩ := reads_pure_iff.mp h
      obtain ⟨rest, hs, rfl⟩ := hmore.exists_close
      exact ⟨[], rest, rfl, .close hs⟩
    | true =>
      obtain ⟨t, rfl⟩ := hmore.exists_quote
      obtain ⟨_, _, hadvance, h⟩ := reads_bind_iff.mp h
      cases hadvance
      obtain ⟨key, u, hkey, h⟩ := reads_bind_iff.mp h
      obtain ⟨state', v, hmember, h⟩ := reads_bind_iff.mp h
      obtain ⟨keys, rest, hs', hreads⟩ := ih h
      exact ⟨key :: keys, rest, hs', .member hmore hkey hmember hreads⟩

theorem membersFrom_eq_ok {member : σ → String → Reader σ} {bound : List Char} {first : Bool}
    {keys : List String} {state final : σ}
    (h : ReadsMembers member first s state keys final rest) (hbound : keys.length < bound.length) :
    membersFrom member bound first state s = .ok (final, '\x7d' :: rest) := by
  induction bound generalizing s first state keys with
  | nil => cases hbound
  | cons b bound ih =>
    cases h with
    | close hs =>
      exact reads_bind_iff.mpr ⟨false, _, anotherKey_eq_ok_iff.mpr (.close hs), rfl⟩
    | @member _ _ s' t u _ key keys _ state' _ hmore hkey hmember hreads =>
      refine reads_bind_iff.mpr ⟨true, _, anotherKey_eq_ok_iff.mpr hmore, ?_⟩
      refine reads_bind_iff.mpr ⟨(), s', rfl, reads_bind_iff.mpr ⟨key, t, hkey, ?_⟩⟩
      refine reads_bind_iff.mpr ⟨state', u, hmember, ih hreads ?_⟩
      exact Nat.lt_of_succ_lt_succ hbound

theorem readsMembers_of_members {member : σ → String → Reader σ} {state final : σ}
    (h : members member state s = .ok (final, rest)) :
    ∃ keys, ReadsMembers member true s state keys final rest := by
  obtain ⟨text, _, hget, h⟩ := reads_bind_iff.mp h
  cases hget
  obtain ⟨state', t, hmembers, h⟩ := reads_bind_iff.mp h
  obtain ⟨keys, rest', rfl, hreads⟩ := readsMembers_of_membersFrom hmembers
  cases h
  exact ⟨keys, hreads⟩

theorem members_eq_ok {member : σ → String → Reader σ} {keys : List String} {state final : σ}
    (h : ReadsMembers member true s state keys final rest) (hlength : keys.length < s.length) :
    members member state s = .ok (final, rest) := by
  refine reads_bind_iff.mpr ⟨s, s, rfl, reads_bind_iff.mpr ⟨final, '\x7d' :: rest, ?_, rfl⟩⟩
  exact membersFrom_eq_ok h hlength

/-! ## Values -/

/-- What is read of a value that is no list and no object, from its first character on. -/
inductive ReadsScalar : List Char → Json → List Char → Prop
  | null {t rest : List Char} (h : wordRest "ull".toList t = .ok ((), rest)) :
      ReadsScalar ('n' :: t) .null rest
  | true {t rest : List Char} (h : wordRest "rue".toList t = .ok ((), rest)) :
      ReadsScalar ('t' :: t) (.bool true) rest
  | false {t rest : List Char} (h : wordRest "alse".toList t = .ok ((), rest)) :
      ReadsScalar ('f' :: t) (.bool false) rest
  | string {t rest : List Char} {w : String} (h : string t = .ok (w, rest)) :
      ReadsScalar ('"' :: t) (.string w) rest
  | negative {t rest : List Char} {n : JsonNumber} (h : number true t = .ok (n, rest)) :
      ReadsScalar ('-' :: t) (.number n) rest
  | number {c : Char} {t rest : List Char} {n : JsonNumber} (hc : c.isDigit = true)
      (h : number false (c :: t) = .ok (n, rest)) : ReadsScalar (c :: t) (.number n) rest

theorem valueBy_eq_ok {list object : Reader Json} {v : Json}
    (h : valueBy list object s = .ok (v, rest)) :
    (∃ t, skipLayout s = '[' :: t ∧ list ('[' :: t) = .ok (v, rest)) ∨
      (∃ t, skipLayout s = '\x7b' :: t ∧ object ('\x7b' :: t) = .ok (v, rest)) ∨
      ReadsScalar (skipLayout s) v rest := by
  obtain ⟨_, _, hpeek, h⟩ := reads_bind_iff.mp h
  split at h
  case h_9 => cases h
  all_goals obtain ⟨t, hs, rfl⟩ := exists_of_peek hpeek
  · exact .inl ⟨t, hs, h⟩
  · exact .inr (.inl ⟨t, hs, h⟩)
  all_goals
    refine .inr (.inr ?_)
    rw [hs]
  · obtain ⟨w, hw, rfl⟩ := exists_of_advance h
    exact .string hw
  · obtain ⟨_, hword, rfl⟩ := exists_of_advance (f := fun _ ↦ Json.null) h
    exact .null hword
  · obtain ⟨_, hword, rfl⟩ := exists_of_advance (f := fun _ ↦ Json.bool true) h
    exact .true hword
  · obtain ⟨_, hword, rfl⟩ := exists_of_advance (f := fun _ ↦ Json.bool false) h
    exact .false hword
  · obtain ⟨n, hn, rfl⟩ := exists_of_advance h
    exact .negative hn
  · next c _ _ _ _ _ _ _ =>
    by_cases hc : c.isDigit = true
    · rw [if_pos hc] at h
      obtain ⟨n, _, hn, h⟩ := reads_bind_iff.mp h
      obtain ⟨rfl, rfl⟩ := reads_pure_iff.mp h
      exact .number hc hn
    · rw [if_neg hc] at h
      cases h

/-! ## Whole texts -/

theorem endText_eq_ok_iff : endText s = .ok ((), rest) ↔ skipLayout s = [] ∧ rest = [] := by
  constructor
  · intro h
    obtain ⟨_, _, hpeek, h⟩ := reads_bind_iff.mp h
    cases hpeek
    cases hs : skipLayout s with
    | nil =>
      rw [hs] at h
      cases h
      exact ⟨rfl, rfl⟩
    | cons c t =>
      rw [hs] at h
      cases h
  · rintro ⟨hs, rfl⟩
    refine reads_bind_iff.mpr ⟨none, [], ?_, rfl⟩
    rw [peek, hs]
    rfl

/-- A text is read if a value stands at its front and nothing but layout behind it. -/
theorem readWith_eq_ok_iff {reader : Reader α} {text : String} {a : α} :
    readWith reader text = .ok a ↔ ∃ s, reader text.toList = .ok (a, s) ∧ skipLayout s = [] := by
  constructor
  · intro h
    simp only [readWith] at h
    split at h
    · next hwhole =>
      cases h
      obtain ⟨a, s, ha, h⟩ := reads_bind_iff.mp hwhole
      obtain ⟨_, _, hend, h⟩ := reads_bind_iff.mp h
      obtain ⟨rfl, rfl⟩ := reads_pure_iff.mp h
      exact ⟨s, ha, (endText_eq_ok_iff.mp hend).1⟩
    · cases h
  · rintro ⟨s, ha, hs⟩
    have hwhole : (do let a ← reader; endText; return a : Reader α) text.toList = .ok (a, []) := by
      refine reads_bind_iff.mpr ⟨a, s, ha, ?_⟩
      exact reads_bind_iff.mpr ⟨(), [], endText_eq_ok_iff.mpr ⟨hs, rfl⟩, rfl⟩
    simp only [readWith, hwhole]

end RecordFilter.Json.Reader
