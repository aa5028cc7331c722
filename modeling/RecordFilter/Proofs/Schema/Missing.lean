import RecordFilter.Proofs.Schema.Nesting

/-!
# The missing segment

The error of a path that names no property has a segment in it.  Registered paths are
compared character by character with the path up to a segment, and a point has to follow
where they go on; so it is decided whether the path leads on to a registered one
(`Schema.leadsOn_iff`).  The segments are gone through from the first one, and each is
told from the next by whether the path up to it still leads on (`missingFrom_drop`).

If all of them lead on, so does the whole path.  Since it has not been resolved, it is not
the path that it leads on to, which then has more segments.
-/

namespace RecordFilter

/-! ## Paths that lead on -/

/-- Whether two texts are the same, on request up to the case of ASCII letters. -/
def SameText (caseSensitive : Bool) (a b : String) : Prop :=
  if caseSensitive then a = b else Text.foldCase a = Text.foldCase b

/-- Whether a registered path begins with the given one and goes on with a new segment. -/
def GoesOn (caseSensitive : Bool) (path registered : String) : Prop :=
  ∃ front back, registered = front ++ "." ++ back ∧ SameText caseSensitive path front

theorem forall₂_sameChar_iff {caseSensitive : Bool} {as bs : List Char} :
    List.Forall₂ (fun a b ↦ sameChar caseSensitive a b = true) as bs ↔
      SameText caseSensitive (String.ofList as) (String.ofList bs) := by
  cases caseSensitive with
  | true =>
    simp only [sameChar, SameText, if_true, beq_iff_eq, List.forall₂_eq_eq_eq, String.ofList_inj]
  | false =>
    have hmap : List.Forall₂ (fun a b ↦ Char.toLower a = Char.toLower b) as bs ↔
        as.map Char.toLower = bs.map Char.toLower := by
      rw [← List.forall₂_eq_eq_eq, List.forall₂_map_left_iff, List.forall₂_map_right_iff]
    simp [sameChar, SameText, Text.foldCase, hmap, String.ofList_inj]

/-- The given path is matched by the start of the registered one, which ends there or goes on with
a point. -/
theorem leadsTo_eq_true_iff {same : Char → Char → Bool} {given registered : List Char} :
    leadsTo same given registered = true ↔
      ∃ front, List.Forall₂ (fun a b ↦ same a b = true) given front ∧
        (registered = front ∨ ∃ back, registered = front ++ '.' :: back) := by
  induction given generalizing registered with
  | nil =>
    simp only [List.forall₂_nil_left_iff, exists_eq_left, List.nil_append]
    cases registered with
    | nil => simp [leadsTo]
    | cons d registered => simp [leadsTo]
  | cons c given ih =>
    cases registered with
    | nil => simp [leadsTo, List.forall₂_cons_left_iff]
    | cons d registered =>
      simp only [leadsTo, Bool.and_eq_true, ih]
      constructor
      · rintro ⟨hd, front, hfront, hregistered⟩
        refine ⟨d :: front, .cons hd hfront, ?_⟩
        rcases hregistered with rfl | ⟨back, rfl⟩
        · exact .inl rfl
        · exact .inr ⟨back, rfl⟩
      · rintro ⟨_, hfront, hregistered⟩
        cases hfront with
        | @cons _ d' _ front hd hfront =>
          rcases hregistered with hregistered | ⟨back, hregistered⟩
          · obtain ⟨rfl, rfl⟩ := List.cons.inj hregistered
            exact ⟨hd, _, hfront, .inl rfl⟩
          · obtain ⟨rfl, rfl⟩ := List.cons.inj hregistered
            exact ⟨hd, _, hfront, .inr ⟨back, rfl⟩⟩

theorem leadsTo_sameChar_iff {caseSensitive : Bool} {path registered : String} :
    leadsTo (sameChar caseSensitive) path.toList registered.toList = true ↔
      SameText caseSensitive path registered ∨ GoesOn caseSensitive path registered := by
  simp only [leadsTo_eq_true_iff, forall₂_sameChar_iff, String.ofList_toList]
  constructor
  · rintro ⟨front, hsame, hfront | ⟨back, hback⟩⟩
    · left
      rwa [← hfront, String.ofList_toList] at hsame
    · right
      refine ⟨String.ofList front, String.ofList back, ?_, hsame⟩
      rw [← String.toList_inj, hback]
      simp
  · rintro (hsame | ⟨front, back, rfl, hsame⟩)
    · exact ⟨registered.toList, by rwa [String.ofList_toList], .inl rfl⟩
    · exact ⟨front.toList, by rwa [String.ofList_toList], .inr ⟨back.toList, by simp⟩⟩

/-! ## Segments that are missing -/

/-- The path up to a number of segments. -/
def Path.upTo (p : Path) (k : Nat) : String := ".".intercalate (p.segments.take k)

namespace Path

variable (p : Path)

theorem upTo_depth : p.upTo p.depth = p.text := by
  rw [upTo, depth, List.take_length, text]

theorem upTo_ne_empty {k : Nat} (hk : k ≠ 0) : p.upTo k ≠ "" := by
  have hne : p.segments.take k ≠ [] := by simp [hk, p.ne_nil]
  have htrimmed := (Path.mk (p.segments.take k) hne fun s hs ↦
    p.isSegment s (List.mem_of_mem_take hs)).isTrimmed_text
  intro hempty
  exact htrimmed.1 (String.toList_eq_nil_iff.mpr hempty)

/-- One more segment is added behind a point, unless it is the first. -/
theorem upTo_succ {k : Nat} (hk : k < p.segments.length) :
    p.upTo (k + 1)
      = if p.upTo k = "" then p.segments[k] else p.upTo k ++ "." ++ p.segments[k] := by
  rw [upTo, ← List.take_append_getElem hk]
  cases k with
  | zero => simp [upTo]
  | succ k =>
    rw [if_neg (p.upTo_ne_empty (Nat.succ_ne_zero k)), ← String.toList_inj,
      String.toList_intercalate, List.map_append]
    have hne : (p.segments.take (k + 1)).map String.toList ≠ [] := by simp [p.ne_nil]
    have h := intercalate_append hne (List.cons_ne_nil p.segments[k + 1].toList [])
    simpa [upTo, String.toList_intercalate] using h

end Path

namespace Schema

variable {ρ : Type} {s : Schema ρ} {caseSensitive : Bool}

/-- Whether a path is registered or goes on to one that is. -/
def LeadsOn (s : Schema ρ) (caseSensitive : Bool) (path : String) : Prop :=
  ∃ q ∈ s.paths, SameText caseSensitive path q ∨ GoesOn caseSensitive path q

theorem leadsOn_iff {path : String} :
    (s.paths.any fun q ↦ leadsTo (sameChar caseSensitive) path.toList q.toList) = true ↔
      s.LeadsOn caseSensitive path := by
  simp only [List.any_eq_true, leadsTo_sameChar_iff, LeadsOn]

/-- A segment is missing if the path up to it does not lead on; else the next ones are gone
through. -/
theorem missingFrom_drop (s : Schema ρ) (caseSensitive : Bool) {p : Path} {k : Nat}
    (hk : k < p.segments.length) :
    (¬s.LeadsOn caseSensitive (p.upTo (k + 1)) →
      s.missingFrom caseSensitive (p.upTo k) (p.segments.drop k) = some p.segments[k]) ∧
    (s.LeadsOn caseSensitive (p.upTo (k + 1)) →
      s.missingFrom caseSensitive (p.upTo k) (p.segments.drop k)
        = some ((s.missingFrom caseSensitive (p.upTo (k + 1)) (p.segments.drop (k + 1))).getD
            p.segments[k])) := by
  rw [List.drop_eq_getElem_cons hk, missingFrom, ← p.upTo_succ hk]
  constructor
  · intro hnot
    rw [if_neg (mt leadsOn_iff.mp hnot)]
  · intro hleads
    rw [if_pos (leadsOn_iff.mpr hleads)]

/-- From a number of segments on, the first one up to which the path does not lead on, or else the
last one. -/
inductive FirstMissing (s : Schema ρ) (caseSensitive : Bool) (p : Path) (k : Nat) : String → Prop
  | segment {j : Nat} (hj : j < p.segments.length) (hkj : k ≤ j)
      (hmissing : ¬s.LeadsOn caseSensitive (p.upTo (j + 1)))
      (hleast : ∀ i, k ≤ i → i < j → s.LeadsOn caseSensitive (p.upTo (i + 1))) :
      FirstMissing s caseSensitive p k p.segments[j]
  | last (hall : ∀ i, k ≤ i → i < p.segments.length → s.LeadsOn caseSensitive (p.upTo (i + 1))) :
      FirstMissing s caseSensitive p k (p.segments.getLast p.ne_nil)

/-- What is missing from the next segment on is so from this one on, if the path up to it leads
on. -/
theorem FirstMissing.of_succ {p : Path} {k : Nat} {segment : String}
    (hleads : s.LeadsOn caseSensitive (p.upTo (k + 1)))
    (h : s.FirstMissing caseSensitive p (k + 1) segment) :
    s.FirstMissing caseSensitive p k segment := by
  have hearlier : ∀ {P : Nat → Prop}, (∀ i, k + 1 ≤ i → P i → s.LeadsOn caseSensitive
      (p.upTo (i + 1))) → ∀ i, k ≤ i → P i → s.LeadsOn caseSensitive (p.upTo (i + 1)) := by
    intro P hlater i hi hP
    rcases Nat.eq_or_lt_of_le hi with rfl | hlt
    · exact hleads
    · exact hlater i hlt hP
  cases h with
  | segment hj hkj hmissing hleast =>
    exact .segment hj (Nat.le_of_succ_le hkj) hmissing (hearlier hleast)
  | last hall => exact .last (hearlier hall)

theorem exists_firstMissing (s : Schema ρ) (caseSensitive : Bool) (p : Path) {k : Nat}
    (hk : k < p.segments.length) :
    ∃ segment, s.missingFrom caseSensitive (p.upTo k) (p.segments.drop k) = some segment ∧
      s.FirstMissing caseSensitive p k segment := by
  induction hn : p.segments.length - k generalizing k with
  | zero => omega
  | succ n ih =>
    obtain ⟨hmissing, hleads⟩ := missingFrom_drop s caseSensitive hk
    by_cases hlead : s.LeadsOn caseSensitive (p.upTo (k + 1))
    · by_cases hnext : k + 1 < p.segments.length
      · obtain ⟨segment, hsegment, hfirst⟩ := ih hnext (by omega)
        refine ⟨segment, ?_, hfirst.of_succ hlead⟩
        rw [hleads hlead, hsegment, Option.getD_some]
      · obtain hlast : k = p.segments.length - 1 := by omega
        refine ⟨p.segments.getLast p.ne_nil, ?_, .last fun i hi hilength ↦ ?_⟩
        · rw [hleads hlead, List.drop_of_length_le (Nat.le_of_not_lt hnext), missingFrom,
            Option.getD_none, List.getLast_eq_getElem]
          simp only [hlast]
        · obtain rfl : k = i := by omega
          exact hlead
    · exact ⟨_, hmissing hlead, .segment hk (Nat.le_refl k) hlead fun i hi hik ↦ by omega⟩

/-- The error of a path that names nothing has the first segment up to which the path does not lead
on, if there is one.  If there is none, the whole path goes on to a registered one, and its last
segment is taken. -/
theorem resolve_eq_error {p : Path} {e : FilterError}
    (h : s.resolve caseSensitive p.text = .error e) :
    ∃ segment, e = .propertyNotFound s.name p.text segment none ∧
      ((∃ k, ∃ hk : k < p.segments.length, segment = p.segments[k] ∧
          ¬s.LeadsOn caseSensitive (p.upTo (k + 1)) ∧
          ∀ j < k, s.LeadsOn caseSensitive (p.upTo (j + 1))) ∨
        ((∀ k < p.segments.length, s.LeadsOn caseSensitive (p.upTo (k + 1))) ∧
          segment = p.segments.getLast p.ne_nil ∧
          ∃ q ∈ s.paths, GoesOn caseSensitive p.text q)) := by
  have hlength : 0 < p.segments.length := List.length_pos_of_ne_nil p.ne_nil
  obtain ⟨segment, hsegment, hfirst⟩ := exists_firstMissing s caseSensitive p hlength
  have hmissing : s.missingSegment caseSensitive p.text = segment := by
    have hpieces : (Text.pieces '.' p.text.toList).map (fun s ↦ String.ofList (Text.trim s))
        = p.segments := p.trimmedPieces_text
    rw [List.drop_zero] at hsegment
    rw [missingSegment, hpieces]
    exact congrArg (Option.getD · p.text) hsegment
  cases resolve_eq_iff.mp h with
  | missing hexact hfolded =>
    rw [p.trimString_text] at hexact hfolded ⊢
    refine ⟨segment, by rw [hmissing], ?_⟩
    cases hfirst with
    | @segment k hk _ hnot hleast =>
      exact .inl ⟨k, hk, rfl, hnot, fun j hj ↦ hleast j (Nat.zero_le j) hj⟩
    | last hall =>
      refine .inr ⟨fun k hk ↦ hall k (Nat.zero_le k) hk, rfl, ?_⟩
      obtain ⟨q, hq, hleads⟩ := hall (p.segments.length - 1) (Nat.zero_le _) (by omega)
      have hwhole : p.upTo (p.segments.length - 1 + 1) = p.text := by
        rw [Nat.sub_add_cancel hlength]
        exact p.upTo_depth
      rw [hwhole] at hleads
      refine ⟨q, hq, hleads.resolve_left fun hsame ↦ ?_⟩
      cases caseSensitive with
      | true =>
        have hpath : p.text = q := hsame
        rw [hpath] at hexact
        exact hexact hq
      | false => exact hfolded rfl q hq (Eq.symm hsame)

/-- Orders with the street and the name that they are sent to. -/
def order : Schema (String × String) :=
  .ofRegistrations "Order" [.scalar "Ship.Address.Street" Prod.fst, .scalar "Ship.Name" Prod.snd]

def townPath : Path := ⟨["Ship", "Town", "Street"], by decide, by decide⟩

/-- The town is missing, not the street in it. -/
theorem resolve_eq_error_town :
    order.resolve true townPath.text
        = .error (.propertyNotFound "Order" "Ship.Town.Street" "Town" none) ∧
      order.LeadsOn true "Ship" ∧ ¬order.LeadsOn true "Ship.Town" := by
  have herror : order.resolve true townPath.text
      = .error (.propertyNotFound "Order" "Ship.Town.Street" "Town" none) := rfl
  obtain ⟨segment, he, hsegment⟩ := resolve_eq_error herror
  obtain ⟨-, -, rfl, -⟩ := FilterError.propertyNotFound.inj he
  refine ⟨herror, ?_⟩
  rcases hsegment with ⟨k, hk, htown, hnot, hleast⟩ | ⟨-, hlast, -⟩
  · obtain rfl : k = 1 := by
      match k, hk, htown with
      | 1, _, _ => rfl
      | 0, _, hship => exact absurd (show "Town" = "Ship" from hship) (by decide)
      | 2, _, hstreet => exact absurd (show "Town" = "Street" from hstreet) (by decide)
    exact ⟨hleast 0 Nat.zero_lt_one, hnot⟩
  · exact absurd hlast (by decide)

end Schema

end RecordFilter
