import Mathlib.Data.List.Forall2
import RecordFilter.Proofs.Json.Reading

/-!
# What is written is read back

A value is written without blanks, and what a reader takes off the front of a text
does not depend on what stands behind it.  So a list is read back when its items
are, and an object when its members are.  Strings are read back character by
character: an escape stands for the character that it was written for.
-/

namespace RecordFilter.Json

open Text (skipLayout)

variable {α σ : Type} {rest : List Char}

/-! ## Texts of lists and objects -/

/-- The texts of items or members, with commas between them. -/
def joined (texts : List (List Char)) : List Char := [','].intercalate texts

theorem joined_cons (w : List Char) (ws : List (List Char)) :
    joined (w :: ws) = w ++ ws.flatMap (',' :: ·) := by
  induction ws generalizing w with
  | nil => simp [joined]
  | cons w' ws ih =>
    have hstep : joined (w :: w' :: ws) = w ++ [','] ++ joined (w' :: ws) :=
      List.intercalate_cons_cons
    rw [hstep, ih, List.flatMap_cons]
    simp

theorem length_le_flatMap_comma (ws : List (List Char)) :
    ws.length ≤ (ws.flatMap (',' :: ·)).length := by
  induction ws with
  | nil => exact Nat.le_refl 0
  | cons w ws ih =>
    rw [List.flatMap_cons, List.length_append, List.length_cons, List.length_cons]
    omega

/-- Texts that are not empty have as many characters at least as there are texts. -/
theorem length_le_joined {ws : List (List Char)} (h : ∀ w ∈ ws, w ≠ []) :
    ws.length ≤ (joined ws).length := by
  cases ws with
  | nil => exact Nat.zero_le _
  | cons w ws =>
    have hw : 0 < w.length := List.length_pos_iff.mpr (h w List.mem_cons_self)
    have hws := length_le_flatMap_comma ws
    rw [joined_cons, List.length_append, List.length_cons]
    omega

/-- A member with its key. -/
def memberText (m : String × Json) : List Char :=
  (quote m.1).toList ++ ':' :: m.2.compact.toList

theorem compactItems_eq_map (vs : List Json) : compactItems vs = vs.map compact := by
  induction vs with
  | nil => rfl
  | cons v vs ih => rw [compactItems, ih, List.map_cons]

theorem compactMembers_eq_map (ms : List (String × Json)) :
    compactMembers ms = ms.map fun m ↦ String.ofList (memberText m) := by
  induction ms with
  | nil => rfl
  | cons m ms ih =>
    obtain ⟨k, v⟩ := m
    rw [compactMembers, ih, List.map_cons]
    simp [memberText, ← String.toList_inj]

theorem toList_compact_array (vs : List Json) :
    (array vs).compact.toList = '[' :: (joined (vs.map (·.compact.toList)) ++ [']']) := by
  simp [compact, compactItems_eq_map, String.toList_intercalate, Function.comp_def, joined]

theorem toList_compact_object (ms : List (String × Json)) :
    (object ms).compact.toList = '\x7b' :: (joined (ms.map memberText) ++ ['\x7d']) := by
  simp [compact, compactMembers_eq_map, String.toList_intercalate, Function.comp_def, joined]

namespace Reader

/-! ## Strings -/

/-- The digits of a control character, and their value. -/
theorem hexDigits_spec : ∀ n < 0x20, (hexDigits n).length = 4 ∧ Text.byteLength (hexDigits n) = 4 ∧
    ((hexDigits n).mapM hexValue?).map (List.foldl (fun n d ↦ 16 * n + d) 0) = some n := by
  decide

theorem hexNumber_hexDigits {n : Nat} (hn : n < 0x20) (s : List Char) :
    hexNumber (hexDigits n ++ s) = .ok (n, s) := by
  obtain ⟨hlength, hbytes, hvalue⟩ := hexDigits_spec n hn
  obtain ⟨ds, hds, hn⟩ := Option.map_eq_some_iff.mp hvalue
  rw [hexNumber, List.take_left' hlength, List.drop_left' hlength, hbytes, hds, ← hn]
  rfl

/-- A character is written as it is, or as an escape that stands for it. -/
theorem escapeChar_cases (c : Char) :
    (escapeChar c = [c] ∧ c ≠ '"' ∧ c ≠ '\\' ∧ 0x20 ≤ c.toNat) ∨
      ∃ e, escapeChar c = '\\' :: e ∧ ∀ s, escape (e ++ s) = .ok (c, s) := by
  unfold escapeChar
  split
  case h_8 hquote hbackslash _ _ _ _ _ =>
    split
    · next hcontrol =>
      refine .inr ⟨_, rfl, fun s ↦ ?_⟩
      refine reads_bind_iff.mpr ⟨_, _, rfl, ?_⟩
      refine reads_bind_iff.mpr ⟨_, _, hexNumber_hexDigits hcontrol s, ?_⟩
      have htrail : isTrailSurrogate c.toNat = false := by
        simp only [isTrailSurrogate, Bool.and_eq_false_iff, decide_eq_false_iff_not]
        omega
      have hlead : isLeadSurrogate c.toNat = false := by
        simp only [isLeadSurrogate, Bool.and_eq_false_iff, decide_eq_false_iff_not]
        omega
      rw [htrail, hlead]
      simp only [Bool.false_eq_true, if_false, Char.ofNat_toNat]
      rfl
    · next hcontrol => exact .inl ⟨rfl, hquote, hbackslash, Nat.le_of_not_lt hcontrol⟩
  all_goals exact .inr ⟨_, rfl, fun s ↦ rfl⟩

theorem stringFrom_escaped {w bound found : List Char} (hbound : w.length < bound.length) :
    stringFrom bound found (w.flatMap escapeChar ++ '"' :: rest)
      = .ok (String.ofList (found.reverse ++ w), rest) := by
  induction w generalizing bound found with
  | nil =>
    obtain ⟨b, bound, rfl⟩ := List.exists_cons_of_length_pos hbound
    rw [List.append_nil]
    rfl
  | cons c w ih =>
    obtain ⟨b, bound, rfl⟩ := List.exists_cons_of_length_pos (Nat.zero_lt_of_lt hbound)
    have hrest : stringFrom bound (c :: found) (w.flatMap escapeChar ++ '"' :: rest)
        = .ok (String.ofList ((c :: found).reverse ++ w), rest) :=
      ih (Nat.lt_of_succ_lt_succ hbound)
    rw [List.reverse_cons, List.append_assoc] at hrest
    rcases escapeChar_cases c with ⟨hself, hquote, hbackslash, hcontrol⟩ | ⟨e, he, hescape⟩
    · rw [List.flatMap_cons, hself]
      refine reads_bind_iff.mpr ⟨some c, _, rfl, ?_⟩
      simp only [Nat.not_lt_of_le hcontrol, if_false]
      exact hrest
    · rw [List.flatMap_cons, he, List.append_assoc, List.cons_append]
      refine reads_bind_iff.mpr ⟨some '\\', _, rfl, ?_⟩
      exact reads_bind_iff.mpr ⟨c, _, hescape _, hrest⟩

theorem length_le_escaped (w : List Char) : w.length ≤ (w.flatMap escapeChar).length := by
  induction w with
  | nil => exact Nat.le_refl 0
  | cons c w ih =>
    have hc : 0 < (escapeChar c).length := by
      rcases escapeChar_cases c with ⟨hself, -⟩ | ⟨e, he, -⟩
      · rw [hself]
        exact Nat.zero_lt_one
      · rw [he]
        exact Nat.zero_lt_succ _
    rw [List.flatMap_cons, List.length_append, List.length_cons]
    omega

/-- A quoted string is read back. -/
theorem exists_string_quote (w : String) (rest : List Char) :
    ∃ t, (quote w).toList ++ rest = '"' :: t ∧ string t = .ok (w, rest) := by
  refine ⟨w.toList.flatMap escapeChar ++ '"' :: rest, by simp [quote], ?_⟩
  have hbound : w.toList.length < (w.toList.flatMap escapeChar ++ '"' :: rest).length := by
    have hle := length_le_escaped w.toList
    rw [List.length_append, List.length_cons]
    omega
  rw [string, stringFrom_escaped hbound]
  simp

theorem text_quote (expected w : String) (rest : List Char) :
    text expected ((quote w).toList ++ rest) = .ok (w, rest) := by
  obtain ⟨t, ht, hstring⟩ := exists_string_quote w rest
  rw [ht]
  exact reads_bind_iff.mpr ⟨_, _, peek_of_skipLayout rfl, reads_bind_iff.mpr ⟨_, _, rfl, hstring⟩⟩

/-- The name of an item is read back as the item. -/
theorem oneOf_quote {all : List α} {name : α → String} {a : α}
    (h : all.find? (name · == name a) = some a) (depth : Nat) (rest : List Char) :
    oneOf all name depth ((quote (name a)).toList ++ rest) = .ok (a, rest) := by
  obtain ⟨t, ht, hstring⟩ := exists_string_quote (name a) rest
  have htext := text_quote "a string" (name a) rest
  rw [ht] at htext ⊢
  refine reads_bind_iff.mpr ⟨_, _, peek_of_skipLayout rfl, ?_⟩
  refine reads_bind_iff.mpr ⟨_, _, htext, ?_⟩
  rw [named, h]
  rfl

/-! ## Lists and objects -/

/-- Whether a reader reads a value back from its text, whatever stands behind it. -/
def ReadsBack (reader : Reader α) (v : Json) (a : α) : Prop :=
  ∀ rest, reader (v.compact.toList ++ rest) = .ok (a, rest)

theorem readsItems_of_readsBack {item : Reader α} {vs : List Json} {as : List α}
    (h : List.Forall₂ (ReadsBack item) vs as) (hobject : ∀ v ∈ vs, ∃ ms, v = object ms)
    (rest : List Char) :
    ReadsItems item false ((vs.map (·.compact.toList)).flatMap (',' :: ·) ++ ']' :: rest) as
      rest := by
  induction h with
  | nil => exact .close rfl
  | @cons v a vs as hv _ ih =>
    obtain ⟨⟨ms, rfl⟩, hobjects⟩ := List.forall_mem_cons.mp hobject
    have hitem := hv ((vs.map (·.compact.toList)).flatMap (',' :: ·) ++ ']' :: rest)
    rw [toList_compact_object] at hitem
    rw [List.map_cons, List.flatMap_cons, toList_compact_object, List.append_assoc]
    exact .item (.next rfl rfl (by decide)) hitem (ih hobjects)

/-- A list of objects is read back item by item. -/
theorem items_eq_ok_of_readsBack {item : Reader α} {vs : List Json} {as : List α}
    (h : List.Forall₂ (ReadsBack item) vs as) (hobject : ∀ v ∈ vs, ∃ ms, v = object ms)
    (rest : List Char) :
    items item (joined (vs.map (·.compact.toList)) ++ ']' :: rest) = .ok (as, rest) := by
  have hne : ∀ w ∈ vs.map (·.compact.toList), w ≠ [] := by
    intro w hw
    obtain ⟨v, hv, rfl⟩ := List.mem_map.mp hw
    obtain ⟨ms, rfl⟩ := hobject v hv
    simp [toList_compact_object]
  have hlength : as.length < (joined (vs.map (·.compact.toList)) ++ ']' :: rest).length := by
    have hle := length_le_joined hne
    rw [List.length_map, h.length_eq] at hle
    rw [List.length_append, List.length_cons]
    omega
  refine items_eq_ok ?_ hlength
  cases h with
  | nil => exact .close rfl
  | @cons v a vs as hv hvs =>
    obtain ⟨⟨ms, rfl⟩, hobjects⟩ := List.forall_mem_cons.mp hobject
    have hitem := hv ((vs.map (·.compact.toList)).flatMap (',' :: ·) ++ ']' :: rest)
    rw [toList_compact_object] at hitem
    rw [List.map_cons, joined_cons, toList_compact_object, List.append_assoc]
    exact .item (.first rfl (by decide)) hitem (readsItems_of_readsBack hvs hobjects rest)

/-- Whether the members of an object are read back one after the other, from state to state. -/
inductive ReadsBackMembers (member : σ → String → Reader σ) :
    σ → List (String × Json) → σ → Prop
  | nil {state : σ} : ReadsBackMembers member state [] state
  | cons {state state' final : σ} {key : String} {v : Json} {ms : List (String × Json)}
      (h : ∀ rest, member state key (':' :: (v.compact.toList ++ rest)) = .ok (state', rest))
      (hrest : ReadsBackMembers member state' ms final) :
      ReadsBackMembers member state ((key, v) :: ms) final

/-- The text of a member is read as its key and what stands behind. -/
theorem exists_memberText_append (m : String × Json) (s : List Char) :
    ∃ t, memberText m ++ s = '"' :: t ∧ string t = .ok (m.1, ':' :: (m.2.compact.toList ++ s)) := by
  obtain ⟨t, ht, hkey⟩ := exists_string_quote m.1 (':' :: (m.2.compact.toList ++ s))
  refine ⟨t, ?_, hkey⟩
  rw [memberText, List.append_assoc, List.cons_append, ht]

theorem readsMembers_of_readsBack {member : σ → String → Reader σ} {state final : σ}
    {ms : List (String × Json)} (h : ReadsBackMembers member state ms final) (rest : List Char) :
    ReadsMembers member false ((ms.map memberText).flatMap (',' :: ·) ++ '\x7d' :: rest) state
      (ms.map Prod.fst) final rest := by
  induction h with
  | nil => exact .close rfl
  | @cons state state' final key v ms hmember _ ih =>
    obtain ⟨t, ht, hkey⟩ := exists_memberText_append (key, v)
      ((ms.map memberText).flatMap (',' :: ·) ++ '\x7d' :: rest)
    rw [List.map_cons, List.flatMap_cons, List.append_assoc, List.cons_append, ht]
    exact .member (.next rfl rfl) hkey (hmember _) ih

/-- An object is read back member by member. -/
theorem members_eq_ok_of_readsBack {member : σ → String → Reader σ} {state final : σ}
    {ms : List (String × Json)} (h : ReadsBackMembers member state ms final) (rest : List Char) :
    members member state (joined (ms.map memberText) ++ '\x7d' :: rest) = .ok (final, rest) := by
  have hne : ∀ w ∈ ms.map memberText, w ≠ [] := by
    intro w hw
    obtain ⟨m, -, rfl⟩ := List.mem_map.mp hw
    simp [memberText]
  have hlength : (ms.map Prod.fst).length
      < (joined (ms.map memberText) ++ '\x7d' :: rest).length := by
    have hle := length_le_joined hne
    rw [List.length_map] at hle
    rw [List.length_append, List.length_cons, List.length_map]
    omega
  refine members_eq_ok ?_ hlength
  cases h with
  | nil => exact .close rfl
  | @cons _ state' _ key v ms hmember hms =>
    obtain ⟨t, ht, hkey⟩ := exists_memberText_append (key, v)
      ((ms.map memberText).flatMap (',' :: ·) ++ '\x7d' :: rest)
    rw [List.map_cons, joined_cons, List.append_assoc, ht]
    exact .member (.first rfl) hkey (hmember _) (readsMembers_of_readsBack hms rest)

end Reader

end RecordFilter.Json
