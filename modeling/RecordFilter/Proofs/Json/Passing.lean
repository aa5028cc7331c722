import RecordFilter.Proofs.Json.Structures

/-!
# Values that are passed over

`PassesValue` says where a value ends by its form alone, bracket inside bracket.
What `skip` passes over with a stack of open brackets is such a value, and what any
of the readers reads is such a value too, whatever else it asks of it.
-/

namespace RecordFilter.Json

/-- The bracket that opens a list or an object. -/
def Bracket.opening : Bracket → Char
  | list => '['
  | object => '\x7b'

theorem Bracket.opening_injective {b b' : Bracket} (h : b.opening = b'.opening) : b = b' := by
  cases b <;> cases b' <;> first | rfl | cases h

namespace Reader

open Text (skipLayout)

variable {α σ : Type} {s t rest : List Char}

/-! ## Form of values -/

/-- What is passed over of a value that is no list and no object, from its first character on. -/
inductive PassesScalar : List Char → List Char → Prop
  | null {t rest : List Char} (h : wordRest "ull".toList t = .ok ((), rest)) :
      PassesScalar ('n' :: t) rest
  | true {t rest : List Char} (h : wordRest "rue".toList t = .ok ((), rest)) :
      PassesScalar ('t' :: t) rest
  | false {t rest : List Char} (h : wordRest "alse".toList t = .ok ((), rest)) :
      PassesScalar ('f' :: t) rest
  | string {t rest : List Char} (h : skipString t = .ok ((), rest)) : PassesScalar ('"' :: t) rest
  | negative {t rest : List Char} {n : NumberText}
      (h : numberText true .invalidNumber t = .ok (n, rest)) : PassesScalar ('-' :: t) rest
  | number {c : Char} {t rest : List Char} {n : NumberText} (hc : c.isDigit = true)
      (h : numberText false .invalidNumber (c :: t) = .ok (n, rest)) : PassesScalar (c :: t) rest

/-- What stands before a value inside a bracket: a comma unless it is the first, and in an object
a key. -/
inductive Starts (b : Bracket) : Bool → List Char → List Char → Prop
  | first {s t u : List Char} {c : Char} (h : skipLayout s = c :: u) (hc : c ≠ b.closing)
      (henter : enter b (c :: u) = .ok ((), t)) : Starts b true s t
  | next {s t u : List Char} (h : skipLayout s = ',' :: u) (henter : enter b u = .ok ((), t)) :
      Starts b false s t

mutual

/-- What is passed over of a value. -/
inductive PassesValue : List Char → List Char → Prop
  | scalar {s rest : List Char} (h : PassesScalar (skipLayout s) rest) : PassesValue s rest
  | bracketed {s t rest : List Char} (b : Bracket) (h : skipLayout s = b.opening :: t)
      (hinside : PassesInside b true t rest) : PassesValue s rest

/-- What is passed over inside a bracket, up to and with the closing one. -/
inductive PassesInside : Bracket → Bool → List Char → List Char → Prop
  | close {b : Bracket} {first : Bool} {s rest : List Char}
      (h : skipLayout s = b.closing :: rest) : PassesInside b first s rest
  | value {b : Bracket} {first : Bool} {s t u rest : List Char} (h : Starts b first s t)
      (hvalue : PassesValue t u) (hrest : PassesInside b false u rest) :
      PassesInside b first s rest

end

theorem PassesValue.of_skipLayout (h : PassesValue (skipLayout s) rest) : PassesValue s rest := by
  cases h with
  | scalar h =>
    rw [skipLayout_skipLayout] at h
    exact .scalar h
  | bracketed b h hinside =>
    rw [skipLayout_skipLayout] at h
    exact .bracketed b h hinside

/-! ## What is skipped -/

/-- What stands behind a value inside of so many brackets, the innermost first. -/
inductive Closes : List Bracket → List Char → List Char → Prop
  | nil {s : List Char} : Closes [] s s
  | cons {b : Bracket} {outer : List Bracket} {s t rest : List Char}
      (h : PassesInside b false s t) (hrest : Closes outer t rest) : Closes (b :: outer) s rest

/-- What stands where the skipping has come to: nothing more if no bracket is open, else a value
and what is behind it. -/
def Resumes : List Bracket → List Char → List Char → Prop
  | [], t, rest => t = rest
  | b :: outer, t, rest => ∃ u, PassesValue t u ∧ Closes (b :: outer) u rest

/-- Brackets are left one after the other, up to one in which a value follows. -/
theorem closes_of_leave {outer inner : List Bracket} (h : leave outer s = .ok (inner, t))
    (hresumes : Resumes inner t rest) : Closes outer s rest := by
  induction outer generalizing s with
  | nil =>
    obtain ⟨rfl, rfl⟩ := reads_pure_iff.mp h
    obtain rfl : t = rest := hresumes
    exact .nil
  | cons b outer ih =>
    obtain ⟨_, _, hpeek, h⟩ := reads_bind_iff.mp h
    split at h
    · obtain ⟨u, hs, rfl⟩ := exists_of_peek hpeek
      rw [advance_bind] at h
      obtain ⟨_, v, henter, h⟩ := reads_bind_iff.mp h
      obtain ⟨rfl, rfl⟩ := reads_pure_iff.mp h
      -- The value behind the comma belongs to `b`, as what stands behind that value does.
      obtain ⟨w, hvalue, hcloses⟩ := hresumes
      cases hcloses with
      | cons hinside hrest => exact .cons (.value (.next hs henter) hvalue hinside) hrest
    · obtain ⟨u, hs, rfl⟩ := exists_of_peek hpeek
      split at h
      · next hc =>
        rw [advance_bind] at h
        rw [hc] at hs
        exact .cons (.close hs) (ih h)
      · cases h
    · cases h

theorem passes_of_pastOpening {b : Bracket} {outer inner : List Bracket} {c : Char}
    (h : pastOpening b outer (c :: s) = .ok (inner, t)) (hresumes : Resumes inner t rest) :
    ∃ u, PassesInside b true s u ∧ Closes outer u rest := by
  obtain ⟨_, _, hadvance, h⟩ := reads_bind_iff.mp h
  cases hadvance
  obtain ⟨_, _, hpeek, h⟩ := reads_bind_iff.mp h
  split at h
  · obtain ⟨u, hs, rfl⟩ := exists_of_peek hpeek
    split at h
    · next hc =>
      rw [advance_bind] at h
      rw [hc] at hs
      exact ⟨u, .close hs, closes_of_leave h hresumes⟩
    · next hc =>
      obtain ⟨_, v, henter, h⟩ := reads_bind_iff.mp h
      obtain ⟨rfl, rfl⟩ := reads_pure_iff.mp h
      obtain ⟨w, hvalue, hcloses⟩ := hresumes
      cases hcloses with
      | cons hinside hrest => exact ⟨_, .value (.first hs hc henter) hvalue hinside, hrest⟩
  · cases h

/-- A scalar is passed over, and then the brackets that close behind it. -/
theorem exists_of_skip_leave {x : Reader Unit} {outer inner : List Bracket} {c : Char}
    (h : (do advance; x; leave outer) (c :: s) = .ok (inner, t)) :
    ∃ u, x s = .ok ((), u) ∧ leave outer u = .ok (inner, t) := by
  rw [advance_bind] at h
  obtain ⟨_, u, hx, h⟩ := reads_bind_iff.mp h
  exact ⟨u, hx, h⟩

/-- A round passes over a scalar or an opening bracket, and what stands from there on completes the
value. -/
theorem passes_of_skipStart {outer inner : List Bracket} (h : skipStart outer s = .ok (inner, t))
    (hresumes : Resumes inner t rest) : ∃ u, PassesValue s u ∧ Closes outer u rest := by
  have hscalar : ∀ u, PassesScalar (skipLayout s) u → leave outer u = .ok (inner, t) →
      ∃ u, PassesValue s u ∧ Closes outer u rest := fun u hu hleave ↦
    ⟨u, .scalar hu, closes_of_leave hleave hresumes⟩
  obtain ⟨_, _, hpeek, h⟩ := reads_bind_iff.mp h
  split at h
  case h_9 => cases h
  all_goals obtain ⟨u, hs, rfl⟩ := exists_of_peek hpeek
  · obtain ⟨v, hinside, hcloses⟩ := passes_of_pastOpening h hresumes
    exact ⟨v, .bracketed .list hs hinside, hcloses⟩
  · obtain ⟨v, hinside, hcloses⟩ := passes_of_pastOpening h hresumes
    exact ⟨v, .bracketed .object hs hinside, hcloses⟩
  all_goals rw [hs] at hscalar
  · obtain ⟨v, hv, h⟩ := exists_of_skip_leave h
    exact hscalar v (.string hv) h
  · obtain ⟨v, hv, h⟩ := exists_of_skip_leave h
    exact hscalar v (.null hv) h
  · obtain ⟨v, hv, h⟩ := exists_of_skip_leave h
    exact hscalar v (.true hv) h
  · obtain ⟨v, hv, h⟩ := exists_of_skip_leave h
    exact hscalar v (.false hv) h
  · obtain ⟨v, hv, h⟩ := exists_of_skip_leave h
    obtain ⟨n, hn⟩ := reads_discard_iff.mp hv
    exact hscalar v (.negative hn) h
  · split at h
    · next hc =>
      obtain ⟨_, v, hv, h⟩ := reads_bind_iff.mp h
      obtain ⟨n, hn⟩ := reads_discard_iff.mp hv
      exact hscalar v (.number hc hn) h
    · cases h

theorem passes_of_skipFrom {bound : List Char} {outer : List Bracket}
    (h : skipFrom bound outer s = .ok ((), rest)) : ∃ u, PassesValue s u ∧ Closes outer u rest := by
  induction bound generalizing s outer with
  | nil => cases h
  | cons b bound ih =>
    obtain ⟨inner, t, hstart, h⟩ := reads_bind_iff.mp h
    refine passes_of_skipStart hstart ?_
    cases inner with
    | nil => exact (reads_pure_iff.mp h).2.symm
    | cons b outer => exact ih h

/-- What `skip` passes over is a value. -/
theorem passes_of_skip (h : skip s = .ok ((), rest)) : PassesValue s rest := by
  obtain ⟨u, hvalue, hcloses⟩ := passes_of_skipFrom h
  cases hcloses
  exact hvalue

/-! ## Strings and numbers that are read -/

theorem length_le_of_hexNumber {n : Nat} (h : hexNumber s = .ok (n, rest)) :
    rest.length ≤ s.length := by
  unfold hexNumber at h
  split at h
  · cases h
  · split at h
    · cases h
      rw [List.length_drop]
      exact Nat.sub_le _ _
    · cases h

theorem pairMark_eq_ok {mark : Char} (h : pairMark mark s = .ok ((), rest)) :
    s = mark :: rest := by
  cases s with
  | nil => cases h
  | cons c s =>
    obtain ⟨_, _, htake, h⟩ := reads_bind_iff.mp h
    cases htake
    simp only at h
    split at h
    · next hc =>
      obtain ⟨-, rfl⟩ := reads_pure_iff.mp h
      rw [hc]
    · cases h

/-- The digits of an escape are read, and those of a second one if the two are a pair of
surrogates. -/
theorem hexEscape_eq_ok {c : Char} (h : hexEscape s = .ok (c, rest)) :
    ∃ n t, hexNumber s = .ok (n, t) ∧
      (rest = t ∨ ∃ m u, t = '\\' :: 'u' :: u ∧ hexNumber u = .ok (m, rest)) := by
  obtain ⟨n, t, hn, h⟩ := reads_bind_iff.mp h
  refine ⟨n, t, hn, ?_⟩
  split at h
  · cases h
  · split at h
    · obtain ⟨_, u, hslash, hpair⟩ := reads_bind_iff.mp h
      obtain ⟨_, v, hu, hsecond⟩ := reads_bind_iff.mp hpair
      obtain ⟨m, w, hm, hm'⟩ := reads_bind_iff.mp hsecond
      split at hm'
      · obtain ⟨-, rfl⟩ := reads_pure_iff.mp hm'
        rw [pairMark_eq_ok hu] at hslash
        exact .inr ⟨m, v, pairMark_eq_ok hslash, hm⟩
      · cases hm'
    · exact .inl (reads_pure_iff.mp h).2

theorem skipEscape_of_hexNumber {n : Nat} (h : hexNumber s = .ok (n, rest)) :
    skipEscape ('u' :: s) = .ok ((), rest) :=
  reads_bind_iff.mpr ⟨some 'u', s, rfl, reads_discard_iff.mpr ⟨n, h⟩⟩

theorem skipEscape_of_plainEscape? {c d : Char} (h : plainEscape? c = some d) (s : List Char) :
    skipEscape (c :: s) = .ok ((), s) := by
  refine reads_bind_iff.mpr ⟨some c, s, rfl, ?_⟩
  by_cases hc : c = 'u'
  · subst hc
    cases h
  · simp only [h]
    rfl

/-- An escape is passed over, or the first half of a pair of surrogates, whose second half is an
escape again. -/
theorem skipEscape_of_escape {c : Char} (h : escape s = .ok (c, rest)) :
    (skipEscape s = .ok ((), rest) ∧ rest.length < s.length) ∨
      ∃ t, skipEscape s = .ok ((), '\\' :: t) ∧ t.length < s.length ∧
        skipEscape t = .ok ((), rest) ∧ rest.length < t.length := by
  cases s with
  | nil => cases h
  | cons d s =>
    obtain ⟨_, _, htake, h⟩ := reads_bind_iff.mp h
    cases htake
    by_cases hd : d = 'u'
    · subst hd
      obtain ⟨n, t, hn, hrest⟩ := hexEscape_eq_ok h
      have hlength := length_le_of_hexNumber hn
      rcases hrest with rfl | ⟨m, u, rfl, hm⟩
      · exact .inl ⟨skipEscape_of_hexNumber hn, Nat.lt_succ_of_le hlength⟩
      · have hlength' := length_le_of_hexNumber hm
        refine .inr ⟨'u' :: u, skipEscape_of_hexNumber hn, ?_, skipEscape_of_hexNumber hm,
          Nat.lt_succ_of_le hlength'⟩
        exact Nat.lt_succ_of_lt hlength
    · simp only at h
      cases hplain : plainEscape? d with
      | none =>
        rw [hplain] at h
        cases h
      | some e =>
        rw [hplain] at h
        obtain ⟨-, rfl⟩ := reads_pure_iff.mp h
        exact .inl ⟨skipEscape_of_plainEscape? hplain _, Nat.lt_succ_self _⟩

/-- A string is passed over, a pair of surrogates in two rounds. -/
theorem skipStringFrom_of_stringFrom {bound bound' found : List Char} {w : String}
    (h : stringFrom bound found s = .ok (w, rest)) (hbound : s.length ≤ bound'.length) :
    skipStringFrom bound' s = .ok ((), rest) := by
  induction bound generalizing s bound' found with
  | nil => cases h
  | cons b bound ih =>
    cases s with
    | nil => cases h
    | cons c s =>
      cases bound' with
      | nil => cases hbound
      | cons b' bound' =>
        obtain ⟨_, _, htake, h⟩ := reads_bind_iff.mp h
        cases htake
        refine reads_bind_iff.mpr ⟨some c, s, rfl, ?_⟩
        have hs : s.length ≤ bound'.length := Nat.le_of_succ_le_succ hbound
        by_cases hquote : c = '"'
        · subst hquote
          obtain ⟨-, rfl⟩ := reads_pure_iff.mp h
          rfl
        · by_cases hslash : c = '\\'
          · subst hslash
            obtain ⟨d, t, hescape, h⟩ := reads_bind_iff.mp h
            rcases skipEscape_of_escape hescape with ⟨hskip, ht⟩ | ⟨u, hskip, hu, hskip', ht⟩
            · exact reads_bind_iff.mpr ⟨(), t, hskip, ih h (ht.le.trans hs)⟩
            · refine reads_bind_iff.mpr ⟨(), _, hskip, ?_⟩
              cases bound' with
              | nil => exact absurd (hu.trans_le hs) (Nat.not_lt_zero _)
              | cons b'' bound' =>
                refine reads_bind_iff.mpr ⟨some '\\', u, rfl, ?_⟩
                refine reads_bind_iff.mpr ⟨(), t, hskip', ih h ?_⟩
                rw [List.length_cons] at hs
                omega
          · simp only at h ⊢
            split at h
            · cases h
            · next hcontrol =>
              rw [if_neg hcontrol]
              exact ih h hs

theorem skipString_of_string {w : String} (h : string s = .ok (w, rest)) :
    skipString s = .ok ((), rest) :=
  skipStringFrom_of_stringFrom h (Nat.le_refl _)

theorem someDigits_of_ending {ending ending' : Cause} {ds : List Char}
    (h : someDigits ending s = .ok (ds, rest)) : someDigits ending' s = .ok (ds, rest) := by
  unfold someDigits at h ⊢
  split at h
  · cases h
  · exact h

theorem wholeDigits_of_ending {ending ending' : Cause} {ds : List Char}
    (h : wholeDigits ending s = .ok (ds, rest)) : wholeDigits ending' s = .ok (ds, rest) := by
  unfold wholeDigits at h ⊢
  split at h
  · cases h
  · cases h
  · exact h

theorem fractionDigits_of_ending {ending ending' : Cause} {ds : List Char}
    (h : fractionDigits ending s = .ok (ds, rest)) : fractionDigits ending' s = .ok (ds, rest) := by
  unfold fractionDigits at h ⊢
  split at h
  · exact someDigits_of_ending h
  · exact h

theorem exponentDigits?_of_ending {ending ending' : Cause} {e : Option (Bool × List Char)}
    (h : exponentDigits? ending s = .ok (e, rest)) : exponentDigits? ending' s = .ok (e, rest) := by
  unfold exponentDigits? at h ⊢
  split at h
  · exact h
  · next c t =>
    by_cases hmark : (c == 'e' || c == 'E') = true
    · rw [if_pos hmark] at h ⊢
      cases hds : someDigits ending (Number.takeSign t).2 with
      | error e =>
        simp only [hds] at h
        cases h
      | ok p =>
        simp only [hds] at h
        simp only [someDigits_of_ending hds]
        exact h
    · rw [if_neg hmark] at h ⊢
      exact h

/-- The form of a number does not depend on the fault of a text that ends in it. -/
theorem numberText_of_ending {negative : Bool} {ending ending' : Cause} {n : NumberText}
    (h : numberText negative ending s = .ok (n, rest)) :
    numberText negative ending' s = .ok (n, rest) := by
  obtain ⟨whole, t, hwhole, h⟩ := reads_bind_iff.mp h
  obtain ⟨fraction, u, hfraction, h⟩ := reads_bind_iff.mp h
  obtain ⟨exponent, v, hexponent, h⟩ := reads_bind_iff.mp h
  refine reads_bind_iff.mpr ⟨whole, t, wholeDigits_of_ending hwhole, ?_⟩
  refine reads_bind_iff.mpr ⟨fraction, u, fractionDigits_of_ending hfraction, ?_⟩
  exact reads_bind_iff.mpr ⟨exponent, v, exponentDigits?_of_ending hexponent, h⟩

/-- The value of a number takes nothing more off the text. -/
theorem NumberText.value_eq_ok {t : NumberText} {n : JsonNumber}
    (h : t.value s = .ok (n, rest)) : rest = s := by
  obtain ⟨negative, whole, fraction, exponent⟩ := t
  cases exponent with
  | none =>
    simp only [NumberText.value] at h
    split at h
    · exact (reads_pure_iff.mp h).2
    · generalize scaled? _ _ = product at h
      cases product with
      | none => cases h
      | some f => exact (reads_pure_iff.mp h).2
  | some e =>
    obtain ⟨sign, ds⟩ := e
    simp only [NumberText.value] at h
    generalize (if fraction.isEmpty = true then _ else _ : Significand) = significand at h
    cases hn : exponentOf 0 ds with
    | ok n =>
      simp only [hn] at h
      generalize scaled? _ _ = product at h
      cases product with
      | none => cases h
      | some f => exact (reads_pure_iff.mp h).2
    | error left =>
      simp only [hn] at h
      split at h
      · exact (reads_pure_iff.mp h).2
      · cases h

/-- A number is passed over by its form. -/
theorem numberText_of_number {negative : Bool} {n : JsonNumber}
    (h : number negative s = .ok (n, rest)) :
    ∃ t, numberText negative .invalidNumber s = .ok (t, rest) := by
  obtain ⟨t, u, ht, h⟩ := reads_bind_iff.mp h
  obtain rfl := NumberText.value_eq_ok h
  exact ⟨t, numberText_of_ending ht⟩

/-! ## Values that are read -/

theorem ReadsScalar.passes {v : Json} (h : ReadsScalar s v rest) : PassesScalar s rest := by
  cases h with
  | null h => exact .null h
  | true h => exact .true h
  | false h => exact .false h
  | string h => exact .string (skipString_of_string h)
  | negative h =>
    obtain ⟨t, ht⟩ := numberText_of_number h
    exact .negative ht
  | number hc h =>
    obtain ⟨t, ht⟩ := numberText_of_number h
    exact .number hc ht

theorem passes_of_readsScalar {v : Json} (h : ReadsScalar (skipLayout s) v rest) :
    PassesValue s rest :=
  .scalar h.passes

theorem passes_of_string {w : String} (h : skipLayout s = '"' :: t)
    (hstring : string t = .ok (w, rest)) : PassesValue s rest := by
  refine .scalar ?_
  rw [h]
  exact .string (skipString_of_string hstring)

/-- An item of a list is passed over, and then the rest of the list. -/
theorem PassesInside.item {first : Bool} {s' : List Char} (h : Another first s true s')
    (hitem : PassesValue s' t) (hrest : PassesInside .list false t rest) :
    PassesInside .list first s rest := by
  cases h with
  | first h hc => exact .value (.first h hc rfl) hitem hrest
  | next h h' _ =>
    refine .value (.next h rfl) (.of_skipLayout ?_) hrest
    rw [h']
    exact hitem

/-- The colon and the value of a member. -/
def PassesField (s rest : List Char) : Prop := ∃ t, colon s = .ok ((), t) ∧ PassesValue t rest

theorem skipKey_eq_ok {key : String} {u v : List Char} (h : skipLayout s = '"' :: t)
    (hkey : string t = .ok (key, u)) (hcolon : colon u = .ok ((), v)) :
    skipKey s = .ok ((), v) := by
  refine reads_bind_iff.mpr ⟨_, _, peek_of_skipLayout h, ?_⟩
  refine reads_bind_iff.mpr ⟨(), t, rfl, ?_⟩
  exact reads_bind_iff.mpr ⟨(), u, skipString_of_string hkey, hcolon⟩

/-- A member of an object is passed over, and then the rest of the object. -/
theorem PassesInside.member {first : Bool} {key : String} {s' u : List Char}
    (h : AnotherKey first s true ('"' :: s')) (hkey : string s' = .ok (key, t))
    (hfield : PassesField t u) (hrest : PassesInside .object false u rest) :
    PassesInside .object first s rest := by
  obtain ⟨v, hcolon, hvalue⟩ := hfield
  cases h with
  | first h =>
    have henter : skipKey ('"' :: s') = .ok ((), v) := skipKey_eq_ok rfl hkey hcolon
    exact .value (.first h (by decide) henter) hvalue hrest
  | next h h' => exact .value (.next h (skipKey_eq_ok h' hkey hcolon)) hvalue hrest

theorem ReadsItems.passes {item : Reader α} {first : Bool} {as : List α}
    (hitem : ∀ s a t, item s = .ok (a, t) → PassesValue s t)
    (h : ReadsItems item first s as rest) : PassesInside .list first s rest := by
  induction h with
  | close h => exact .close h
  | item h ha _ ih => exact .item h (hitem _ _ _ ha) ih

theorem ReadsMembers.passes {member : σ → String → Reader σ} {first : Bool} {state final : σ}
    {keys : List String}
    (hmember : ∀ state key s state' t, member state key s = .ok (state', t) → PassesField s t)
    (h : ReadsMembers member first s state keys final rest) :
    PassesInside .object first s rest := by
  induction h with
  | close h => exact .close h
  | member h hkey hm _ ih => exact .member h hkey (hmember _ _ _ _ _ hm) ih

theorem passes_of_readsName (h : ReadsName (skipLayout s) rest) : PassesValue s rest := by
  generalize hs : skipLayout s = u at h
  cases h with
  | string h => exact passes_of_string hs h
  | object hquote hkey hcolon hnull hbrace =>
    have hfield : PassesField _ _ := ⟨_, hcolon, passes_of_readsScalar hnull⟩
    exact .bracketed .object hs (.member (.first hquote) hkey hfield (.close hbrace))

theorem passes_of_skipField (h : skipField s = .ok ((), rest)) : PassesField s rest := by
  obtain ⟨_, t, hcolon, hskip⟩ := reads_bind_iff.mp h
  exact ⟨t, hcolon, passes_of_skip hskip⟩

/-- A value that is read is passed over. -/
theorem passes_of_value {n : Nat} {v : Json} (h : value n s = .ok (v, rest)) :
    PassesValue s rest := by
  induction n generalizing s v rest with
  | zero =>
    rcases valueBy_eq_ok h with ⟨t, -, h⟩ | ⟨t, -, h⟩ | h
    · cases h
    · cases h
    · exact passes_of_readsScalar h
  | succ n ih =>
    rcases valueBy_eq_ok h with ⟨t, hs, h⟩ | ⟨t, hs, h⟩ | h
    · obtain ⟨vs, hvs, -⟩ := exists_of_advance h
      exact .bracketed .list hs ((readsItems_of_items hvs).passes fun _ _ _ hv ↦ ih hv)
    · obtain ⟨ms, hms, -⟩ := exists_of_advance h
      obtain ⟨keys, hreads⟩ := readsMembers_of_members hms
      refine .bracketed .object hs (hreads.passes fun _ _ _ _ _ hm ↦ ?_)
      obtain ⟨_, u, hcolon, hm⟩ := reads_bind_iff.mp hm
      obtain ⟨v, w, hv, hm⟩ := reads_bind_iff.mp hm
      obtain ⟨-, rfl⟩ := reads_pure_iff.mp hm
      exact ⟨u, hcolon, ih hv⟩
    · exact passes_of_readsScalar h

end Reader

end RecordFilter.Json
