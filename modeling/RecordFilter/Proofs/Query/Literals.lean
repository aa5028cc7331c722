import Mathlib.Tactic.SplitIfs
import RecordFilter.Proofs.Query.Fields

/-!
# The grammar of bare literals

`IsNumeral` says what a number looks like: an optional sign, digits, an optional
fraction and an optional exponent.  The test for numbers decides it
(`isNumber_iff`).  Keywords and numbers are written with letters, digits, points
and signs only; a bare literal with any other character in it is a text.
-/

namespace RecordFilter.Literal

open RecordFilter.Number

/-! ## Numerals -/

/-- A sign or nothing. -/
def IsSign (s : List Char) : Prop := s = [] ∨ s = ['+'] ∨ s = ['-']

/-- One or more ASCII digits. -/
def IsDigits (s : List Char) : Prop := s ≠ [] ∧ ∀ c ∈ s, c.isDigit = true

/-- A point with digits behind it, or nothing. -/
def IsFraction (s : List Char) : Prop := s = [] ∨ ∃ ds, IsDigits ds ∧ s = '.' :: ds

/-- The letter E with a signed run of digits behind it, or nothing. -/
def IsExponent (s : List Char) : Prop :=
  s = [] ∨ ∃ e sign ds, (e = 'e' ∨ e = 'E') ∧ IsSign sign ∧ IsDigits ds ∧ s = e :: (sign ++ ds)

/-- The lexeme of a number. -/
def IsNumeral (s : List Char) : Prop :=
  ∃ sign whole fraction exponent, IsSign sign ∧ IsDigits whole ∧ IsFraction fraction ∧
    IsExponent exponent ∧ s = sign ++ (whole ++ (fraction ++ exponent))

theorem isDigits_iff {s : List Char} : isDigits s = true ↔ IsDigits s := by
  simp [isDigits, IsDigits]

theorem exists_takeSign (s : List Char) : ∃ sign, IsSign sign ∧ s = sign ++ (takeSign s).2 := by
  unfold takeSign
  split
  · exact ⟨['-'], .inr (.inr rfl), rfl⟩
  · exact ⟨['+'], .inr (.inl rfl), rfl⟩
  · exact ⟨[], .inl rfl, rfl⟩

/-- Before a digit, exactly the sign is taken. -/
theorem takeSign_append {sign s : List Char} {c : Char} (hsign : IsSign sign)
    (hc : c.isDigit = true) : (takeSign (sign ++ c :: s)).2 = c :: s := by
  rcases hsign with rfl | rfl | rfl
  · have hminus : c ≠ '-' := by
      rintro rfl
      cases hc
    have hplus : c ≠ '+' := by
      rintro rfl
      cases hc
    simp [takeSign, hminus, hplus]
  · rfl
  · rfl

theorem takeDigits_append_of_isDigits {ds s : List Char} (hds : IsDigits ds)
    (hs : ∀ c ∈ s.head?, c.isDigit = false) : takeDigits (ds ++ s) = (ds, s) := by
  obtain ⟨htake, hdrop⟩ := Text.takeWhile_dropWhile_append hds.2 hs
  rw [takeDigits, htake, hdrop]

theorem isDigit_of_mem_takeDigits {s : List Char} : ∀ c ∈ (takeDigits s).1, c.isDigit = true :=
  fun _ hc ↦ List.mem_takeWhile_imp hc

theorem isExponent_iff {s : List Char} : isExponent s = true ↔ IsExponent s := by
  cases s with
  | nil => simp [isExponent, IsExponent]
  | cons e s =>
    simp only [isExponent, Bool.and_eq_true, Bool.or_eq_true, beq_iff_eq, isDigits_iff]
    constructor
    · rintro ⟨he, hds⟩
      obtain ⟨sign, hsign, hs⟩ := exists_takeSign s
      exact .inr ⟨e, sign, (takeSign s).2, he, hsign, hds, by rw [← hs]⟩
    · rintro (h | ⟨e', sign, ds, he, hsign, hds, heq⟩)
      · cases h
      · obtain ⟨rfl, rfl⟩ := List.cons.inj heq
        obtain ⟨c, ds, rfl⟩ := List.exists_cons_of_ne_nil hds.1
        rw [takeSign_append hsign (hds.2 c (by simp))]
        exact ⟨he, hds⟩

/-- Neither an exponent nor a fraction can be taken for more digits. -/
theorem isDigit_head?_of_isExponent {s : List Char} (h : IsExponent s) :
    ∀ c ∈ s.head?, c.isDigit = false := by
  rintro c hc
  rcases h with rfl | ⟨e, sign, ds, he | he, -, -, rfl⟩
  · cases hc
  · cases hc
    rw [he]
    rfl
  · cases hc
    rw [he]
    rfl

theorem isFraction_iff {s : List Char} :
    isFraction s = true ↔
      ∃ fraction exponent, IsFraction fraction ∧ IsExponent exponent ∧
        s = fraction ++ exponent := by
  constructor
  · intro h
    unfold isFraction at h
    split at h
    · next s =>
      rw [Bool.and_eq_true] at h
      refine ⟨'.' :: (takeDigits s).1, (takeDigits s).2, .inr ⟨_, ⟨?_, ?_⟩, rfl⟩, ?_, ?_⟩
      · simpa using h.1
      · exact isDigit_of_mem_takeDigits
      · exact isExponent_iff.mp h.2
      · rw [List.cons_append, takeDigits_append]
    · exact ⟨[], s, .inl rfl, isExponent_iff.mp h, rfl⟩
  · rintro ⟨fraction, exponent, rfl | ⟨ds, hds, rfl⟩, hexponent, rfl⟩
    · show isFraction s = true
      unfold isFraction
      split
      · next s =>
        obtain h | ⟨e, sign, ds, he, -, -, h⟩ := hexponent
        · cases h
        · rcases he with rfl | rfl <;> simp at h
      · exact isExponent_iff.mpr hexponent
    · have htake := takeDigits_append_of_isDigits hds (isDigit_head?_of_isExponent hexponent)
      rw [List.cons_append, isFraction, htake, Bool.and_eq_true]
      exact ⟨by simpa using hds.1, isExponent_iff.mpr hexponent⟩

/-- The test for numbers accepts exactly the numerals. -/
theorem isNumber_iff {s : List Char} : isNumber s = true ↔ IsNumeral s := by
  simp only [isNumber, Bool.and_eq_true]
  constructor
  · rintro ⟨hwhole, hrest⟩
    obtain ⟨sign, hsign, hs⟩ := exists_takeSign s
    obtain ⟨fraction, exponent, hfraction, hexponent, heq⟩ := isFraction_iff.mp hrest
    refine ⟨sign, (takeDigits (takeSign s).2).1, fraction, exponent, hsign,
      ⟨?_, isDigit_of_mem_takeDigits⟩, hfraction, hexponent, ?_⟩
    · simpa using hwhole
    · rw [← heq, takeDigits_append, ← hs]
  · rintro ⟨sign, whole, fraction, exponent, hsign, hwhole, hfraction, hexponent, rfl⟩
    obtain ⟨c, ds, hc⟩ := List.exists_cons_of_ne_nil hwhole.1
    have hdigit : c.isDigit = true := hwhole.2 c (by simp [hc])
    have hstop : ∀ d ∈ (fraction ++ exponent).head?, d.isDigit = false := by
      rcases hfraction with rfl | ⟨ds', -, rfl⟩
      · exact isDigit_head?_of_isExponent hexponent
      · rintro d hd
        cases hd
        rfl
    have hsigned : (takeSign (sign ++ (whole ++ (fraction ++ exponent)))).2
        = whole ++ (fraction ++ exponent) := by
      rw [hc]
      exact takeSign_append hsign hdigit
    rw [hsigned, takeDigits_append_of_isDigits hwhole hstop]
    exact ⟨by simpa using hwhole.1, isFraction_iff.mpr ⟨_, _, hfraction, hexponent, rfl⟩⟩

/-! ## Classes of literals -/

/-- The characters of keywords and numbers. -/
def IsLexemeChar (c : Char) : Prop := c.isAlphanum = true ∨ c = '.' ∨ c = '+' ∨ c = '-'

instance (c : Char) : Decidable (IsLexemeChar c) :=
  inferInstanceAs (Decidable (_ ∨ _ ∨ _ ∨ _))

theorem IsLexemeChar.ne {c d : Char} (h : IsLexemeChar c) (hd : ¬IsLexemeChar d) : c ≠ d := by
  rintro rfl
  exact hd h

theorem IsLexemeChar.isBlank {c : Char} (h : IsLexemeChar c) : Text.isBlank c = false := by
  rcases h with h | rfl | rfl | rfl
  · exact Clause.isBlank_of_isFieldChar (Clause.isFieldChar_of_isAlphanum h)
  · rfl
  · rfl
  · rfl

theorem IsLexemeChar.isQuote {c : Char} (h : IsLexemeChar c) : Text.Quoted.isQuote c = false := by
  have hdouble : c ≠ '"' := h.ne (by decide)
  have hsingle : c ≠ '\'' := h.ne (by decide)
  simp [Text.Quoted.isQuote, hdouble, hsingle]

theorem isLexemeChar_of_isAlpha {c : Char} (h : c.isAlpha = true) : IsLexemeChar c :=
  .inl (by simp [Char.isAlphanum, h])

theorem isLexemeChar_of_isDigit {c : Char} (h : c.isDigit = true) : IsLexemeChar c :=
  .inl (by simp [Char.isAlphanum, h])

theorem isLexemeChar_of_isSign {s : List Char} (h : IsSign s) : ∀ c ∈ s, IsLexemeChar c := by
  intro c hc
  rcases h with rfl | rfl | rfl
  · cases hc
  · rw [List.mem_singleton.mp hc]
    exact .inr (.inr (.inl rfl))
  · rw [List.mem_singleton.mp hc]
    exact .inr (.inr (.inr rfl))

theorem IsNumeral.isLexemeChar {s : List Char} (h : IsNumeral s) : ∀ c ∈ s, IsLexemeChar c := by
  obtain ⟨sign, whole, fraction, exponent, hsign, hwhole, hfraction, hexponent, rfl⟩ := h
  have hdigits : ∀ ds, IsDigits ds → ∀ c ∈ ds, IsLexemeChar c :=
    fun ds hds c hc ↦ isLexemeChar_of_isDigit (hds.2 c hc)
  intro c hc
  simp only [List.mem_append] at hc
  rcases hc with hc | hc | hc | hc
  · exact isLexemeChar_of_isSign hsign c hc
  · exact hdigits whole hwhole c hc
  · rcases hfraction with rfl | ⟨ds, hds, rfl⟩
    · cases hc
    · rcases List.mem_cons.mp hc with rfl | hc
      · exact .inr (.inl rfl)
      · exact hdigits ds hds c hc
  · rcases hexponent with rfl | ⟨e, sign', ds, he, hsign', hds, rfl⟩
    · cases hc
    · simp only [List.mem_cons, List.mem_append] at hc
      rcases hc with rfl | hc | hc
      · rcases he with rfl | rfl <;> exact isLexemeChar_of_isAlpha rfl
      · exact isLexemeChar_of_isSign hsign' c hc
      · exact hdigits ds hds c hc

theorem IsNumeral.ne_nil {s : List Char} (h : IsNumeral s) : s ≠ [] := by
  obtain ⟨sign, whole, fraction, exponent, -, hwhole, -, -, rfl⟩ := h
  simp [hwhole.1]

/-- A numeral is no word of letters. -/
theorem IsNumeral.exists_not_isAlpha {s : List Char} (h : IsNumeral s) :
    ∃ c ∈ s, c.isAlpha = false := by
  obtain ⟨sign, whole, fraction, exponent, -, hwhole, -, -, rfl⟩ := h
  obtain ⟨c, hc⟩ := List.exists_mem_of_ne_nil whole hwhole.1
  refine ⟨c, by simp [hc], ?_⟩
  have hdigit := Char.isDigit_iff_toNat.mp (hwhole.2 c hc)
  rw [Bool.eq_false_iff]
  intro halpha
  have hletter := Text.isAlpha_iff.mp halpha
  simp at hdigit
  omega

end RecordFilter.Literal

namespace RecordFilter

/-! ## Scalars -/

/-- The values that can stand in a list: all but lists, and of the numbers those whose lexeme is a
numeral. -/
inductive Raw.IsScalar : Raw → Prop where
  | null : IsScalar null
  | boolean (b : Bool) : IsScalar (boolean b)
  | number {lexeme : String} (h : Literal.IsNumeral lexeme.toList) : IsScalar (number lexeme)
  | text (s : String) : IsScalar (text s)

namespace Literal

theorem isScalar_classify (s : List Char) : (classify s).IsScalar := by
  unfold classify
  simp only
  split_ifs with hnull htrue hfalse hnumber
  · exact .null
  · exact .boolean true
  · exact .boolean false
  · exact .number (by simpa using isNumber_iff.mp hnumber)
  · exact .text _

/-- A literal with something else than letters in it is no keyword. -/
theorem classify_of_not_isAlpha {s : List Char} {c : Char} (hc : c ∈ s) (h : c.isAlpha = false) :
    classify s
      = if isNumber s then .number (String.ofList s) else .text (String.ofList s) := by
  have hkeyword : ∀ k : String, k.toList.all Char.isAlpha = true →
      Text.sameFolded (String.ofList s) k = false := by
    intro k hk
    rw [Bool.eq_false_iff, Text.sameFolded_comm]
    intro hsame
    have hletters := Text.all_isAlpha_of_sameFolded hk hsame
    have halpha := List.all_eq_true.mp hletters c (by simpa using hc)
    rw [h] at halpha
    cases halpha
  have hnull := hkeyword "null" rfl
  have htrue := hkeyword "true" rfl
  have hfalse := hkeyword "false" rfl
  simp [classify, hnull, htrue, hfalse]

theorem classify_of_isNumeral {s : List Char} (h : IsNumeral s) :
    classify s = .number (String.ofList s) := by
  obtain ⟨c, hc, halpha⟩ := h.exists_not_isAlpha
  rw [classify_of_not_isAlpha hc halpha, if_pos (isNumber_iff.mpr h)]

/-- A literal in which another character occurs than keywords and numbers have is a text. -/
theorem classify_of_not_isLexemeChar {s : List Char} {c : Char} (hc : c ∈ s)
    (h : ¬IsLexemeChar c) : classify s = .text (String.ofList s) := by
  have halpha : c.isAlpha = false := by
    rw [Bool.eq_false_iff]
    exact fun hc ↦ h (isLexemeChar_of_isAlpha hc)
  have hnumber : ¬isNumber s = true :=
    fun hnumber ↦ h ((isNumber_iff.mp hnumber).isLexemeChar c hc)
  rw [classify_of_not_isAlpha hc halpha, if_neg hnumber]

/-- A bare text stands for itself. -/
theorem eq_of_classify_eq_text {s : List Char} {t : String} (h : classify s = .text t) :
    t = String.ofList s := by
  unfold classify at h
  simp only at h
  split_ifs at h
  cases h
  rfl

end Literal

end RecordFilter
