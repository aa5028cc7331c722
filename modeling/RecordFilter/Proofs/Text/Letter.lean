import RecordFilter.Proofs.Text.Blank
import RecordFilter.Text.Case
import RecordFilter.Text.Letter

/-!
# Letters

Among the letters and numerals of all scripts are those of ASCII, and no blank
is one of them.  Words that are compared without regard to case are words of
ASCII letters, and so is whatever is spelled like one of them.
-/

namespace RecordFilter.Text

theorem isAlpha_iff {c : Char} :
    c.isAlpha = true ↔
      (65 ≤ c.toNat ∧ c.toNat ≤ 90) ∨ (97 ≤ c.toNat ∧ c.toNat ≤ 122) := by
  have hranges : c.isAlpha
      = (decide (65 ≤ c.val ∧ c.val ≤ 90) || (decide (97 ≤ c.val) && decide (c.val ≤ 122))) := rfl
  rw [hranges]
  simp [UInt32.le_iff_toNat_le]

/-- No blank is a letter or a numeral. -/
theorem isAlphanumeric_of_isBlank {c : Char} (h : isBlank c = true) : isAlphanumeric c = false := by
  have hmem : c.toNat ∈ [9, 10, 11, 12, 13, 0x20, 0x85, 0xA0, 0x1680, 0x2000, 0x2001, 0x2002,
      0x2003, 0x2004, 0x2005, 0x2006, 0x2007, 0x2008, 0x2009, 0x200A, 0x2028, 0x2029, 0x202F,
      0x205F, 0x3000] := by
    simp only [isBlank, Bool.or_eq_true, Bool.and_eq_true, decide_eq_true_eq, beq_iff_eq] at h
    simp only [List.mem_cons, List.not_mem_nil, or_false]
    omega
  have hall : ∀ n ∈ [9, 10, 11, 12, 13, 0x20, 0x85, 0xA0, 0x1680, 0x2000, 0x2001, 0x2002,
      0x2003, 0x2004, 0x2005, 0x2006, 0x2007, 0x2008, 0x2009, 0x200A, 0x2028, 0x2029, 0x202F,
      0x205F, 0x3000], isAlphanumeric (Char.ofNat n) = false := by
    decide +kernel
  simpa using hall _ hmem

theorem isAlphanumeric_of_isAlphanum {c : Char} (h : c.isAlphanum = true) :
    isAlphanumeric c = true := by
  have heither : c.isAlpha = true ∨ c.isDigit = true := by
    rw [← Bool.or_eq_true]
    exact h
  have hlt : c.toNat < 0x80 := by
    rcases heither with halpha | hdigit
    · have := isAlpha_iff.mp halpha
      omega
    · have := (Char.isDigit_iff_toNat.mp hdigit).2
      exact this.trans_lt (by decide)
  simpa [isAlphanumeric, isAlphabetic, isNumeric, hlt] using heither

/-! ## Words of ASCII letters -/

theorem isAlpha_toLower (c : Char) : c.toLower.isAlpha = c.isAlpha := by
  unfold Char.toLower
  split
  · next h =>
    have hupper : 65 ≤ c.toNat ∧ c.toNat ≤ 90 := by simpa [UInt32.le_iff_toNat_le] using h
    rw [Bool.eq_iff_iff, isAlpha_iff, isAlpha_iff]
    simp only [Char.toNat, UInt32.toNat_add]
    simp
    omega
  · rfl

/-- A word that is spelled like a word of ASCII letters consists of ASCII letters. -/
theorem all_isAlpha_of_sameFolded {k w : String} (hk : k.toList.all Char.isAlpha = true)
    (h : sameFolded k w = true) : w.toList.all Char.isAlpha = true := by
  rw [List.all_eq_true] at hk ⊢
  intro c hc
  rw [sameFolded, beq_iff_eq] at h
  have hmem : c.toLower ∈ k.toList.map Char.toLower := by
    rw [h]
    exact List.mem_map_of_mem hc
  obtain ⟨d, hd, hdc⟩ := List.mem_map.mp hmem
  rw [← isAlpha_toLower, ← hdc, isAlpha_toLower]
  exact hk d hd

/-! ## Blanks and case -/

theorem isBlank_of_isAlphanum {c : Char} (h : c.isAlphanum = true) : isBlank c = false := by
  by_contra hblank
  have hletter := isAlphanumeric_of_isBlank (by simpa using hblank)
  rw [isAlphanumeric_of_isAlphanum h] at hletter
  cases hletter

theorem isBlank_of_isAlpha {c : Char} (h : c.isAlpha = true) : isBlank c = false :=
  isBlank_of_isAlphanum (by simp [Char.isAlphanum, h])

theorem isBlank_of_isDigit {c : Char} (h : c.isDigit = true) : isBlank c = false :=
  isBlank_of_isAlphanum (by simp [Char.isAlphanum, h])

/-- Only letters change in case. -/
theorem toLower_eq_self {c : Char} (h : c.isAlpha = false) : c.toLower = c := by
  refine dif_neg fun hupper ↦ ?_
  have hletter : c.isAlpha = true :=
    isAlpha_iff.mpr (Or.inl (by simpa [UInt32.le_iff_toNat_le] using hupper))
  rw [h] at hletter
  cases hletter

/-- What is no letter is lowered from itself only. -/
theorem toLower_eq_iff {c d : Char} (hd : d.isAlpha = false) : c.toLower = d ↔ c = d := by
  constructor
  · intro h
    rw [← h, isAlpha_toLower] at hd
    rw [← h, toLower_eq_self hd]
  · rintro rfl
    exact toLower_eq_self hd

theorem isBlank_toLower (c : Char) : isBlank c.toLower = isBlank c := by
  cases h : c.isAlpha with
  | true => rw [isBlank_of_isAlpha h, isBlank_of_isAlpha ((isAlpha_toLower c).trans h)]
  | false => rw [toLower_eq_self h]

theorem trim_map_toLower (s : List Char) :
    trim (s.map Char.toLower) = (trim s).map Char.toLower := by
  have hblank : isBlank ∘ Char.toLower = isBlank := funext isBlank_toLower
  rw [trim, trim, trimLeft, trimLeft, List.dropWhile_map, hblank, trimRight, trimRight,
    ← List.map_reverse, List.dropWhile_map, hblank, List.map_reverse]

/-- Trimming drops blanks at the ends and nothing else. -/
theorem trim_sublist (s : List Char) : (trim s).Sublist s :=
  (List.IsPrefix.sublist (List.rdropWhile_prefix isBlank _)).trans (List.dropWhile_sublist _)

/-- Whether a text is trimmed does not depend on the case of its letters. -/
theorem trim_eq_self_of_map_toLower {s t : List Char}
    (h : s.map Char.toLower = t.map Char.toLower) (ht : trim t = t) : trim s = s := by
  have hlower : (trim s).map Char.toLower = s.map Char.toLower := by
    rw [← trim_map_toLower, h, trim_map_toLower, ht]
  have hlength : (trim s).length = s.length := by
    simpa using congrArg List.length hlower
  exact (trim_sublist s).eq_of_length hlength

theorem map_toLower_of_foldCase {s t : String} (h : foldCase s = foldCase t) :
    s.toList.map Char.toLower = t.toList.map Char.toLower := by
  simpa [foldCase, String.ofList_inj] using h

theorem trimString_eq_self_of_foldCase {s t : String} (h : foldCase s = foldCase t)
    (ht : trimString t = t) : trimString s = s := by
  have htrim : trim t.toList = t.toList := by
    rw [← String.toList_ofList (l := trim t.toList)]
    exact congrArg String.toList ht
  rw [trimString, trim_eq_self_of_map_toLower (map_toLower_of_foldCase h) htrim,
    String.ofList_toList]

end RecordFilter.Text
