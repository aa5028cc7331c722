import RecordFilter.Proofs.Text.Letter
import RecordFilter.Query.Clause

/-!
# The fields of a clause

A field is taken with the layout in front of it and, where it is read, with the
layout and the colon behind it.  Each of these readers is said here by the form
of the text that it takes, so it is known at once what was read, that the same
text is read again, and that what stands behind does not matter.
-/

namespace RecordFilter

/-! ## Keywords -/

namespace Operator

theorem all_isAlpha_keyword (o : Operator) : o.keyword.toList.all Char.isAlpha = true := by
  cases o <;> rfl

theorem eq_of_sameFolded_keyword {o o' : Operator}
    (h : Text.sameFolded o.keyword o'.keyword = true) : o = o' := by
  revert h
  cases o <;> cases o' <;> decide

/-- A keyword is recognised in any case, and stands for no other operator. -/
theorem ofKeyword?_eq_some_iff {w : String} {o : Operator} :
    ofKeyword? w = some o ↔ Text.sameFolded o.keyword w = true := by
  have hfound : ∀ o', ofKeyword? w = some o' → Text.sameFolded o'.keyword w = true := by
    intro o' ho'
    exact List.find?_some (p := fun o : Operator ↦ Text.sameFolded o.keyword w) ho'
  constructor
  · exact hfound o
  · intro h
    obtain ⟨o', ho'⟩ : ∃ o', ofKeyword? w = some o' := by
      rw [← Option.isSome_iff_exists]
      exact List.find?_isSome.mpr ⟨o, o.mem_all, h⟩
    rw [Text.sameFolded_comm] at h
    rw [ho', eq_of_sameFolded_keyword (Text.sameFolded_trans (hfound o' ho') h)]

end Operator

namespace Connective

theorem all_isAlpha_keyword (c : Connective) : c.keyword.toList.all Char.isAlpha = true := by
  cases c <;> rfl

theorem ofKeyword?_keyword (c : Connective) : ofKeyword? c.keyword = some c := by
  cases c <;> decide

/-- A keyword is recognised in any case. -/
theorem ofKeyword?_of_sameFolded {c : Connective} {w : String}
    (h : Text.sameFolded c.keyword w = true) : ofKeyword? w = some c := by
  have hsame : ∀ keyword, Text.sameFolded keyword w = Text.sameFolded keyword c.keyword := by
    intro keyword
    rw [Bool.eq_iff_iff, Text.sameFolded_iff, Text.sameFolded_iff, Text.sameFolded_iff.mp h]
  rw [← c.ofKeyword?_keyword, ofKeyword?, ofKeyword?]
  simp only [hsame]

/-- A keyword is recognised in any case, and stands for no other connective. -/
theorem ofKeyword?_eq_some_iff {w : String} {c : Connective} :
    ofKeyword? w = some c ↔ Text.sameFolded c.keyword w = true :=
  ⟨fun h ↦ List.find?_some (p := fun c : Connective ↦ Text.sameFolded c.keyword w) h,
    ofKeyword?_of_sameFolded⟩

end Connective

namespace Clause

open Text (IsLayoutRun isLayout skipLayout)

theorem isBlank_of_isFieldChar {c : Char} (h : isFieldChar c = true) : Text.isBlank c = false := by
  rw [Bool.eq_false_iff]
  intro hblank
  have hpoint : c ≠ '.' := Text.ne_of_isBlank hblank rfl
  have hunderscore : c ≠ '_' := Text.ne_of_isBlank hblank rfl
  simp [isFieldChar, Text.isAlphanumeric_of_isBlank hblank, hpoint, hunderscore] at h

theorem isFieldChar_of_isAlphanum {c : Char} (h : c.isAlphanum = true) :
    isFieldChar c = true := by
  simp [isFieldChar, Text.isAlphanumeric_of_isAlphanum h]

theorem isFieldChar_of_isAlpha {c : Char} (h : c.isAlpha = true) : isFieldChar c = true :=
  isFieldChar_of_isAlphanum (by simp [Char.isAlphanum, h])

theorem isLayout_of_isFieldChar {c : Char} (h : isFieldChar c = true) : isLayout c = false := by
  rw [Bool.eq_false_iff]
  intro hlayout
  have hblank := isBlank_of_isFieldChar h
  rw [Text.isBlank_of_isLayout hlayout] at hblank
  cases hblank

theorem ne_of_isFieldChar {c d : Char} (h : isFieldChar c = true) (hd : isFieldChar d = false) :
    c ≠ d := by
  rintro rfl
  rw [h] at hd
  cases hd

/-- A word that is not empty and consists of field characters. -/
def IsFieldWord (w : List Char) : Prop := w ≠ [] ∧ ∀ c ∈ w, isFieldChar c = true

theorem IsFieldWord.isTrimmed {w : List Char} (h : IsFieldWord w) : Text.IsTrimmed w :=
  Text.IsTrimmed.of_forall h.1 fun c hc ↦ isBlank_of_isFieldChar (h.2 c hc)

theorem isFieldWord_of_all_isAlpha {w : List Char} (hne : w ≠ []) (h : w.all Char.isAlpha = true) :
    IsFieldWord w :=
  ⟨hne, fun c hc ↦ isFieldChar_of_isAlpha (List.all_eq_true.mp h c hc)⟩

/-! ## Taking fields and colons -/

theorem takeField?_eq_some_iff {s : List Char} {f : Field} :
    takeField? s = some f ↔
      ∃ l, IsLayoutRun l ∧ s = l ++ f.start ∧ f.start = f.word ++ f.rest ∧ IsFieldWord f.word ∧
        ∀ c ∈ f.rest.head?, isFieldChar c = false := by
  constructor
  · intro h
    obtain ⟨l, hl, hs⟩ := Text.exists_eq_append_skipLayout s
    simp only [takeField?] at h
    split at h
    · cases h
    · next hne =>
      cases h
      refine ⟨l, hl, hs, List.takeWhile_append_dropWhile.symm, ⟨?_, ?_⟩, ?_⟩
      · simpa using hne
      · exact fun c hc ↦ List.mem_takeWhile_imp hc
      · exact Text.eq_false_of_mem_head?_dropWhile
  · obtain ⟨word, start, rest⟩ := f
    rintro ⟨l, hl, rfl, hstart, ⟨hne, hword⟩, hrest⟩
    obtain rfl : start = word ++ rest := hstart
    obtain ⟨c, w, rfl⟩ := List.exists_cons_of_ne_nil hne
    have hstart : skipLayout (l ++ (c :: w ++ rest)) = c :: w ++ rest := by
      rw [Text.skipLayout_append hl]
      exact Text.skipLayout_cons_of_not (isLayout_of_isFieldChar (hword c (by simp)))
    obtain ⟨htake, hdrop⟩ := Text.takeWhile_dropWhile_append hword hrest
    simp only [takeField?, hstart, htake, hdrop]
    simp

theorem takeColon?_eq_some_iff {s rest : List Char} :
    takeColon? s = some rest ↔ ∃ l, IsLayoutRun l ∧ s = l ++ ':' :: rest := by
  constructor
  · intro h
    obtain ⟨l, hl, hs⟩ := Text.exists_eq_append_skipLayout s
    unfold takeColon? at h
    split at h
    · next r hr =>
      cases h
      exact ⟨l, hl, by rw [← hr, ← hs]⟩
    · cases h
  · rintro ⟨l, hl, rfl⟩
    have hskip : skipLayout (l ++ ':' :: rest) = ':' :: rest := by
      rw [Text.skipLayout_append hl]
      exact Text.skipLayout_cons_of_not rfl
    simp [takeColon?, hskip]

/-- What a colon behind layout starts with is no field character. -/
theorem isFieldChar_head?_colon {l rest : List Char} (hl : IsLayoutRun l) :
    ∀ c ∈ (l ++ ':' :: rest).head?, isFieldChar c = false := by
  intro c hc
  cases l with
  | nil =>
    cases hc
    rfl
  | cons d l =>
    obtain rfl : d = c := by simpa using hc
    rw [Bool.eq_false_iff]
    intro hfield
    have hlayout := isLayout_of_isFieldChar hfield
    rw [hl d (by simp)] at hlayout
    cases hlayout

/-! ## Reading fields -/

theorem readField_eq_ok_iff {missing : Cause} {s rest : List Char} {f : Field} :
    readField missing s = .ok (f, rest) ↔
      ∃ l l', IsLayoutRun l ∧ IsLayoutRun l' ∧ IsFieldWord f.word ∧ s = l ++ f.start ∧
        f.start = f.word ++ f.rest ∧ f.rest = l' ++ ':' :: rest := by
  have hread : readField missing s = .ok (f, rest) ↔
      takeField? s = some f ∧ takeColon? f.rest = some rest := by
    unfold readField
    split
    · next hnone => simp [hnone]
    · next g hg =>
      split
      · next hnone =>
        simp only [hg, Option.some.injEq, reduceCtorEq, false_iff, not_and]
        rintro rfl
        simp [hnone]
      · next r hr =>
        simp only [hg, Except.ok.injEq, Prod.mk.injEq, Option.some.injEq, and_congr_right_iff]
        rintro rfl
        simp [hr]
  rw [hread, takeField?_eq_some_iff, takeColon?_eq_some_iff]
  constructor
  · rintro ⟨⟨l, hl, hs, hstart, hword, -⟩, l', hl', hrest⟩
    exact ⟨l, l', hl, hl', hword, hs, hstart, hrest⟩
  · rintro ⟨l, l', hl, hl', hword, hs, hstart, hrest⟩
    refine ⟨⟨l, hl, hs, hstart, hword, ?_⟩, l', hl', hrest⟩
    rw [hrest]
    exact isFieldChar_head?_colon hl'

/-- A field that is read is read with more text at the end as well. -/
theorem exists_readField_append {missing : Cause} {s rest : List Char} {f : Field}
    (h : readField missing s = .ok (f, rest)) (e : List Char) :
    ∃ f', f'.word = f.word ∧ readField missing (s ++ e) = .ok (f', rest ++ e) := by
  obtain ⟨l, l', hl, hl', hword, hs, hstart, hrest⟩ := readField_eq_ok_iff.mp h
  refine ⟨⟨f.word, f.start ++ e, f.rest ++ e⟩, rfl, readField_eq_ok_iff.mpr ?_⟩
  refine ⟨l, l', hl, hl', hword, ?_, ?_, ?_⟩
  · simp [hs]
  · simp [hstart]
  · simp [hrest]

/-- A field is read whatever the layout around it. -/
theorem readField_append {l w l' : List Char} (hl : IsLayoutRun l) (hw : IsFieldWord w)
    (hl' : IsLayoutRun l') (missing : Cause) (rest : List Char) :
    ∃ f, f.word = w ∧ readField missing (l ++ (w ++ (l' ++ ':' :: rest))) = .ok (f, rest) :=
  ⟨⟨w, w ++ (l' ++ ':' :: rest), l' ++ ':' :: rest⟩, rfl,
    readField_eq_ok_iff.mpr ⟨l, l', hl, hl', hw, rfl, rfl, rfl⟩⟩

/-! ## Operators -/

theorem isFieldWord_of_ofKeyword? {w : List Char} {o : Operator}
    (h : Operator.ofKeyword? (String.ofList w) = some o) : IsFieldWord w := by
  have hsame := Operator.ofKeyword?_eq_some_iff.mp h
  have hletters : w.all Char.isAlpha = true := by
    simpa using Text.all_isAlpha_of_sameFolded o.all_isAlpha_keyword hsame
  refine isFieldWord_of_all_isAlpha ?_ hletters
  rintro rfl
  revert hsame
  cases o <;> decide

/-- An operator is taken where a keyword stands with a colon behind it. -/
theorem takeOperator?_eq_some_iff {s rest : List Char} {o : Operator} :
    takeOperator? s = some (o, rest) ↔
      ∃ l w l', IsLayoutRun l ∧ IsLayoutRun l' ∧ s = l ++ (w ++ (l' ++ ':' :: rest)) ∧
        Operator.ofKeyword? (String.ofList w) = some o := by
  have htake : takeOperator? s = some (o, rest) ↔ ∃ f, takeField? s = some f ∧
      Operator.ofKeyword? f.text = some o ∧ takeColon? f.rest = some rest := by
    simp only [takeOperator?, Option.bind_eq_bind, Option.bind_eq_some_iff, Option.pure_def,
      Option.some.injEq, Prod.mk.injEq]
    constructor
    · rintro ⟨f, hf, o', ho, r, hr, rfl, rfl⟩
      exact ⟨f, hf, ho, hr⟩
    · rintro ⟨f, hf, ho, hr⟩
      exact ⟨f, hf, o, ho, rest, hr, rfl, rfl⟩
  rw [htake]
  constructor
  · rintro ⟨f, hf, ho, hr⟩
    obtain ⟨l, hl, hs, hstart, -, -⟩ := takeField?_eq_some_iff.mp hf
    obtain ⟨l', hl', hrest⟩ := takeColon?_eq_some_iff.mp hr
    exact ⟨l, f.word, l', hl, hl', by rw [hs, hstart, hrest], ho⟩
  · rintro ⟨l, w, l', hl, hl', rfl, ho⟩
    refine ⟨⟨w, w ++ (l' ++ ':' :: rest), l' ++ ':' :: rest⟩, ?_, ho, ?_⟩
    · exact takeField?_eq_some_iff.mpr
        ⟨l, hl, rfl, rfl, isFieldWord_of_ofKeyword? ho, isFieldChar_head?_colon hl'⟩
    · exact takeColon?_eq_some_iff.mpr ⟨l', hl', rfl⟩

theorem takeOperator?_append {s rest : List Char} {o : Operator}
    (h : takeOperator? s = some (o, rest)) (e : List Char) :
    takeOperator? (s ++ e) = some (o, rest ++ e) := by
  obtain ⟨l, w, l', hl, hl', rfl, ho⟩ := takeOperator?_eq_some_iff.mp h
  exact takeOperator?_eq_some_iff.mpr ⟨l, w, l', hl, hl', by simp, ho⟩

end Clause

end RecordFilter
