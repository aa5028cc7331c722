import Mathlib.Data.List.DropRight
import Mathlib.Data.List.TakeWhile
import RecordFilter.Text.Blank

/-!
# Blanks at the ends of a text

Skipping and trimming take a run of blanks off an end of a text and stop at the
first character that is none.  So what is left does not depend on what stands
behind the first such character, and a text that has such a character at both
ends is left as it is.
-/

namespace RecordFilter.Text

/-- A run of characters ends before the first one that does not belong to it. -/
theorem takeWhile_dropWhile_append {p : Char → Bool} {s t : List Char} (hs : ∀ c ∈ s, p c = true)
    (ht : ∀ c ∈ t.head?, p c = false) :
    (s ++ t).takeWhile p = s ∧ (s ++ t).dropWhile p = t := by
  rw [List.takeWhile_append_of_pos hs, List.dropWhile_append_of_pos hs]
  cases t with
  | nil => exact ⟨List.append_nil s, rfl⟩
  | cons c t =>
    have hc : p c = false := ht c rfl
    simp [hc]

/-- What is left when a run has been dropped does not go on with it. -/
theorem eq_false_of_mem_head?_dropWhile {p : Char → Bool} {s : List Char} :
    ∀ c ∈ (s.dropWhile p).head?, p c = false := by
  intro c hc
  have hstop := List.head?_dropWhile_not p s
  rw [Option.mem_def.mp hc] at hstop
  simpa using hstop

/-! ## Layout -/

theorem isLayout_of_isBlank_eq_false {c : Char} (h : isBlank c = false) : isLayout c = false := by
  rw [Bool.eq_false_iff]
  intro hlayout
  rw [isBlank_of_isLayout hlayout] at h
  cases h

/-- A run of layout. -/
def IsLayoutRun (s : List Char) : Prop := ∀ c ∈ s, isLayout c = true

instance (s : List Char) : Decidable (IsLayoutRun s) :=
  decidable_of_iff (s.all isLayout = true) List.all_eq_true

theorem isLayoutRun_nil : IsLayoutRun [] := by
  intro c hc
  cases hc

theorem exists_eq_append_skipLayout (s : List Char) :
    ∃ l, IsLayoutRun l ∧ s = l ++ skipLayout s := by
  refine ⟨s.takeWhile isLayout, fun c hc ↦ List.mem_takeWhile_imp hc, ?_⟩
  exact List.takeWhile_append_dropWhile.symm

theorem skipLayout_cons_of_not {c : Char} {s : List Char} (h : isLayout c = false) :
    skipLayout (c :: s) = c :: s :=
  List.dropWhile_cons_of_neg (by simp [h])

theorem skipLayout_append {l s : List Char} (h : IsLayoutRun l) :
    skipLayout (l ++ s) = skipLayout s :=
  List.dropWhile_append_of_pos h

/-- Where something else than layout is met, more text at the end changes nothing. -/
theorem skipLayout_append_of_ne_nil {s : List Char} (h : skipLayout s ≠ []) (e : List Char) :
    skipLayout (s ++ e) = skipLayout s ++ e := by
  rw [skipLayout, List.dropWhile_append, if_neg]
  · rfl
  · rwa [List.isEmpty_iff]

theorem skipLayout_eq_nil_iff {s : List Char} : skipLayout s = [] ↔ IsLayoutRun s :=
  List.dropWhile_eq_nil_iff

/-! ## Blanks -/

theorem ne_of_isBlank {c d : Char} (hc : isBlank c = true) (hd : isBlank d = false) : c ≠ d := by
  rintro rfl
  rw [hc] at hd
  cases hd

theorem exists_eq_append_trimLeft (s : List Char) :
    ∃ b, (∀ c ∈ b, isBlank c = true) ∧ s = b ++ trimLeft s :=
  ⟨s.takeWhile isBlank, fun _ hc ↦ List.mem_takeWhile_imp hc,
    List.takeWhile_append_dropWhile.symm⟩

theorem exists_eq_trimRight_append (s : List Char) :
    ∃ b, (∀ c ∈ b, isBlank c = true) ∧ s = trimRight s ++ b := by
  refine ⟨s.rtakeWhile isBlank, fun c hc ↦ List.mem_rtakeWhile_imp hc, ?_⟩
  exact (List.rdropWhile_append_rtakeWhile (p := isBlank) (l := s)).symm

theorem trimLeft_eq_self {s : List Char} (h : ∀ c ∈ s.head?, isBlank c = false) :
    trimLeft s = s := by
  cases s with
  | nil => rfl
  | cons c s =>
    have hc : isBlank c = false := h c rfl
    exact List.dropWhile_cons_of_neg (by simp [hc])

theorem trimLeft_append_of_ne_nil {s : List Char} (h : trimLeft s ≠ []) (e : List Char) :
    trimLeft (s ++ e) = trimLeft s ++ e := by
  rw [trimLeft, List.dropWhile_append, if_neg]
  · rfl
  · rwa [List.isEmpty_iff]

/-- In front of a character that is no blank, a text is trimmed on the left by itself. -/
theorem trimLeft_append_cons {s t : List Char} {c : Char} (h : isBlank c = false) :
    trimLeft (s ++ c :: t) = trimLeft s ++ c :: t := by
  by_cases hleft : trimLeft s = []
  · rw [hleft, trimLeft, List.dropWhile_append_of_pos (List.dropWhile_eq_nil_iff.mp hleft)]
    exact List.dropWhile_cons_of_neg (by simp [h])
  · exact trimLeft_append_of_ne_nil hleft _

/-- Trimming on the right stops at a character that is no blank. -/
theorem trimRight_append_cons {s t : List Char} {c : Char} (h : isBlank c = false) :
    trimRight (s ++ c :: t) = s ++ c :: trimRight t := by
  have ht : ((s ++ c :: t).reverse).dropWhile isBlank
      = t.reverse.dropWhile isBlank ++ c :: s.reverse := by
    rw [List.reverse_append, List.reverse_cons, List.append_assoc, List.dropWhile_append]
    split
    · next hnil =>
      rw [List.isEmpty_iff.mp hnil]
      exact List.dropWhile_cons_of_neg (by simp [h])
    · rfl
  rw [trimRight, ht]
  simp [trimRight]

theorem trimRight_eq_self {s : List Char} (h : ∀ c ∈ s.getLast?, isBlank c = false) :
    trimRight s = s := by
  rcases List.eq_nil_or_concat s with rfl | ⟨s, c, rfl⟩
  · rfl
  · have hc : isBlank c = false := h c (by simp)
    rw [List.concat_eq_append, trimRight_append_cons hc, trimRight_nil]

theorem trim_eq_self {s : List Char} (hh : ∀ c ∈ s.head?, isBlank c = false)
    (hl : ∀ c ∈ s.getLast?, isBlank c = false) : trim s = s := by
  rw [trim, trimLeft_eq_self hh, trimRight_eq_self hl]

/-- A trimmed text does not start with a blank. -/
theorem isBlank_head?_of_trim_eq_self {s : List Char} (h : trim s = s) :
    ∀ c ∈ s.head?, isBlank c = false := by
  intro c hc
  by_contra hblank
  cases s with
  | nil => cases hc
  | cons d s =>
    obtain rfl : d = c := by simpa using hc
    have hlt : (trim (d :: s)).length < (d :: s).length := by
      have hleft : trimLeft (d :: s) = trimLeft s :=
        List.dropWhile_cons_of_pos (by simpa using hblank)
      calc (trim (d :: s)).length ≤ (trimLeft (d :: s)).length :=
            List.IsPrefix.length_le (List.rdropWhile_prefix isBlank _)
        _ = (trimLeft s).length := by rw [hleft]
        _ ≤ s.length := List.length_dropWhile_le isBlank s
        _ < (d :: s).length := by simp
    rw [h] at hlt
    exact absurd hlt (lt_irrefl _)

/-- A trimmed text does not end with a blank. -/
theorem isBlank_getLast?_of_trim_eq_self {s : List Char} (h : trim s = s) :
    ∀ c ∈ s.getLast?, isBlank c = false := by
  intro c hc
  have hne : (trimLeft s).rdropWhile isBlank ≠ [] := by
    intro hnil
    rw [← h, show trim s = [] from hnil] at hc
    cases hc
  have hlast := List.rdropWhile_last_not isBlank (trimLeft s) hne
  have hs : (trimLeft s).rdropWhile isBlank = s := h
  simp only [hs] at hlast
  rw [List.getLast?_eq_some_getLast (by simpa [hs] using hne)] at hc
  obtain rfl : s.getLast _ = c := by simpa using hc
  simpa using hlast

/-- A trimmed text is trimmed for good. -/
theorem trim_trim (s : List Char) : trim (trim s) = trim s := by
  refine trim_eq_self (fun c hc ↦ ?_) (fun c hc ↦ ?_)
  · have hhead : c ∈ (trimLeft s).head? := by
      obtain ⟨b, -, hb⟩ := exists_eq_trimRight_append (trimLeft s)
      rw [hb, List.head?_append, show trimRight (trimLeft s) = trim s from rfl, hc]
      rfl
    exact eq_false_of_mem_head?_dropWhile c hhead
  · have hne : (trimLeft s).rdropWhile isBlank ≠ [] := by
      intro hnil
      rw [show trim s = [] from hnil] at hc
      cases hc
    have hlast := List.rdropWhile_last_not isBlank (trimLeft s) hne
    rw [show trim s = (trimLeft s).rdropWhile isBlank from rfl,
      List.getLast?_eq_some_getLast hne] at hc
    obtain rfl := Option.mem_some_iff.mp hc
    simpa using hlast

/-- Two trimmed texts with a character between them that is no blank have no blanks at the ends. -/
theorem trim_append_cons_eq_self {s t : List Char} {c : Char} (hs : trim s = s) (ht : trim t = t)
    (hc : isBlank c = false) : trim (s ++ c :: t) = s ++ c :: t := by
  refine trim_eq_self (fun d hd ↦ ?_) (fun d hd ↦ ?_)
  · cases s with
    | nil =>
      obtain rfl : c = d := by simpa using hd
      exact hc
    | cons e s => exact isBlank_head?_of_trim_eq_self hs d (by simpa using hd)
  · cases t with
    | nil =>
      obtain rfl : c = d := by simpa using hd
      exact hc
    | cons e t =>
      refine isBlank_getLast?_of_trim_eq_self ht d ?_
      rwa [List.getLast?_append_of_ne_nil s (by simp), List.getLast?_cons_cons] at hd

theorem trimRight_eq_nil_iff {s : List Char} : trimRight s = [] ↔ ∀ c ∈ s, isBlank c = true :=
  List.rdropWhile_eq_nil_iff

theorem isBlank_of_trim_eq_nil {s : List Char} (h : trim s = []) : ∀ c ∈ s, isBlank c = true := by
  refine List.dropWhile_eq_nil_iff.mp ?_
  by_contra hne
  obtain ⟨c, r, hr⟩ := List.exists_cons_of_ne_nil hne
  have hblank : isBlank c = true := by
    refine trimRight_eq_nil_iff.mp h c ?_
    rw [trimLeft, hr]
    exact List.mem_cons_self
  have hnot : isBlank c = false := eq_false_of_mem_head?_dropWhile (s := s) c (by rw [hr]; rfl)
  rw [hnot] at hblank
  cases hblank

/-- What stands in a text before a character that is no blank is only trimmed on the left. -/
theorem exists_trim_append_cons (s t : List Char) {c : Char} (hc : isBlank c = false) :
    ∃ b, trim (s ++ c :: t) = trim s ++ (b ++ c :: trimRight t) := by
  obtain ⟨b, -, hb⟩ := exists_eq_trimRight_append (trimLeft s)
  refine ⟨b, ?_⟩
  rw [trim, trimLeft_append_cons hc, trimRight_append_cons hc, ← List.append_assoc]
  exact congrArg (· ++ c :: trimRight t) hb

/-- A text that has something to show at both ends. -/
def IsTrimmed (s : List Char) : Prop := s ≠ [] ∧ trim s = s

instance (s : List Char) : Decidable (IsTrimmed s) := inferInstanceAs (Decidable (_ ∧ _))

theorem IsTrimmed.of_forall {s : List Char} (hne : s ≠ []) (h : ∀ c ∈ s, isBlank c = false) :
    IsTrimmed s := by
  refine ⟨hne, trim_eq_self (fun c hc ↦ h c ?_) (fun c hc ↦ h c ?_)⟩
  · exact List.mem_of_mem_head? hc
  · exact List.mem_of_mem_getLast? hc

/-- Only the ends of a text count. -/
theorem IsTrimmed.append {a b : List Char} (ha : IsTrimmed a) (hb : IsTrimmed b)
    (m : List Char) : IsTrimmed (a ++ (m ++ b)) := by
  refine ⟨by simp [ha.1], trim_eq_self ?_ ?_⟩
  · rw [List.head?_append_of_ne_nil a ha.1]
    exact isBlank_head?_of_trim_eq_self ha.2
  · rw [← List.append_assoc, List.getLast?_append_of_ne_nil _ hb.1]
    exact isBlank_getLast?_of_trim_eq_self hb.2

/-- Blanks at the end do not count. -/
theorem trimRight_append_of_isBlank (s : List Char) {b : List Char}
    (hb : ∀ c ∈ b, isBlank c = true) : trimRight (s ++ b) = trimRight s := by
  rw [trimRight, List.reverse_append,
    List.dropWhile_append_of_pos fun c hc ↦ hb c (List.mem_reverse.mp hc), ← trimRight]

theorem trim_append_of_isBlank (s : List Char) {b : List Char} (hb : ∀ c ∈ b, isBlank c = true) :
    trim (s ++ b) = trim s := by
  by_cases hleft : trimLeft s = []
  · have hblank : ∀ c ∈ s ++ b, isBlank c = true :=
      List.forall_mem_append.mpr ⟨List.dropWhile_eq_nil_iff.mp hleft, hb⟩
    rw [trim, trim, hleft, trimLeft, List.dropWhile_eq_nil_iff.mpr hblank]
  · rw [trim, trimLeft_append_of_ne_nil hleft, trimRight_append_of_isBlank _ hb, ← trim]

/-- Blanks at the start do not count. -/
theorem trim_of_isBlank_append {b : List Char} (hb : ∀ c ∈ b, isBlank c = true) (s : List Char) :
    trim (b ++ s) = trim s := by
  rw [trim, trim, trimLeft, List.dropWhile_append_of_pos hb, ← trimLeft]

theorem trim_ne_nil_iff {s : List Char} : trim s ≠ [] ↔ ∃ c ∈ s, isBlank c = false := by
  constructor
  · intro h
    by_contra hnone
    have hblank : ∀ c ∈ s, isBlank c = true := by simpa using hnone
    apply h
    simpa using trim_of_isBlank_append hblank []
  · rintro ⟨c, hc, hshown⟩ hnil
    rw [isBlank_of_trim_eq_nil hnil c hc] at hshown
    cases hshown

/-- Layout around a text is trimmed. -/
theorem IsTrimmed.trim_append {l w l' : List Char} (h : IsTrimmed w) (hl : IsLayoutRun l)
    (hl' : IsLayoutRun l') : trim (l ++ (w ++ l')) = w := by
  have hleft : ∀ c ∈ l, isBlank c = true := fun c hc ↦ isBlank_of_isLayout (hl c hc)
  have hright : ∀ c ∈ l', isBlank c = true := fun c hc ↦ isBlank_of_isLayout (hl' c hc)
  rw [trim_of_isBlank_append hleft, trim_append_of_isBlank w hright, h.2]

/-! ## What trimming leaves -/

/-- The first text is the second one with blanks around it, and the second has none at its ends. -/
structure TrimsTo (s w : List Char) : Prop where
  around : ∃ a b, (∀ c ∈ a, isBlank c = true) ∧ (∀ c ∈ b, isBlank c = true) ∧ s = a ++ (w ++ b)
  head : ∀ c ∈ w.head?, isBlank c = false
  last : ∀ c ∈ w.getLast?, isBlank c = false

/-- Around what is left of a text there were blanks only. -/
theorem exists_eq_append_trim (s : List Char) :
    ∃ a b, (∀ c ∈ a, isBlank c = true) ∧ (∀ c ∈ b, isBlank c = true) ∧
      s = a ++ (trim s ++ b) := by
  obtain ⟨a, ha, hleft⟩ := exists_eq_append_trimLeft s
  obtain ⟨b, hb, hright⟩ := exists_eq_trimRight_append (trimLeft s)
  exact ⟨a, b, ha, hb, by rw [trim, ← hright, ← hleft]⟩

theorem trimsTo_iff {s w : List Char} : TrimsTo s w ↔ trim s = w := by
  constructor
  · rintro ⟨⟨a, b, ha, hb, rfl⟩, hhead, hlast⟩
    rw [trim_of_isBlank_append ha, trim_append_of_isBlank w hb, trim_eq_self hhead hlast]
  · rintro rfl
    have htrim := trim_trim s
    exact ⟨exists_eq_append_trim s, isBlank_head?_of_trim_eq_self htrim,
      isBlank_getLast?_of_trim_eq_self htrim⟩

theorem length_trimRight_le (s : List Char) : (trimRight s).length ≤ s.length :=
  List.IsPrefix.length_le (List.rdropWhile_prefix isBlank _)

theorem trim_eq_self_of_length {s : List Char} (h : (trim s).length = s.length) : trim s = s := by
  obtain ⟨a, b, -, -, hs⟩ := exists_eq_append_trim s
  have hsum := congrArg List.length hs
  simp only [List.length_append] at hsum
  obtain rfl : a = [] := List.length_eq_zero_iff.mp (by omega)
  obtain rfl : b = [] := List.length_eq_zero_iff.mp (by omega)
  simpa using hs.symm

theorem length_trim_le (s : List Char) : (trim s).length ≤ s.length :=
  (length_trimRight_le _).trans (List.dropWhile_suffix isBlank).length_le

/-- What is trimmed on the right does not end in a blank. -/
theorem isBlank_getLast?_trimRight (s : List Char) :
    ∀ c ∈ (trimRight s).getLast?, isBlank c = false := by
  intro c hc
  obtain ⟨hne, rfl⟩ := List.mem_getLast?_eq_getLast hc
  exact Bool.eq_false_iff.mpr (List.rdropWhile_last_not isBlank s hne)

end RecordFilter.Text
