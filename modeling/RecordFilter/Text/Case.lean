/-!
# Comparing words without regard to case

Keywords, kinds, enumeration variants and, on request, property paths are
compared after lowering the 26 ASCII letters; every other character stands for
itself.
-/

namespace RecordFilter.Text

/-- Lowers the ASCII letters of a word. -/
def foldCase (s : String) : String := String.ofList (s.toList.map Char.toLower)

/-- Equality up to the case of ASCII letters. -/
def sameFolded (s t : String) : Bool := s.toList.map Char.toLower == t.toList.map Char.toLower

theorem sameFolded_iff {s t : String} : sameFolded s t = true ↔ foldCase s = foldCase t := by
  simp [sameFolded, foldCase, String.ofList_inj]

@[simp] theorem sameFolded_refl (s : String) : sameFolded s s = true := by
  simp [sameFolded]

theorem sameFolded_comm (s t : String) : sameFolded s t = sameFolded t s := by
  rw [Bool.eq_iff_iff, sameFolded_iff, sameFolded_iff, eq_comm]

theorem sameFolded_trans {s t u : String} (h : sameFolded s t = true) (k : sameFolded t u = true) :
    sameFolded s u = true := by
  rw [sameFolded_iff] at *
  exact h.trans k

end RecordFilter.Text
