import RecordFilter.Text.Quoted

/-!
# Spellings of quoted texts

A text can be written between quotes in many ways, as any character may be
escaped.  `Spells` says which they are, and reading up to the closing quote
accepts exactly these.
-/

namespace RecordFilter.Text.Quoted

/-- Between the given quotes, the first list of characters spells the second. -/
inductive Spells (quote : Char) : List Char → List Char → Prop where
  | nil : Spells quote [] []
  | escaped {w t : List Char} (e : Char) (h : Spells quote w t) :
    Spells quote ('\\' :: e :: w) (unescape e :: t)
  | plain {w t : List Char} {c : Char} (hb : c ≠ '\\') (hq : c ≠ quote) (h : Spells quote w t) :
    Spells quote (c :: w) (c :: t)

theorem isQuote_iff {c : Char} : isQuote c = true ↔ c = '"' ∨ c = '\'' := by
  simp [isQuote]

theorem ne_backslash_of_isQuote {c : Char} (h : isQuote c = true) : c ≠ '\\' := by
  rintro rfl
  cases h

/-- What is read is a spelling up to the quote. -/
theorem exists_spells_of_decode {quote : Char} {s t rest : List Char}
    (h : decode quote s = some (t, rest)) : ∃ w, Spells quote w t ∧ s = w ++ quote :: rest := by
  fun_induction decode quote s generalizing t rest with
  | case1 => cases h
  | case2 e s ih =>
    obtain ⟨⟨t', rest'⟩, hs, heq⟩ := Option.map_eq_some_iff.mp h
    cases heq
    obtain ⟨w, hw, rfl⟩ := ih hs
    exact ⟨'\\' :: e :: w, .escaped e hw, rfl⟩
  | case3 => cases h
  | case4 s =>
    cases h
    exact ⟨[], .nil, rfl⟩
  | case5 c s _ hb hq ih =>
    obtain ⟨⟨t', rest'⟩, hs, heq⟩ := Option.map_eq_some_iff.mp h
    cases heq
    obtain ⟨w, hw, rfl⟩ := ih hs
    exact ⟨c :: w, .plain hb hq hw, rfl⟩

theorem decode_of_spells {quote : Char} {w t : List Char} (hquote : quote ≠ '\\')
    (h : Spells quote w t) (rest : List Char) :
    decode quote (w ++ quote :: rest) = some (t, rest) := by
  induction h with
  | nil => simp [decode, hquote]
  | escaped e _ ih => simp [decode, ih]
  | plain hb hq _ ih => simp [decode, hb, hq, ih]

theorem decode_eq_some_iff {quote : Char} {s t rest : List Char} (hquote : quote ≠ '\\') :
    decode quote s = some (t, rest) ↔ ∃ w, Spells quote w t ∧ s = w ++ quote :: rest := by
  refine ⟨exists_spells_of_decode, ?_⟩
  rintro ⟨w, hw, rfl⟩
  exact decode_of_spells hquote hw rest

/-- Written text spells the text. -/
theorem spells_flatMap {escape : Char → List Char} (h : EscapesQuotes escape) (s : List Char) :
    Spells '"' (s.flatMap escape) s := by
  obtain ⟨w, hw, heq⟩ := exists_spells_of_decode (decode_encode h s [])
  rw [List.append_cancel_right heq]
  exact hw

end RecordFilter.Text.Quoted
