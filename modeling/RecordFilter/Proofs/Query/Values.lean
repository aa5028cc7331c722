import RecordFilter.Proofs.Outcome
import RecordFilter.Proofs.Query.Literals
import RecordFilter.Proofs.Text.Quoted

/-!
# The values of a clause

A value is a list, a quoted text or a bare literal, and which of them it is
shows in its first character.  For each reader of values the texts that it
accepts are given, with the value that it makes of them: quoted texts and items
first, then lists, item by item, then whole values.  What a list or a quoted
text is read as does not depend on what stands behind it; a bare literal takes
all that is left.
-/

namespace RecordFilter

/-- The values that a clause can spell: scalars and lists of scalars. -/
inductive Raw.IsSpelled : Raw → Prop where
  | scalar {v : Raw} (h : v.IsScalar) : IsSpelled v
  | list {items : List Raw} (h : ∀ v ∈ items, v.IsScalar) : IsSpelled (list items)

namespace Clause

open Text (IsLayoutRun isLayout skipLayout)
open Text.Quoted (isQuote Spells)

/-! ## Quoted texts and items -/

theorem readQuoted_cons_eq_ok_iff {q : Char} {body rest : List Char} {v : Raw}
    (hq : isQuote q = true) :
    readQuoted (q :: body) = .ok (v, rest) ↔
      ∃ w t, Spells q w t ∧ body = w ++ q :: rest ∧ v = .text (String.ofList t) := by
  have hdecode : readQuoted (q :: body) = .ok (v, rest) ↔
      ∃ t, Text.Quoted.decode q body = some (t, rest) ∧ v = .text (String.ofList t) := by
    unfold readQuoted
    simp only
    cases Text.Quoted.decode q body with
    | none => simp
    | some p => simp [Prod.ext_iff, eq_comm, and_comm]
  rw [hdecode]
  simp only [Text.Quoted.decode_eq_some_iff (Text.Quoted.ne_backslash_of_isQuote hq)]
  constructor
  · rintro ⟨t, ⟨w, hw, hbody⟩, hv⟩
    exact ⟨w, t, hw, hbody, hv⟩
  · rintro ⟨w, t, hw, hbody, hv⟩
    exact ⟨t, ⟨w, hw, hbody⟩, hv⟩

/-- Whether a bare literal may start with this character. -/
def StartsBare (c : Char) : Prop := isQuote c = false ∧ c ≠ '['

/-- A bare item goes on to the comma or bracket that ends it. -/
theorem readItem_bare_eq_ok_iff {list s rest : List Char} {c : Char} {v : Raw}
    (hc : StartsBare c) :
    readItem list (c :: s) = .ok (v, rest) ↔
      ∃ w, c :: s = w ++ rest ∧ (∀ d ∈ w, endsItem d = false) ∧
        (∀ d ∈ rest.head?, endsItem d = true) ∧ Text.trim w ≠ [] ∧
        v = Literal.classify (Text.trim w) := by
  obtain ⟨hquote, hopen⟩ := hc
  constructor
  · intro h
    simp only [readItem, hquote, beq_iff_eq, hopen, if_false, Bool.false_eq_true] at h
    split at h
    · cases h
    · next hne =>
      rw [Except.ok.injEq, Prod.mk.injEq] at h
      obtain ⟨rfl, rfl⟩ := h
      refine ⟨(c :: s).takeWhile (!endsItem ·), ?_, ?_, ?_, hne, rfl⟩
      · exact List.takeWhile_append_dropWhile.symm
      · exact fun d hd ↦ by simpa using List.mem_takeWhile_imp hd
      · intro d hd
        simpa using Text.eq_false_of_mem_head?_dropWhile d hd
  · rintro ⟨w, hs, hw, hend, htrim, rfl⟩
    obtain ⟨htake, hdrop⟩ := Text.takeWhile_dropWhile_append
      (p := (!endsItem ·)) (s := w) (t := rest) (by simpa using hw) (by simpa using hend)
    rw [← hs] at htake hdrop
    simp only [readItem, hquote, beq_iff_eq, hopen, if_false, Bool.false_eq_true, htake, hdrop]

/-- An item is a quoted text, or a bare literal up to the comma or bracket that ends it. -/
theorem readItem_eq_ok_iff {list s rest : List Char} {v : Raw} :
    readItem list s = .ok (v, rest) ↔
      (∃ q w t, s = q :: (w ++ q :: rest) ∧ isQuote q = true ∧ Spells q w t ∧
        v = .text (String.ofList t)) ∨
      (∃ w, s = w ++ rest ∧ (∀ c ∈ w.head?, StartsBare c) ∧ (∀ c ∈ w, endsItem c = false) ∧
        (∀ c ∈ rest.head?, endsItem c = true) ∧ Text.trim w ≠ [] ∧
        v = Literal.classify (Text.trim w)) := by
  constructor
  · intro h
    cases s with
    | nil => cases h
    | cons c s =>
      by_cases hquote : isQuote c = true
      · have hread : readItem list (c :: s) = readQuoted (c :: s) := by
          simp [readItem, hquote]
        rw [hread] at h
        obtain ⟨w, t, hw, rfl, rfl⟩ := (readQuoted_cons_eq_ok_iff hquote).mp h
        exact .inl ⟨c, w, t, rfl, hquote, hw, rfl⟩
      · by_cases hopen : c = '['
        · subst hopen
          cases h
        · have hc : StartsBare c := ⟨by simpa using hquote, hopen⟩
          obtain ⟨w, hs, hw, hend, htrim, rfl⟩ := (readItem_bare_eq_ok_iff hc).mp h
          refine .inr ⟨w, hs, ?_, hw, hend, htrim, rfl⟩
          intro d hd
          cases w with
          | nil => cases hd
          | cons e w =>
            obtain ⟨rfl, -⟩ := List.cons.inj hs
            cases hd
            exact hc
  · rintro (⟨q, w, t, rfl, hq, hw, rfl⟩ | ⟨w, rfl, hhead, hw, hend, htrim, rfl⟩)
    · have hread : readItem list (q :: (w ++ q :: rest)) = readQuoted (q :: (w ++ q :: rest)) := by
        simp [readItem, hq]
      rw [hread]
      exact (readQuoted_cons_eq_ok_iff hq).mpr ⟨w, t, hw, rfl, rfl⟩
    · cases w with
      | nil => exact absurd rfl htrim
      | cons c w =>
        exact (readItem_bare_eq_ok_iff (hhead c rfl)).mpr ⟨c :: w, rfl, hw, hend, htrim, rfl⟩

theorem readItem_append {list s rest : List Char} {v : Raw}
    (h : readItem list s = .ok (v, rest)) (hrest : rest ≠ []) (list' e : List Char) :
    readItem list' (s ++ e) = .ok (v, rest ++ e) := by
  rw [readItem_eq_ok_iff] at h ⊢
  rcases h with ⟨q, w, t, rfl, hq, hw, rfl⟩ | ⟨w, rfl, hhead, hw, hend, htrim, rfl⟩
  · exact .inl ⟨q, w, t, by simp, hq, hw, rfl⟩
  · refine .inr ⟨w, List.append_assoc _ _ _, hhead, hw, ?_, htrim, rfl⟩
    rw [List.head?_append_of_ne_nil rest hrest]
    exact hend

theorem ne_nil_of_readItem {list s rest : List Char} {v : Raw}
    (h : readItem list s = .ok (v, rest)) : s ≠ [] := by
  rintro rfl
  cases h

theorem isScalar_of_readItem {list s rest : List Char} {v : Raw}
    (h : readItem list s = .ok (v, rest)) : v.IsScalar := by
  rcases readItem_eq_ok_iff.mp h with ⟨q, w, t, -, -, -, rfl⟩ | ⟨w, -, -, -, -, -, rfl⟩
  · exact .text _
  · exact Literal.isScalar_classify _

/-! ## Lists -/

/-- One item is read, and behind it either a comma and more items or the closing bracket. -/
theorem readItems_succ_eq_ok_iff {list s rest : List Char} {n : Nat} {items : List Raw} :
    readItems list (n + 1) s = .ok (items, rest) ↔
      ∃ v r, readItem list (skipLayout s) = .ok (v, r) ∧
        ((∃ r' vs, skipLayout r = ',' :: r' ∧ readItems list n r' = .ok (vs, rest) ∧
          items = v :: vs) ∨
        (skipLayout r = ']' :: rest ∧ items = [v])) := by
  rw [readItems]
  constructor
  · intro h
    obtain ⟨⟨v, r⟩, hv, h⟩ := bind_eq_ok_iff.mp h
    refine ⟨v, r, hv, ?_⟩
    simp only at h
    split at h
    · next r' hr =>
      obtain ⟨⟨vs, rest'⟩, hvs, h⟩ := bind_eq_ok_iff.mp h
      cases h
      exact .inl ⟨r', vs, hr, hvs, rfl⟩
    · next r' hr =>
      cases h
      exact .inr ⟨hr, rfl⟩
    · cases h
    · cases h
  · rintro ⟨v, r, hv, ⟨r', vs, hr, hvs, rfl⟩ | ⟨hr, rfl⟩⟩
    · refine bind_eq_ok_iff.mpr ⟨(v, r), hv, ?_⟩
      simp only [hr]
      exact bind_eq_ok_iff.mpr ⟨(vs, rest), hvs, rfl⟩
    · refine bind_eq_ok_iff.mpr ⟨(v, r), hv, ?_⟩
      simp only [hr]
      rfl

theorem readItems_append {list s rest : List Char} {n m : Nat} {items : List Raw} (hnm : n ≤ m)
    (h : readItems list n s = .ok (items, rest)) (list' e : List Char) :
    readItems list' m (s ++ e) = .ok (items, rest ++ e) := by
  induction n generalizing s items m with
  | zero => cases h
  | succ n ih =>
    obtain ⟨m, rfl⟩ : ∃ m', m = m' + 1 := ⟨m - 1, by omega⟩
    obtain ⟨v, r, hv, hnext⟩ := readItems_succ_eq_ok_iff.mp h
    have hr : skipLayout r ≠ [] := by
      rcases hnext with ⟨r', vs, hr, -, -⟩ | ⟨hr, -⟩ <;> simp [hr]
    have hr' : r ≠ [] := by
      rintro rfl
      exact hr rfl
    have hv' : readItem list' (skipLayout (s ++ e)) = .ok (v, r ++ e) := by
      rw [Text.skipLayout_append_of_ne_nil (ne_nil_of_readItem hv)]
      exact readItem_append hv hr' list' e
    refine readItems_succ_eq_ok_iff.mpr ⟨v, r ++ e, hv', ?_⟩
    rw [Text.skipLayout_append_of_ne_nil hr]
    rcases hnext with ⟨r', vs, hr, hvs, rfl⟩ | ⟨hr, rfl⟩
    · exact .inl ⟨r' ++ e, vs, by rw [hr, List.cons_append], ih (by omega) hvs, rfl⟩
    · exact .inr ⟨by rw [hr, List.cons_append], rfl⟩

theorem isScalar_of_readItems {list s rest : List Char} {n : Nat} {items : List Raw}
    (h : readItems list n s = .ok (items, rest)) : ∀ v ∈ items, v.IsScalar := by
  induction n generalizing s items with
  | zero => cases h
  | succ n ih =>
    obtain ⟨v, r, hv, ⟨r', vs, -, hvs, rfl⟩ | ⟨-, rfl⟩⟩ := readItems_succ_eq_ok_iff.mp h
    · exact List.forall_mem_cons.mpr ⟨isScalar_of_readItem hv, ih hvs⟩
    · exact List.forall_mem_singleton.mpr (isScalar_of_readItem hv)

theorem readList_cons_eq_ok_iff {body rest : List Char} {v : Raw} :
    readList ('[' :: body) = .ok (v, rest) ↔
      (skipLayout body = ']' :: rest ∧ v = .list []) ∨
      (∃ items, readItems ('[' :: body) (body.length + 1) (skipLayout body) = .ok (items, rest) ∧
        v = .list items) := by
  have hclosed : ∀ r items, skipLayout body = ']' :: r →
      readItems ('[' :: body) (body.length + 1) (skipLayout body) ≠ .ok (items, rest) := by
    intro r items hr h
    obtain ⟨v, r', hv, -⟩ := readItems_succ_eq_ok_iff.mp h
    have hskip : skipLayout (']' :: r) = ']' :: r := Text.skipLayout_cons_of_not rfl
    rw [hr, hskip, readItem_eq_ok_iff] at hv
    rcases hv with ⟨q, w, t, heq, hq, -, -⟩ | ⟨w, heq, -, hw, -, htrim, -⟩
    · obtain ⟨rfl, -⟩ := List.cons.inj heq
      cases hq
    · cases w with
      | nil => exact htrim rfl
      | cons c w =>
        obtain ⟨rfl, -⟩ := List.cons.inj heq
        exact absurd (hw ']' (by simp)) (by decide)
  unfold readList
  rw [List.drop_succ_cons, List.drop_zero]
  constructor
  · intro h
    split at h
    · next r hr =>
      cases h
      exact .inl ⟨hr, rfl⟩
    · obtain ⟨⟨items, r⟩, hitems, h⟩ := bind_eq_ok_iff.mp h
      cases h
      exact .inr ⟨items, hitems, rfl⟩
  · rintro (⟨hr, rfl⟩ | ⟨items, hitems, rfl⟩)
    · simp only [hr]
    · split
      · next r hr => exact absurd hitems (hclosed r items hr)
      · exact bind_eq_ok_iff.mpr ⟨(items, rest), hitems, rfl⟩

theorem readList_append {body rest : List Char} {v : Raw}
    (h : readList ('[' :: body) = .ok (v, rest)) (e : List Char) :
    readList ('[' :: (body ++ e)) = .ok (v, rest ++ e) := by
  rw [readList_cons_eq_ok_iff] at h ⊢
  rcases h with ⟨hr, rfl⟩ | ⟨items, hitems, rfl⟩
  · refine .inl ⟨?_, rfl⟩
    rw [Text.skipLayout_append_of_ne_nil (by simp [hr]), hr, List.cons_append]
  · have hbody : skipLayout body ≠ [] := by
      intro hnil
      rw [hnil] at hitems
      obtain ⟨v, r, hv, -⟩ := readItems_succ_eq_ok_iff.mp hitems
      exact ne_nil_of_readItem hv rfl
    rw [Text.skipLayout_append_of_ne_nil hbody]
    exact .inr ⟨items, readItems_append (by simp) hitems _ e, rfl⟩

/-! ## Values -/

/-- The first character of a value says what kind of value it is. -/
theorem takeValue_cons_eq_ok_iff {c : Char} {body rest : List Char} {v : Raw} :
    takeValue (c :: body) = .ok (v, rest) ↔
      (c = '[' ∧ readList ('[' :: body) = .ok (v, rest)) ∨
      (isQuote c = true ∧ ∃ w t, Spells c w t ∧ body = w ++ c :: rest ∧
        v = .text (String.ofList t)) ∨
      (StartsBare c ∧ v = Literal.classify (Text.trimRight (c :: body)) ∧ rest = []) := by
  by_cases hopen : c = '['
  · subst hopen
    have hquote : isQuote '[' = false := rfl
    have htake : takeValue ('[' :: body) = readList ('[' :: body) := rfl
    simp [htake, hquote, StartsBare]
  · cases hquote : isQuote c with
    | true =>
      have htake : takeValue (c :: body) = readQuoted (c :: body) := by
        simp [takeValue, hopen, hquote]
      simp [htake, hopen, hquote, StartsBare, readQuoted_cons_eq_ok_iff hquote]
    | false =>
      simp only [takeValue, hopen, hquote, StartsBare, beq_iff_eq, if_false, Except.ok.injEq,
        Prod.mk.injEq, false_and, false_or, Bool.false_eq_true, not_false_eq_true, ne_eq, and_self,
        true_and]
      constructor <;> rintro ⟨rfl, rfl⟩ <;> exact ⟨rfl, rfl⟩

theorem takeValue_of_startsBare {c : Char} {body : List Char} (hc : StartsBare c) :
    takeValue (c :: body) = .ok (Literal.classify (Text.trimRight (c :: body)), []) :=
  takeValue_cons_eq_ok_iff.mpr (.inr (.inr ⟨hc, rfl, rfl⟩))

/-- A list or a quoted text is taken with more text at the end as well. -/
theorem takeValue_append {c : Char} {body rest : List Char} {v : Raw} (hc : ¬StartsBare c)
    (h : takeValue (c :: body) = .ok (v, rest)) (e : List Char) :
    takeValue (c :: (body ++ e)) = .ok (v, rest ++ e) := by
  rw [takeValue_cons_eq_ok_iff] at h ⊢
  rcases h with ⟨rfl, hlist⟩ | ⟨hq, w, t, hw, rfl, rfl⟩ | ⟨hbare, -, -⟩
  · exact .inl ⟨rfl, readList_append hlist e⟩
  · exact .inr (.inl ⟨hq, w, t, hw, by simp, rfl⟩)
  · exact absurd hbare hc

/-- A value is read when it is taken and nothing but layout is left. -/
theorem readValue_eq_ok_iff_takeValue {s : List Char} {v : Raw} :
    readValue s = .ok v ↔
      ∃ c body rest, skipLayout s = c :: body ∧ takeValue (c :: body) = .ok (v, rest) ∧
        IsLayoutRun rest := by
  unfold readValue
  constructor
  · intro h
    obtain ⟨⟨v', rest⟩, hv, h⟩ := bind_eq_ok_iff.mp h
    simp only at h
    split at h
    · next hnil =>
      cases h
      cases hs : skipLayout s with
      | nil =>
        rw [hs] at hv
        cases hv
      | cons c body =>
        rw [hs] at hv
        exact ⟨c, body, rest, rfl, hv, Text.skipLayout_eq_nil_iff.mp hnil⟩
    · cases h
  · rintro ⟨c, body, rest, hs, hv, hrest⟩
    rw [hs]
    refine bind_eq_ok_iff.mpr ⟨(v, rest), hv, ?_⟩
    simp only [Text.skipLayout_eq_nil_iff.mpr hrest]
    rfl

/-- A value is a list or a quoted text with layout behind it, or a bare literal that goes on to the
end. -/
theorem readValue_eq_ok_iff {s : List Char} {v : Raw} :
    readValue s = .ok v ↔
      (∃ body rest, skipLayout s = '[' :: body ∧ readList ('[' :: body) = .ok (v, rest) ∧
        IsLayoutRun rest) ∨
      (∃ q w t rest, skipLayout s = q :: (w ++ q :: rest) ∧ isQuote q = true ∧ Spells q w t ∧
        IsLayoutRun rest ∧ v = .text (String.ofList t)) ∨
      (∃ c body, skipLayout s = c :: body ∧ StartsBare c ∧
        v = Literal.classify (Text.trimRight (c :: body))) := by
  rw [readValue_eq_ok_iff_takeValue]
  constructor
  · rintro ⟨c, body, rest, hs, h, hrest⟩
    rcases takeValue_cons_eq_ok_iff.mp h with
      ⟨rfl, hlist⟩ | ⟨hq, w, t, hw, rfl, rfl⟩ | ⟨hc, rfl, -⟩
    · exact .inl ⟨body, rest, hs, hlist, hrest⟩
    · exact .inr (.inl ⟨c, w, t, rest, hs, hq, hw, hrest, rfl⟩)
    · exact .inr (.inr ⟨c, body, hs, hc, rfl⟩)
  · rintro (⟨body, rest, hs, hlist, hrest⟩ | ⟨q, w, t, rest, hs, hq, hw, hrest, rfl⟩ |
      ⟨c, body, hs, hc, rfl⟩)
    · exact ⟨_, _, rest, hs, takeValue_cons_eq_ok_iff.mpr (.inl ⟨rfl, hlist⟩), hrest⟩
    · exact ⟨_, _, rest, hs,
        takeValue_cons_eq_ok_iff.mpr (.inr (.inl ⟨hq, w, t, hw, rfl, rfl⟩)), hrest⟩
    · exact ⟨_, _, [], hs, takeValue_cons_eq_ok_iff.mpr (.inr (.inr ⟨hc, rfl, rfl⟩)),
        Text.isLayoutRun_nil⟩

/-- Only scalars and lists of scalars are read. -/
theorem isSpelled_of_readValue {s : List Char} {v : Raw} (h : readValue s = .ok v) :
    v.IsSpelled := by
  rcases readValue_eq_ok_iff.mp h with ⟨body, rest, -, hlist, -⟩ |
    ⟨q, w, t, rest, -, -, -, -, rfl⟩ | ⟨c, body, -, -, rfl⟩
  · rcases readList_cons_eq_ok_iff.mp hlist with ⟨-, rfl⟩ | ⟨items, hitems, rfl⟩
    · exact .list (by simp)
    · exact .list (isScalar_of_readItems hitems)
  · exact .scalar (.text _)
  · exact .scalar (Literal.isScalar_classify _)

/-- With a semicolon behind it, a value is not read as the same value: a list or a quoted text is
not all there is, and a bare literal becomes longer. -/
theorem readValue_append_semicolon_ne {s : List Char} {v : Raw} (h : readValue s = .ok v)
    (b e : List Char) : readValue (s ++ (b ++ ';' :: e)) ≠ .ok v := by
  intro h'
  obtain ⟨c, body, rest, hs, hv, -⟩ := readValue_eq_ok_iff_takeValue.mp h
  obtain ⟨c', body', rest', hs', hv', hrest'⟩ := readValue_eq_ok_iff_takeValue.mp h'
  rw [Text.skipLayout_append_of_ne_nil (by simp [hs]), hs, List.cons_append, List.cons.injEq] at hs'
  obtain ⟨rfl, rfl⟩ := hs'
  by_cases hc : StartsBare c
  · rw [takeValue_of_startsBare hc] at hv hv'
    have hlonger : Text.trimRight (c :: (body ++ (b ++ ';' :: e)))
        = (c :: body) ++ (b ++ ';' :: Text.trimRight e) := by
      have hsplit : c :: (body ++ (b ++ ';' :: e)) = (c :: (body ++ b)) ++ ';' :: e := by simp
      rw [hsplit, Text.trimRight_append_cons rfl]
      simp
    have htext : v = .text (String.ofList ((c :: body) ++ (b ++ ';' :: Text.trimRight e))) := by
      rw [hlonger, Except.ok.injEq, Prod.mk.injEq] at hv'
      rw [← hv'.1]
      exact Literal.classify_of_not_isLexemeChar (c := ';') (by simp) (by decide)
    rw [htext, Except.ok.injEq, Prod.mk.injEq] at hv
    have hsame := String.ofList_inj.mp (Literal.eq_of_classify_eq_text hv.1)
    have hlength := Text.length_trimRight_le (c :: body)
    rw [← hsame] at hlength
    simp only [List.length_append, List.length_cons] at hlength
    omega
  · rw [takeValue_append hc hv, Except.ok.injEq, Prod.mk.injEq] at hv'
    obtain ⟨-, rfl⟩ := hv'
    have hlayout := hrest' ';' (by simp)
    cases hlayout

end Clause

end RecordFilter
