import RecordFilter.Proofs.Query.Values
import RecordFilter.Proofs.Text.Lines

/-!
# Where the faults of a clause lie

A reader that fails does so with two suffixes of the text it was given, the
second of them a part of the first (`Fault.LiesIn`).  The first one begins where
the text ends, or else at a place with something to see: readers skip layout
before they look, and where a colon is missing there is a word in front of the
place.  One lemma for each reader says so, and since a reader only hands on what
it leaves of its text, the places of a part are places of the whole.
-/

namespace RecordFilter.Clause

open Text (IsLayoutRun IsVisible isLayout skipLayout)

/-! ## Places -/

/-- Whether a suffix of a text is empty or begins at a place with something to see. -/
def IsPlace (s t : List Char) : Prop := ∃ before, s = before ++ t ∧ (t = [] ∨ IsVisible before t)

theorem isPlace_of_head {s t : List Char} (before : List Char) (hs : s = before ++ t)
    (ht : ∀ c ∈ t.head?, isLayout c = false) : IsPlace s t := by
  refine ⟨before, hs, ?_⟩
  cases t with
  | nil => exact .inl rfl
  | cons c t => exact .inr (.inl ⟨c, rfl, ht c rfl⟩)

theorem isPlace_nil (s : List Char) : IsPlace s [] :=
  isPlace_of_head s (List.append_nil s).symm (by simp)

theorem isPlace_skipLayout (s : List Char) : IsPlace s (skipLayout s) := by
  obtain ⟨l, -, hs⟩ := Text.exists_eq_append_skipLayout s
  exact isPlace_of_head l hs Text.eq_false_of_mem_head?_dropWhile

/-- The places of a part of a text are places of the text. -/
theorem IsPlace.append {s t : List Char} (h : IsPlace s t) (l : List Char) :
    IsPlace (l ++ s) t := by
  obtain ⟨before, rfl, hbefore⟩ := h
  exact ⟨l ++ before, (List.append_assoc ..).symm, hbefore.imp_right fun h ↦ h.append_left l⟩

/-- Whether a fault starts at a place of a text and does not stop before it. -/
structure Fault.LiesIn (f : Fault) (s : List Char) : Prop where
  start : IsPlace s f.start
  stop : f.stop <:+ f.start

namespace Fault

variable {s t : List Char} {f : Fault}

theorem LiesIn.append (h : f.LiesIn s) (l : List Char) : f.LiesIn (l ++ s) :=
  ⟨h.start.append l, h.stop⟩

theorem liesIn_toEnd (cause : Cause) (h : IsPlace s t) : (toEnd cause t).LiesIn s :=
  ⟨h, List.nil_suffix⟩

end Fault

/-! ## Fields -/

/-- A field that is missing is missed behind the layout, a colon right behind the word. -/
theorem liesIn_of_readField {missing : Cause} {s : List Char} {f : Fault}
    (h : readField missing s = .error f) : f.LiesIn s := by
  unfold readField at h
  split at h
  · cases h
    exact Fault.liesIn_toEnd _ (isPlace_skipLayout s)
  · next field hfield =>
    split at h
    · cases h
      obtain ⟨l, -, hs, hstart, ⟨hne, hword⟩, -⟩ := takeField?_eq_some_iff.mp hfield
      have hlast : field.word.getLast hne ∈ (l ++ field.word).getLast? := by
        rw [List.getLast?_append_of_ne_nil l hne]
        exact List.getLast?_eq_some_getLast hne
      have hlayout := isLayout_of_isFieldChar (hword _ (List.getLast_mem hne))
      refine Fault.liesIn_toEnd _ ⟨l ++ field.word, ?_, .inr (.inr ⟨_, hlast, hlayout⟩)⟩
      rw [hs, hstart, List.append_assoc]
    · cases h

/-- What a field and its colon leave is a part of the text, and a fault of the field lies in it. -/
theorem exists_append_of_readField {missing : Cause} {s rest : List Char} {field : Field}
    (h : readField missing s = .ok (field, rest)) :
    (∃ l, s = l ++ rest) ∧ ∀ cause, (field.fault cause).LiesIn s := by
  obtain ⟨l, l', -, -, ⟨hne, hword⟩, hs, hstart, hrest⟩ := readField_eq_ok_iff.mp h
  refine ⟨⟨l ++ field.word ++ l' ++ [':'], by simp [hs, hstart, hrest]⟩, fun cause ↦ ⟨?_, ?_⟩⟩
  · refine isPlace_of_head l hs fun c hc ↦ ?_
    have hhead : c ∈ field.word.head? := by
      have hc' : c ∈ field.start.head? := hc
      rwa [hstart, List.head?_append_of_ne_nil field.word hne] at hc'
    exact isLayout_of_isFieldChar (hword c (List.mem_of_mem_head? hhead))
  · exact ⟨field.word, hstart.symm⟩

theorem exists_append_of_takeOperator? {s rest : List Char} {o : Operator}
    (h : takeOperator? s = some (o, rest)) : ∃ l, s = l ++ rest := by
  obtain ⟨l, w, l', -, -, rfl, -⟩ := takeOperator?_eq_some_iff.mp h
  exact ⟨l ++ w ++ l' ++ [':'], by simp⟩

/-- A path has no faults but those of its whole field. -/
theorem exists_fault_of_readPath {field : Field} {f : Fault} (h : readPath field = .error f) :
    ∃ cause, f = field.fault cause := by
  unfold readPath at h
  split at h
  · cases h
    exact ⟨_, rfl⟩
  · split at h
    · cases h
      exact ⟨_, rfl⟩
    · cases h

/-! ## Values -/

/-- A quoted text can only lack its closing quote. -/
theorem eq_of_readQuoted_eq_error {s : List Char} {f : Fault} (h : readQuoted s = .error f) :
    f = .toEnd .unterminatedText s := by
  unfold readQuoted at h
  split at h
  · split at h
    · cases h
    · cases h
      rfl
  · cases h
    rfl

/-- A fault of an item starts where the item does, unless there is none and the list is not
closed. -/
theorem of_readItem_eq_error {list s : List Char} {f : Fault} (h : readItem list s = .error f) :
    f = .toEnd .unclosedList list ∨ (f.start = s ∧ f.stop <:+ f.start) := by
  unfold readItem at h
  split at h
  · cases h
    exact .inl rfl
  · split_ifs at h
    · rw [eq_of_readQuoted_eq_error h]
      exact .inr ⟨rfl, List.nil_suffix⟩
    · cases h
      exact .inr ⟨rfl, List.nil_suffix⟩
    · split at h
      · cases h
        exact .inr ⟨rfl, List.suffix_rfl⟩
      · cases h

theorem exists_append_of_readItem {list s rest : List Char} {v : Raw}
    (h : readItem list s = .ok (v, rest)) : ∃ l, s = l ++ rest := by
  rcases readItem_eq_ok_iff.mp h with ⟨q, w, t, rfl, -⟩ | ⟨w, rfl, -⟩
  · exact ⟨q :: (w ++ [q]), by simp⟩
  · exact ⟨w, rfl⟩

/-- Items leave a part of their text. -/
theorem exists_append_of_readItems {list s rest : List Char} {n : Nat} {items : List Raw}
    (h : readItems list n s = .ok (items, rest)) : ∃ l, s = l ++ rest := by
  induction n generalizing s items with
  | zero => cases h
  | succ n ih =>
    obtain ⟨v, r, hv, hnext⟩ := readItems_succ_eq_ok_iff.mp h
    obtain ⟨l₁, -, hs⟩ := Text.exists_eq_append_skipLayout s
    obtain ⟨l₂, hitem⟩ := exists_append_of_readItem hv
    obtain ⟨l₃, -, hr⟩ := Text.exists_eq_append_skipLayout r
    rcases hnext with ⟨r', vs, hcomma, hvs, -⟩ | ⟨hclose, -⟩
    · obtain ⟨l₄, rfl⟩ := ih hvs
      exact ⟨l₁ ++ l₂ ++ l₃ ++ ',' :: l₄, by rw [hs, hitem, hr, hcomma]; simp⟩
    · exact ⟨l₁ ++ l₂ ++ l₃ ++ [']'], by rw [hs, hitem, hr, hclose]; simp⟩

/-- Items fail where one of them does, behind one of them, or because the list is not closed. -/
theorem of_readItems_eq_error {list s : List Char} {n : Nat} {f : Fault}
    (h : readItems list n s = .error f) : f = .toEnd .unclosedList list ∨ f.LiesIn s := by
  induction n generalizing s with
  | zero =>
    cases h
    exact .inl rfl
  | succ n ih =>
    rw [readItems] at h
    obtain ⟨l₁, -, hs⟩ := Text.exists_eq_append_skipLayout s
    rcases bind_eq_error_iff.mp h with hitem | ⟨⟨v, r⟩, hitem, h⟩
    · refine (of_readItem_eq_error hitem).imp_right ?_
      rintro ⟨hstart, hstop⟩
      exact ⟨hstart ▸ isPlace_skipLayout s, hstop⟩
    · obtain ⟨l₂, hl₂⟩ := exists_append_of_readItem hitem
      obtain ⟨l₃, -, hr⟩ := Text.exists_eq_append_skipLayout r
      simp only at h
      split at h
      · next r' hcomma =>
        rcases bind_eq_error_iff.mp h with hrest | ⟨p, -, h⟩
        · refine (ih hrest).imp_right fun hlies ↦ ?_
          have htext : s = (l₁ ++ l₂ ++ l₃ ++ [',']) ++ r' := by
            rw [hs, hl₂, hr, hcomma]
            simp
          rw [htext]
          exact hlies.append _
        · cases h
      · cases h
      · cases h
        exact .inl rfl
      · next c rest _ _ hstray =>
        cases h
        have htext : s = (l₁ ++ l₂) ++ r := by rw [hs, hl₂, List.append_assoc]
        rw [← hstray, htext]
        exact .inr ((Fault.liesIn_toEnd _ (isPlace_skipLayout r)).append _)

theorem exists_append_of_readList {body rest : List Char} {v : Raw}
    (h : readList ('[' :: body) = .ok (v, rest)) : ∃ l, '[' :: body = l ++ rest := by
  obtain ⟨l₁, -, hbody⟩ := Text.exists_eq_append_skipLayout body
  rcases readList_cons_eq_ok_iff.mp h with ⟨hclose, -⟩ | ⟨items, hitems, -⟩
  · exact ⟨'[' :: (l₁ ++ [']']), by rw [hbody, hclose]; simp⟩
  · obtain ⟨l₂, hl₂⟩ := exists_append_of_readItems hitems
    exact ⟨'[' :: (l₁ ++ l₂), by rw [hbody, hl₂]; simp⟩

/-- A list that is not closed is at fault from its bracket on. -/
theorem liesIn_of_readList {body : List Char} {f : Fault}
    (h : readList ('[' :: body) = .error f) : f.LiesIn ('[' :: body) := by
  obtain ⟨l, -, hbody⟩ := Text.exists_eq_append_skipLayout body
  unfold readList at h
  rw [List.drop_succ_cons, List.drop_zero] at h
  split at h
  · cases h
  · rcases bind_eq_error_iff.mp h with hitems | ⟨p, -, h⟩
    · rcases of_readItems_eq_error hitems with rfl | hlies
      · refine Fault.liesIn_toEnd _ (isPlace_of_head [] rfl ?_)
        rintro c hc
        cases hc
        rfl
      · have htext : '[' :: body = ('[' :: l) ++ skipLayout body := congrArg ('[' :: ·) hbody
        rw [htext]
        exact hlies.append _
    · cases h

theorem exists_append_of_takeValue {s rest : List Char} {v : Raw}
    (h : takeValue s = .ok (v, rest)) : ∃ l, s = l ++ rest := by
  cases s with
  | nil => cases h
  | cons c body =>
    rcases takeValue_cons_eq_ok_iff.mp h with ⟨rfl, hlist⟩ | ⟨-, w, t, -, rfl, -⟩ | ⟨-, -, rfl⟩
    · exact exists_append_of_readList hlist
    · exact ⟨c :: (w ++ [c]), by simp⟩
    · exact ⟨c :: body, (List.append_nil _).symm⟩

/-- A value fails inside of a list, or from its own start on. -/
theorem liesIn_of_takeValue {s : List Char} {f : Fault}
    (hs : ∀ c ∈ s.head?, isLayout c = false) (h : takeValue s = .error f) : f.LiesIn s := by
  unfold takeValue at h
  split at h
  · cases h
    exact ⟨isPlace_nil [], List.suffix_rfl⟩
  · next c body =>
    split_ifs at h with hopen hquote
    · obtain rfl := beq_iff_eq.mp hopen
      exact liesIn_of_readList h
    · rw [eq_of_readQuoted_eq_error h]
      exact Fault.liesIn_toEnd _ (isPlace_of_head [] rfl hs)

/-- A value that is not all there is fails where the rest begins, layout aside. -/
theorem liesIn_of_readValue {s : List Char} {f : Fault} (h : readValue s = .error f) :
    f.LiesIn s := by
  obtain ⟨l, -, hs⟩ := Text.exists_eq_append_skipLayout s
  unfold readValue at h
  rw [hs]
  rcases bind_eq_error_iff.mp h with hvalue | ⟨⟨v, rest⟩, hvalue, h⟩
  · exact (liesIn_of_takeValue Text.eq_false_of_mem_head?_dropWhile hvalue).append l
  · obtain ⟨l', hl'⟩ := exists_append_of_takeValue hvalue
    rw [hl']
    simp only at h
    split at h
    · cases h
    · cases h
      exact ((Fault.liesIn_toEnd _ (isPlace_skipLayout rest)).append l').append l

/-! ## Clauses -/

/-- A path and the value behind it fail in the text of which both are parts. -/
theorem liesIn_of_readPath_readValue {s rest : List Char} {field : Field} {f : Fault}
    {make : Path → Raw → Descriptor} (hfield : ∀ cause, (field.fault cause).LiesIn s)
    (hrest : ∃ l, s = l ++ rest)
    (h : (readPath field).bind (fun path ↦ (readValue rest).bind fun value ↦
      .ok (make path value)) = .error f) : f.LiesIn s := by
  rcases bind_eq_error_iff.mp h with hpath | ⟨path, -, h⟩
  · obtain ⟨cause, rfl⟩ := exists_fault_of_readPath hpath
    exact hfield cause
  · rcases bind_eq_error_iff.mp h with hvalue | ⟨value, -, h⟩
    · obtain ⟨l, rfl⟩ := hrest
      exact (liesIn_of_readValue hvalue).append l
    · cases h

/-- The fault of a clause lies in the clause. -/
theorem liesIn_of_read {s : List Char} {f : Fault} (h : read s = .error f) : f.LiesIn s := by
  rcases bind_eq_error_iff.mp h with hfirst | ⟨⟨first, s₁⟩, hfirst, h₁⟩
  · exact liesIn_of_readField hfirst
  · obtain ⟨⟨l₁, rfl⟩, hfault₁⟩ := exists_append_of_readField hfirst
    rcases bind_eq_error_iff.mp h₁ with hsecond | ⟨⟨second, s₂⟩, hsecond, h₂⟩
    · exact (liesIn_of_readField hsecond).append l₁
    · obtain ⟨⟨l₂, rfl⟩, hfault₂⟩ := exists_append_of_readField hsecond
      have hfault₂' := fun cause ↦ (hfault₂ cause).append l₁
      simp only at h₂
      split at h₂
      · next connective operator s₃ _ hoperator =>
        obtain ⟨l₃, rfl⟩ := exists_append_of_takeOperator? hoperator
        exact liesIn_of_readPath_readValue hfault₂' ⟨l₁ ++ l₂ ++ l₃, by simp⟩ h₂
      · split at h₂
        · exact liesIn_of_readPath_readValue hfault₁ ⟨l₁ ++ l₂, by simp⟩ h₂
        · split at h₂
          · cases h₂
            exact hfault₁ _
          · cases h₂
            exact hfault₂' _

end RecordFilter.Clause
