import RecordFilter.Proofs.Query.Paths
import RecordFilter.Proofs.Query.Values

/-!
# What a clause is read as

A clause has two readings.  With a connective in front of it, it is a
connective, a path, an operator and a value; else it is a path, an operator and
a value.  The first reading has precedence wherever it gets as far as the
operator (`read_eq_ok_iff`), so a path may well be spelled like a connective.
-/

namespace RecordFilter.Clause

/-- The reading with a connective: the first field names it, the second is the path. -/
structure ReadsConnected (first second : Field) (s : List Char) (d : Descriptor) : Prop where
  connective : ∃ c, Connective.ofKeyword? first.text = some c ∧ d.connective = some c
  operator : ∃ r, takeOperator? s = some (d.operator, r) ∧ readValue r = .ok d.value
  path : readPath second = .ok d.path

/-- The reading without a connective: the first field is the path, the second names the
operator. -/
structure ReadsPlain (first second : Field) (s : List Char) (d : Descriptor) : Prop where
  notConnected : Connective.ofKeyword? first.text = none ∨ takeOperator? s = none
  connective : d.connective = none
  operator : Operator.ofKeyword? second.text = some d.operator
  path : readPath first = .ok d.path
  value : readValue s = .ok d.value

/-- Path and value make up a descriptor when both are read. -/
theorem bind_readPath_readValue_eq_ok_iff {f : Field} {s : List Char}
    {connective : Option Connective} {o : Operator} {d : Descriptor} :
    ((readPath f).bind fun p ↦ (readValue s).bind fun v ↦
        .ok ⟨connective, o, p, v⟩) = .ok d ↔
      d.connective = connective ∧ d.operator = o ∧ readPath f = .ok d.path ∧
        readValue s = .ok d.value := by
  rw [bind_eq_ok_iff]
  constructor
  · rintro ⟨p, hp, h⟩
    obtain ⟨v, hv, h⟩ := bind_eq_ok_iff.mp h
    cases h
    exact ⟨rfl, rfl, hp, hv⟩
  · obtain ⟨connective', o', p, v⟩ := d
    rintro ⟨rfl, rfl, hp, hv⟩
    exact ⟨p, hp, bind_eq_ok_iff.mpr ⟨v, hv, rfl⟩⟩

theorem read_eq_ok_iff {s : List Char} {d : Descriptor} :
    read s = .ok d ↔
      ∃ first s₁ second s₂, readField .missingPath s = .ok (first, s₁) ∧
        readField .missingOperator s₁ = .ok (second, s₂) ∧
        (ReadsConnected first second s₂ d ∨ ReadsPlain first second s₂ d) := by
  constructor
  · intro h
    obtain ⟨⟨first, s₁⟩, hfirst, h⟩ := bind_eq_ok_iff.mp h
    obtain ⟨⟨second, s₂⟩, hsecond, h⟩ := bind_eq_ok_iff.mp h
    refine ⟨first, s₁, second, s₂, hfirst, hsecond, ?_⟩
    simp only at h
    split at h
    · next c o r hc ho =>
      obtain ⟨hd, rfl, hp, hv⟩ := bind_readPath_readValue_eq_ok_iff.mp h
      exact .inl ⟨⟨c, hc, hd⟩, ⟨r, ho, hv⟩, hp⟩
    · next hnot =>
      split at h
      · next o ho =>
        obtain ⟨hd, rfl, hp, hv⟩ := bind_readPath_readValue_eq_ok_iff.mp h
        refine .inr ⟨?_, hd, ho, hp, hv⟩
        cases hc : Connective.ofKeyword? first.text with
        | none => exact .inl rfl
        | some c =>
          cases hnext : takeOperator? s₂ with
          | none => exact .inr rfl
          | some p => exact (hnot c p.1 p.2 hc hnext).elim
      · split at h <;> cases h
  · rintro ⟨first, s₁, second, s₂, hfirst, hsecond, hread⟩
    refine bind_eq_ok_iff.mpr ⟨(first, s₁), hfirst, ?_⟩
    refine bind_eq_ok_iff.mpr ⟨(second, s₂), hsecond, ?_⟩
    rcases hread with ⟨⟨c, hc, hd⟩, ⟨r, ho, hv⟩, hp⟩ | ⟨hnot, hd, ho, hp, hv⟩
    · simp only [hc, ho]
      exact bind_readPath_readValue_eq_ok_iff.mpr ⟨hd, rfl, hp, hv⟩
    · have hplain := bind_readPath_readValue_eq_ok_iff.mpr ⟨hd, rfl, hp, hv⟩
      rcases hnot with hnot | hnot
      · simp only [hnot, ho]
        exact hplain
      · simp only [hnot, ho]
        cases Connective.ofKeyword? first.text <;> exact hplain

/-- With a semicolon behind it, a clause is not read as the same descriptor. -/
theorem read_append_semicolon_ne {s : List Char} {d : Descriptor} (h : read s = .ok d)
    (b e : List Char) : read (s ++ (b ++ ';' :: e)) ≠ .ok d := by
  intro h'
  obtain ⟨first, s₁, second, s₂, hfirst, hsecond, hread⟩ := read_eq_ok_iff.mp h
  obtain ⟨first', s₁', second', s₂', hfirst', hsecond', hread'⟩ := read_eq_ok_iff.mp h'
  obtain ⟨f₁, -, hf₁⟩ := exists_readField_append hfirst (b ++ ';' :: e)
  rw [hf₁, Except.ok.injEq, Prod.mk.injEq] at hfirst'
  obtain ⟨-, rfl⟩ := hfirst'
  obtain ⟨f₂, -, hf₂⟩ := exists_readField_append hsecond (b ++ ';' :: e)
  rw [hf₂, Except.ok.injEq, Prod.mk.injEq] at hsecond'
  obtain ⟨-, rfl⟩ := hsecond'
  -- One reading has a connective and the other none, or the values are read behind each other.
  rcases hread with ⟨⟨c, -, hc⟩, ⟨r, ho, hv⟩, -⟩ | ⟨-, hc, -, -, hv⟩ <;>
    rcases hread' with ⟨⟨c', -, hc'⟩, ⟨r', ho', hv'⟩, -⟩ | ⟨-, hc', -, -, hv'⟩
  · rw [takeOperator?_append ho, Option.some.injEq, Prod.mk.injEq] at ho'
    obtain ⟨-, rfl⟩ := ho'
    exact readValue_append_semicolon_ne hv b e hv'
  · rw [hc] at hc'
    cases hc'
  · rw [hc] at hc'
    cases hc'
  · exact readValue_append_semicolon_ne hv b e hv'

end RecordFilter.Clause
