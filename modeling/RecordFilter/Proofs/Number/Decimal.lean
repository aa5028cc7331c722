import RecordFilter.Number.Decimal
import RecordFilter.Proofs.Number.Digits

/-!
# Decimals read back

A decimal is written with all the digits of its scale.  When they are read,
nothing has to be rounded, because the digits fit into a decimal: they are those
of one.  What is read has the same coefficient and the same scale, and the sign
as well, except that zero has none (`Decimal.read_write`).
-/

namespace RecordFilter.Number.Decimal

/-! ## Reading digits -/

namespace Partial

/-- Adds digits, one after the other. -/
def pushAll (p : Partial) (ds : List Char) : Partial := ds.foldl push p

theorem point_pushAll (p : Partial) (ds : List Char) : (p.pushAll ds).point = p.point := by
  induction ds generalizing p with
  | nil => rfl
  | cons c ds ih => exact ih (p.push c)

theorem coefficient_pushAll (p : Partial) (ds : List Char) :
    (p.pushAll ds).coefficient = extend p.coefficient ds := by
  induction ds generalizing p with
  | nil => rfl
  | cons c ds ih => exact ih (p.push c)

theorem digit_pushAll {p : Partial} {ds : List Char} (h : p.digit = true ∨ ds ≠ []) :
    (p.pushAll ds).digit = true := by
  induction ds generalizing p with
  | nil => exact h.resolve_right fun hne ↦ hne rfl
  | cons c ds ih => exact ih (p := p.push c) (Or.inl rfl)

/-- Behind the point every digit counts for the scale, before it none does. -/
theorem scale_pushAll {p : Partial} (h : p.point = false → p.scale = 0) (ds : List Char) :
    (p.pushAll ds).scale = if p.point then p.scale + ds.length else 0 := by
  induction ds generalizing p with
  | nil =>
    cases hpoint : p.point with
    | false => exact h hpoint
    | true => rfl
  | cons c ds ih =>
    have hpush : (p.push c).point = false → (p.push c).scale = 0 :=
      fun hpoint ↦ if_neg (Bool.eq_false_iff.mp hpoint)
    calc
      ((p.push c).pushAll ds).scale
          = if p.point then (if p.point then p.scale + 1 else 0) + ds.length else 0 := ih hpush
      _ = if p.point then p.scale + (c :: ds).length else 0 := by
        cases p.point with
        | false => rfl
        | true =>
          simp only [if_true, List.length_cons]
          omega

end Partial

/-- Digits are read one after the other, as long as the coefficient and the scale have room. -/
theorem readFrom_append {p : Partial} {ds : List Char} (hds : ∀ c ∈ ds, c.isDigit = true)
    (hbound : extend p.coefficient ds < coefficientBound)
    (hscale : p.point = true → p.scale + ds.length ≤ maxScale) (negative : Bool)
    (rest : List Char) :
    readFrom negative p (ds ++ rest) = readFrom negative (p.pushAll ds) rest := by
  induction ds generalizing p with
  | nil => rfl
  | cons c ds ih =>
    have hc : c.isDigit = true := hds c List.mem_cons_self
    have hrounds : ¬ p.roundsBy c = true := by
      simp only [Partial.roundsBy, Bool.and_eq_true, beq_iff_eq, List.length_cons] at hscale ⊢
      rintro ⟨⟨hpoint, hfull⟩, -⟩
      have hroom := hscale hpoint
      omega
    have hfits : (p.push c).coefficient < coefficientBound :=
      lt_of_le_of_lt (le_extend _ ds) hbound
    rw [List.cons_append, readFrom, if_neg hrounds, if_pos hc, if_pos hfits]
    refine ih (fun d hd ↦ hds d (List.mem_cons_of_mem _ hd)) hbound fun hpoint ↦ ?_
    have hpush : (p.push c).scale = p.scale + 1 := if_pos hpoint
    have hroom := hscale hpoint
    simp only [List.length_cons] at hroom
    omega

/-! ## The text of a decimal -/

/-- The digits before the point. -/
def wholeDigits (d : Decimal) : List Char :=
  let ds := padded (d.scale + 1) d.coefficient
  ds.take (ds.length - d.scale)

/-- The digits behind the point. -/
def fractionDigits (d : Decimal) : List Char :=
  let ds := padded (d.scale + 1) d.coefficient
  ds.drop (ds.length - d.scale)

/-- The digits without a sign, with the point among them if there is one. -/
def unsignedText (d : Decimal) : List Char :=
  d.wholeDigits ++ if d.scale = 0 then [] else '.' :: d.fractionDigits

variable (d : Decimal)

theorem wholeDigits_append_fractionDigits :
    d.wholeDigits ++ d.fractionDigits = padded (d.scale + 1) d.coefficient :=
  List.take_append_drop _ _

theorem wholeDigits_ne_nil : d.wholeDigits ≠ [] := by
  have hlength := le_length_padded (d.scale + 1) d.coefficient
  rw [ne_eq, ← List.length_eq_zero_iff, wholeDigits, List.length_take]
  omega

theorem length_fractionDigits : d.fractionDigits.length = d.scale := by
  have hlength := le_length_padded (d.scale + 1) d.coefficient
  rw [fractionDigits, List.length_drop]
  omega

theorem isDigit_of_mem_wholeDigits : ∀ c ∈ d.wholeDigits, c.isDigit = true :=
  fun _ hc ↦ isDigit_of_mem_padded _ (List.mem_of_mem_take hc)

theorem isDigit_of_mem_fractionDigits : ∀ c ∈ d.fractionDigits, c.isDigit = true :=
  fun _ hc ↦ isDigit_of_mem_padded _ (List.mem_of_mem_drop hc)

theorem write_eq : d.write = (if d.negative then ['-'] else []) ++ d.unsignedText := by
  rw [write, unsignedText]
  by_cases hscale : d.scale = 0
  · simp [hscale, wholeDigits]
  · simp [hscale, wholeDigits, fractionDigits]

/-! ## Reading it back -/

/-- What is left of the sign: zero has none. -/
def withoutSignOfZero : Decimal :=
  { d with negative := d.negative && d.coefficient != 0 }

theorem finish_eq_ok {negative : Bool} {p : Partial} (hdigit : p.digit = true)
    (hcoefficient : p.coefficient = d.coefficient) (hscale : p.scale = d.scale) :
    finish negative p = .ok { d with negative := negative && d.coefficient != 0 } := by
  rw [finish, hdigit, hcoefficient, hscale, ofParts?, dif_pos ⟨d.coefficient_lt, d.scale_le⟩]
  rfl

theorem readFrom_unsignedText (negative : Bool) :
    readFrom negative {} d.unsignedText
      = .ok { d with negative := negative && d.coefficient != 0 } := by
  let p : Partial := ({} : Partial).pushAll d.wholeDigits
  have hpoint : p.point = false := Partial.point_pushAll _ _
  have hdigit : p.digit = true := Partial.digit_pushAll (Or.inr d.wholeDigits_ne_nil)
  have hscale : p.scale = 0 := Partial.scale_pushAll (fun _ ↦ rfl) _
  have hvalue : extend p.coefficient d.fractionDigits = d.coefficient := by
    calc
      extend p.coefficient d.fractionDigits
          = extend (extend 0 d.wholeDigits) d.fractionDigits := by
        rw [Partial.coefficient_pushAll]
      _ = ofDigits (padded (d.scale + 1) d.coefficient) := by
        rw [← extend_append, wholeDigits_append_fractionDigits]
        rfl
      _ = d.coefficient := ofDigits_padded _ _
  have hbound : extend p.coefficient d.fractionDigits < coefficientBound := by
    rw [hvalue]
    exact d.coefficient_lt
  have hwhole : readFrom negative {} d.unsignedText
      = readFrom negative p (if d.scale = 0 then [] else '.' :: d.fractionDigits) := by
    refine readFrom_append d.isDigit_of_mem_wholeDigits ?_ (fun h ↦ by cases h) _ _
    rw [← Partial.coefficient_pushAll]
    exact lt_of_le_of_lt (le_extend _ _) hbound
  rw [hwhole]
  by_cases hzero : d.scale = 0
  · have hnil : d.fractionDigits = [] := by
      rw [← List.length_eq_zero_iff, length_fractionDigits, hzero]
    rw [hnil] at hvalue
    rw [if_pos hzero]
    exact d.finish_eq_ok hdigit hvalue (hscale.trans hzero.symm)
  · -- the point is passed, and then the rest of the digits is read
    let q : Partial := { p with point := true }
    have hpass : readFrom negative p ('.' :: d.fractionDigits)
        = readFrom negative q d.fractionDigits := by
      rw [readFrom, Partial.roundsBy, hpoint]
      rfl
    have hroom : q.point = true → q.scale + d.fractionDigits.length ≤ maxScale := by
      intro _
      have hle := d.scale_le
      rw [length_fractionDigits]
      change p.scale + d.scale ≤ maxScale
      omega
    have hfraction : readFrom negative q (d.fractionDigits ++ [])
        = readFrom negative (q.pushAll d.fractionDigits) [] :=
      readFrom_append (p := q) d.isDigit_of_mem_fractionDigits hbound hroom negative []
    rw [List.append_nil] at hfraction
    rw [if_neg hzero, hpass, hfraction]
    refine d.finish_eq_ok (Partial.digit_pushAll (Or.inl hdigit)) ?_ ?_
    · rw [Partial.coefficient_pushAll]
      exact hvalue
    · rw [Partial.scale_pushAll (fun h ↦ by cases h), length_fractionDigits]
      change p.scale + d.scale = d.scale
      omega

/-- A decimal is read back from its text, but for the sign of zero. -/
theorem read_write : read d.write = .ok d.withoutSignOfZero := by
  have hplain : readPlain d.write = .ok d.withoutSignOfZero := by
    rw [write_eq]
    cases hsign : d.negative with
    | true =>
      rw [withoutSignOfZero, hsign]
      exact d.readFrom_unsignedText true
    | false =>
      obtain ⟨c, ds, hds⟩ := List.exists_cons_of_ne_nil d.wholeDigits_ne_nil
      have hc : c.isDigit = true := d.isDigit_of_mem_wholeDigits c (by simp [hds])
      have hsigns : (c == '-' || c == '+') = false := by
        rw [Bool.or_eq_false_iff, beq_eq_false_iff_ne, beq_eq_false_iff_ne]
        constructor <;> rintro rfl <;> cases hc
      have hread := d.readFrom_unsignedText false
      rw [withoutSignOfZero, hsign, ← hread, unsignedText, hds]
      simp only [Bool.false_eq_true, if_false, List.nil_append, List.cons_append, readPlain,
        hsigns]
  rw [read, hplain]

/-- It compares as equal to what it was. -/
theorem compare_withoutSignOfZero : d.compare d.withoutSignOfZero = .eq := by
  have hsigned : d.withoutSignOfZero.signed = d.signed := by
    by_cases hzero : d.coefficient = 0
    · simp [signed, withoutSignOfZero, withSign, hzero]
    · have hne : (d.coefficient != 0) = true := bne_iff_ne.mpr hzero
      simp [signed, withoutSignOfZero, hne]
  rw [Decimal.compare, hsigned]
  exact compare_eq_iff_eq.mpr rfl

end RecordFilter.Number.Decimal
