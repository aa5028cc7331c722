import Mathlib.Tactic.TFAE
import RecordFilter.Proofs.Query.Layout

/-!
# Rendering and parsing

A descriptor can be built with any path and any value, but not each of them can
be written in a query.  The grammatical ones are those whose path consists of
identifiers and whose value is a scalar or a list of scalars.  They are exactly
the descriptors that parsing finds, and exactly those whose own text is parsed
as themselves and nothing else (`Descriptor.isGrammatical_tfae`).

The text of a grammatical descriptor is one of the many ways of writing it, and
in whichever way it is written it is parsed as the descriptor.
-/

namespace RecordFilter

namespace Raw

theorem renderAll_eq_map (vs : List Raw) : renderAll vs = vs.map render := by
  induction vs with
  | nil => rfl
  | cons v vs ih => rw [renderAll, ih, List.map_cons]

/-- The text of a scalar is a way of writing it. -/
theorem IsScalar.writes_render {v : Raw} (hv : v.IsScalar) : v.WritesScalar v.render.toList := by
  cases hv with
  | null => exact .null (isCaseOf_self "null")
  | boolean b =>
    cases b
    · exact .boolean false (isCaseOf_self "false")
    · exact .boolean true (isCaseOf_self "true")
  | number h => exact .number h
  | text s =>
    rw [render, String.toList_ofList]
    exact .quoted rfl (Text.Quoted.spells_flatMap Text.Quoted.escapesQuotes_escapeControls _)

/-- The text of a value is a way of writing it. -/
theorem IsSpelled.writes_render {v : Raw} (hv : v.IsSpelled) : v.Writes v.render.toList := by
  cases hv with
  | scalar h => exact .scalar h.writes_render
  | @list items h =>
    have hall : List.Forall₂ WritesScalar items (items.map fun v ↦ v.render.toList) :=
      List.forall₂_map_right_iff.mpr (List.forall₂_same.mpr fun v hv ↦ (h v hv).writes_render)
    simpa [render, renderAll_eq_map, Function.comp_def] using writes_list hall

end Raw

namespace Descriptor

variable {d : Descriptor}

/-! ## The image of the reader -/

/-- Nothing else is read than grammatical descriptors. -/
theorem isGrammatical_of_read {s : List Char} (h : Clause.read s = .ok d) : d.IsGrammatical := by
  obtain ⟨first, s₁, second, s₂, hfirst, hsecond, hread⟩ := Clause.read_eq_ok_iff.mp h
  have hfirst' : Clause.IsFieldWord first.word := by
    obtain ⟨l, l', -, -, hword, -⟩ := Clause.readField_eq_ok_iff.mp hfirst
    exact hword
  have hsecond' : Clause.IsFieldWord second.word := by
    obtain ⟨l, l', -, -, hword, -⟩ := Clause.readField_eq_ok_iff.mp hsecond
    exact hword
  rcases hread with ⟨-, ⟨r, -, hv⟩, hp⟩ | ⟨-, -, -, hp, hv⟩
  · exact ⟨((Clause.readPath_eq_ok_iff hsecond').mp hp).2, Clause.isSpelled_of_readValue hv⟩
  · exact ⟨((Clause.readPath_eq_ok_iff hfirst').mp hp).2, Clause.isSpelled_of_readValue hv⟩

/-! ## The text of a descriptor -/

namespace IsGrammatical

/-- The text of a descriptor is a way of writing it. -/
theorem writes_render (h : d.IsGrammatical) : d.Writes d.render.toList := by
  have hoperator := Padded.bare (isCaseOf_self d.operator.keyword)
  have hvalue := Padded.bare h.value.writes_render
  cases hconnective : d.connective with
  | none =>
    simpa [render, hconnective] using
      Writes.plain hconnective (Padded.bare rfl) hoperator hvalue
  | some c =>
    simpa [render, hconnective] using Writes.connected hconnective
      (Padded.bare (isCaseOf_self c.keyword)) (Padded.bare rfl) hoperator hvalue

theorem parseDescriptors_render (h : d.IsGrammatical) : parseDescriptors d.render = .ok [d] := by
  have hwrites : WritesQuery [d] d.render.toList := .clause h.writes_render
  exact parseDescriptors_eq_ok_iff.mpr (hwrites.clauseTexts (List.forall_mem_singleton.mpr h)).1

end IsGrammatical

/-- A descriptor is grammatical exactly when parsing some query finds it, and exactly when its own
text is parsed as this descriptor alone. -/
theorem isGrammatical_tfae (d : Descriptor) :
    [d.IsGrammatical,
      ∃ query mode, d ∈ (parseWith mode query).descriptors.map (·.value),
      parseDescriptors d.render = .ok [d]].TFAE := by
  tfae_have 1 → 3 := IsGrammatical.parseDescriptors_render
  tfae_have 3 → 2 := by
    intro h
    refine ⟨d.render, .fast, ?_⟩
    rw [descriptors_of_parseDescriptors h]
    exact List.mem_singleton_self d
  tfae_have 2 → 1 := by
    rintro ⟨query, mode, hd⟩
    obtain ⟨s, -, hs⟩ := exists_read_of_mem_parseWith hd
    exact isGrammatical_of_read hs
  tfae_finish

end Descriptor

end RecordFilter
