import RecordFilter.Proofs.Compile.Equality

/-!
# Texts without quotes

A bare word is classified before anything is known of the property that it is
compared with, and turned back into a text if that is what the property holds.
Numbers and texts come back as they were written.  A truth value does not: of
it only the value is kept, so that it comes back in small letters.  For all
other words, quotes around them make no difference to a property of texts
(`Schema.build_bare_text`).
-/

namespace RecordFilter

open Text.Quoted (isQuote Spells)

/-- The word for a truth value. -/
def Literal.truthWord (b : Bool) : String := if b then "true" else "false"

/-- A bare word that is not null is a way of writing a truth value, or else of writing itself, as a
number or as a text. -/
theorem Literal.IsBareWord.writesScalar {w : String} (hw : Literal.IsBareWord w.toList)
    (hnull : ¬ IsCaseOf "null" w.toList) :
    (∃ b, IsCaseOf (truthWord b) w.toList ∧ (Raw.boolean b).WritesScalar w.toList) ∨
    (Raw.number w).WritesScalar w.toList ∨ (Raw.text w).WritesScalar w.toList := by
  by_cases htruth : ∃ b, IsCaseOf (truthWord b) w.toList
  · obtain ⟨b, hb⟩ := htruth
    exact .inl ⟨b, hb, .boolean b hb⟩
  · by_cases hnumeral : Literal.IsNumeral w.toList
    · exact .inr (.inl (.number hnumeral))
    · refine .inr (.inr (.bare ⟨hw, ?_, hnumeral⟩))
      have htrue : ¬ IsCaseOf "true" w.toList := fun h ↦ htruth ⟨true, h⟩
      have hfalse : ¬ IsCaseOf "false" w.toList := fun h ↦ htruth ⟨false, h⟩
      simp [hnull, htrue, hfalse]

namespace Schema

variable {ρ : Type} {s : Schema ρ} {o : CompileOptions} {path : Path} {p : Property ρ}

/-- A scalar that converts to a text compiles to a comparison with it, however it is written. -/
theorem exists_build_text {Reads : Shape → Datum → Prop}
    (hpath : ∀ segment ∈ path.segments, IsIdentifier segment) (hp : s.get? path.text = some p)
    (hmade : p.MadeOf Reads) (htext : p.shape = .scalar .text ∨ p.shape = .nullable .text)
    {raw : Raw} {v t : String} (hraw : raw.WritesScalar v.toList)
    (hconvert : Coercion.convert raw .text = .ok (.text t)) :
    ∃ c, s.build o (path.text ++ ":Equal:" ++ v) = .ok c ∧
      c.expression = .compare ⟨path.text, .equal, p.shape, .single (.text t)⟩ := by
  have hresolve : ∀ caseSensitive, s.resolve caseSensitive path.text = .ok ⟨path.text, p⟩ :=
    fun caseSensitive ↦ resolve_of_get? caseSensitive path.trimString_text hp
  have hsequence : p.shape.isSequence = false := by rcases htext with h | h <;> rw [h] <;> rfl
  have helement : p.shape.element = .text := by rcases htext with h | h <;> rw [h] <;> rfl
  have hsupports : p.shape.supports .equal = true := by
    rw [Shape.supports_iff, hsequence]
    simp
  have hcoerce : Coercion.coerce path.text raw p.shape .equal = .ok (.single (.text t)) := by
    rw [Coercion.coerce_eq_single (wantsList_value hsequence .equal), helement]
    exact Coercion.coerceSingle_of_convert hconvert path.text _
  obtain ⟨test, htest⟩ := hmade.exists_test hsupports (operand_of_coerce hsupports hcoerce)
  have hcondition : s.conditionOf o ⟨none, .equal, path, raw⟩
      = .ok ⟨path.text, none, .compare ⟨path.text, .equal, p.shape, .single (.text t)⟩⟩ :=
    conditionOf_eq_ok_iff.mpr
      ⟨_, _, hresolve o.caseSensitive, hcoerce, ensureSupported_eq_ok_iff.mpr hsupports, rfl⟩
  obtain ⟨c, hc, -⟩ := exists_compile_singleton (o := o) (d := ⟨none, .equal, path, raw⟩)
    (hresolve o.caseSensitive) (hresolve true) hcoerce hsupports
    (Property.test_eq_ok path.text hsupports htest)
  have hquery : path.text ++ ":" ++ Operator.equal.keyword ++ ":" ++ v
      = path.text ++ ":Equal:" ++ v := by
    rw [← String.toList_inj]
    simp [Operator.keyword]
  refine ⟨c, build_eq_ok_iff.mpr ⟨_, ?_, hc⟩, expression_of_compile_singleton hcondition hc⟩
  rw [← hquery]
  exact Clause.parseDescriptors_of_writes hpath (.scalar hraw) .equal

/-- A property of texts takes a bare word for the text that it is, as it does with quotes around the
word, unless the word is a truth value with capital letters in it; of this it takes the value, in
small letters.  The property may be nullable, and the word anything that does not mean null and can
do without quotes. -/
theorem build_bare_text {Reads : Shape → Datum → Prop}
    (hpath : ∀ segment ∈ path.segments, IsIdentifier segment) (hp : s.get? path.text = some p)
    (hmade : p.MadeOf Reads) (htext : p.shape = .scalar .text ∨ p.shape = .nullable .text)
    {w : String} (hw : Literal.IsBareWord w.toList) (hnull : ¬ IsCaseOf "null" w.toList)
    (o : CompileOptions) :
    ((∀ b, IsCaseOf (Literal.truthWord b) w.toList → w = Literal.truthWord b) →
      ∃ c, s.build o (path.text ++ ":Equal:" ++ w) = .ok c ∧
        c.expression = .compare ⟨path.text, .equal, p.shape, .single (.text w)⟩) ∧
    (∀ b, IsCaseOf (Literal.truthWord b) w.toList →
      ∃ c, s.build o (path.text ++ ":Equal:" ++ w) = .ok c ∧ c.expression
        = .compare ⟨path.text, .equal, p.shape, .single (.text (Literal.truthWord b))⟩) ∧
    ∀ q u, isQuote q = true → Spells q u w.toList →
      ∃ c, s.build o (path.text ++ ":Equal:" ++ String.ofList (q :: (u ++ [q]))) = .ok c ∧
        c.expression = .compare ⟨path.text, .equal, p.shape, .single (.text w)⟩ := by
  have hbuild : ∀ {raw : Raw} {v t : String}, raw.WritesScalar v.toList →
      Coercion.convert raw .text = .ok (.text t) →
      ∃ c, s.build o (path.text ++ ":Equal:" ++ v) = .ok c ∧
        c.expression = .compare ⟨path.text, .equal, p.shape, .single (.text t)⟩ :=
    fun hwrites hconvert ↦ exists_build_text hpath hp hmade htext hwrites hconvert
  refine ⟨?_, ?_, ?_⟩
  · intro hkept
    rcases hw.writesScalar hnull with ⟨b, hb, hwrites⟩ | hwrites | hwrites
    · refine hbuild hwrites ?_
      rw [hkept b hb]
      rfl
    · exact hbuild hwrites rfl
    · exact hbuild hwrites rfl
  · intro b hb
    exact hbuild (.boolean b hb) rfl
  · intro q u hq hspells
    have hwrites : (Raw.text w).WritesScalar (String.ofList (q :: (u ++ [q]))).toList := by
      rw [String.toList_ofList]
      exact .quoted hq hspells
    exact hbuild hwrites rfl

/-- Records that are names. -/
def named : Schema String := .ofRegistrations "Named" [.scalar "name" id]

/-- The lexeme of a number stays as it was written. -/
theorem build_bare_text_named :
    ∃ c, named.build {} "name:Equal:+01.50" = .ok c ∧
      c.expression = .compare ⟨"name", .equal, .scalar .text, .single (.text "+01.50")⟩ := by
  have hname : IsIdentifier "name" := isIdentifier_of_all rfl rfl rfl
  let path : Path := ⟨["name"], by decide, by decide⟩
  let p : Property String := .scalar id
  have hp : named.get? path.text = some p := rfl
  have hmade : p.MadeOf fun _ _ ↦ True := .scalar .text id
  have hnumeral : Literal.IsNumeral "+01.50".toList := Literal.isNumber_iff.mp rfl
  have hw := Literal.isBareWord_of_isLexemeChar hnumeral.ne_nil hnumeral.isLexemeChar
  refine (build_bare_text ?_ hp hmade (.inl rfl) hw (by decide) {}).1 ?_
  · exact List.forall_mem_singleton.mpr hname
  · intro b hb
    cases b <;> exact absurd hb (by decide)

/-- A truth value with capital letters in it does not stay as it was written. -/
theorem build_capital_truth_value :
    (∃ c, named.build {} "name:Equal:TRUE" = .ok c ∧
      c.expression = .compare ⟨"name", .equal, .scalar .text, .single (.text "true")⟩) ∧
    ¬ ∃ c, named.build {} "name:Equal:TRUE" = .ok c ∧
      c.expression = .compare ⟨"name", .equal, .scalar .text, .single (.text "TRUE")⟩ := by
  have hname : IsIdentifier "name" := isIdentifier_of_all rfl rfl rfl
  let path : Path := ⟨["name"], by decide, by decide⟩
  let p : Property String := .scalar id
  have hp : named.get? path.text = some p := rfl
  have hmade : p.MadeOf fun _ _ ↦ True := .scalar .text id
  have hwrites : (Raw.boolean true).WritesScalar "TRUE".toList := .boolean true (by decide)
  obtain ⟨c, hc, hexpression⟩ :
      ∃ c, named.build {} "name:Equal:TRUE" = .ok c ∧
        c.expression = .compare ⟨"name", .equal, .scalar .text, .single (.text "true")⟩ :=
    exists_build_text (v := "TRUE") (List.forall_mem_singleton.mpr hname) hp hmade (.inl rfl)
      hwrites rfl
  refine ⟨⟨c, hc, hexpression⟩, ?_⟩
  rintro ⟨c', hc', hcapital⟩
  obtain rfl : c = c' := Except.ok.inj (hc.symm.trans hc')
  rw [hexpression] at hcapital
  simp [Predicate.compare] at hcapital

end Schema

end RecordFilter
