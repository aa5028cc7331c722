import RecordFilter.Proofs.Number.Decimal
import RecordFilter.Proofs.Query.Names
import RecordFilter.Proofs.Scalar.FieldType

/-!
# Scalars as they are written in queries

The text of a scalar is a way of writing some raw value: a keyword, a number, a
quoted text or a bare name.  For every kind but those of floating-point numbers,
dates and times, that raw value converts back to a scalar that compares as equal
(`Kind.exists_isSpelledAs`).  It need not be the same scalar, because zero loses
its sign.

Enumerations are a case of their own.  The name of a variant is put into a query
as it is, whatever characters it has, so it depends on the name whether it is
read back, and on the names before it whether it leads back to the variant.
`Enumeration.IsTold` says when both is so, and `Enumeration.isTold_iff` that this
is all there is to it.
-/

namespace RecordFilter

open Number (Decimal)

/-! ## Numbers -/

namespace Literal

theorem isNumeral_toString (n : Int) : IsNumeral (toString n).toList := by
  refine ⟨if n < 0 then ['-'] else [], Number.digits n.natAbs, [], [], ?_, ?_, .inl rfl, .inl rfl,
    by rw [Number.toList_toString, List.append_nil, List.append_nil]⟩
  · split
    · exact .inr (.inr rfl)
    · exact .inl rfl
  · exact ⟨Number.digits_ne_nil _, Number.isDigit_of_mem_digits⟩

theorem isNumeral_write (d : Decimal) : IsNumeral d.write := by
  refine ⟨if d.negative then ['-'] else [], d.wholeDigits,
    if d.scale = 0 then [] else '.' :: d.fractionDigits, [], ?_, ?_, ?_, .inl rfl,
    by rw [d.write_eq, List.append_nil, Decimal.unsignedText]⟩
  · split
    · exact .inr (.inr rfl)
    · exact .inl rfl
  · exact ⟨d.wholeDigits_ne_nil, d.isDigit_of_mem_wholeDigits⟩
  · split
    · exact .inl rfl
    · next hscale =>
      refine .inr ⟨d.fractionDigits, ⟨?_, d.isDigit_of_mem_fractionDigits⟩, rfl⟩
      rw [ne_eq, ← List.length_eq_zero_iff, d.length_fractionDigits]
      exact hscale

theorem IsNumeral.trim_eq {s : List Char} (h : IsNumeral s) : Text.trim s = s :=
  (isBareWord_of_isLexemeChar h.ne_nil h.isLexemeChar).isTrimmed.2

end Literal

namespace Coercion

/-- The text of an integer between the bounds is read as that integer. -/
theorem readInteger_toString {low high n : Int} (hlow : low ≤ n) (hhigh : n ≤ high)
    (hwide : n.natAbs < wideBound) : readInteger low high (toString n).toList = .ok n := by
  have htext : (toString n).toList
      = (if decide (n < 0) then ['-'] else []) ++ Number.digits n.natAbs := by
    rw [Number.toList_toString]
    simp only [decide_eq_true_eq]
  have hdigits : Literal.IsDigits (Number.digits n.natAbs) :=
    ⟨Number.digits_ne_nil _, Number.isDigit_of_mem_digits⟩
  have htake : Number.takeDigits (Number.digits n.natAbs) = (Number.digits n.natAbs, []) := by
    simpa using Literal.takeDigits_append_of_isDigits (s := []) hdigits (by simp)
  have hfits : ¬ (if decide (n < 0) = true then wideBound < n.natAbs
      else wideBound ≤ n.natAbs) := by
    split <;> omega
  have hbounds : ¬ (n < low ∨ high < n) := by omega
  simp only [readInteger, htext, Number.takeSign_append_digits _ hdigits.1 hdigits.2, htake,
    Number.ofDigits_digits, hfits, Number.withSign_natAbs, hbounds, if_false]
  simp [hdigits.1]

end Coercion

/-! ## Integers of a kind -/

namespace Kind

/-- A value of an integer kind is an integer between the bounds of the kind. -/
theorem exists_integerScalar {k : Kind} {low high : Int} (hk : k.bounds? = some (low, high))
    (b : k.Value) : ∃ n, low ≤ n ∧ n ≤ high ∧ toScalar b = Coercion.integerScalar low n := by
  cases k <;> cases hk
  case int8 => exact ⟨Int8.toInt b, Int8.le_toInt b, Int.le_of_lt_add_one (Int8.toInt_lt b), rfl⟩
  case int16 =>
    exact ⟨Int16.toInt b, Int16.le_toInt b, Int.le_of_lt_add_one (Int16.toInt_lt b), rfl⟩
  case int32 =>
    exact ⟨Int32.toInt b, Int32.le_toInt b, Int.le_of_lt_add_one (Int32.toInt_lt b), rfl⟩
  case int64 =>
    exact ⟨Int64.toInt b, Int64.le_toInt b, Int.le_of_lt_add_one (Int64.toInt_lt b), rfl⟩
  case uint8 =>
    exact ⟨(UInt8.toNat b : Int), by omega, by have := UInt8.toNat_lt b; omega, rfl⟩
  case uint16 =>
    exact ⟨(UInt16.toNat b : Int), by omega, by have := UInt16.toNat_lt b; omega, rfl⟩
  case uint32 =>
    exact ⟨(UInt32.toNat b : Int), by omega, by have := UInt32.toNat_lt b; omega, rfl⟩
  case uint64 =>
    exact ⟨(UInt64.toNat b : Int), by omega, by have := UInt64.toNat_lt b; omega, rfl⟩

end Kind

namespace Coercion

/-- The scalar of an integer is written as the integer. -/
theorem render_integerScalar {k : Kind} {low high n : Int} (hk : k.bounds? = some (low, high))
    (hlow : low ≤ n) (hhigh : n ≤ high) : (integerScalar low n).render = toString n := by
  rcases k.bounds?_fit hk with ⟨rfl, hfit⟩ | ⟨hsigned, hlow', hhigh'⟩
  · have hn : ((UInt64.ofNat n.toNat).toNat : Int) = n :=
      toNat_ofNat_toNat hlow (hhigh.trans hfit)
    rw [integerScalar, if_pos rfl]
    exact congrArg toString hn
  · rw [integerScalar, if_neg hsigned, Scalar.render,
      Int64.toInt_ofInt_of_le (hlow'.trans hlow) (by omega)]

/-- The text of an integer of a kind converts back to the integer. -/
theorem convert_number_toString {k : Kind} {low high n : Int} (hk : k.bounds? = some (low, high))
    (hlow : low ≤ n) (hhigh : n ≤ high) :
    convert (.number (toString n)) k = .ok (integerScalar low n) := by
  have hwide : n.natAbs < wideBound := by
    obtain ⟨hlow', hhigh'⟩ := bounds?_lt_wideBound hk
    omega
  rw [convert, readLexeme_of_bounds? hk, (Literal.isNumeral_toString n).trim_eq,
    readInteger_toString hlow hhigh hwide]
  rfl

end Coercion

/-! ## Enumerations -/

namespace Enumeration

variable {e : Enumeration} {path : Path} {shape : Shape} {name : String} {ordinal : Nat}

/-- A variant is found by its name, unless another variant of that name comes first. -/
theorem variant?_of_mem (h : name ∈ e.variants) :
    e.variant? name = some (e.variants.idxOf name, name) := by
  have hfind : e.variants.findIdx? (· == name) = some (e.variants.idxOf name) :=
    List.findIdx?_eq_some_iff_findIdx_eq.mpr ⟨List.idxOf_lt_length_of_mem h, rfl⟩
  rw [variant?, hfind, Option.some_or, Option.bind_some, at?, List.getElem?_idxOf h,
    Option.map_some]

/-- The trimmed name leads to the variant just if there was nothing to trim and no variant of that
name comes first. -/
theorem variant?_trimString_iff (hat : e.variants[ordinal]? = some name) :
    e.variant? (Text.trimString name) = some (ordinal, name) ↔
      Text.trim name.toList = name.toList ∧ e.variants.idxOf name = ordinal := by
  have hmem : name ∈ e.variants := List.mem_of_getElem? hat
  by_cases htrim : Text.trim name.toList = name.toList
  · rw [Text.trimString, htrim, String.ofList_toList, variant?_of_mem hmem]
    simp
  · refine iff_of_false (fun h ↦ ?_) (fun h ↦ htrim h.1)
    obtain ⟨i, hi, hiat⟩ := Option.bind_eq_some_iff.mp h
    obtain ⟨found, hfound, heq⟩ := Option.map_eq_some_iff.mp hiat
    obtain ⟨rfl, rfl⟩ := Prod.mk.inj heq
    obtain ⟨hlt, hname⟩ := List.getElem?_eq_some_iff.mp hfound
    -- Neither the name nor a case of it is its own proper part.
    rcases Option.or_eq_some_iff.mp hi with hexact | ⟨-, hfolded⟩
    · obtain ⟨_, hsame, -⟩ := List.findIdx?_eq_some_iff_getElem.mp hexact
      rw [hname, beq_iff_eq] at hsame
      refine htrim ?_
      rw [← String.toList_ofList (l := Text.trim found.toList)]
      exact congrArg String.toList hsame.symm
    · obtain ⟨_, hsame, -⟩ := List.findIdx?_eq_some_iff_getElem.mp hfolded
      rw [hname, Text.sameFolded_iff] at hsame
      have hlength := congrArg List.length (Text.map_toLower_of_foldCase hsame)
      rw [Text.trimString, String.toList_ofList, List.length_map, List.length_map] at hlength
      exact htrim (Text.trim_eq_self_of_length hlength.symm)

/-- Whether a query can tell a variant by its name: behind a path, or in a list if the shape is that
of a sequence, the name is read as it stands, and no variant of that name comes first. -/
structure IsTold (e : Enumeration) (path : Path) (shape : Shape) (name : String) (ordinal : Nat) :
    Prop where
  names : if shape.isSequence then Clause.NamesInList name.toList
    else Clause.NamesAlone path name.toList
  idxOf_eq : e.variants.idxOf name = ordinal

/-- Whether the condition that asks for a variant by its name, alone or as the only item of a list,
is parsed as just that, and the name leads to the variant. -/
def IsReadBack (e : Enumeration) (path : Path) (shape : Shape) (name : String) (ordinal : Nat) :
    Prop :=
  (∀ operator : Operator, ∃ raw : Raw, raw.IsLexeme name ∧
    parseDescriptors (path.text ++ ":" ++ operator.keyword ++ ":"
        ++ if shape.isSequence then "[" ++ name ++ "]" else name)
      = .ok [⟨none, operator, path, if shape.isSequence then .list [raw] else raw⟩]) ∧
  e.variant? (Text.trimString name) = some (ordinal, name)

theorem IsTold.isUnquoted (h : e.IsTold path shape name ordinal) :
    Literal.IsUnquoted name.toList := by
  have hnames := h.names
  split at hnames
  · exact hnames.toIsUnquoted
  · exact hnames.toIsUnquoted

/-- The variants that can be told by their names are those whose names are read back. -/
theorem isTold_iff (hpath : ∀ segment ∈ path.segments, IsIdentifier segment)
    (hat : e.variants[ordinal]? = some name) :
    e.IsTold path shape name ordinal ↔ e.IsReadBack path shape name ordinal := by
  constructor
  · intro h
    refine ⟨fun operator ↦ ?_, (variant?_trimString_iff hat).mpr ⟨h.isUnquoted.isTrimmed.2,
      h.idxOf_eq⟩⟩
    have hnames := h.names
    split at hnames
    · next hs => simpa [hs] using (Clause.namesInList_iff hpath operator).mp hnames
    · next hs =>
      simpa [hs] using (Clause.namesAlone_iff hpath hnames.isTrimmed.2 operator).mp hnames
  · rintro ⟨hparse, hfound⟩
    obtain ⟨htrim, hfirst⟩ := (variant?_trimString_iff hat).mp hfound
    refine ⟨?_, hfirst⟩
    have hequal := hparse .equal
    split
    · next hs => exact (Clause.namesInList_iff hpath .equal).mpr (by simpa [hs] using hequal)
    · next hs => exact (Clause.namesAlone_iff hpath htrim .equal).mpr (by simpa [hs] using hequal)

/-- A name that is a bare word and no keyword can be told wherever it stands. -/
theorem isTold_of_isBareWord (hname : Literal.IsBareWord name.toList)
    (hkeyword : ∀ keyword ∈ ["null", "true", "false"], ¬ IsCaseOf keyword name.toList)
    (hfirst : e.variants.idxOf name = ordinal) : e.IsTold path shape name ordinal := by
  have hunquoted : Literal.IsUnquoted name.toList := ⟨hname.isTrimmed, hname.startsBare, hkeyword⟩
  have hmem : ∀ c ∈ [';', ':', ',', '[', ']'], c ∉ name.toList :=
    fun c hc hmem ↦ hname.mem c hmem hc
  refine ⟨?_, hfirst⟩
  split
  · exact ⟨hunquoted, hmem ',' (by decide), hmem ']' (by decide)⟩
  · refine ⟨hunquoted, Split.cut_of_not_mem (hmem ';' (by decide)) _, fun c o v _ hoperates ↦ ?_⟩
    obtain ⟨l, w, l', -, -, -, heq⟩ := hoperates
    exact hmem ':' (by decide) (by simp [heq])

/-- The name of such a variant converts to the variant. -/
theorem IsTold.converts (h : e.IsTold path shape name ordinal)
    (hat : e.variants[ordinal]? = some name) {raw : Raw} (hraw : raw.IsLexeme name) :
    ∃ w, Coercion.convert raw (.enumeration e) = .ok w ∧
      (Scalar.variant e.name name ordinal).compare? w = some .eq := by
  have hfound := (variant?_trimString_iff hat).mpr ⟨h.isUnquoted.isTrimmed.2, h.idxOf_eq⟩
  have hlexeme : Coercion.readLexeme name (.enumeration e)
      = .ok (.variant e.name name ordinal) := by
    rw [Text.trimString] at hfound
    simp [Coercion.readLexeme, Coercion.readVariant, hfound]
  refine ⟨.variant e.name name ordinal, ?_, ?_⟩
  · rcases hraw with rfl | rfl <;> exact hlexeme
  · exact (if_pos rfl).trans (congrArg some (compare_eq_iff_eq.mpr rfl))

end Enumeration

/-! ## All kinds -/

namespace Scalar

/-- Whether the text of a scalar is one of some ways of writing a raw value, and this raw value
converts back to a scalar that compares as equal. -/
structure IsSpelledAs (W : Raw → List Char → Prop) (k : Kind) (v : Scalar) (raw : Raw) :
    Prop where
  writes : W raw v.render.toList
  converts : ∃ w, Coercion.convert raw k = .ok w ∧ v.compare? w = some .eq

variable {W : Raw → List Char → Prop}

/-- A scalar that its text converts back to is spelled so, if it compares as equal to itself. -/
theorem IsSpelledAs.of_convert {k : Kind} {v : Scalar} {raw : Raw} {s : String}
    (hrender : v.render = s) (hwrites : W raw s.toList)
    (hconvert : Coercion.convert raw k = .ok v) (hself : v.compare? v = some .eq) :
    v.IsSpelledAs W k raw :=
  ⟨hrender ▸ hwrites, v, hconvert, hself⟩

theorem writesScalar_quote (s : String) : (Raw.text s).WritesScalar (quote s).toList := by
  rw [quote, String.toList_ofList]
  exact .quoted rfl (Text.Quoted.spells_flatMap Text.Quoted.escapesQuotes_escapeQuotes _)

theorem isSpelledAs_char (c : Char) :
    (char c).IsSpelledAs Raw.WritesScalar .char (.text (String.singleton c)) := by
  refine .of_convert rfl (writesScalar_quote _) ?_ (congrArg some (compare_eq_iff_eq.mpr rfl))
  simp [Coercion.convert, Coercion.readLexeme]

/-- A decimal is spelled as a number. -/
theorem isSpelledAs_decimal (d : Decimal) :
    (decimal d).IsSpelledAs Raw.WritesScalar .decimal (.number d.toText) := by
  have hnumeral : Literal.IsNumeral d.toText.toList := by
    rw [Decimal.toText, String.toList_ofList]
    exact Literal.isNumeral_write d
  refine ⟨.number hnumeral, decimal d.withoutSignOfZero, ?_,
    congrArg some d.compare_withoutSignOfZero⟩
  simp only [Coercion.convert, Coercion.readLexeme, hnumeral.trim_eq]
  rw [Decimal.toText, String.toList_ofList, d.read_write]

end Scalar

namespace Kind

/-- The kinds whose values can be told by their texts, of enumerations as far as their names
allow. -/
def IsSpellable : Kind → Prop
  | float32 | float64 | date | dateTime | timestamp => False
  | _ => True

theorem exists_isSpelledAs_integer {k : Kind} {low high : Int} (hk : k.bounds? = some (low, high))
    (b : k.Value) : ∃ raw, (toScalar b).IsSpelledAs Raw.WritesScalar k raw := by
  obtain ⟨n, hlow, hhigh, hb⟩ := exists_integerScalar hk b
  have hself : (Coercion.integerScalar low n).compare? (Coercion.integerScalar low n)
      = some .eq := by
    rw [Coercion.integerScalar]
    split <;> exact congrArg some (compare_eq_iff_eq.mpr rfl)
  rw [hb]
  exact ⟨_, .of_convert (Coercion.render_integerScalar hk hlow hhigh)
    (.number (Literal.isNumeral_toString n)) (Coercion.convert_number_toString hk hlow hhigh) hself⟩

/-- The text of a value is a way of writing a raw value that converts back to one like it. -/
theorem exists_isSpelledAs {k : Kind} (hk : k.IsSpellable) (hne : ∀ e, k ≠ enumeration e)
    (b : k.Value) : ∃ raw, (toScalar b).IsSpelledAs Raw.WritesScalar k raw := by
  cases k
  case boolean =>
    refine ⟨.boolean b, .of_convert rfl (.boolean b ?_) rfl ?_⟩
    · cases b <;> decide
    · cases b <;> rfl
  case decimal => exact ⟨_, Scalar.isSpelledAs_decimal b⟩
  case char => exact ⟨_, Scalar.isSpelledAs_char b⟩
  case text =>
    exact ⟨_, .of_convert rfl (Scalar.writesScalar_quote b) rfl
      (congrArg some (Std.LawfulEqOrd.compare_eq_iff_eq.mpr rfl))⟩
  case enumeration e => exact absurd rfl (hne e)
  case float32 | float64 | date | dateTime | timestamp => exact hk.elim
  all_goals exact exists_isSpelledAs_integer rfl b

end Kind

end RecordFilter
