import RecordFilter.Proofs.Calendar.RoundTrip
import RecordFilter.Proofs.Scalar.Conversion

/-!
# Dates and times as literals

A date, a date-time or an instant is written as a literal of the query language,
and the literal converts to it again, with one exception.  An instant is written
in UTC, and the offset it was read with may have moved it out of the years of
four digits, the only ones in which instants are read.
-/

namespace RecordFilter

open Calendar (Date)

/-- The kinds of dates and times. -/
inductive Kind.IsTemporal : Kind → Prop where
  | date : IsTemporal .date
  | dateTime : IsTemporal .dateTime
  | timestamp : IsTemporal .timestamp

/-- Whether a scalar is not an instant in a year that is written with a sign. -/
def Scalar.HasPlainYear : Scalar → Prop
  | .timestamp t => t.HasPlainYear
  | _ => True

namespace Coercion

variable {path : String} {raw : Raw} {k : Kind} {v : Scalar}

/-! ## Values of the kinds -/

theorem exists_of_readLexeme_date {lexeme : String} (h : readLexeme lexeme .date = .ok v) :
    ∃ d, v = .date d := by
  simp only [readLexeme] at h
  split at h <;> cases h
  exact ⟨_, rfl⟩

theorem exists_of_readLexeme_dateTime {lexeme : String}
    (h : readLexeme lexeme .dateTime = .ok v) : ∃ t, v = .dateTime t := by
  simp only [readLexeme] at h
  split at h <;> cases h
  exact ⟨_, rfl⟩

theorem exists_of_readLexeme_timestamp {lexeme : String}
    (h : readLexeme lexeme .timestamp = .ok v) :
    ∃ t, v = .timestamp t ∧ Calendar.Timestamp.read (Text.trim lexeme.toList) = .ok t := by
  simp only [readLexeme] at h
  split at h
  · next t hread =>
    cases h
    exact ⟨t, rfl, hread⟩
  · cases h

/-! ## Literals of the values -/

theorem trim_toList_ofList {s : List Char} (h : ∀ c ∈ s, Text.isBlank c = false) :
    Text.trim (String.ofList s).toList = s := by
  rw [String.toList_ofList]
  exact Text.trim_eq_self (fun c hc ↦ h c (List.mem_of_mem_head? hc))
    (fun c hc ↦ h c (List.mem_of_mem_getLast? hc))

theorem readLexeme_date (d : Date) : readLexeme d.toText .date = .ok (.date d) := by
  simp only [readLexeme, Date.toText, trim_toList_ofList d.isBlank_of_mem_write, d.read_write]

theorem readLexeme_dateTime (t : Calendar.DateTime) :
    readLexeme t.toText .dateTime = .ok (.dateTime t) := by
  simp only [readLexeme, Calendar.DateTime.toText, trim_toList_ofList t.isBlank_of_mem_write,
    t.read?_write]

theorem readLexeme_timestamp {t : Calendar.Timestamp} (h : t.HasPlainYear) :
    readLexeme t.toText .timestamp = .ok (.timestamp t) := by
  simp only [readLexeme, Calendar.Timestamp.toText, trim_toList_ofList t.isBlank_of_mem_write,
    Calendar.Timestamp.read_write h]

theorem readLexeme_timestamp_of_not_hasPlainYear {t : Calendar.Timestamp} (h : ¬ t.HasPlainYear) :
    readLexeme t.toText .timestamp = .error (.notTimestamp .invalidCharacters) := by
  simp only [readLexeme, Calendar.Timestamp.toText, trim_toList_ofList t.isBlank_of_mem_write,
    Calendar.Timestamp.read_write_of_not_hasPlainYear h]

theorem readLexeme_render (hk : k.IsTemporal) {lexeme : String} (h : readLexeme lexeme k = .ok v)
    (hv : v.HasPlainYear) : readLexeme v.render k = .ok v := by
  cases hk with
  | date =>
    obtain ⟨d, rfl⟩ := exists_of_readLexeme_date h
    exact readLexeme_date d
  | dateTime =>
    obtain ⟨t, rfl⟩ := exists_of_readLexeme_dateTime h
    exact readLexeme_dateTime t
  | timestamp =>
    obtain ⟨t, rfl, -⟩ := exists_of_readLexeme_timestamp h
    exact readLexeme_timestamp hv

/-- A value that a raw value of one of the kinds of dates and times is coerced to is written as a
literal that is coerced to it, unless it is an instant that an offset has moved out of the years of
four digits.  The literal of such an instant is refused. -/
theorem coerceScalar_render (hk : k.IsTemporal) (h : coerceScalar path raw k = .ok v)
    (path' : String) :
    (v.HasPlainYear → coerceScalar path' (.text v.render) k = .ok v) ∧
      (¬ v.HasPlainYear → k = .timestamp ∧
        (∃ t, v = .timestamp t ∧
          (t.utc.date = .beforeYearZero ∨ t.utc.date = .afterYear9999)) ∧
        coerceScalar path' (.text v.render) k = .error
          ((Misfit.notTimestamp .invalidCharacters).toError path' (.text v.render) k)) := by
  obtain ⟨lexeme, hlexeme⟩ := exists_readLexeme (coerceScalar_eq_ok_iff.mp h)
    (by rintro rfl; cases hk) (by rintro rfl; cases hk)
  refine ⟨fun hv ↦ coerceScalar_eq_ok_iff.mpr (readLexeme_render hk hlexeme hv), fun hv ↦ ?_⟩
  cases hk with
  | date =>
    obtain ⟨d, rfl⟩ := exists_of_readLexeme_date hlexeme
    exact absurd trivial hv
  | dateTime =>
    obtain ⟨t, rfl⟩ := exists_of_readLexeme_dateTime hlexeme
    exact absurd trivial hv
  | timestamp =>
    obtain ⟨t, rfl, hread⟩ := exists_of_readLexeme_timestamp hlexeme
    have hdate := (Calendar.Timestamp.hasPlainYear_or_of_read hread).resolve_left hv
    refine ⟨rfl, ⟨t, rfl, hdate⟩, ?_⟩
    rw [coerceScalar, Scalar.render, convert, readLexeme_timestamp_of_not_hasPlainYear hv,
      Except.mapError]

/-- Half past eight in the morning, which is half past ten two hours to the east. -/
def morning : Calendar.Timestamp where
  utc.date := { year := 2024, month := 1, day := 15 }
  utc.time := Calendar.Time.midnight.atMinute (8 * 60 + 30)

theorem coerceScalar_render_morning :
    Kind.IsTemporal .timestamp ∧
      coerceScalar "ts" (.text "2024-01-15T10:30:00+02:00") .timestamp = .ok (.timestamp morning) ∧
      morning.toText = "2024-01-15T08:30:00Z" ∧
      coerceScalar "ts" (.text "2024-01-15T08:30:00Z") .timestamp = .ok (.timestamp morning) := by
  have hread : coerceScalar "ts" (.text "2024-01-15T10:30:00+02:00") .timestamp
      = .ok (.timestamp morning) := rfl
  have htext : morning.toText = "2024-01-15T08:30:00Z" := by decide +kernel
  have hplain : (Scalar.timestamp morning).HasPlainYear := ⟨by decide, by decide⟩
  have hagain := (coerceScalar_render .timestamp hread "ts").1 hplain
  rw [Scalar.render, htext] at hagain
  exact ⟨.timestamp, hread, htext, hagain⟩

/-- The midnight at the end of the year 9999, when it is a minute earlier just to the west. -/
def newYear : Calendar.Timestamp where
  utc.date := .afterYear9999
  utc.time := .midnight

/-- The literal of an instant is refused where the instant was accepted. -/
theorem newYear_literal_is_refused :
    coerceScalar "ts" (.text "9999-12-31T23:59:00-00:01") .timestamp = .ok (.timestamp newYear) ∧
      (Scalar.timestamp newYear).render = "+10000-01-01T00:00:00Z" ∧
      ∀ v, coerceScalar "ts" (.text "+10000-01-01T00:00:00Z") .timestamp ≠ .ok v := by
  have htext : (Scalar.timestamp newYear).render = "+10000-01-01T00:00:00Z" := by decide +kernel
  refine ⟨rfl, htext, fun v h ↦ ?_⟩
  cases h

end Coercion

end RecordFilter
