import RecordFilter.Calendar.Reader
import RecordFilter.Proofs.Number.Digits
import RecordFilter.Proofs.Outcome
import RecordFilter.Proofs.Text.Letter

/-!
# Dates and times read back

What is written of a date or a time is read again field by field: the digits of a
field are as many as its reader takes, or end before a character that is none.
So dates and date-times come back from their texts.  An instant is read by
another reader, which knows years of four digits only, while its offset may have
moved it out of them: to the day before the year zero or the day after the year
9999 (`Timestamp.hasPlainYear_or_of_read`).  Such a year is written with a sign,
and its text is not read (`Timestamp.read_write_of_not_hasPlainYear`).
-/

namespace RecordFilter.Calendar

open RecordFilter.Number
open RecordFilter.Text (byteLength isBlank)

variable {α β : Type} {s rest : List Char}

/-! ## Readers one after the other -/

theorem Scan.bind_of_eq_ok {x : Scan α} {f : α → Scan β} {a : α} (h : x s = .ok (a, rest)) :
    (x >>= f) s = f a rest := by
  simp only [bind, StateT.bind, Except.bind, h]

theorem inRange_of {ok : Bool} (h : ok = true) (s : List Char) : inRange ok s = .ok ((), s) := by
  rw [h]
  rfl

theorem readChar_cons (c : Char) (s : List Char) : readChar c (c :: s) = .ok ((), s) := if_pos rfl

/-! ## Numbers -/

/-- The digits in front are read, if they end with the limit or before a character that is none. -/
theorem readNumber_append {least : Nat} {most : Option Nat} {ds : List Char}
    (hds : ∀ c ∈ ds, c.isDigit = true) (hleast : least ≤ ds.length)
    (hbound : ofDigits ds < UInt64.size / 2)
    (hstop : most = some ds.length ∨
      (∀ m ∈ most, ds.length ≤ m) ∧ ∀ c ∈ rest.head?, c.isDigit = false) :
    readNumber least most (ds ++ rest) = .ok (ofDigits ds, rest) := by
  have hlimit : ds.length ≤ most.getD (ds ++ rest).length := by
    rcases hstop with rfl | ⟨hmost, -⟩
    · exact le_refl _
    · cases most with
      | none => exact (List.prefix_append ds rest).length_le
      | some m => exact hmost m rfl
  have hnext : ∀ c ∈ (rest.take (most.getD (ds ++ rest).length - ds.length)).head?,
      c.isDigit = false := by
    intro c hc
    rw [List.head?_take] at hc
    split at hc
    · cases hc
    · next hne =>
      rcases hstop with rfl | ⟨-, hrest⟩
      · exact absurd (Nat.sub_self _) hne
      · exact hrest c hc
  have htaken :
      ((ds ++ rest).take (most.getD (ds ++ rest).length)).takeWhile Char.isDigit = ds := by
    rw [List.take_append, List.take_of_length_le hlimit]
    exact (Text.takeWhile_dropWhile_append hds hnext).1
  have hbytes : ¬ byteLength (ds ++ rest) < least := by
    have h := Text.length_le_byteLength (ds ++ rest)
    rw [List.length_append] at h
    omega
  simp only [readNumber, htaken]
  rw [if_neg hbytes, if_neg (Nat.not_lt.mpr hleast), if_neg (Nat.not_le.mpr hbound),
    List.drop_left]

theorem readNumber_padded_append {least width n : Nat} {most : Option Nat} (hleast : least ≤ width)
    (hbound : n < UInt64.size / 2)
    (hstop : most = some (padded width n).length ∨
      (∀ m ∈ most, (padded width n).length ≤ m) ∧ ∀ c ∈ rest.head?, c.isDigit = false) :
    readNumber least most (padded width n ++ rest) = .ok (n, rest) := by
  have hread : readNumber least most (padded width n ++ rest)
      = .ok (ofDigits (padded width n), rest) :=
    readNumber_append isDigit_of_mem_padded (hleast.trans (le_length_padded width n))
      (by rwa [ofDigits_padded]) hstop
  rwa [ofDigits_padded] at hread

/-- Numbers of up to eighteen digits are within the range of the reader. -/
theorem lt_half_size_of_lt_pow {width n : Nat} (hmost : width ≤ 18) (hn : n < 10 ^ width) :
    n < UInt64.size / 2 :=
  calc
    n < 10 ^ width := hn
    _ ≤ 10 ^ 18 := Nat.pow_le_pow_right (by decide) hmost
    _ < UInt64.size / 2 := by decide

/-- A number fills a field of its width. -/
theorem readNumber_padded {least width n : Nat} (hleast : least ≤ width) (hwidth : 0 < width)
    (hmost : width ≤ 18) (hn : n < 10 ^ width) :
    readNumber least (some width) (padded width n ++ rest) = .ok (n, rest) :=
  readNumber_padded_append hleast (lt_half_size_of_lt_pow hmost hn)
    (.inl (by rw [length_padded hwidth hn]))

theorem isBlank_of_mem_padded {width n : Nat} : ∀ c ∈ padded width n, isBlank c = false :=
  fun c hc ↦ Text.isBlank_of_isDigit (isDigit_of_mem_padded c hc)

theorem isBlank_head?_padded {width n : Nat} :
    ∀ c ∈ (padded width n ++ rest).head?, isBlank c = false := by
  intro c hc
  rw [List.head?_append_of_ne_nil _ (padded_ne_nil width n)] at hc
  exact isBlank_of_mem_padded c (List.mem_of_mem_head? hc)

/-! ## Fields -/

theorem readField_padded {least low high n : Nat} (hleast : least ≤ 2) (hlow : low ≤ n)
    (hhigh : n ≤ high) (hn : n < 100) :
    readField least low high (padded 2 n ++ rest) = .ok (n, rest) := by
  have hbounds : (decide (low ≤ n) && decide (n ≤ high)) = true := by simp [hlow, hhigh]
  have hnumber : readNumber least (some 2) (padded 2 n ++ rest) = .ok (n, rest) :=
    readNumber_padded hleast (by decide) (by decide) hn
  exact (Scan.bind_of_eq_ok hnumber).trans (Scan.bind_of_eq_ok (inRange_of hbounds rest))

theorem readYear_writeYear {year : Int} (hfirst : firstYear ≤ year) (hlast : year ≤ lastYear)
    (hrest : ∀ c ∈ rest.head?, c.isDigit = false) :
    readYear (Date.writeYear year ++ rest) = .ok (year, rest) := by
  have hbound : year.natAbs < 262144 := by
    rw [firstYear] at hfirst
    rw [lastYear] at hlast
    omega
  have hsigned : readNumber 1 none (padded 4 year.natAbs ++ rest) = .ok (year.natAbs, rest) :=
    readNumber_padded_append (by decide) (hbound.trans (by decide)) (.inr ⟨nofun, hrest⟩)
  rw [Date.writeYear]
  split
  · next hneg =>
    have hvalue : -(year.natAbs : Int) = year := by omega
    have hsize : decide (year.natAbs ≤ UInt32.size / 2) = true :=
      decide_eq_true (hbound.le.trans (by decide))
    refine (Scan.bind_of_eq_ok hsigned).trans
      ((Scan.bind_of_eq_ok (inRange_of hsize rest)).trans ?_)
    rw [hvalue]
    rfl
  · next hneg =>
    have hvalue : (year.natAbs : Int) = year := by omega
    split
    · next hplain =>
      have hnumber : readNumber 1 (some 4) (padded 4 year.natAbs ++ rest)
          = .ok (year.natAbs, rest) :=
        readNumber_padded (by decide) (by decide) (by decide) (by omega)
      obtain ⟨c, ds, hcons⟩ := List.exists_cons_of_ne_nil (padded_ne_nil 4 year.natAbs)
      have hc : c.isDigit = true := isDigit_of_mem_padded c (hcons ▸ List.mem_cons_self)
      rw [hcons] at hnumber ⊢
      rw [List.cons_append, readYear]
      · refine (Scan.bind_of_eq_ok hnumber).trans ?_
        rw [hvalue]
        rfl
      · rintro s ⟨⟩
        cases hc
      · rintro s ⟨⟩
        cases hc
    · have hsize : decide (year.natAbs < UInt32.size / 2) = true :=
        decide_eq_true (hbound.trans (by decide))
      refine (Scan.bind_of_eq_ok hsigned).trans
        ((Scan.bind_of_eq_ok (inRange_of hsize rest)).trans ?_)
      rw [hvalue]
      rfl

theorem readNano_padded {width n : Nat} (hwidth : 0 < width) (hmost : width ≤ 9)
    (hn : n < 10 ^ width) (hrest : ∀ c ∈ rest.head?, c.isDigit = false) :
    readNano (padded width n ++ rest) = .ok (n * tenTo (9 - width), rest) := by
  have hlength := length_padded hwidth hn
  have hread : readNumber 1 (some 9) (padded width n ++ rest) = .ok (n, rest) := by
    have hbound : n < UInt64.size / 2 := lt_half_size_of_lt_pow (hmost.trans (by decide)) hn
    have hlimit : ∀ m ∈ some 9, (padded width n).length ≤ m := by
      rintro m ⟨⟩
      omega
    exact readNumber_padded_append hwidth hbound (.inr ⟨hlimit, hrest⟩)
  have hdrop : rest.dropWhile Char.isDigit = rest :=
    (Text.takeWhile_dropWhile_append (s := []) (by simp) hrest).2
  simp only [readNano, hread, bind, Except.bind]
  rw [List.length_append, hlength, Nat.add_sub_cancel, hdrop]
  rfl

/-- A fraction is read as it is written, without the zeros that it ends in. -/
theorem readFraction_writeFraction {nano : Nat} (hnano : nano < 1000000000)
    (hrest : ∀ c ∈ rest.head?, c.isDigit = false ∧ c ≠ '.') :
    readFraction (Time.writeFraction nano ++ rest) = .ok (nano, rest) := by
  have hdigit : ∀ c ∈ rest.head?, c.isDigit = false := fun c hc ↦ (hrest c hc).1
  have hpoint : ∀ {width n : Nat}, 0 < width → width ≤ 9 → n < 10 ^ width →
      n * 10 ^ (9 - width) = nano →
      readFraction ('.' :: padded width n ++ rest) = .ok (nano, rest) := by
    intro width n hwidth hmost hn hvalue
    rw [← hvalue]
    exact readNano_padded hwidth hmost hn hdigit
  rw [Time.writeFraction]
  split
  · next hzero =>
    rw [List.nil_append, readFraction, hzero]
    rintro s rfl
    exact (hrest '.' rfl).2 rfl
  · split
    · exact hpoint (by decide) (by decide) (by omega) (by omega)
    · split
      · exact hpoint (by decide) (by decide) (by omega) (by omega)
      · exact hpoint (by decide) (by decide) (by omega) (by omega)

/-! ## Layouts -/

theorem readLayout_cons {item : Item} {layout : List Item} {f f' : Fields}
    (h : item.read f s = .ok (f', rest)) :
    readLayout f (item :: layout) s = readLayout f' layout rest := by
  rw [readLayout, h]
  rfl

/-- A field is read where it begins without blanks. -/
theorem Item.read_of_eq_ok {x : Scan α} {g : α → Fields} {a : α}
    (hs : ∀ c ∈ s.head?, isBlank c = false) (h : x s = .ok (a, rest)) :
    (do skipBlanks; return g (← x) : Scan Fields) s = .ok (g a, rest) := by
  have hskip : skipBlanks s = .ok ((), s) := by rw [skipBlanks, Text.trimLeft_eq_self hs]
  exact (Scan.bind_of_eq_ok hskip).trans (Scan.bind_of_eq_ok h)

theorem readLayout_literal {f : Fields} {layout : List Item} {c : Char} :
    readLayout f (.literal c :: layout) (c :: s) = readLayout f layout s :=
  readLayout_cons (Scan.bind_of_eq_ok (readChar_cons c s))

theorem isBlank_head?_writeYear (year : Int) :
    ∀ c ∈ (Date.writeYear year ++ rest).head?, isBlank c = false := by
  rw [Date.writeYear]
  split
  · rintro c ⟨⟩
    rfl
  · split
    · exact isBlank_head?_padded
    · rintro c ⟨⟩
      rfl

theorem readLayout_year {f : Fields} {layout : List Item} {year : Int} (hfirst : firstYear ≤ year)
    (hlast : year ≤ lastYear) (hrest : ∀ c ∈ rest.head?, c.isDigit = false) :
    readLayout f (.year :: layout) (Date.writeYear year ++ rest)
      = readLayout { f with year } layout rest :=
  readLayout_cons (Item.read_of_eq_ok (isBlank_head?_writeYear year)
    (readYear_writeYear hfirst hlast hrest))

/-- Fields of two digits are read as they are written. -/
theorem readLayout_padded (item : Item) {f : Fields} {layout : List Item} {n low high : Nat}
    {g : Nat → Fields} (hitem : item.read f = do skipBlanks; return g (← readField 1 low high))
    (hlow : low ≤ n) (hhigh : n ≤ high) (hn : n < 100) :
    readLayout f (item :: layout) (padded 2 n ++ rest) = readLayout (g n) layout rest := by
  refine readLayout_cons ?_
  rw [hitem]
  exact Item.read_of_eq_ok isBlank_head?_padded (readField_padded (by decide) hlow hhigh hn)

theorem Date.month_le (d : Date) : d.month ≤ 12 := d.isDay.2.1.2

theorem Date.day_le (d : Date) : d.day ≤ 31 := by
  have h := d.isDay.2.2.2
  unfold daysInMonth at h
  split_ifs at h <;> omega

/-- A date is read as it is written, whatever the layout goes on with. -/
theorem readLayout_date (f : Fields) (layout : List Item) (d : Date) (rest : List Char) :
    readLayout f (dateLayout ++ layout) (d.write ++ rest)
      = readLayout { f with year := d.year, month := d.month, day := d.day } layout rest := by
  obtain ⟨⟨hfirst, hlast⟩, ⟨hmonth, -⟩, hday, -⟩ := d.isDay
  have hmonths := d.month_le
  have hdays := d.day_le
  have hdash : ∀ {t : List Char}, ∀ c ∈ ('-' :: t).head?, c.isDigit = false := by
    rintro t c ⟨⟩
    rfl
  simp only [Date.write, dateLayout, List.append_assoc, List.cons_append, List.nil_append]
  rw [readLayout_year hfirst hlast hdash, readLayout_literal,
    readLayout_padded .month rfl hmonth hmonths (by omega), readLayout_literal,
    readLayout_padded .day rfl hday hdays (by omega)]

/-- A time is read as it is written at the end of a text. -/
theorem readLayout_time (f : Fields) (t : Time) :
    readLayout f (clockLayout ++ secondsLayout) t.write
      = .ok { f with hour := t.hour, minute := t.minute, second := t.second, nano := t.nano } := by
  have hhour := t.hour_lt
  have hminute := t.minute_lt
  have hsecond := t.second_le
  have hfraction : readFraction (Time.writeFraction t.nano) = .ok (t.nano, []) := by
    have h : readFraction (Time.writeFraction t.nano ++ []) = .ok (t.nano, []) :=
      readFraction_writeFraction t.nano_lt nofun
    rwa [List.append_nil] at h
  simp only [Time.write, clockLayout, secondsLayout, List.cons_append, List.nil_append]
  rw [readLayout_padded .hour rfl (Nat.zero_le _) (by omega) (by omega),
    readLayout_literal,
    readLayout_padded .minute rfl (Nat.zero_le _) (by omega) (by omega),
    readLayout_literal,
    readLayout_padded .second rfl (Nat.zero_le _) (by omega) (by omega),
    readLayout_cons (Scan.bind_of_eq_ok hfraction)]
  rfl

/-! ## Dates and date-times -/

@[simp] theorem Date.ofParts?_self (d : Date) : Date.ofParts? d.year d.month d.day = some d :=
  dif_pos d.isDay

@[simp] theorem Time.ofParts?_self (t : Time) :
    Time.ofParts? t.hour t.minute t.second t.nano = some t :=
  dif_pos ⟨t.hour_lt, t.minute_lt, t.second_le, t.nano_lt⟩

theorem Date.read_write (d : Date) : Date.read d.write = .ok d := by
  have h := readLayout_date {} [] d []
  rw [List.append_nil, List.append_nil] at h
  rw [Date.read, h]
  simp [readLayout, Fields.date, bind, Except.bind]

/-- A date-time is read by the first layout. -/
theorem DateTime.read?_write (t : DateTime) : DateTime.read? t.write = some t := by
  have h : readLayout {} (dateLayout ++ .literal 'T' :: (clockLayout ++ secondsLayout)) t.write
      = .ok { year := t.date.year, month := t.date.month, day := t.date.day, hour := t.time.hour,
              minute := t.time.minute, second := t.time.second, nano := t.time.nano } := by
    rw [DateTime.write, readLayout_date, readLayout_literal, readLayout_time]
  rw [DateTime.read?, dateTimeLayouts, List.findSome?_cons, h]
  simp [Fields.dateTime, Fields.date, Fields.time, bind, Except.bind, pure, Except.pure,
    Except.toOption]

/-! ## Instants -/

/-- Whether an instant is in a year of four digits, which is written without a sign. -/
def Timestamp.HasPlainYear (t : Timestamp) : Prop :=
  0 ≤ t.utc.date.year ∧ t.utc.date.year < 10000

theorem Scan.lift_of_eq_ok {x : Except CalendarError α} {a : α} (h : x = .ok a) (s : List Char) :
    (liftM x : Scan α) s = .ok (a, s) := by
  rw [h]
  rfl

theorem readPair_padded {n : Nat} (hn : n < 100) : readPair (padded 2 n ++ rest) = .ok (n, rest) :=
  readNumber_padded (by decide) (by decide) (by decide) hn

theorem length_writeYear (year : Int) : 4 ≤ (Date.writeYear year).length := by
  have h := le_length_padded 4 year.natAbs
  rw [Date.writeYear]
  split
  · exact h.trans (Nat.le_succ _)
  · split
    · exact h
    · exact h.trans (Nat.le_succ _)

/-- The text of an instant is not too short for one. -/
theorem Timestamp.le_byteLength_write (t : Timestamp) : leastLength ≤ byteLength t.write := by
  refine le_trans ?_ (Text.length_le_byteLength _)
  have hyear := length_writeYear t.utc.date.year
  have hpair := le_length_padded 2
  have hmonth := hpair t.utc.date.month
  have hday := hpair t.utc.date.day
  have hhour := hpair t.utc.time.hour
  have hminute := hpair t.utc.time.minute
  have hsecond := hpair t.utc.time.second
  have hleast : leastLength = 19 := rfl
  simp only [write, DateTime.write, Date.write, Time.write, List.length_append, List.length_cons,
    List.length_nil]
  omega

/-- What is written of a date-time in UTC is read as local time with no offset. -/
theorem readInstant_write {t : DateTime} (hfirst : 0 ≤ t.date.year) (hlast : t.date.year < 10000) :
    readInstant (t.write ++ ['Z']) = .ok ((t, 0), []) := by
  have hmonth := t.date.month_le
  have hday := t.date.day_le
  have hhour := t.time.hour_lt
  have hminute := t.time.minute_lt
  have hsecond := t.time.second_le
  have hyear : ((t.date.year.natAbs : Nat) : Int) = t.date.year := by omega
  have hdate : Fields.date
      { year := (t.date.year.natAbs : Int), month := t.date.month, day := t.date.day }
      = .ok t.date := by
    rw [hyear]
    simp [Fields.date]
  have htime : Fields.time
      { year := (t.date.year.natAbs : Int), month := t.date.month, day := t.date.day,
        hour := t.time.hour, minute := t.time.minute, second := t.time.second,
        nano := t.time.nano } = .ok t.time := by
    simp [Fields.time]
  have hwrite : Date.writeYear t.date.year = padded 4 t.date.year.natAbs := by
    rw [Date.writeYear, if_neg (by omega), if_pos hlast]
  simp only [DateTime.write, Date.write, Time.write, hwrite, List.append_assoc, List.cons_append]
  unfold readInstant
  -- Each step takes its part off the front: a number of the date or of the time, or what parts two.
  refine (Scan.bind_of_eq_ok (readNumber_padded (by decide) (by decide) (by decide)
    (by omega))).trans ?_
  refine (Scan.bind_of_eq_ok (readChar_cons _ _)).trans ?_
  refine (Scan.bind_of_eq_ok (readPair_padded (by omega))).trans ?_
  refine (Scan.bind_of_eq_ok (readChar_cons _ _)).trans ?_
  refine (Scan.bind_of_eq_ok (readPair_padded (by omega))).trans ?_
  refine (Scan.bind_of_eq_ok (Scan.lift_of_eq_ok hdate _)).trans ?_
  refine (Scan.bind_of_eq_ok (show readSeparator ('T' :: _) = .ok ((), _) from rfl)).trans ?_
  refine (Scan.bind_of_eq_ok (readPair_padded (by omega))).trans ?_
  refine (Scan.bind_of_eq_ok (readChar_cons _ _)).trans ?_
  refine (Scan.bind_of_eq_ok (readPair_padded (by omega))).trans ?_
  refine (Scan.bind_of_eq_ok (readChar_cons _ _)).trans ?_
  refine (Scan.bind_of_eq_ok (readPair_padded (by omega))).trans ?_
  refine (Scan.bind_of_eq_ok (readFraction_writeFraction t.time.nano_lt ?_)).trans ?_
  · rintro c ⟨⟩
    exact ⟨rfl, by decide⟩
  exact (Scan.bind_of_eq_ok (Scan.lift_of_eq_ok htime _)).trans rfl

theorem Time.atMinute_self (t : Time) : t.atMinute (t.hour * 60 + t.minute) = t := by
  obtain ⟨hour, minute, second, nano, hhour, hminute, -, -⟩ := t
  simp only [atMinute, Time.mk.injEq, and_self, and_true]
  omega

theorem DateTime.minusMinutes?_zero (t : DateTime) : t.minusMinutes? 0 = some t := by
  have hhour := t.time.hour_lt
  have hminute := t.time.minute_lt
  have hshifted : ((t.time.hour * 60 + t.time.minute : Nat) : Int) - 0
      = (t.time.hour * 60 + t.time.minute : Nat) := by omega
  have hminutes : ((t.time.hour * 60 + t.time.minute : Nat) : Int) % 1440
      = (t.time.hour * 60 + t.time.minute : Nat) := by omega
  rw [minusMinutes?]
  simp only [hshifted, hminutes, Int.toNat_natCast, Time.atMinute_self]
  rw [if_neg (by omega), if_pos (by omega)]

/-- An instant in a year of four digits is read as it is written. -/
theorem Timestamp.read_write {t : Timestamp} (h : t.HasPlainYear) : read t.write = .ok t := by
  have hbytes : ¬ byteLength t.write < leastLength := Nat.not_lt.mpr t.le_byteLength_write
  have hread : readInstant t.write = .ok ((t.utc, 0), []) := readInstant_write h.1 h.2
  simp only [read, hbytes, if_false, hread, bind, Except.bind, pure, Except.pure]
  simp [DateTime.minusMinutes?_zero]

/-- A year with a sign is no year of an instant. -/
theorem Timestamp.read_write_of_not_hasPlainYear {t : Timestamp} (h : ¬ t.HasPlainYear) :
    read t.write = .error .invalidCharacters := by
  have hbytes := t.le_byteLength_write
  have hsign : ∃ c s, t.write = c :: s ∧ c.isDigit = false := by
    simp only [write, DateTime.write, Date.write, Date.writeYear]
    rw [HasPlainYear] at h
    split
    · exact ⟨'-', _, rfl, rfl⟩
    · rw [if_neg (by omega)]
      exact ⟨'+', _, rfl, rfl⟩
  obtain ⟨c, s, hwrite, hc⟩ := hsign
  have hyear : readNumber 4 (some 4) (c :: s) = .error .invalidCharacters := by
    have hdigits : ((c :: s).take 4).takeWhile Char.isDigit = [] :=
      List.takeWhile_cons_of_neg (by simp [hc])
    have hfour : ¬ byteLength (c :: s) < 4 := by
      have hleast : leastLength = 19 := rfl
      rw [← hwrite]
      omega
    simp only [readNumber, Option.getD_some, hdigits]
    rw [if_neg hfour]
    rfl
  have hread : readInstant t.write = .error .invalidCharacters := by
    rw [hwrite]
    simp only [readInstant, bind, StateT.bind, hyear, Except.bind]
  simp only [read, Nat.not_lt.mpr hbytes, if_false, hread, bind, Except.bind]

/-! ## Years that offsets lead to -/

theorem readNumber_lt {least n most : Nat} (h : readNumber least (some most) s = .ok (n, rest)) :
    n < 10 ^ most := by
  simp only [readNumber, Option.getD_some] at h
  split_ifs at h
  cases h
  calc
    ofDigits ((s.take most).takeWhile Char.isDigit)
        < 10 ^ ((s.take most).takeWhile Char.isDigit).length :=
      ofDigits_lt fun c hc ↦ List.mem_takeWhile_imp hc
    _ ≤ 10 ^ most := Nat.pow_le_pow_right (by decide)
      ((List.takeWhile_sublist _).length_le.trans (List.length_take_le most s))

theorem Scan.of_lift_eq_ok {x : Except CalendarError α} {a : α}
    (h : (liftM x : Scan α) s = .ok (a, rest)) : x = .ok a := by
  cases x with
  | error e => cases h
  | ok b =>
    cases h
    rfl

theorem Date.of_ofParts? {year : Int} {month day : Nat} {d : Date}
    (h : Date.ofParts? year month day = some d) :
    d.year = year ∧ d.month = month ∧ d.day = day := by
  unfold ofParts? at h
  split_ifs at h
  cases h
  exact ⟨rfl, rfl, rfl⟩

theorem Fields.year_of_date {f : Fields} {d : Date} (h : f.date = .ok d) : d.year = f.year := by
  unfold Fields.date at h
  split at h
  · next hparts =>
    cases h
    exact (Date.of_ofParts? hparts).1
  · cases h

/-- The local date of an instant is in a year of four digits. -/
theorem year_of_readInstant {t : DateTime} {offset : Int}
    (h : readInstant s = .ok ((t, offset), rest)) : 0 ≤ t.date.year ∧ t.date.year < 10000 := by
  unfold readInstant at h
  obtain ⟨year, _, hyear, h⟩ := bind_state_eq_ok_iff.mp h
  obtain ⟨_, _, -, h⟩ := bind_state_eq_ok_iff.mp h
  obtain ⟨month, _, -, h⟩ := bind_state_eq_ok_iff.mp h
  obtain ⟨_, _, -, h⟩ := bind_state_eq_ok_iff.mp h
  obtain ⟨day, _, -, h⟩ := bind_state_eq_ok_iff.mp h
  obtain ⟨date, _, hdate, h⟩ := bind_state_eq_ok_iff.mp h
  -- What is read behind the date does not change it.
  obtain ⟨_, _, -, h⟩ := bind_state_eq_ok_iff.mp h
  obtain ⟨hour, _, -, h⟩ := bind_state_eq_ok_iff.mp h
  obtain ⟨_, _, -, h⟩ := bind_state_eq_ok_iff.mp h
  obtain ⟨minute, _, -, h⟩ := bind_state_eq_ok_iff.mp h
  obtain ⟨_, _, -, h⟩ := bind_state_eq_ok_iff.mp h
  obtain ⟨second, _, -, h⟩ := bind_state_eq_ok_iff.mp h
  obtain ⟨nano, _, -, h⟩ := bind_state_eq_ok_iff.mp h
  obtain ⟨time, _, -, h⟩ := bind_state_eq_ok_iff.mp h
  obtain ⟨offset', _, -, h⟩ := bind_state_eq_ok_iff.mp h
  cases h
  have hbound : year < 10000 := readNumber_lt hyear
  have hsame : date.year = year := Fields.year_of_date (Scan.of_lift_eq_ok hdate)
  change 0 ≤ date.year ∧ date.year < 10000
  omega

/-- The day before the year zero. -/
def Date.beforeYearZero : Date := ⟨-1, 12, 31, by decide⟩

/-- The day after the year 9999. -/
def Date.afterYear9999 : Date := ⟨10000, 1, 1, by decide⟩

theorem Date.eq_of_parts {d d' : Date} (hyear : d.year = d'.year) (hmonth : d.month = d'.month)
    (hday : d.day = d'.day) : d = d' := by
  cases d
  cases d'
  cases hyear
  cases hmonth
  cases hday
  rfl

theorem Date.of_previous? {d d' : Date} (h : d.previous? = some d') (hfirst : 0 ≤ d.year) :
    (0 ≤ d'.year ∧ d'.year ≤ d.year) ∨ d' = beforeYearZero := by
  unfold previous? at h
  split_ifs at h
  all_goals obtain ⟨hyear, hmonth, hday⟩ := Date.of_ofParts? h
  · exact .inl ⟨by omega, by omega⟩
  · exact .inl ⟨by omega, by omega⟩
  · by_cases hzero : d.year = 0
    · rw [hzero] at hyear
      exact .inr (eq_of_parts hyear hmonth hday)
    · exact .inl ⟨by omega, by omega⟩

theorem Date.of_next? {d d' : Date} (h : d.next? = some d') (hlast : d.year < 10000) :
    (d.year ≤ d'.year ∧ d'.year < 10000) ∨ d' = afterYear9999 := by
  unfold next? at h
  split_ifs at h
  all_goals obtain ⟨hyear, hmonth, hday⟩ := Date.of_ofParts? h
  · exact .inl ⟨by omega, by omega⟩
  · exact .inl ⟨by omega, by omega⟩
  · by_cases hend : d.year = 9999
    · rw [hend] at hyear
      exact .inr (eq_of_parts hyear hmonth hday)
    · exact .inl ⟨by omega, by omega⟩

theorem DateTime.of_minusMinutes? {t t' : DateTime} {minutes : Int}
    (h : t.minusMinutes? minutes = some t') :
    t.date.previous? = some t'.date ∨ t.date = t'.date ∨ t.date.next? = some t'.date := by
  simp only [minusMinutes?] at h
  split_ifs at h
  · obtain ⟨d, hd, rfl⟩ := Option.map_eq_some_iff.mp h
    exact .inl hd
  · cases h
    exact .inr (.inl rfl)
  · obtain ⟨d, hd, rfl⟩ := Option.map_eq_some_iff.mp h
    exact .inr (.inr hd)

theorem Timestamp.exists_readInstant {t : Timestamp} (h : read s = .ok t) :
    ∃ civil offset rest, readInstant s = .ok ((civil, offset), rest) ∧
      civil.minusMinutes? offset = some t.utc := by
  unfold read at h
  simp only [bind, Except.bind, pure] at h
  split_ifs at h
  cases hread : readInstant s with
  | error e => simp [hread] at h
  | ok r =>
    obtain ⟨⟨civil, offset⟩, rest⟩ := r
    simp only [hread] at h
    split_ifs at h
    split at h
    · next utc hutc =>
      cases h
      exact ⟨civil, offset, rest, rfl, hutc⟩
    · cases h

/-- An instant that is read is in a year of four digits, or on one of the two days that an offset
leads to beyond them. -/
theorem Timestamp.hasPlainYear_or_of_read {t : Timestamp} (h : read s = .ok t) :
    t.HasPlainYear ∨ t.utc.date = .beforeYearZero ∨ t.utc.date = .afterYear9999 := by
  obtain ⟨civil, offset, rest, hread, hutc⟩ := exists_readInstant h
  obtain ⟨hfirst, hlast⟩ := year_of_readInstant hread
  rw [HasPlainYear]
  rcases DateTime.of_minusMinutes? hutc with hprevious | hsame | hnext
  · rcases Date.of_previous? hprevious hfirst with hplain | hdate
    · exact .inl ⟨by omega, by omega⟩
    · exact .inr (.inl hdate)
  · rw [← hsame]
    exact .inl ⟨hfirst, hlast⟩
  · rcases Date.of_next? hnext hlast with hplain | hdate
    · exact .inl ⟨by omega, by omega⟩
    · exact .inr (.inr hdate)

/-! ## Blanks -/

theorem Date.isBlank_of_mem_write (d : Date) : ∀ c ∈ d.write, isBlank c = false := by
  have hyear : ∀ c ∈ writeYear d.year, isBlank c = false := by
    rw [writeYear]
    split
    · exact List.forall_mem_cons.mpr ⟨rfl, isBlank_of_mem_padded⟩
    · split
      · exact isBlank_of_mem_padded
      · exact List.forall_mem_cons.mpr ⟨rfl, isBlank_of_mem_padded⟩
  simp only [write, List.forall_mem_append, List.forall_mem_cons]
  exact ⟨hyear, rfl, isBlank_of_mem_padded, rfl, isBlank_of_mem_padded⟩

theorem Time.isBlank_of_mem_write (t : Time) : ∀ c ∈ t.write, isBlank c = false := by
  have hfraction : ∀ c ∈ writeFraction t.nano, isBlank c = false := by
    rw [writeFraction]
    split
    · nofun
    · split_ifs
      all_goals exact List.forall_mem_cons.mpr ⟨rfl, isBlank_of_mem_padded⟩
  simp only [write, List.forall_mem_append, List.forall_mem_cons]
  exact ⟨isBlank_of_mem_padded, rfl, isBlank_of_mem_padded, rfl, isBlank_of_mem_padded, hfraction⟩

theorem DateTime.isBlank_of_mem_write (t : DateTime) : ∀ c ∈ t.write, isBlank c = false := by
  simp only [write, List.forall_mem_append, List.forall_mem_cons]
  exact ⟨t.date.isBlank_of_mem_write, rfl, t.time.isBlank_of_mem_write⟩

theorem Timestamp.isBlank_of_mem_write (t : Timestamp) : ∀ c ∈ t.write, isBlank c = false := by
  simp only [write, List.forall_mem_append, List.forall_mem_singleton]
  exact ⟨t.utc.isBlank_of_mem_write, rfl⟩

end RecordFilter.Calendar
