import RecordFilter.Number.Digits

/-!
# Dates, times of day and instants

The proleptic Gregorian calendar between two year limits. A time of day may be a
leap second, written `60`, in any minute. A timestamp is a date and time of day
in UTC; an offset from UTC is a number of minutes and moves it by less than a
day.
-/

namespace RecordFilter.Calendar

open RecordFilter.Number

def isLeapYear (year : Int) : Bool := year % 4 = 0 && (year % 100 != 0 || year % 400 = 0)

def daysInMonth (year : Int) (month : Nat) : Nat :=
  if month = 2 then (if isLeapYear year then 29 else 28)
  else if month = 4 ∨ month = 6 ∨ month = 9 ∨ month = 11 then 30
  else 31

def firstYear : Int := -262143

def lastYear : Int := 262142

/-- Year, month and day name a day of the calendar. -/
def IsDay (year : Int) (month day : Nat) : Prop :=
  (firstYear ≤ year ∧ year ≤ lastYear) ∧ (1 ≤ month ∧ month ≤ 12) ∧
    (1 ≤ day ∧ day ≤ daysInMonth year month)

instance (year : Int) (month day : Nat) : Decidable (IsDay year month day) := by
  unfold IsDay
  infer_instance

structure Date where
  year : Int
  month : Nat
  day : Nat
  isDay : IsDay year month day := by decide
deriving DecidableEq, Repr

namespace Date

def ofParts? (year : Int) (month day : Nat) : Option Date :=
  if h : IsDay year month day then some ⟨year, month, day, h⟩ else none

/-- The first day of 1970. -/
def epoch : Date := ⟨1970, 1, 1, by decide⟩

instance : Inhabited Date := ⟨epoch⟩

def compare (a b : Date) : Ordering :=
  (Ord.compare a.year b.year).then ((Ord.compare a.month b.month).then (Ord.compare a.day b.day))

/-- The day after, unless the calendar ends. -/
def next? (d : Date) : Option Date :=
  if d.day < daysInMonth d.year d.month then ofParts? d.year d.month (d.day + 1)
  else if d.month < 12 then ofParts? d.year (d.month + 1) 1
  else ofParts? (d.year + 1) 1 1

/-- The day before, unless the calendar begins. -/
def previous? (d : Date) : Option Date :=
  if 1 < d.day then ofParts? d.year d.month (d.day - 1)
  else if 1 < d.month then ofParts? d.year (d.month - 1) (daysInMonth d.year (d.month - 1))
  else ofParts? (d.year - 1) 12 31

/-- Years of up to four digits have four; all others have a sign. -/
def writeYear (year : Int) : List Char :=
  if year < 0 then '-' :: padded 4 year.natAbs
  else if year < 10000 then padded 4 year.natAbs
  else '+' :: padded 4 year.natAbs

def write (d : Date) : List Char :=
  writeYear d.year ++ '-' :: (padded 2 d.month ++ '-' :: padded 2 d.day)

def toText (d : Date) : String := String.ofList d.write

end Date

/-- A time of day to the nanosecond; second 60 is a leap second. -/
structure Time where
  hour : Nat
  minute : Nat
  second : Nat
  nano : Nat
  hour_lt : hour < 24 := by decide
  minute_lt : minute < 60 := by decide
  second_le : second ≤ 60 := by decide
  nano_lt : nano < 1000000000 := by decide
deriving DecidableEq, Repr

namespace Time

def ofParts? (hour minute second nano : Nat) : Option Time :=
  if h : hour < 24 ∧ minute < 60 ∧ second ≤ 60 ∧ nano < 1000000000 then
    some ⟨hour, minute, second, nano, h.1, h.2.1, h.2.2.1, h.2.2.2⟩
  else none

def midnight : Time := ⟨0, 0, 0, 0, by decide, by decide, by decide, by decide⟩

instance : Inhabited Time := ⟨midnight⟩

def compare (a b : Time) : Ordering :=
  (Ord.compare a.hour b.hour).then ((Ord.compare a.minute b.minute).then
    ((Ord.compare a.second b.second).then (Ord.compare a.nano b.nano)))

/-- No fraction, or three, six or nine digits, as few as say it all. -/
def writeFraction (nano : Nat) : List Char :=
  if nano = 0 then []
  else if nano % 1000000 = 0 then '.' :: padded 3 (nano / 1000000)
  else if nano % 1000 = 0 then '.' :: padded 6 (nano / 1000)
  else '.' :: padded 9 nano

def write (t : Time) : List Char :=
  padded 2 t.hour ++ ':' ::
    (padded 2 t.minute ++ ':' :: (padded 2 t.second ++ writeFraction t.nano))

/-- The time so many minutes into the day, with the seconds of `t`. -/
def atMinute (t : Time) (minutes : Nat) : Time :=
  ⟨minutes / 60 % 24, minutes % 60, t.second, t.nano,
    Nat.mod_lt _ (by decide), Nat.mod_lt _ (by decide), t.second_le, t.nano_lt⟩

end Time

/-- A date and a time of day, without a zone. -/
structure DateTime where
  date : Date
  time : Time
deriving DecidableEq, Repr, Inhabited

namespace DateTime

def compare (a b : DateTime) : Ordering := (a.date.compare b.date).then (a.time.compare b.time)

def write (t : DateTime) : List Char := t.date.write ++ 'T' :: t.time.write

def toText (t : DateTime) : String := String.ofList t.write

/-- The date and time so many minutes earlier, at most a day. -/
def minusMinutes? (t : DateTime) (minutes : Int) : Option DateTime :=
  let shifted : Int := (t.time.hour * 60 + t.time.minute : Nat) - minutes
  let time := t.time.atMinute (shifted % 1440).toNat
  if shifted < 0 then t.date.previous?.map (⟨·, time⟩)
  else if shifted < 1440 then some ⟨t.date, time⟩
  else t.date.next?.map (⟨·, time⟩)

end DateTime

/-- An instant, as its date and time in UTC. -/
structure Timestamp where
  utc : DateTime
deriving DecidableEq, Repr, Inhabited

namespace Timestamp

def compare (a b : Timestamp) : Ordering := a.utc.compare b.utc

def write (t : Timestamp) : List Char := t.utc.write ++ ['Z']

def toText (t : Timestamp) : String := String.ofList t.write

end Timestamp

end RecordFilter.Calendar
