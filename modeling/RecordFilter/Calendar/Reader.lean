import RecordFilter.Calendar.Date
import RecordFilter.Text.Blank
import RecordFilter.Text.Span

/-!
# Reading dates and times

Dates and date-times are read by layouts, lists of the fields and characters to
expect; blanks before a field are skipped. Timestamps have one fixed layout with
exact widths and end in their offset from UTC. A reader reports the first thing
that is wrong from the left; whether the fields name a day is asked last, but in
timestamps as soon as the day has been read.
-/

namespace RecordFilter.Calendar

open RecordFilter.Number
open RecordFilter.Text (byteLength trimLeft)

/-- Why a text names no date or time. -/
inductive CalendarError where
  | outOfRange
  | invalidCharacters
  | tooShort
  | trailingInput
deriving DecidableEq, Repr

def CalendarError.message : CalendarError → String
  | outOfRange => "input is out of range"
  | invalidCharacters => "input contains invalid characters"
  | tooShort => "premature end of input"
  | trailingInput => "trailing input"

/-- A reader takes a value off the front of a text. -/
abbrev Scan := StateT (List Char) (Except CalendarError)

/-- Stops with an error. -/
def fail {α : Type} (e : CalendarError) : Scan α := fun _ => .error e

/-- Goes on if the test holds. -/
def inRange (ok : Bool) : Scan Unit := if ok then pure () else fail .outOfRange

/-- Reads a number of `least` digits or more, of the first `most` characters if there is such a
limit. -/
def readNumber (least : Nat) (most : Option Nat) : Scan Nat := fun s =>
  if byteLength s < least then .error .tooShort
  else
    let ds := (s.take (most.getD s.length)).takeWhile Char.isDigit
    if ds.length < least then .error .invalidCharacters
    else if UInt64.size / 2 ≤ ofDigits ds then .error .outOfRange
    else .ok (ofDigits ds, s.drop ds.length)

/-- Reads one given character. -/
def readChar (c : Char) : Scan Unit
  | [] => .error .tooShort
  | d :: s => if d = c then .ok ((), s) else .error .invalidCharacters

/-- Skips blanks. -/
def skipBlanks : Scan Unit := fun s => .ok ((), trimLeft s)

/-- Reads the digits after a point as nanoseconds. Digits beyond the ninth are skipped. -/
def readNano : Scan Nat := fun s => do
  let (n, rest) ← readNumber 1 (some 9) s
  let width := s.length - rest.length
  return (n * tenTo (9 - width), rest.dropWhile Char.isDigit)

/-- A point and digits, or nothing. -/
def readFraction : Scan Nat
  | '.' :: s => readNano s
  | s => .ok (0, s)

/-- A year: up to four digits, or any number of them after a sign. -/
def readYear : Scan Int
  | '-' :: s => (do
    let n ← readNumber 1 none
    inRange (n ≤ UInt32.size / 2)
    return -(n : Int) : Scan Int) s
  | '+' :: s => (do
    let n ← readNumber 1 none
    inRange (n < UInt32.size / 2)
    return (n : Int) : Scan Int) s
  | s => (do
    let n ← readNumber 1 (some 4)
    return (n : Int) : Scan Int) s

/-- Reads a number of `least` to two digits within bounds. -/
def readField (least low high : Nat) : Scan Nat := do
  let n ← readNumber least (some 2)
  inRange (low ≤ n && n ≤ high)
  return n

/-- What a layout expects next. -/
inductive Item where
  | year
  | month
  | day
  | hour
  | minute
  | second
  /-- A point and digits, or nothing. -/
  | fraction
  /-- Any number of blanks. -/
  | gap
  | literal (c : Char)
deriving DecidableEq, Repr

/-- The fields read so far. -/
structure Fields where
  year : Int := 0
  month : Nat := 0
  day : Nat := 0
  hour : Nat := 0
  minute : Nat := 0
  second : Nat := 0
  nano : Nat := 0
deriving DecidableEq, Repr, Inhabited

namespace Fields

def date (f : Fields) : Except CalendarError Date :=
  match Date.ofParts? f.year f.month f.day with
  | some d => .ok d
  | none => .error .outOfRange

def time (f : Fields) : Except CalendarError Time :=
  match Time.ofParts? f.hour f.minute f.second f.nano with
  | some t => .ok t
  | none => .error .outOfRange

def dateTime (f : Fields) : Except CalendarError DateTime := do
  let d ← f.date
  let t ← f.time
  return ⟨d, t⟩

end Fields

/-- Reads one item of a layout. -/
def Item.read (f : Fields) : Item → Scan Fields
  | year => do skipBlanks; return { f with year := ← readYear }
  | month => do skipBlanks; return { f with month := ← readField 1 1 12 }
  | day => do skipBlanks; return { f with day := ← readField 1 1 31 }
  | hour => do skipBlanks; return { f with hour := ← readField 1 0 23 }
  | minute => do skipBlanks; return { f with minute := ← readField 1 0 59 }
  | second => do skipBlanks; return { f with second := ← readField 1 0 60 }
  | fraction => do return { f with nano := ← readFraction }
  | gap => do skipBlanks; return f
  | literal c => do readChar c; return f

/-- Reads a whole text by a layout. -/
def readLayout (f : Fields) : List Item → List Char → Except CalendarError Fields
  | [], [] => .ok f
  | [], _ :: _ => .error .trailingInput
  | item :: layout, s => do
    let (f, rest) ← item.read f s
    readLayout f layout rest

/-- Year, month and day, with dashes. -/
def dateLayout : List Item := [.year, .literal '-', .month, .literal '-', .day]

/-- Hour and minute, with a colon. -/
def clockLayout : List Item := [.hour, .literal ':', .minute]

/-- Seconds and their fraction after a colon. -/
def secondsLayout : List Item := [.literal ':', .second, .fraction]

/-- The layouts of a date-time, in the order in which they are tried. -/
def dateTimeLayouts : List (List Item) :=
  [dateLayout ++ .literal 'T' :: (clockLayout ++ secondsLayout),
    dateLayout ++ .gap :: (clockLayout ++ secondsLayout),
    dateLayout ++ .literal 'T' :: clockLayout,
    dateLayout ++ .gap :: clockLayout,
    dateLayout]

def Date.read (s : List Char) : Except CalendarError Date := do
  let f ← readLayout {} dateLayout s
  f.date

/-- Reads a date-time by the first layout that fits; a date alone is its midnight. -/
def DateTime.read? (s : List Char) : Option DateTime :=
  dateTimeLayouts.findSome? fun layout =>
    ((readLayout {} layout s).bind Fields.dateTime).toOption

/-- The letter or blank between a date and a time. -/
def readSeparator : Scan Unit
  | [] => .error .tooShort
  | c :: s => if c == 'T' || c == 't' || c == ' ' then .ok ((), s) else .error .invalidCharacters

/-- Hours and minutes of an offset. -/
def readOffsetMinutes : Scan Nat := do
  let hours ← readNumber 2 (some 2)
  readChar ':'
  let minutes ← readNumber 2 (some 2)
  inRange (minutes < 60)
  return hours * 60 + minutes

/-- Reads the offset from UTC, in minutes to the east. -/
def readOffset : Scan Int
  | [] => .error .tooShort
  | c :: s =>
    if c == 'Z' || c == 'z' then .ok (0, s)
    else if c == '+' then (do return (← readOffsetMinutes : Int) : Scan Int) s
    else if c == '-' || c == '−' then (do return -(← readOffsetMinutes : Int) : Scan Int) s
    else .error .invalidCharacters

/-- Reads two digits. -/
def readPair : Scan Nat := readNumber 2 (some 2)

/-- Reads the local date and time of a timestamp and its offset. The date is looked up before the
time is read, and the time before the offset. -/
def readInstant : Scan (DateTime × Int) := do
  let year ← readNumber 4 (some 4)
  readChar '-'
  let month ← readPair
  readChar '-'
  let day ← readPair
  let fields : Fields := { year, month, day }
  let date ← fields.date
  readSeparator
  let hour ← readPair
  readChar ':'
  let minute ← readPair
  readChar ':'
  let second ← readPair
  let nano ← readFraction
  let time ← { fields with hour, minute, second, nano }.time
  let offset ← readOffset
  return (⟨date, time⟩, offset)

/-- The length of a timestamp without its fraction and its offset. -/
def leastLength : Nat := "2024-01-15T10:30:00".length

/-- Reads a timestamp and takes it to UTC. -/
def Timestamp.read (s : List Char) : Except CalendarError Timestamp := do
  if byteLength s < leastLength then .error .tooShort
  let ((civil, offset), rest) ← readInstant s
  if !rest.isEmpty then .error .trailingInput
  if 24 * 60 ≤ offset.natAbs then .error .outOfRange
  match civil.minusMinutes? offset with
  | some utc => return ⟨utc⟩
  | none => .error .outOfRange

end RecordFilter.Calendar
