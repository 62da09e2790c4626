import Stylebook.Text.Cut

/-!
Days of the calendar, and times of day on them. A time may say by how many minutes it is ahead of
universal time; two times that do are the same if they are the same moment.
-/

namespace Stylebook

structure Day where
  year : Nat
  month : Nat
  day : Nat
  deriving DecidableEq, Repr

structure Clock where
  hour : Nat
  minute : Nat
  second : Nat
  microsecond : Nat
  deriving DecidableEq, Repr

/-- A day, or a time on a day; `ahead` counts the minutes by which it is ahead of universal time. -/
inductive Moment where
  | day (d : Day)
  | time (d : Day) (c : Clock) (ahead : Option Int)
  deriving DecidableEq, Repr

/-- Which part of a day or a time is out of range. -/
inductive MomentFault where
  | year (n : Nat)
  | month
  | day
  | hour
  | minute
  | second
  | ahead (minutes : Int)
  deriving DecidableEq, Repr

def isLeap (year : Nat) : Bool := year % 4 == 0 && (year % 100 != 0 || year % 400 == 0)

def daysOfMonth (year month : Nat) : Nat :=
  if month = 2 then (if isLeap year then 29 else 28)
  else if [4, 6, 9, 11].contains month then 30
  else 31

/-- The minutes of a whole day. -/
def minutesOfDay : Nat := 1440

namespace Day

/-- A day of the years from 1 to 9999. -/
def of? (year month day : Nat) : Except MomentFault Day :=
  if year = 0 || 9999 < year then .error (.year year)
  else if month = 0 || 12 < month then .error .month
  else if day = 0 || daysOfMonth year month < day then .error .day
  else .ok ⟨year, month, day⟩

/-- The days of a year before one of its months. -/
def before (year : Nat) : Nat → Nat
  | 0 | 1 => 0
  | month + 2 => before year (month + 1) + daysOfMonth year (month + 1)

/-- The place of a day in the calendar; the first one has the number 1. -/
def number (d : Day) : Nat :=
  let past := d.year - 1
  365 * past + past / 4 - past / 100 + past / 400 + before d.year d.month + d.day

end Day

def Clock.of? (hour minute second microsecond : Nat) : Except MomentFault Clock :=
  if 23 < hour then .error .hour
  else if 59 < minute then .error .minute
  else if 59 < second then .error .second
  else .ok ⟨hour, minute, second, microsecond⟩

/-- The microseconds of a day up to a time. -/
def Clock.number (c : Clock) : Nat :=
  ((c.hour * 60 + c.minute) * 60 + c.second) * 1000000 + c.microsecond

/-- A difference from universal time, which is less than a day. -/
def aheadBy (minutes : Int) : Except MomentFault Int :=
  if minutes.natAbs < minutesOfDay then .ok minutes else .error (.ahead minutes)

namespace Moment

/-- The microseconds from the start of the calendar in universal time. -/
def universal (d : Day) (c : Clock) (ahead : Int) : Int :=
  (d.number * (minutesOfDay * 60000000) + c.number : Nat) - ahead * 60000000

def same : Moment → Moment → Bool
  | time d c (some a), time e f (some b) => universal d c a == universal e f b
  | x, y => x == y

end Moment

/-- A number with zeros in front up to a width. -/
def padded (width n : Nat) : String :=
  let ds := Nat.toDigits 10 n
  .ofList (List.replicate (width - ds.length) '0' ++ ds)

def Day.text (d : Day) : String := padded 4 d.year ++ "-" ++ padded 2 d.month ++ "-" ++ padded 2 d.day

def Clock.text (c : Clock) : String :=
  padded 2 c.hour ++ ":" ++ padded 2 c.minute ++ ":" ++ padded 2 c.second ++
    (if c.microsecond = 0 then "" else "." ++ padded 6 c.microsecond)

/-- Hours and minutes with a sign. -/
def aheadText (minutes : Int) : String :=
  (if minutes < 0 then "-" else "+") ++ padded 2 (minutes.natAbs / 60) ++ ":" ++
    padded 2 (minutes.natAbs % 60)

/-- Minutes as a length of time in whole days, which may be negative, and seconds, which are not. -/
def durationWritten (minutes : Int) : String :=
  let days := minutes / minutesOfDay
  let seconds := minutes % minutesOfDay * 60
  let parts := (if days = 0 then [] else ["days=" ++ toString days]) ++
    (if seconds = 0 then [] else ["seconds=" ++ toString seconds])
  "datetime.timedelta(" ++ (if parts.isEmpty then "0" else Text.joinWith ", " parts) ++ ")"

def zoneWritten (minutes : Int) : String :=
  if minutes = 0 then "datetime.timezone.utc"
  else "datetime.timezone(" ++ durationWritten minutes ++ ")"

namespace Moment

/-- The day and the time with a blank between them. -/
def text : Moment → String
  | day d => d.text
  | time d c ahead => d.text ++ " " ++ c.text ++ (ahead.map aheadText).getD ""

def dayNumbers (d : Day) : List Nat := [d.year, d.month, d.day]

/-- The hour, the minute and what comes after them up to the last part that is not zero. -/
def clockNumbers (c : Clock) : List Nat :=
  [c.hour, c.minute] ++
    (if c.microsecond = 0 then (if c.second = 0 then [] else [c.second])
    else [c.second, c.microsecond])

/-- The form in which a list shows a day or a time: its parts by name of the kind. -/
def written : Moment → String
  | day d => "datetime.date(" ++ Text.joinWith ", " ((dayNumbers d).map toString) ++ ")"
  | time d c ahead => "datetime.datetime(" ++
      Text.joinWith ", " ((dayNumbers d ++ clockNumbers c).map toString ++
        (ahead.map fun a => "tzinfo=" ++ zoneWritten a).toList) ++ ")"

def kindName : Moment → String
  | day _ => "date"
  | time _ _ _ => "datetime"

end Moment

def MomentFault.message : MomentFault → String
  | year n => "year " ++ toString n ++ " is out of range"
  | month => "month must be in 1..12"
  | day => "day is out of range for month"
  | hour => "hour must be in 0..23"
  | minute => "minute must be in 0..59"
  | second => "second must be in 0..59"
  | ahead minutes => "offset must be a timedelta strictly between -timedelta(hours=24) and " ++
      "timedelta(hours=24), not " ++ durationWritten minutes ++ "."

end Stylebook
