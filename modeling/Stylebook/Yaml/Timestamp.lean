import Stylebook.Moment
import Stylebook.Number.Reading

/-!
Days and times as YAML text writes them: `2001-12-14`, or `2001-12-14t21:59:43.10-05:00`. The time
of day stands after a `T` or blanks, and its difference from universal time, for which `Z` writes
none, after blanks or right away.
-/

namespace Stylebook.Yaml

open Text (isDigitAscii isTabOrSpace takeMark? atEnd)

/-- The numbers of a time of day as they are written. -/
structure ClockText where
  hour : Nat
  minute : Nat
  second : Nat
  microsecond : Nat
  ahead : Option Int
  deriving DecidableEq, Repr

/-- The numbers of a day as they are written, and of a time of day if there is one. -/
structure Timestamp where
  year : Nat
  month : Nat
  day : Nat
  clock : Option ClockText
  deriving DecidableEq, Repr

/-- The number at the front that has from `least` to `most` digits, and what follows it. -/
def takeNumber? (least most : Nat) (s : List Char) : Option (Nat × List Char) :=
  let ds := s.takeWhile isDigitAscii
  if least ≤ ds.length && ds.length ≤ most then some (digitsValue ds, s.drop ds.length) else none

/-- What follows the mark between a day and a time. -/
def takeGap? : List Char → Option (List Char)
  | [] => none
  | c :: rest =>
    if c == 'T' || c == 't' then some rest
    else if isTabOrSpace c then some (rest.dropWhile isTabOrSpace)
    else none

/-- A fraction of a second in microseconds; what is smaller is cut off. -/
def takeFraction : List Char → Nat × List Char
  | '.' :: rest =>
    let ds := rest.takeWhile isDigitAscii
    (digitsValue ((ds ++ List.replicate 6 '0').take 6), rest.drop ds.length)
  | s => (0, s)

/-- Hours and minutes after a sign; the minutes may be left out. -/
def readAhead? (s : List Char) : Option Int := do
  let (hours, rest) ← takeNumber? 1 2 s
  if atEnd rest then return 60 * hours
  let (minutes, rest) ← takeNumber? 2 2 (← takeMark? ':' rest)
  if atEnd rest then return 60 * hours + minutes else none

/-- The minutes by which a time is ahead of universal time, if it says so. -/
def readZone? (s : List Char) : Option (Option Int) :=
  if atEnd s then some none
  else match s.dropWhile isTabOrSpace with
    | 'Z' :: rest => if atEnd rest then some (some 0) else none
    | '+' :: rest => (readAhead? rest).map some
    | '-' :: rest => (readAhead? rest).map fun a => some (-a)
    | _ => none

def readClock? (s : List Char) : Option ClockText := do
  let (hour, rest) ← takeNumber? 1 2 s
  let (minute, rest) ← takeNumber? 2 2 (← takeMark? ':' rest)
  let (second, rest) ← takeNumber? 2 2 (← takeMark? ':' rest)
  let (microsecond, rest) := takeFraction rest
  return ⟨hour, minute, second, microsecond, ← readZone? rest⟩

namespace Timestamp

/-- The numbers that a text writes in the form of a day or a time. -/
def read? (s : List Char) : Option Timestamp := do
  let (year, rest) ← takeNumber? 4 4 s
  let (month, rest) ← takeNumber? 1 2 (← takeMark? '-' rest)
  let (day, rest) ← takeNumber? 1 2 (← takeMark? '-' rest)
  if atEnd rest then return ⟨year, month, day, none⟩
  return ⟨year, month, day, some (← readClock? (← takeGap? rest))⟩

/-- Is a text without a tag a day or a time? A lone day has all its ten characters. -/
def isPlain (s : List Char) : Bool :=
  match read? s with
  | some t => t.clock.isSome || s.length == 10
  | none => false

/-- The moment that the numbers tell, if they are in range. -/
def moment? (t : Timestamp) : Except MomentFault Moment :=
  match t.clock with
  | none => (Day.of? t.year t.month t.day).map .day
  | some c => do
    let ahead ← c.ahead.mapM aheadBy
    let day ← Day.of? t.year t.month t.day
    return .time day (← Clock.of? c.hour c.minute c.second c.microsecond) ahead

end Timestamp

end Stylebook.Yaml
