import SchemaDiagram.Text.Basic

/-! # Days and times

A moment is a day of the Gregorian calendar, or a day with a time and perhaps the offset of a time
zone.

* **`Moment.check`** — the moment with given numbers, or which of them is out of range.
* **`Moment.text`** — its text: `2001-12-31 23:59:59.500000+02:00`.
* **`Moment.shown`** — its form inside a list or map of a message. -/

namespace SchemaDiagram

/-- A day. -/
structure Day where
  /-- The year. -/
  year : Nat
  /-- The month of the year. -/
  month : Nat
  /-- The day of the month. -/
  day : Nat
deriving DecidableEq, Repr

/-- A time of a day. -/
structure DayTime where
  /-- The hour. -/
  hour : Nat
  /-- The minute. -/
  minute : Nat
  /-- The second. -/
  second : Nat
  /-- The microsecond. -/
  micro : Nat
deriving DecidableEq, Repr

/-- A day, or a time of it. -/
inductive Moment where
  /-- A whole day. -/
  | day (d : Day)
  /-- A time of a day, with the seconds that its zone is ahead of universal time. -/
  | time (d : Day) (t : DayTime) (offset : Option Int)
deriving DecidableEq, Repr

/-- Which number keeps a moment from being one. -/
inductive MomentFault where
  /-- There is no such year. -/
  | year (n : Nat)
  /-- There is no such month. -/
  | month
  /-- The month has no such day. -/
  | day
  /-- There is no such hour. -/
  | hour
  /-- There is no such minute. -/
  | minute
  /-- There is no such second. -/
  | second
  /-- The zone is ahead or behind by a day or more. -/
  | offset (seconds : Int)
deriving DecidableEq, Repr

/-! ## Written forms -/

/-- A stretch of time inside a message, by its days and the seconds beyond them. -/
def shownStretch (seconds : Int) : Text :=
  let days := Int.fdiv seconds 86400
  let rest := Int.fmod seconds 86400
  let parts : List Text :=
    (if days = 0 then [] else ["days=".toList ++ Text.ofInt days])
      ++ (if rest = 0 then [] else ["seconds=".toList ++ Text.ofInt rest])
  concat ["datetime.timedelta(", if parts.isEmpty then ['0'] else Text.join ", " parts, ")"]

/-- The wording of a fault. -/
def MomentFault.message : MomentFault → Text
  | year n => concat ["year ", Text.ofNat n, " is out of range"]
  | month => "month must be in 1..12"
  | day => "day is out of range for month"
  | hour => "hour must be in 0..23"
  | minute => "minute must be in 0..59"
  | second => "second must be in 0..59"
  | offset seconds =>
    concat ["offset must be a timedelta strictly between -timedelta(hours=24) and ",
      "timedelta(hours=24), not ", shownStretch seconds, "."]

/-- A number with zeros in front up to `width` digits. -/
def paddedNumber (width n : Nat) : Text := Text.padLeftWith '0' width (Text.ofNat n)

/-- The numbers of a text between commas. -/
def numberList (numbers : List Nat) : Text := Text.join ", " (numbers.map Text.ofNat)

namespace Day

/-- The year, month and day with hyphens between them. -/
def text (d : Day) : Text :=
  concat [paddedNumber 4 d.year, "-", paddedNumber 2 d.month, "-", paddedNumber 2 d.day]

/-- The numbers of a day, the largest unit first. -/
def numbers (d : Day) : List Nat := [d.year, d.month, d.day]

end Day

namespace DayTime

/-- Hours, minutes and seconds with colons between them, and microseconds where there are any. -/
def text (t : DayTime) : Text :=
  let micro : Text := if t.micro = 0 then [] else '.' :: paddedNumber 6 t.micro
  concat [paddedNumber 2 t.hour, ":", paddedNumber 2 t.minute, ":", paddedNumber 2 t.second, micro]

/-- The numbers of a time, the largest unit first; zeros at the end are left out down to the
minute. -/
def numbers (t : DayTime) : List Nat :=
  if t.micro ≠ 0 then [t.hour, t.minute, t.second, t.micro]
  else if t.second ≠ 0 then [t.hour, t.minute, t.second]
  else [t.hour, t.minute]

end DayTime

/-- An offset with its sign, in hours and minutes. -/
def offsetText (seconds : Int) : Text :=
  let minutes := seconds.natAbs / 60
  concat [if seconds < 0 then "-" else "+", paddedNumber 2 (minutes / 60), ":",
    paddedNumber 2 (minutes % 60)]

/-- An offset inside a message. -/
def shownZone (seconds : Int) : Text :=
  if seconds = 0 then "datetime.timezone.utc"
  else concat ["datetime.timezone(", shownStretch seconds, ")"]

namespace Moment

/-- The text of a moment. -/
def text : Moment → Text
  | day d => d.text
  | time d t offset => concat [d.text, " ", t.text, (offset.map offsetText).getD []]

/-- The form of a moment inside a list or map of a message. -/
def shown : Moment → Text
  | day d => concat ["datetime.date(", numberList d.numbers, ")"]
  | time d t offset =>
    let zone : Text := (offset.map fun s => concat [", tzinfo=", shownZone s]).getD []
    concat ["datetime.datetime(", numberList (d.numbers ++ t.numbers), zone, ")"]

end Moment

/-! ## Ranges -/

/-- Whether the year has a leap day. -/
def isLeapYear (year : Nat) : Bool := year % 4 = 0 && (year % 100 ≠ 0 || year % 400 = 0)

/-- How many days a month has. -/
def daysInMonth (year month : Nat) : Nat :=
  if month = 2 then (if isLeapYear year then 29 else 28)
  else if month = 4 || month = 6 || month = 9 || month = 11 then 30
  else 31

/-- The day, or which of its numbers is out of range. -/
def Day.check (d : Day) : Except MomentFault Day :=
  if d.year < 1 || 9999 < d.year then .error (.year d.year)
  else if d.month < 1 || 12 < d.month then .error .month
  else if d.day < 1 || daysInMonth d.year d.month < d.day then .error .day
  else .ok d

/-- The time, or which of its numbers is out of range. -/
def DayTime.check (t : DayTime) : Except MomentFault DayTime :=
  if 23 < t.hour then .error .hour
  else if 59 < t.minute then .error .minute
  else if 59 < t.second then .error .second
  else .ok t

/-- The moment, or which of its numbers is out of range; the zone is looked at first. -/
def Moment.check : Moment → Except MomentFault Moment
  | day d => d.check.map day
  | time d t offset =>
    match offset.filter fun s => 86400 ≤ s.natAbs with
    | some s => .error (.offset s)
    | none => do return time (← d.check) (← t.check) offset

end SchemaDiagram
