/-
  Dates and moments of the calendar: which there are, and their two texts.

  A moment may carry its distance from universal time; the distance is less than a day.
-/
import VeiledGateway.Text.Search

set_option autoImplicit false

namespace VeiledGateway

structure Date where
  year : Nat
  month : Nat
  day : Nat
deriving DecidableEq

/-- A date and a time of the day; `zone` is the distance from universal time in seconds. -/
structure Moment where
  date : Date
  hour : Nat
  minute : Nat
  second : Nat
  micros : Nat
  zone : Option Int
deriving DecidableEq

/-- Why numbers make no date or moment. -/
inductive CalendarFault where
  | year (n : Nat)
  | month
  | day
  | hour
  | minute
  | second
  /-- A distance from universal time, in seconds, of a day or more. -/
  | zone (seconds : Int)
deriving DecidableEq

namespace Date

def isLeap (year : Nat) : Bool :=
  year % 4 == 0 && (year % 100 != 0 || year % 400 == 0)

def daysIn (year month : Nat) : Nat :=
  if month = 2 then (if isLeap year then 29 else 28)
  else if [4, 6, 9, 11].contains month then 30
  else 31

/-- The date of three numbers. -/
def ofNumbers (year month day : Nat) : Except CalendarFault Date :=
  if year = 0 ∨ 9999 < year then .error (.year year)
  else if month = 0 ∨ 12 < month then .error .month
  else if day = 0 ∨ daysIn year month < day then .error .day
  else .ok ⟨year, month, day⟩

def padded (n width : Nat) : Text :=
  Text.padLeft (Text.ofNat n) width '0'

/-- Four digits of the year, two of the month and two of the day. -/
def text (d : Date) : Text :=
  padded d.year 4 ++ ("-" : Text) ++ padded d.month 2 ++ ("-" : Text) ++ padded d.day 2

def numbers (d : Date) : List Nat :=
  [d.year, d.month, d.day]

/-- The form of a date inside a collection. -/
def written (d : Date) : Text :=
  ("datetime.date(" : Text) ++ Text.join ", " (d.numbers.map Text.ofNat) ++ (")" : Text)

/-- How many days lie between the beginning of the calendar and a date. -/
def dayNumber (d : Date) : Nat :=
  let past := d.year - 1
  let months := (List.range (d.month - 1)).map fun m => daysIn d.year (m + 1)
  past * 365 + past / 4 - past / 100 + past / 400 + months.foldl (· + ·) 0 + d.day

/-- The date so many days after the first of a month, at most so many months on. -/
def afterMonth (year : Nat) : Nat → Nat → Nat → Date
  | 0, month, days => ⟨year, month, days + 1⟩
  | months + 1, month, days =>
    if days < daysIn year month then ⟨year, month, days + 1⟩
    else afterMonth year months (month + 1) (days - daysIn year month)

/-- The date with this day number. -/
def ofDayNumber (n : Nat) : Date :=
  let days := n - 1
  let cycles := days / 146097
  let days := days % 146097
  let centuries := min (days / 36524) 3
  let days := days - centuries * 36524
  let leaps := days / 1461
  let days := days % 1461
  let years := min (days / 365) 3
  afterMonth (cycles * 400 + centuries * 100 + leaps * 4 + years + 1) 11 1 (days - years * 365)

end Date

namespace Moment

/-- The number of seconds of a day. -/
def daySeconds : Int := 86400

/-- The written form of a distance in seconds, in whole days and the seconds beyond them. -/
def writtenDistance (seconds : Int) : Text :=
  let days := Int.fdiv seconds daySeconds
  let rest := Int.fmod seconds daySeconds
  let parts : List Text :=
    (if days = 0 then [] else [("days=" : Text) ++ Text.ofInt days])
      ++ (if rest = 0 then [] else [("seconds=" : Text) ++ Text.ofInt rest])
  ("datetime.timedelta(" : Text) ++ (if parts.isEmpty then ("0" : Text) else Text.join ", " parts)
    ++ (")" : Text)

/-- A distance from universal time, which is less than a day. -/
def zoneOf (seconds : Int) : Except CalendarFault Int :=
  if seconds ≤ -daySeconds ∨ daySeconds ≤ seconds then .error (.zone seconds) else .ok seconds

def ofNumbers (date : Except CalendarFault Date) (hour minute second micros : Nat)
    (zone : Option Int) : Except CalendarFault Moment := do
  let date ← date
  if 23 < hour then throw .hour
  if 59 < minute then throw .minute
  if 59 < second then throw .second
  return ⟨date, hour, minute, second, micros, zone⟩

def zoneText (seconds : Int) : Text :=
  let minutes := seconds.natAbs / 60
  (if seconds < 0 then ("-" : Text) else "+") ++ Date.padded (minutes / 60) 2 ++ (":" : Text)
    ++ Date.padded (minutes % 60) 2

/-- The date, the time and the distance from universal time; millionths stand only where there are
any. -/
def text (m : Moment) : Text :=
  m.date.text ++ (" " : Text) ++ Date.padded m.hour 2 ++ (":" : Text) ++ Date.padded m.minute 2
    ++ (":" : Text) ++ Date.padded m.second 2
    ++ (if m.micros = 0 then [] else ("." : Text) ++ Date.padded m.micros 6)
    ++ (match m.zone with
      | some zone => zoneText zone
      | none => [])

/-- The numbers of a moment; seconds and millionths that are zero are left out at the end. -/
def numbers (m : Moment) : List Nat :=
  let tail :=
    if m.micros ≠ 0 then [m.second, m.micros]
    else if m.second ≠ 0 then [m.second]
    else []
  m.date.numbers ++ [m.hour, m.minute] ++ tail

def writtenZone (seconds : Int) : Text :=
  if seconds = 0 then "datetime.timezone.utc"
  else ("datetime.timezone(" : Text) ++ writtenDistance seconds ++ (")" : Text)

/-- The form of a moment inside a collection. -/
def written (m : Moment) : Text :=
  let zone : List Text := match m.zone with
    | some zone => [("tzinfo=" : Text) ++ writtenZone zone]
    | none => []
  ("datetime.datetime(" : Text) ++ Text.join ", " (m.numbers.map Text.ofNat ++ zone) ++ (")" : Text)

/-- Where a moment lies on the line of time, in millionths of a second. -/
def instant (m : Moment) : Int :=
  let minutes : Int := (m.date.dayNumber * 24 + m.hour) * 60 + m.minute
  (minutes * 60 + m.second - m.zone.getD 0) * 1000000 + m.micros

/-- The moment of universal time with this instant. -/
def ofInstant (instant : Nat) : Moment :=
  let seconds := instant / 1000000
  let minutes := seconds / 60
  let hours := minutes / 60
  ⟨Date.ofDayNumber (hours / 24), hours % 24, minutes % 60, seconds % 60, instant % 1000000, some 0⟩

/-- The same moment: both carry a distance from universal time or neither does. -/
def same (a b : Moment) : Bool :=
  a.zone.isSome == b.zone.isSome && a.instant == b.instant

end Moment

/-- The words for a fault. -/
def CalendarFault.message : CalendarFault → Text
  | .year n => ("year " : Text) ++ Text.ofNat n ++ (" is out of range" : Text)
  | .month => "month must be in 1..12"
  | .day => "day is out of range for month"
  | .hour => "hour must be in 0..23"
  | .minute => "minute must be in 0..59"
  | .second => "second must be in 0..59"
  | .zone seconds =>
    ("offset must be a timedelta strictly between -timedelta(hours=24) and timedelta(hours=24), not "
      : Text) ++ Moment.writtenDistance seconds ++ ("." : Text)

end VeiledGateway
