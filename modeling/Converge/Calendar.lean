/-
  Converge.Calendar
  ─────────────────
  **DATES AND TIMES OF THE PROLEPTIC GREGORIAN CALENDAR.**

  Years run from 1 to 9999.  A date or time is built only from fields in range, and a refusal says
  which field is not.  A time may carry its offset from universal time; two times with an offset are
  the same moment when their instants agree.
-/
import Converge.Number.Numeral

namespace Converge.Calendar

open Converge.Number

/-! ## §1. Fields and their ranges. -/

/-- The field that a refusal is about. -/
inductive OutOfRange where
  /-- No such year. -/
  | year (year : Nat)
  /-- No such month. -/
  | month
  /-- The month has no such day. -/
  | day
  /-- No such hour. -/
  | hour
  /-- No such minute. -/
  | minute
  /-- No such second. -/
  | second
  /-- An offset of a day or more, in seconds. -/
  | offset (seconds : Int)
deriving DecidableEq, Repr

/-- Whether a year has 366 days. -/
def isLeap (year : Nat) : Bool :=
  year % 4 == 0 && (year % 100 != 0 || year % 400 == 0)

/-- The number of days of a month. -/
def daysIn (year month : Nat) : Nat :=
  if month = 2 then (if isLeap year then 29 else 28)
  else if month = 4 ∨ month = 6 ∨ month = 9 ∨ month = 11 then 30
  else 31

/-- A calendar date. -/
structure Date where
  /-- The year, from 1. -/
  year : Nat
  /-- The month, from 1. -/
  month : Nat
  /-- The day of the month, from 1. -/
  day : Nat
deriving DecidableEq, Repr

/-- A date with a time of day, and its offset from universal time in seconds if it has one. -/
structure DateTime where
  /-- The date. -/
  date : Date
  /-- The hour. -/
  hour : Nat
  /-- The minute. -/
  minute : Nat
  /-- The second. -/
  second : Nat
  /-- The fraction of the second, in microseconds. -/
  microsecond : Nat
  /-- How far ahead of universal time, in seconds. -/
  offset : Option Int
deriving DecidableEq, Repr

/-- The date with these fields, if they are in range; the year is looked at first. -/
def Date.of (year month day : Nat) : Except OutOfRange Date :=
  if year < 1 ∨ 9999 < year then .error (.year year)
  else if month < 1 ∨ 12 < month then .error .month
  else if day < 1 ∨ daysIn year month < day then .error .day
  else .ok ⟨year, month, day⟩

/-- The date and time with these fields, if they are in range, in the order in which they are given. -/
def DateTime.of (year month day hour minute second microsecond : Nat) (offset : Option Int) :
    Except OutOfRange DateTime := do
  let date ← Date.of year month day
  if 23 < hour then throw .hour
  if 59 < minute then throw .minute
  if 59 < second then throw .second
  return ⟨date, hour, minute, second, microsecond, offset⟩

/-- The seconds of a day. -/
def secondsPerDay : Int := 86400

/-- An offset, if it is less than a day either way. -/
def offsetOf (seconds : Int) : Except OutOfRange Int :=
  if -secondsPerDay < seconds ∧ seconds < secondsPerDay then .ok seconds
  else .error (.offset seconds)

/-! ## §2. Instants. -/

/-- The number of days in the first months of a year. -/
def daysInMonths (year : Nat) : Nat → Nat
  | 0 => 0
  | months + 1 => daysInMonths year months + daysIn year (months + 1)

/-- The number of days before a date, from the first day of year 1. -/
def Date.dayNumber (d : Date) : Nat :=
  let y := d.year - 1
  365 * y + y / 4 - y / 100 + y / 400 + daysInMonths d.year (d.month - 1) + (d.day - 1)

/-- The microseconds of a time on its own clock. -/
def DateTime.clock (t : DateTime) : Int :=
  (((t.date.dayNumber * 24 + t.hour) * 60 + t.minute) * 60 + t.second : Nat) * 1000000
    + t.microsecond

/-- Whether two times are the same moment; one with an offset and one without never are. -/
def DateTime.sameMoment (s t : DateTime) : Bool :=
  match s.offset, t.offset with
  | none, none => s.clock == t.clock
  | some o, some p => s.clock - o * 1000000 == t.clock - p * 1000000
  | _, _ => false

/-! ## §3. Text. -/

/-- The date as year, month and day joined by hyphens. -/
def Date.isoText (d : Date) : String :=
  decimalText 4 d.year ++ "-" ++ decimalText 2 d.month ++ "-" ++ decimalText 2 d.day

/-- An offset as a sign, hours and minutes, and the seconds if there are any. -/
def offsetText (seconds : Int) : String :=
  let n := seconds.natAbs
  (if seconds < 0 then "-" else "+") ++ decimalText 2 (n / 3600) ++ ":"
    ++ decimalText 2 (n / 60 % 60) ++ (if n % 60 = 0 then "" else ":" ++ decimalText 2 (n % 60))

/-- Date and time joined by `T`; the fraction is written only if there is one. -/
def DateTime.isoText (t : DateTime) : String :=
  t.date.isoText ++ "T" ++ decimalText 2 t.hour ++ ":" ++ decimalText 2 t.minute ++ ":"
    ++ decimalText 2 t.second
    ++ (if t.microsecond = 0 then "" else "." ++ decimalText 6 t.microsecond)
    ++ (match t.offset with
      | none => ""
      | some o => offsetText o)

end Converge.Calendar
