import Teletype.Text.Basic

/-!
# Days and moments

A day of the calendar (`Day`), and a point of time within a day (`Moment`), which may say by how
much the clock that it was read from is ahead of the common one. Moments with such an offset are the
same when they name the same instant; those without one are compared as they are written. A moment
with an offset and one without have no order.
-/

namespace Teletype

/-! ## Days -/

/-- A day of the calendar. -/
structure Day where
  year : Nat
  month : Nat
  day : Nat
deriving DecidableEq, Repr

/-- What is wrong with a day or a moment. -/
inductive CalendarFault where
  /-- The clock is ahead by a day or more, given in minutes. -/
  | offset (minutes : Int)
  | year (n : Nat)
  | month
  | day
  | hour
  | minute
  | second
deriving DecidableEq, Repr

/-- The text of a span of time: its days, rounded down, and the seconds that remain. -/
def spanText (minutes : Int) : String :=
  let days := Int.fdiv minutes 1440
  let seconds := 60 * Int.fmod minutes 1440
  let rest := if seconds = 0 then "" else s!", seconds={seconds}"
  s!"datetime.timedelta(days={days}{rest})"

/-- The text that reports a day or a moment that does not exist. -/
def CalendarFault.message : CalendarFault → String
  | offset minutes =>
    "offset must be a timedelta strictly between -timedelta(hours=24) and timedelta(hours=24), " ++
      s!"not {spanText minutes}."
  | year n => s!"year {n} is out of range"
  | month => "month must be in 1..12"
  | day => "day is out of range for month"
  | hour => "hour must be in 0..23"
  | minute => "minute must be in 0..59"
  | second => "second must be in 0..59"

namespace Day

/-- Whether a year has a day more than others. -/
def isLeap (year : Nat) : Bool :=
  year % 4 == 0 && (year % 100 != 0 || year % 400 == 0)

/-- The number of days in a month. -/
def daysIn (year month : Nat) : Nat :=
  if month = 2 then if isLeap year then 29 else 28
  else if month = 4 ∨ month = 6 ∨ month = 9 ∨ month = 11 then 30
  else 31

/-- A day, if it is in the calendar, which has the years from 1 to 9999. -/
def check (d : Day) : Except CalendarFault Day :=
  if d.year = 0 ∨ 9999 < d.year then .error (.year d.year)
  else if d.month < 1 ∨ 12 < d.month then .error .month
  else if d.day < 1 ∨ daysIn d.year d.month < d.day then .error .day
  else .ok d

/-- The days of the months of a year before a month. -/
def daysBefore (year : Nat) : (month : Nat) → Nat
  | 0 => 0
  | 1 => 0
  | month + 1 => daysBefore year month + daysIn year month

/-- How many days the calendar has up to a day. -/
def ordinal (d : Day) : Nat :=
  let years := d.year - 1
  365 * years + years / 4 - years / 100 + years / 400 + daysBefore d.year d.month + d.day

/-- The order of days. -/
def lt (a b : Day) : Bool :=
  decide (a.ordinal < b.ordinal)

end Day

/-! ## Moments -/

/-- A point of time within a day. -/
structure Moment where
  day : Day
  hour : Nat
  minute : Nat
  second : Nat
  micro : Nat
  /-- By how many minutes the clock is ahead of the common one, where that is known. -/
  offset : Option Int
deriving DecidableEq, Repr

namespace Moment

/-- A moment, if there is one in the calendar. -/
def check (m : Moment) : Except CalendarFault Moment :=
  let isTooFar := m.offset.any fun o => decide (1440 ≤ o.natAbs)
  if isTooFar then .error (.offset (m.offset.getD 0))
  else do
    let _ ← m.day.check
    if 23 < m.hour then .error .hour
    else if 59 < m.minute then .error .minute
    else if 59 < m.second then .error .second
    else .ok m

/-- The microseconds from the start of the calendar, on the common clock where the offset is
known. -/
def instant (m : Moment) : Int :=
  let minutes : Int := ((m.day.ordinal * 24 + m.hour) * 60 + m.minute : Nat)
  ((minutes - m.offset.getD 0) * 60 + (m.second : Int)) * 1000000 + (m.micro : Int)

/-- Whether two moments are compared as the same kind of clock. -/
def isComparable (a b : Moment) : Bool :=
  a.offset.isSome == b.offset.isSome

/-- Whether two moments are the same. -/
def same (a b : Moment) : Bool :=
  isComparable a b && a.instant == b.instant

/-- The order of moments that can be compared. -/
def lt (a b : Moment) : Bool :=
  decide (a.instant < b.instant)

end Moment

/-! ## As texts -/

/-- A number with zeros in front of it up to a width. -/
def padded (width n : Nat) : Text :=
  let digits := Text.ofNat n
  List.replicate (width - digits.length) '0' ++ digits

/-- A day as a text. -/
def Day.text (d : Day) : Text :=
  padded 4 d.year ++ '-' :: padded 2 d.month ++ '-' :: padded 2 d.day

/-- A moment as a text. -/
def Moment.text (m : Moment) : Text :=
  m.day.text ++ ' ' :: padded 2 m.hour ++ ':' :: padded 2 m.minute ++ ':' :: padded 2 m.second ++
    (if m.micro = 0 then [] else '.' :: padded 6 m.micro) ++
    (match m.offset with
      | none => []
      | some o =>
        (if o < 0 then '-' else '+') :: padded 2 (o.natAbs / 60) ++ ':' :: padded 2 (o.natAbs % 60))

example : (Day.mk 2001 1 1).ordinal = 730486 ∧ (Day.mk 1 1 1).ordinal = 1 := by decide

example : spanText (-5940) = "datetime.timedelta(days=-5, seconds=75600)" := by decide +kernel

end Teletype
