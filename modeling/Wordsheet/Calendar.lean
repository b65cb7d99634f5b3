import Wordsheet.Decimal.Basic

/-! # The calendar

Dates of the calendar with its leap years. For counting days, years start in March,
so that a leap day is the last day of its year.
-/

namespace Wordsheet

structure Date where
  year : Nat
  month : Nat
  day : Nat
  deriving DecidableEq, Repr

namespace Date

/-- The days of the four hundred years after which the calendar repeats. -/
def cycleDays : Nat := 146097

/-- The date so many days after the first of January 1970. -/
def ofDays (days : Nat) : Date :=
  -- from the first of March of the year zero to the start of 1970 it is 719468 days
  let sinceMarchZero := days + 719468
  let cycle := sinceMarchZero / cycleDays
  let dayOfCycle := sinceMarchZero % cycleDays
  let yearOfCycle :=
    (dayOfCycle - dayOfCycle / 1460 + dayOfCycle / 36524 - dayOfCycle / 146096) / 365
  let dayOfYear := dayOfCycle - (365 * yearOfCycle + yearOfCycle / 4 - yearOfCycle / 100)
  let monthOfYear := (5 * dayOfYear + 2) / 153
  let month := if monthOfYear < 10 then monthOfYear + 3 else monthOfYear - 9
  ⟨400 * cycle + yearOfCycle + (if month ≤ 2 then 1 else 0), month,
    dayOfYear - (153 * monthOfYear + 2) / 5 + 1⟩

def number (d : Date) : Nat :=
  let year := if d.month ≤ 2 then d.year - 1 else d.year
  let monthOfYear := (d.month + 9) % 12
  365 * year + year / 4 - year / 100 + year / 400 + (153 * monthOfYear + 2) / 5 + d.day

def isLeap (year : Nat) : Bool :=
  year % 4 == 0 && (year % 100 != 0 || year % 400 == 0)

def daysIn (year month : Nat) : Nat :=
  if month = 2 then if isLeap year then 29 else 28
  else if month = 4 ∨ month = 6 ∨ month = 9 ∨ month = 11 then 30
  else 31

/-- What is wrong with a date that is none of the calendar. -/
def fault? (d : Date) : Option String :=
  if d.year = 0 then some "year 0 is out of range"
  else if d.month = 0 ∨ 12 < d.month then some "month must be in 1..12"
  else if d.day = 0 ∨ daysIn d.year d.month < d.day then some "day is out of range for month"
  else none

def text (d : Date) : String :=
  s!"{Decimal.padded 4 d.year}-{Decimal.padded 2 d.month}-{Decimal.padded 2 d.day}"

end Date

end Wordsheet
