import Mathlib.Algebra.Ring.Int.Defs

namespace HybridDataSvc

/-!
# Dates

What the daily buckets use of Python's `datetime.date`: a date of the
proleptic Gregorian calendar, its ordinal, and its ISO year and week.
-/

/-- `datetime.date`. -/
structure Date where
  year : Int
  month : Nat
  day : Int
  deriving DecidableEq, Repr

/-- `_is_leap`. -/
def isLeap (year : Int) : Bool :=
  decide (year % 4 = 0) && (decide (year % 100 ≠ 0) || decide (year % 400 = 0))

/-- `_days_before_year`. -/
def daysBeforeYear (year : Int) : Int :=
  let y := year - 1
  y * 365 + y / 4 - y / 100 + y / 400

/-- `_DAYS_IN_MONTH` outside of leap years, from January on. -/
def daysInMonth : List Int := [31, 28, 31, 30, 31, 30, 31, 31, 30, 31, 30, 31]

/-- `_days_before_month`. -/
def daysBeforeMonth (year : Int) (month : Nat) : Int :=
  (daysInMonth.take (month - 1)).sum + if 2 < month && isLeap year then 1 else 0

namespace Date

/-- `toordinal`: January 1 of year 1 is day 1. -/
def toordinal (date : Date) : Int :=
  daysBeforeYear date.year + daysBeforeMonth date.year date.month + date.day

end Date

/-- `_isoweek1monday`: the ordinal of the Monday that starts week 1. -/
def isoWeek1Monday (year : Int) : Int :=
  let firstDay := (Date.mk year 1 1).toordinal
  let firstWeekday := (firstDay + 6) % 7
  let week1Monday := firstDay - firstWeekday
  if 3 < firstWeekday then week1Monday + 7 else week1Monday

/-- The ISO year and week of `isocalendar`. -/
def Date.isoWeek (date : Date) : Int × Int :=
  let today := date.toordinal
  let week := (today - isoWeek1Monday date.year) / 7
  if week < 0 then
    (date.year - 1, (today - isoWeek1Monday (date.year - 1)) / 7 + 1)
  else if 52 ≤ week && decide (isoWeek1Monday (date.year + 1) ≤ today) then (date.year + 1, 1)
  else (date.year, week + 1)

end HybridDataSvc
