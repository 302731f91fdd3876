/-
# The calendar

Days are counted from 1 January 1970 and turned into dates of the Gregorian
calendar, extended to all years in both directions with a year zero. A cycle
of four hundred years has 146097 days; inside a cycle the year is taken to
start in March, so that the leap day is its last.
-/

namespace SignedAccess.Time

/-- A date of the Gregorian calendar. -/
structure Date where
  year : Int
  month : Nat
  day : Nat
  deriving DecidableEq, Repr

namespace Date

/-- The date of a day counted from 1 January 1970. -/
def ofDay (n : Int) : Date :=
  let shifted := n + 719468
  let cycle := shifted.fdiv 146097
  let dayOfCycle := (shifted.fmod 146097).toNat
  let yearOfCycle :=
    (dayOfCycle - dayOfCycle / 1460 + dayOfCycle / 36524 - dayOfCycle / 146096) / 365
  let dayOfYear := dayOfCycle - (365 * yearOfCycle + yearOfCycle / 4 - yearOfCycle / 100)
  let marchMonth := (5 * dayOfYear + 2) / 153
  let day := dayOfYear - (153 * marchMonth + 2) / 5 + 1
  let month := if marchMonth < 10 then marchMonth + 3 else marchMonth - 9
  let year := (yearOfCycle : Int) + 400 * cycle
  ⟨if month ≤ 2 then year + 1 else year, month, day⟩

/-- The day of a date, counted from 1 January 1970. -/
def toDay (date : Date) : Int :=
  let year := if date.month ≤ 2 then date.year - 1 else date.year
  let cycle := year.fdiv 400
  let yearOfCycle := (year.fmod 400).toNat
  let marchMonth := if date.month ≤ 2 then date.month + 9 else date.month - 3
  let dayOfYear := (153 * marchMonth + 2) / 5 + (date.day - 1)
  let dayOfCycle := yearOfCycle * 365 + yearOfCycle / 4 - yearOfCycle / 100 + dayOfYear
  146097 * cycle + (dayOfCycle : Int) - 719468

end Date

end SignedAccess.Time
