/-
# Instants in writing

Years from 0 to 9999 have four digits; all other years have a sign and at
least four digits. The compact form has no punctuation and drops the fraction.
The long form has none, three, six or nine digits of fraction, the fewest that
lose nothing, and ends with the given zone.
-/

import SignedAccess.Time.Instant

namespace SignedAccess.Time

open Text

/-- A year in writing. -/
def writtenYear (year : Int) : List Char :=
  if 0 ≤ year ∧ year ≤ 9999 then padded 4 year.toNat
  else (if year < 0 then '-' else '+') :: padded 4 year.natAbs

namespace Instant

/-- Year, month and day without punctuation. -/
def dayStamp (t : Instant) : List Char :=
  writtenYear t.date.year ++ padded 2 t.date.month ++ padded 2 t.date.day

/-- Date and time without punctuation, in universal time. -/
def stamp (t : Instant) : List Char :=
  let (hour, minute, second) := t.clock
  t.dayStamp ++ 'T' :: padded 2 hour ++ padded 2 minute ++ padded 2 second ++ ['Z']

/-- The fraction of a second with the fewest digits in groups of three. -/
def writtenFraction (t : Instant) : List Char :=
  let n := t.fraction
  if n = 0 then []
  else if n % 1000000 = 0 then '.' :: padded 3 (n / 1000000)
  else if n % 1000 = 0 then '.' :: padded 6 (n / 1000)
  else '.' :: padded 9 n

/-- Date, time and fraction with punctuation, before the given zone. -/
def long (t : Instant) (zone : String) : String :=
  let (hour, minute, second) := t.clock
  String.ofList <|
    writtenYear t.date.year ++ '-' :: padded 2 t.date.month ++ '-' :: padded 2 t.date.day ++
      'T' :: padded 2 hour ++ ':' :: padded 2 minute ++ ':' :: padded 2 second ++
      t.writtenFraction ++ zone.toList

end Instant

end SignedAccess.Time
