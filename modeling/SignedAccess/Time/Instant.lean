/-
# Instants

An instant is a number of seconds since the start of 1970 and a number of
nanoseconds. Nanoseconds from one to two thousand millions stand for a leap
second and are allowed only in the last second of a minute; the type keeps
both conditions. Instants are ordered by seconds and then by nanoseconds, so a
leap second lies after the ordinary second it follows and before the next.

Adding whole seconds to an instant inside a leap second leaves that leap
second: the extra second is dropped. Adding no seconds changes nothing.
-/

import SignedAccess.Time.Calendar
import SignedAccess.Text.Integer

namespace SignedAccess.Time

/-- A point in time, leap seconds included. -/
structure Instant where
  seconds : Int
  nanos : Nat
  nanos_lt : nanos < 2000000000
  leap_last : 1000000000 ≤ nanos → seconds % 60 = 59
  deriving DecidableEq, Repr

namespace Instant

/-- The first second of the year -262143. -/
def firstSecond : Int := 86400 * (Date.toDay ⟨-262143, 1, 1⟩)

/-- The last second of the year 262142. -/
def lastSecond : Int := 86400 * (Date.toDay ⟨262142, 12, 31⟩) + 86399

/-- The instant of a number of seconds and nanoseconds. There is none outside
the years -262143 to 262142 and none for a leap second in mid-minute. -/
def ofParts? (seconds nanos : Int) : Option Instant :=
  if hrange : 0 ≤ nanos ∧ nanos < 2000000000 then
    if hleap : 1000000000 ≤ nanos → seconds % 60 = 59 then
      if firstSecond ≤ seconds ∧ seconds ≤ lastSecond then
        some ⟨seconds, nanos.toNat, by omega, fun h => hleap (by omega)⟩
      else none
    else none
  else none

instance : LT Instant where
  lt s t := s.seconds < t.seconds ∨ (s.seconds = t.seconds ∧ s.nanos < t.nanos)

instance : LE Instant where
  le s t := s.seconds < t.seconds ∨ (s.seconds = t.seconds ∧ s.nanos ≤ t.nanos)

theorem lt_def {s t : Instant} :
    s < t ↔ s.seconds < t.seconds ∨ (s.seconds = t.seconds ∧ s.nanos < t.nanos) := Iff.rfl

theorem le_def {s t : Instant} :
    s ≤ t ↔ s.seconds < t.seconds ∨ (s.seconds = t.seconds ∧ s.nanos ≤ t.nanos) := Iff.rfl

instance (s t : Instant) : Decidable (s < t) := decidable_of_iff _ lt_def.symm

instance (s t : Instant) : Decidable (s ≤ t) := decidable_of_iff _ le_def.symm

theorem not_le {s t : Instant} : ¬ s ≤ t ↔ t < s := by
  rw [le_def, lt_def]
  omega

/-- The instant a number of seconds later. -/
def addSeconds (t : Instant) (n : Nat) : Instant :=
  if n = 0 then t
  else
    ⟨t.seconds + n, t.nanos % 1000000000, by omega, fun h => by omega⟩

@[simp]
theorem seconds_addSeconds (t : Instant) (n : Nat) :
    (t.addSeconds n).seconds = t.seconds + n := by
  unfold addSeconds
  split <;> simp_all

/-- The instant lies inside a leap second. -/
def isLeap (t : Instant) : Bool := 1000000000 ≤ t.nanos

/-- The date on which the instant falls. -/
def date (t : Instant) : Date := Date.ofDay (t.seconds.fdiv 86400)

/-- The seconds since midnight, without the leap second. -/
def secondOfDay (t : Instant) : Nat := (t.seconds.fmod 86400).toNat

/-- Hour, minute and second, the second of a leap second being sixty. -/
def clock (t : Instant) : Nat × Nat × Nat :=
  let s := t.secondOfDay
  (s / 3600, s / 60 % 60, s % 60 + if t.isLeap then 1 else 0)

/-- The nanoseconds within the second. -/
def fraction (t : Instant) : Nat := t.nanos % 1000000000

end Instant

end SignedAccess.Time
