/-
# Stamps read back

A stamp writes an instant without its fraction. A leap second is written as second
sixty, so it is told apart from the second before it. Years may have more digits than
four, but month and day are always the last four characters before the letter, and
the clock has a fixed width. So a stamp is read back as the second in which its
instant lies, and instants have one stamp exactly when they lie in one second.
-/

import Mathlib.Data.List.Basic
import SignedAccess.Time.Written
import SignedAccess.Proofs.Text.Numerals
import SignedAccess.Proofs.Time.Calendar

namespace SignedAccess.Time

open Text

/-! ### Reading -/

/-- A year read back from its writing. -/
def readYear? (cs : List Char) : Option Int :=
  match cs with
  | '+' :: ds => (readDigits? ds).map Int.ofNat
  | '-' :: ds => (readDigits? ds).map fun n => -Int.ofNat n
  | ds => (readDigits? ds).map Int.ofNat

/-- A date read back from its stamp: month and day are the last four characters. -/
def Date.ofStamp? (cs : List Char) : Option Date := do
  let front := cs.take (cs.length - 4)
  let back := cs.drop (cs.length - 4)
  some ⟨← readYear? front, ← readDigits? (back.take 2), ← readDigits? (back.drop 2)⟩

/-- The start of a second of a day. Second sixty is the leap second after the one
before it. -/
def Instant.ofClock (day : Int) (hour minute second : Nat) : Instant :=
  if second = 60 then
    ⟨86400 * day + 3600 * hour + 60 * minute + 59, 1000000000, by omega, fun _ => by omega⟩
  else ⟨86400 * day + 3600 * hour + 60 * minute + second, 0, by omega, fun h => by omega⟩

/-- An instant read back from its stamp. -/
def Instant.ofStamp? (cs : List Char) : Option Instant := do
  let (day, clock) ← cutFirst (· == 'T') cs
  let date ← Date.ofStamp? day
  match clock with
  | [h, h', m, m', s, s', 'Z'] =>
      some (.ofClock date.toDay (← readDigits? [h, h']) (← readDigits? [m, m'])
        (← readDigits? [s, s']))
  | _ => none

namespace Instant

/-- The start of the second in which an instant lies. A leap second is a second of its
own. -/
def wholeSecond (t : Instant) : Instant :=
  ⟨t.seconds, if t.isLeap then 1000000000 else 0, by split <;> omega, fun h => by
    have hleap : t.isLeap = true := by
      by_contra hnot
      rw [if_neg hnot] at h
      omega
    exact t.leap_last (of_decide_eq_true hleap)⟩

theorem wholeSecond_eq_iff {s t : Instant} :
    s.wholeSecond = t.wholeSecond ↔ s.seconds = t.seconds ∧ s.isLeap = t.isLeap := by
  rw [wholeSecond, wholeSecond, Instant.mk.injEq]
  refine and_congr_right fun _ => ?_
  cases s.isLeap <;> cases t.isLeap <;> simp

/-- Some seconds after the start of a second no fraction is left, also after that of a leap
second. -/
theorem nanos_addSeconds_wholeSecond (t : Instant) {n : Nat} (hn : 1 ≤ n) :
    (t.wholeSecond.addSeconds n).nanos = 0 := by
  have hne : n ≠ 0 := by omega
  rw [addSeconds, if_neg hne]
  cases hleap : t.isLeap <;> simp [wholeSecond, hleap]

/-- Counted from an instant, some seconds end later than counted from the start of its
second, by the fraction. -/
theorem lt_addSeconds_iff {s t : Instant} {n : Nat} (hn : 1 ≤ n) :
    s < t.addSeconds n ↔ s < t.wholeSecond.addSeconds n ∨
      (s.seconds = t.seconds + n ∧ s.nanos < t.fraction) := by
  have hne : n ≠ 0 := by omega
  have hnanos : (t.addSeconds n).nanos = t.fraction := by
    rw [addSeconds, if_neg hne, fraction]
  have hseconds : (t.wholeSecond.addSeconds n).seconds = t.seconds + n :=
    seconds_addSeconds t.wholeSecond n
  rw [lt_def, lt_def, seconds_addSeconds, hnanos, hseconds, t.nanos_addSeconds_wholeSecond hn]
  omega

end Instant

/-! ### What is written is read -/

theorem readYear?_of_isDigit {cs : List Char} (hdigits : ∀ c ∈ cs, c.isDigit = true) :
    readYear? cs = (readDigits? cs).map Int.ofNat := by
  unfold readYear?
  split
  · exact absurd (hdigits '+' List.mem_cons_self) (by decide)
  · exact absurd (hdigits '-' List.mem_cons_self) (by decide)
  · rfl

@[simp]
theorem readYear?_writtenYear (year : Int) : readYear? (writtenYear year) = some year := by
  unfold writtenYear
  split
  · rw [readYear?_of_isDigit fun c hc => isDigit_of_mem_padded hc, readDigits?_padded,
      Option.map_some, Int.ofNat_eq_natCast, Int.toNat_of_nonneg (by omega)]
  · split
    · simp only [readYear?, readDigits?_padded, Option.map_some, Int.ofNat_eq_natCast]
      exact congrArg some (by omega)
    · simp only [readYear?, readDigits?_padded, Option.map_some, Int.ofNat_eq_natCast]
      exact congrArg some (by omega)

namespace Instant

theorem ne_of_mem_dayStamp {t : Instant} {c : Char} (hc : c ∈ t.dayStamp) : c ≠ 'T' := by
  have hdigit : ∀ {width n : Nat}, c ∈ padded width n → c ≠ 'T' := by
    rintro width n hin rfl
    exact absurd (isDigit_of_mem_padded hin) (by decide)
  unfold dayStamp at hc
  rcases List.mem_append.1 hc with hc | hin
  · rcases List.mem_append.1 hc with hin | hin
    · unfold writtenYear at hin
      split at hin
      · exact hdigit hin
      · rcases List.mem_cons.1 hin with rfl | hin
        · split <;> decide
        · exact hdigit hin
    · exact hdigit hin
  · exact hdigit hin

/-- Month and day have two digits each, so the year is all that stands before them. -/
theorem ofStamp?_dayStamp (t : Instant) : Date.ofStamp? t.dayStamp = some t.date := by
  obtain ⟨hmonthBound, hdayBound⟩ := Date.bounds_ofDay (t.seconds.fdiv 86400)
  have hmonth : (padded 2 t.date.month).length = 2 :=
    length_padded (by omega) (Nat.lt_of_le_of_lt hmonthBound (by omega))
  have hday : (padded 2 t.date.day).length = 2 :=
    length_padded (by omega) (Nat.lt_of_le_of_lt hdayBound (by omega))
  have hlength : t.dayStamp.length - 4 = (writtenYear t.date.year).length := by
    simp only [dayStamp, List.length_append]
    omega
  have hfront : t.dayStamp.take (t.dayStamp.length - 4) = writtenYear t.date.year := by
    rw [hlength, dayStamp, List.append_assoc, List.take_left]
  have hback : t.dayStamp.drop (t.dayStamp.length - 4) =
      padded 2 t.date.month ++ padded 2 t.date.day := by
    rw [hlength, dayStamp, List.append_assoc, List.drop_left]
  simp only [Date.ofStamp?, hfront, hback, List.take_left' hmonth, List.drop_left' hmonth,
    readYear?_writtenYear, readDigits?_padded, Option.bind_eq_bind, Option.bind_some]

theorem padded_two {n : Nat} (hn : n < 100) : ∃ c d, padded 2 n = [c, d] :=
  List.length_eq_two.1 (length_padded (by omega) hn)

theorem secondOfDay_lt (t : Instant) : t.secondOfDay < 86400 := by
  unfold secondOfDay
  rw [Int.fmod_eq_emod_of_nonneg _ (by omega)]
  omega

theorem seconds_eq (t : Instant) :
    t.seconds = 86400 * t.seconds.fdiv 86400 + (t.secondOfDay : Int) := by
  unfold secondOfDay
  rw [Int.fdiv_eq_ediv_of_nonneg _ (by omega), Int.fmod_eq_emod_of_nonneg _ (by omega)]
  omega

/-- Day and clock lead back to the second, leap seconds included. -/
theorem ofClock_clock (t : Instant) :
    ofClock (t.seconds.fdiv 86400) t.clock.1 t.clock.2.1 t.clock.2.2 = t.wholeSecond := by
  have hlt := t.secondOfDay_lt
  have hseconds := t.seconds_eq
  cases hleap : t.isLeap with
  | true =>
      have hlast : t.seconds % 60 = 59 := t.leap_last (of_decide_eq_true hleap)
      have hsixty : t.secondOfDay % 60 + 1 = 60 := by omega
      simp only [ofClock, clock, wholeSecond, hleap, if_true, hsixty, Instant.mk.injEq, and_true]
      omega
  | false =>
      have hnot : ¬t.secondOfDay % 60 = 60 := by omega
      simp only [ofClock, clock, wholeSecond, hleap, Bool.false_eq_true, if_false, Nat.add_zero,
        if_neg hnot, Instant.mk.injEq, and_true]
      omega

/-- A stamp is read back as the second in which its instant lies. -/
@[simp]
theorem ofStamp?_stamp (t : Instant) : ofStamp? t.stamp = some t.wholeSecond := by
  have hlt := t.secondOfDay_lt
  obtain ⟨h, h', hhour⟩ := padded_two (show t.clock.1 < 100 by simp only [clock]; omega)
  obtain ⟨m, m', hminute⟩ := padded_two (show t.clock.2.1 < 100 by simp only [clock]; omega)
  have hlast : t.clock.2.2 < 100 := by
    simp only [clock]
    split <;> omega
  obtain ⟨s, s', hsecond⟩ := padded_two hlast
  have hcut : cutFirst (· == 'T') t.stamp = some (t.dayStamp, [h, h', m, m', s, s', 'Z']) := by
    have hstamp : t.stamp = t.dayStamp ++ 'T' :: [h, h', m, m', s, s', 'Z'] := by
      simp only [stamp, hhour, hminute, hsecond, List.append_assoc, List.cons_append,
        List.nil_append]
    rw [hstamp]
    exact cutFirst_append (fun c hc => beq_false_of_ne (ne_of_mem_dayStamp hc)) rfl
  simp only [ofStamp?, hcut, ofStamp?_dayStamp, ← hhour, ← hminute, ← hsecond, readDigits?_padded,
    Option.bind_eq_bind, Option.bind_some]
  rw [date, Date.toDay_ofDay, ofClock_clock]

/-- Instants have one stamp exactly when they lie in one second. -/
theorem stamp_eq_iff {s t : Instant} : s.stamp = t.stamp ↔ s.wholeSecond = t.wholeSecond := by
  constructor
  · intro hstamp
    have hread := congrArg ofStamp? hstamp
    rw [ofStamp?_stamp, ofStamp?_stamp] at hread
    exact Option.some.inj hread
  · intro hsecond
    obtain ⟨hseconds, hleap⟩ := wholeSecond_eq_iff.1 hsecond
    simp only [stamp, dayStamp, clock, secondOfDay, date, hseconds, hleap]

theorem dayStamp_of_wholeSecond {s t : Instant} (hsecond : s.wholeSecond = t.wholeSecond) :
    s.dayStamp = t.dayStamp := by
  simp only [dayStamp, date, (wholeSecond_eq_iff.1 hsecond).1]

end Instant

end SignedAccess.Time
