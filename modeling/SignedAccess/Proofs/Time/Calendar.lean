/-
# Days read back from their dates

Counting days into years, months and days of the month loses nothing: the date of a
day leads back to that day, so two days with one date are one day. The year of a
cycle is found by a division that takes leap days off first; the lemmas on years say
that this hits the right one, century by century.
-/

import SignedAccess.Time.Calendar

namespace SignedAccess.Time.Date

/-! ### Years of a cycle -/

/-- The days of a cycle before one of its years, which begins in March. -/
def daysBefore (year : Nat) : Nat := 365 * year + year / 4 - year / 100

/-- The year of a cycle on a day of the cycle. -/
def yearOn (day : Nat) : Nat := (day - day / 1460 + day / 36524 - day / 146096) / 365

/-- Inside a century the leap days that are taken off do not depend on the century:
every fourth year has its own. -/
theorem yearOn_of_century {century day : Nat} (hcentury : century < 4) (hday : day < 36524) :
    yearOn (36524 * century + day) =
      100 * century + 4 * (day / 1461) + (day % 1461 - day % 1461 / 1460) / 365 := by
  have hcenturies : (36524 * century + day) / 36524 = century := by omega
  have hcycle : (36524 * century + day) / 146096 = 0 := by omega
  have hleap : (36524 * century + day) / 1460 = 25 * century + (24 * century + day) / 1460 := by
    omega
  have hsplit : 1461 * (day / 1461) + day % 1461 = day := Nat.div_add_mod day 1461
  have hrest : day % 1461 < 1461 := Nat.mod_lt day (by omega)
  have hfours : day / 1461 ≤ 24 := by omega
  rw [yearOn, hcenturies, hcycle, hleap]
  generalize day / 1461 = fours at *
  generalize day % 1461 = rest at *
  have hshift : (24 * century + day) / 1460 = fours + (24 * century + fours + rest) / 1460 := by
    omega
  -- the last days of four years may lose one day more, but stay in their year
  have hlate : (24 * century + fours + rest) / 1460 = 0 ∧ rest < 1460 ∨
      (24 * century + fours + rest) / 1460 = 1 ∧ 1364 ≤ rest := by omega
  generalize (24 * century + fours + rest) / 1460 = late at *
  have hdays : 36524 * century + day - (25 * century + (24 * century + day) / 1460) + century - 0 =
      365 * (100 * century + 4 * fours) + (rest - late) := by omega
  have hsame : (rest - late) / 365 = (rest - rest / 1460) / 365 := by omega
  rw [hdays, Nat.mul_add_div (by omega), hsame]

/-- A day of a cycle falls into the year that is found for it. -/
theorem yearOn_spec {day : Nat} (hday : day < 146097) :
    yearOn day < 400 ∧ daysBefore (yearOn day) ≤ day ∧ day ≤ daysBefore (yearOn day) + 365 := by
  by_cases hlast : day = 146096
  · subst hlast
    decide
  · have hsplit : 36524 * (day / 36524) + day % 36524 = day := Nat.div_add_mod day 36524
    have hin : day % 36524 < 36524 := Nat.mod_lt day (by omega)
    have hcentury : day / 36524 < 4 := by omega
    have hyear := yearOn_of_century hcentury hin
    rw [hsplit] at hyear
    rw [hyear]
    unfold daysBefore
    generalize day / 36524 = century at *
    generalize day % 36524 = inCentury at *
    have hfours : 1461 * (inCentury / 1461) + inCentury % 1461 = inCentury :=
      Nat.div_add_mod inCentury 1461
    have hrest : inCentury % 1461 < 1461 := Nat.mod_lt inCentury (by omega)
    generalize inCentury / 1461 = fours at *
    generalize inCentury % 1461 = rest at *
    have hone : (rest - rest / 1460) / 365 ≤ 3 := by omega
    have hbounds : 365 * ((rest - rest / 1460) / 365) ≤ rest ∧
        rest ≤ 365 * ((rest - rest / 1460) / 365) + 365 := by omega
    generalize (rest - rest / 1460) / 365 = one at *
    have hquarter : (100 * century + 4 * fours + one) / 4 = 25 * century + fours := by omega
    have hhundred : (100 * century + 4 * fours + one) / 100 = century := by omega
    rw [hquarter, hhundred]
    omega

/-! ### Months of a year -/

/-- The month of a year on one of its days, counted from March, has that day among at
most thirty-one. -/
theorem month_spec {day : Nat} (hday : day ≤ 365) :
    (5 * day + 2) / 153 ≤ 11 ∧ (153 * ((5 * day + 2) / 153) + 2) / 5 ≤ day ∧
      day ≤ (153 * ((5 * day + 2) / 153) + 2) / 5 + 30 := by
  omega

/-! ### Dates -/

/-- A date as it is put together from a cycle, a year of the cycle and a day of the
year. -/
def ofParts (cycle : Int) (year dayOfYear : Nat) : Date :=
  let marchMonth := (5 * dayOfYear + 2) / 153
  let month := if marchMonth < 10 then marchMonth + 3 else marchMonth - 9
  let civil := (year : Int) + 400 * cycle
  ⟨if month ≤ 2 then civil + 1 else civil, month, dayOfYear - (153 * marchMonth + 2) / 5 + 1⟩

theorem toDay_ofParts (cycle : Int) {year dayOfYear : Nat} (hyear : year < 400)
    (hday : dayOfYear ≤ 365) :
    (ofParts cycle year dayOfYear).toDay =
      146097 * cycle + (daysBefore year + dayOfYear : Nat) - 719468 := by
  obtain ⟨hmonth, hlow, hhigh⟩ := month_spec hday
  have hcivil : (year + 400 * cycle : Int).fdiv 400 = cycle ∧
      ((year + 400 * cycle : Int).fmod 400).toNat = year := by
    rw [Int.fdiv_eq_ediv_of_nonneg _ (by omega), Int.fmod_eq_emod_of_nonneg _ (by omega)]
    omega
  by_cases hbefore : (5 * dayOfYear + 2) / 153 < 10
  · have hlate : ¬(5 * dayOfYear + 2) / 153 + 3 ≤ 2 := by omega
    have hback : (5 * dayOfYear + 2) / 153 + 3 - 3 = (5 * dayOfYear + 2) / 153 := by omega
    simp only [ofParts, toDay, if_pos hbefore, if_neg hlate, hcivil.1, hcivil.2, hback]
    unfold daysBefore
    omega
  · have hearly : (5 * dayOfYear + 2) / 153 - 9 ≤ 2 := by omega
    have hback : (5 * dayOfYear + 2) / 153 - 9 + 9 = (5 * dayOfYear + 2) / 153 := by omega
    have hcivilAgain : (year + 400 * cycle + 1 - 1 : Int) = year + 400 * cycle := by omega
    simp only [ofParts, toDay, if_neg hbefore, if_pos hearly, hcivilAgain, hcivil.1, hcivil.2,
      hback]
    unfold daysBefore
    omega

/-- Months and days of a date that is put together have two digits at most. -/
theorem bounds_ofParts (cycle : Int) (year : Nat) {dayOfYear : Nat} (hday : dayOfYear ≤ 365) :
    (ofParts cycle year dayOfYear).month ≤ 12 ∧ (ofParts cycle year dayOfYear).day ≤ 31 := by
  obtain ⟨hmonth, hlow, hhigh⟩ := month_spec hday
  simp only [ofParts]
  constructor
  · split <;> omega
  · omega

/-- The date of a day is put together from the cycle of the day, and year and day of
that. -/
theorem ofDay_eq (n : Int) : ∃ cycle year dayOfYear, ofDay n = ofParts cycle year dayOfYear ∧
    year < 400 ∧ dayOfYear ≤ 365 ∧
      146097 * cycle + (daysBefore year + dayOfYear : Nat) - 719468 = n := by
  have hcycle : (n + 719468).fdiv 146097 = (n + 719468) / 146097 :=
    Int.fdiv_eq_ediv_of_nonneg _ (by omega)
  have hrest : (n + 719468).fmod 146097 = (n + 719468) % 146097 :=
    Int.fmod_eq_emod_of_nonneg _ (by omega)
  have hday : ((n + 719468).fmod 146097).toNat < 146097 := by
    rw [hrest]
    omega
  have hback : 146097 * (n + 719468).fdiv 146097 + (((n + 719468).fmod 146097).toNat : Int) =
      n + 719468 := by
    rw [hcycle, hrest]
    omega
  obtain ⟨hyear, hlow, hhigh⟩ := yearOn_spec hday
  refine ⟨(n + 719468).fdiv 146097, yearOn ((n + 719468).fmod 146097).toNat,
    ((n + 719468).fmod 146097).toNat - daysBefore (yearOn ((n + 719468).fmod 146097).toNat),
    rfl, hyear, by omega, ?_⟩
  rw [Nat.add_sub_of_le hlow]
  omega

/-- The date of a day leads back to the day. -/
@[simp]
theorem toDay_ofDay (n : Int) : (ofDay n).toDay = n := by
  obtain ⟨cycle, year, dayOfYear, hdate, hyear, hday, hback⟩ := ofDay_eq n
  rw [hdate, toDay_ofParts cycle hyear hday, hback]

theorem bounds_ofDay (n : Int) : (ofDay n).month ≤ 12 ∧ (ofDay n).day ≤ 31 := by
  obtain ⟨cycle, year, dayOfYear, hdate, -, hday, -⟩ := ofDay_eq n
  rw [hdate]
  exact bounds_ofParts cycle year hday

end SignedAccess.Time.Date
