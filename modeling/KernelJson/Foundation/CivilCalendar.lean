import Mathlib.Data.Int.Basic

/-!
# The proleptic Gregorian calendar

Civil dates and day numbers counted from 1970-01-01, over all integers.  The
year is taken to begin in March, so that the leap day is the last day of its
cycle and every 400 years form one era of 146097 days.
-/

namespace KernelJson.Foundation.CivilCalendar

structure CivilDate where
  year : Int
  month : Int
  day : Int
deriving DecidableEq

/-! ## Eras -/

def daysPerEra : Int := 146097

/-- Days from 0000-03-01 to 1970-01-01. -/
def epochShift : Int := 719468

/-- The century of an era that contains a day; the last century has one day more. -/
def centuryOfEra (dayOfEra : Int) : Int :=
  min (dayOfEra / 36524) 3

/-- The year of the era, counted from March, that contains a day of the era. -/
def yearOfEra (dayOfEra : Int) : Int :=
  let century := centuryOfEra dayOfEra
  let dayOfCentury := dayOfEra - 36524 * century
  let cycle := dayOfCentury / 1461
  let dayOfCycle := dayOfCentury - 1461 * cycle
  100 * century + 4 * cycle + min (dayOfCycle / 365) 3

/-- Days of the era before a March-based year begins. -/
def daysBeforeYear (yearOfEra : Int) : Int :=
  365 * yearOfEra + yearOfEra / 4 - yearOfEra / 100

/-- Days of a March-based year before its month begins, March being month 0. -/
def daysBeforeMonth (shiftedMonth : Int) : Int :=
  (153 * shiftedMonth + 2) / 5

def shiftMonth (month : Int) : Int :=
  if month > 2 then month - 3 else month + 9

/-! ## Conversions -/

/-- Days before a March-based year, counted from 0000-03-01. -/
def daysBeforeMarch (year : Int) : Int :=
  year / 400 * daysPerEra + daysBeforeYear (year - year / 400 * 400)

/-- The day number of a civil date; the day of the month may lie outside its month. -/
def daysOfCivil (date : CivilDate) : Int :=
  daysBeforeMarch (if date.month ≤ 2 then date.year - 1 else date.year)
    + daysBeforeMonth (shiftMonth date.month) + (date.day - 1) - epochShift

/-- The civil date of a day of a March-based year. -/
def civilOfMarchYear (year dayOfYear : Int) : CivilDate :=
  let shiftedMonth := (5 * dayOfYear + 2) / 153
  let month := if shiftedMonth < 10 then shiftedMonth + 3 else shiftedMonth - 9
  { year := if month ≤ 2 then year + 1 else year
    month := month
    day := dayOfYear - daysBeforeMonth shiftedMonth + 1 }

def civilOfDays (number : Int) : CivilDate :=
  let shifted := number + epochShift
  let era := shifted / daysPerEra
  let dayOfEra := shifted - era * daysPerEra
  civilOfMarchYear (era * 400 + yearOfEra dayOfEra) (dayOfEra - daysBeforeYear (yearOfEra dayOfEra))

/-- Sunday is 0. -/
def weekdayOfDays (number : Int) : Int :=
  (number + 4) % 7

/-- A day of an era splits into century, four-year cycle, year and day of the year. -/
theorem yearOfEra_split {dayOfEra : Int} (lower : 0 ≤ dayOfEra) (upper : dayOfEra < daysPerEra) :
    ∃ century cycle year day : Int,
      (0 ≤ century ∧ century ≤ 3) ∧ (0 ≤ cycle ∧ cycle ≤ 24) ∧ (0 ≤ year ∧ year ≤ 3) ∧
        (0 ≤ day ∧ day ≤ 365) ∧ dayOfEra = 36524 * century + 1461 * cycle + 365 * year + day ∧
        yearOfEra dayOfEra = 100 * century + 4 * cycle + year := by
  unfold daysPerEra at upper
  obtain ⟨century, same⟩ : ∃ century, century = min (dayOfEra / 36524) 3 := ⟨_, rfl⟩
  obtain ⟨cycle, sameCycle⟩ : ∃ cycle, cycle = (dayOfEra - 36524 * century) / 1461 := ⟨_, rfl⟩
  obtain ⟨year, sameYear⟩ :
      ∃ year, year = min ((dayOfEra - 36524 * century - 1461 * cycle) / 365) 3 := ⟨_, rfl⟩
  refine ⟨century, cycle, year, dayOfEra - 36524 * century - 1461 * cycle - 365 * year,
    ?_, ?_, ?_, ?_, ?_, ?_⟩
  · omega
  · omega
  · omega
  · omega
  · omega
  · simp only [yearOfEra, centuryOfEra, ← same, ← sameCycle, ← sameYear]

theorem daysBeforeYear_split {century cycle year : Int} (cycleBounds : 0 ≤ cycle ∧ cycle ≤ 24)
    (yearBounds : 0 ≤ year ∧ year ≤ 3) :
    daysBeforeYear (100 * century + 4 * cycle + year) = 36524 * century + 1461 * cycle + 365 * year := by
  have leaps : (100 * century + 4 * cycle + year) / 4 = 25 * century + cycle := by omega
  have centuries : (100 * century + 4 * cycle + year) / 100 = century := by omega
  unfold daysBeforeYear
  rw [leaps, centuries]
  omega

theorem yearOfEra_bounds {dayOfEra : Int} (lower : 0 ≤ dayOfEra) (upper : dayOfEra < daysPerEra) :
    0 ≤ yearOfEra dayOfEra ∧ yearOfEra dayOfEra < 400 := by
  obtain ⟨century, cycle, year, day, centuryBounds, cycleBounds, yearBounds, -, -, same⟩ :=
    yearOfEra_split lower upper
  omega

/-- A March-based year has at most 366 days. -/
theorem dayOfYear_bounds {dayOfEra : Int} (lower : 0 ≤ dayOfEra) (upper : dayOfEra < daysPerEra) :
    0 ≤ dayOfEra - daysBeforeYear (yearOfEra dayOfEra) ∧
      dayOfEra - daysBeforeYear (yearOfEra dayOfEra) ≤ 365 := by
  obtain ⟨century, cycle, year, day, centuryBounds, cycleBounds, yearBounds, dayBounds, split, same⟩ :=
    yearOfEra_split lower upper
  rw [same, daysBeforeYear_split cycleBounds yearBounds]
  omega

theorem daysOfCivil_civilOfMarchYear (year : Int) {dayOfYear : Int} (lower : 0 ≤ dayOfYear)
    (upper : dayOfYear ≤ 365) :
    daysOfCivil (civilOfMarchYear year dayOfYear) = daysBeforeMarch year + dayOfYear - epochShift := by
  have monthUpper : (5 * dayOfYear + 2) / 153 ≤ 11 := by omega
  have monthLower : 0 ≤ (5 * dayOfYear + 2) / 153 := by omega
  unfold daysOfCivil civilOfMarchYear
  dsimp only
  generalize (5 * dayOfYear + 2) / 153 = shiftedMonth at *
  by_cases early : shiftedMonth < 10
  · have later : ¬ shiftedMonth + 3 ≤ 2 := by omega
    have unshift : shiftMonth (shiftedMonth + 3) = shiftedMonth := by
      unfold shiftMonth
      split <;> omega
    simp only [if_pos early, if_neg later, unshift]
    omega
  · have winter : shiftedMonth - 9 ≤ 2 := by omega
    have unshift : shiftMonth (shiftedMonth - 9) = shiftedMonth := by
      unfold shiftMonth
      split <;> omega
    simp only [if_neg early, if_pos winter, unshift, Int.add_sub_cancel]
    omega

/-- A civil date names the day it was computed from. -/
theorem daysOfCivil_civilOfDays (number : Int) : daysOfCivil (civilOfDays number) = number := by
  unfold civilOfDays
  dsimp only
  have eraLower : 0 ≤ (number + epochShift) - (number + epochShift) / daysPerEra * daysPerEra := by
    unfold daysPerEra
    omega
  have eraUpper : (number + epochShift) - (number + epochShift) / daysPerEra * daysPerEra < daysPerEra := by
    unfold daysPerEra
    omega
  generalize (number + epochShift) / daysPerEra = era at *
  generalize dayOfEraSame : number + epochShift - era * daysPerEra = dayOfEra at *
  obtain ⟨yearLower, yearUpper⟩ := yearOfEra_bounds eraLower eraUpper
  obtain ⟨dayLower, dayUpper⟩ := dayOfYear_bounds eraLower eraUpper
  rw [daysOfCivil_civilOfMarchYear _ dayLower dayUpper]
  have eraBack : (era * 400 + yearOfEra dayOfEra) / 400 = era := by omega
  have yearBack : era * 400 + yearOfEra dayOfEra - era * 400 = yearOfEra dayOfEra := by omega
  unfold daysBeforeMarch
  rw [eraBack, yearBack]
  omega

theorem civilOfMarchYear_bounds (year : Int) {dayOfYear : Int} (lower : 0 ≤ dayOfYear)
    (upper : dayOfYear ≤ 365) :
    (1 ≤ (civilOfMarchYear year dayOfYear).month ∧ (civilOfMarchYear year dayOfYear).month ≤ 12) ∧
      1 ≤ (civilOfMarchYear year dayOfYear).day ∧ (civilOfMarchYear year dayOfYear).day ≤ 31 := by
  simp only [civilOfMarchYear, daysBeforeMonth]
  refine ⟨?_, ?_, ?_⟩
  · split <;> omega
  · omega
  · omega

/-- Months run from 1 to 12 and days from 1 to 31. -/
theorem civilOfDays_bounds (number : Int) :
    (1 ≤ (civilOfDays number).month ∧ (civilOfDays number).month ≤ 12) ∧
      1 ≤ (civilOfDays number).day ∧ (civilOfDays number).day ≤ 31 := by
  have eraLower : 0 ≤ (number + epochShift) - (number + epochShift) / daysPerEra * daysPerEra := by
    unfold daysPerEra
    omega
  have eraUpper : (number + epochShift) - (number + epochShift) / daysPerEra * daysPerEra < daysPerEra := by
    unfold daysPerEra
    omega
  obtain ⟨dayLower, dayUpper⟩ := dayOfYear_bounds eraLower eraUpper
  exact civilOfMarchYear_bounds _ dayLower dayUpper

theorem civilOfDays_injective : Function.Injective civilOfDays :=
  Function.LeftInverse.injective daysOfCivil_civilOfDays

end KernelJson.Foundation.CivilCalendar
