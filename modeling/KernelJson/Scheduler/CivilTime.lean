import KernelJson.Contracts.Common
import KernelJson.Foundation.CivilCalendar
import Mathlib.Data.List.Dedup
import Mathlib.Data.List.Sort

/-!
# Civil time and its resolution

The platform's time zone data enters as an offset function of the instant.
Civil slots are resolved by probing the offsets a day either side of the
target, which also detects the slots that do not exist and those that exist
twice.
-/

namespace KernelJson.Scheduler.CivilTime

open Contracts.Common
open Foundation.CivilCalendar
open Foundation.JsText

/-! ## The platform -/

/-- Fifteen hours; no zone is further from UTC. -/
def maxOffsetMs : Int := 54000000

/-- The time zone data behind `Intl`. -/
structure Intl where
  knows : JsString → Bool
  offsetMs : JsString → Int → Int
  barFree : ∀ zone, knows zone = true → bar ∉ zone
  wholeSeconds : ∀ zone instant, (1000 : Int) ∣ offsetMs zone instant
  bounded : ∀ zone instant, -maxOffsetMs ≤ offsetMs zone instant ∧ offsetMs zone instant ≤ maxOffsetMs

/-- A platform that knows only `UTC`. -/
def Intl.utcOnly : Intl where
  knows := fun zone => zone == js "UTC"
  offsetMs := fun _ _ => 0
  barFree := by
    intro zone known
    rw [beq_iff_eq] at known
    subst known
    decide
  wholeSeconds := fun _ _ => Int.dvd_zero _
  bounded := fun _ _ => by
    unfold maxOffsetMs
    omega

def isValidTimeZone (intl : Intl) (zone : JsString) : Bool :=
  !zone.isEmpty && intl.knows zone

def dayMs : Int := 86400000

/-- `Date.UTC`, whose years 0 to 99 stand for 1900 to 1999. -/
def fullYear (year : Int) : Int :=
  if 0 ≤ year ∧ year ≤ 99 then 1900 + year else year

def dateUTC (date : CivilDate) (hour minute second : Int) : Int :=
  daysOfCivil { date with year := fullYear date.year } * dayMs
    + hour * 3600000 + minute * 60000 + second * 1000

/-- The civil date of an instant in UTC. -/
def utcDate (instant : Int) : CivilDate :=
  civilOfDays (instant / dayMs)

/-! ## Wall clocks -/

structure Civil where
  date : CivilDate
  hour : Int
  minute : Int
deriving DecidableEq

structure WallParts extends Civil where
  second : Int
deriving DecidableEq

/-- Wall-clock components of an instant, observed in a zone. -/
def wallParts (intl : Intl) (utcMs : Int) (zone : JsString) : WallParts :=
  let wallSeconds := (utcMs + intl.offsetMs zone utcMs) / 1000
  { date := civilOfDays (wallSeconds / 86400)
    hour := wallSeconds % 86400 / 3600
    minute := wallSeconds % 3600 / 60
    second := wallSeconds % 60 }

def offsetMsAt (intl : Intl) (utcMs : Int) (zone : JsString) : Int :=
  let wall := wallParts intl utcMs zone
  dateUTC wall.date wall.hour wall.minute wall.second - utcMs

inductive CivilResolution where
  | unique (instant : Int)
  | fold (first last : Int)
  | gap (shiftForwardInstant : Int)
deriving DecidableEq

def probeOffsets (intl : Intl) (target : Int) (zone : JsString) : List Int :=
  [offsetMsAt intl (target - dayMs) zone, offsetMsAt intl target zone, offsetMsAt intl (target + dayMs) zone]

/-- The instants, in increasing order, at which a probed offset shows the wanted wall time. -/
def matchingInstants (intl : Intl) (civil : Civil) (zone : JsString) : List Int :=
  let target := dateUTC civil.date civil.hour civil.minute 0
  let valid := ((probeOffsets intl target zone).dedup.map (target - ·)).filter fun instant =>
    (wallParts intl instant zone).toCivil = civil
  valid.dedup.insertionSort (· ≤ ·)

def resolveCivil (intl : Intl) (civil : Civil) (zone : JsString) : CivilResolution :=
  let target := dateUTC civil.date civil.hour civil.minute 0
  match matchingInstants intl civil zone with
  | [instant] => .unique instant
  | first :: rest => .fold first (rest.getLastD first)
  | [] =>
      -- nothing maps to this civil time: the smallest probed offset shifts it forward
      let offsetsAsc := (probeOffsets intl target zone).dedup.insertionSort (· ≤ ·)
      .gap (target - offsetsAsc.headD 0)

/-! ## Civil dates -/

def civilWeekday (date : CivilDate) : Int :=
  weekdayOfDays (dateUTC date 0 0 0 / dayMs)

def civilDateInTz (intl : Intl) (utcMs : Int) (zone : JsString) : CivilDate :=
  (wallParts intl utcMs zone).date

def nextCivilDate (date : CivilDate) : CivilDate :=
  utcDate (dateUTC { date with day := date.day + 1 } 0 0 0)

/-! ## ISO texts -/

def padZero (width : Nat) (number : Int) : JsString :=
  padStartZero width (signedDecimal number)

def isoYear (year : Int) : JsString :=
  if 0 ≤ year ∧ year ≤ 9999 then padZero 4 year
  else (if year < 0 then js "-" else js "+") ++ padZero 6 year.natAbs

/-- `new Date(instant).toISOString()`. -/
def toISOString (instant : Int) : JsString :=
  let date := utcDate instant
  let inDay := instant % dayMs
  isoYear date.year ++ js "-" ++ padZero 2 date.month ++ js "-" ++ padZero 2 date.day ++ js "T"
    ++ padZero 2 (inDay / 3600000) ++ js ":" ++ padZero 2 (inDay % 3600000 / 60000) ++ js ":"
    ++ padZero 2 (inDay % 60000 / 1000) ++ js "." ++ padZero 3 (inDay % 1000) ++ js "Z"

theorem padZero_natCast (width number : Nat) : padZero width number = padStartZero width (decimal number) := rfl

theorem padZero_inj {width : Nat} {first second : Int} (firstNat : 0 ≤ first) (secondNat : 0 ≤ second)
    (same : padZero width first = padZero width second) : first = second := by
  obtain ⟨first, rfl⟩ := Int.eq_ofNat_of_zero_le firstNat
  obtain ⟨second, rfl⟩ := Int.eq_ofNat_of_zero_le secondNat
  have values := congrArg readDigits same
  rw [padZero_natCast, padZero_natCast, readDigits_padStartZero, readDigits_padStartZero] at values
  rw [values]

/-- A padded number holds digits only. -/
theorem not_mem_padZero {width : Nat} {number : Int} (natural : 0 ≤ number) {unit : UInt16}
    (separator : ¬ IsDigitUnit unit) : unit ∉ padZero width number := by
  obtain ⟨number, rfl⟩ := Int.eq_ofNat_of_zero_le natural
  exact fun member => separator (isDigit_of_mem_padStartZero member)

theorem isoYear_injective : Function.Injective isoYear := by
  have signed : ∀ {first second : Int}, 0 ≤ first → first ≤ 9999 → ¬ (0 ≤ second ∧ second ≤ 9999) →
      isoYear first ≠ isoYear second := by
    intro first second low high outside same
    rw [isoYear, if_pos ⟨low, high⟩, isoYear, if_neg outside] at same
    have digits : ∀ sign ∈ [(45 : UInt16), 43], sign ∉ padZero 4 first := by
      intro sign member
      refine not_mem_padZero low ?_
      simp only [List.mem_cons, List.not_mem_nil, or_false] at member
      rcases member with rfl | rfl <;> (unfold IsDigitUnit; decide)
    by_cases negative : second < 0
    · rw [if_pos negative] at same
      exact digits 45 (by simp) (same ▸ List.mem_append_left _ (by decide))
    · rw [if_neg negative] at same
      exact digits 43 (by simp) (same ▸ List.mem_append_left _ (by decide))
  intro first second same
  by_cases inFirst : 0 ≤ first ∧ first ≤ 9999
  · by_cases inSecond : 0 ≤ second ∧ second ≤ 9999
    · rw [isoYear, if_pos inFirst, isoYear, if_pos inSecond] at same
      exact padZero_inj inFirst.1 inSecond.1 same
    · exact absurd same (signed inFirst.1 inFirst.2 inSecond)
  · by_cases inSecond : 0 ≤ second ∧ second ≤ 9999
    · exact absurd same.symm (signed inSecond.1 inSecond.2 inFirst)
    · rw [isoYear, if_neg inFirst, isoYear, if_neg inSecond] at same
      have minus : js "-" = [45] := by decide
      have plus : js "+" = [43] := by decide
      have magnitudes : ∀ {left right : Int}, padZero 6 left.natAbs = padZero 6 right.natAbs →
          left.natAbs = right.natAbs := fun equal =>
        Int.ofNat.inj (padZero_inj (Int.natCast_nonneg _) (Int.natCast_nonneg _) equal)
      by_cases negative : first < 0
      · by_cases other : second < 0
        · rw [if_pos negative, if_pos other] at same
          have sizes := magnitudes (List.append_cancel_left same)
          omega
        · rw [if_pos negative, if_neg other, minus, plus] at same
          cases (List.cons.inj same).1
      · by_cases other : second < 0
        · rw [if_neg negative, if_pos other, minus, plus] at same
          cases (List.cons.inj same).1
        · rw [if_neg negative, if_neg other] at same
          have sizes := magnitudes (List.append_cancel_left same)
          omega

/-- The last field of a text is read off behind its separator. -/
theorem split_padZero {separator : UInt16} (mark : ¬ IsDigitUnit separator) {width : Nat}
    {front front' : JsString} {first second : Int} (firstNat : 0 ≤ first) (secondNat : 0 ≤ second)
    (same : front ++ [separator] ++ padZero width first = front' ++ [separator] ++ padZero width second) :
    front = front' ∧ first = second := by
  rw [List.append_assoc, List.append_assoc] at same
  obtain ⟨fronts, fields⟩ := split_at_last (not_mem_padZero firstNat mark) (not_mem_padZero secondNat mark) same
  exact ⟨fronts, padZero_inj firstNat secondNat fields⟩

theorem utcDate_fields (instant : Int) : 0 ≤ (utcDate instant).month ∧ 0 ≤ (utcDate instant).day := by
  have bounds := civilOfDays_bounds (instant / dayMs)
  unfold utcDate
  omega

theorem toISOString_injective : Function.Injective toISOString := by
  intro first second same
  have dash : js "-" = [45] := by decide
  have tee : js "T" = [84] := by decide
  have colon : js ":" = [58] := by decide
  have dot : js "." = [46] := by decide
  have marks : ∀ mark ∈ [(45 : UInt16), 84, 58, 46], ¬ IsDigitUnit mark := by
    intro mark inside digit
    have listed : [(45 : UInt16), 84, 58, 46].all (fun mark => !(48 ≤ mark.toNat && mark.toNat ≤ 57)) = true := by
      decide
    have refused := List.all_eq_true.mp listed mark inside
    simp only [IsDigitUnit] at digit
    simp only [Bool.not_eq_true', Bool.and_eq_false_iff, decide_eq_false_iff_not] at refused
    omega
  obtain ⟨firstMonth, firstDay⟩ := utcDate_fields first
  obtain ⟨secondMonth, secondDay⟩ := utcDate_fields second
  have inDay : ∀ instant : Int, 0 ≤ instant % dayMs := fun _ => Int.emod_nonneg _ (by decide)
  have firstIn := inDay first
  have secondIn := inDay second
  unfold toISOString at same
  rw [dash, tee, colon, dot] at same
  obtain ⟨same, millis⟩ := split_padZero (marks 46 (by simp)) (by omega) (by omega) (List.append_cancel_right same)
  obtain ⟨same, seconds⟩ := split_padZero (marks 58 (by simp)) (by omega) (by omega) same
  obtain ⟨same, minutes⟩ := split_padZero (marks 58 (by simp)) (by omega) (by omega) same
  obtain ⟨same, hours⟩ := split_padZero (marks 84 (by simp)) (by omega) (by omega) same
  obtain ⟨same, days⟩ := split_padZero (marks 45 (by simp)) firstDay secondDay same
  obtain ⟨same, months⟩ := split_padZero (marks 45 (by simp)) firstMonth secondMonth same
  have dates : utcDate first = utcDate second := by
    have years := isoYear_injective same
    cases dateFirst : utcDate first
    cases dateSecond : utcDate second
    rw [dateFirst, dateSecond] at years months days
    simp only at years months days
    rw [years, months, days]
  have wholeDays : first / dayMs = second / dayMs := civilOfDays_injective dates
  have firstSplit := Int.emod_add_mul_ediv first dayMs
  have secondSplit := Int.emod_add_mul_ediv second dayMs
  rw [wholeDays] at firstSplit
  omega

end KernelJson.Scheduler.CivilTime
