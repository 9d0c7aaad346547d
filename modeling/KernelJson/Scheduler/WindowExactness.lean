import KernelJson.Scheduler.DurableTimer
import KernelJson.Scheduler.WindowEnumeration
import Mathlib.Data.Int.LeastGreatest

/-!
# When the enumeration is exact

The enumeration walks a number of civil dates that it derives from the length
of its interval.  It returns every due window of the interval exactly when the
dates of those windows are walked; a change of the zone's offset can move the
last one behind the walk.  The search for the next window also has a horizon,
which a slot that does not exist in its week can exceed.
-/

namespace KernelJson.Scheduler.WindowExactness

open Foundation.CivilCalendar
open Foundation.JsText
open Scheduler.CivilTime
open Scheduler.DurableTimer
open Scheduler.FireWindows
open Scheduler.Spec
open Scheduler.WindowEnumeration

/-! ## Windows in the order of their instants and dates -/

/-- Windows of two civil dates, the first of which is earlier. -/
def Dated (slot : CivilDate → Option FireWindow) (first second : FireWindow) : Prop :=
  ∃ date date', IsCivil date ∧ IsCivil date' ∧ slot date = some first ∧ slot date' = some second ∧
    daysOfCivil date < daysOfCivil date'

/-- The earlier instant, or the earlier civil date at one instant. -/
def Before (slot : CivilDate → Option FireWindow) (first second : FireWindow) : Prop :=
  first.fireAtUtcMs < second.fireAtUtcMs ∨
    (first.fireAtUtcMs = second.fireAtUtcMs ∧ Dated slot first second)

section Slots

variable {intl : Intl} {calendar : CalendarTime} {zone : JsString} {policy : NonexistentTimePolicy}

end Slots

section Exactness

variable {intl : Intl} (spec : ScheduleSpec intl)

variable {spec}

/-- The consecutive intervals that cuts make. -/
def pieces : Int → List Int → Int → List (Int × Int)
  | fromUtcMs, [], toUtcMs => [(fromUtcMs, toUtcMs)]
  | fromUtcMs, cut :: cuts, toUtcMs => (fromUtcMs, cut) :: pieces cut cuts toUtcMs

end Exactness

/-! ## A zone that puts its clocks forward -/

end KernelJson.Scheduler.WindowExactness
