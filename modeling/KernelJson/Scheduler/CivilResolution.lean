import KernelJson.Scheduler.CivilTime
import Mathlib.Data.Set.Card

/-!
# Which instants show a civil time

A civil time is shown by none, one or two instants where the offset of its zone
changes once in the two days around it.  The probes find the offset before and
the one after the change, but wall times are compared down to the minute only.
-/

namespace KernelJson.Scheduler.CivilResolution

open Foundation.CivilCalendar
open Foundation.JsText
open Scheduler.CivilTime

variable {intl : Intl} {zone : JsString} {civil : Civil}

/-! ## Civil times and the instants that show them -/

/-- The milliseconds of a civil time, read as if it were UTC. -/
def civilMs (civil : Civil) : Int :=
  daysOfCivil civil.date * dayMs + civil.hour * 3600000 + civil.minute * 60000

/-- A date of the calendar with an hour and a minute of the day. -/
structure IsCivil (civil : Civil) : Prop where
  date : civilOfDays (daysOfCivil civil.date) = civil.date
  hour : 0 ≤ civil.hour ∧ civil.hour ≤ 23
  minute : 0 ≤ civil.minute ∧ civil.minute ≤ 59

/-- The wall clock of the zone reads the civil time at this instant, to the millisecond. -/
def Shows (intl : Intl) (zone : JsString) (civil : Civil) (instant : Int) : Prop :=
  instant + intl.offsetMs zone instant = civilMs civil

/-- A change of the offset, from which the offset is another one. -/
structure OffsetChange where
  moment : Int
  before : Int
  after : Int

/-- How far the change puts the wall clock forward. -/
def OffsetChange.gapLength (change : OffsetChange) : Int := change.after - change.before

/-- The instants that a resolution reports as showing the civil time. -/
def instantsOf : CivilResolution → List Int
  | .unique instant => [instant]
  | .fold first last => [first, last]
  | .gap _ => []

/-- A resolution tells how many instants show the civil time, and which; in a gap it reports the instant whose wall
time is later by the length of the gap. -/
structure Resolves (intl : Intl) (zone : JsString) (civil : Civil) (change : OffsetChange)
    (resolution : CivilResolution) : Prop where
  count : {instant | Shows intl zone civil instant}.encard = (instantsOf resolution).length
  shown : ∀ instant ∈ instantsOf resolution, Shows intl zone civil instant
  ordered : (instantsOf resolution).Pairwise (· < ·)
  shifted : ∀ instant, resolution = .gap instant →
    instant + intl.offsetMs zone instant = civilMs civil + change.gapLength

/-! ## Wall clocks -/

section Probes

variable {change : OffsetChange}

end Probes

/-! ### Caracas, 1 January 1890 -/

section Caracas

end Caracas

end KernelJson.Scheduler.CivilResolution
