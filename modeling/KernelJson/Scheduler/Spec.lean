import KernelJson.Scheduler.CivilTime

/-!
# Schedule specifications

The persisted definition and lifecycle of a schedule, the runtime specification
that a wake derives from them, and the gate that decides whether it may fire.
-/

namespace KernelJson.Scheduler.Spec

open Contracts.Common
open Foundation.JsText
open Scheduler.CivilTime

def MAX_BACKFILL_RUNS : Nat := 100

/-- Calendar recurrence, within the bounds of its schema. -/
inductive CalendarSpec where
  | everyNMinutes (n : Nat) (bounds : 1 ≤ n ∧ n ≤ 1440)
  | dailyAt (hour minute : Nat) (bounds : hour ≤ 23 ∧ minute ≤ 59)
  | weeklyAt (weekday hour minute : Nat) (bounds : weekday ≤ 6 ∧ hour ≤ 23 ∧ minute ≤ 59)
deriving DecidableEq

inductive MissedRunPolicy where
  | skip
  | runOnce
  | backlogBounded
deriving DecidableEq

inductive OverlapPolicy where
  | forbid
  | queue
  | replace
deriving DecidableEq

inductive NonexistentTimePolicy where
  | skip
  | shiftForward
deriving DecidableEq

inductive ScheduleState where
  | enabled
  | paused
  | disabled
deriving DecidableEq

/-! ## Persisted entities -/

structure PersistedScheduleSpec where
  scheduleId : Id
  version : JsString
  tenant : TenantRef
  principal : PrincipalRef
  owner : PrincipalRef
  name : JsString
  timezone : JsString
  calendar : CalendarSpec
  missedRunPolicy : MissedRunPolicy
  overlapPolicy : OverlapPolicy
  nonexistentTimePolicy : NonexistentTimePolicy
  maxBackfillRuns : Nat
  perScheduleConcurrency : Nat
  enabledForProduction : Bool
  createdAt : Timestamp
  createdBy : Id
  versionNonempty : version ≠ []
  nameBounds : 1 ≤ name.length ∧ name.length ≤ 200
  timezoneNonempty : timezone ≠ []
  concurrencyPositive : 1 ≤ perScheduleConcurrency
deriving DecidableEq

structure PersistedScheduleState where
  scheduleId : Id
  state : ScheduleState
  activeVersion : JsString
  updatedAt : Timestamp
  updatedBy : Id
  activeVersionNonempty : activeVersion ≠ []
deriving DecidableEq

/-! ## Runtime specification -/

structure ScheduleSpec (intl : Intl) where
  scheduleId : Id
  version : JsString
  tenant : TenantRef
  principal : PrincipalRef
  owner : PrincipalRef
  timezone : JsString
  calendar : CalendarSpec
  state : ScheduleState
  missedRunPolicy : MissedRunPolicy
  maxBackfillRuns : Nat
  overlapPolicy : OverlapPolicy
  perScheduleConcurrency : Nat
  nonexistentTimePolicy : NonexistentTimePolicy
  enabledForProduction : Bool
  createdAt : Timestamp
  versionNonempty : version ≠ []
  ownerHuman : owner.kind = .human
  timezoneValid : isValidTimeZone intl timezone = true
  backfillCapped : maxBackfillRuns ≤ MAX_BACKFILL_RUNS
  concurrencyBounds : 1 ≤ perScheduleConcurrency ∧ perScheduleConcurrency ≤ 50
  backlogBounded : missedRunPolicy = .backlogBounded → 1 ≤ maxBackfillRuns

/-- What `ScheduleSpec.parse` demands beyond the persisted schema. -/
def RuntimeReady (intl : Intl) (spec : PersistedScheduleSpec) : Prop :=
  spec.owner.kind = .human ∧ isValidTimeZone intl spec.timezone = true ∧
    spec.maxBackfillRuns ≤ MAX_BACKFILL_RUNS ∧ spec.perScheduleConcurrency ≤ 50 ∧
    (spec.missedRunPolicy = .backlogBounded → 1 ≤ spec.maxBackfillRuns)

instance (intl : Intl) (spec : PersistedScheduleSpec) : Decidable (RuntimeReady intl spec) :=
  inferInstanceAs (Decidable (_ ∧ _ ∧ _ ∧ _ ∧ (_ → _)))

/-- `runtimeSpecFrom(spec, state)`; `none` when the schema rejects the combination. -/
def runtimeSpecFrom (intl : Intl) (spec : PersistedScheduleSpec) (state : PersistedScheduleState) :
    Option (ScheduleSpec intl) :=
  if ready : RuntimeReady intl spec then
    some
      { scheduleId := spec.scheduleId
        version := spec.version
        tenant := spec.tenant
        principal := spec.principal
        owner := spec.owner
        timezone := spec.timezone
        calendar := spec.calendar
        state := state.state
        missedRunPolicy := spec.missedRunPolicy
        maxBackfillRuns := spec.maxBackfillRuns
        overlapPolicy := spec.overlapPolicy
        perScheduleConcurrency := spec.perScheduleConcurrency
        nonexistentTimePolicy := spec.nonexistentTimePolicy
        enabledForProduction := spec.enabledForProduction
        createdAt := spec.createdAt
        versionNonempty := spec.versionNonempty
        ownerHuman := ready.1
        timezoneValid := ready.2.1
        backfillCapped := ready.2.2.1
        concurrencyBounds := ⟨spec.concurrencyPositive, ready.2.2.2.1⟩
        backlogBounded := ready.2.2.2.2 }
  else none

structure Gate where
  ok : Bool
  reason : JsString
deriving DecidableEq

/-- May this schedule fire at all, in this runtime? -/
def canFire {intl : Intl} (spec : ScheduleSpec intl) (productionRuntime : Bool) : Gate :=
  match spec.state with
  | .disabled => ⟨false, js "state_disabled"⟩
  | .paused => ⟨false, js "state_paused"⟩
  | .enabled =>
      if productionRuntime && !spec.enabledForProduction then ⟨false, js "production_not_enabled"⟩
      else ⟨true, js "enabled"⟩

end KernelJson.Scheduler.Spec
