import KernelJson.Foundation.DurablePrograms
import KernelJson.Scheduler.ScheduleStore

/-!
# The durable wake handler

`ScheduleTimerDriver.onWake` as a program over journaled operations: it reads
the schedule, passes the gate, claims the lease, processes every due window
under the fence it obtained, and arms the next wake.  The store, the admission
gateway and the timers form the world that concurrent wakes share.
-/

namespace KernelJson.Scheduler.DurableTimer

open Contracts.Common
open Contracts.Digest
open Foundation
open Foundation.DurablePrograms
open Foundation.JsText
open Scheduler.CivilTime
open Scheduler.FireWindows
open Scheduler.ScheduleStore
open Scheduler.Spec

/-! ## Admission and timers -/

structure AdmissionRequestInput where
  admissionIdentity : Id
  scheduleId : Id
  version : JsString
  fireWindowKey : JsString
  fireAtUtc : Int
  atMs : Int
deriving DecidableEq

structure AdmissionResult where
  childTaskId : Id
  deduped : Bool
deriving DecidableEq

/-- The reference gateway: idempotent on the admission identity. -/
structure InMemoryAdmissionGateway where
  minted : JsMap Id Id
  admitCallCount : Nat

namespace InMemoryAdmissionGateway

def empty : InMemoryAdmissionGateway := ⟨.empty, 0⟩

/-- `fresh` is the task identifier a first admission would mint. -/
def admitRequest (gateway : InMemoryAdmissionGateway) (fresh : Id) (request : AdmissionRequestInput) :
    AdmissionResult × InMemoryAdmissionGateway :=
  let counted := { gateway with admitCallCount := gateway.admitCallCount + 1 }
  match gateway.minted.get? request.admissionIdentity with
  | some existing => (⟨existing, true⟩, counted)
  | none => (⟨fresh, false⟩, { counted with minted := gateway.minted.set request.admissionIdentity fresh })

end InMemoryAdmissionGateway

structure OutstandingWake where
  wakeKey : JsString
  fireAtUtcMs : Int
deriving DecidableEq

/-- Outstanding wakes of every schedule. -/
structure InMemoryDurableTimerRuntime where
  wakes : JsMap Id (JsMap JsString Int)

namespace InMemoryDurableTimerRuntime

def empty : InMemoryDurableTimerRuntime := ⟨.empty⟩

def wakesOf (timers : InMemoryDurableTimerRuntime) (scheduleId : Id) : JsMap JsString Int :=
  (timers.wakes.get? scheduleId).getD .empty

def scheduleWake (timers : InMemoryDurableTimerRuntime) (scheduleId : Id) (wakeKey : JsString)
    (fireAtUtcMs : Int) : InMemoryDurableTimerRuntime :=
  ⟨timers.wakes.set scheduleId ((timers.wakesOf scheduleId).set wakeKey fireAtUtcMs)⟩

def cancelWake (timers : InMemoryDurableTimerRuntime) (scheduleId : Id) (wakeKey : JsString) :
    InMemoryDurableTimerRuntime :=
  match timers.wakes.get? scheduleId with
  | none => timers
  | some wakes => ⟨timers.wakes.set scheduleId (wakes.delete wakeKey)⟩

def observe (timers : InMemoryDurableTimerRuntime) (scheduleId : Id) : List OutstandingWake :=
  (timers.wakesOf scheduleId).entries.map fun entry => ⟨entry.1, entry.2⟩

end InMemoryDurableTimerRuntime

/-! ## Operations -/

inductive SchedulerOp where
  | getSchedule (scheduleId : Id)
  | claimLease (scheduleId : Id) (owner : JsString) (nowMs ttlMs : Int)
  | createOrGetFire (input : FireInput)
  | admitRequest (request : AdmissionRequestInput)
  | bindAdmission (key : JsString) (binding : AdmissionBinding) (fence : LeaseFence)
  | observe (scheduleId : Id)
  | cancelWake (scheduleId : Id) (wakeKey : JsString)
  | scheduleWake (scheduleId : Id) (wakeKey : JsString) (fireAtUtcMs : Int)

/-- What an operation returns; an admission answers `none` when it throws. -/
def SchedulerOp.Answer : SchedulerOp → Type
  | .getSchedule _ => Option (PersistedScheduleState × PersistedScheduleSpec)
  | .claimLease _ _ _ _ => Except StoreFault (Option ScheduleLease)
  | .createOrGetFire _ => Except StoreFault (ScheduleFire × Bool)
  | .admitRequest _ => Option AdmissionResult
  | .bindAdmission _ _ _ => Except StoreFault (ScheduleFire × Bool)
  | .observe _ => List OutstandingWake
  | .cancelWake _ _ => Unit
  | .scheduleWake _ _ _ => Unit

abbrev Wake (α : Type) : Type := Prog SchedulerOp SchedulerOp.Answer α

inductive WakeFault where
  | schema
  | store (fault : StoreFault)
  | admission
deriving DecidableEq

/-! ## The next window -/

/-- How far the search for the next window looks ahead. -/
def horizonMs (calendar : CalendarSpec) : Int :=
  match calendar with
  | .everyNMinutes n _ => n * minuteMs * 2 + minuteMs
  | _ => 9 * dayMs

/-- The first window found strictly after `fromMs`. -/
def nextWindowAfter {intl : Intl} (spec : ScheduleSpec intl) (fromMs : Int) : Option FireWindow :=
  let searchFromMs := fromMs + 1
  (dueFireWindows spec searchFromMs (searchFromMs + horizonMs spec.calendar)).head?

/-! ## The wake -/

structure WindowResult where
  childTaskId : Id
  created : Bool
  replay : Bool
deriving DecidableEq

structure WakeResult where
  scheduleId : Id
  gated : Bool
  reason : JsString
  admittedChildTaskIds : List Id
  replays : Nat
  createdFires : Nat
  nextWakeAtMs : Option Int
deriving DecidableEq

structure DriverOptions where
  owner : JsString
  productionRuntime : Bool
  leaseTtlMs : Int

def gatedResult (scheduleId : Id) (reason : JsString) : WakeResult :=
  ⟨scheduleId, true, reason, [], 0, 0, none⟩

/-- What the window loop has counted so far. -/
structure Tally where
  admitted : List Id
  replays : Nat
  created : Nat

def Tally.add (tally : Tally) (result : WindowResult) : Tally where
  admitted := if result.replay then tally.admitted else tally.admitted ++ [result.childTaskId]
  replays := if result.replay then tally.replays + 1 else tally.replays
  created := if result.created then tally.created + 1 else tally.created

section Programs

variable {intl : Intl} (sha256 : JsString → HexDigest)

def fireInput (spec : ScheduleSpec intl) (window : FireWindow) (atMs : Int) : FireInput where
  idempotencyKey := idempotencyKey spec window.fireWindowKey
  scheduleId := spec.scheduleId
  version := spec.version
  fireWindowKey := window.fireWindowKey
  fireIdentity := fireIdentity sha256 spec window.fireWindowKey
  fireAtUtc := window.fireAtUtcMs
  createdAt := atMs

def admissionRequest (spec : ScheduleSpec intl) (window : FireWindow) (atMs : Int) :
    AdmissionRequestInput where
  admissionIdentity := fireIdentity sha256 spec window.fireWindowKey
  scheduleId := spec.scheduleId
  version := spec.version
  fireWindowKey := window.fireWindowKey
  fireAtUtc := window.fireAtUtcMs
  atMs := atMs

/-- The fenced continuation unit: create or get the fire, ask for the admission, bind. -/
def processWindowUnderFence (spec : ScheduleSpec intl) (window : FireWindow) (fence : LeaseFence)
    (atMs : Int) : Wake (Except WakeFault WindowResult) :=
  .call (.createOrGetFire (fireInput sha256 spec window atMs)) fun
    | .error fault => .ret (.error (.store fault))
    | .ok (fire, created) =>
        match fire.admittedChildTaskId with
        | some child => .ret (.ok ⟨child, created, true⟩)
        | none =>
            .call (.admitRequest (admissionRequest sha256 spec window atMs)) fun
              | none => .ret (.error .admission)
              | some admission =>
                  .call (.bindAdmission (idempotencyKey spec window.fireWindowKey)
                      ⟨fireIdentity sha256 spec window.fireWindowKey, admission.childTaskId, atMs⟩ fence) fun
                    | .error fault => .ret (.error (.store fault))
                    | .ok (bound, replay) =>
                        .ret (.ok ⟨bound.admittedChildTaskId.getD admission.childTaskId, created, replay⟩)

/-- The window loop; the first fault ends the wake. -/
def processWindows (spec : ScheduleSpec intl) (fence : LeaseFence) (atMs : Int) :
    List FireWindow → Tally → Wake (Except WakeFault Tally)
  | [], tally => .ret (.ok tally)
  | window :: rest, tally =>
      processWindowUnderFence sha256 spec window fence atMs >>= fun
        | .error fault => .ret (.error fault)
        | .ok result => processWindows spec fence atMs rest (tally.add result)

def cancelWakes (scheduleId : Id) : List OutstandingWake → Wake Unit
  | [] => .ret ()
  | wake :: rest => .call (.cancelWake scheduleId wake.wakeKey) fun _ => cancelWakes scheduleId rest

/-- Arm the next window, if there is one, and report the wake. -/
def armNext (spec : ScheduleSpec intl) (scheduleId : Id) (reason : JsString) (nowMs : Int)
    (tally : Tally) : Wake (Except WakeFault WakeResult) :=
  let result := fun nextWakeAtMs : Option Int =>
    (⟨scheduleId, false, reason, tally.admitted, tally.replays, tally.created, nextWakeAtMs⟩ : WakeResult)
  match nextWindowAfter spec nowMs with
  | none => .ret (.ok (result none))
  | some next =>
      .call (.scheduleWake scheduleId (idempotencyKey spec next.fireWindowKey) next.fireAtUtcMs) fun _ =>
        .ret (.ok (result (some next.fireAtUtcMs)))

/-- The wake once the schedule is known and may fire. -/
def fireDue (opts : DriverOptions) (spec : ScheduleSpec intl) (scheduleId : Id) (reason : JsString)
    (lastTickMs nowMs : Int) : Wake (Except WakeFault WakeResult) :=
  .call (.claimLease scheduleId opts.owner nowMs opts.leaseTtlMs) fun
    | .error fault => .ret (.error (.store fault))
    | .ok none => .ret (.ok (gatedResult scheduleId (js "lease_held_by_other")))
    | .ok (some lease) =>
        processWindows sha256 spec lease.fence nowMs (dueFireWindows spec lastTickMs nowMs) ⟨[], 0, 0⟩ >>= fun
          | .error fault => .ret (.error fault)
          | .ok tally => armNext spec scheduleId reason nowMs tally

def onWake (intl : Intl) (opts : DriverOptions) (scheduleId : Id) (lastTickMs nowMs : Int) :
    Wake (Except WakeFault WakeResult) :=
  .call (.getSchedule scheduleId) fun
    | none => .ret (.ok (gatedResult scheduleId (js "no_such_schedule")))
    | some (state, persisted) =>
        match runtimeSpecFrom intl persisted state with
        | none => .ret (.error .schema)
        | some spec =>
            let gate := canFire spec opts.productionRuntime
            if gate.ok then fireDue sha256 opts spec scheduleId gate.reason lastTickMs nowMs
            else
              .call (.observe scheduleId) fun wakes =>
                cancelWakes scheduleId wakes >>= fun _ => .ret (.ok (gatedResult scheduleId gate.reason))

end Programs

/-! ## The shared world -/

structure SchedulerWorld where
  store : InMemoryScheduleStore
  gateway : InMemoryAdmissionGateway
  timers : InMemoryDurableTimerRuntime

def SchedulerWorld.empty : SchedulerWorld := ⟨.empty, .empty, .empty⟩

/-- A first admission mints a task identifier never minted before; an answer may be lost to
an error. -/
def admits (gateway : InMemoryAdmissionGateway) (request : AdmissionRequestInput)
    (answer : Option AdmissionResult) (after : InMemoryAdmissionGateway) : Prop :=
  (∃ fresh, (gateway.minted.get? request.admissionIdentity = none → fresh ∉ gateway.minted.values) ∧
    after = (gateway.admitRequest fresh request).2 ∧
      (answer = some (gateway.admitRequest fresh request).1 ∨ answer = none)) ∨
  (answer = none ∧ after = gateway)

/-- The effect of an operation; `randomUUID` makes identifiers nondeterministic. -/
def perform (_actor : Nat) : (op : SchedulerOp) → SchedulerWorld → op.Answer → SchedulerWorld → Prop
  | .getSchedule scheduleId, before, answer, after =>
      answer = before.store.getSchedule scheduleId ∧ after = before
  | .claimLease scheduleId owner nowMs ttlMs, before, answer, after =>
      ∃ observationId store,
        before.store.claimLease observationId scheduleId owner nowMs ttlMs = (answer, store) ∧
          after = { before with store := store }
  | .createOrGetFire input, before, answer, after =>
      ∃ store, before.store.createOrGetFire input = (answer, store) ∧ after = { before with store := store }
  | .admitRequest request, before, answer, after =>
      ∃ gateway, admits before.gateway request answer gateway ∧ after = { before with gateway := gateway }
  | .bindAdmission key binding fence, before, answer, after =>
      ∃ observationId store,
        before.store.bindAdmission observationId key binding fence = (answer, store) ∧
          after = { before with store := store }
  | .observe scheduleId, before, answer, after =>
      answer = before.timers.observe scheduleId ∧ after = before
  | .cancelWake scheduleId wakeKey, before, _, after =>
      after = { before with timers := before.timers.cancelWake scheduleId wakeKey }
  | .scheduleWake scheduleId wakeKey fireAtUtcMs, before, _, after =>
      after = { before with timers := before.timers.scheduleWake scheduleId wakeKey fireAtUtcMs }

/-- `perform` with the identifiers that `randomUUID` would give; a task identifier that is
already minted makes the admission throw. -/
def performWith (observationId task : Id) :
    (op : SchedulerOp) → SchedulerWorld → op.Answer × SchedulerWorld
  | .getSchedule scheduleId, world => (world.store.getSchedule scheduleId, world)
  | .claimLease scheduleId owner nowMs ttlMs, world =>
      let (answer, store) := world.store.claimLease observationId scheduleId owner nowMs ttlMs
      (answer, { world with store := store })
  | .createOrGetFire input, world =>
      let (answer, store) := world.store.createOrGetFire input
      (answer, { world with store := store })
  | .admitRequest request, world =>
      if world.gateway.minted.get? request.admissionIdentity = none ∧ task ∈ world.gateway.minted.values then
        (none, world)
      else
        let (answer, gateway) := world.gateway.admitRequest task request
        (some answer, { world with gateway := gateway })
  | .bindAdmission key binding fence, world =>
      let (answer, store) := world.store.bindAdmission observationId key binding fence
      (answer, { world with store := store })
  | .observe scheduleId, world => (world.timers.observe scheduleId, world)
  | .cancelWake scheduleId wakeKey, world =>
      ((), { world with timers := world.timers.cancelWake scheduleId wakeKey })
  | .scheduleWake scheduleId wakeKey fireAtUtcMs, world =>
      ((), { world with timers := world.timers.scheduleWake scheduleId wakeKey fireAtUtcMs })

theorem performWith_performs (actor : Nat) (observationId task : Id) (op : SchedulerOp)
    (world : SchedulerWorld) :
    perform actor op world (performWith observationId task op world).1
      (performWith observationId task op world).2 := by
  cases op with
  | getSchedule scheduleId => exact ⟨rfl, rfl⟩
  | claimLease scheduleId owner nowMs ttlMs => exact ⟨observationId, _, rfl, rfl⟩
  | createOrGetFire input => exact ⟨_, rfl, rfl⟩
  | admitRequest request =>
      unfold performWith
      dsimp only
      split
      · exact ⟨world.gateway, Or.inr ⟨rfl, rfl⟩, rfl⟩
      · next unused =>
          refine ⟨_, Or.inl ⟨task, fun absent used => unused ⟨absent, used⟩, rfl, Or.inl rfl⟩, rfl⟩
  | bindAdmission key binding fence => exact ⟨observationId, _, rfl, rfl⟩
  | observe scheduleId => exact ⟨rfl, rfl⟩
  | cancelWake scheduleId wakeKey => rfl
  | scheduleWake scheduleId wakeKey fireAtUtcMs => rfl

/-- What happens to the world outside the wakes: administration of schedules, other lease
holders, other workers' transitions, other admissions, timers being consumed. -/
inductive Surroundings : SchedulerWorld → SchedulerWorld → Prop
  | upsertSpecVersion (world : SchedulerWorld) (spec : PersistedScheduleSpec) :
      Surroundings world { world with store := (world.store.upsertSpecVersion spec).2 }
  | setState (world : SchedulerWorld) (next : PersistedScheduleState) :
      Surroundings world { world with store := world.store.setState next }
  | claimLease (world : SchedulerWorld) (observationId scheduleId : Id) (owner : JsString)
      (nowMs ttlMs : Int) :
      Surroundings world
        { world with store := (world.store.claimLease observationId scheduleId owner nowMs ttlMs).2 }
  | releaseLease (world : SchedulerWorld) (scheduleId : Id) (owner : JsString) (epoch : Nat) :
      Surroundings world { world with store := world.store.releaseLease scheduleId owner epoch }
  | transition (world : SchedulerWorld) (key : JsString) (target : FireState) (fence : LeaseFence) :
      Surroundings world { world with store := (world.store.transition key target fence).2 }
  | admitRequest (world : SchedulerWorld) {request : AdmissionRequestInput} {answer : Option AdmissionResult}
      {after : InMemoryAdmissionGateway} (admitted : admits world.gateway request answer after) :
      Surroundings world { world with gateway := after }
  | timers (world : SchedulerWorld) (after : InMemoryDurableTimerRuntime) :
      Surroundings world { world with timers := after }

/-- Any number of wakes of any schedules, by any owners, over any bounds. -/
def wakeMachine (intl : Intl) (sha256 : JsString → HexDigest) :
    Machine SchedulerWorld SchedulerOp SchedulerOp.Answer (Except WakeFault WakeResult) where
  exec := perform
  starts := fun _ _ program => ∃ opts scheduleId lastTickMs nowMs,
    program = onWake sha256 intl opts scheduleId lastTickMs nowMs
  environment := Surroundings
  halts := fun _ before after => after = before
  durable := true

end KernelJson.Scheduler.DurableTimer
