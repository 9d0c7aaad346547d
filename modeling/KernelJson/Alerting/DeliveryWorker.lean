import KernelJson.Alerting.OutboxStores
import KernelJson.Foundation.DurablePrograms

/-!
# The delivery worker

The two delivery paths over one outbox.  The monitor's tick recovers abandoned
rows and drains the due ones while it holds the monitor's lock; `deliverRows`
delivers named rows at any time.  Every store access is a step of its own, and a
notification takes two, its start and its end.  A thrown store error ends the
path that met it.
-/

namespace KernelJson.Alerting.DeliveryWorker

open Alerting.Outbox
open Alerting.OutboxStores
open Foundation.DurablePrograms
open Foundation.JsText

/-! ## Operations -/

inductive DeliveryOp where
  | acquireLock
  | releaseLock
  | now
  | listStaleSending (now staleSendingMs : Int)
  | listDue (now : Int) (limit : Nat)
  | markSending (id : JsString) (now : Int)
  | startNotify (payload : NotificationPayload)
  | awaitNotify
  | applyOutcome (row : NotificationOutboxRow) (eventOutcome : DeliveryOutcome) (errorClass : Option JsString)
      (attemptNumber : Nat) (now : Int) (transport : JsString)

/-- What an operation returns; store accesses answer `none` when they throw. -/
def DeliveryOp.Answer : DeliveryOp → Type
  | .acquireLock => Bool
  | .releaseLock => Unit
  | .now => Int
  | .listStaleSending _ _ => Option (List NotificationOutboxRow)
  | .listDue _ _ => Option (List NotificationOutboxRow)
  | .markSending _ _ => Option (Option NotificationOutboxRow)
  | .startNotify _ => Unit
  | .awaitNotify => DeliveryAttemptResult
  | .applyOutcome _ _ _ _ _ _ => Option Unit

abbrev Delivery (α : Type) : Type := Prog DeliveryOp DeliveryOp.Answer α

/-! ## The two paths -/

structure DeliveryDeps where
  transport : JsString
  config : DeliveryConfig
  limit : Nat

inductive DeliveryResult where
  | ok
  | outboxFailed
deriving DecidableEq

structure DeliveryTally where
  recovered : Nat
  attempted : Nat
  delivered : Nat
  retried : Nat
  poisoned : Nat
deriving DecidableEq

def DeliveryTally.zero : DeliveryTally := ⟨0, 0, 0, 0, 0⟩

def DeliveryTally.count (tally : DeliveryTally) : OutboxStatus → DeliveryTally
  | .delivered => { tally with delivered := tally.delivered + 1 }
  | .poison => { tally with poisoned := tally.poisoned + 1 }
  | _ => { tally with retried := tally.retried + 1 }

structure DeliverySummary extends DeliveryTally where
  startedAt : Int
  completedAt : Int
  durationMs : Int
  result : DeliveryResult
deriving DecidableEq

/-- The counts so far, and whether the path goes on. -/
abbrev Progress : Type := DeliveryTally × DeliveryResult

def summarize (start finish : Int) (progress : Progress) : DeliverySummary where
  toDeliveryTally := progress.1
  startedAt := start
  completedAt := finish
  durationMs := max 0 (finish - start)
  result := progress.2

section Paths

variable (deps : DeliveryDeps)

/-- Record what an attempt on a claimed row came to. -/
def recordAttempt (claimed : NotificationOutboxRow) (attempt : DeliveryAttemptResult) (nowIso : Int)
    (tally : DeliveryTally) : Delivery Progress :=
  let decision := decideNextOutboxState claimed attempt nowIso deps.config
  .call (.applyOutcome decision.row decision.eventOutcome decision.errorClass claimed.attemptCount nowIso
      deps.transport) fun
    | none => .ret (tally, .outboxFailed)
    | some _ => .ret (tally.count decision.row.status, .ok)

/-- Claim one row, attempt its delivery and record the outcome. -/
def deliverRow (id : JsString) (nowIso : Int) (tally : DeliveryTally) : Delivery Progress :=
  .call (.markSending id nowIso) fun
    | none => .ret (tally, .outboxFailed)
    | some none => .ret (tally, .ok)
    | some (some claimed) =>
        .call (.startNotify (rowToPayload claimed)) fun _ =>
          .call .awaitNotify fun attempt =>
            recordAttempt deps claimed attempt nowIso { tally with attempted := tally.attempted + 1 }

/-- The delivery loop; the first error ends it. -/
def deliverEach (nowIso : Int) : List JsString → DeliveryTally → Delivery Progress
  | [], tally => .ret (tally, .ok)
  | id :: rest, tally =>
      deliverRow deps id nowIso tally >>= fun
        | (tally, .ok) => deliverEach nowIso rest tally
        | (tally, .outboxFailed) => .ret (tally, .outboxFailed)

/-- The recovery loop over the rows listed as stale; the first error ends it. -/
def recoverEach (nowIso : Int) : List NotificationOutboxRow → DeliveryTally → Delivery Progress
  | [], tally => .ret (tally, .ok)
  | row :: rest, tally =>
      match recoverIfStaleSending row nowIso deps.config with
      | none => recoverEach nowIso rest tally
      | some decision =>
          .call (.applyOutcome decision.row decision.eventOutcome decision.errorClass row.attemptCount nowIso
              deps.transport) fun
            | none => .ret (tally, .outboxFailed)
            | some _ => recoverEach nowIso rest { tally with recovered := tally.recovered + 1 }

/-- The rows due now, delivered one after the other. -/
def drainDue (nowIso : Int) (tally : DeliveryTally) : Delivery Progress :=
  .call (.listDue nowIso deps.limit) fun
    | none => .ret (tally, .outboxFailed)
    | some due => deliverEach deps nowIso (due.map (·.notificationId)) tally

/-- Both phases of a worker run. -/
def workOutbox (nowIso : Int) : Delivery Progress :=
  .call (.listStaleSending nowIso deps.config.staleSendingMs) fun
    | none => .ret (.zero, .outboxFailed)
    | some stale =>
        recoverEach deps nowIso stale .zero >>= fun
          | (tally, .ok) => drainDue deps nowIso tally
          | (tally, .outboxFailed) => .ret (tally, .outboxFailed)

def runDeliveryWorker : Delivery DeliverySummary :=
  .call .now fun start =>
    workOutbox deps start >>= fun progress =>
      .call .now fun finish => .ret (summarize start finish progress)

def deliverRows (notificationIds : List JsString) : Delivery DeliverySummary :=
  .call .now fun start =>
    deliverEach deps start notificationIds .zero >>= fun progress =>
      .call .now fun finish => .ret (summarize start finish progress)

/-- A tick of the monitor: the worker under the monitor's lock, if the lock is free. -/
def monitorTick : Delivery (Option DeliverySummary) :=
  .call .acquireLock fun
    | true =>
        runDeliveryWorker deps >>= fun summary =>
          .call .releaseLock fun _ => .ret (some summary)
    | false => .ret none

end Paths

/-! ## The shared world -/

/-- The outbox, the monitor's lock, and two records of the run: the row each actor has claimed
and not settled yet, and the notifications started so far. -/
structure DeliveryWorld (boundary : NotificationOutboxStore) where
  outbox : boundary.Store
  lock : Option Nat
  attempts : Nat → Option JsString
  notified : List JsString

def DeliveryWorld.initial {boundary : NotificationOutboxStore} (outbox : boundary.Store) :
    DeliveryWorld boundary :=
  ⟨outbox, none, fun _ => none, []⟩

namespace DeliveryWorld

variable {boundary : NotificationOutboxStore}

def row (world : DeliveryWorld boundary) (id : JsString) : Option NotificationOutboxRow :=
  boundary.row world.outbox id

def withOutbox (world : DeliveryWorld boundary) (outbox : boundary.Store) : DeliveryWorld boundary :=
  { world with outbox := outbox }

/-- `actor` now attempts this row, or none. -/
def attempting (world : DeliveryWorld boundary) (actor : Nat) (id : Option JsString) :
    DeliveryWorld boundary :=
  { world with attempts := Function.update world.attempts actor id }

end DeliveryWorld

/-- The effect of an operation.  A throwing write may have taken effect or not; a throwing
claim attempts nothing, and a throwing outcome ends its attempt. -/
def perform (boundary : NotificationOutboxStore) (actor : Nat) :
    (op : DeliveryOp) → DeliveryWorld boundary → op.Answer → DeliveryWorld boundary → Prop
  | .acquireLock, before, answer, after =>
      (answer = true ∧ before.lock = none ∧ after = { before with lock := some actor }) ∨
        (answer = false ∧ before.lock ≠ none ∧ after = before)
  | .releaseLock, before, _, after =>
      after = if before.lock = some actor then { before with lock := none } else before
  | .now, before, _, after => after = before
  | .listStaleSending now staleSendingMs, before, answer, after =>
      (answer = none ∨ answer = some (boundary.listStaleSending now staleSendingMs before.outbox)) ∧
        after = before
  | .listDue now limit, before, answer, after =>
      (answer = none ∨ answer = some (boundary.listDue now limit before.outbox)) ∧ after = before
  | .markSending id now, before, answer, after =>
      (answer = some (boundary.markSending id now before.outbox).1 ∧
          after = (before.withOutbox (boundary.markSending id now before.outbox).2).attempting actor
            ((boundary.markSending id now before.outbox).1.map fun _ => id)) ∨
        (answer = none ∧
          (after = before ∨ after = before.withOutbox (boundary.markSending id now before.outbox).2))
  | .startNotify payload, before, _, after =>
      after = { before with notified := before.notified ++ [payload.notificationId] }
  | .awaitNotify, before, _, after => after = before
  | .applyOutcome row eventOutcome errorClass attemptNumber now transport, before, answer, after =>
      (∃ outbox,
          boundary.applyOutcome row eventOutcome errorClass attemptNumber now transport before.outbox =
            some outbox ∧ after = (before.withOutbox outbox).attempting actor none) ∨
        (answer = none ∧ after = before.attempting actor none)

/-- `perform` with a clock, the end of a notification, and no errors but rejected outcomes. -/
def performWith {boundary : NotificationOutboxStore} (clock : Int) (attempt : DeliveryAttemptResult)
    (actor : Nat) : (op : DeliveryOp) → DeliveryWorld boundary → op.Answer × DeliveryWorld boundary
  | .acquireLock, world =>
      match world.lock with
      | none => (true, { world with lock := some actor })
      | some _ => (false, world)
  | .releaseLock, world => ((), if world.lock = some actor then { world with lock := none } else world)
  | .now, world => (clock, world)
  | .listStaleSending now staleSendingMs, world =>
      (some (boundary.listStaleSending now staleSendingMs world.outbox), world)
  | .listDue now limit, world => (some (boundary.listDue now limit world.outbox), world)
  | .markSending id now, world =>
      (some (boundary.markSending id now world.outbox).1,
        (world.withOutbox (boundary.markSending id now world.outbox).2).attempting actor
          ((boundary.markSending id now world.outbox).1.map fun _ => id))
  | .startNotify payload, world => ((), { world with notified := world.notified ++ [payload.notificationId] })
  | .awaitNotify, world => (attempt, world)
  | .applyOutcome row eventOutcome errorClass attemptNumber now transport, world =>
      match boundary.applyOutcome row eventOutcome errorClass attemptNumber now transport world.outbox with
      | none => (none, world.attempting actor none)
      | some outbox => (some (), (world.withOutbox outbox).attempting actor none)

theorem performWith_performs {boundary : NotificationOutboxStore} (clock : Int)
    (attempt : DeliveryAttemptResult) (actor : Nat) (op : DeliveryOp) (world : DeliveryWorld boundary) :
    perform boundary actor op world (performWith clock attempt actor op world).1
      (performWith clock attempt actor op world).2 := by
  cases op with
  | acquireLock =>
      cases held : world.lock with
      | none =>
          simp only [performWith, held]
          exact Or.inl ⟨rfl, held, rfl⟩
      | some holder =>
          simp only [performWith, held]
          exact Or.inr ⟨rfl, held ▸ Option.some_ne_none holder, rfl⟩
  | releaseLock => rfl
  | now => rfl
  | listStaleSending now staleSendingMs => exact ⟨Or.inr rfl, rfl⟩
  | listDue now limit => exact ⟨Or.inr rfl, rfl⟩
  | markSending id now => exact Or.inl ⟨rfl, rfl⟩
  | startNotify payload => rfl
  | awaitNotify => rfl
  | applyOutcome row eventOutcome errorClass attemptNumber now transport =>
      cases written : boundary.applyOutcome row eventOutcome errorClass attemptNumber now transport
          world.outbox with
      | none =>
          simp only [performWith, written]
          exact Or.inr ⟨rfl, rfl⟩
      | some outbox =>
          simp only [performWith, written]
          exact Or.inl ⟨outbox, written, rfl⟩

/-- What happens to the outbox outside the two paths: intents are queued. -/
inductive Queued (boundary : NotificationOutboxStore) :
    DeliveryWorld boundary → DeliveryWorld boundary → Prop
  | enqueue {world : DeliveryWorld boundary} {intents : List NotificationIntent} {outbox : boundary.Store}
      (done : boundary.enqueue intents world.outbox = some outbox) :
      Queued boundary world (world.withOutbox outbox)

/-- Any number of ticks, of which one at a time gets the lock, and of `deliverRows` runs.  A
process may die at any point; its session and so its lock go with it. -/
def deliveryMachine (boundary : NotificationOutboxStore) :
    Machine (DeliveryWorld boundary) DeliveryOp DeliveryOp.Answer (Option DeliverySummary) where
  exec := perform boundary
  starts := fun _ _ program => (∃ deps, program = monitorTick deps) ∨
    ∃ deps ids, program = deliverRows deps ids >>= fun summary => .ret (some summary)
  environment := Queued boundary
  halts := fun actor before after =>
    after = { before.attempting actor none with
      lock := if before.lock = some actor then none else before.lock }
  durable := false

end KernelJson.Alerting.DeliveryWorker
