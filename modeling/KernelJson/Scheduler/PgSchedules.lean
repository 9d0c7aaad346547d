import KernelJson.Scheduler.PgStore

/-!
# The PostgreSQL schedule store, continued

The specifications, lifecycle states and the creation of fires, with the
constraints of their tables, and the calls of a schedule store as data, so that a
sequence of them can be run against both stores.
-/

namespace KernelJson.Scheduler.PgSchedules

open Contracts.Common
open Foundation
open Foundation.JsText
open Scheduler.FireWindows
open Scheduler.PgStore
open Scheduler.ScheduleStore
open Scheduler.Spec

/-! ## Tables -/

/-- The rows that the foreign keys of the schedule tables refer to. -/
structure Accounts where
  tenants : List Id
  principals : List Id
  memberships : List (Id × Id)

/-- The tables of the store; a row of `schedule_specs` is kept as the specification that a read of it gives. -/
structure PgSchedules where
  accounts : Accounts
  scheduleSpecs : JsMap (Id × JsString) PersistedScheduleSpec
  scheduleState : JsMap Id PersistedScheduleState
  leased : PgScheduleStore

/-! ## Rows -/

/-- `length(text)`: a surrogate pair is one character. -/
def characters : JsString → Nat
  | [] => 0
  | [_] => 1
  | first :: second :: rest =>
      if Json.isHighSurrogate first && Json.isLowSurrogate second then characters rest + 1
      else characters (second :: rest) + 1

/-- The checks and the foreign keys of `schedule_specs`. -/
def AcceptsSpec (accounts : Accounts) (spec : PersistedScheduleSpec) : Prop :=
  characters spec.name ≤ 200 ∧ characters spec.timezone ≤ 64 ∧ spec.maxBackfillRuns ≤ 100 ∧
    spec.perScheduleConcurrency ≤ 50 ∧ (spec.missedRunPolicy = .backlogBounded → 1 ≤ spec.maxBackfillRuns) ∧
    spec.tenant.id ∈ accounts.tenants ∧ spec.principal.id ∈ accounts.principals ∧
    spec.owner.id ∈ accounts.principals ∧ spec.createdBy ∈ accounts.principals ∧
    (spec.tenant.id, spec.principal.id) ∈ accounts.memberships

instance (accounts : Accounts) (spec : PersistedScheduleSpec) : Decidable (AcceptsSpec accounts spec) :=
  inferInstanceAs (Decidable (_ ∧ _ ∧ _ ∧ _ ∧ (_ → _) ∧ _ ∧ _ ∧ _ ∧ _ ∧ _))

/-- A specification as it is read back: no column holds the kinds of its principals. -/
def columns (spec : PersistedScheduleSpec) : PersistedScheduleSpec :=
  { spec with
    principal := ⟨spec.principal.id, .service⟩
    owner := ⟨spec.owner.id, .human⟩ }

def inputName (input : FireInput) : FireName :=
  ⟨input.scheduleId, input.version, input.fireWindowKey⟩

/-- The row that the insertion leaves: its creation time is the database's `now()`. -/
def insertedFire (input : FireInput) (now : Timestamp) : Option ScheduleFire :=
  ScheduleFire.planned { input with createdAt := now.ms }

/-! ## Statements -/

namespace PgSchedules

def empty (accounts : Accounts) (taskAdmissions : List Id) : PgSchedules :=
  ⟨accounts, .empty, .empty, { PgScheduleStore.empty with taskAdmissions := taskAdmissions }⟩

def upsertSpecVersion (store : PgSchedules) (spec : PersistedScheduleSpec) :
    Except StoreFault Unit × PgSchedules :=
  match store.scheduleSpecs.get? (spec.scheduleId, spec.version) with
  | some _ =>
      (.error (.store (js "spec version already exists; bump version for semantic changes")), store)
  | none =>
      if AcceptsSpec store.accounts spec then
        (.ok (), { store with
          scheduleSpecs := store.scheduleSpecs.set (spec.scheduleId, spec.version) (columns spec) })
      else (.error (.database (js "schedule_specs")), store)

def getSchedule (store : PgSchedules) (scheduleId : Id) :
    Option (PersistedScheduleState × PersistedScheduleSpec) := do
  let state ← store.scheduleState.get? scheduleId
  let spec ← store.scheduleSpecs.get? (scheduleId, state.activeVersion)
  return (state, spec)

def setState (store : PgSchedules) (next : PersistedScheduleState) : Except StoreFault Unit × PgSchedules :=
  if store.scheduleSpecs.get? (next.scheduleId, next.activeVersion) = none ∨
      next.updatedBy ∉ store.accounts.principals then
    (.error (.database (js "schedule_state")), store)
  else (.ok (), { store with scheduleState := store.scheduleState.set next.scheduleId next })

def createOrGetFire (store : PgSchedules) (input : FireInput) (now : Timestamp) :
    Except StoreFault (ScheduleFire × Bool) × PgSchedules :=
  if Timestamp.parse input.fireAtUtc = none then
    (.error (.database (js "invalid input syntax for type timestamp")), store)
  -- the checks of the row come before the conflict
  else if input.idempotencyKey ≠ (inputName input).key then
    (.error (.database (js "schedule_fires_check1")), store)
  else
    match store.leased.scheduleFires.get? input.idempotencyKey with
    | some existing => (.ok (existing, false), store)
    | none =>
        if store.leased.scheduleFires.values.any fun fire => fire.fireIdentity = input.fireIdentity then
          (.error (.database (js "schedule_fires_fire_identity_key")), store)
        else if store.scheduleSpecs.get? (input.scheduleId, input.version) = none then
          (.error (.database (js "schedule_fires_schedule_id_schedule_version_fkey")), store)
        else
          match insertedFire input now with
          -- a row with an empty window key: no read of it passes the schema
          | none => (.error .schema, store)
          | some fire =>
              (.ok (fire, true), { store with leased := { store.leased with
                scheduleFires := store.leased.scheduleFires.set input.idempotencyKey fire } })

end PgSchedules

/-! ## Calls -/

/-- A call of a schedule store.  `now` is the database's clock, which only the production store reads; `admitted`
is the row that an admission gateway commits for a task between two calls. -/
inductive StoreCall where
  | upsertSpecVersion (spec : PersistedScheduleSpec)
  | setState (next : PersistedScheduleState)
  | createOrGetFire (input : FireInput) (now : Timestamp)
  | bindAdmission (key : JsString) (binding : AdmissionBinding) (fence : LeaseFence)
  | transition (key : JsString) (target : FireState) (fence : LeaseFence)
  | claimLease (scheduleId : Id) (owner : JsString) (nowMs ttlMs : Int)
  | releaseLease (scheduleId : Id) (owner : JsString) (epoch : Nat)
  | admitted (task : Id)

inductive StoreAnswer where
  | done
  | fire (fire : ScheduleFire) (flag : Bool)
  | moved (fire : ScheduleFire)
  | lease (lease : Option ScheduleLease)

abbrev Outcome : Type := Except StoreFault StoreAnswer

def answered {α State : Type} (answer : α → StoreAnswer) (ran : Except StoreFault α × State) : Outcome × State :=
  (ran.1.map answer, ran.2)

/-- A call of the in-memory store; `observationId` is what `randomUUID` gives. -/
def memoryCall (observationId : Id) (store : InMemoryScheduleStore) : StoreCall → Outcome × InMemoryScheduleStore
  | .upsertSpecVersion spec => answered (fun _ => .done) (store.upsertSpecVersion spec)
  | .setState next => (.ok .done, store.setState next)
  | .createOrGetFire input _ => answered (fun made => .fire made.1 made.2) (store.createOrGetFire input)
  | .bindAdmission key binding fence =>
      answered (fun bound => .fire bound.1 bound.2) (store.bindAdmission observationId key binding fence)
  | .transition key target fence => answered .moved (store.transition key target fence)
  | .claimLease scheduleId owner nowMs ttlMs =>
      answered .lease (store.claimLease observationId scheduleId owner nowMs ttlMs)
  | .releaseLease scheduleId owner epoch => (.ok .done, store.releaseLease scheduleId owner epoch)
  | .admitted _ => (.ok .done, store)

def onLeased {α : Type} (store : PgSchedules) (ran : Except StoreFault α × PgScheduleStore) :
    Except StoreFault α × PgSchedules :=
  (ran.1, { store with leased := ran.2 })

/-- A call of the production store. -/
def pgCall (observationId : Id) (store : PgSchedules) : StoreCall → Outcome × PgSchedules
  | .upsertSpecVersion spec => answered (fun _ => .done) (store.upsertSpecVersion spec)
  | .setState next => answered (fun _ => .done) (store.setState next)
  | .createOrGetFire input now => answered (fun made => .fire made.1 made.2) (store.createOrGetFire input now)
  | .bindAdmission key binding fence => answered (fun bound => .fire bound.1 bound.2)
      (onLeased store (store.leased.bindAdmission observationId key binding fence))
  | .transition key target fence => answered .moved (onLeased store (store.leased.transition key target fence))
  | .claimLease scheduleId owner nowMs ttlMs =>
      answered .lease (onLeased store (store.leased.claimLease scheduleId owner nowMs ttlMs))
  | .releaseLease scheduleId owner epoch =>
      (.ok .done, { store with leased := store.leased.releaseLease scheduleId owner epoch })
  | .admitted task =>
      (.ok .done, { store with leased := { store.leased with
        taskAdmissions := store.leased.taskAdmissions ++ [task] } })

end KernelJson.Scheduler.PgSchedules
