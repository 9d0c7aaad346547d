import KernelJson.Scheduler.ScheduleStore

/-!
# The PostgreSQL schedule store

The leases and fires of the production store, each SQL statement read with its
stated meaning.  A call is taken as one step; the constraints that the tables
carry refuse the statement that violates them.
-/

namespace KernelJson.Scheduler.PgStore

open Contracts.Common
open Foundation
open Foundation.JsText
open Scheduler.ScheduleStore

/-- A row of `schedule_leases`; an empty owner is a value the table accepts. -/
structure LeaseRow where
  owner : JsString
  epoch : Nat
  acquiredAt : Timestamp
  expiresAt : Timestamp
deriving DecidableEq

def LeaseRow.fence (row : LeaseRow) : LeaseFence :=
  ⟨row.owner, row.epoch⟩

/-- The largest value of an `integer` column. -/
def maxInteger : Nat := 2147483647

/-- The tables behind the store, and the admissions its foreign key refers to. -/
structure PgScheduleStore where
  scheduleFires : JsMap JsString ScheduleFire
  scheduleLeases : JsMap Id LeaseRow
  scheduleObservations : List ScheduleObservation
  taskAdmissions : List Id

namespace PgScheduleStore

def empty : PgScheduleStore :=
  ⟨.empty, .empty, [], []⟩

/-- `select 1 from schedule_leases where schedule_id=$1 and owner=$2 and epoch=$3`. -/
def fenceIsCurrent (store : PgScheduleStore) (scheduleId : Id) (fence : LeaseFence) : Bool :=
  match store.scheduleLeases.get? scheduleId with
  | none => false
  | some row => row.owner = fence.owner ∧ row.epoch = fence.epoch

/-- An absent fence adds no predicate to the update. -/
def fenceHolds (store : PgScheduleStore) (scheduleId : Id) : Option LeaseFence → Bool
  | none => true
  | some fence => store.fenceIsCurrent scheduleId fence

def bindImpl (store : PgScheduleStore) (observationId : Id) (key : JsString) (binding : AdmissionBinding)
    (fence : Option LeaseFence) : Except StoreFault (ScheduleFire × Bool) × PgScheduleStore :=
  match store.scheduleFires.get? key with
  | none => (.error (.store (js "no such fire")), store)
  | some fire =>
      match fire.admittedChildTaskId with
      | some bound =>
          if bound = binding.childTaskId then
            if store.fenceHolds fire.scheduleId fence then (.ok (fire, true), store)
            else (.error (.staleFence fire.scheduleId), store)
          else
            match Timestamp.parse binding.atMs with
            | none => (.error .schema, store)
            | some createdAt =>
                (.error (.bindingConflict key bound binding.childTaskId),
                  { store with
                    scheduleObservations := store.scheduleObservations ++
                      [{ id := observationId
                         scheduleId := fire.scheduleId
                         idempotencyKey := some key
                         kind := .authority
                         detail := .obj [(js "reason", .str (js "fire_bind_conflict")),
                           (js "bound", .str bound.text),
                           (js "attempted", .str binding.childTaskId.text)]
                         createdAt := createdAt }] })
      | none =>
          -- the update joins the lease row: a stale fence matches none
          if store.fenceHolds fire.scheduleId fence then
            match Timestamp.parse binding.atMs with
            | none => (.error (.database (js "invalid input syntax for type timestamp")), store)
            | some admittedAt =>
                if binding.childTaskId ∈ store.taskAdmissions then
                  let next := fire.bind binding admittedAt
                  (.ok (next, false), { store with scheduleFires := store.scheduleFires.set key next })
                else (.error (.database (js "schedule_fires_admitted_child_task_id_fkey")), store)
          else (.error (.staleFence fire.scheduleId), store)

def bindAdmission (store : PgScheduleStore) (observationId : Id) (key : JsString)
    (binding : AdmissionBinding) (fence : LeaseFence) :
    Except StoreFault (ScheduleFire × Bool) × PgScheduleStore :=
  store.bindImpl observationId key binding (some fence)

def transitionImpl (store : PgScheduleStore) (key : JsString) (target : FireState)
    (fence : Option LeaseFence) : Except StoreFault ScheduleFire × PgScheduleStore :=
  match store.scheduleFires.get? key with
  | none => (.error (.store (js "no such fire")), store)
  | some fire =>
      if store.fenceHolds fire.scheduleId fence then
        if fire.admittedChildTaskId = none ∨ target = .admitted then
          -- check ((state = 'ADMITTED') = (admitted_child_task_id is not null))
          if (target = .admitted) ↔ fire.admittedChildTaskId ≠ none then
            let next := { fire with state := target }
            (.ok next, { store with scheduleFires := store.scheduleFires.set key next })
          else (.error (.database (js "schedule_fires_check")), store)
        else (.error (.store (js "cannot move an admitted fire out of ADMITTED")), store)
      else (.error (.staleFence fire.scheduleId), store)

def transition (store : PgScheduleStore) (key : JsString) (target : FireState) (fence : LeaseFence) :
    Except StoreFault ScheduleFire × PgScheduleStore :=
  store.transitionImpl key target (some fence)

/-- The row that `insert … on conflict do update` leaves, if its predicate admits the claim. -/
def claimedRow (current : Option LeaseRow) (owner : JsString) (acquiredAt expiresAt : Timestamp) :
    Option LeaseRow :=
  match current with
  | none => some ⟨owner, 0, acquiredAt, expiresAt⟩
  | some row =>
      if row.expiresAt.ms ≤ acquiredAt.ms ∨ row.owner = owner then
        some ⟨owner, row.epoch + 1, acquiredAt, expiresAt⟩
      else none

/-- `ScheduleLease.parse` of a returned row. -/
def LeaseRow.parse (scheduleId : Id) (row : LeaseRow) : Option ScheduleLease :=
  if nonempty : row.owner ≠ [] then
    some ⟨scheduleId, row.owner, row.epoch, row.acquiredAt, row.expiresAt, nonempty⟩
  else none

def claimLease (store : PgScheduleStore) (scheduleId : Id) (owner : JsString) (nowMs ttlMs : Int) :
    Except StoreFault (Option ScheduleLease) × PgScheduleStore :=
  match Timestamp.parse nowMs, Timestamp.parse (nowMs + ttlMs) with
  | some acquiredAt, some expiresAt =>
      match claimedRow (store.scheduleLeases.get? scheduleId) owner acquiredAt expiresAt with
      | none => (.ok none, store)
      | some row =>
          if row.epoch ≤ maxInteger then
            let written := { store with scheduleLeases := store.scheduleLeases.set scheduleId row }
            -- the row is committed before the schema sees it
            match LeaseRow.parse scheduleId row with
            | some lease => (.ok (some lease), written)
            | none => (.error .schema, written)
          else (.error (.database (js "integer out of range")), store)
  | _, _ => (.error (.database (js "invalid input syntax for type timestamp")), store)

/-- `delete from schedule_leases where schedule_id=$1 and owner=$2 and epoch=$3`. -/
def releaseLease (store : PgScheduleStore) (scheduleId : Id) (owner : JsString) (epoch : Nat) :
    PgScheduleStore :=
  if store.fenceIsCurrent scheduleId ⟨owner, epoch⟩ then
    { store with scheduleLeases := store.scheduleLeases.delete scheduleId }
  else store

end PgScheduleStore

end KernelJson.Scheduler.PgStore
