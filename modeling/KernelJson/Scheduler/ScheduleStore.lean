import KernelJson.Foundation.JsMap
import KernelJson.Scheduler.FireWindows

/-!
# The in-memory schedule store

Specifications, lifecycle states, fires, leases and observations, with the
mutations a runtime may perform on them.  Ownership-sensitive mutations check a
lease fence; creation is idempotent and binding happens once.
-/

namespace KernelJson.Scheduler.ScheduleStore

open Contracts.Common
open Foundation
open Foundation.JsText
open Scheduler.FireWindows
open Scheduler.Spec

/-! ## Rows -/

/-- Fencing token: the current lease owner and epoch. -/
structure LeaseFence where
  owner : JsString
  epoch : Nat
deriving DecidableEq

structure ScheduleLease where
  scheduleId : Id
  owner : JsString
  epoch : Nat
  acquiredAt : Timestamp
  expiresAt : Timestamp
  ownerNonempty : owner ≠ []

def ScheduleLease.fence (lease : ScheduleLease) : LeaseFence :=
  ⟨lease.owner, lease.epoch⟩

def ScheduleLease.parse (scheduleId : Id) (owner : JsString) (epoch : Nat) (acquiredAt expiresAt : Int) :
    Option ScheduleLease := do
  let acquired ← Timestamp.parse acquiredAt
  let expires ← Timestamp.parse expiresAt
  if nonempty : owner ≠ [] then some ⟨scheduleId, owner, epoch, acquired, expires, nonempty⟩ else none

inductive FireState where
  | planned
  | admissionPending
  | admitted
  | skipped
  | failed
  | cancelled
deriving DecidableEq

/-- One logical schedule fire. -/
structure ScheduleFire where
  idempotencyKey : JsString
  scheduleId : Id
  version : JsString
  fireWindowKey : JsString
  fireIdentity : Id
  fireAtUtc : Timestamp
  state : FireState
  admissionRequestId : Option Id
  admittedChildTaskId : Option Id
  admittedAt : Option Timestamp
  createdAt : Timestamp
  textsNonempty : idempotencyKey ≠ [] ∧ version ≠ [] ∧ fireWindowKey ≠ []
deriving DecidableEq

def ScheduleFire.name (fire : ScheduleFire) : FireName :=
  ⟨fire.scheduleId, fire.version, fire.fireWindowKey⟩

structure FireInput where
  idempotencyKey : JsString
  scheduleId : Id
  version : JsString
  fireWindowKey : JsString
  fireIdentity : Id
  fireAtUtc : Int
  createdAt : Int
deriving DecidableEq

/-- The planned fire of an input, as `ScheduleFire.parse` accepts it. -/
def ScheduleFire.planned (input : FireInput) : Option ScheduleFire := do
  let fireAt ← Timestamp.parse input.fireAtUtc
  let created ← Timestamp.parse input.createdAt
  if nonempty : input.idempotencyKey ≠ [] ∧ input.version ≠ [] ∧ input.fireWindowKey ≠ [] then
    some
      { idempotencyKey := input.idempotencyKey
        scheduleId := input.scheduleId
        version := input.version
        fireWindowKey := input.fireWindowKey
        fireIdentity := input.fireIdentity
        fireAtUtc := fireAt
        state := .planned
        admissionRequestId := none
        admittedChildTaskId := none
        admittedAt := none
        createdAt := created
        textsNonempty := nonempty }
  else none

structure AdmissionBinding where
  admissionRequestId : Id
  childTaskId : Id
  atMs : Int
deriving DecidableEq

/-- `fire` with an admission bound to it. -/
def ScheduleFire.bind (fire : ScheduleFire) (binding : AdmissionBinding) (admittedAt : Timestamp) :
    ScheduleFire :=
  { fire with
    state := .admitted
    admissionRequestId := some binding.admissionRequestId
    admittedChildTaskId := some binding.childTaskId
    admittedAt := some admittedAt }

inductive ObservationKind where
  | miss
  | overlap
  | failure
  | replay
  | authority
  | leaseRecovered
deriving DecidableEq

/-- Operator-visible observation, never authority. -/
structure ScheduleObservation where
  id : Id
  scheduleId : Id
  idempotencyKey : Option JsString
  kind : ObservationKind
  detail : Json
  createdAt : Timestamp

/-! ## Faults -/

inductive StoreFault where
  /-- A contract schema rejected its input. -/
  | schema
  | store (reason : JsString)
  | staleFence (scheduleId : Id)
  | bindingConflict (idempotencyKey : JsString) (bound attempted : Id)
  /-- The database refused the statement. -/
  | database (constraint : JsString)
deriving DecidableEq

def StoreFault.message : StoreFault → JsString
  | .schema => js "ZodError"
  | .store reason => reason
  | .staleFence scheduleId => js "stale/invalid lease fence for " ++ scheduleId.text
  | .bindingConflict key bound attempted =>
      js "fire " ++ key ++ js " already bound to " ++ bound.text ++ js ", refusing " ++ attempted.text
  | .database constraint => constraint

/-! ## The store -/

structure InMemoryScheduleStore where
  specs : JsMap JsString PersistedScheduleSpec
  states : JsMap Id PersistedScheduleState
  fires : JsMap JsString ScheduleFire
  leases : JsMap Id ScheduleLease
  observations : List ScheduleObservation

namespace InMemoryScheduleStore

def empty : InMemoryScheduleStore :=
  ⟨.empty, .empty, .empty, .empty, []⟩

def specKey (scheduleId : Id) (version : JsString) : JsString :=
  scheduleId.text ++ bar :: version

/-- A repeat with another text is refused; the stored value is the same otherwise. -/
def upsertSpecVersion (store : InMemoryScheduleStore) (spec : PersistedScheduleSpec) :
    Except StoreFault Unit × InMemoryScheduleStore :=
  let key := specKey spec.scheduleId spec.version
  let written := { store with specs := store.specs.set key spec }
  match store.specs.get? key with
  | none => (.ok (), written)
  | some existing =>
      if existing = spec then (.ok (), written)
      else (.error (.store (js "spec version is immutable; bump version for semantic changes")), store)

def getSchedule (store : InMemoryScheduleStore) (scheduleId : Id) :
    Option (PersistedScheduleState × PersistedScheduleSpec) := do
  let state ← store.states.get? scheduleId
  let spec ← store.specs.get? (specKey scheduleId state.activeVersion)
  return (state, spec)

def setState (store : InMemoryScheduleStore) (next : PersistedScheduleState) : InMemoryScheduleStore :=
  { store with states := store.states.set next.scheduleId next }

def createOrGetFire (store : InMemoryScheduleStore) (input : FireInput) :
    Except StoreFault (ScheduleFire × Bool) × InMemoryScheduleStore :=
  match store.fires.get? input.idempotencyKey with
  | some existing => (.ok (existing, false), store)
  | none =>
      if store.fires.values.any fun fire =>
          fire.fireIdentity = input.fireIdentity ∧ fire.fireWindowKey ≠ input.fireWindowKey then
        (.error (.store (js "fire identity collision across distinct windows")), store)
      else
        match ScheduleFire.planned input with
        | none => (.error .schema, store)
        | some fire => (.ok (fire, true), { store with fires := store.fires.set fire.idempotencyKey fire })

/-- The fence is the current lease of the schedule. -/
def fenceIsCurrent (store : InMemoryScheduleStore) (scheduleId : Id) (fence : LeaseFence) : Bool :=
  match store.leases.get? scheduleId with
  | none => false
  | some lease => lease.owner = fence.owner ∧ lease.epoch = fence.epoch

/-- `assertFence`; an absent fence is not checked. -/
def fenceHolds (store : InMemoryScheduleStore) (scheduleId : Id) : Option LeaseFence → Bool
  | none => true
  | some fence => store.fenceIsCurrent scheduleId fence

def recordObservation (store : InMemoryScheduleStore) (observation : ScheduleObservation) :
    InMemoryScheduleStore :=
  { store with observations := store.observations ++ [observation] }

/-- `bindImpl`.  The observation of a conflict takes its identifier from the caller. -/
def bindImpl (store : InMemoryScheduleStore) (observationId : Id) (key : JsString)
    (binding : AdmissionBinding) (fence : Option LeaseFence) :
    Except StoreFault (ScheduleFire × Bool) × InMemoryScheduleStore :=
  match store.fires.get? key with
  | none => (.error (.store (js "no such fire")), store)
  | some fire =>
      if store.fenceHolds fire.scheduleId fence then
        match fire.admittedChildTaskId with
        | some bound =>
            if bound = binding.childTaskId then (.ok (fire, true), store)
            else
              match Timestamp.parse binding.atMs with
              | none => (.error .schema, store)
              | some createdAt =>
                  (.error (.bindingConflict key bound binding.childTaskId),
                    store.recordObservation
                      { id := observationId
                        scheduleId := fire.scheduleId
                        idempotencyKey := some key
                        kind := .authority
                        detail := .obj [(js "reason", .str (js "fire_bind_conflict")),
                          (js "bound", .str bound.text),
                          (js "attempted", .str binding.childTaskId.text)]
                        createdAt := createdAt })
        | none =>
            match Timestamp.parse binding.atMs with
            | none => (.error .schema, store)
            | some admittedAt =>
                let next := fire.bind binding admittedAt
                (.ok (next, false), { store with fires := store.fires.set key next })
      else (.error (.staleFence fire.scheduleId), store)

def bindAdmission (store : InMemoryScheduleStore) (observationId : Id) (key : JsString)
    (binding : AdmissionBinding) (fence : LeaseFence) :
    Except StoreFault (ScheduleFire × Bool) × InMemoryScheduleStore :=
  store.bindImpl observationId key binding (some fence)

def transitionImpl (store : InMemoryScheduleStore) (key : JsString) (target : FireState)
    (fence : Option LeaseFence) : Except StoreFault ScheduleFire × InMemoryScheduleStore :=
  match store.fires.get? key with
  | none => (.error (.store (js "no such fire")), store)
  | some fire =>
      if store.fenceHolds fire.scheduleId fence then
        if fire.admittedChildTaskId ≠ none ∧ target ≠ .admitted then
          (.error (.store (js "cannot move an admitted fire out of ADMITTED")), store)
        else
          let next := { fire with state := target }
          (.ok next, { store with fires := store.fires.set key next })
      else (.error (.staleFence fire.scheduleId), store)

def transition (store : InMemoryScheduleStore) (key : JsString) (target : FireState)
    (fence : LeaseFence) : Except StoreFault ScheduleFire × InMemoryScheduleStore :=
  store.transitionImpl key target (some fence)

/-! ## Leases -/

/-- Someone else holds a live lease. -/
def heldByOther (current : Option ScheduleLease) (owner : JsString) (nowMs : Int) : Bool :=
  match current with
  | none => false
  | some lease => lease.expiresAt.ms > nowMs ∧ lease.owner ≠ owner

/-- `(cur?.epoch ?? -1) + 1`. -/
def nextEpoch (current : Option ScheduleLease) : Nat :=
  match current with
  | none => 0
  | some lease => lease.epoch + 1

/-- The observation of an expired lease that changes hands. -/
def takeoverObservations (current : Option ScheduleLease) (observationId : Id) (lease : ScheduleLease)
    (nowMs : Int) : List ScheduleObservation :=
  match current with
  | none => []
  | some previous =>
      if previous.expiresAt.ms ≤ nowMs ∧ previous.owner ≠ lease.owner then
        [{ id := observationId
           scheduleId := lease.scheduleId
           idempotencyKey := none
           kind := .leaseRecovered
           detail := .obj [(js "from", .str previous.owner), (js "to", .str lease.owner),
             (js "epoch", .num lease.epoch)]
           createdAt := lease.acquiredAt }]
      else []

def claimLease (store : InMemoryScheduleStore) (observationId : Id) (scheduleId : Id) (owner : JsString)
    (nowMs ttlMs : Int) : Except StoreFault (Option ScheduleLease) × InMemoryScheduleStore :=
  let current := store.leases.get? scheduleId
  if heldByOther current owner nowMs then (.ok none, store)
  else
    match ScheduleLease.parse scheduleId owner (nextEpoch current) nowMs (nowMs + ttlMs) with
    | none => (.error .schema, store)
    | some lease =>
        (.ok (some lease),
          { store with
            leases := store.leases.set scheduleId lease
            observations := store.observations ++ takeoverObservations current observationId lease nowMs })

def releaseLease (store : InMemoryScheduleStore) (scheduleId : Id) (owner : JsString) (epoch : Nat) :
    InMemoryScheduleStore :=
  if store.fenceIsCurrent scheduleId ⟨owner, epoch⟩ then
    { store with leases := store.leases.delete scheduleId }
  else store

/-! ## What the mutations leave behind -/

theorem specKey_inj {scheduleId other : Id} {version otherVersion : JsString} :
    specKey scheduleId version = specKey other otherVersion ↔
      (scheduleId, version) = (other, otherVersion) := by
  constructor
  · intro same
    obtain ⟨ids, versions⟩ := split_at_first scheduleId.bar_not_mem other.bar_not_mem same
    exact Prod.ext (Contracts.Common.Id.ext ids) versions
  · intro same
    cases same
    rfl

theorem planned_spec {input : FireInput} {fire : ScheduleFire}
    (planned : ScheduleFire.planned input = some fire) :
    fire.idempotencyKey = input.idempotencyKey ∧
      fire.name = ⟨input.scheduleId, input.version, input.fireWindowKey⟩ ∧
      fire.fireIdentity = input.fireIdentity ∧ fire.admittedChildTaskId = none := by
  unfold ScheduleFire.planned at planned
  simp only [Option.bind_eq_bind, Option.bind_eq_some_iff] at planned
  obtain ⟨fireAt, -, created, -, made⟩ := planned
  split at made
  · cases made
    exact ⟨rfl, rfl, rfl, rfl⟩
  · cases made

/-- Creation returns the fire under the key, which existed before or is the planned one. -/
theorem createOrGetFire_cases {store after : InMemoryScheduleStore} {input : FireInput}
    {result : Except StoreFault (ScheduleFire × Bool)}
    (ran : store.createOrGetFire input = (result, after)) :
    (∃ fire, store.fires.get? input.idempotencyKey = some fire ∧ result = .ok (fire, false) ∧
        after = store) ∨
      (∃ fire, store.fires.get? input.idempotencyKey = none ∧ ScheduleFire.planned input = some fire ∧
        result = .ok (fire, true) ∧
        after = { store with fires := store.fires.set input.idempotencyKey fire }) ∨
      (∃ fault, result = .error fault ∧ after = store) := by
  unfold createOrGetFire at ran
  cases found : store.fires.get? input.idempotencyKey with
  | some fire =>
      simp only [found, Prod.mk.injEq] at ran
      exact Or.inl ⟨fire, rfl, ran.1.symm, ran.2.symm⟩
  | none =>
      simp only [found] at ran
      split at ran
      · obtain ⟨rfl, rfl⟩ := Prod.mk.inj ran
        exact Or.inr (Or.inr ⟨_, rfl, rfl⟩)
      · cases planned : ScheduleFire.planned input with
        | none =>
            simp only [planned, Prod.mk.injEq] at ran
            exact Or.inr (Or.inr ⟨_, ran.1.symm, ran.2.symm⟩)
        | some fire =>
            simp only [planned, Prod.mk.injEq, (planned_spec planned).1] at ran
            exact Or.inr (Or.inl ⟨fire, rfl, rfl, ran.1.symm, ran.2.symm⟩)

/-- A bind either changes no fire, or binds an unbound fire under a fence that holds. -/
theorem bindImpl_cases {store after : InMemoryScheduleStore} {observationId : Id} {key : JsString}
    {binding : AdmissionBinding} {fence : Option LeaseFence}
    {result : Except StoreFault (ScheduleFire × Bool)}
    (ran : store.bindImpl observationId key binding fence = (result, after)) :
    (after.fires = store.fires ∧ after.leases = store.leases) ∨
      ∃ fire admittedAt, store.fires.get? key = some fire ∧ fire.admittedChildTaskId = none ∧
        store.fenceHolds fire.scheduleId fence = true ∧
        result = .ok (fire.bind binding admittedAt, false) ∧
        after = { store with fires := store.fires.set key (fire.bind binding admittedAt) } := by
  unfold bindImpl at ran
  cases found : store.fires.get? key with
  | none =>
      simp only [found, Prod.mk.injEq] at ran
      exact Or.inl ⟨by rw [← ran.2], by rw [← ran.2]⟩
  | some fire =>
      simp only [found] at ran
      split at ran
      · next holds =>
          cases bound : fire.admittedChildTaskId with
          | some child =>
              simp only [bound] at ran
              split at ran
              · exact Or.inl ⟨by rw [← (Prod.mk.inj ran).2], by rw [← (Prod.mk.inj ran).2]⟩
              · split at ran
                · exact Or.inl ⟨by rw [← (Prod.mk.inj ran).2], by rw [← (Prod.mk.inj ran).2]⟩
                · exact Or.inl ⟨by rw [← (Prod.mk.inj ran).2]; rfl, by rw [← (Prod.mk.inj ran).2]; rfl⟩
          | none =>
              simp only [bound] at ran
              split at ran
              · exact Or.inl ⟨by rw [← (Prod.mk.inj ran).2], by rw [← (Prod.mk.inj ran).2]⟩
              · next admittedAt parsed =>
                  exact Or.inr ⟨fire, admittedAt, rfl, bound, holds, (Prod.mk.inj ran).1.symm,
                    (Prod.mk.inj ran).2.symm⟩
      · exact Or.inl ⟨by rw [← (Prod.mk.inj ran).2], by rw [← (Prod.mk.inj ran).2]⟩

/-- A transition either changes no fire, or moves the state of one that may move. -/
theorem transitionImpl_cases {store after : InMemoryScheduleStore} {key : JsString} {target : FireState}
    {fence : Option LeaseFence} {result : Except StoreFault ScheduleFire}
    (ran : store.transitionImpl key target fence = (result, after)) :
    after = store ∨
      ∃ fire, store.fires.get? key = some fire ∧
        (fire.admittedChildTaskId ≠ none → target = .admitted) ∧
        store.fenceHolds fire.scheduleId fence = true ∧
        after = { store with fires := store.fires.set key { fire with state := target } } := by
  unfold transitionImpl at ran
  cases found : store.fires.get? key with
  | none =>
      simp only [found, Prod.mk.injEq] at ran
      exact Or.inl ran.2.symm
  | some fire =>
      simp only [found] at ran
      split at ran
      · next holds =>
          split at ran
          · exact Or.inl (Prod.mk.inj ran).2.symm
          · next allowed =>
              refine Or.inr ⟨fire, rfl, fun bound => ?_, holds, (Prod.mk.inj ran).2.symm⟩
              by_contra other
              exact allowed ⟨bound, other⟩
      · exact Or.inl (Prod.mk.inj ran).2.symm

theorem claimLease_fires (store : InMemoryScheduleStore) (observationId scheduleId : Id) (owner : JsString)
    (nowMs ttlMs : Int) :
    (store.claimLease observationId scheduleId owner nowMs ttlMs).2.fires = store.fires := by
  unfold claimLease
  dsimp only
  split
  · rfl
  · split <;> rfl

theorem releaseLease_fires (store : InMemoryScheduleStore) (scheduleId : Id) (owner : JsString)
    (epoch : Nat) : (store.releaseLease scheduleId owner epoch).fires = store.fires := by
  unfold releaseLease
  split <;> rfl

theorem upsertSpecVersion_fires (store : InMemoryScheduleStore) (spec : PersistedScheduleSpec) :
    (store.upsertSpecVersion spec).2.fires = store.fires := by
  unfold upsertSpecVersion
  dsimp only
  split
  · rfl
  · split <;> rfl

end InMemoryScheduleStore

end KernelJson.Scheduler.ScheduleStore
