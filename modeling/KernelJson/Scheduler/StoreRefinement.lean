import KernelJson.Scheduler.PgSchedules

/-!
# The two schedule stores compared

Which calls the production store and the in-memory store answer alike, and that
along any sequence of such calls, from empty stores, they keep answering alike and
hold the same schedules, fires, leases and observations.
-/

namespace KernelJson.Scheduler.StoreRefinement

open Contracts.Common
open Foundation
open Foundation.JsText
open Scheduler.FireWindows
open Scheduler.PgSchedules
open Scheduler.PgStore
open Scheduler.ScheduleStore
open Scheduler.Spec

/-! ## Equal answers and equal contents -/

/-- The classes of the errors that a store throws. -/
inductive FaultClass where
  | zodError
  | storeError
  | staleFenceError
  | fireBindingConflict
  | databaseError
deriving DecidableEq

def faultClass : StoreFault → FaultClass
  | .schema => .zodError
  | .store _ => .storeError
  | .staleFence _ => .staleFenceError
  | .bindingConflict _ _ _ => .fireBindingConflict
  | .database _ => .databaseError

/-- Both calls succeed with one answer, or fail with errors of one class. -/
def SameOutcome : Outcome → Outcome → Prop
  | .ok first, .ok second => first = second
  | .error first, .error second => faultClass first = faultClass second
  | _, _ => False

/-- An observation without its random identifier. -/
def recorded (observation : ScheduleObservation) : Id × Option JsString × ObservationKind × Json × Timestamp :=
  (observation.scheduleId, observation.idempotencyKey, observation.kind, observation.detail, observation.createdAt)

def leaseRow (lease : ScheduleLease) : LeaseRow :=
  ⟨lease.owner, lease.epoch, lease.acquiredAt, lease.expiresAt⟩

/-- Both stores hold the same specifications, states, fires, leases and observations. -/
structure Refines (pg : PgSchedules) (memory : InMemoryScheduleStore) : Prop where
  specs : ∀ scheduleId version, memory.specs.get? (InMemoryScheduleStore.specKey scheduleId version) =
    pg.scheduleSpecs.get? (scheduleId, version)
  states : ∀ scheduleId, memory.states.get? scheduleId = pg.scheduleState.get? scheduleId
  fires : ∀ key, memory.fires.get? key = pg.leased.scheduleFires.get? key
  leases : ∀ scheduleId, (memory.leases.get? scheduleId).map leaseRow = pg.leased.scheduleLeases.get? scheduleId
  specVersions : ∀ scheduleId version spec, pg.scheduleSpecs.get? (scheduleId, version) = some spec →
    spec.version = version
  leaseIds : ∀ scheduleId lease, memory.leases.get? scheduleId = some lease → lease.scheduleId = scheduleId
  observations : memory.observations.map recorded = pg.leased.scheduleObservations.map recorded

theorem refines_empty (accounts : Accounts) (taskAdmissions : List Id) :
    Refines (.empty accounts taskAdmissions) .empty where
  specs := fun _ _ => rfl
  states := fun _ => rfl
  fires := fun _ => rfl
  leases := fun _ => rfl
  specVersions := fun _ _ _ found => by cases found
  leaseIds := fun _ _ found => by cases found
  observations := rfl

/-- Stores that hold the same read the same schedules. -/
theorem Refines.getSchedule {pg : PgSchedules} {memory : InMemoryScheduleStore} (refines : Refines pg memory)
    (scheduleId : Id) : memory.getSchedule scheduleId = pg.getSchedule scheduleId := by
  unfold InMemoryScheduleStore.getSchedule PgSchedules.getSchedule
  rw [refines.states]
  cases pg.scheduleState.get? scheduleId with
  | none => rfl
  | some state =>
      simp only [Option.bind_eq_bind, Option.bind_some, refines.specs]

/-! ## Calls that both stores answer alike -/

/-- A UUID text that a `uuid` column gives back as it is. -/
def Canonical (identifier : Id) : Prop := identifier.column = identifier

/-- A text that a `text` column gives back as it is: well-formed Unicode without the character zero. -/
def isStorable : JsString → Bool
  | [] => true
  | [unit] => unit != 0 && !Json.isHighSurrogate unit && !Json.isLowSurrogate unit
  | first :: second :: rest =>
      if Json.isHighSurrogate first then Json.isLowSurrogate second && isStorable rest
      else first != 0 && !Json.isLowSurrogate first && isStorable (second :: rest)

def callIds : StoreCall → List Id
  | .upsertSpecVersion spec =>
      [spec.scheduleId, spec.tenant.id, spec.principal.id, spec.owner.id, spec.createdBy]
  | .setState next => [next.scheduleId, next.updatedBy]
  | .createOrGetFire input _ => [input.scheduleId, input.fireIdentity]
  | .bindAdmission _ binding _ => [binding.admissionRequestId, binding.childTaskId]
  | .transition _ _ _ => []
  | .claimLease scheduleId _ _ _ => [scheduleId]
  | .releaseLease scheduleId _ _ => [scheduleId]
  | .admitted task => [task]

def callTexts : StoreCall → List JsString
  | .upsertSpecVersion spec => [spec.version, spec.name, spec.timezone]
  | .setState next => [next.activeVersion]
  | .createOrGetFire input _ => [input.idempotencyKey, input.version, input.fireWindowKey]
  | .bindAdmission key _ fence => [key, fence.owner]
  | .transition key _ fence => [key, fence.owner]
  | .claimLease _ owner _ _ => [owner]
  | .releaseLease _ owner _ => [owner]
  | .admitted _ => []

/-- The columns take the call's values as they are. -/
def Storable (call : StoreCall) : Prop :=
  (∀ identifier ∈ callIds call, Canonical identifier) ∧ ∀ text ∈ callTexts call, isStorable text = true

/-- A specification whose version is new is one that the tables accept and give back whole; a repeated version
comes with another content. -/
def SpecAgrees (pg : PgSchedules) (spec : PersistedScheduleSpec) : Prop :=
  match pg.scheduleSpecs.get? (spec.scheduleId, spec.version) with
  | none => AcceptsSpec pg.accounts spec ∧ columns spec = spec
  | some existing => existing ≠ spec

/-- The key of a fire is its name's, and a new fire has a window, a schedule, an identity of its own and the
database's time. -/
def FireAgrees (pg : PgSchedules) (input : FireInput) (now : Timestamp) : Prop :=
  Timestamp.parse input.fireAtUtc ≠ none ∧ input.idempotencyKey = (inputName input).key ∧
    (pg.leased.scheduleFires.get? input.idempotencyKey = none →
      input.fireWindowKey ≠ [] ∧ input.createdAt = now.ms ∧
        pg.scheduleSpecs.get? (input.scheduleId, input.version) ≠ none ∧
        ∀ fire ∈ pg.leased.scheduleFires.values, fire.fireIdentity ≠ input.fireIdentity)

/-- A bind of a fire that another task holds comes under the current lease; a bind of a free fire has a time that
the column accepts, and under the current lease it names an admitted task. -/
def BindAgrees (pg : PgSchedules) (key : JsString) (binding : AdmissionBinding) (fence : LeaseFence) : Prop :=
  ∀ fire ∈ pg.leased.scheduleFires.get? key,
    match fire.admittedChildTaskId with
    | some bound => bound ≠ binding.childTaskId → pg.leased.fenceIsCurrent fire.scheduleId fence = true
    | none => Timestamp.parse binding.atMs ≠ none ∧
        (pg.leased.fenceIsCurrent fire.scheduleId fence = true → binding.childTaskId ∈ pg.leased.taskAdmissions)

/-- No fire without a task is moved to `ADMITTED` under the current lease. -/
def MoveAgrees (pg : PgSchedules) (key : JsString) (target : FireState) (fence : LeaseFence) : Prop :=
  ∀ fire ∈ pg.leased.scheduleFires.get? key, pg.leased.fenceIsCurrent fire.scheduleId fence = true →
    fire.admittedChildTaskId = none → target ≠ .admitted

/-- A claim is refused, takes a free schedule, or renews the claimant's own lease: an expired lease does not
change hands. -/
def ClaimAgrees (pg : PgSchedules) (scheduleId : Id) (owner : JsString) (nowMs ttlMs : Int) : Prop :=
  Timestamp.parse nowMs ≠ none ∧ Timestamp.parse (nowMs + ttlMs) ≠ none ∧
    match pg.leased.scheduleLeases.get? scheduleId with
    | none => owner ≠ []
    | some row => if row.owner = owner then row.epoch < maxInteger else nowMs < row.expiresAt.ms

/-- The call is one that both stores answer alike, by what the production store holds before it. -/
def Agreeable (pg : PgSchedules) (call : StoreCall) : Prop :=
  Storable call ∧
    match call with
    | .upsertSpecVersion spec => SpecAgrees pg spec
    | .setState next => pg.scheduleSpecs.get? (next.scheduleId, next.activeVersion) ≠ none ∧
        next.updatedBy ∈ pg.accounts.principals
    | .createOrGetFire input now => FireAgrees pg input now
    | .bindAdmission key binding fence => fence.epoch ≤ maxInteger ∧ BindAgrees pg key binding fence
    | .transition key target fence => fence.epoch ≤ maxInteger ∧ MoveAgrees pg key target fence
    | .claimLease scheduleId owner nowMs ttlMs => ClaimAgrees pg scheduleId owner nowMs ttlMs
    | .releaseLease _ _ epoch => epoch ≤ maxInteger
    | .admitted _ => True

instance (pg : PgSchedules) (spec : PersistedScheduleSpec) : Decidable (SpecAgrees pg spec) :=
  match found : pg.scheduleSpecs.get? (spec.scheduleId, spec.version) with
  | none => decidable_of_iff (AcceptsSpec pg.accounts spec ∧ columns spec = spec) (by rw [SpecAgrees, found])
  | some existing => decidable_of_iff (existing ≠ spec) (by rw [SpecAgrees, found])

instance (pg : PgSchedules) (input : FireInput) (now : Timestamp) : Decidable (FireAgrees pg input now) :=
  inferInstanceAs (Decidable (_ ∧ _ ∧ (_ → _ ∧ _ ∧ _ ∧ ∀ fire ∈ _, _)))

instance (pg : PgSchedules) (key : JsString) (binding : AdmissionBinding) (fence : LeaseFence) :
    Decidable (BindAgrees pg key binding fence) :=
  match found : pg.leased.scheduleFires.get? key with
  | none => .isTrue (by rw [BindAgrees, found]; exact fun _ member => nomatch member)
  | some fire =>
      match child : fire.admittedChildTaskId with
      | some bound => decidable_of_iff
          (bound ≠ binding.childTaskId → pg.leased.fenceIsCurrent fire.scheduleId fence = true)
          (by simp only [BindAgrees, found, Option.mem_some_iff, forall_eq', child])
      | none => decidable_of_iff (Timestamp.parse binding.atMs ≠ none ∧
            (pg.leased.fenceIsCurrent fire.scheduleId fence = true → binding.childTaskId ∈ pg.leased.taskAdmissions))
          (by simp only [BindAgrees, found, Option.mem_some_iff, forall_eq', child])

instance (pg : PgSchedules) (key : JsString) (target : FireState) (fence : LeaseFence) :
    Decidable (MoveAgrees pg key target fence) :=
  inferInstanceAs (Decidable (∀ fire ∈ _, _ → _ → _))

instance (pg : PgSchedules) (scheduleId : Id) (owner : JsString) (nowMs ttlMs : Int) :
    Decidable (ClaimAgrees pg scheduleId owner nowMs ttlMs) :=
  match found : pg.leased.scheduleLeases.get? scheduleId with
  | none => decidable_of_iff (Timestamp.parse nowMs ≠ none ∧ Timestamp.parse (nowMs + ttlMs) ≠ none ∧ owner ≠ [])
      (by rw [ClaimAgrees, found])
  | some row => decidable_of_iff (Timestamp.parse nowMs ≠ none ∧ Timestamp.parse (nowMs + ttlMs) ≠ none ∧
      if row.owner = owner then row.epoch < maxInteger else nowMs < row.expiresAt.ms) (by rw [ClaimAgrees, found])

instance (call : StoreCall) : Decidable (Storable call) :=
  inferInstanceAs (Decidable ((∀ identifier ∈ callIds call, identifier.column = identifier) ∧ _))

instance (pg : PgSchedules) (call : StoreCall) : Decidable (Agreeable pg call) :=
  match call with
  | .upsertSpecVersion spec => inferInstanceAs (Decidable (_ ∧ SpecAgrees pg spec))
  | .setState _ => inferInstanceAs (Decidable (_ ∧ pg.scheduleSpecs.get? _ ≠ none ∧ _ ∈ pg.accounts.principals))
  | .createOrGetFire input now => inferInstanceAs (Decidable (_ ∧ FireAgrees pg input now))
  | .bindAdmission key binding fence => inferInstanceAs (Decidable (_ ∧ _ ∧ BindAgrees pg key binding fence))
  | .transition key target fence => inferInstanceAs (Decidable (_ ∧ _ ∧ MoveAgrees pg key target fence))
  | .claimLease scheduleId owner nowMs ttlMs =>
      inferInstanceAs (Decidable (_ ∧ ClaimAgrees pg scheduleId owner nowMs ttlMs))
  | .releaseLease _ _ epoch => inferInstanceAs (Decidable (_ ∧ epoch ≤ maxInteger))
  | .admitted _ => inferInstanceAs (Decidable (_ ∧ True))

/-! ## One call -/

/-- The two stores answered a call alike and still hold the same. -/
structure Agree (pg : Outcome × PgSchedules) (memory : Outcome × InMemoryScheduleStore) : Prop where
  outcome : SameOutcome pg.1 memory.1
  refines : Refines pg.2 memory.2

section

variable {pg : PgSchedules} {memory : InMemoryScheduleStore} (refines : Refines pg memory)

include refines

theorem upsertSpecVersion_agrees (observationId otherId : Id) {spec : PersistedScheduleSpec}
    (agrees : SpecAgrees pg spec) :
    Agree (pgCall observationId pg (.upsertSpecVersion spec)) (memoryCall otherId memory (.upsertSpecVersion spec)) := by
  have held := refines.specs spec.scheduleId spec.version
  unfold SpecAgrees at agrees
  cases found : pg.scheduleSpecs.get? (spec.scheduleId, spec.version) with
  | none =>
      rw [found] at agrees held
      obtain ⟨accepted, whole⟩ := agrees
      have written : pg.upsertSpecVersion spec = (.ok (), { pg with
          scheduleSpecs := pg.scheduleSpecs.set (spec.scheduleId, spec.version) spec }) := by
        simp only [PgSchedules.upsertSpecVersion, found, if_pos accepted, whole]
      have stored : memory.upsertSpecVersion spec = (.ok (), { memory with
          specs := memory.specs.set (InMemoryScheduleStore.specKey spec.scheduleId spec.version) spec }) := by
        simp only [InMemoryScheduleStore.upsertSpecVersion, held]
      rw [pgCall, memoryCall, written, stored]
      refine ⟨rfl, { refines with specs := ?_, specVersions := ?_ }⟩
      · intro scheduleId version
        simp only [answered, JsMap.get?_set, InMemoryScheduleStore.specKey_inj, refines.specs]
      · intro scheduleId version held there
        simp only [answered, JsMap.get?_set] at there
        split at there
        · next same =>
            cases there
            exact congrArg Prod.snd same
        · exact refines.specVersions scheduleId version held there
  | some existing =>
      rw [found] at agrees held
      have refused : ∃ reason, pg.upsertSpecVersion spec = (.error (.store reason), pg) := by
        simp only [PgSchedules.upsertSpecVersion, found]
        exact ⟨_, rfl⟩
      have kept : ∃ reason, memory.upsertSpecVersion spec = (.error (.store reason), memory) := by
        simp only [InMemoryScheduleStore.upsertSpecVersion, held, if_neg agrees]
        exact ⟨_, rfl⟩
      obtain ⟨reason, refused⟩ := refused
      obtain ⟨other, kept⟩ := kept
      rw [pgCall, memoryCall, refused, kept]
      exact ⟨rfl, refines⟩

theorem setState_agrees (observationId otherId : Id) {next : PersistedScheduleState}
    (specified : pg.scheduleSpecs.get? (next.scheduleId, next.activeVersion) ≠ none)
    (known : next.updatedBy ∈ pg.accounts.principals) :
    Agree (pgCall observationId pg (.setState next)) (memoryCall otherId memory (.setState next)) := by
  have accepted : ¬ (pg.scheduleSpecs.get? (next.scheduleId, next.activeVersion) = none ∨
      next.updatedBy ∉ pg.accounts.principals) := by
    rintro (missing | unknown)
    · exact specified missing
    · exact unknown known
  have written : pg.setState next = (.ok (), { pg with
      scheduleState := pg.scheduleState.set next.scheduleId next }) := by
    rw [PgSchedules.setState, if_neg accepted]
  rw [pgCall, memoryCall, written]
  refine ⟨rfl, { refines with states := ?_ }⟩
  intro scheduleId
  simp only [answered, InMemoryScheduleStore.setState, JsMap.get?_set, refines.states]

theorem planned_of_agrees {input : FireInput} {now : Timestamp} (timed : Timestamp.parse input.fireAtUtc ≠ none)
    (named : input.idempotencyKey = (inputName input).key) (windowed : input.fireWindowKey ≠ [])
    (clocked : input.createdAt = now.ms)
    (specified : pg.scheduleSpecs.get? (input.scheduleId, input.version) ≠ none) :
    ∃ fire, ScheduleFire.planned input = some fire := by
  obtain ⟨fireAt, parsed⟩ := Option.ne_none_iff_exists'.mp timed
  obtain ⟨spec, stored⟩ := Option.ne_none_iff_exists'.mp specified
  have versioned : input.version ≠ [] := by
    rw [← refines.specVersions _ _ spec stored]
    exact spec.versionNonempty
  have keyed : input.idempotencyKey ≠ [] := by
    rw [named]
    exact FireName.key_ne_nil _
  have created : Timestamp.parse input.createdAt = some now := by
    rw [clocked]
    exact dif_pos now.inRange
  rw [ScheduleFire.planned, parsed, created]
  simp only [Option.bind_eq_bind, Option.bind_some, dif_pos (And.intro keyed (And.intro versioned windowed))]
  exact ⟨_, rfl⟩

theorem createOrGetFire_agrees (observationId otherId : Id) {input : FireInput} {now : Timestamp}
    (agrees : FireAgrees pg input now) :
    Agree (pgCall observationId pg (.createOrGetFire input now))
      (memoryCall otherId memory (.createOrGetFire input now)) := by
  obtain ⟨timed, named, fresh⟩ := agrees
  have held := refines.fires input.idempotencyKey
  cases found : pg.leased.scheduleFires.get? input.idempotencyKey with
  | some existing =>
      rw [found] at held
      have got : pg.createOrGetFire input now = (.ok (existing, false), pg) := by
        simp only [PgSchedules.createOrGetFire, if_neg timed, if_neg (not_not_intro named), found]
      have same : memory.createOrGetFire input = (.ok (existing, false), memory) := by
        simp only [InMemoryScheduleStore.createOrGetFire, held]
      rw [pgCall, memoryCall, got, same]
      exact ⟨rfl, refines⟩
  | none =>
      rw [found] at held
      obtain ⟨windowed, clocked, specified, unique⟩ := fresh found
      obtain ⟨fire, planned⟩ := planned_of_agrees refines timed named windowed clocked specified
      have noCollision : (memory.fires.values.any fun fire =>
          fire.fireIdentity = input.fireIdentity ∧ fire.fireWindowKey ≠ input.fireWindowKey) = false := by
        rw [List.any_eq_false]
        intro other member collides
        obtain ⟨key, there⟩ := JsMap.mem_values.mp member
        rw [refines.fires] at there
        exact unique other (JsMap.mem_values.mpr ⟨key, there⟩) (of_decide_eq_true collides).1
      have noTwin : (pg.leased.scheduleFires.values.any fun fire =>
          fire.fireIdentity = input.fireIdentity) = false := by
        rw [List.any_eq_false]
        intro other member same
        exact unique other member (of_decide_eq_true same)
      have inserted : insertedFire input now = some fire := by
        rw [insertedFire, ← clocked]
        exact planned
      have made : pg.createOrGetFire input now = (.ok (fire, true), { pg with leased := { pg.leased with
          scheduleFires := pg.leased.scheduleFires.set input.idempotencyKey fire } }) := by
        simp only [PgSchedules.createOrGetFire, if_neg timed, if_neg (not_not_intro named), found, noTwin,
          Bool.false_eq_true, if_false, if_neg specified, inserted]
      have stored : memory.createOrGetFire input = (.ok (fire, true), { memory with
          fires := memory.fires.set input.idempotencyKey fire }) := by
        simp only [InMemoryScheduleStore.createOrGetFire, held, noCollision, Bool.false_eq_true, if_false, planned,
          (InMemoryScheduleStore.planned_spec planned).1]
      rw [pgCall, memoryCall, made, stored]
      refine ⟨rfl, { refines with fires := ?_ }⟩
      intro key
      simp only [answered, JsMap.get?_set, refines.fires]

theorem fenceIsCurrent_agrees (scheduleId : Id) (fence : LeaseFence) :
    memory.fenceIsCurrent scheduleId fence = pg.leased.fenceIsCurrent scheduleId fence := by
  unfold InMemoryScheduleStore.fenceIsCurrent PgScheduleStore.fenceIsCurrent
  rw [← refines.leases scheduleId]
  cases memory.leases.get? scheduleId with
  | none => rfl
  | some lease => rfl

theorem bindAdmission_agrees (observationId otherId : Id) {key : JsString} {binding : AdmissionBinding}
    {fence : LeaseFence} (agrees : BindAgrees pg key binding fence) :
    Agree (pgCall observationId pg (.bindAdmission key binding fence))
      (memoryCall otherId memory (.bindAdmission key binding fence)) := by
  have held := refines.fires key
  cases found : pg.leased.scheduleFires.get? key with
  | none =>
      rw [found] at held
      have missing : pg.leased.bindAdmission observationId key binding fence =
          (.error (.store (js "no such fire")), pg.leased) := by
        simp only [PgScheduleStore.bindAdmission, PgScheduleStore.bindImpl, found]
      have absent : memory.bindAdmission otherId key binding fence =
          (.error (.store (js "no such fire")), memory) := by
        simp only [InMemoryScheduleStore.bindAdmission, InMemoryScheduleStore.bindImpl, held]
      rw [pgCall, memoryCall, missing, absent]
      exact ⟨rfl, refines⟩
  | some fire =>
      rw [found] at held
      have condition := agrees fire found
      have fences : memory.fenceHolds fire.scheduleId (some fence) = pg.leased.fenceIsCurrent fire.scheduleId fence :=
        fenceIsCurrent_agrees refines fire.scheduleId fence
      rw [pgCall, memoryCall, PgScheduleStore.bindAdmission, InMemoryScheduleStore.bindAdmission,
        PgScheduleStore.bindImpl, InMemoryScheduleStore.bindImpl, found, held]
      dsimp only
      rw [fences]
      cases child : fire.admittedChildTaskId with
      | some bound =>
          rw [child] at condition
          dsimp only at condition ⊢
          by_cases same : bound = binding.childTaskId
          · rw [if_pos same, if_pos same, PgScheduleStore.fenceHolds]
            cases pg.leased.fenceIsCurrent fire.scheduleId fence with
            | true => exact ⟨rfl, refines⟩
            | false => exact ⟨rfl, refines⟩
          · rw [if_neg same, if_neg same, condition same, if_pos rfl]
            cases Timestamp.parse binding.atMs with
            | none => exact ⟨rfl, refines⟩
            | some createdAt =>
                refine ⟨rfl, { refines with observations := ?_ }⟩
                simp only [answered, onLeased, InMemoryScheduleStore.recordObservation, List.map_append,
                  refines.observations]
                rfl
      | none =>
          rw [child] at condition
          dsimp only at condition ⊢
          obtain ⟨timed, admitted⟩ := condition
          obtain ⟨admittedAt, parsed⟩ := Option.ne_none_iff_exists'.mp timed
          rw [parsed, PgScheduleStore.fenceHolds]
          cases current : pg.leased.fenceIsCurrent fire.scheduleId fence with
          | false => exact ⟨rfl, refines⟩
          | true =>
              rw [if_pos rfl, if_pos rfl]
              dsimp only
              rw [if_pos (admitted current)]
              refine ⟨rfl, { refines with fires := ?_ }⟩
              intro other
              simp only [answered, onLeased, JsMap.get?_set, refines.fires]

theorem transition_agrees (observationId otherId : Id) {key : JsString} {target : FireState} {fence : LeaseFence}
    (agrees : MoveAgrees pg key target fence) :
    Agree (pgCall observationId pg (.transition key target fence))
      (memoryCall otherId memory (.transition key target fence)) := by
  have held := refines.fires key
  cases found : pg.leased.scheduleFires.get? key with
  | none =>
      rw [found] at held
      have missing : pg.leased.transition key target fence = (.error (.store (js "no such fire")), pg.leased) := by
        simp only [PgScheduleStore.transition, PgScheduleStore.transitionImpl, found]
      have absent : memory.transition key target fence = (.error (.store (js "no such fire")), memory) := by
        simp only [InMemoryScheduleStore.transition, InMemoryScheduleStore.transitionImpl, held]
      rw [pgCall, memoryCall, missing, absent]
      exact ⟨rfl, refines⟩
  | some fire =>
      rw [found] at held
      have condition := agrees fire found
      have fences : memory.fenceHolds fire.scheduleId (some fence) = pg.leased.fenceIsCurrent fire.scheduleId fence :=
        fenceIsCurrent_agrees refines fire.scheduleId fence
      rw [pgCall, memoryCall, PgScheduleStore.transition, InMemoryScheduleStore.transition,
        PgScheduleStore.transitionImpl, InMemoryScheduleStore.transitionImpl, found, held]
      dsimp only
      rw [fences, PgScheduleStore.fenceHolds]
      cases current : pg.leased.fenceIsCurrent fire.scheduleId fence with
      | false => exact ⟨rfl, refines⟩
      | true =>
          rw [if_pos rfl, if_pos rfl]
          by_cases leaves : fire.admittedChildTaskId ≠ none ∧ target ≠ .admitted
          · rw [if_pos leaves, if_neg (by rintro (free | stays); exacts [leaves.1 free, leaves.2 stays])]
            exact ⟨rfl, refines⟩
          · have moves : fire.admittedChildTaskId = none ∨ target = .admitted := by
              by_contra neither
              exact leaves (not_or.mp neither)
            have checked : target = .admitted ↔ fire.admittedChildTaskId ≠ none := by
              constructor
              · intro stays free
                exact condition current free stays
              · intro bound
                exact moves.resolve_left bound
            rw [if_neg leaves, if_pos moves, if_pos checked]
            refine ⟨rfl, { refines with fires := ?_ }⟩
            intro other
            simp only [answered, onLeased, JsMap.get?_set, refines.fires]

/-- A claim that both stores grant with one epoch leaves the same lease in both. -/
theorem granted_agrees (scheduleId : Id) {owner : JsString} (epoch : Nat) (acquiredAt expiresAt : Timestamp)
    (nonempty : owner ≠ []) {extra : List ScheduleObservation} (quiet : extra = []) :
    Agree
      (answered .lease (onLeased pg (.ok (some ⟨scheduleId, owner, epoch, acquiredAt, expiresAt, nonempty⟩),
        { pg.leased with
          scheduleLeases := pg.leased.scheduleLeases.set scheduleId ⟨owner, epoch, acquiredAt, expiresAt⟩ })))
      (answered .lease (.ok (some ⟨scheduleId, owner, epoch, acquiredAt, expiresAt, nonempty⟩), { memory with
        leases := memory.leases.set scheduleId ⟨scheduleId, owner, epoch, acquiredAt, expiresAt, nonempty⟩
        observations := memory.observations ++ extra })) := by
  subst quiet
  refine ⟨rfl, { refines with leases := ?_, leaseIds := ?_, observations := ?_ }⟩
  · intro other
    simp only [answered, onLeased, JsMap.get?_set, ← refines.leases]
    split
    · rfl
    · rfl
  · intro other lease there
    simp only [answered, JsMap.get?_set] at there
    split at there
    · next same =>
        cases there
        exact same
    · exact refines.leaseIds other lease there
  · simp only [answered, List.append_nil]
    exact refines.observations

theorem claimLease_agrees (observationId otherId : Id) {scheduleId : Id} {owner : JsString} {nowMs ttlMs : Int}
    (agrees : ClaimAgrees pg scheduleId owner nowMs ttlMs) :
    Agree (pgCall observationId pg (.claimLease scheduleId owner nowMs ttlMs))
      (memoryCall otherId memory (.claimLease scheduleId owner nowMs ttlMs)) := by
  obtain ⟨timed, expires, condition⟩ := agrees
  obtain ⟨acquiredAt, acquired⟩ := Option.ne_none_iff_exists'.mp timed
  obtain ⟨expiresAt, expiry⟩ := Option.ne_none_iff_exists'.mp expires
  have nowIs : acquiredAt.ms = nowMs := Timestamp.parse_ms acquired
  have parsed : ∀ epoch, (nonempty : owner ≠ []) →
      ScheduleLease.parse scheduleId owner epoch nowMs (nowMs + ttlMs) =
        some ⟨scheduleId, owner, epoch, acquiredAt, expiresAt, nonempty⟩ := by
    intro epoch nonempty
    rw [ScheduleLease.parse, acquired, expiry]
    exact dif_pos nonempty
  have readBack : ∀ epoch, (nonempty : owner ≠ []) →
      PgScheduleStore.LeaseRow.parse scheduleId ⟨owner, epoch, acquiredAt, expiresAt⟩ =
        some ⟨scheduleId, owner, epoch, acquiredAt, expiresAt, nonempty⟩ := fun _ nonempty => dif_pos nonempty
  have held := refines.leases scheduleId
  rw [pgCall, memoryCall, PgScheduleStore.claimLease, InMemoryScheduleStore.claimLease, acquired, expiry]
  dsimp only
  cases current : memory.leases.get? scheduleId with
  | none =>
      rw [current] at held
      rw [← held] at condition ⊢
      simp only [InMemoryScheduleStore.heldByOther, InMemoryScheduleStore.nextEpoch, parsed 0 condition,
        PgScheduleStore.claimedRow, Option.map_none, Bool.false_eq_true, if_false, Nat.zero_le, if_true,
        readBack 0 condition]
      exact granted_agrees refines scheduleId 0 acquiredAt expiresAt condition rfl
  | some lease =>
      rw [current] at held
      rw [← held] at condition ⊢
      simp only [Option.map_some, leaseRow] at condition ⊢
      by_cases own : lease.owner = owner
      · rw [if_pos own] at condition
        subst own
        have renewed : PgScheduleStore.claimedRow (some (leaseRow lease)) lease.owner acquiredAt expiresAt =
            some ⟨lease.owner, lease.epoch + 1, acquiredAt, expiresAt⟩ := if_pos (.inr rfl)
        have mine : InMemoryScheduleStore.heldByOther (some lease) lease.owner nowMs = false := by
          simp only [InMemoryScheduleStore.heldByOther, ne_eq, not_true_eq_false, and_false, decide_false]
        rw [leaseRow] at renewed
        simp only [renewed, mine, InMemoryScheduleStore.nextEpoch, parsed _ lease.ownerNonempty,
          Bool.false_eq_true, if_false, Nat.succ_le_of_lt condition, if_true, readBack _ lease.ownerNonempty]
        exact granted_agrees refines scheduleId (lease.epoch + 1) acquiredAt expiresAt lease.ownerNonempty
          (if_neg fun taken => taken.2 rfl)
      · rw [if_neg own] at condition
        have refused : PgScheduleStore.claimedRow (some (leaseRow lease)) owner acquiredAt expiresAt = none := by
          refine if_neg ?_
          rintro (expired | same)
          · rw [nowIs] at expired
            exact absurd condition (not_lt.mpr expired)
          · exact own same
        have theirs : InMemoryScheduleStore.heldByOther (some lease) owner nowMs = true :=
          decide_eq_true ⟨condition, own⟩
        rw [leaseRow] at refused
        simp only [refused, theirs, if_true]
        exact ⟨rfl, refines⟩

theorem releaseLease_agrees (observationId otherId scheduleId : Id) (owner : JsString) (epoch : Nat) :
    Agree (pgCall observationId pg (.releaseLease scheduleId owner epoch))
      (memoryCall otherId memory (.releaseLease scheduleId owner epoch)) := by
  rw [pgCall, memoryCall, PgScheduleStore.releaseLease, InMemoryScheduleStore.releaseLease,
    fenceIsCurrent_agrees refines]
  cases pg.leased.fenceIsCurrent scheduleId ⟨owner, epoch⟩ with
  | false => exact ⟨rfl, refines⟩
  | true =>
      refine ⟨rfl, { refines with leases := ?_, leaseIds := ?_ }⟩
      · intro other
        simp only [if_true, JsMap.get?_delete, ← refines.leases]
        split
        · rfl
        · rfl
      · intro other lease there
        simp only [if_true, JsMap.get?_delete] at there
        split at there
        · cases there
        · exact refines.leaseIds other lease there

/-- Both stores answer an agreeable call alike, and go on holding the same. -/
theorem call_agrees (observationId otherId : Id) {call : StoreCall} (agreeable : Agreeable pg call) :
    Agree (pgCall observationId pg call) (memoryCall otherId memory call) := by
  obtain ⟨-, condition⟩ := agreeable
  cases call with
  | upsertSpecVersion spec => exact upsertSpecVersion_agrees refines observationId otherId condition
  | setState next => exact setState_agrees refines observationId otherId condition.1 condition.2
  | createOrGetFire input now => exact createOrGetFire_agrees refines observationId otherId condition
  | bindAdmission key binding fence => exact bindAdmission_agrees refines observationId otherId condition.2
  | transition key target fence => exact transition_agrees refines observationId otherId condition.2
  | claimLease scheduleId owner nowMs ttlMs => exact claimLease_agrees refines observationId otherId condition
  | releaseLease scheduleId owner epoch =>
      exact releaseLease_agrees refines observationId otherId scheduleId owner epoch
  | admitted task => exact ⟨rfl, { refines with fires := refines.fires }⟩

end

/-! ## Sequences of calls -/

/-- A call with the identifiers that `randomUUID` gives in either store. -/
structure Called where
  call : StoreCall
  pgObservation : Id
  memoryObservation : Id

/-- Every call of the sequence is agreeable when its turn comes. -/
def AllAgreeable (pg : PgSchedules) : List Called → Prop
  | [] => True
  | called :: rest =>
      Agreeable pg called.call ∧ AllAgreeable (pgCall called.pgObservation pg called.call).2 rest

def decideAllAgreeable (pg : PgSchedules) : (calls : List Called) → Decidable (AllAgreeable pg calls)
  | [] => .isTrue trivial
  | called :: rest =>
      have := decideAllAgreeable (pgCall called.pgObservation pg called.call).2 rest
      inferInstanceAs (Decidable (Agreeable pg called.call ∧ _))

instance (pg : PgSchedules) (calls : List Called) : Decidable (AllAgreeable pg calls) :=
  decideAllAgreeable pg calls

/-- The stores hold the same before the sequence and after each of its calls, and answer each call alike. -/
def AgreeThroughout (pg : PgSchedules) (memory : InMemoryScheduleStore) : List Called → Prop
  | [] => Refines pg memory
  | called :: rest =>
      Refines pg memory ∧
        SameOutcome (pgCall called.pgObservation pg called.call).1
          (memoryCall called.memoryObservation memory called.call).1 ∧
        AgreeThroughout (pgCall called.pgObservation pg called.call).2
          (memoryCall called.memoryObservation memory called.call).2 rest

theorem agreeThroughout_of_refines {pg : PgSchedules} {memory : InMemoryScheduleStore} {calls : List Called}
    (refines : Refines pg memory) (agreeable : AllAgreeable pg calls) : AgreeThroughout pg memory calls := by
  induction calls generalizing pg memory with
  | nil => exact refines
  | cons called rest ih =>
      obtain ⟨now, later⟩ := agreeable
      have agree := call_agrees refines called.pgObservation called.memoryObservation now
      exact ⟨refines, agree.outcome, ih agree.refines later⟩

/-- From empty stores, along every sequence of agreeable calls, the production store and the in-memory store
answer alike and hold the same. -/
theorem stores_agree_throughout {accounts : Accounts} {taskAdmissions : List Id} {calls : List Called}
    (agreeable : AllAgreeable (.empty accounts taskAdmissions) calls) :
    AgreeThroughout (.empty accounts taskAdmissions) .empty calls :=
  agreeThroughout_of_refines (refines_empty accounts taskAdmissions) agreeable

/-! ## A schedule that both stores serve alike -/

def sampleSchedule : Id := ⟨js "c0de0017-0000-4000-8000-000000000001", by decide⟩

def sampleTenant : Id := ⟨js "c0de0017-0000-4000-8000-000000000002", by decide⟩

def sampleService : Id := ⟨js "c0de0017-0000-4000-8000-000000000003", by decide⟩

def sampleOwner : Id := ⟨js "c0de0017-0000-4000-8000-000000000004", by decide⟩

def sampleFireIdentity : Id := ⟨js "c0de0017-0000-4000-8000-000000000005", by decide⟩

def sampleChild : Id := ⟨js "c0de0017-0000-4000-8000-000000000006", by decide⟩

theorem sampleVersion_nonempty : js "v1" ≠ [] := by decide

theorem sampleInterval_bounds : 1 ≤ 60 ∧ 60 ≤ 1440 := by decide

theorem sampleName_bounds : 1 ≤ (js "hourly").length ∧ (js "hourly").length ≤ 200 := by decide

theorem sampleTimezone_nonempty : js "UTC" ≠ [] := by decide

theorem sampleConcurrency_positive : 1 ≤ 1 := le_refl 1

def sampleSpec : PersistedScheduleSpec where
  scheduleId := sampleSchedule
  version := js "v1"
  tenant := ⟨sampleTenant⟩
  principal := ⟨sampleService, .service⟩
  owner := ⟨sampleOwner, .human⟩
  name := js "hourly"
  timezone := js "UTC"
  calendar := .everyNMinutes 60 sampleInterval_bounds
  missedRunPolicy := .runOnce
  overlapPolicy := .forbid
  nonexistentTimePolicy := .shiftForward
  maxBackfillRuns := 1
  perScheduleConcurrency := 1
  enabledForProduction := true
  createdAt := .epoch
  createdBy := sampleOwner
  versionNonempty := sampleVersion_nonempty
  nameBounds := sampleName_bounds
  timezoneNonempty := sampleTimezone_nonempty
  concurrencyPositive := sampleConcurrency_positive

def sampleAccounts : Accounts :=
  ⟨[sampleTenant], [sampleService, sampleOwner], [(sampleTenant, sampleService)]⟩

def sampleLifecycle : PersistedScheduleState :=
  ⟨sampleSchedule, .enabled, js "v1", .epoch, sampleOwner, sampleVersion_nonempty⟩

def sampleName : FireName := ⟨sampleSchedule, js "v1", js "everyNMinutes/60@0"⟩

def sampleInput : FireInput :=
  ⟨sampleName.key, sampleSchedule, js "v1", js "everyNMinutes/60@0", sampleFireIdentity, 0, 0⟩

def sampleFence : LeaseFence := ⟨js "worker", 0⟩

/-- A schedule is defined and enabled, and a worker takes one fire through its admission. -/
def sampleCalls : List Called :=
  [.upsertSpecVersion sampleSpec, .setState sampleLifecycle, .createOrGetFire sampleInput .epoch,
    .claimLease sampleSchedule (js "worker") 0 60000, .admitted sampleChild,
    .bindAdmission sampleName.key ⟨sampleFireIdentity, sampleChild, 1⟩ sampleFence,
    .transition sampleName.key .admitted sampleFence,
    .releaseLease sampleSchedule (js "worker") 0].map fun call => ⟨call, sampleSchedule, sampleTenant⟩

theorem sample_stores_agree :
    AllAgreeable (.empty sampleAccounts []) sampleCalls ∧
      AgreeThroughout (.empty sampleAccounts []) .empty sampleCalls := by
  have agreeable : AllAgreeable (.empty sampleAccounts []) sampleCalls := by decide +kernel
  exact ⟨agreeable, stores_agree_throughout agreeable⟩

/-- An accepted specification written twice: the in-memory store takes the repeat, the production store refuses it. -/
theorem repeated_spec_diverges {pg : PgSchedules} {memory : InMemoryScheduleStore} (refines : Refines pg memory)
    (observationId otherId : Id) {spec : PersistedScheduleSpec}
    (stored : pg.scheduleSpecs.get? (spec.scheduleId, spec.version) = some spec) :
    ¬ SameOutcome (pgCall observationId pg (.upsertSpecVersion spec)).1
      (memoryCall otherId memory (.upsertSpecVersion spec)).1 := by
  have held := refines.specs spec.scheduleId spec.version
  rw [stored] at held
  intro same
  rw [pgCall, memoryCall, PgSchedules.upsertSpecVersion, InMemoryScheduleStore.upsertSpecVersion, stored, held] at same
  dsimp only at same
  rw [if_pos rfl] at same
  exact same

/-- The two stores part on the second of two identical definitions of a schedule. -/
theorem identical_upserts_part :
    ¬ AgreeThroughout (.empty sampleAccounts []) .empty
      [⟨.upsertSpecVersion sampleSpec, sampleSchedule, sampleTenant⟩,
        ⟨.upsertSpecVersion sampleSpec, sampleSchedule, sampleTenant⟩] := by
  rintro ⟨-, -, refines, same, -⟩
  refine repeated_spec_diverges refines sampleSchedule sampleTenant ?_ same
  decide +kernel

end KernelJson.Scheduler.StoreRefinement
