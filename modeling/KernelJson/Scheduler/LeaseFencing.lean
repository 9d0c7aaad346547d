import KernelJson.Foundation.FencedRegister
import KernelJson.Scheduler.PgStore

/-!
# Lease fencing of one schedule

A run is any list of claims, releases, binds and transitions on one schedule.
Both stores move the schedule's lease row as a fenced register, so the
register's theory says what a fence is worth: it is fresh, and only the newest
passes, in every run that never claims a released row again.  Such a claim
starts the epochs anew, and the fence of a paused holder becomes current.
-/

namespace KernelJson.Scheduler.LeaseFencing

open Contracts.Common
open Foundation
open Foundation.FencedRegister
open Foundation.JsText
open Scheduler.FireWindows
open Scheduler.PgStore
open Scheduler.ScheduleStore

/-! ## Runs -/

/-- One call on a schedule; identifiers of observations come from the caller. -/
inductive LeaseCall where
  | claimLease (observationId : Id) (owner : JsString) (nowMs ttlMs : Int)
  | releaseLease (owner : JsString) (epoch : Nat)
  | bindAdmission (observationId : Id) (key : JsString) (binding : AdmissionBinding) (fence : LeaseFence)
  | transition (key : JsString) (target : FireState) (fence : LeaseFence)

def LeaseCall.claims : LeaseCall → Bool
  | .claimLease _ _ _ _ => true
  | _ => false

/-- What fencing needs to see of a store: the lease row of a schedule, the fires, and the calls. -/
structure Backend (Store : Type) where
  leaseFence : Store → Id → Option LeaseFence
  fires : Store → JsMap JsString ScheduleFire
  claimLease : Store → Id → Id → JsString → Int → Int →
    Except StoreFault (Option ScheduleLease) × Store
  releaseLease : Store → Id → JsString → Nat → Store
  bindAdmission : Store → Id → JsString → AdmissionBinding → LeaseFence →
    Except StoreFault (ScheduleFire × Bool) × Store
  transition : Store → JsString → FireState → LeaseFence → Except StoreFault ScheduleFire × Store

def inMemory : Backend InMemoryScheduleStore where
  leaseFence := fun store scheduleId => (store.leases.get? scheduleId).map ScheduleLease.fence
  fires := InMemoryScheduleStore.fires
  claimLease := InMemoryScheduleStore.claimLease
  releaseLease := InMemoryScheduleStore.releaseLease
  bindAdmission := InMemoryScheduleStore.bindAdmission
  transition := InMemoryScheduleStore.transition

def postgres : Backend PgScheduleStore where
  leaseFence := fun store scheduleId => (store.scheduleLeases.get? scheduleId).map LeaseRow.fence
  fires := PgScheduleStore.scheduleFires
  claimLease := fun store _ scheduleId owner nowMs ttlMs => store.claimLease scheduleId owner nowMs ttlMs
  releaseLease := PgScheduleStore.releaseLease
  bindAdmission := PgScheduleStore.bindAdmission
  transition := PgScheduleStore.transition

/-- A store together with the fences that successful claims on the schedule returned, newest first. -/
structure History (Store : Type) where
  store : Store
  issued : List LeaseFence

section Runs

variable {Store : Type} (backend : Backend Store) (scheduleId : Id)

def History.call (history : History Store) : LeaseCall → History Store
  | .claimLease observationId owner nowMs ttlMs =>
      let claimed := backend.claimLease history.store observationId scheduleId owner nowMs ttlMs
      match claimed.1 with
      | .ok (some lease) => ⟨claimed.2, lease.fence :: history.issued⟩
      | _ => ⟨claimed.2, history.issued⟩
  | .releaseLease owner epoch => ⟨backend.releaseLease history.store scheduleId owner epoch, history.issued⟩
  | .bindAdmission observationId key binding fence =>
      ⟨(backend.bindAdmission history.store observationId key binding fence).2, history.issued⟩
  | .transition key target fence => ⟨(backend.transition history.store key target fence).2, history.issued⟩

def History.run (history : History Store) (calls : List LeaseCall) : History Store :=
  calls.foldl (History.call backend scheduleId) history

/-- The call claims the schedule although its lease row is gone and fences were issued before. -/
def History.Reclaims (history : History Store) (call : LeaseCall) : Prop :=
  call.claims = true ∧ backend.leaseFence history.store scheduleId = none ∧ history.issued ≠ []

/-- No call of the run reclaims the schedule. -/
def History.NeverReclaims : History Store → List LeaseCall → Prop
  | _, [] => True
  | history, call :: rest =>
      ¬ history.Reclaims backend scheduleId call ∧
        NeverReclaims (history.call backend scheduleId call) rest

def History.register (history : History Store) : Register LeaseFence :=
  ⟨backend.leaseFence history.store scheduleId, history.issued⟩

/-- A protected mutation of the schedule's fires under this fence fails and changes no fire. -/
def Rejected (store : Store) (fence : LeaseFence) : Prop :=
  ∀ key fire, (backend.fires store).get? key = some fire → fire.scheduleId = scheduleId →
    (∀ observationId binding, (∃ fault, (backend.bindAdmission store observationId key binding fence).1 =
        .error fault) ∧
      backend.fires (backend.bindAdmission store observationId key binding fence).2 = backend.fires store) ∧
    ∀ target, (backend.transition store key target fence).1 = .error (.staleFence scheduleId) ∧
      backend.fires (backend.transition store key target fence).2 = backend.fires store

/-- Every claim returned a new fence, and all but the newest are rejected. -/
structure Monotone (history : History Store) : Prop where
  fresh : history.issued.Nodup
  superseded : ∀ newest older, history.issued = newest :: older →
    ∀ fence ∈ older, Rejected backend scheduleId history.store fence

/-! ## Stores as fenced registers -/

/-- The answer of a claim against the fence it installed. -/
def Answers (answer : Except StoreFault (Option ScheduleLease)) (fence : LeaseFence) : Prop :=
  (∃ lease, answer = .ok (some lease) ∧ lease.fence = fence) ∨ ∀ lease, answer ≠ .ok (some lease)

/-- What a store owes to the theory of fenced registers. -/
structure Backend.Refines : Prop where
  claim : ∀ {store observationId owner nowMs ttlMs answer after},
    backend.claimLease store observationId scheduleId owner nowMs ttlMs = (answer, after) →
      (∃ fence, backend.leaseFence after scheduleId = some fence ∧ Answers answer fence ∧
          fence.epoch = followingEpoch LeaseFence.epoch (backend.leaseFence store scheduleId)) ∨
        ((∀ lease, answer ≠ .ok (some lease)) ∧ after = store)
  release : ∀ store owner epoch,
    backend.leaseFence (backend.releaseLease store scheduleId owner epoch) scheduleId = none ∨
      backend.releaseLease store scheduleId owner epoch = store
  bind : ∀ store observationId key binding fence,
    backend.leaseFence (backend.bindAdmission store observationId key binding fence).2 scheduleId =
      backend.leaseFence store scheduleId
  transition : ∀ store key target fence,
    backend.leaseFence (backend.transition store key target fence).2 scheduleId =
      backend.leaseFence store scheduleId
  rejects : ∀ store fence, backend.leaseFence store scheduleId ≠ some fence →
    Rejected backend scheduleId store fence

variable {backend scheduleId}

/-- Every call moves the lease row as a fenced register. -/
theorem Backend.Refines.call (refines : backend.Refines scheduleId) (history : History Store)
    (call : LeaseCall) :
    Move LeaseFence.epoch (history.register backend scheduleId)
      ((history.call backend scheduleId call).register backend scheduleId) := by
  cases call with
  | claimLease observationId owner nowMs ttlMs =>
      cases ran : backend.claimLease history.store observationId scheduleId owner nowMs ttlMs with
      | mk answer after =>
          simp only [History.call, History.register, ran]
          rcases refines.claim ran with
            ⟨fence, installed, ⟨lease, rfl, same⟩ | refused, advances⟩ | ⟨refused, rfl⟩
          · dsimp only
            rw [installed, same]
            exact .claim fence advances
          · split
            · next lease => exact absurd rfl (refused lease)
            · rw [installed]
              exact .unanswered fence advances
          · split
            · next lease => exact absurd rfl (refused lease)
            · exact .stay
  | releaseLease owner epoch =>
      unfold History.call History.register
      dsimp only
      rcases refines.release history.store owner epoch with dropped | same
      · rw [dropped]
        exact .drop
      · rw [same]
        exact .stay
  | bindAdmission observationId key binding fence =>
      unfold History.call History.register
      dsimp only
      rw [refines.bind]
      exact .stay
  | transition key target fence =>
      unfold History.call History.register
      dsimp only
      rw [refines.transition]
      exact .stay

/-- Only a claim fills an empty lease row. -/
theorem Backend.Refines.claimsOnly (refines : backend.Refines scheduleId) {history : History Store}
    {call : LeaseCall} (other : call.claims = false)
    (empty : backend.leaseFence history.store scheduleId = none) :
    backend.leaseFence (history.call backend scheduleId call).store scheduleId = none := by
  cases call with
  | claimLease observationId owner nowMs ttlMs => cases other
  | releaseLease owner epoch =>
      rcases refines.release history.store owner epoch with dropped | same
      · exact dropped
      · simpa only [History.call, same] using empty
  | bindAdmission observationId key binding fence =>
      simpa only [History.call, refines.bind] using empty
  | transition key target fence =>
      simpa only [History.call, refines.transition] using empty

/-- Reclaiming the register takes a reclaiming call. -/
theorem Backend.Refines.reclaims (refines : backend.Refines scheduleId) {history : History Store}
    {call : LeaseCall}
    (reclaims : FencedRegister.Reclaims (history.register backend scheduleId)
      ((history.call backend scheduleId call).register backend scheduleId)) :
    history.Reclaims backend scheduleId call := by
  obtain ⟨empty, issued, installed⟩ := reclaims
  refine ⟨?_, empty, issued⟩
  by_contra other
  exact installed (refines.claimsOnly (Bool.eq_false_iff.mpr other) empty)

theorem Backend.Refines.run_fenced (refines : backend.Refines scheduleId) {history : History Store}
    {calls : List LeaseCall}
    (fenced : Fenced LeaseFence.epoch (history.register backend scheduleId))
    (never : history.NeverReclaims backend scheduleId calls) :
    Fenced LeaseFence.epoch ((history.run backend scheduleId calls).register backend scheduleId) := by
  induction calls generalizing history with
  | nil => exact fenced
  | cons call rest ih =>
      obtain ⟨here, later⟩ := never
      exact ih ((refines.call history call).fenced fenced fun reclaims => here (refines.reclaims reclaims)) later

/-- A fenced register makes the history monotone. -/
theorem Backend.Refines.monotone (refines : backend.Refines scheduleId) {history : History Store}
    (fenced : Fenced LeaseFence.epoch (history.register backend scheduleId)) :
    Monotone backend scheduleId history where
  fresh := fenced.nodup
  superseded := by
    intro newest older issued fence found
    refine refines.rejects history.store fence fun current => ?_
    have ordered : Fenced LeaseFence.epoch ⟨some fence, newest :: older⟩ := by
      rw [← issued, ← current]
      exact fenced
    have same := ordered.current_newest rfl (List.mem_cons_of_mem _ found)
    have distinct := (issued ▸ fenced.nodup : (newest :: older).Nodup)
    exact (List.nodup_cons.mp distinct).1 (same ▸ found)

/-- A run from a schedule that was never claimed is monotone if it never reclaims. -/
theorem Backend.Refines.run_monotone (refines : backend.Refines scheduleId) {store : Store}
    {calls : List LeaseCall} (never : History.NeverReclaims backend scheduleId ⟨store, []⟩ calls) :
    Monotone backend scheduleId (History.run backend scheduleId ⟨store, []⟩ calls) :=
  refines.monotone (refines.run_fenced (.fresh _) never)

end Runs

/-! ## The in-memory store -/

section InMemory

open InMemoryScheduleStore

theorem parse_fence {scheduleId : Id} {owner : JsString} {epoch : Nat} {acquiredAt expiresAt : Int}
    {lease : ScheduleLease}
    (parsed : ScheduleLease.parse scheduleId owner epoch acquiredAt expiresAt = some lease) :
    lease.fence = ⟨owner, epoch⟩ := by
  unfold ScheduleLease.parse at parsed
  simp only [Option.bind_eq_bind, Option.bind_eq_some_iff] at parsed
  obtain ⟨acquired, -, expires, -, made⟩ := parsed
  split at made
  · cases made
    rfl
  · cases made

theorem nextEpoch_eq (current : Option ScheduleLease) :
    nextEpoch current = followingEpoch LeaseFence.epoch (current.map ScheduleLease.fence) := by
  cases current <;> rfl

/-- A claim installs and returns the following fence, or changes nothing. -/
theorem inMemory_claim {store after : InMemoryScheduleStore} {observationId scheduleId : Id}
    {owner : JsString} {nowMs ttlMs : Int} {answer : Except StoreFault (Option ScheduleLease)}
    (ran : store.claimLease observationId scheduleId owner nowMs ttlMs = (answer, after)) :
    (∃ fence, inMemory.leaseFence after scheduleId = some fence ∧ Answers answer fence ∧
        fence.epoch = followingEpoch LeaseFence.epoch (inMemory.leaseFence store scheduleId)) ∨
      ((∀ lease, answer ≠ .ok (some lease)) ∧ after = store) := by
  unfold claimLease at ran
  dsimp only at ran
  split at ran
  · obtain ⟨rfl, rfl⟩ := Prod.mk.inj ran
    exact Or.inr ⟨fun _ impossible => (by cases impossible), rfl⟩
  · split at ran
    · obtain ⟨rfl, rfl⟩ := Prod.mk.inj ran
      exact Or.inr ⟨fun _ impossible => (by cases impossible), rfl⟩
    · next lease parsed =>
        obtain ⟨rfl, rfl⟩ := Prod.mk.inj ran
        refine Or.inl ⟨lease.fence, by simp [inMemory], Or.inl ⟨lease, rfl, rfl⟩, ?_⟩
        rw [parse_fence parsed]
        exact nextEpoch_eq _

theorem bindAdmission_leases (store : InMemoryScheduleStore) (observationId : Id) (key : JsString)
    (binding : AdmissionBinding) (fence : LeaseFence) :
    (store.bindAdmission observationId key binding fence).2.leases = store.leases := by
  rcases bindImpl_cases (Prod.eta (store.bindAdmission observationId key binding fence)).symm with
    ⟨-, leases⟩ | ⟨fire, admittedAt, -, -, -, -, after⟩
  · exact leases
  · rw [after]

theorem transition_leases (store : InMemoryScheduleStore) (key : JsString) (target : FireState)
    (fence : LeaseFence) : (store.transition key target fence).2.leases = store.leases := by
  rcases transitionImpl_cases (Prod.eta (store.transition key target fence)).symm with
    after | ⟨fire, -, -, -, after⟩
  · rw [after]
  · rw [after]

theorem fenceIsCurrent_iff (store : InMemoryScheduleStore) (scheduleId : Id) (fence : LeaseFence) :
    store.fenceIsCurrent scheduleId fence = true ↔ inMemory.leaseFence store scheduleId = some fence := by
  unfold fenceIsCurrent inMemory
  dsimp only
  cases store.leases.get? scheduleId with
  | none => simp
  | some lease =>
      simp only [decide_eq_true_eq, Option.map_some, Option.some.injEq]
      constructor
      · rintro ⟨owner, epoch⟩
        cases fence
        cases owner
        cases epoch
        rfl
      · rintro rfl
        exact ⟨rfl, rfl⟩

theorem releaseLease_leaseFence (store : InMemoryScheduleStore) (scheduleId : Id) (owner : JsString)
    (epoch : Nat) :
    inMemory.leaseFence (store.releaseLease scheduleId owner epoch) scheduleId = none ∨
      store.releaseLease scheduleId owner epoch = store := by
  unfold releaseLease
  split
  · exact Or.inl (by simp [inMemory])
  · exact Or.inr rfl

theorem inMemory_rejects (scheduleId : Id) (store : InMemoryScheduleStore) (fence : LeaseFence)
    (stale : inMemory.leaseFence store scheduleId ≠ some fence) :
    Rejected inMemory scheduleId store fence := by
  have fails : store.fenceIsCurrent scheduleId fence = false := by
    rw [← Bool.not_eq_true]
    exact fun current => stale ((fenceIsCurrent_iff store scheduleId fence).mp current)
  intro key fire found mine
  have found' : store.fires.get? key = some fire := found
  refine ⟨fun observationId binding => ?_, fun target => ?_⟩
  · simp only [inMemory, bindAdmission, bindImpl, found', fenceHolds, mine, fails]
    exact ⟨⟨_, rfl⟩, rfl⟩
  · simp only [inMemory, transition, transitionImpl, found', fenceHolds, mine, fails]
    exact ⟨rfl, rfl⟩

theorem inMemory_refines (scheduleId : Id) : inMemory.Refines scheduleId where
  claim := inMemory_claim
  release := fun store owner epoch => releaseLease_leaseFence store scheduleId owner epoch
  bind := fun store observationId key binding fence => by
    simp only [inMemory, bindAdmission_leases]
  transition := fun store key target fence => by
    simp only [inMemory, transition_leases]
  rejects := inMemory_rejects scheduleId

end InMemory

/-! ## The PostgreSQL store -/

section Postgres

open PgScheduleStore

theorem claimedRow_fence {current : Option LeaseRow} {owner : JsString} {acquiredAt expiresAt : Timestamp}
    {row : LeaseRow} (claimed : claimedRow current owner acquiredAt expiresAt = some row) :
    row.fence = ⟨owner, followingEpoch LeaseFence.epoch (current.map LeaseRow.fence)⟩ := by
  unfold claimedRow at claimed
  cases current with
  | none =>
      cases claimed
      rfl
  | some previous =>
      dsimp only at claimed
      split at claimed
      · cases claimed
        rfl
      · cases claimed

theorem rowParse_fence {scheduleId : Id} {row : LeaseRow} {lease : ScheduleLease}
    (parsed : LeaseRow.parse scheduleId row = some lease) : lease.fence = row.fence := by
  unfold LeaseRow.parse at parsed
  split at parsed
  · cases parsed
    rfl
  · cases parsed

/-- A claim installs the following fence, and returns it unless the schema rejects the row; or
it changes nothing. -/
theorem postgres_claim {store after : PgScheduleStore} {scheduleId : Id} {owner : JsString}
    {nowMs ttlMs : Int} {answer : Except StoreFault (Option ScheduleLease)}
    (ran : store.claimLease scheduleId owner nowMs ttlMs = (answer, after)) :
    (∃ fence, postgres.leaseFence after scheduleId = some fence ∧ Answers answer fence ∧
        fence.epoch = followingEpoch LeaseFence.epoch (postgres.leaseFence store scheduleId)) ∨
      ((∀ lease, answer ≠ .ok (some lease)) ∧ after = store) := by
  unfold claimLease at ran
  dsimp only at ran
  split at ran
  · next acquiredAt expiresAt acquired expires =>
      split at ran
      · obtain ⟨rfl, rfl⟩ := Prod.mk.inj ran
        exact Or.inr ⟨fun _ impossible => (by cases impossible), rfl⟩
      · next row claimed =>
          have advances := congrArg LeaseFence.epoch (claimedRow_fence claimed)
          split at ran
          · split at ran
            · next lease parsed =>
                obtain ⟨rfl, rfl⟩ := Prod.mk.inj ran
                exact Or.inl ⟨row.fence, by simp [postgres], Or.inl ⟨lease, rfl, rowParse_fence parsed⟩,
                  advances⟩
            · obtain ⟨rfl, rfl⟩ := Prod.mk.inj ran
              exact Or.inl ⟨row.fence, by simp [postgres],
                Or.inr fun _ impossible => (by cases impossible), advances⟩
          · obtain ⟨rfl, rfl⟩ := Prod.mk.inj ran
            exact Or.inr ⟨fun _ impossible => (by cases impossible), rfl⟩
  · obtain ⟨rfl, rfl⟩ := Prod.mk.inj ran
    exact Or.inr ⟨fun _ impossible => (by cases impossible), rfl⟩

theorem pgBindAdmission_leases (store : PgScheduleStore) (observationId : Id) (key : JsString)
    (binding : AdmissionBinding) (fence : LeaseFence) :
    (store.bindAdmission observationId key binding fence).2.scheduleLeases = store.scheduleLeases := by
  unfold bindAdmission bindImpl
  cases store.scheduleFires.get? key with
  | none => rfl
  | some fire =>
      dsimp only
      cases fire.admittedChildTaskId with
      | some bound =>
          dsimp only
          split
          · split <;> rfl
          · split <;> rfl
      | none =>
          dsimp only
          split
          · split
            · rfl
            · split <;> rfl
          · rfl

theorem pgTransition_leases (store : PgScheduleStore) (key : JsString) (target : FireState)
    (fence : LeaseFence) : (store.transition key target fence).2.scheduleLeases = store.scheduleLeases := by
  unfold transition transitionImpl
  cases store.scheduleFires.get? key with
  | none => rfl
  | some fire =>
      dsimp only
      split
      · split
        · split <;> rfl
        · rfl
      · rfl

theorem pgFenceIsCurrent_iff (store : PgScheduleStore) (scheduleId : Id) (fence : LeaseFence) :
    store.fenceIsCurrent scheduleId fence = true ↔ postgres.leaseFence store scheduleId = some fence := by
  unfold fenceIsCurrent postgres
  dsimp only
  cases store.scheduleLeases.get? scheduleId with
  | none => simp
  | some row =>
      simp only [decide_eq_true_eq, Option.map_some, Option.some.injEq]
      constructor
      · rintro ⟨owner, epoch⟩
        cases fence
        cases owner
        cases epoch
        rfl
      · rintro rfl
        exact ⟨rfl, rfl⟩

theorem pgReleaseLease_leaseFence (store : PgScheduleStore) (scheduleId : Id) (owner : JsString)
    (epoch : Nat) :
    postgres.leaseFence (store.releaseLease scheduleId owner epoch) scheduleId = none ∨
      store.releaseLease scheduleId owner epoch = store := by
  unfold releaseLease
  split
  · exact Or.inl (by simp [postgres])
  · exact Or.inr rfl

theorem postgres_rejects (scheduleId : Id) (store : PgScheduleStore) (fence : LeaseFence)
    (stale : postgres.leaseFence store scheduleId ≠ some fence) :
    Rejected postgres scheduleId store fence := by
  have fails : store.fenceIsCurrent scheduleId fence = false := by
    rw [← Bool.not_eq_true]
    exact fun current => stale ((pgFenceIsCurrent_iff store scheduleId fence).mp current)
  intro key fire found mine
  have found' : store.scheduleFires.get? key = some fire := found
  refine ⟨fun observationId binding => ?_, fun target => ?_⟩
  · simp only [postgres, bindAdmission, bindImpl, found', fenceHolds, mine, fails]
    cases fire.admittedChildTaskId with
    | none => exact ⟨⟨_, rfl⟩, rfl⟩
    | some bound =>
        dsimp only
        split
        · exact ⟨⟨_, rfl⟩, rfl⟩
        · split
          · exact ⟨⟨_, rfl⟩, rfl⟩
          · exact ⟨⟨_, rfl⟩, rfl⟩
  · simp only [postgres, transition, transitionImpl, found', fenceHolds, mine, fails]
    exact ⟨rfl, rfl⟩

theorem postgres_refines (scheduleId : Id) : postgres.Refines scheduleId where
  claim := postgres_claim
  release := fun store owner epoch => pgReleaseLease_leaseFence store scheduleId owner epoch
  bind := fun store observationId key binding fence => by
    simp only [postgres, pgBindAdmission_leases]
  transition := fun store key target fence => by
    simp only [postgres, pgTransition_leases]
  rejects := postgres_rejects scheduleId

end Postgres

/-! ## Monotone fencing -/

/-- In either store, a run of calls on a schedule that never claims it again after its lease row
was released returns fresh fences only, and rejects all but the newest. -/
theorem fences_monotone_without_reclaim (scheduleId : Id) (calls : List LeaseCall) :
    (∀ store, History.NeverReclaims inMemory scheduleId ⟨store, []⟩ calls →
      Monotone inMemory scheduleId (History.run inMemory scheduleId ⟨store, []⟩ calls)) ∧
    (∀ store, History.NeverReclaims postgres scheduleId ⟨store, []⟩ calls →
      Monotone postgres scheduleId (History.run postgres scheduleId ⟨store, []⟩ calls)) :=
  ⟨fun _ never => (inMemory_refines scheduleId).run_monotone never,
    fun _ never => (postgres_refines scheduleId).run_monotone never⟩

/-! ## Two histories of one schedule -/

def leasedSchedule : Id := ⟨js "33333333-3333-4333-8333-333333333333", by decide⟩

def leasedFire : ScheduleFire where
  idempotencyKey := js "k"
  scheduleId := leasedSchedule
  version := js "v1"
  fireWindowKey := js "w"
  fireIdentity := leasedSchedule
  fireAtUtc := .epoch
  state := .planned
  admissionRequestId := none
  admittedChildTaskId := none
  admittedAt := none
  createdAt := .epoch
  textsNonempty := by decide

def leasedStore : InMemoryScheduleStore :=
  { InMemoryScheduleStore.empty with fires := JsMap.empty.set (js "k") leasedFire }

def leasedPgStore : PgScheduleStore :=
  { PgScheduleStore.empty with
    scheduleFires := JsMap.empty.set (js "k") leasedFire
    taskAdmissions := [leasedSchedule] }

/-- `a` claims, `b` takes the expired lease over, `b` renews. -/
def takeoverCalls : List LeaseCall :=
  [.claimLease leasedSchedule (js "a") 0 10, .claimLease leasedSchedule (js "b") 20 10,
    .claimLease leasedSchedule (js "b") 25 10]

theorem takeover_fences_monotone :
    Monotone inMemory leasedSchedule
        (History.run inMemory leasedSchedule ⟨leasedStore, []⟩ takeoverCalls) ∧
      Monotone postgres leasedSchedule
        (History.run postgres leasedSchedule ⟨leasedPgStore, []⟩ takeoverCalls) := by
  have both := fences_monotone_without_reclaim leasedSchedule takeoverCalls
  refine ⟨both.1 leasedStore ?_, both.2 leasedPgStore ?_⟩
  · simp only [History.NeverReclaims, takeoverCalls, History.Reclaims]
    decide +kernel
  · simp only [History.NeverReclaims, takeoverCalls, History.Reclaims]
    decide +kernel

/-- `a` claims and pauses, its lease is released, and `a` claims again. -/
def reclaimCalls : List LeaseCall :=
  [.claimLease leasedSchedule (js "a") 0 10, .releaseLease (js "a") 0,
    .claimLease leasedSchedule (js "a") 20 10]

/-- The third call returns the fence of the first, with which the paused holder still binds. -/
theorem reclaim_repeats_fence :
    (¬ Monotone inMemory leasedSchedule
        (History.run inMemory leasedSchedule ⟨leasedStore, []⟩ reclaimCalls) ∧
      ¬ Monotone postgres leasedSchedule
        (History.run postgres leasedSchedule ⟨leasedPgStore, []⟩ reclaimCalls)) ∧
    (∀ firstFence ∈ (History.run inMemory leasedSchedule ⟨leasedStore, []⟩ (reclaimCalls.take 1)).issued,
      ((History.run inMemory leasedSchedule ⟨leasedStore, []⟩ reclaimCalls).store.bindAdmission
        leasedSchedule (js "k") ⟨leasedSchedule, leasedSchedule, 30⟩ firstFence).1.map Prod.snd = .ok false) ∧
    ∀ firstFence ∈ (History.run postgres leasedSchedule ⟨leasedPgStore, []⟩ (reclaimCalls.take 1)).issued,
      ((History.run postgres leasedSchedule ⟨leasedPgStore, []⟩ reclaimCalls).store.bindAdmission
        leasedSchedule (js "k") ⟨leasedSchedule, leasedSchedule, 30⟩ firstFence).1.map Prod.snd = .ok false := by
  have issued : (History.run inMemory leasedSchedule ⟨leasedStore, []⟩ reclaimCalls).issued =
      [⟨js "a", 0⟩, ⟨js "a", 0⟩] := by
    decide +kernel
  have issuedPg : (History.run postgres leasedSchedule ⟨leasedPgStore, []⟩ reclaimCalls).issued =
      [⟨js "a", 0⟩, ⟨js "a", 0⟩] := by
    decide +kernel
  refine ⟨⟨fun monotone => ?_, fun monotone => ?_⟩, ?_, ?_⟩
  · have fresh := monotone.fresh
    rw [issued] at fresh
    exact absurd fresh (by decide)
  · have fresh := monotone.fresh
    rw [issuedPg] at fresh
    exact absurd fresh (by decide)
  · decide +kernel
  · decide +kernel

end KernelJson.Scheduler.LeaseFencing
