import KernelJson.Scheduler.ExactlyOnce

/-!
# The emergency stop

`disableCanary` writes the lifecycle row of a schedule and nothing else, while a
wake evaluates its gate once, on the schedule it read first.  A wake that read
the schedule as fireable stays armed: it goes on to create fires and to request
admissions whatever the lifecycle row says by then.  In every run in which no
wake is armed at the moment its schedule is disabled, a disabled schedule is
silent.
-/

namespace KernelJson.Scheduler.EmergencyStop

open Contracts.Common
open Contracts.Digest
open Foundation
open Foundation.DurablePrograms
open Foundation.JsText
open Scheduler.CivilTime
open Scheduler.DurableTimer
open Scheduler.ExactlyOnce (sampleId sampleTask sampleSchedule sampleState sampleSha256 sampleWorld)
open Scheduler.FireWindows
open Scheduler.ScheduleStore
open Scheduler.Spec

/-! ## Disabling a schedule -/

/-- Identity facts read from the authority database. -/
structure IdentitySnapshot where
  tenantExists : Bool
  principalExists : Bool
  ownerExists : Bool
  ownerKind : Option PrincipalKind
  membershipExists : Bool

inductive CanaryLifecycleCode where
  | malformedInput
  | unknownSchedule
  | unknownTenant
  | unknownPrincipal
  | actorNotHuman
  | missingTenantMembership
  | unexpectedActiveVersion
deriving DecidableEq

structure CanaryLifecycleError where
  code : CanaryLifecycleCode
  message : JsString
deriving DecidableEq

structure DisableCanaryInput where
  scheduleId : Id
  actorPrincipalId : Id
  at_ : Timestamp
  expectedActiveVersion : Option JsString

structure DisableCanaryResult where
  scheduleId : Id
  disabled : Bool
  alreadyDisabled : Bool
  activeVersion : JsString
deriving DecidableEq

inductive LifecycleOp where
  | getSchedule (scheduleId : Id)
  | snapshot (tenantId principalId ownerId : Id)
  | setState (next : PersistedScheduleState)

def LifecycleOp.Answer : LifecycleOp → Type
  | .getSchedule _ => Option (PersistedScheduleState × PersistedScheduleSpec)
  | .snapshot _ _ _ => IdentitySnapshot
  | .setState _ => Unit

abbrev Lifecycle (α : Type) : Type := Prog LifecycleOp LifecycleOp.Answer α

/-- The acting principal is a human member of the tenant. -/
def assertHumanActor (snap : IdentitySnapshot) : Except CanaryLifecycleError Unit :=
  if !snap.tenantExists then .error ⟨.unknownTenant, js "tenant does not exist"⟩
  else if !snap.principalExists then .error ⟨.unknownPrincipal, js "actor principal does not exist"⟩
  else if snap.ownerKind ≠ some .human then .error ⟨.actorNotHuman, js "actor principal is not HUMAN"⟩
  else if !snap.membershipExists then
    .error ⟨.missingTenantMembership, js "actor has no membership in the tenant"⟩
  else .ok ()

def disabledState (current : PersistedScheduleState) (input : DisableCanaryInput) :
    PersistedScheduleState where
  scheduleId := input.scheduleId
  state := .disabled
  activeVersion := current.activeVersion
  updatedAt := input.at_
  updatedBy := input.actorPrincipalId
  activeVersionNonempty := current.activeVersionNonempty

/-- The write of `disableCanary`, if it is due, and its result. -/
def disableCurrent (current : PersistedScheduleState) (input : DisableCanaryInput) :
    Lifecycle (Except CanaryLifecycleError DisableCanaryResult) :=
  if input.expectedActiveVersion.any fun expected => current.activeVersion ≠ expected then
    .ret (.error ⟨.unexpectedActiveVersion, js "expected active version " ++
      input.expectedActiveVersion.getD [] ++ js ", found " ++ current.activeVersion⟩)
  else if current.state = .disabled then .ret (.ok ⟨input.scheduleId, false, true, current.activeVersion⟩)
  else
    .call (.setState (disabledState current input)) fun _ =>
      .ret (.ok ⟨input.scheduleId, true, false, current.activeVersion⟩)

/-- `disableCanary(store, gate, rawInput)`; `none` is an input its schema rejects. -/
def disableCanary : Option DisableCanaryInput → Lifecycle (Except CanaryLifecycleError DisableCanaryResult)
  | none => .ret (.error ⟨.malformedInput, js "disable-canary input failed validation"⟩)
  | some input =>
      .call (.getSchedule input.scheduleId) fun
        | none => .ret (.error ⟨.unknownSchedule, js "schedule does not exist"⟩)
        | some (state, spec) =>
            .call (.snapshot spec.tenant.id input.actorPrincipalId input.actorPrincipalId) fun snap =>
              match assertHumanActor snap with
              | .error fault => .ret (.error fault)
              | .ok () => disableCurrent state input

/-- What a lifecycle operation does to the world of the wakes. -/
def performLifecycle : (op : LifecycleOp) → SchedulerWorld → op.Answer → SchedulerWorld → Prop
  | .getSchedule scheduleId, before, answer, after =>
      answer = before.store.getSchedule scheduleId ∧ after = before
  | .snapshot _ _ _, before, _, after => after = before
  | .setState next, before, _, after => after = { before with store := before.store.setState next }

/-- To the wakes, a lifecycle operation is a move of their surroundings. -/
theorem performLifecycle_surrounds {op : LifecycleOp} {before after : SchedulerWorld} {answer : op.Answer}
    (effect : performLifecycle op before answer after) : after = before ∨ Surroundings before after := by
  cases op with
  | getSchedule scheduleId => exact Or.inl effect.2
  | snapshot tenantId principalId ownerId => exact Or.inl effect
  | setState next =>
      have written : after = { before with store := before.store.setState next } := effect
      subst written
      exact Or.inr (.setState before next)

/-- The schedule is disabled. -/
def Disabled (scheduleId : Id) (world : SchedulerWorld) : Prop :=
  ∃ state, world.store.states.get? scheduleId = some state ∧ state.state = .disabled

/-- Whatever `disableCanary` was answered, the only write it comes to disables its schedule. -/
theorem disableCanary_disables {input : DisableCanaryInput}
    {journal : List (Entry LifecycleOp LifecycleOp.Answer)} {next : PersistedScheduleState}
    {rest : Unit → Lifecycle (Except CanaryLifecycleError DisableCanaryResult)}
    {before after : SchedulerWorld} {answer : Unit}
    (reached : Replays (disableCanary (some input)) journal (.call (.setState next) rest))
    (effect : performLifecycle (.setState next) before answer after) : Disabled input.scheduleId after := by
  have written : after = { before with store := before.store.setState next } := effect
  have disables : next.scheduleId = input.scheduleId ∧ next.state = .disabled := by
    unfold disableCanary at reached
    rcases Replays.call_cases reached with ⟨-, impossible⟩ | ⟨read, tail, -, replays⟩
    · cases impossible
    · cases read with
      | none => cases (Replays.ret_inv replays).2
      | some pair =>
          rcases Replays.call_cases replays with ⟨-, impossible⟩ | ⟨snap, last, -, replays⟩
          · cases impossible
          · cases actor : assertHumanActor snap with
            | error fault =>
                rw [actor] at replays
                cases (Replays.ret_inv replays).2
            | ok checked =>
                rw [actor] at replays
                dsimp only [disableCurrent] at replays
                split at replays
                · cases (Replays.ret_inv replays).2
                · split at replays
                  · cases (Replays.ret_inv replays).2
                  · rcases Replays.call_cases replays with ⟨-, same⟩ | ⟨_, _, -, returned⟩
                    · cases same
                      exact ⟨rfl, rfl⟩
                    · cases (Replays.ret_inv returned).2
  subst written
  refine ⟨next, ?_, disables.2⟩
  rw [← disables.1]
  exact JsMap.get?_set_self _ _ _

/-! ## What a wake may still do -/

/-- An operation that creates a fire of the schedule or requests an admission for it. -/
def FiresFor (scheduleId : Id) : SchedulerOp → Prop
  | .createOrGetFire input => input.scheduleId = scheduleId
  | .admitRequest request => request.scheduleId = scheduleId
  | _ => False

/-- The rest of a wake may fire for the schedule without reading a schedule again. -/
inductive Armed (scheduleId : Id) {α : Type} : Wake α → Prop
  | fires {op : SchedulerOp} {next : op.Answer → Wake α} (about : FiresFor scheduleId op) :
      Armed scheduleId (.call op next)
  | later {op : SchedulerOp} {next : op.Answer → Wake α} (answer : op.Answer)
      (unread : ∀ read, op ≠ .getSchedule read) (rest : Armed scheduleId (next answer)) :
      Armed scheduleId (.call op next)

/-- Operations of a wake that may fire for one schedule at most. -/
def OfSchedule (allowed : Option Id) : SchedulerOp → Prop
  | .getSchedule _ => False
  | .createOrGetFire input => some input.scheduleId = allowed
  | .admitRequest request => some request.scheduleId = allowed
  | _ => True

/-- A program that reads no schedule and fires for one schedule at most. -/
def Confined (allowed : Option Id) {α : Type} : Wake α → Prop
  | .ret _ => True
  | .call op next => OfSchedule allowed op ∧ ∀ answer, Confined allowed (next answer)

theorem OfSchedule.firesFor {allowed : Option Id} {op : SchedulerOp} {scheduleId : Id}
    (confined : OfSchedule allowed op) (about : FiresFor scheduleId op) : allowed = some scheduleId := by
  cases op with
  | createOrGetFire input => exact confined.symm.trans (congrArg some about)
  | admitRequest request => exact confined.symm.trans (congrArg some about)
  | _ => cases about

theorem Confined.armed {allowed : Option Id} {α : Type} {program : Wake α} {scheduleId : Id}
    (confined : Confined allowed program) (armed : Armed scheduleId program) :
    allowed = some scheduleId := by
  induction armed with
  | fires about => exact confined.1.firesFor about
  | later answer unread rest ih => exact ih (confined.2 answer)

theorem Confined.bind {allowed : Option Id} {α β : Type} {program : Wake α} {next : α → Wake β}
    (first : Confined allowed program) (second : ∀ value, Confined allowed (next value)) :
    Confined allowed (program >>= next) := by
  induction program with
  | ret value => exact second value
  | call op rest ih => exact ⟨first.1, fun answer => ih answer (first.2 answer)⟩

section Programs

variable {sha256 : JsString → HexDigest} {intl : Intl} {spec : ScheduleSpec intl}

theorem confined_processWindowUnderFence (window : FireWindow) (fence : LeaseFence) (atMs : Int) :
    Confined (some spec.scheduleId) (processWindowUnderFence sha256 spec window fence atMs) := by
  refine ⟨rfl, fun answer => ?_⟩
  cases answer with
  | error fault => trivial
  | ok created =>
      obtain ⟨fire, isNew⟩ := created
      dsimp only
      split
      · trivial
      · refine ⟨rfl, fun admitted => ?_⟩
        cases admitted with
        | none => trivial
        | some admission =>
            refine ⟨trivial, fun bound => ?_⟩
            cases bound with
            | error fault => trivial
            | ok result => trivial

theorem confined_processWindows (fence : LeaseFence) (atMs : Int) (windows : List FireWindow)
    (tally : Tally) :
    Confined (some spec.scheduleId) (processWindows sha256 spec fence atMs windows tally) := by
  induction windows generalizing tally with
  | nil => trivial
  | cons window rest ih =>
      refine (confined_processWindowUnderFence window fence atMs).bind fun result => ?_
      cases result with
      | error fault => trivial
      | ok outcome => exact ih (tally.add outcome)

theorem confined_armNext (allowed : Option Id) (scheduleId : Id) (reason : JsString) (nowMs : Int)
    (tally : Tally) : Confined allowed (armNext spec scheduleId reason nowMs tally) := by
  unfold armNext
  dsimp only
  split
  · trivial
  · exact ⟨trivial, fun _ => trivial⟩

theorem confined_cancelWakes (allowed : Option Id) (scheduleId : Id) (wakes : List OutstandingWake) :
    Confined allowed (cancelWakes scheduleId wakes) := by
  induction wakes with
  | nil => trivial
  | cons wake rest ih => exact ⟨trivial, fun _ => ih⟩

theorem confined_fireDue (opts : DriverOptions) (scheduleId : Id) (reason : JsString)
    (lastTickMs nowMs : Int) :
    Confined (some spec.scheduleId) (fireDue sha256 opts spec scheduleId reason lastTickMs nowMs) := by
  refine ⟨trivial, fun answer => ?_⟩
  cases answer with
  | error fault => trivial
  | ok claimed =>
      cases claimed with
      | none => trivial
      | some lease =>
          refine (confined_processWindows lease.fence nowMs _ _).bind fun result => ?_
          cases result with
          | error fault => trivial
          | ok tally => exact confined_armNext _ scheduleId reason nowMs tally

end Programs

theorem canFire_enabled {intl : Intl} {spec : ScheduleSpec intl} {productionRuntime : Bool}
    (fires : (canFire spec productionRuntime).ok = true) : spec.state = .enabled := by
  unfold canFire at fires
  cases state : spec.state with
  | enabled => rfl
  | paused => rw [state] at fires; cases fires
  | disabled => rw [state] at fires; cases fires

/-- What a wake goes on to do is confined to the schedule it read, and only if it read it enabled. -/
theorem onWake_gated {sha256 : JsString → HexDigest} {intl : Intl} {opts : DriverOptions}
    {scheduleId read : Id} {lastTickMs nowMs : Int}
    {next : (SchedulerOp.getSchedule read).Answer → Wake (Except WakeFault WakeResult)}
    (waiting : onWake sha256 intl opts scheduleId lastTickMs nowMs = .call (.getSchedule read) next)
    (answer : (SchedulerOp.getSchedule read).Answer) :
    ∃ allowed, Confined allowed (next answer) ∧ ∀ fired, allowed = some fired →
      ∃ state persisted, answer = some (state, persisted) ∧ state.state = .enabled ∧
        persisted.scheduleId = fired := by
  cases waiting
  have never : ∀ fired : Id, (none : Option Id) = some fired → ∃ state persisted,
      answer = some (state, persisted) ∧ state.state = .enabled ∧ persisted.scheduleId = fired :=
    fun _ impossible => by cases impossible
  cases answer with
  | none => exact ⟨none, trivial, never⟩
  | some pair =>
      obtain ⟨state, persisted⟩ := pair
      dsimp only
      cases derived : runtimeSpecFrom intl persisted state with
      | none => exact ⟨none, trivial, never⟩
      | some spec =>
          have same : spec.state = state.state ∧ spec.scheduleId = persisted.scheduleId := by
            unfold runtimeSpecFrom at derived
            split at derived
            · cases derived
              exact ⟨rfl, rfl⟩
            · cases derived
          dsimp only
          split
          · next fires =>
              refine ⟨some spec.scheduleId, confined_fireDue _ _ _ _ _, fun fired here => ?_⟩
              refine ⟨state, persisted, rfl, same.1.symm.trans (canFire_enabled fires), ?_⟩
              exact same.2.symm.trans (Option.some.inj here)
          · refine ⟨none, ⟨trivial, fun wakes => ?_⟩, never⟩
            exact (confined_cancelWakes none scheduleId wakes).bind fun _ => trivial

/-! ## What a step leaves alone -/

theorem upsertSpecVersion_spec (store : InMemoryScheduleStore) (spec : PersistedScheduleSpec) :
    (store.upsertSpecVersion spec).2.states = store.states ∧
      ((store.upsertSpecVersion spec).2.specs = store.specs ∨ (store.upsertSpecVersion spec).2.specs =
        store.specs.set (InMemoryScheduleStore.specKey spec.scheduleId spec.version) spec) := by
  unfold InMemoryScheduleStore.upsertSpecVersion
  dsimp only
  split
  · exact ⟨rfl, Or.inr rfl⟩
  · split
    · exact ⟨rfl, Or.inr rfl⟩
    · exact ⟨rfl, Or.inl rfl⟩

/-- The definitions and lifecycle rows, which no operation of a wake writes. -/
def administration (store : InMemoryScheduleStore) :
    JsMap JsString PersistedScheduleSpec × JsMap Id PersistedScheduleState :=
  (store.specs, store.states)

theorem claimLease_administration (store : InMemoryScheduleStore) (observationId scheduleId : Id)
    (owner : JsString) (nowMs ttlMs : Int) :
    administration (store.claimLease observationId scheduleId owner nowMs ttlMs).2 = administration store := by
  unfold InMemoryScheduleStore.claimLease
  dsimp only
  split
  · rfl
  · split <;> rfl

theorem createOrGetFire_administration {store after : InMemoryScheduleStore} {input : FireInput}
    {result : Except StoreFault (ScheduleFire × Bool)}
    (ran : store.createOrGetFire input = (result, after)) : administration after = administration store := by
  rcases InMemoryScheduleStore.createOrGetFire_cases ran with
    ⟨_, -, -, rfl⟩ | ⟨_, -, -, -, rfl⟩ | ⟨_, -, rfl⟩ <;> rfl

theorem bindImpl_administration (store : InMemoryScheduleStore) (observationId : Id) (key : JsString)
    (binding : AdmissionBinding) (fence : Option LeaseFence) :
    administration (store.bindImpl observationId key binding fence).2 = administration store := by
  unfold InMemoryScheduleStore.bindImpl
  split
  · rfl
  · split
    · split
      · split
        · rfl
        · split <;> rfl
      · split <;> rfl
    · rfl

/-- No operation of a wake changes a definition or a lifecycle row. -/
theorem perform_administration (actor : Nat) {op : SchedulerOp} {before after : SchedulerWorld}
    {answer : op.Answer} (effect : perform actor op before answer after) :
    administration after.store = administration before.store := by
  cases op with
  | getSchedule scheduleId => rw [effect.2]
  | claimLease scheduleId owner nowMs ttlMs =>
      obtain ⟨observationId, store, ran, rfl⟩ := effect
      have kept := claimLease_administration before.store observationId scheduleId owner nowMs ttlMs
      rw [ran] at kept
      exact kept
  | createOrGetFire input =>
      obtain ⟨store, ran, rfl⟩ := effect
      exact createOrGetFire_administration ran
  | admitRequest request =>
      obtain ⟨gateway, -, rfl⟩ := effect
      rfl
  | bindAdmission key binding fence =>
      obtain ⟨observationId, store, ran, rfl⟩ := effect
      have kept := bindImpl_administration before.store observationId key binding (some fence)
      rw [show before.store.bindImpl observationId key binding (some fence) = (answer, store) from ran] at kept
      exact kept
  | observe scheduleId => rw [effect.2]
  | cancelWake scheduleId wakeKey =>
      subst effect
      rfl
  | scheduleWake scheduleId wakeKey fireAtUtcMs =>
      subst effect
      rfl

/-- A fire of `after` existed before, under the same key, or an operation just created it. -/
theorem perform_fires (actor : Nat) {op : SchedulerOp} {before after : SchedulerWorld}
    {answer : op.Answer} (effect : perform actor op before answer after) {key : JsString}
    {fire : ScheduleFire} (found : after.store.fires.get? key = some fire) :
    (∃ earlier, before.store.fires.get? key = some earlier) ∨ FiresFor fire.scheduleId op := by
  cases op with
  | getSchedule scheduleId => exact Or.inl ⟨fire, effect.2 ▸ found⟩
  | claimLease scheduleId owner nowMs ttlMs =>
      obtain ⟨observationId, store, ran, rfl⟩ := effect
      have fires := InMemoryScheduleStore.claimLease_fires before.store observationId scheduleId owner nowMs ttlMs
      rw [ran] at fires
      exact Or.inl ⟨fire, fires ▸ found⟩
  | createOrGetFire input =>
      obtain ⟨store, ran, rfl⟩ := effect
      rcases InMemoryScheduleStore.createOrGetFire_cases ran with
        ⟨_, -, -, rfl⟩ | ⟨made, -, planned, -, rfl⟩ | ⟨_, -, rfl⟩
      · exact Or.inl ⟨fire, found⟩
      · have written : (before.store.fires.set input.idempotencyKey made).get? key = some fire := found
        rw [JsMap.get?_set] at written
        split at written
        · cases written
          have named := (InMemoryScheduleStore.planned_spec planned).2.1
          exact Or.inr (congrArg FireName.scheduleId named).symm
        · exact Or.inl ⟨fire, written⟩
      · exact Or.inl ⟨fire, found⟩
  | admitRequest request =>
      obtain ⟨gateway, -, rfl⟩ := effect
      exact Or.inl ⟨fire, found⟩
  | bindAdmission key' binding fence =>
      obtain ⟨observationId, store, ran, rfl⟩ := effect
      rcases InMemoryScheduleStore.bindImpl_cases ran with
        ⟨sameFires, -⟩ | ⟨bound, admittedAt, present, -, -, -, rfl⟩
      · exact Or.inl ⟨fire, sameFires ▸ found⟩
      · exact Or.inl (JsMap.present_of_set present found)
  | observe scheduleId => exact Or.inl ⟨fire, effect.2 ▸ found⟩
  | cancelWake scheduleId wakeKey =>
      subst effect
      exact Or.inl ⟨fire, found⟩
  | scheduleWake scheduleId wakeKey fireAtUtcMs =>
      subst effect
      exact Or.inl ⟨fire, found⟩

/-- The surroundings create no fire. -/
theorem surroundings_fires {before after : SchedulerWorld} (moved : Surroundings before after)
    {key : JsString} {fire : ScheduleFire} (found : after.store.fires.get? key = some fire) :
    ∃ earlier, before.store.fires.get? key = some earlier := by
  cases moved with
  | upsertSpecVersion spec =>
      exact ⟨fire, InMemoryScheduleStore.upsertSpecVersion_fires before.store spec ▸ found⟩
  | setState next => exact ⟨fire, found⟩
  | claimLease observationId scheduleId owner nowMs ttlMs =>
      exact ⟨fire, InMemoryScheduleStore.claimLease_fires before.store observationId scheduleId owner nowMs
        ttlMs ▸ found⟩
  | releaseLease scheduleId owner epoch =>
      exact ⟨fire, InMemoryScheduleStore.releaseLease_fires before.store scheduleId owner epoch ▸ found⟩
  | transition key' target fence =>
      rcases InMemoryScheduleStore.transitionImpl_cases (Prod.eta (before.store.transitionImpl key' target
        (some fence))).symm with same | ⟨moved, present, -, -, same⟩
      · exact ⟨fire, (show (before.store.transition key' target fence).2 = before.store from same) ▸ found⟩
      · have written : (before.store.transition key' target fence).2.fires =
            before.store.fires.set key' { moved with state := target } := congrArg _ same
        exact JsMap.present_of_set present (written ▸ found)
  | admitRequest admitted => exact ⟨fire, found⟩
  | timers => exact ⟨fire, found⟩

/-! ## Runs that disable no schedule under an armed wake -/

section Runs

variable (intl : Intl) (sha256 : JsString → HexDigest)

abbrev WakeConfig : Type :=
  Config SchedulerWorld SchedulerOp SchedulerOp.Answer (Except WakeFault WakeResult)

/-- No wake is armed for a schedule that a step disables. -/
def Quiet (config later : WakeConfig) : Prop :=
  ∀ scheduleId, Disabled scheduleId later.world → ¬ Disabled scheduleId config.world →
    ∀ actor run, config.runs actor = some run → ¬ Armed scheduleId run.resume

/-- A run from the empty world, whatever the order of its steps, all of them quiet. -/
def QuietRun : WakeConfig → Prop :=
  Relation.ReflTransGen (fun config later => Step (wakeMachine intl sha256) config later ∧ Quiet config later)
    (Config.initial .empty)

/-- No next step creates a fire of the schedule, and no wake stands before an admission for it. -/
structure Silent (scheduleId : Id) (config : WakeConfig) : Prop where
  creates : ∀ later, Step (wakeMachine intl sha256) config later → ∀ key fire,
    later.world.store.fires.get? key = some fire → fire.scheduleId = scheduleId →
      ∃ earlier, config.world.store.fires.get? key = some earlier
  requests : ∀ actor run request next, config.runs actor = some run →
    run.resume = .call (.admitRequest request) next → request.scheduleId ≠ scheduleId

/-- A wake is before its schedule read, or reads no schedule any more. -/
def Gated (program : Wake (Except WakeFault WakeResult)) : Prop :=
  (∃ opts scheduleId lastTickMs nowMs, program = onWake sha256 intl opts scheduleId lastTickMs nowMs) ∨
    ∃ allowed, Confined allowed program

structure Disarmed (config : WakeConfig) : Prop where
  named : ∀ key spec, config.world.store.specs.get? key = some spec →
    InMemoryScheduleStore.specKey spec.scheduleId spec.version = key
  gated : ∀ actor run, config.runs actor = some run → Gated intl sha256 run.resume
  disarmed : ∀ scheduleId, Disabled scheduleId config.world → ∀ actor run,
    config.runs actor = some run → ¬ Armed scheduleId run.resume

variable {intl sha256}

theorem disarmed_initial : Disarmed intl sha256 (Config.initial .empty) where
  named := fun _ _ impossible => by cases impossible
  gated := fun _ _ impossible => by cases impossible
  disarmed := fun _ _ _ _ impossible => by cases impossible

theorem onWake_not_armed {opts : DriverOptions} {scheduleId stopped : Id} {lastTickMs nowMs : Int} :
    ¬ Armed stopped (onWake sha256 intl opts scheduleId lastTickMs nowMs) := by
  intro armed
  cases armed with
  | fires about => exact about
  | later answer unread rest => exact unread scheduleId rfl

/-- The administration a step leaves alone keeps the same schedules disabled. -/
theorem disabled_congr {before after : SchedulerWorld} {scheduleId : Id}
    (same : administration after.store = administration before.store) :
    Disabled scheduleId after ↔ Disabled scheduleId before := by
  have states : after.store.states = before.store.states := congrArg Prod.snd same
  unfold Disabled
  rw [states]

/-- Replacing one run, the administration unchanged, asks about that run alone. -/
theorem Disarmed.update {config : WakeConfig} (disarmed : Disarmed intl sha256 config) {actor : Nat}
    {run : Option (Run SchedulerOp SchedulerOp.Answer (Except WakeFault WakeResult))}
    (after : SchedulerWorld) (same : administration after.store = administration config.world.store)
    (own : ∀ next, run = some next → Gated intl sha256 next.resume ∧
      ∀ scheduleId, Disabled scheduleId config.world → ¬ Armed scheduleId next.resume) :
    Disarmed intl sha256 ((config.withRun actor run).withWorld after) where
  named := by
    intro key spec found
    have specs : after.store.specs = config.world.store.specs := congrArg Prod.fst same
    exact disarmed.named key spec (specs ▸ found)
  gated := by
    intro other next found
    by_cases equal : other = actor
    · subst equal
      exact (own next (by simpa [Config.withRun, Config.withWorld] using found)).1
    · refine disarmed.gated other next ?_
      simpa [Config.withRun, Config.withWorld, Function.update_of_ne equal] using found
  disarmed := by
    intro scheduleId disabled other next found
    have before : Disabled scheduleId config.world := (disabled_congr same).mp disabled
    by_cases equal : other = actor
    · subst equal
      exact (own next (by simpa [Config.withRun, Config.withWorld] using found)).2 scheduleId before
    · refine disarmed.disarmed scheduleId before other next ?_
      simpa [Config.withRun, Config.withWorld, Function.update_of_ne equal] using found

theorem Disarmed.named_read {config : WakeConfig} (disarmed : Disarmed intl sha256 config) {read : Id}
    {state : PersistedScheduleState} {persisted : PersistedScheduleSpec}
    (answered : config.world.store.getSchedule read = some (state, persisted)) :
    config.world.store.states.get? read = some state ∧ persisted.scheduleId = read := by
  unfold InMemoryScheduleStore.getSchedule at answered
  simp only [Option.bind_eq_bind, Option.bind_eq_some_iff] at answered
  obtain ⟨current, held, spec, found, same⟩ := answered
  cases same
  have keyed := InMemoryScheduleStore.specKey_inj.mp (disarmed.named _ _ found)
  exact ⟨held, congrArg Prod.fst keyed⟩

/-- Executing an operation leaves a wake gated and disarmed for every disabled schedule. -/
theorem Disarmed.commit {config : WakeConfig} (disarmed : Disarmed intl sha256 config) {actor : Nat}
    {run : Run SchedulerOp SchedulerOp.Answer (Except WakeFault WakeResult)} {op : SchedulerOp}
    {next : op.Answer → Wake (Except WakeFault WakeResult)} {answer : op.Answer} {after : SchedulerWorld}
    (found : config.runs actor = some run) (waiting : run.resume = .call op next)
    (effect : perform actor op config.world answer after) :
    Gated intl sha256 (next answer) ∧
      ∀ scheduleId, Disabled scheduleId config.world → ¬ Armed scheduleId (next answer) := by
  have gated := disarmed.gated actor run found
  rw [waiting] at gated
  rcases gated with ⟨opts, read, lastTickMs, nowMs, root⟩ | ⟨allowed, confined⟩
  · -- the wake reads the schedule, and goes on only with what the row says now
    have same : op = .getSchedule read := by
      cases root
      rfl
    subst same
    obtain ⟨allowed, confined, enabled⟩ := onWake_gated root.symm answer
    refine ⟨Or.inr ⟨allowed, confined⟩, fun scheduleId disabled armed => ?_⟩
    obtain ⟨state, persisted, answered, fires, sameId⟩ := enabled scheduleId (confined.armed armed)
    obtain ⟨held, named⟩ := disarmed.named_read (effect.1.symm.trans answered)
    obtain ⟨current, stored, stopped⟩ := disabled
    rw [← sameId, named, held, Option.some.injEq] at stored
    rw [← stored, fires] at stopped
    cases stopped
  · refine ⟨Or.inr ⟨allowed, confined.2 answer⟩, fun scheduleId disabled armed => ?_⟩
    have still := disarmed.disarmed scheduleId disabled actor run found
    rw [waiting] at still
    refine still (.later answer (fun read same => ?_) armed)
    subst same
    exact confined.1

theorem surroundings_named {before after : SchedulerWorld} (moved : Surroundings before after)
    (named : ∀ key spec, before.store.specs.get? key = some spec →
      InMemoryScheduleStore.specKey spec.scheduleId spec.version = key) :
    ∀ key spec, after.store.specs.get? key = some spec →
      InMemoryScheduleStore.specKey spec.scheduleId spec.version = key := by
  intro key spec found
  cases moved with
  | upsertSpecVersion written =>
      rcases (upsertSpecVersion_spec before.store written).2 with same | same
      · exact named key spec (same ▸ found)
      · have stored : (before.store.specs.set _ written).get? key = some spec := same ▸ found
        rw [JsMap.get?_set] at stored
        split at stored
        · next equal =>
            cases stored
            exact equal
        · exact named key spec stored
  | setState next => exact named key spec found
  | claimLease observationId scheduleId owner nowMs ttlMs =>
      have same : (before.store.claimLease observationId scheduleId owner nowMs ttlMs).2.specs = before.store.specs :=
        congrArg Prod.fst (claimLease_administration before.store observationId scheduleId owner nowMs ttlMs)
      exact named key spec (same ▸ found)
  | releaseLease scheduleId owner epoch =>
      refine named key spec ?_
      simp only [InMemoryScheduleStore.releaseLease] at found
      split at found <;> exact found
  | transition key' target fence =>
      refine named key spec ?_
      rcases InMemoryScheduleStore.transitionImpl_cases (Prod.eta (before.store.transitionImpl key' target
        (some fence))).symm with same | ⟨fire, -, -, -, same⟩
      · exact (show (before.store.transition key' target fence).2 = before.store from same) ▸ found
      · have kept : (before.store.transitionImpl key' target (some fence)).2.specs = before.store.specs := by
          rw [same]
        exact kept ▸ found
  | admitRequest admitted => exact named key spec found
  | timers => exact named key spec found

theorem Disarmed.step {config later : WakeConfig} (disarmed : Disarmed intl sha256 config)
    (moved : Step (wakeMachine intl sha256) config later) (quiet : Quiet config later) :
    Disarmed intl sha256 later := by
  have kept : ∀ actor run, config.runs actor = some run → Gated intl sha256 run.resume ∧
      ∀ scheduleId, Disabled scheduleId config.world → ¬ Armed scheduleId run.resume :=
    fun actor run found => ⟨disarmed.gated actor run found, fun scheduleId disabled =>
      disarmed.disarmed scheduleId disabled actor run found⟩
  cases moved with
  | @start actor program idle allowed =>
      refine disarmed.update config.world rfl fun next same => ?_
      cases same
      obtain ⟨opts, scheduleId, lastTickMs, nowMs, rfl⟩ := allowed
      exact ⟨Or.inl ⟨opts, scheduleId, lastTickMs, nowMs, rfl⟩, fun _ _ => onWake_not_armed⟩
  | @commit actor run op next answer after found live waiting effect =>
      refine disarmed.update after (perform_administration actor effect) fun extended same => ?_
      cases same
      exact disarmed.commit found waiting effect
  | @lose actor run op next answer after durable found live waiting effect =>
      have same := perform_administration actor effect
      refine ⟨fun key spec here => ?_, disarmed.gated, fun scheduleId disabled => ?_⟩
      · have specs : after.store.specs = config.world.store.specs := congrArg Prod.fst same
        exact disarmed.named key spec (specs ▸ here)
      · exact disarmed.disarmed scheduleId ((disabled_congr same).mp disabled)
  | @crash actor run durable found =>
      refine disarmed.update config.world rfl fun next same => ?_
      cases same
      exact kept actor run found
  | @replay actor run next entry found root resume read done =>
      refine disarmed.update config.world rfl fun again same => ?_
      cases same
      rw [resume]
      exact kept actor run found
  | @kill actor run after found halted =>
      subst halted
      exact disarmed.update config.world rfl fun _ impossible => by cases impossible
  | @environment after moved =>
      refine ⟨surroundings_named moved disarmed.named, disarmed.gated, fun scheduleId disabled => ?_⟩
      by_cases before : Disabled scheduleId config.world
      · exact disarmed.disarmed scheduleId before
      · exact quiet scheduleId disabled before

theorem disarmed_of_quietRun {config : WakeConfig} (quiet : QuietRun intl sha256 config) :
    Disarmed intl sha256 config := by
  induction quiet with
  | refl => exact disarmed_initial
  | tail _ last ih => exact ih.step last.1 last.2

theorem Disarmed.silent {config : WakeConfig} (disarmed : Disarmed intl sha256 config) {scheduleId : Id}
    (disabled : Disabled scheduleId config.world) : Silent intl sha256 scheduleId config := by
  have unarmed : ∀ {actor : Nat} {run : Run SchedulerOp SchedulerOp.Answer (Except WakeFault WakeResult)}
      {op : SchedulerOp} {next : op.Answer → Wake (Except WakeFault WakeResult)},
      config.runs actor = some run → run.resume = .call op next → ¬ FiresFor scheduleId op := by
    intro actor run op next found waiting about
    have still := disarmed.disarmed scheduleId disabled actor run found
    rw [waiting] at still
    exact still (.fires about)
  refine ⟨fun later moved key fire found sameId => ?_, fun actor run request next found waiting => ?_⟩
  · cases moved with
    | start => exact ⟨fire, found⟩
    | @commit actor run op next answer after here live waiting effect =>
        rcases perform_fires actor effect found with existed | about
        · exact existed
        · exact absurd (sameId ▸ about) (unarmed here waiting)
    | @lose actor run op next answer after durable here live waiting effect =>
        rcases perform_fires actor effect found with existed | about
        · exact existed
        · exact absurd (sameId ▸ about) (unarmed here waiting)
    | crash => exact ⟨fire, found⟩
    | replay => exact ⟨fire, found⟩
    | kill here halted =>
        subst halted
        exact ⟨fire, found⟩
    | environment moved => exact surroundings_fires moved found
  · exact fun about => unarmed found waiting about

/-- In every run whose disabling steps find no armed wake, a disabled schedule is silent. -/
theorem disabled_schedule_silent {config : WakeConfig} (quiet : QuietRun intl sha256 config)
    {scheduleId : Id} (disabled : Disabled scheduleId config.world) :
    Silent intl sha256 scheduleId config :=
  (disarmed_of_quietRun quiet).silent disabled

theorem quiet_of_administration {config later : WakeConfig}
    (same : administration later.world.store = administration config.world.store) : Quiet config later :=
  fun _ disabled enabled => absurd ((disabled_congr same).mp disabled) enabled

variable (intl sha256) in
/-- The wakes alone, while nobody administers a schedule. -/
def undisturbedMachine : Machine SchedulerWorld SchedulerOp SchedulerOp.Answer (Except WakeFault WakeResult) :=
  { wakeMachine intl sha256 with environment := fun _ _ => False }

theorem undisturbed_step {config later : WakeConfig} (moved : Step (undisturbedMachine intl sha256) config later) :
    Step (wakeMachine intl sha256) config later ∧ Quiet config later := by
  cases moved with
  | start idle allowed => exact ⟨.start idle allowed, quiet_of_administration rfl⟩
  | @commit actor run op next answer after found live waiting effect =>
      exact ⟨.commit found live waiting effect, quiet_of_administration (perform_administration actor effect)⟩
  | @lose actor run op next answer after durable found live waiting effect =>
      exact ⟨.lose durable found live waiting effect,
        quiet_of_administration (perform_administration actor effect)⟩
  | crash durable found => exact ⟨.crash durable found, quiet_of_administration rfl⟩
  | replay found root resume read done =>
      exact ⟨.replay found root resume read done, quiet_of_administration rfl⟩
  | @kill actor run after found halted =>
      have same : after = config.world := halted
      subst same
      exact ⟨.kill found rfl, quiet_of_administration rfl⟩
  | environment moved => exact moved.elim

/-- While nobody administers a schedule, a quiet run stays quiet. -/
theorem QuietRun.undisturbed {config later : WakeConfig} (quiet : QuietRun intl sha256 config)
    (moved : Steps (undisturbedMachine intl sha256) config later) : QuietRun intl sha256 later := by
  induction moved with
  | refl => exact quiet
  | tail _ last ih => exact ih.tail (undisturbed_step last)

theorem QuietRun.environment {config : WakeConfig} (quiet : QuietRun intl sha256 config)
    {after : SchedulerWorld} (moved : Surroundings config.world after)
    (unarmed : ∀ scheduleId actor run, config.runs actor = some run → ¬ Armed scheduleId run.resume) :
    QuietRun intl sha256 (config.withWorld after) :=
  quiet.tail ⟨.environment moved, fun scheduleId _ _ => unarmed scheduleId⟩

end Runs

/-! ## A wake that finishes first, and one that is overtaken -/

section Samples

def sampleDisable : DisableCanaryInput :=
  ⟨sampleId, sampleId, .epoch, some (js "v1")⟩

def sampleSnapshot : IdentitySnapshot :=
  ⟨true, true, true, some .human, true⟩

/-- What `disableCanary` read before its write. -/
def sampleReads : List (Entry LifecycleOp LifecycleOp.Answer) :=
  [⟨.getSchedule sampleId, some (sampleState, sampleSchedule)⟩,
    ⟨.snapshot sampleId sampleId sampleId, sampleSnapshot⟩]

theorem sample_disables : ∃ rest, Replays (disableCanary (some sampleDisable)) sampleReads
    (.call (.setState (disabledState sampleState sampleDisable)) rest) :=
  ⟨_, .read (.read (.done _))⟩

/-- A world after the write of `disableCanary`. -/
def stopped (world : SchedulerWorld) : SchedulerWorld :=
  { world with store := world.store.setState (disabledState sampleState sampleDisable) }

theorem stopped_disabled (world : SchedulerWorld) : Disabled sampleId (stopped world) :=
  ⟨disabledState sampleState sampleDisable, JsMap.get?_set_self _ _ _, rfl⟩

def sampleWake : Wake (Except WakeFault WakeResult) :=
  onWake sampleSha256 .utcOnly ⟨js "a", false, 0⟩ sampleId 0 1

def administered : WakeConfig :=
  (Config.initial .empty).withWorld sampleWorld

theorem administered_quiet : QuietRun .utcOnly sampleSha256 administered := by
  have idle : ∀ {world : SchedulerWorld} (scheduleId : Id) actor run,
      ((Config.initial world : WakeConfig).runs actor = some run) → ¬ Armed scheduleId run.resume :=
    fun _ _ _ impossible => by cases impossible
  have first : QuietRun .utcOnly sampleSha256 (Config.initial .empty) := .refl
  have defined := first.environment (.upsertSpecVersion _ sampleSchedule) idle
  exact defined.environment (.setState _ sampleState) idle

/-- The wake has fired and returned when the schedule is disabled. -/
theorem sample_silent : ∃ config : WakeConfig, QuietRun .utcOnly sampleSha256 config ∧
    Disabled sampleId config.world ∧ config.world.store.fires.values.length = 1 ∧
    Silent .utcOnly sampleSha256 sampleId config := by
  obtain ⟨config, moved, world, others, run, found, returned⟩ :=
    @Steps.alone _ _ _ _ (undisturbedMachine .utcOnly sampleSha256) 0 _
      (performWith_performs 0 sampleId sampleTask) administered sampleWake rfl ⟨_, _, _, _, rfl⟩
  have unarmed : ∀ scheduleId actor run', config.runs actor = some run' → ¬ Armed scheduleId run'.resume := by
    intro scheduleId actor run' here armed
    by_cases same : actor = 0
    · subst same
      rw [found, Option.some.injEq] at here
      rw [← here, returned] at armed
      cases armed
    · rw [others actor same] at here
      cases here
  have quiet : QuietRun .utcOnly sampleSha256 (config.withWorld (stopped config.world)) :=
    (administered_quiet.undisturbed moved).environment (.setState _ _) unarmed
  have fired : (stopped config.world).store.fires.values.length = 1 := by
    rw [world]
    decide +kernel
  exact ⟨_, quiet, stopped_disabled _, fired, disabled_schedule_silent quiet (stopped_disabled _)⟩

/-- The admission that a program stands before. -/
def nextAdmission : Wake (Except WakeFault WakeResult) → Option AdmissionRequestInput
  | .call (.admitRequest request) _ => some request
  | _ => none

theorem nextAdmission_call {program : Wake (Except WakeFault WakeResult)} {request : AdmissionRequestInput}
    (stands : nextAdmission program = some request) : ∃ next, program = .call (.admitRequest request) next := by
  cases program with
  | ret value => cases stands
  | call op next =>
      cases op with
      | admitRequest found =>
          cases stands
          exact ⟨next, rfl⟩
      | _ => cases stands

/-- The wake has read the schedule as enabled. -/
def armedConfig : WakeConfig :=
  (administered.withRun 0 (some (Run.fresh sampleWake))).script [(0, performWith sampleId sampleTask)]

/-- The schedule is disabled, and the wake claims the lease and creates the fire. -/
def overtakenConfig : WakeConfig :=
  Config.script (List.replicate 2 (0, performWith sampleId sampleTask))
    (armedConfig.withWorld (stopped armedConfig.world))

/-- A wake that read the schedule before it was disabled creates a fire after it, and goes on to
request the admission. -/
theorem overtaken_wake_fires :
    Steps (wakeMachine .utcOnly sampleSha256) (Config.initial .empty)
        (armedConfig.withWorld (stopped armedConfig.world)) ∧
      Steps (wakeMachine .utcOnly sampleSha256) (armedConfig.withWorld (stopped armedConfig.world))
        overtakenConfig ∧
      Disabled sampleId (stopped armedConfig.world) ∧ Disabled sampleId overtakenConfig.world ∧
      (stopped armedConfig.world).store.fires.values.length = 0 ∧
      overtakenConfig.world.store.fires.values.length = 1 ∧
      ¬ Silent .utcOnly sampleSha256 sampleId overtakenConfig := by
  have handled : ∀ count, ∀ entry ∈ List.replicate count (0, performWith sampleId sampleTask),
      ∀ op world, (wakeMachine .utcOnly sampleSha256).exec entry.1 op world (entry.2 op world).1
        (entry.2 op world).2 := by
    intro count entry member op world
    rw [List.eq_of_mem_replicate member]
    exact performWith_performs 0 sampleId sampleTask op world
  have started : Steps (wakeMachine .utcOnly sampleSha256) (Config.initial .empty) armedConfig := by
    refine .trans (.head (.environment (.upsertSpecVersion _ sampleSchedule))
      (.head (.environment (.setState _ sampleState)) (.single (.start ?_ ?_)))) (Steps.script (handled 1) _)
    · rfl
    · exact ⟨_, _, _, _, rfl⟩
  refine ⟨started.tail (.environment (.setState _ _)), Steps.script (handled 2) _, stopped_disabled _, ?_, ?_,
    ?_, fun silent => ?_⟩
  · exact ⟨disabledState sampleState sampleDisable, by decide +kernel, rfl⟩
  · decide +kernel
  · decide +kernel
  · have stands : ((overtakenConfig.runs 0).bind fun run => nextAdmission run.resume).map (·.scheduleId) =
        some sampleId := by decide +kernel
    obtain ⟨request, waits, about⟩ := Option.map_eq_some_iff.mp stands
    obtain ⟨run, found, requests⟩ := Option.bind_eq_some_iff.mp waits
    obtain ⟨next, waiting⟩ := nextAdmission_call requests
    exact silent.requests 0 run request next found waiting about

end Samples

end KernelJson.Scheduler.EmergencyStop
