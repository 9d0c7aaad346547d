import KernelJson.Foundation.Transactions
import KernelJson.Scheduler.Histories

/-!
# The single-shot fire tool

`fireOnce` checks that an interval has exactly one due window, drives that
window through one wake without timers, and reads the fire back to report its
task.  The read-back looks for the window's key among all fires of the
schedule, so a fire of another version may answer for the one that was bound.
-/

namespace KernelJson.Scheduler.CanaryFire

open Contracts.Common
open Contracts.Digest
open Foundation
open Foundation.DurablePrograms
open Foundation.JsText
open Scheduler.CivilTime
open Scheduler.DurableTimer
open Scheduler.ExactlyOnce
open Scheduler.FireWindows
open Scheduler.Histories
open Scheduler.ScheduleStore
open Scheduler.Spec

/-! ## Input and result -/

/-- What the authority database says about the actor. -/
structure IdentitySnapshot where
  tenantExists : Bool
  principalExists : Bool
  ownerKind : Option PrincipalKind
  membershipExists : Bool

/-- An input that its schema accepts, with the explicit acknowledgement. -/
structure FireOnceInput where
  scheduleId : Id
  tenantId : Id
  actorPrincipalId : Id
  expectedActiveVersion : JsString
  lastTickMs : Int
  nowMs : Int
  owner : JsString
  leaseTtlMs : Int
  preview : Bool
  versionNonempty : expectedActiveVersion ≠ []
  ownerNonempty : owner ≠ []
  ttlBounds : 1000 ≤ leaseTtlMs ∧ leaseTtlMs ≤ 86400000

inductive CanaryFireCode where
  | malformedInput
  | unknownSchedule
  | tenantMismatch
  | unknownTenant
  | unknownPrincipal
  | actorNotHuman
  | missingTenantMembership
  | unexpectedActiveVersion
  | notFirable
  | windowNotUnique
deriving DecidableEq

inductive FireOnceFault where
  | canary (code : CanaryFireCode) (message : JsString)
  | wake (fault : WakeFault)

/-- What the preview and the execution report alike; `fireAtUtc` is the text of the instant. -/
structure FireOnceCommon where
  scheduleId : Id
  version : JsString
  fireWindowKey : JsString
  fireIdentity : Id
  idempotencyKey : JsString
  fireAtUtc : JsString

structure FireOnceExecuted extends FireOnceCommon where
  childTaskId : Id
  fireCreated : Bool
  admissionReplay : Bool

inductive FireOnceResult where
  | preview (common : FireOnceCommon)
  | executed (result : FireOnceExecuted)

/-- A check that refuses with its code. -/
def ensure (holds : Prop) [Decidable holds] (code : CanaryFireCode) (message : JsString) :
    Except FireOnceFault Unit :=
  if holds then .ok () else .error (.canary code message)

/-! ## The tool -/

section Tool

variable (intl : Intl) (sha256 : JsString → HexDigest)

/-- The checks, up to the only due window of the interval. -/
def prepare (gate : Id → Id → IdentitySnapshot) (input : FireOnceInput) (store : InMemoryScheduleStore) :
    Except FireOnceFault (ScheduleSpec intl × FireWindow) := do
  ensure (input.lastTickMs < input.nowMs) .malformedInput (js "nowMs must be strictly after lastTickMs")
  match store.getSchedule input.scheduleId with
  | none => .error (.canary .unknownSchedule (js "schedule does not exist"))
  | some (state, persisted) => do
      ensure (persisted.tenant.id = input.tenantId) .tenantMismatch (js "schedule tenant does not match input")
      let snap := gate input.tenantId input.actorPrincipalId
      ensure (snap.tenantExists = true) .unknownTenant (js "tenant does not exist")
      ensure (snap.principalExists = true) .unknownPrincipal (js "actor principal does not exist")
      ensure (snap.ownerKind = some .human) .actorNotHuman (js "actor principal is not HUMAN")
      ensure (snap.membershipExists = true) .missingTenantMembership
        (js "actor has no ACTIVE membership in the tenant")
      ensure (state.activeVersion = input.expectedActiveVersion) .unexpectedActiveVersion
        (js "expected active version " ++ input.expectedActiveVersion ++ js ", found " ++ state.activeVersion)
      match runtimeSpecFrom intl persisted state with
      | none => .error (.wake .schema)
      | some spec => do
          ensure ((canFire spec true).ok = true) .notFirable (js "not firable: " ++ (canFire spec true).reason)
          match dueFireWindows spec input.lastTickMs input.nowMs with
          | [window] => .ok (spec, window)
          | windows => .error (.canary .windowNotUnique
              (js "expected exactly one due window, found " ++ decimal windows.length))

def common (input : FireOnceInput) (spec : ScheduleSpec intl) (window : FireWindow) : FireOnceCommon where
  scheduleId := input.scheduleId
  version := spec.version
  fireWindowKey := window.fireWindowKey
  fireIdentity := fireIdentity sha256 spec window.fireWindowKey
  idempotencyKey := idempotencyKey spec window.fireWindowKey
  fireAtUtc := toISOString window.fireAtUtcMs

/-- The operations of the driver with `NoRecurringTimer`, which arms nothing. -/
def performOnce (observationId task : Id) : (op : SchedulerOp) → SchedulerWorld → op.Answer × SchedulerWorld
  | .getSchedule scheduleId, world => performWith observationId task (.getSchedule scheduleId) world
  | .claimLease scheduleId owner nowMs ttlMs, world =>
      performWith observationId task (.claimLease scheduleId owner nowMs ttlMs) world
  | .createOrGetFire input, world => performWith observationId task (.createOrGetFire input) world
  | .admitRequest request, world => performWith observationId task (.admitRequest request) world
  | .bindAdmission key binding fence, world => performWith observationId task (.bindAdmission key binding fence) world
  | .observe _, world => ([], world)
  | .cancelWake _ _, world => ((), world)
  | .scheduleWake _ _ _, world => ((), world)

/-- `store.listFires(scheduleId)`. -/
def listFires (store : InMemoryScheduleStore) (scheduleId : Id) : List ScheduleFire :=
  store.fires.values.filter fun fire => fire.scheduleId = scheduleId

/-- The read-back of the bound fire. -/
def readBack (input : FireOnceInput) (spec : ScheduleSpec intl) (window : FireWindow) (wake : WakeResult)
    (store : InMemoryScheduleStore) : Except FireOnceFault FireOnceResult :=
  if wake.gated = true then .error (.canary .notFirable (js "wake gated: " ++ wake.reason))
  else
    match ((listFires store input.scheduleId).find? fun fire => fire.fireWindowKey = window.fireWindowKey).bind
      ScheduleFire.admittedChildTaskId with
    | none => .error (.canary .notFirable (js "fire did not bind a canonical child task"))
    | some child =>
        .ok (.executed
          { common intl sha256 input spec window with
            childTaskId := child
            fireCreated := decide (0 < wake.createdFires)
            admissionReplay := decide (0 < wake.replays) })

/-- `fireOnce(store, gate, gateway, input)`, where no gateway may be given for a preview. -/
def fireOnce (gate : Id → Id → IdentitySnapshot) (observationId task : Id) (gateway : Bool) (input : FireOnceInput)
    (world : SchedulerWorld) : Except FireOnceFault FireOnceResult × SchedulerWorld :=
  match prepare intl gate input world.store with
  | .error fault => (.error fault, world)
  | .ok (spec, window) =>
      if input.preview = true then (.ok (.preview (common intl sha256 input spec window)), world)
      else if gateway = false then
        (.error (.canary .malformedInput (js "an admission gateway is required to execute")), world)
      else
        match (onWake sha256 intl ⟨input.owner, true, input.leaseTtlMs⟩ input.scheduleId input.lastTickMs
          input.nowMs).interp (performOnce observationId task) world with
        | (.error fault, after) => (.error (.wake fault), after)
        | (.ok wake, after) => (readBack intl sha256 input spec window wake after.store, after)

end Tool

/-! ## One window through the wake -/

section Wakes

variable {intl : Intl} {sha256 : JsString → HexDigest}

theorem interp_bind {α β : Type} (handle : (op : SchedulerOp) → SchedulerWorld → op.Answer × SchedulerWorld)
    (program : Wake α) (next : α → Wake β) (world : SchedulerWorld) :
    (program >>= next).interp handle world =
      (next (program.interp handle world).1).interp handle (program.interp handle world).2 := by
  induction program generalizing world with
  | ret value => rfl
  | call op rest ih => exact ih _ _

/-- What processing one window leaves in the fires: the fire of its name is bound, the others are as they were. -/
structure Processed (sha256 : JsString → HexDigest) (name : FireName) (before after : SchedulerWorld)
    (created : Bool) : Prop where
  fire : ∃ fire child, after.store.fires.get? name.key = some fire ∧ fire.name = name ∧
    fire.fireIdentity = name.identity sha256 ∧ fire.admittedChildTaskId = some child ∧
    (before.gateway.minted.get? (name.identity sha256) = some child ∨ child ∉ before.gateway.minted.values)
  others : ∀ key, key ≠ name.key → after.store.fires.get? key = before.store.fires.get? key
  first : ∀ accepts : ScheduleFire → Bool, (∀ fire, fire.name = name → accepts fire = true) →
    firstKey accepts after.store.fires = (firstKey accepts before.store.fires).or (some name.key)
  created : created = true ↔ before.store.fires.get? name.key = none

variable {spec : ScheduleSpec intl} {window : FireWindow} {fence : LeaseFence} {atMs : Int}
  {observationId task : Id} {world after : SchedulerWorld} {result : WindowResult}

/-- The fire is created, or was there under the same name and identity. -/
theorem created_or_found {store later : InMemoryScheduleStore} {minted : Minted} {fire : ScheduleFire}
    {created : Bool} (coherent : Coherent sha256 store.fires minted) (identified : Identified sha256 store.fires)
    (shaped : WindowKeyShape window.fireWindowKey)
    (ran : store.createOrGetFire (fireInput sha256 spec window atMs) = (.ok (fire, created), later)) :
    fire.name = fireName spec window.fireWindowKey ∧ fire.fireIdentity = fireIdentity sha256 spec window.fireWindowKey ∧
      later.fires.get? (idempotencyKey spec window.fireWindowKey) = some fire ∧
      ((created = false ∧ later = store ∧ store.fires.get? (idempotencyKey spec window.fireWindowKey) = some fire) ∨
        (created = true ∧ store.fires.get? (idempotencyKey spec window.fireWindowKey) = none ∧
          fire.admittedChildTaskId = none ∧
          later = { store with fires := store.fires.set (idempotencyKey spec window.fireWindowKey) fire })) := by
  rcases InMemoryScheduleStore.createOrGetFire_cases ran with
    ⟨other, found, same, rfl⟩ | ⟨other, absent, planned, same, rfl⟩ | ⟨fault, same, -⟩
  · cases same
    have old := coherent.fire _ fire found
    have named : fire.name = fireName spec window.fireWindowKey := FireName.key_inj old.shaped shaped old.keyed
    refine ⟨named, ?_, found, .inl ⟨rfl, rfl, found⟩⟩
    rw [identified _ fire found, named]
    rfl
  · cases same
    obtain ⟨-, named, own, unbound⟩ := InMemoryScheduleStore.planned_spec planned
    exact ⟨named, own, JsMap.get?_set_self _ _ _, .inr ⟨rfl, absent, unbound, rfl⟩⟩
  · cases same

/-- An unbound fire that is bound keeps its name and takes the task. -/
theorem bound_of_unbound {store later : InMemoryScheduleStore} {key : JsString} {binding : AdmissionBinding}
    {fire bound : ScheduleFire} {replay : Bool} (found : store.fires.get? key = some fire)
    (unbound : fire.admittedChildTaskId = none)
    (ran : store.bindAdmission observationId key binding fence = (.ok (bound, replay), later)) :
    ∃ admittedAt, later = { store with fires := store.fires.set key (fire.bind binding admittedAt) } := by
  unfold InMemoryScheduleStore.bindAdmission InMemoryScheduleStore.bindImpl at ran
  rw [found] at ran
  dsimp only at ran
  split at ran
  · rw [unbound] at ran
    dsimp only at ran
    cases parsed : Timestamp.parse binding.atMs with
    | none =>
        rw [parsed] at ran
        cases ran
    | some admittedAt =>
        rw [parsed] at ran
        cases ran
        exact ⟨admittedAt, rfl⟩
  · cases ran

/-- The gateway answers with the task of the identity, or with one that it never gave. -/
theorem admitted_child {request : AdmissionRequestInput} {admission : AdmissionResult} {later : SchedulerWorld}
    (ran : performWith observationId task (.admitRequest request) world = (some admission, later)) :
    later.store = world.store ∧ (world.gateway.minted.get? request.admissionIdentity = some admission.childTaskId ∨
      admission.childTaskId ∉ world.gateway.minted.values) := by
  unfold performWith at ran
  dsimp only at ran
  split at ran
  · cases ran
  · next unused =>
      cases ran
      refine ⟨rfl, ?_⟩
      cases present : world.gateway.minted.get? request.admissionIdentity with
      | some existing =>
          refine .inl ?_
          simp only [InMemoryAdmissionGateway.admitRequest, present]
      | none =>
          refine .inr fun member => unused ⟨present, ?_⟩
          simpa only [InMemoryAdmissionGateway.admitRequest, present] using member

/-- One window that goes through the fenced unit. -/
theorem processed (coherent : WorldCoherent sha256 world) (identified : Identified sha256 world.store.fires)
    (shaped : WindowKeyShape window.fireWindowKey)
    (ran : (processWindowUnderFence sha256 spec window fence atMs).interp (performOnce observationId task) world =
      (.ok result, after)) :
    Processed sha256 (fireName spec window.fireWindowKey) world after result.created := by
  unfold processWindowUnderFence at ran
  cases made : world.store.createOrGetFire (fireInput sha256 spec window atMs) with
  | mk answer store =>
  have step : performOnce observationId task (.createOrGetFire (fireInput sha256 spec window atMs)) world =
      (answer, { world with store := store }) := by
    show ((world.store.createOrGetFire (fireInput sha256 spec window atMs)).1,
      ({ world with store := (world.store.createOrGetFire (fireInput sha256 spec window atMs)).2 } : SchedulerWorld)) = _
    rw [made]
  rw [Prog.interp, step] at ran
  cases answer with
  | error fault => cases ran
  | ok pair =>
      obtain ⟨fire, created⟩ := pair
      obtain ⟨named, own, stands, origin⟩ := created_or_found coherent identified shaped made
      have key : (fireName spec window.fireWindowKey).key = idempotencyKey spec window.fireWindowKey := rfl
      have sameName : ∀ old, world.store.fires.get? (idempotencyKey spec window.fireWindowKey) = some old →
          old.name = fireName spec window.fireWindowKey := by
        intro old found
        have held := coherent.fire _ old found
        exact FireName.key_inj held.shaped shaped held.keyed
      dsimp only at ran
      cases bound : fire.admittedChildTaskId with
      | some child =>
          rw [bound] at ran
          cases ran
          rcases origin with ⟨rfl, rfl, found⟩ | ⟨-, -, unbound, -⟩
          · have minted := ((coherent.fire _ fire found).bound child bound).2.2
            rw [named] at minted
            refine ⟨⟨fire, child, found, named, own, bound, .inl minted⟩, fun _ _ => rfl, fun accepts accepted => ?_, ?_⟩
            · exact (firstKey_or found (accepted fire named)).symm
            · rw [key, found]
              exact iff_of_false Bool.noConfusion (fun none => by cases none)
          · rw [bound] at unbound
            cases unbound
      | none =>
          rw [bound] at ran
          dsimp only at ran
          cases asked : performWith observationId task (.admitRequest (admissionRequest sha256 spec window atMs))
            { world with store := store } with
          | mk admitted admittedWorld =>
          have asked' : performOnce observationId task (.admitRequest (admissionRequest sha256 spec window atMs))
              { world with store := store } = (admitted, admittedWorld) := asked
          rw [Prog.interp, asked'] at ran
          cases admitted with
          | none => cases ran
          | some admission =>
              obtain ⟨sameStore, child⟩ := admitted_child asked
              dsimp only at ran sameStore child
              cases written : admittedWorld.store.bindAdmission observationId
                (idempotencyKey spec window.fireWindowKey)
                ⟨fireIdentity sha256 spec window.fireWindowKey, admission.childTaskId, atMs⟩ fence with
              | mk answer boundStore =>
              have step : performOnce observationId task (.bindAdmission (idempotencyKey spec window.fireWindowKey)
                  ⟨fireIdentity sha256 spec window.fireWindowKey, admission.childTaskId, atMs⟩ fence) admittedWorld =
                  (answer, { admittedWorld with store := boundStore }) := by
                show ((admittedWorld.store.bindAdmission observationId (idempotencyKey spec window.fireWindowKey)
                    ⟨fireIdentity sha256 spec window.fireWindowKey, admission.childTaskId, atMs⟩ fence).1,
                  ({ admittedWorld with store := (admittedWorld.store.bindAdmission observationId
                    (idempotencyKey spec window.fireWindowKey)
                    ⟨fireIdentity sha256 spec window.fireWindowKey, admission.childTaskId, atMs⟩ fence).2 } :
                    SchedulerWorld)) = _
                rw [written]
              rw [Prog.interp, step] at ran
              cases answer with
              | error fault => cases ran
              | ok pair =>
                  obtain ⟨boundFire, replay⟩ := pair
                  cases ran
                  rw [sameStore] at written
                  obtain ⟨admittedAt, rfl⟩ := bound_of_unbound stands bound written
                  refine ⟨⟨_, admission.childTaskId, JsMap.get?_set_self _ _ _, named, own, rfl, child⟩,
                    fun other different => ?_, fun accepts accepted => ?_, ?_⟩
                  · rw [key] at different
                    dsimp only
                    rw [JsMap.get?_set_of_ne _ (Ne.symm different)]
                    rcases origin with ⟨-, rfl, -⟩ | ⟨-, -, -, rfl⟩
                    · rfl
                    · exact JsMap.get?_set_of_ne _ (Ne.symm different) _
                  · have kept : ∀ old, world.store.fires.get? (idempotencyKey spec window.fireWindowKey) = some old →
                        accepts old = true := fun old found => accepted old (sameName old found)
                    have boundNamed : (fire.bind ⟨fireIdentity sha256 spec window.fireWindowKey, admission.childTaskId,
                        atMs⟩ admittedAt).name = fireName spec window.fireWindowKey := named
                    dsimp only
                    rw [key, firstKey_set (accepted _ boundNamed) fun old found => ?_]
                    · rcases origin with ⟨-, rfl, -⟩ | ⟨-, -, -, rfl⟩
                      · rfl
                      · rw [firstKey_set (accepted fire named) kept, Option.or_assoc, Option.or_self]
                    · rw [stands] at found
                      cases found
                      exact accepted fire named
                  · rw [key]
                    rcases origin with ⟨rfl, -, found⟩ | ⟨rfl, absent, -, -⟩
                    · rw [found]
                      exact iff_of_false Bool.noConfusion (fun none => by cases none)
                    · exact iff_of_true rfl absent

/-- Two worlds with one set of fires and one gateway are processed alike. -/
theorem Processed.of_claimed {name : FireName} {claimed : SchedulerWorld} {created : Bool}
    (done : Processed sha256 name claimed after created) (fires : claimed.store.fires = world.store.fires)
    (gateway : claimed.gateway = world.gateway) : Processed sha256 name world after created := by
  obtain ⟨fire, others, first, made⟩ := done
  rw [fires] at others first made
  rw [gateway] at fire
  exact ⟨fire, others, first, made⟩

theorem armNext_interp {scheduleId : Id} {reason : JsString} {nowMs : Int} {tally : Tally} {wake : WakeResult}
    (ran : (armNext spec scheduleId reason nowMs tally).interp (performOnce observationId task) world =
      (.ok wake, after)) : after = world ∧ wake.createdFires = tally.created := by
  unfold armNext at ran
  dsimp only at ran
  split at ran
  · cases ran
    exact ⟨rfl, rfl⟩
  · cases ran
    exact ⟨rfl, rfl⟩

/-- A wake that goes through processes the only window of its interval. -/
theorem wake_processed {opts : DriverOptions} {scheduleId : Id} {lastTickMs nowMs : Int} {wake : WakeResult}
    {state : PersistedScheduleState} {persisted : PersistedScheduleSpec}
    (coherent : WorldCoherent sha256 world) (identified : Identified sha256 world.store.fires)
    (schedule : world.store.getSchedule scheduleId = some (state, persisted))
    (derived : runtimeSpecFrom intl persisted state = some spec)
    (only : dueFireWindows spec lastTickMs nowMs = [window])
    (ran : (onWake sha256 intl opts scheduleId lastTickMs nowMs).interp (performOnce observationId task) world =
      (.ok wake, after)) (ungated : wake.gated = false) :
    Processed sha256 (fireName spec window.fireWindowKey) world after (decide (0 < wake.createdFires)) := by
  have shaped : WindowKeyShape window.fireWindowKey :=
    dueFireWindows_shape (show window ∈ dueFireWindows spec lastTickMs nowMs by rw [only]; exact List.mem_singleton_self _)
  unfold onWake at ran
  have read : performOnce observationId task (.getSchedule scheduleId) world = (some (state, persisted), world) := by
    show (world.store.getSchedule scheduleId, world) = _
    rw [schedule]
  rw [Prog.interp, read] at ran
  dsimp only at ran
  rw [derived] at ran
  dsimp only at ran
  split at ran
  · unfold fireDue at ran
    cases claim : world.store.claimLease observationId scheduleId opts.owner nowMs opts.leaseTtlMs with
    | mk answer store =>
    have fires := InMemoryScheduleStore.claimLease_fires world.store observationId scheduleId opts.owner nowMs
      opts.leaseTtlMs
    rw [claim] at fires
    have step : performOnce observationId task (.claimLease scheduleId opts.owner nowMs opts.leaseTtlMs) world =
        (answer, { world with store := store }) := by
      show ((world.store.claimLease observationId scheduleId opts.owner nowMs opts.leaseTtlMs).1,
        ({ world with store := (world.store.claimLease observationId scheduleId opts.owner nowMs
          opts.leaseTtlMs).2 } : SchedulerWorld)) = _
      rw [claim]
    rw [Prog.interp, step] at ran
    cases answer with
    | error fault => cases ran
    | ok lease =>
        cases lease with
        | none =>
            cases ran
            cases ungated
        | some lease =>
            dsimp only at ran fires
            rw [only, interp_bind, processWindows, interp_bind] at ran
            cases unit : (processWindowUnderFence sha256 spec window lease.fence nowMs).interp
              (performOnce observationId task) { world with store := store } with
            | mk outcome done =>
            rw [unit] at ran
            cases outcome with
            | error fault => cases ran
            | ok result =>
                obtain ⟨same, created⟩ := armNext_interp ran
                have claimedCoherent : WorldCoherent sha256 { world with store := store } :=
                  (frame_keeps coherent (show ({ world with store := store } : SchedulerWorld).store.fires =
                    world.store.fires from fires) rfl).1
                have claimedIdentified : Identified sha256 store.fires := by
                  rw [fires]
                  exact identified
                have made := (processed claimedCoherent claimedIdentified shaped unit).of_claimed fires rfl
                have flag : decide (0 < wake.createdFires) = result.created := by
                  rw [created]
                  unfold Tally.add
                  cases result.created with
                  | true => rfl
                  | false => rfl
                rw [flag, same]
                exact made
  · next refused =>
      rw [Prog.interp] at ran
      cases ran
      cases ungated

end Wakes

/-! ## What the result reports -/

/-- The task and the identity are those of the bound fire of this name, and the flag says who created it. -/
structure Reports (scheduleId : Id) (version : JsString) (before after : SchedulerWorld)
    (result : FireOnceExecuted) : Prop where
  bound : ∃ fire ∈ firesOf after, fire.name = ⟨scheduleId, version, result.fireWindowKey⟩ ∧
    fire.admittedChildTaskId = some result.childTaskId ∧ fire.fireIdentity = result.fireIdentity
  created : result.fireCreated = true ↔
    ∀ fire ∈ firesOf before, fire.name ≠ ⟨scheduleId, version, result.fireWindowKey⟩

/-- The first fire of the window, in the order of insertion, is not one of another version. -/
def OwnVersionFirst (scheduleId : Id) (version : JsString) (fireWindowKey : JsString)
    (store : InMemoryScheduleStore) : Prop :=
  ∀ fire, ((listFires store scheduleId).find? fun fire => fire.fireWindowKey = fireWindowKey) = some fire →
    fire.version = version

section Reporting

variable {intl : Intl} {sha256 : JsString → HexDigest} {gate : Id → Id → IdentitySnapshot}
  {input : FireOnceInput} {spec : ScheduleSpec intl} {window : FireWindow} {observationId task : Id}
  {before after : SchedulerWorld} {result : FireOnceExecuted}

/-- What an accepted input has established. -/
theorem prepare_ok {store : InMemoryScheduleStore} (checked : prepare intl gate input store = .ok (spec, window)) :
    ∃ state persisted, store.getSchedule input.scheduleId = some (state, persisted) ∧
      runtimeSpecFrom intl persisted state = some spec ∧
      dueFireWindows spec input.lastTickMs input.nowMs = [window] := by
  unfold prepare at checked
  obtain ⟨⟨⟩, -, checked⟩ := Transactions.bind_ok checked
  cases schedule : store.getSchedule input.scheduleId with
  | none =>
      rw [schedule] at checked
      cases checked
  | some current =>
      obtain ⟨state, persisted⟩ := current
      rw [schedule] at checked
      dsimp only at checked
      obtain ⟨⟨⟩, -, checked⟩ := Transactions.bind_ok checked
      obtain ⟨⟨⟩, -, checked⟩ := Transactions.bind_ok checked
      obtain ⟨⟨⟩, -, checked⟩ := Transactions.bind_ok checked
      obtain ⟨⟨⟩, -, checked⟩ := Transactions.bind_ok checked
      obtain ⟨⟨⟩, -, checked⟩ := Transactions.bind_ok checked
      obtain ⟨⟨⟩, -, checked⟩ := Transactions.bind_ok checked
      cases derived : runtimeSpecFrom intl persisted state with
      | none =>
          rw [derived] at checked
          cases checked
      | some found =>
          rw [derived] at checked
          dsimp only at checked
          obtain ⟨⟨⟩, -, checked⟩ := Transactions.bind_ok checked
          split at checked
          · next only =>
              cases checked
              exact ⟨state, persisted, rfl, derived, only⟩
          · cases checked

/-- The specification is that of the schedule. -/
theorem prepared_schedule {store : InMemoryScheduleStore} (filed : Filed store.specs)
    {state : PersistedScheduleState} {persisted : PersistedScheduleSpec}
    (schedule : store.getSchedule input.scheduleId = some (state, persisted))
    (derived : runtimeSpecFrom intl persisted state = some spec) : spec.scheduleId = input.scheduleId := by
  unfold InMemoryScheduleStore.getSchedule at schedule
  simp only [Option.bind_eq_bind, Option.bind_eq_some_iff] at schedule
  obtain ⟨found, -, stored, here, same⟩ := schedule
  cases same
  have keyed := InMemoryScheduleStore.specKey_inj.mp (filed _ _ here)
  unfold runtimeSpecFrom at derived
  split at derived
  · cases derived
    exact (congrArg Prod.fst keyed).symm
  · cases derived

/-- A fire of the schedule and the window, of any version. -/
def ofWindow (scheduleId : Id) (fireWindowKey : JsString) (fire : ScheduleFire) : Bool :=
  decide (fire.scheduleId = scheduleId) && decide (fire.fireWindowKey = fireWindowKey)

theorem find?_listFires (store : InMemoryScheduleStore) (scheduleId : Id) (fireWindowKey : JsString) :
    ((listFires store scheduleId).find? fun fire => fire.fireWindowKey = fireWindowKey) =
      (firstKey (ofWindow scheduleId fireWindowKey) store.fires).bind store.fires.get? := by
  have both : (fun fire : ScheduleFire => decide (decide (fire.scheduleId = scheduleId) = true ∧
      decide (fire.fireWindowKey = fireWindowKey) = true)) = ofWindow scheduleId fireWindowKey := by
    funext fire
    unfold ofWindow
    simp only [decide_eq_true_eq, Bool.decide_and]
  unfold listFires
  rw [List.find?_filter, both]
  exact find?_values store.fires

/-- An execution drove the only window through one wake and read a fire of that window. -/
theorem fireOnce_executed (checked : prepare intl gate input before.store = .ok (spec, window)) {gateway : Bool}
    (ran : fireOnce intl sha256 gate observationId task gateway input before = (.ok (.executed result), after)) :
    ∃ wake, (onWake sha256 intl ⟨input.owner, true, input.leaseTtlMs⟩ input.scheduleId input.lastTickMs
        input.nowMs).interp (performOnce observationId task) before = (.ok wake, after) ∧ wake.gated = false ∧
      (∃ fire, ((listFires after.store input.scheduleId).find? fun fire =>
          fire.fireWindowKey = window.fireWindowKey) = some fire ∧
        fire.admittedChildTaskId = some result.childTaskId) ∧
      result.fireWindowKey = window.fireWindowKey ∧
      result.fireIdentity = fireIdentity sha256 spec window.fireWindowKey ∧
      result.fireCreated = decide (0 < wake.createdFires) := by
  unfold fireOnce at ran
  rw [checked] at ran
  dsimp only at ran
  split at ran
  · cases ran
  · split at ran
    · cases ran
    · cases woken : (onWake sha256 intl ⟨input.owner, true, input.leaseTtlMs⟩ input.scheduleId input.lastTickMs
        input.nowMs).interp (performOnce observationId task) before with
      | mk outcome later =>
      rw [woken] at ran
      cases outcome with
      | error fault => cases ran
      | ok wake =>
          obtain ⟨answered, rfl⟩ := Prod.mk.inj ran
          unfold readBack at answered
          split at answered
          · cases answered
          · next ungated =>
              split at answered
              · cases answered
              · next child found =>
                  cases answered
                  obtain ⟨fire, first, bound⟩ := Option.bind_eq_some_iff.mp found
                  exact ⟨wake, rfl, Bool.eq_false_iff.mpr ungated, ⟨fire, first, bound⟩, rfl, rfl, rfl⟩

/-- The fires that carry the name after the window was processed are one. -/
theorem Processed.unique {name : FireName} {created : Bool} (coherent : WorldCoherent sha256 before)
    (done : Processed sha256 name before after created) {key : JsString} {fire : ScheduleFire}
    (found : after.store.fires.get? key = some fire) (named : fire.name = name) : key = name.key := by
  by_cases same : key = name.key
  · exact same
  · rw [done.others key same] at found
    rw [← (coherent.fire key fire found).keyed, named]

/-- The first fire of the window that is listed afterwards has the name exactly when no other was first before. -/
theorem Processed.first_named {name : FireName} {created : Bool} (coherent : WorldCoherent sha256 before)
    (shaped : WindowKeyShape name.fireWindowKey) (done : Processed sha256 name before after created)
    {fire : ScheduleFire} (first : ((listFires after.store name.scheduleId).find? fun fire =>
      fire.fireWindowKey = name.fireWindowKey) = some fire) :
    fire.name = name ↔ OwnVersionFirst name.scheduleId name.version name.fireWindowKey before.store := by
  have accepted : ∀ other : ScheduleFire, other.name = name →
      ofWindow name.scheduleId name.fireWindowKey other = true := by
    rintro other rfl
    exact Bool.and_eq_true_iff.mpr ⟨decide_eq_true rfl, decide_eq_true rfl⟩
  obtain ⟨own, child, stands, named, -⟩ := done.fire
  unfold OwnVersionFirst
  rw [find?_listFires]
  rw [find?_listFires, done.first _ accepted] at first
  cases earlier : firstKey (ofWindow name.scheduleId name.fireWindowKey) before.store.fires with
  | none =>
      rw [earlier] at first
      have here : after.store.fires.get? name.key = some fire := first
      rw [stands] at here
      cases here
      exact iff_of_true named fun other none => by cases none
  | some key =>
      rw [earlier] at first
      have here : after.store.fires.get? key = some fire := first
      by_cases same : key = name.key
      · rw [same, stands] at here
        cases here
        refine iff_of_true named fun other found => ?_
        have held := coherent.fire key other found
        exact congrArg FireName.version (FireName.key_inj held.shaped shaped (held.keyed.trans same))
      · rw [done.others key same] at here
        have chosen : ofWindow name.scheduleId name.fireWindowKey fire = true := by
          have listed : before.store.fires.values.find? (ofWindow name.scheduleId name.fireWindowKey) = some fire := by
            rw [find?_values, earlier]
            exact here
          exact List.find?_some listed
        obtain ⟨ofSchedule, ofKey⟩ := Bool.and_eq_true_iff.mp chosen
        constructor
        · rintro rfl other found
          have sameFire : before.store.fires.get? key = some other := found
          rw [here] at sameFire
          cases sameFire
          rfl
        · intro ownFirst
          have version : fire.version = name.version := ownFirst fire here
          unfold ScheduleFire.name
          rw [of_decide_eq_true ofSchedule, version, of_decide_eq_true ofKey]

/-- Along every history, an execution reports the fire that it bound exactly when the first fire of the
window, if the schedule has one, is of the version that fires. -/
theorem fireOnce_reports_iff (history : History sha256 before)
    (checked : prepare intl gate input before.store = .ok (spec, window)) {gateway : Bool}
    (ran : fireOnce intl sha256 gate observationId task gateway input before = (.ok (.executed result), after))
    (collisionFree : CollisionFree sha256 after) :
    Reports input.scheduleId spec.version before after result ↔
      OwnVersionFirst input.scheduleId spec.version window.fireWindowKey before.store := by
  obtain ⟨coherent, identified, filed⟩ := history.sound
  obtain ⟨state, persisted, schedule, derived, only⟩ := prepare_ok checked
  obtain ⟨wake, woken, ungated, ⟨fire, first, reported⟩, sameWindow, identity, flag⟩ := fireOnce_executed checked ran
  have own : spec.scheduleId = input.scheduleId := prepared_schedule filed schedule derived
  have shaped : WindowKeyShape window.fireWindowKey :=
    dueFireWindows_shape (show window ∈ dueFireWindows spec input.lastTickMs input.nowMs by
      rw [only]
      exact List.mem_singleton_self _)
  have done := wake_processed coherent identified schedule derived only woken ungated
  rw [← own] at first ⊢
  refine Iff.trans ?_ (done.first_named coherent shaped first)
  obtain ⟨bound, child, stands, named, ownIdentity, boundChild, origin⟩ := done.fire
  obtain ⟨key, here⟩ := JsMap.mem_values.mp (List.mem_filter.mp (List.mem_of_find?_eq_some first)).1
  constructor
  · rintro ⟨⟨other, member, otherNamed, otherChild, -⟩, -⟩
    rw [sameWindow] at otherNamed
    obtain ⟨otherKey, there⟩ := JsMap.mem_values.mp member
    rw [done.unique coherent there otherNamed, stands] at there
    cases there
    rw [boundChild] at otherChild
    cases otherChild
    by_cases same : key = (fireName spec window.fireWindowKey).key
    · rw [same, stands] at here
      cases here
      exact named
    · -- a task of another fire was minted for the identity of that fire, hence not for this one
      rw [done.others key same] at here
      have minted := ((coherent.fire key fire here).bound _ reported).2.2
      rcases origin with old | fresh
      · refine collisionFree fire (JsMap.mem_values.mpr ⟨key, (done.others key same).trans here⟩) bound
          (JsMap.mem_values.mpr ⟨_, stands⟩) ?_ |>.trans named
        rw [named]
        exact coherent.once _ _ _ minted old
      · exact absurd (JsMap.mem_values.mpr ⟨_, minted⟩) fresh
  · intro named'
    rw [done.unique coherent here named', stands] at here
    cases here
    refine ⟨⟨fire, JsMap.mem_values.mpr ⟨_, stands⟩, ?_, reported, ?_⟩, ?_⟩
    · rw [sameWindow]
      exact named
    · rw [ownIdentity, identity]
      rfl
    · rw [flag, done.created, sameWindow]
      constructor
      · intro absent other member otherNamed
        obtain ⟨otherKey, there⟩ := JsMap.mem_values.mp member
        have keyed := (coherent.fire otherKey other there).keyed
        rw [otherNamed] at keyed
        rw [show (fireName spec window.fireWindowKey).key = otherKey from keyed, there] at absent
        cases absent
      · intro none
        cases present : before.store.fires.get? (fireName spec window.fireWindowKey).key with
        | none => rfl
        | some other =>
            have held := coherent.fire _ other present
            exact absurd (FireName.key_inj held.shaped shaped held.keyed) (none other (JsMap.mem_values.mpr ⟨_, present⟩))

end Reporting

/-! ## An execution extends the history -/

section Extension

variable {intl : Intl} {sha256 : JsString → HexDigest} {observationId task : Id}

/-- Every operation of the program, run alone, is one that wakes issue. -/
def IssuedAlong {α : Type} (sha256 : JsString → HexDigest) (observationId task : Id) :
    Wake α → SchedulerWorld → Prop
  | .ret _, _ => True
  | .call op next, world => Issued sha256 world op ∧
      IssuedAlong sha256 observationId task (next (performOnce observationId task op world).1)
        (performOnce observationId task op world).2

theorem performOnce_history {op : SchedulerOp} {world : SchedulerWorld} (history : History sha256 world)
    (issued : Issued sha256 world op) : History sha256 (performOnce observationId task op world).2 := by
  cases op with
  | getSchedule scheduleId => exact history
  | claimLease scheduleId owner nowMs ttlMs =>
      exact .performed history issued (performWith_performs 0 observationId task _ world)
  | createOrGetFire input => exact .performed history issued (performWith_performs 0 observationId task _ world)
  | admitRequest request => exact .performed history issued (performWith_performs 0 observationId task _ world)
  | bindAdmission key binding fence =>
      exact .performed history issued (performWith_performs 0 observationId task _ world)
  | observe scheduleId => exact history
  | cancelWake scheduleId wakeKey => exact history
  | scheduleWake scheduleId wakeKey fireAtUtcMs => exact history

theorem IssuedAlong.history {α : Type} {program : Wake α} {world : SchedulerWorld} (history : History sha256 world)
    (issued : IssuedAlong sha256 observationId task program world) :
    History sha256 (program.interp (performOnce observationId task) world).2 := by
  induction program generalizing world with
  | ret value => exact history
  | call op next ih => exact ih _ (performOnce_history history issued.1) issued.2

theorem IssuedAlong.bind {α β : Type} {program : Wake α} {next : α → Wake β} {world : SchedulerWorld}
    (first : IssuedAlong sha256 observationId task program world)
    (rest : ∀ value later, IssuedAlong sha256 observationId task (next value) later) :
    IssuedAlong sha256 observationId task (program >>= next) world := by
  induction program generalizing world with
  | ret value => exact rest value world
  | call op after ih => exact ⟨first.1, ih _ first.2⟩

/-- A task that the gateway answers with is the one minted for the identity. -/
theorem performOnce_minted (sha256 : JsString → HexDigest) (observationId task : Id) (spec : ScheduleSpec intl)
    (window : FireWindow) (atMs : Int) (world : SchedulerWorld) : ∀ admission,
      (performOnce observationId task (.admitRequest (admissionRequest sha256 spec window atMs)) world).1 =
        some admission →
      (performOnce observationId task (.admitRequest (admissionRequest sha256 spec window atMs)) world).2.gateway.minted.get?
        ((fireName spec window.fireWindowKey).identity sha256) = some admission.childTaskId := by
  intro admission answered
  obtain ⟨gateway, admits, after⟩ := performWith_performs 0 observationId task
    (.admitRequest (admissionRequest sha256 spec window atMs)) world
  have minted := (admits_spec admits).2.2 admission answered
  show (performWith observationId task (.admitRequest (admissionRequest sha256 spec window atMs))
    world).2.gateway.minted.get? _ = _
  rw [after]
  exact minted

theorem processWindow_issued (spec : ScheduleSpec intl) {window : FireWindow}
    (shaped : WindowKeyShape window.fireWindowKey) (fence : LeaseFence) (atMs : Int) (world : SchedulerWorld) :
    IssuedAlong sha256 observationId task (processWindowUnderFence sha256 spec window fence atMs) world := by
  refine ⟨⟨intl, spec, window, atMs, shaped, rfl⟩, ?_⟩
  cases (performOnce observationId task (.createOrGetFire (fireInput sha256 spec window atMs)) world).1 with
  | error fault => trivial
  | ok made =>
      obtain ⟨fire, created⟩ := made
      dsimp only
      cases fire.admittedChildTaskId with
      | some child => trivial
      | none =>
          refine ⟨trivial, ?_⟩
          have minted := performOnce_minted sha256 observationId task spec window atMs
            (performOnce observationId task (.createOrGetFire (fireInput sha256 spec window atMs)) world).2
          revert minted
          generalize performOnce observationId task (.admitRequest (admissionRequest sha256 spec window atMs))
            (performOnce observationId task (.createOrGetFire (fireInput sha256 spec window atMs)) world).2 = asked
          intro minted
          obtain ⟨answer, after⟩ := asked
          cases answer with
          | none => trivial
          | some admission =>
              refine ⟨⟨fireName spec window.fireWindowKey, shaped, rfl, rfl, minted admission rfl⟩, ?_⟩
              dsimp only
              split <;> trivial

theorem processWindows_issued (spec : ScheduleSpec intl) (fence : LeaseFence) (atMs : Int)
    {windows : List FireWindow} (tally : Tally) (world : SchedulerWorld)
    (shaped : ∀ window ∈ windows, WindowKeyShape window.fireWindowKey) :
    IssuedAlong sha256 observationId task (processWindows sha256 spec fence atMs windows tally) world := by
  induction windows generalizing tally world with
  | nil => trivial
  | cons window rest ih =>
      refine (processWindow_issued spec (shaped window List.mem_cons_self) fence atMs world).bind ?_
      intro result later
      cases result with
      | error fault => trivial
      | ok result => exact ih (tally.add result) later fun other member => shaped other (List.mem_cons_of_mem _ member)

theorem cancelWakes_issued (scheduleId : Id) (wakes : List OutstandingWake) (world : SchedulerWorld) :
    IssuedAlong sha256 observationId task (cancelWakes scheduleId wakes) world := by
  induction wakes generalizing world with
  | nil => trivial
  | cons wake rest ih => exact ⟨trivial, ih _⟩

theorem armNext_issued (spec : ScheduleSpec intl) (scheduleId : Id) (reason : JsString) (nowMs : Int)
    (tally : Tally) (world : SchedulerWorld) :
    IssuedAlong sha256 observationId task (armNext spec scheduleId reason nowMs tally) world := by
  unfold armNext
  dsimp only
  cases nextWindowAfter spec nowMs with
  | none => trivial
  | some next => exact ⟨trivial, trivial⟩

theorem onWake_issued (intl : Intl) (opts : DriverOptions) (scheduleId : Id) (lastTickMs nowMs : Int)
    (world : SchedulerWorld) :
    IssuedAlong sha256 observationId task (onWake sha256 intl opts scheduleId lastTickMs nowMs) world := by
  refine ⟨trivial, ?_⟩
  cases (performOnce observationId task (.getSchedule scheduleId) world).1 with
  | none => trivial
  | some schedule =>
      obtain ⟨state, persisted⟩ := schedule
      dsimp only
      cases runtimeSpecFrom intl persisted state with
      | none => trivial
      | some spec =>
          dsimp only
          split
          · refine ⟨trivial, ?_⟩
            dsimp only
            split
            · trivial
            · trivial
            · next lease _ =>
                refine (processWindows_issued spec lease.fence nowMs _ _ fun window member =>
                  dueFireWindows_shape member).bind ?_
                intro tally later
                cases tally with
                | error fault => trivial
                | ok tally => exact armNext_issued spec scheduleId _ nowMs tally later
          · refine ⟨trivial, (cancelWakes_issued scheduleId _ _).bind fun _ _ => ?_⟩
            trivial

/-- What an execution leaves behind is again a history. -/
theorem fireOnce_history {gate : Id → Id → IdentitySnapshot} {gateway : Bool} {input : FireOnceInput}
    {world : SchedulerWorld} (history : History sha256 world) :
    History sha256 (fireOnce intl sha256 gate observationId task gateway input world).2 := by
  unfold fireOnce
  split
  · exact history
  · split
    · exact history
    · split
      · exact history
      · have extended := (@onWake_issued sha256 observationId task intl ⟨input.owner, true, input.leaseTtlMs⟩ input.scheduleId input.lastTickMs
          input.nowMs world).history history
        split
        · next here =>
            rw [here] at extended
            exact extended
        · next here =>
            rw [here] at extended
            exact extended

end Extension

/-! ## A schedule in two versions -/

section Sample

def canaryId : Id := ⟨js "6b1d3a50-2f4c-4e7b-9a86-0c5d7e9f1b23", by decide⟩

/-- The task of the fire of the first version. -/
def earlierTask : Id := ⟨js "71a6b0c2-94de-4f38-8b1a-5e2d3c4f6a70", by decide⟩

/-- The task of the fire of the second version. -/
def laterTask : Id := ⟨js "92e4d7f1-06ab-4c53-a9b8-7f1e0d2c3b64", by decide⟩

theorem version_nonempty (number : Nat) : js "v" ++ decimal number ≠ [] :=
  List.append_ne_nil_of_left_ne_nil (List.cons_ne_nil _ _) _

/-- A production schedule of every five minutes, in its version `v1`, `v2`, … -/
def canarySchedule (number : Nat) : PersistedScheduleSpec where
  scheduleId := canaryId
  version := js "v" ++ decimal number
  tenant := ⟨canaryId⟩
  principal := ⟨canaryId, .service⟩
  owner := ⟨canaryId, .human⟩
  name := js "canary"
  timezone := js "UTC"
  calendar := sampleSchedule.calendar
  missedRunPolicy := .skip
  overlapPolicy := .forbid
  nonexistentTimePolicy := .skip
  maxBackfillRuns := 0
  perScheduleConcurrency := 1
  enabledForProduction := true
  createdAt := .epoch
  createdBy := canaryId
  versionNonempty := version_nonempty number
  nameBounds := by decide
  timezoneNonempty := sampleSchedule.timezoneNonempty
  concurrencyPositive := sampleSchedule.concurrencyPositive

def canaryState (number : Nat) : PersistedScheduleState where
  scheduleId := canaryId
  state := .enabled
  activeVersion := js "v" ++ decimal number
  updatedAt := .epoch
  updatedBy := canaryId
  activeVersionNonempty := version_nonempty number

/-- The digests of the identity texts of the window `everyNMinutes/5@0` in both versions. -/
def canarySha256 (text : JsString) : HexDigest :=
  if text = js ("[\"kerneljson:phase4:v1\",[\"kj-schedule-fire/v1\"," ++
      "\"6b1d3a50-2f4c-4e7b-9a86-0c5d7e9f1b23\",\"v1\",\"everyNMinutes/5@0\"]]")
  then .ofDigits
    [0x5, 0x2, 0xa, 0xe, 0xb, 0x0, 0xe, 0x0, 0xa, 0xc, 0xa, 0x6, 0xb, 0xd, 0xd, 0xb, 0x0, 0xe, 0xb, 0x1,
      0x2, 0xc, 0xd, 0x2, 0x3, 0x7, 0x5, 0x1, 0x0, 0x8, 0x8, 0x3, 0x1, 0x0, 0x5, 0xf, 0xd, 0x9, 0x9, 0x5,
      0x1, 0xd, 0x6, 0xe, 0x9, 0x7, 0x5, 0x3, 0x9, 0x9, 0x9, 0x9, 0xa, 0x0, 0x1, 0x5, 0xd, 0x2, 0xd, 0x4,
      0x7, 0x8, 0x7, 0x7]
  else .ofDigits
    [0xb, 0x5, 0xa, 0x3, 0xd, 0xc, 0xe, 0xa, 0x9, 0x0, 0x8, 0xe, 0xf, 0xe, 0x2, 0x7, 0x8, 0xd, 0x3, 0x1,
      0x7, 0x0, 0xe, 0xe, 0xb, 0xd, 0x1, 0x3, 0xc, 0xe, 0x1, 0xd, 0x0, 0x0, 0x7, 0x4, 0x7, 0x0, 0x6, 0xc,
      0x1, 0x2, 0x2, 0xc, 0xe, 0x8, 0x6, 0x6, 0xe, 0x6, 0xf, 0x9, 0x0, 0x8, 0xa, 0x4, 0x5, 0xf, 0x2, 0x0,
      0xe, 0x3, 0x5, 0x5]

def canaryInput (number : Nat) (nowMs : Int) : FireOnceInput where
  scheduleId := canaryId
  tenantId := canaryId
  actorPrincipalId := canaryId
  expectedActiveVersion := js "v" ++ decimal number
  lastTickMs := 0
  nowMs := nowMs
  owner := js "fire-once"
  leaseTtlMs := 1000
  preview := false
  versionNonempty := version_nonempty number
  ownerNonempty := by decide
  ttlBounds := by decide

def canaryGate (_tenant _principal : Id) : IdentitySnapshot :=
  ⟨true, true, some .human, true⟩

/-- The schedule stands in the given version. -/
def activated (number : Nat) (world : SchedulerWorld) : SchedulerWorld :=
  { world with store := (world.store.upsertSpecVersion (canarySchedule number)).2.setState (canaryState number) }

def canaryFire (number : Nat) (nowMs : Int) (task : Id) (world : SchedulerWorld) :
    Except FireOnceFault FireOnceResult × SchedulerWorld :=
  fireOnce .utcOnly canarySha256 canaryGate canaryId task true (canaryInput number nowMs) world

def executedOf : Except FireOnceFault FireOnceResult → Option FireOnceExecuted
  | .ok (.executed result) => some result
  | _ => none

/-- The first version fires its window, and the second one becomes active. -/
def upgraded : SchedulerWorld :=
  activated 2 (canaryFire 1 1 earlierTask (activated 1 .empty)).2

theorem executedOf_some {run : Except FireOnceFault FireOnceResult × SchedulerWorld} {result : FireOnceExecuted}
    (done : executedOf run.1 = some result) : run = (.ok (.executed result), run.2) := by
  obtain ⟨outcome, after⟩ := run
  unfold executedOf at done
  dsimp only at done
  split at done
  · cases done
    rfl
  · cases done

theorem checked_of {intl : Intl} {checked : Except FireOnceFault (ScheduleSpec intl × FireWindow)}
    {version key : JsString}
    (done : (checked.toOption.map fun pair => (pair.1.version, pair.2.fireWindowKey)) = some (version, key)) :
    ∃ spec window, checked = .ok (spec, window) ∧ spec.version = version ∧ window.fireWindowKey = key := by
  cases checked with
  | error fault => cases done
  | ok pair =>
      obtain ⟨spec, window⟩ := pair
      cases done
      exact ⟨spec, window, rfl, rfl, rfl⟩

theorem activated_history {number : Nat} {world : SchedulerWorld} (history : History canarySha256 world) :
    History canarySha256 (activated number world) :=
  .moved (.moved history (.upsertSpecVersion _ (canarySchedule number))) (.setState _ (canaryState number))

theorem canaryFire_history {number : Nat} {nowMs : Int} {task : Id} {world : SchedulerWorld}
    (history : History canarySha256 world) : History canarySha256 (canaryFire number nowMs task world).2 :=
  fireOnce_history history

/-- The first version fires its window and reports it. -/
theorem first_version_reported :
    ∃ result after, canaryFire 1 1 earlierTask (activated 1 .empty) = (.ok (.executed result), after) ∧
      result.childTaskId = earlierTask ∧ Reports canaryId (js "v1") (activated 1 .empty) after result := by
  obtain ⟨spec, window, checked, version, -⟩ :=
    @checked_of .utcOnly (prepare .utcOnly canaryGate (canaryInput 1 1) (activated 1 .empty).store) (js "v1")
      (js "everyNMinutes/5@0") (by decide +kernel)
  have evaluated : (executedOf (canaryFire 1 1 earlierTask (activated 1 .empty)).1).map (·.childTaskId) =
      some earlierTask ∧ CollisionFree canarySha256 (canaryFire 1 1 earlierTask (activated 1 .empty)).2 ∧
      listFires (activated 1 .empty).store canaryId = [] := by
    unfold CollisionFree
    decide +kernel
  obtain ⟨task, collisionFree, nothing⟩ := evaluated
  obtain ⟨result, executed, child⟩ := Option.map_eq_some_iff.mp task
  have ran := executedOf_some executed
  have reports := (fireOnce_reports_iff (activated_history .empty) checked ran collisionFree).mpr
    fun fire found => by
      rw [show listFires (activated 1 .empty).store (canaryInput 1 1).scheduleId = [] from nothing] at found
      cases found
  rw [version] at reports
  exact ⟨result, _, ran, child, reports⟩

/-- After the second version became active, it fires the same window and reports the task of the first. -/
theorem second_version_misreported :
    History canarySha256 upgraded ∧
      CollisionFree canarySha256 (canaryFire 2 2000 laterTask upgraded).2 ∧
      ∃ result after, canaryFire 2 2000 laterTask upgraded = (.ok (.executed result), after) ∧
        result.childTaskId = earlierTask ∧
        (∃ fire ∈ firesOf after, fire.name = ⟨canaryId, js "v2", js "everyNMinutes/5@0"⟩ ∧
          fire.admittedChildTaskId = some laterTask) ∧
        ¬ Reports canaryId (js "v2") upgraded after result := by
  have evaluated : CollisionFree canarySha256 (canaryFire 2 2000 laterTask upgraded).2 ∧
      (executedOf (canaryFire 2 2000 laterTask upgraded).1).map
        (fun result => (result.childTaskId, result.fireWindowKey)) =
        some (earlierTask, js "everyNMinutes/5@0") ∧
      (¬ ∃ fire ∈ firesOf (canaryFire 2 2000 laterTask upgraded).2,
        fire.name = ⟨canaryId, js "v2", js "everyNMinutes/5@0"⟩ ∧ fire.admittedChildTaskId = some earlierTask) ∧
      ∃ fire ∈ firesOf (canaryFire 2 2000 laterTask upgraded).2,
        fire.name = ⟨canaryId, js "v2", js "everyNMinutes/5@0"⟩ ∧ fire.admittedChildTaskId = some laterTask := by
    unfold CollisionFree
    decide +kernel
  obtain ⟨collisionFree, task, others, ownTask⟩ := evaluated
  obtain ⟨result, executed, reported⟩ := Option.map_eq_some_iff.mp task
  obtain ⟨child, key⟩ := Prod.mk.inj reported
  have ran := executedOf_some executed
  refine ⟨activated_history (canaryFire_history (activated_history .empty)), collisionFree, result, _, ran, child,
    ownTask, ?_⟩
  rintro ⟨⟨fire, member, named, bound, -⟩, -⟩
  rw [key] at named
  rw [child] at bound
  exact others ⟨fire, member, named, bound⟩

end Sample

end KernelJson.Scheduler.CanaryFire
