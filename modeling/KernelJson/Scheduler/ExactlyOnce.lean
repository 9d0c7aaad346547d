import KernelJson.Scheduler.DurableTimer

/-!
# Exactly-once admission of fire windows

Every row of the store and every task of the gateway is tied to the name of one
logical fire.  The tie is an invariant of the shared world, every operation of a
wake keeps it, and each wake carries just enough knowledge between its
operations, whatever the other wakes and the surroundings do meanwhile.
-/

namespace KernelJson.Scheduler.ExactlyOnce

open Contracts.Common
open Contracts.Digest
open Foundation
open Foundation.DurablePrograms
open Foundation.JsText
open Scheduler.CivilTime
open Scheduler.DurableTimer
open Scheduler.FireWindows
open Scheduler.ScheduleStore
open Scheduler.Spec

abbrev Fires : Type := JsMap JsString ScheduleFire

abbrev Minted : Type := JsMap Id Id

section Invariant

variable (sha256 : JsString → HexDigest)

/-- A fire stands under the key of its name; a bound fire carries the task that the gateway
minted for the identity of that name. -/
structure FireCoherent (minted : Minted) (key : JsString) (fire : ScheduleFire) : Prop where
  keyed : fire.name.key = key
  shaped : WindowKeyShape fire.fireWindowKey
  bound : ∀ child, fire.admittedChildTaskId = some child →
    fire.state = .admitted ∧ fire.admissionRequestId = some (fire.name.identity sha256) ∧
      minted.get? (fire.name.identity sha256) = some child

structure Coherent (fires : Fires) (minted : Minted) : Prop where
  fire : ∀ key fire, fires.get? key = some fire → FireCoherent sha256 minted key fire
  once : ∀ identity identity' child, minted.get? identity = some child →
    minted.get? identity' = some child → identity = identity'

end Invariant

/-- Minted tasks stay minted, fires stay in place, and bound fires do not change at all. -/
structure Extends (fires fires' : Fires) (minted minted' : Minted) : Prop where
  minted : ∀ identity child, minted.get? identity = some child → minted'.get? identity = some child
  fire : ∀ key fire, fires.get? key = some fire → ∃ later, fires'.get? key = some later ∧
    later.name = fire.name ∧ (fire.admittedChildTaskId ≠ none → later = fire)

theorem Extends.refl (fires : Fires) (minted : Minted) : Extends fires fires minted minted where
  minted := fun _ _ found => found
  fire := fun _ fire found => ⟨fire, found, rfl, fun _ => rfl⟩

theorem Extends.trans {first second third : Fires} {minted minted' minted'' : Minted}
    (left : Extends first second minted minted') (right : Extends second third minted' minted'') :
    Extends first third minted minted'' where
  minted := fun identity child found => right.minted identity child (left.minted identity child found)
  fire := by
    intro key fire found
    obtain ⟨middle, here, sameName, kept⟩ := left.fire key fire found
    obtain ⟨last, there, sameName', kept'⟩ := right.fire key middle here
    refine ⟨last, there, sameName'.trans sameName, fun bound => ?_⟩
    have same := kept bound
    rw [kept' (by rw [same]; exact bound), same]

section Steps

variable {sha256 : JsString → HexDigest}

/-! ## What one mutation preserves -/

theorem FireCoherent.mono {minted minted' : Minted} {key : JsString} {fire : ScheduleFire}
    (coherent : FireCoherent sha256 minted key fire)
    (more : ∀ identity child, minted.get? identity = some child → minted'.get? identity = some child) :
    FireCoherent sha256 minted' key fire where
  keyed := coherent.keyed
  shaped := coherent.shaped
  bound := fun child found =>
    let ⟨state, request, task⟩ := coherent.bound child found
    ⟨state, request, more _ _ task⟩

/-- Writing one coherent fire keeps all fires coherent. -/
theorem Coherent.setFire {fires : Fires} {minted : Minted} {key : JsString} {fire : ScheduleFire}
    (coherent : Coherent sha256 fires minted) (written : FireCoherent sha256 minted key fire) :
    Coherent sha256 (fires.set key fire) minted where
  fire := by
    intro other found here
    rw [JsMap.get?_set] at here
    split at here
    · next same =>
        cases here
        exact same ▸ written
    · exact coherent.fire other found here
  once := coherent.once

/-- Writing one fire extends the history if it keeps the name of an unbound row. -/
theorem Extends.setFire {fires : Fires} {minted : Minted} {key : JsString} {fire : ScheduleFire}
    (kept : ∀ old, fires.get? key = some old →
      fire.name = old.name ∧ (old.admittedChildTaskId ≠ none → fire = old)) :
    Extends fires (fires.set key fire) minted minted where
  minted := fun _ _ found => found
  fire := by
    intro other old here
    by_cases same : key = other
    · subst same
      exact ⟨fire, JsMap.get?_set_self _ _ _, kept old here⟩
    · exact ⟨old, by rw [JsMap.get?_set_of_ne _ same, here], rfl, fun _ => rfl⟩

/-- Admission mints for one identity only, and never a task that exists. -/
theorem admits_spec {gateway after : InMemoryAdmissionGateway} {request : AdmissionRequestInput}
    {answer : Option AdmissionResult} (admitted : admits gateway request answer after) :
    (∀ identity child, gateway.minted.get? identity = some child →
        after.minted.get? identity = some child) ∧
      (∀ identity child, after.minted.get? identity = some child →
        gateway.minted.get? identity = some child ∨
          (identity = request.admissionIdentity ∧ child ∉ gateway.minted.values)) ∧
      (∀ result, answer = some result →
        after.minted.get? request.admissionIdentity = some result.childTaskId) := by
  rcases admitted with ⟨fresh, unused, rfl, answered⟩ | ⟨rfl, rfl⟩
  · cases present : gateway.minted.get? request.admissionIdentity with
    | some existing =>
        have unchanged : (gateway.admitRequest fresh request).2.minted = gateway.minted := by
          simp [InMemoryAdmissionGateway.admitRequest, present]
        have returned : (gateway.admitRequest fresh request).1 = ⟨existing, true⟩ := by
          simp [InMemoryAdmissionGateway.admitRequest, present]
        rw [unchanged]
        refine ⟨fun _ _ found => found, fun _ _ found => Or.inl found, fun result same => ?_⟩
        rw [returned] at answered
        rcases answered with given | lost
        · rw [given, Option.some.injEq] at same
          rw [← same, present]
        · rw [lost] at same
          cases same
    | none =>
        have written : (gateway.admitRequest fresh request).2.minted =
            gateway.minted.set request.admissionIdentity fresh := by
          simp [InMemoryAdmissionGateway.admitRequest, present]
        have returned : (gateway.admitRequest fresh request).1 = ⟨fresh, false⟩ := by
          simp [InMemoryAdmissionGateway.admitRequest, present]
        rw [written]
        refine ⟨fun identity child found => ?_, fun identity child found => ?_, fun result same => ?_⟩
        · have different : request.admissionIdentity ≠ identity := by
            rintro rfl
            rw [present] at found
            cases found
          rw [JsMap.get?_set_of_ne _ different, found]
        · rw [JsMap.get?_set] at found
          split at found
          · next same =>
              cases found
              exact Or.inr ⟨same.symm, unused present⟩
          · exact Or.inl found
        · rw [returned] at answered
          rcases answered with given | lost
          · rw [given, Option.some.injEq] at same
            rw [← same, JsMap.get?_set_self]
          · rw [lost] at same
            cases same
  · exact ⟨fun _ _ found => found, fun _ _ found => Or.inl found, fun _ impossible => by cases impossible⟩

theorem admits_keeps {fires : Fires} {gateway after : InMemoryAdmissionGateway}
    {request : AdmissionRequestInput} {answer : Option AdmissionResult}
    (coherent : Coherent sha256 fires gateway.minted) (admitted : admits gateway request answer after) :
    Coherent sha256 fires after.minted ∧ Extends fires fires gateway.minted after.minted := by
  obtain ⟨more, only, -⟩ := admits_spec admitted
  refine ⟨⟨fun key fire found => (coherent.fire key fire found).mono more, ?_⟩,
    ⟨more, fun _ fire found => ⟨fire, found, rfl, fun _ => rfl⟩⟩⟩
  intro identity identity' child found found'
  -- a freshly minted task has no second identity
  rcases only identity child found with old | ⟨same, unused⟩
  · rcases only identity' child found' with old' | ⟨same', unused'⟩
    · exact coherent.once identity identity' child old old'
    · exact absurd (JsMap.mem_values.mpr ⟨identity, old⟩) unused'
  · rcases only identity' child found' with old' | ⟨same', unused'⟩
    · exact absurd (JsMap.mem_values.mpr ⟨identity', old'⟩) unused
    · rw [same, same']

theorem transition_keeps {store after : InMemoryScheduleStore} {minted : Minted} {key : JsString}
    {target : FireState} {fence : Option LeaseFence} {result : Except StoreFault ScheduleFire}
    (coherent : Coherent sha256 store.fires minted)
    (ran : store.transitionImpl key target fence = (result, after)) :
    Coherent sha256 after.fires minted ∧ Extends store.fires after.fires minted minted := by
  rcases InMemoryScheduleStore.transitionImpl_cases ran with rfl | ⟨fire, found, allowed, -, rfl⟩
  · exact ⟨coherent, Extends.refl _ _⟩
  · have old := coherent.fire key fire found
    refine ⟨coherent.setFire ⟨old.keyed, old.shaped, fun child bound => ?_⟩, Extends.setFire ?_⟩
    · obtain ⟨-, request, task⟩ := old.bound child bound
      have admitted : target = .admitted := allowed (by
        intro unbound
        rw [show fire.admittedChildTaskId = some child from bound] at unbound
        cases unbound)
      exact ⟨admitted, request, task⟩
    · intro other here
      rw [found, Option.some.injEq] at here
      subst here
      refine ⟨rfl, fun bound => ?_⟩
      obtain ⟨child, isBound⟩ := Option.ne_none_iff_exists'.mp bound
      have same : target = fire.state := (allowed bound).trans (old.bound child isBound).1.symm
      rw [same]

/-- What an operation must know before it runs: which logical fire it is about. -/
def Prepared (sha256 : JsString → HexDigest) (world : SchedulerWorld) : SchedulerOp → Prop
  | .createOrGetFire input =>
      ∃ name : FireName, WindowKeyShape name.fireWindowKey ∧ input.idempotencyKey = name.key ∧
        name = ⟨input.scheduleId, input.version, input.fireWindowKey⟩
  | .bindAdmission key binding _ =>
      ∃ name : FireName, WindowKeyShape name.fireWindowKey ∧ key = name.key ∧
        binding.admissionRequestId = name.identity sha256 ∧
        world.gateway.minted.get? (name.identity sha256) = some binding.childTaskId
  | _ => True

theorem createOrGetFire_keeps {store after : InMemoryScheduleStore} {minted : Minted} {input : FireInput}
    {result : Except StoreFault (ScheduleFire × Bool)} {name : FireName}
    (coherent : Coherent sha256 store.fires minted) (shaped : WindowKeyShape name.fireWindowKey)
    (keyed : input.idempotencyKey = name.key)
    (named : name = ⟨input.scheduleId, input.version, input.fireWindowKey⟩)
    (ran : store.createOrGetFire input = (result, after)) :
    Coherent sha256 after.fires minted ∧ Extends store.fires after.fires minted minted := by
  rcases InMemoryScheduleStore.createOrGetFire_cases ran with
    ⟨fire, -, -, rfl⟩ | ⟨fire, absent, planned, -, rfl⟩ | ⟨fault, -, rfl⟩
  · exact ⟨coherent, Extends.refl _ _⟩
  · obtain ⟨-, fireNamed, -, unbound⟩ := InMemoryScheduleStore.planned_spec planned
    have sameName : fire.name = name := fireNamed.trans named.symm
    refine ⟨coherent.setFire ⟨by rw [sameName, keyed], ?_, fun child bound => ?_⟩, Extends.setFire ?_⟩
    · have sameKey : fire.fireWindowKey = name.fireWindowKey := congrArg FireName.fireWindowKey sameName
      exact sameKey ▸ shaped
    · rw [unbound] at bound
      cases bound
    · intro old here
      rw [absent] at here
      cases here
  · exact ⟨coherent, Extends.refl _ _⟩

theorem bindAdmission_keeps {store after : InMemoryScheduleStore} {minted : Minted} {key : JsString}
    {observationId : Id} {binding : AdmissionBinding} {fence : LeaseFence}
    {result : Except StoreFault (ScheduleFire × Bool)} {name : FireName}
    (coherent : Coherent sha256 store.fires minted) (shaped : WindowKeyShape name.fireWindowKey)
    (keyed : key = name.key) (requested : binding.admissionRequestId = name.identity sha256)
    (task : minted.get? (name.identity sha256) = some binding.childTaskId)
    (ran : store.bindAdmission observationId key binding fence = (result, after)) :
    Coherent sha256 after.fires minted ∧ Extends store.fires after.fires minted minted := by
  rcases InMemoryScheduleStore.bindImpl_cases ran with
    ⟨sameFires, -⟩ | ⟨fire, admittedAt, found, unbound, -, -, rfl⟩
  · rw [sameFires]
    exact ⟨coherent, Extends.refl _ _⟩
  · have old := coherent.fire key fire found
    -- the key names one logical fire only, the one that was admitted
    have sameName : fire.name = name :=
      FireName.key_inj old.shaped shaped (old.keyed.trans keyed)
    refine ⟨coherent.setFire ⟨old.keyed, old.shaped, fun child bound => ?_⟩, Extends.setFire ?_⟩
    · have sameChild : child = binding.childTaskId := (Option.some.inj bound).symm
      have boundName : (fire.bind binding admittedAt).name = name := sameName
      rw [boundName, sameChild]
      exact ⟨rfl, congrArg some requested, task⟩
    · intro other here
      rw [found, Option.some.injEq] at here
      subst here
      exact ⟨rfl, fun bound => absurd unbound bound⟩

end Steps

/-! ## The discipline of the scheduler -/

section Discipline

variable (sha256 : JsString → HexDigest)

def WorldCoherent (world : SchedulerWorld) : Prop :=
  Coherent sha256 world.store.fires world.gateway.minted

def WorldExtends (before after : SchedulerWorld) : Prop :=
  Extends before.store.fires after.store.fires before.gateway.minted after.gateway.minted

def admissionDiscipline : Discipline SchedulerWorld :=
  Discipline.shared (WorldCoherent sha256) WorldExtends (fun _ => Extends.refl _ _)
    (fun left right => Extends.trans left right)

variable {sha256}

/-- A step that touches neither fires nor minted tasks keeps everything. -/
theorem frame_keeps {before after : SchedulerWorld} (coherent : WorldCoherent sha256 before)
    (fires : after.store.fires = before.store.fires) (minted : after.gateway.minted = before.gateway.minted) :
    WorldCoherent sha256 after ∧ WorldExtends before after := by
  unfold WorldCoherent WorldExtends
  rw [fires, minted]
  exact ⟨coherent, Extends.refl _ _⟩

theorem perform_keeps {actor : Nat} {op : SchedulerOp} {before after : SchedulerWorld}
    {answer : op.Answer} (coherent : WorldCoherent sha256 before) (prepared : Prepared sha256 before op)
    (effect : perform actor op before answer after) :
    WorldCoherent sha256 after ∧ WorldExtends before after := by
  cases op with
  | getSchedule scheduleId =>
      obtain ⟨-, rfl⟩ := effect
      exact ⟨coherent, Extends.refl _ _⟩
  | claimLease scheduleId owner nowMs ttlMs =>
      obtain ⟨observationId, store, ran, rfl⟩ := effect
      have fires := InMemoryScheduleStore.claimLease_fires before.store observationId scheduleId owner nowMs ttlMs
      rw [ran] at fires
      exact frame_keeps coherent fires rfl
  | createOrGetFire input =>
      obtain ⟨store, ran, rfl⟩ := effect
      obtain ⟨name, shaped, keyed, named⟩ := prepared
      exact createOrGetFire_keeps coherent shaped keyed named ran
  | admitRequest request =>
      obtain ⟨gateway, admitted, rfl⟩ := effect
      exact admits_keeps coherent admitted
  | bindAdmission key binding fence =>
      obtain ⟨observationId, store, ran, rfl⟩ := effect
      obtain ⟨name, shaped, keyed, requested, task⟩ := prepared
      exact bindAdmission_keeps coherent shaped keyed requested task ran
  | observe scheduleId =>
      obtain ⟨-, rfl⟩ := effect
      exact ⟨coherent, Extends.refl _ _⟩
  | cancelWake scheduleId wakeKey =>
      subst effect
      exact frame_keeps coherent rfl rfl
  | scheduleWake scheduleId wakeKey fireAtUtcMs =>
      subst effect
      exact frame_keeps coherent rfl rfl

theorem surroundings_keep {before after : SchedulerWorld} (coherent : WorldCoherent sha256 before)
    (moved : Surroundings before after) : WorldCoherent sha256 after ∧ WorldExtends before after := by
  cases moved with
  | upsertSpecVersion spec =>
      exact frame_keeps coherent (InMemoryScheduleStore.upsertSpecVersion_fires before.store spec) rfl
  | setState next => exact frame_keeps coherent rfl rfl
  | claimLease observationId scheduleId owner nowMs ttlMs =>
      exact frame_keeps coherent
        (InMemoryScheduleStore.claimLease_fires before.store observationId scheduleId owner nowMs ttlMs) rfl
  | releaseLease scheduleId owner epoch =>
      exact frame_keeps coherent
        (InMemoryScheduleStore.releaseLease_fires before.store scheduleId owner epoch) rfl
  | transition key target fence => exact transition_keeps coherent rfl
  | admitRequest admitted => exact admits_keeps coherent admitted
  | timers after => exact frame_keeps coherent rfl rfl

/-! ## The wake keeps the discipline -/

/-- The obligation that a program never breaks the discipline. -/
abbrev Disciplined (sha256 : JsString → HexDigest) (actor : Nat) {α : Type} (program : Wake α)
    (world : SchedulerWorld) : Prop :=
  wp perform true (admissionDiscipline sha256) actor program (fun _ _ => True) world

variable {actor : Nat} {world : SchedulerWorld}

theorem disciplined_ret {α : Type} (value : α) : Disciplined sha256 actor (.ret value) world :=
  fun _ _ _ => trivial

/-- An operation may run if it is prepared whenever it runs, and its continuation is disciplined. -/
theorem disciplined_call {α : Type} {op : SchedulerOp} {next : op.Answer → Wake α}
    (prepared : ∀ before, WorldExtends world before → Prepared sha256 before op)
    (rest : ∀ before answer after, perform actor op before answer after → WorldExtends world after →
      Disciplined sha256 actor (next answer) after) :
    Disciplined sha256 actor (.call op next) world := by
  intro before reached coherent answer after effect
  obtain ⟨kept, extended⟩ := perform_keeps coherent (prepared before reached) effect
  exact ⟨⟨kept, extended, fun _ _ => extended⟩, rest before answer after effect (Extends.trans reached extended)⟩

/-- Operations that are not about one logical fire need no preparation. -/
theorem disciplined_free {α : Type} {op : SchedulerOp} {next : op.Answer → Wake α}
    (free : ∀ before, Prepared sha256 before op)
    (rest : ∀ answer after, Disciplined sha256 actor (next answer) after) :
    Disciplined sha256 actor (.call op next) world :=
  disciplined_call (fun before _ => free before) (fun _ answer after _ _ => rest answer after)

theorem disciplined_bind {α β : Type} {program : Wake α} {next : α → Wake β}
    (first : Disciplined sha256 actor program world)
    (rest : ∀ value after, Disciplined sha256 actor (next value) after) :
    Disciplined sha256 actor (program >>= next) world :=
  wp_bind (wp_mono (fun value current _ _ => rest value current) first)

theorem processWindow_disciplined {intl : Intl} (spec : ScheduleSpec intl) {window : FireWindow}
    (shaped : WindowKeyShape window.fireWindowKey) (fence : LeaseFence) (atMs : Int) :
    Disciplined sha256 actor (processWindowUnderFence sha256 spec window fence atMs) world := by
  refine disciplined_call (fun _ _ => ⟨fireName spec window.fireWindowKey, shaped, rfl, rfl⟩) ?_
  rintro - answer created - -
  cases answer with
  | error fault => exact disciplined_ret _
  | ok made =>
      obtain ⟨fire, isNew⟩ := made
      dsimp only
      cases fire.admittedChildTaskId with
      | some child => exact disciplined_ret _
      | none =>
          refine disciplined_call (fun _ _ => trivial) ?_
          rintro before admission admitted ⟨gateway, admits, rfl⟩ -
          cases admission with
          | none => exact disciplined_ret _
          | some admission =>
              -- the task minted here is still minted when the bind runs
              have task := (admits_spec admits).2.2 admission rfl
              refine disciplined_call (fun later extended => ?_) ?_
              · exact ⟨fireName spec window.fireWindowKey, shaped, rfl, rfl,
                  extended.minted _ _ task⟩
              · rintro - bound after - -
                cases bound with
                | error fault => exact disciplined_ret _
                | ok pair => exact disciplined_ret _

theorem processWindows_disciplined {intl : Intl} (spec : ScheduleSpec intl) (fence : LeaseFence)
    (atMs : Int) {windows : List FireWindow} (tally : Tally)
    (shaped : ∀ window ∈ windows, WindowKeyShape window.fireWindowKey) :
    Disciplined sha256 actor (processWindows sha256 spec fence atMs windows tally) world := by
  induction windows generalizing tally world with
  | nil => exact disciplined_ret _
  | cons window rest ih =>
      refine disciplined_bind
        (processWindow_disciplined spec (shaped window List.mem_cons_self) fence atMs) ?_
      intro result after
      cases result with
      | error fault => exact disciplined_ret _
      | ok result => exact ih (tally.add result) (fun other member => shaped other (List.mem_cons_of_mem _ member))

theorem cancelWakes_disciplined (scheduleId : Id) (wakes : List OutstandingWake) :
    Disciplined sha256 actor (cancelWakes scheduleId wakes) world := by
  induction wakes generalizing world with
  | nil => exact disciplined_ret _
  | cons wake rest ih => exact disciplined_free (fun _ => trivial) (fun _ _ => ih)

theorem armNext_disciplined {intl : Intl} (spec : ScheduleSpec intl) (scheduleId : Id) (reason : JsString)
    (nowMs : Int) (tally : Tally) :
    Disciplined sha256 actor (armNext spec scheduleId reason nowMs tally) world := by
  unfold armNext
  dsimp only
  cases nextWindowAfter spec nowMs with
  | none => exact disciplined_ret _
  | some next => exact disciplined_free (fun _ => trivial) (fun _ _ => disciplined_ret _)

theorem fireDue_disciplined {intl : Intl} (opts : DriverOptions) (spec : ScheduleSpec intl)
    (scheduleId : Id) (reason : JsString) (lastTickMs nowMs : Int) :
    Disciplined sha256 actor (fireDue sha256 opts spec scheduleId reason lastTickMs nowMs) world := by
  refine disciplined_free (fun _ => trivial) fun claimed after => ?_
  cases claimed with
  | error fault => exact disciplined_ret _
  | ok lease =>
      cases lease with
      | none => exact disciplined_ret _
      | some lease =>
          refine disciplined_bind (processWindows_disciplined spec lease.fence nowMs _
            fun window member => dueFireWindows_shape member) ?_
          intro tally later
          cases tally with
          | error fault => exact disciplined_ret _
          | ok tally => exact armNext_disciplined spec scheduleId reason nowMs tally

theorem onWake_disciplined (intl : Intl) (opts : DriverOptions) (scheduleId : Id)
    (lastTickMs nowMs : Int) :
    Disciplined sha256 actor (onWake sha256 intl opts scheduleId lastTickMs nowMs) world := by
  refine disciplined_free (fun _ => trivial) fun schedule after => ?_
  cases schedule with
  | none => exact disciplined_ret _
  | some schedule =>
      obtain ⟨state, persisted⟩ := schedule
      dsimp only
      cases runtimeSpecFrom intl persisted state with
      | none => exact disciplined_ret _
      | some spec =>
          dsimp only
          split
          · exact fireDue_disciplined opts spec scheduleId _ lastTickMs nowMs
          · exact disciplined_free (fun _ => trivial) fun wakes after =>
              disciplined_bind (cancelWakes_disciplined scheduleId wakes) fun _ _ => disciplined_ret _

theorem wakeMachine_certified (sha256 : JsString → HexDigest) (intl : Intl) :
    Certified (wakeMachine intl sha256) (admissionDiscipline sha256) (fun _ _ => True) where
  started := by
    rintro actor world program ⟨opts, scheduleId, lastTickMs, nowMs, rfl⟩ -
    exact onWake_disciplined intl opts scheduleId lastTickMs nowMs
  environment := by
    intro before after moved coherent
    obtain ⟨kept, extended⟩ := surroundings_keep coherent moved
    exact ⟨kept, extended, fun _ => extended⟩
  halted := by
    intro actor before after halted coherent
    subst halted
    exact ⟨coherent, Extends.refl _ _, fun _ _ => Extends.refl _ _⟩

end Discipline

/-! ## Exactly once -/

def firesOf (world : SchedulerWorld) : List ScheduleFire :=
  world.store.fires.values

/-- `childTaskIdFor(admissionIdentity)`. -/
def childTaskIdFor (world : SchedulerWorld) (identity : Id) : Option Id :=
  world.gateway.minted.get? identity

/-- `stableId` tells the logical fires of the store apart. -/
def CollisionFree (sha256 : JsString → HexDigest) (world : SchedulerWorld) : Prop :=
  ∀ fire ∈ firesOf world, ∀ other ∈ firesOf world,
    fire.name.identity sha256 = other.name.identity sha256 → fire.name = other.name

/-- Exactly-once admission between two moments of one history. -/
structure AdmittedOnce (sha256 : JsString → HexDigest) (before after : SchedulerWorld) : Prop where
  oneFire : ∀ fire ∈ firesOf after, ∀ other ∈ firesOf after,
    fire.name = other.name → fire = other
  minted : ∀ fire ∈ firesOf after, ∀ child, fire.admittedChildTaskId = some child →
    childTaskIdFor after (fire.name.identity sha256) = some child ∧
      fire.admissionRequestId = some (fire.name.identity sha256) ∧ fire.state = .admitted
  settled : ∀ fire ∈ firesOf before, fire.admittedChildTaskId ≠ none →
    fire ∈ firesOf after ∧
      ∀ other ∈ firesOf after, other.name = fire.name → other = fire
  distinct : ∀ fire ∈ firesOf after, ∀ other ∈ firesOf after, ∀ child,
    fire.admittedChildTaskId = some child → other.admittedChildTaskId = some child →
      fire.name = other.name

section Worlds

variable {sha256 : JsString → HexDigest}

theorem WorldCoherent.oneFire {world : SchedulerWorld} (coherent : WorldCoherent sha256 world)
    {fire other : ScheduleFire} (found : fire ∈ firesOf world)
    (found' : other ∈ firesOf world) (same : fire.name = other.name) : fire = other := by
  obtain ⟨key, here⟩ := JsMap.mem_values.mp found
  obtain ⟨key', there⟩ := JsMap.mem_values.mp found'
  have keys : key = key' := by
    rw [← (coherent.fire key fire here).keyed, ← (coherent.fire key' other there).keyed, same]
  subst keys
  rw [here] at there
  exact Option.some.inj there

theorem WorldCoherent.bound {world : SchedulerWorld} (coherent : WorldCoherent sha256 world)
    {fire : ScheduleFire} {child : Id} (found : fire ∈ firesOf world)
    (bound : fire.admittedChildTaskId = some child) :
    childTaskIdFor world (fire.name.identity sha256) = some child ∧
      fire.admissionRequestId = some (fire.name.identity sha256) ∧ fire.state = .admitted := by
  obtain ⟨key, here⟩ := JsMap.mem_values.mp found
  obtain ⟨state, request, task⟩ := (coherent.fire key fire here).bound child bound
  exact ⟨task, request, state⟩

theorem WorldExtends.settled {before after : SchedulerWorld} (extended : WorldExtends before after)
    {fire : ScheduleFire} (found : fire ∈ firesOf before)
    (bound : fire.admittedChildTaskId ≠ none) : fire ∈ firesOf after := by
  obtain ⟨key, here⟩ := JsMap.mem_values.mp found
  obtain ⟨later, there, -, kept⟩ := extended.fire key fire here
  exact JsMap.mem_values.mpr ⟨key, by rw [there, kept bound]⟩

theorem empty_coherent : WorldCoherent sha256 .empty where
  fire := fun _ _ found => by cases found
  once := fun _ _ _ found => by cases found

/-- Along every history from an empty scheduler, the fires are admitted exactly once. -/
theorem wakes_admit_exactly_once {intl : Intl}
    {config later : Config SchedulerWorld SchedulerOp SchedulerOp.Answer (Except WakeFault WakeResult)}
    (reached : Steps (wakeMachine intl sha256) (Config.initial .empty) config)
    (continued : Steps (wakeMachine intl sha256) config later)
    (collisionFree : CollisionFree sha256 later.world) :
    AdmittedOnce sha256 config.world later.world := by
  have certified := wakeMachine_certified sha256 intl
  obtain ⟨sound, -⟩ := certified.steps (Sound.initial empty_coherent) reached
  obtain ⟨sound', extended⟩ := certified.steps sound continued
  have coherent : WorldCoherent sha256 later.world := sound'.valid
  refine ⟨fun fire found other found' same => coherent.oneFire found found' same,
    fun fire found child bound => coherent.bound found bound, fun fire found bound => ?_,
    fun fire found other found' child bound bound' => ?_⟩
  · have stays := WorldExtends.settled extended found bound
    exact ⟨stays, fun other found' same => coherent.oneFire found' stays same⟩
  · -- one task has one identity, and one identity names one logical fire
    have identities := coherent.once _ _ child (coherent.bound found bound).1 (coherent.bound found' bound').1
    exact collisionFree fire found other found' identities

/-! ## A history with a duplicate wake -/

def sampleId : Id := ⟨js "11111111-1111-4111-8111-111111111111", by decide⟩

def sampleTask : Id := ⟨js "22222222-2222-4222-8222-222222222222", by decide⟩

/-- A schedule that fires every five minutes. -/
def sampleSchedule : PersistedScheduleSpec where
  scheduleId := sampleId
  version := js "v1"
  tenant := ⟨sampleId⟩
  principal := ⟨sampleId, .service⟩
  owner := ⟨sampleId, .human⟩
  name := js "every five minutes"
  timezone := js "UTC"
  calendar := .everyNMinutes 5 (by decide)
  missedRunPolicy := .skip
  overlapPolicy := .forbid
  nonexistentTimePolicy := .skip
  maxBackfillRuns := 0
  perScheduleConcurrency := 1
  enabledForProduction := false
  createdAt := .epoch
  createdBy := sampleId
  versionNonempty := by decide
  nameBounds := by decide
  timezoneNonempty := by decide
  concurrencyPositive := by decide

def sampleState : PersistedScheduleState where
  scheduleId := sampleId
  state := .enabled
  activeVersion := js "v1"
  updatedAt := .epoch
  updatedBy := sampleId
  activeVersionNonempty := by decide

/-- The digest of the identity text of the window `everyNMinutes/5@0` of `sampleSchedule`. -/
def sampleDigest : HexDigest := .ofDigits
  [0xc, 0x0, 0x3, 0x7, 0xd, 0x2, 0x4, 0x6, 0xa, 0xb, 0xf, 0x3, 0x1, 0xf, 0x9, 0xf, 0x9, 0x3, 0xc, 0xd,
    0xc, 0xa, 0x3, 0x3, 0xf, 0xd, 0x5, 0xb, 0xf, 0x0, 0x6, 0x8, 0x1, 0xc, 0x3, 0x3, 0x9, 0x4, 0xf, 0xf,
    0x2, 0xa, 0xc, 0xb, 0x3, 0x7, 0x1, 0x6, 0xe, 0xa, 0xb, 0xd, 0x5, 0x9, 0xb, 0x5, 0x4, 0xd, 0xc, 0xd,
    0x2, 0xc, 0x3, 0x3]

/-- Gives the digest of the one text that `sampleSchedule` hashes below. -/
def sampleSha256 (text : JsString) : HexDigest :=
  if text = js ("[\"kerneljson:phase4:v1\",[\"kj-schedule-fire/v1\"," ++
      "\"11111111-1111-4111-8111-111111111111\",\"v1\",\"everyNMinutes/5@0\"]]")
  then sampleDigest else .ofDigits []

def sampleWorld : SchedulerWorld :=
  { SchedulerWorld.empty with
    store := ((InMemoryScheduleStore.empty.upsertSpecVersion sampleSchedule).2).setState sampleState }

def sampleWake (owner : JsString) : Wake (Except WakeFault WakeResult) :=
  onWake sampleSha256 .utcOnly ⟨owner, false, 0⟩ sampleId 0 1

/-- The world after one wake by `a`. -/
def sampleFirst : SchedulerWorld :=
  ((sampleWake (js "a")).interp (performWith sampleId sampleTask) sampleWorld).2

/-- The world after a duplicate of that wake by `b`, whose claim takes the expired lease over. -/
def sampleSecond : SchedulerWorld :=
  ((sampleWake (js "b")).interp (performWith sampleId sampleTask) sampleFirst).2

theorem sample_admittedOnce :
    AdmittedOnce sampleSha256 sampleFirst sampleSecond ∧
      (firesOf sampleSecond).map (·.admittedChildTaskId) = [some sampleTask] := by
  have administered : Steps (wakeMachine .utcOnly sampleSha256) (Config.initial .empty)
      ((Config.initial .empty).withWorld sampleWorld) :=
    .head (.environment (.upsertSpecVersion _ sampleSchedule))
      (.single (.environment (.setState _ sampleState)))
  obtain ⟨config, first, firstWorld, others, -⟩ :=
    @Steps.alone _ _ _ _ (wakeMachine .utcOnly sampleSha256) 0 _ (performWith_performs 0 sampleId sampleTask)
      ((Config.initial .empty).withWorld sampleWorld) (sampleWake (js "a")) rfl ⟨_, _, _, _, rfl⟩
  have firstSame : config.world = sampleFirst := firstWorld
  obtain ⟨later, second, secondWorld, -, -⟩ :=
    @Steps.alone _ _ _ _ (wakeMachine .utcOnly sampleSha256) 1 _ (performWith_performs 1 sampleId sampleTask)
      config (sampleWake (js "b")) (others 1 (by decide)) ⟨_, _, _, _, rfl⟩
  rw [firstSame] at secondWorld
  have secondSame : later.world = sampleSecond := secondWorld
  have collisionFree : CollisionFree sampleSha256 later.world := by
    rw [secondSame]
    unfold CollisionFree
    decide +kernel
  have once := wakes_admit_exactly_once (administered.trans first) second collisionFree
  rw [firstSame, secondSame] at once
  exact ⟨once, by decide +kernel⟩

end Worlds

end KernelJson.Scheduler.ExactlyOnce
