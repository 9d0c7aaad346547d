import KernelJson.Scheduler.ExactlyOnce

/-!
# Histories of the schedule store

A history is any sequence of the operations that wakes issue, with
administration, takeovers and other admissions in between.  Along it every
fire carries the identity of its name and every specification stands under its
own key.  Fires are listed in the order in which they were created.
-/

namespace KernelJson.Scheduler.Histories

open Contracts.Common
open Contracts.Digest
open Foundation
open Foundation.JsText
open Scheduler.CivilTime
open Scheduler.DurableTimer
open Scheduler.ExactlyOnce
open Scheduler.FireWindows
open Scheduler.ScheduleStore
open Scheduler.Spec

/-! ## Histories of the store -/

section Histories

variable (sha256 : JsString → HexDigest)

/-- What wakes ask of the store: fires of shaped windows under their own names, and binds of what was minted. -/
def Issued (world : SchedulerWorld) : SchedulerOp → Prop
  | .createOrGetFire input =>
      ∃ (intl : Intl) (spec : ScheduleSpec intl) (window : FireWindow) (atMs : Int),
        WindowKeyShape window.fireWindowKey ∧ input = fireInput sha256 spec window atMs
  | op => Prepared sha256 world op

/-- Any operations of any wakes, with administration, takeovers and other admissions in between. -/
inductive History : SchedulerWorld → Prop
  | empty : History .empty
  | performed {actor : Nat} {op : SchedulerOp} {before after : SchedulerWorld} {answer : op.Answer}
      (history : History before) (issued : Issued sha256 before op) (effect : perform actor op before answer after) :
      History after
  | moved {before after : SchedulerWorld} (history : History before) (surroundings : Surroundings before after) :
      History after

/-- Every fire carries the identity and the key of its name. -/
def Identified (fires : Fires) : Prop :=
  ∀ key fire, fires.get? key = some fire → fire.fireIdentity = fire.name.identity sha256

/-- Every specification stands under its own key. -/
def Filed (specs : JsMap JsString PersistedScheduleSpec) : Prop :=
  ∀ key spec, specs.get? key = some spec → key = InMemoryScheduleStore.specKey spec.scheduleId spec.version

variable {sha256}

theorem Identified.setFire {fires : Fires} {key : JsString} {fire : ScheduleFire}
    (identified : Identified sha256 fires) (own : fire.fireIdentity = fire.name.identity sha256) :
    Identified sha256 (fires.set key fire) := by
  intro other found here
  rw [JsMap.get?_set] at here
  split at here
  · cases here
    exact own
  · exact identified other found here

theorem Filed.upsert {store : InMemoryScheduleStore} (filed : Filed store.specs) (spec : PersistedScheduleSpec) :
    Filed (store.upsertSpecVersion spec).2.specs := by
  have written : Filed (store.specs.set (InMemoryScheduleStore.specKey spec.scheduleId spec.version) spec) := by
    intro key found here
    rw [JsMap.get?_set] at here
    split at here
    · next same =>
        cases here
        exact same.symm
    · exact filed key found here
  unfold InMemoryScheduleStore.upsertSpecVersion
  dsimp only
  split
  · exact written
  · split
    · exact written
    · exact filed

theorem claimLease_specs (store : InMemoryScheduleStore) (observationId scheduleId : Id) (owner : JsString)
    (nowMs ttlMs : Int) : (store.claimLease observationId scheduleId owner nowMs ttlMs).2.specs = store.specs := by
  unfold InMemoryScheduleStore.claimLease
  dsimp only
  split
  · rfl
  · split <;> rfl

theorem bindImpl_specs (store : InMemoryScheduleStore) (observationId : Id) (key : JsString)
    (binding : AdmissionBinding) (fence : Option LeaseFence) :
    (store.bindImpl observationId key binding fence).2.specs = store.specs := by
  unfold InMemoryScheduleStore.bindImpl
  split
  · rfl
  · split
    · split
      · split
        · rfl
        · split <;> rfl
      · split <;> rfl
    · rfl

theorem createOrGetFire_specs {store after : InMemoryScheduleStore} {input : FireInput}
    {result : Except StoreFault (ScheduleFire × Bool)} (ran : store.createOrGetFire input = (result, after)) :
    after.specs = store.specs := by
  rcases InMemoryScheduleStore.createOrGetFire_cases ran with
    ⟨fire, -, -, rfl⟩ | ⟨fire, -, -, -, rfl⟩ | ⟨fault, -, rfl⟩ <;> rfl

/-- The store's part of an operation of a wake. -/
theorem performed_keeps {actor : Nat} {op : SchedulerOp} {before after : SchedulerWorld} {answer : op.Answer}
    (identified : Identified sha256 before.store.fires) (filed : Filed before.store.specs)
    (issued : Issued sha256 before op) (effect : perform actor op before answer after) :
    Identified sha256 after.store.fires ∧ Filed after.store.specs := by
  cases op with
  | getSchedule scheduleId =>
      obtain ⟨-, rfl⟩ := effect
      exact ⟨identified, filed⟩
  | claimLease scheduleId owner nowMs ttlMs =>
      obtain ⟨observationId, store, ran, rfl⟩ := effect
      have fires := InMemoryScheduleStore.claimLease_fires before.store observationId scheduleId owner nowMs ttlMs
      have specs := claimLease_specs before.store observationId scheduleId owner nowMs ttlMs
      rw [ran] at fires specs
      dsimp only at fires specs ⊢
      rw [fires, specs]
      exact ⟨identified, filed⟩
  | createOrGetFire input =>
      obtain ⟨store, ran, rfl⟩ := effect
      obtain ⟨intl, spec, window, atMs, shaped, rfl⟩ := issued
      have specs := createOrGetFire_specs ran
      dsimp only
      rw [specs]
      refine ⟨?_, filed⟩
      rcases InMemoryScheduleStore.createOrGetFire_cases ran with
        ⟨fire, -, -, rfl⟩ | ⟨fire, -, planned, -, rfl⟩ | ⟨fault, -, rfl⟩
      · exact identified
      · obtain ⟨-, named, own, -⟩ := InMemoryScheduleStore.planned_spec planned
        refine identified.setFire ?_
        rw [own, named]
        rfl
      · exact identified
  | admitRequest request =>
      obtain ⟨gateway, -, rfl⟩ := effect
      exact ⟨identified, filed⟩
  | bindAdmission key binding fence =>
      obtain ⟨observationId, store, ran, rfl⟩ := effect
      have specs := bindImpl_specs before.store observationId key binding (some fence)
      rw [show before.store.bindImpl observationId key binding (some fence) = (answer, store) from ran] at specs
      dsimp only at specs ⊢
      rw [specs]
      refine ⟨?_, filed⟩
      rcases InMemoryScheduleStore.bindImpl_cases ran with ⟨same, -⟩ | ⟨fire, admittedAt, found, -, -, -, rfl⟩
      · rw [same]
        exact identified
      · exact identified.setFire (identified key fire found)
  | observe scheduleId =>
      obtain ⟨-, rfl⟩ := effect
      exact ⟨identified, filed⟩
  | cancelWake scheduleId wakeKey =>
      subst effect
      exact ⟨identified, filed⟩
  | scheduleWake scheduleId wakeKey fireAtUtcMs =>
      subst effect
      exact ⟨identified, filed⟩

theorem transitioned_keeps {store after : InMemoryScheduleStore} {key : JsString} {target : FireState}
    {fence : Option LeaseFence} {result : Except StoreFault ScheduleFire} (identified : Identified sha256 store.fires)
    (filed : Filed store.specs) (ran : store.transitionImpl key target fence = (result, after)) :
    Identified sha256 after.fires ∧ Filed after.specs := by
  rcases InMemoryScheduleStore.transitionImpl_cases ran with rfl | ⟨fire, found, -, -, rfl⟩
  · exact ⟨identified, filed⟩
  · exact ⟨identified.setFire (identified key fire found), filed⟩

theorem moved_keeps {before after : SchedulerWorld} (identified : Identified sha256 before.store.fires)
    (filed : Filed before.store.specs) (moved : Surroundings before after) :
    Identified sha256 after.store.fires ∧ Filed after.store.specs := by
  cases moved with
  | upsertSpecVersion spec =>
      dsimp only
      rw [InMemoryScheduleStore.upsertSpecVersion_fires]
      exact ⟨identified, filed.upsert spec⟩
  | setState next => exact ⟨identified, filed⟩
  | claimLease observationId scheduleId owner nowMs ttlMs =>
      dsimp only
      rw [InMemoryScheduleStore.claimLease_fires, claimLease_specs]
      exact ⟨identified, filed⟩
  | releaseLease scheduleId owner epoch =>
      have specs : (before.store.releaseLease scheduleId owner epoch).specs = before.store.specs := by
        unfold InMemoryScheduleStore.releaseLease
        split <;> rfl
      dsimp only
      rw [InMemoryScheduleStore.releaseLease_fires, specs]
      exact ⟨identified, filed⟩
  | transition key target fence => exact transitioned_keeps identified filed rfl
  | admitRequest admitted => exact ⟨identified, filed⟩
  | timers after => exact ⟨identified, filed⟩

theorem prepared_of_issued {world : SchedulerWorld} {op : SchedulerOp} (issued : Issued sha256 world op) :
    Prepared sha256 world op := by
  cases op with
  | createOrGetFire input =>
      obtain ⟨intl, spec, window, atMs, shaped, rfl⟩ := issued
      exact ⟨fireName spec window.fireWindowKey, shaped, rfl, rfl⟩
  | getSchedule scheduleId => exact issued
  | claimLease scheduleId owner nowMs ttlMs => exact issued
  | admitRequest request => exact issued
  | bindAdmission key binding fence => exact issued
  | observe scheduleId => exact issued
  | cancelWake scheduleId wakeKey => exact issued
  | scheduleWake scheduleId wakeKey fireAtUtcMs => exact issued

/-- What every history has established. -/
theorem History.sound {world : SchedulerWorld} (history : History sha256 world) :
    WorldCoherent sha256 world ∧ Identified sha256 world.store.fires ∧ Filed world.store.specs := by
  induction history with
  | empty =>
      refine ⟨empty_coherent, fun _ _ found => ?_, fun _ _ found => ?_⟩
      · cases found
      · cases found
  | performed _ issued effect ih =>
      obtain ⟨coherent, identified, filed⟩ := ih
      exact ⟨(perform_keeps coherent (prepared_of_issued issued) effect).1,
        performed_keeps identified filed issued effect⟩
  | moved _ surroundings ih =>
      obtain ⟨coherent, identified, filed⟩ := ih
      exact ⟨(surroundings_keep coherent surroundings).1, moved_keeps identified filed surroundings⟩

end Histories

/-! ## The first fire of a window -/

section Listing

variable {accepts : ScheduleFire → Bool}

/-- The key of the first fire, in the order of insertion, that is accepted. -/
def firstKey (accepts : ScheduleFire → Bool) (fires : Fires) : Option JsString :=
  (fires.entries.find? fun entry => accepts entry.2).map Prod.fst

theorem find?_setEntry {key : JsString} {fire : ScheduleFire} {entries : List (JsString × ScheduleFire)}
    (accepted : accepts fire = true)
    (kept : ∀ old, JsMap.lookupEntry key entries = some old → accepts old = true) :
    ((JsMap.setEntry key fire entries).find? fun entry => accepts entry.2).map Prod.fst =
      ((entries.find? fun entry => accepts entry.2).map Prod.fst).or (some key) := by
  induction entries with
  | nil =>
      rw [JsMap.setEntry, List.find?_cons]
      simp only [accepted]
      rfl
  | cons entry rest ih =>
      obtain ⟨other, old⟩ := entry
      by_cases same : other = key
      · have oldAccepted : accepts old = true := kept old (by rw [JsMap.lookupEntry, if_pos same])
        rw [JsMap.setEntry, if_pos same, List.find?_cons, List.find?_cons]
        simp only [accepted, oldAccepted]
        rw [same]
        rfl
      · have later := ih fun value found => kept value (by rw [JsMap.lookupEntry, if_neg same]; exact found)
        rw [JsMap.setEntry, if_neg same, List.find?_cons, List.find?_cons]
        cases here : accepts old with
        | true => rfl
        | false => exact later

/-- Writing an accepted fire over an accepted one, or where none was, leaves the first one in place. -/
theorem firstKey_set {fires : Fires} {key : JsString} {fire : ScheduleFire} (accepted : accepts fire = true)
    (kept : ∀ old, fires.get? key = some old → accepts old = true) :
    firstKey accepts (fires.set key fire) = (firstKey accepts fires).or (some key) :=
  find?_setEntry accepted kept

/-- The first accepted fire is what stands under the first key. -/
theorem find?_values (fires : Fires) : fires.values.find? accepts = (firstKey accepts fires).bind fires.get? := by
  have looked : ∀ entry ∈ fires.entries, fires.get? entry.1 = some entry.2 := fun entry member =>
    JsMap.lookupEntry_of_mem fires.nodup member
  unfold JsMap.values firstKey
  rw [List.find?_map]
  cases found : fires.entries.find? fun entry => accepts entry.2 with
  | none =>
      rw [show (fires.entries.find? (accepts ∘ Prod.snd)) = none from found]
      rfl
  | some entry =>
      rw [show (fires.entries.find? (accepts ∘ Prod.snd)) = some entry from found]
      exact (looked entry (List.mem_of_find?_eq_some found)).symm

/-- A key that holds an accepted fire bounds the first one. -/
theorem firstKey_or {fires : Fires} {key : JsString} {fire : ScheduleFire} (found : fires.get? key = some fire)
    (accepted : accepts fire = true) : (firstKey accepts fires).or (some key) = firstKey accepts fires := by
  have some_ : (firstKey accepts fires).isSome = true := by
    unfold firstKey
    rw [Option.isSome_map, List.find?_isSome]
    exact ⟨(key, fire), JsMap.mem_of_lookupEntry found, accepted⟩
  obtain ⟨first, here⟩ := Option.isSome_iff_exists.mp some_
  rw [here]
  rfl

end Listing

end KernelJson.Scheduler.Histories
