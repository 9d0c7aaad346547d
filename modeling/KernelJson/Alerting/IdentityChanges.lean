import KernelJson.Alerting.Engine

/-!
# Changes of the canonical schedule

The rows of a check that were opened under different canonical schedules share
one key in the engine's lookup.  A check keeps one row, and its episodes survive
every change and every listing, as long as none of them is opened beside a row
of another schedule.
-/

namespace KernelJson.Alerting.IdentityChanges

open Alerting.Engine
open Alerting.Episodes
open Alerting.Policy
open Alerting.Reducer
open Contracts.Platform
open Foundation.JsText

/-! ## The history of one check in a run -/

def observed (attempt : Attempt) (checkId : JsString) : Option CheckResult :=
  attempt.report.checks.find? fun check => check.id = checkId

def readingOf (attempt : Attempt) (check : CheckResult) : Reading :=
  ⟨check.status, check.message, attempt.canonicalScheduleId, attempt.now⟩

/-- The readings of a check in the committed evaluations, latest first. -/
def readingsOf (checkId : JsString) : List Attempt → List Reading
  | [] => []
  | attempt :: past =>
      match observed attempt checkId with
      | none => readingsOf checkId past
      | some check => readingOf attempt check :: readingsOf checkId past

section Histories

variable (platform : Platform)

/-- The evaluations of a check, with the rows and decisions that they left. -/
def momentsOf (checkId : JsString) : List Attempt → List Moment
  | [] => []
  | attempt :: past =>
      match observed attempt checkId with
      | none => momentsOf checkId past
      | some check =>
          ⟨readingOf attempt check, (reduction platform attempt check).1, (reduction platform attempt check).2⟩ ::
            momentsOf checkId past

/-- The row of a check that was written last. -/
def lastWritten (checkId : JsString) : List Attempt → Option AlertStateRow
  | [] => none
  | attempt :: past =>
      ((nextRows platform attempt).find? fun row => row.checkId = checkId).or (lastWritten checkId past)

/-- Every evaluation reduces its checks against their rows that were written last. -/
def AgainstNewest : List Attempt → Prop
  | [] => True
  | attempt :: past =>
      (∀ check ∈ attempt.report.checks, existingFor platform attempt check = lastWritten platform check.id past) ∧
        AgainstNewest past

end Histories

/-- No episode is opened under another canonical schedule than that of the closed row of its check. -/
def KeepsEntity (attempt : Attempt) : Prop :=
  ∀ check ∈ attempt.report.checks, (resolvePolicy check.id).severityFor check.status ≠ none →
    ∀ row ∈ attempt.listing, row.checkId = check.id → row.currentState = .recovered →
      row.entityId = attempt.canonicalScheduleId

/-! ## One row for each check -/

/-- The stored rows are those that were written last. -/
def Single (platform : Platform) (past : List Attempt) (store : AlertStore) : Prop :=
  ∀ row, store.alertState.get? row.fingerprint = some row ↔ lastWritten platform row.checkId past = some row

section Step

variable {platform : Platform} {past : List Attempt} {store : AlertStore} {attempt : Attempt}

theorem mem_of_observed {checkId : JsString} {check : CheckResult} (seen : observed attempt checkId = some check) :
    check ∈ attempt.report.checks ∧ check.id = checkId := by
  refine ⟨List.mem_of_find?_eq_some seen, ?_⟩
  simpa only [decide_eq_true_eq] using List.find?_some seen

theorem lastWritten_checkId {checkId : JsString} {row : AlertStateRow}
    (written : lastWritten platform checkId past = some row) : row.checkId = checkId := by
  induction past with
  | nil => cases written
  | cons attempt past ih =>
      rcases Option.or_eq_some_iff.mp written with here | ⟨-, before⟩
      · simpa only [decide_eq_true_eq] using List.find?_some here
      · exact ih before

/-- With one row for each check the listing does not matter. -/
theorem existingFor_newest (keyed : Keyed platform past store) (single : Single platform past store)
    (listed : attempt.listing.Perm store.alertState.values)
    (separates : Separates platform (FingerprintTexts (attempt :: past))) {check : CheckResult}
    (member : check ∈ attempt.report.checks) :
    existingFor platform attempt check = lastWritten platform check.id past := by
  cases existing : existingFor platform attempt check with
  | none =>
      cases written : lastWritten platform check.id past with
      | none => rfl
      | some row =>
          have named := lastWritten_checkId written
          rw [← named] at written
          exact absurd named (existingFor_none listed existing ((single row).mpr written))
  | some row =>
      obtain ⟨named, stored, -⟩ := existingFor_some keyed listed separates member existing
      rw [← named, (single row).mp stored]

/-- The row of a check among the next rows. -/
theorem find_nextRows (keyed : Keyed platform past store) (listed : attempt.listing.Perm store.alertState.values)
    (separates : Separates platform (FingerprintTexts (attempt :: past))) (checkId : JsString) :
    ((nextRows platform attempt).find? fun row => row.checkId = checkId) =
      (observed attempt checkId).bind fun check => (reduction platform attempt check).1 := by
  have checkOf : ∀ row ∈ nextRows platform attempt, ∃ check ∈ attempt.report.checks,
      (reduction platform attempt check).1 = some row ∧ row.checkId = check.id := by
    intro row member
    obtain ⟨check, inside, made⟩ := mem_nextRows.mp member
    exact ⟨check, inside, made, (nextRow_valid keyed listed separates inside made).1⟩
  cases found : (nextRows platform attempt).find? fun row => row.checkId = checkId with
  | none =>
      have missing := List.find?_eq_none.mp found
      cases seen : observed attempt checkId with
      | none => rfl
      | some check =>
          obtain ⟨member, named⟩ := mem_of_observed seen
          cases made : (reduction platform attempt check).1 with
          | none => exact made.symm
          | some row =>
              have id := (nextRow_valid keyed listed separates member made).1
              exact absurd (decide_eq_true (id.trans named)) (missing row (mem_nextRows.mpr ⟨check, member, made⟩))
  | some row =>
      have named : row.checkId = checkId := by
        simpa only [decide_eq_true_eq] using List.find?_some found
      obtain ⟨check, member, made, id⟩ := checkOf row (List.mem_of_find?_eq_some found)
      cases seen : observed attempt checkId with
      | none => exact absurd (decide_eq_true (id.symm.trans named)) (List.find?_eq_none.mp seen check member)
      | some other =>
          obtain ⟨otherMember, otherNamed⟩ := mem_of_observed seen
          have same : check = other := List.inj_on_of_nodup_map attempt.report.distinct member otherMember
            (id.symm.trans (named.trans otherNamed.symm))
          rw [← same]
          exact made.symm

/-- An evaluation that keeps its entities replaces the row of a check instead of adding one. -/
theorem replaces (keyed : Keyed platform past store) (single : Single platform past store)
    (listed : attempt.listing.Perm store.alertState.values)
    (separates : Separates platform (FingerprintTexts (attempt :: past))) (keeps : KeepsEntity attempt)
    {next row : AlertStateRow} (member : next ∈ nextRows platform attempt)
    (stored : store.alertState.get? row.fingerprint = some row) (same : next.checkId = row.checkId) :
    next.fingerprint = row.fingerprint := by
  obtain ⟨check, inside, made⟩ := mem_nextRows.mp member
  obtain ⟨named, -⟩ := nextRow_valid keyed listed separates inside made
  have existing : existingFor platform attempt check = some row := by
    rw [existingFor_newest keyed single listed separates inside, ← named, same]
    exact (single row).mp stored
  have progress := nextRow_of_reduction made
  rw [existing] at progress
  cases progress with
  | kept _ _ => rfl
  | changed _ _ _ fingerprint => exact fingerprint
  | started _ closed unhealthy fingerprint =>
      have inListing := listed_of_stored listed stored
      have entity := keeps check inside unhealthy row inListing (same.symm.trans named) (closed row rfl)
      have valid := (keyed _ _ stored).2
      rw [fingerprint, valid.fingerprint, entity, ← same, named]
      rfl

theorem single_committed (keyed : Keyed platform past store) (single : Single platform past store)
    (listed : attempt.listing.Perm store.alertState.values)
    (separates : Separates platform (FingerprintTexts (attempt :: past))) (keeps : KeepsEntity attempt)
    {after : AlertStore}
    (done : putAll (nextRows platform attempt) (intents platform attempt) store = some after) :
    Single platform (attempt :: past) after := by
  intro row
  rw [committed_rows keyed listed separates done, lastWritten, Option.or_eq_some_iff]
  have only : row ∈ nextRows platform attempt ↔
      ((nextRows platform attempt).find? fun other => other.checkId = row.checkId) = some row := by
    constructor
    · intro member
      obtain ⟨check, inside, made⟩ := mem_nextRows.mp member
      have named := (nextRow_valid keyed listed separates inside made).1
      rw [find_nextRows keyed listed separates]
      cases seen : observed attempt row.checkId with
      | none => exact absurd (decide_eq_true named.symm) (List.find?_eq_none.mp seen check inside)
      | some other =>
          obtain ⟨otherInside, otherNamed⟩ := mem_of_observed seen
          have same : check = other := List.inj_on_of_nodup_map attempt.report.distinct inside otherInside
            (named.symm.trans otherNamed.symm)
          rw [← same]
          exact made
    · exact List.mem_of_find?_eq_some
  constructor
  · rintro (⟨member, -⟩ | ⟨stored, absent⟩)
    · exact Or.inl (only.mp member)
    · refine Or.inr ⟨List.find?_eq_none.mpr ?_, (single row).mp stored⟩
      intro next member same
      exact absent next member (replaces keyed single listed separates keeps member stored (of_decide_eq_true same))
  · rintro (found | ⟨absent, written⟩)
    · exact Or.inl ⟨only.mpr found, rfl⟩
    · have stored := (single row).mpr written
      refine Or.inr ⟨stored, fun next member same => ?_⟩
      obtain ⟨check, inside, made⟩ := mem_nextRows.mp member
      have nextValid := (nextRow_valid keyed listed separates inside made).2
      have rowValid := (keyed _ _ stored).2.later attempt
      obtain ⟨checks, -⟩ := nextValid.identity separates rowValid same
      exact List.find?_eq_none.mp absent next member (decide_eq_true checks)

/-- A reduction that leaves no row found none. -/
theorem existingFor_of_rowless {check : CheckResult} (rowless : (reduction platform attempt check).1 = none) :
    existingFor platform attempt check = none := by
  have step := reduced platform (resolvePolicy check.id) check attempt.canonicalScheduleId attempt.now
    (existingFor platform attempt check)
  unfold reduction reduceCheck at rowless
  generalize reduceUnder platform (resolvePolicy check.id) check attempt.canonicalScheduleId attempt.now
    (existingFor platform attempt check) = outcome at step rowless
  cases step with
  | quiet _ _ => exact rowless
  | recovered _ _ _ _ => cases rowless
  | started _ _ _ => cases rowless
  | continued _ _ _ _ _ => cases rowless

/-- The evaluations of a check are those that its readings alone determine. -/
structure Replays (platform : Platform) (past : List Attempt) (checkId : JsString) : Prop where
  moments : momentsOf platform checkId past =
    record platform (resolvePolicy checkId) checkId (readingsOf checkId past)
  stored : storedRow (momentsOf platform checkId past) = lastWritten platform checkId past

theorem Replays.committed {checkId : JsString} (replays : Replays platform past checkId)
    (keyed : Keyed platform past store) (single : Single platform past store)
    (listed : attempt.listing.Perm store.alertState.values)
    (separates : Separates platform (FingerprintTexts (attempt :: past))) :
    Replays platform (attempt :: past) checkId := by
  have rows := find_nextRows keyed listed separates checkId
  cases seen : observed attempt checkId with
  | none =>
      rw [seen] at rows
      refine ⟨?_, ?_⟩
      · rw [momentsOf, readingsOf, seen]
        exact replays.moments
      · rw [momentsOf, lastWritten, seen, rows]
        exact replays.stored
  | some check =>
      obtain ⟨member, rfl⟩ := mem_of_observed seen
      have newest := existingFor_newest keyed single listed separates member
      rw [seen] at rows
      refine ⟨?_, ?_⟩
      · rw [momentsOf, readingsOf, seen]
        simp only [record, ← replays.moments, evaluate, reduction, reduceCheck, replays.stored, newest]
        rfl
      · rw [momentsOf, lastWritten, seen, rows]
        cases made : (reduction platform attempt check).1 with
        | none =>
            have absent := existingFor_of_rowless made
            rw [newest] at absent
            simp [storedRow, made, absent]
        | some row => simp [storedRow, made]

end Step

/-! ## Every run -/

/-- What a run that opens every episode under the schedule of its check's row has kept. -/
structure Survives (platform : Platform) (past : List Attempt) (store : AlertStore) : Prop where
  single : Single platform past store
  newest : AgainstNewest platform past
  replays : ∀ checkId, Replays platform past checkId

theorem survives_of_run {platform : Platform} {past : List Attempt} {store : AlertStore}
    (run : Run platform past store) (separates : Separates platform (FingerprintTexts past))
    (keeps : ∀ attempt ∈ past, KeepsEntity attempt) : Survives platform past store := by
  induction run with
  | start =>
      refine ⟨fun row => ?_, trivial, fun _ => ⟨rfl, rfl⟩⟩
      exact iff_of_false (fun impossible => by cases impossible) fun impossible => by cases impossible
  | committed attempt before listed done ih =>
      have earlier := separates.mono fun _ => FingerprintTexts.later attempt
      obtain ⟨keepsNow, keepsBefore⟩ := List.forall_mem_cons.mp keeps
      have survives := ih earlier keepsBefore
      have keyed := before.keyed earlier
      refine ⟨single_committed keyed survives.single listed separates keepsNow done, ⟨?_, survives.newest⟩, ?_⟩
      · exact fun check member => existingFor_newest keyed survives.single listed separates member
      · exact fun checkId => (survives.replays checkId).committed keyed survives.single listed separates
  | aborted _ _ _ ih => exact ih separates keeps
  | delivered _ _ ih =>
      have survives := ih separates keeps
      exact ⟨survives.single, survives.newest, survives.replays⟩

/-- As long as no episode is opened under another canonical schedule than that of its check's closed row: every
evaluation, whatever the order of its listing and whether or not it commits, reduces each check against the
row that was written last, and no stretch of a check's history without a recovery opens two episodes. -/
theorem episodes_survive {platform : Platform} {past : List Attempt} {store : AlertStore}
    (run : Run platform past store) (separates : Separates platform (FingerprintTexts past))
    (keeps : ∀ attempt ∈ past, KeepsEntity attempt) :
    AgainstNewest platform past ∧
      (∀ attempt, attempt.listing.Perm store.alertState.values →
        Separates platform (FingerprintTexts (attempt :: past)) → ∀ check ∈ attempt.report.checks,
          existingFor platform attempt check = lastWritten platform check.id past) ∧
      ∀ checkId, OnceOpened (momentsOf platform checkId past) := by
  have survives := survives_of_run run separates keeps
  refine ⟨survives.newest, ?_, ?_⟩
  · exact fun attempt listed apart check member =>
      existingFor_newest (run.keyed separates) survives.single listed apart member
  · intro checkId
    rw [(survives.replays checkId).moments]
    exact onceOpened_record _ _ _ _

instance (attempt : Attempt) : Decidable (KeepsEntity attempt) :=
  inferInstanceAs (Decidable (∀ check ∈ attempt.report.checks, _ → ∀ row ∈ attempt.listing, _ → _ → _))

/-- The canonical schedule changes while an episode is open; the episode goes on. -/
theorem sample_episode_survives :
    ∃ first second store, Run tailPlatform [second, first] store ∧
      first.canonicalScheduleId ≠ second.canonicalScheduleId ∧
      AgainstNewest tailPlatform [second, first] ∧
      (∀ attempt, attempt.listing.Perm store.alertState.values →
        Separates tailPlatform (FingerprintTexts (attempt :: [second, first])) →
          ∀ check ∈ attempt.report.checks, existingFor tailPlatform attempt check =
            lastWritten tailPlatform check.id [second, first]) ∧
      ∀ checkId, OnceOpened (momentsOf tailPlatform checkId [second, first]) := by
  let first := sampleAttempt .critical (js "canary") 1000 []
  let middle := (sampleCommit first .empty).getD .empty
  let second := sampleAttempt .critical (js "nightly") 2000 middle.alertState.values
  have opened : sampleCommit first .empty = some middle := sampleCommit_getD (by decide +kernel)
  have goesOn : (sampleCommit second middle).isSome = true := by decide +kernel
  obtain ⟨store, committed⟩ := Option.isSome_iff_exists.mp goesOn
  have run : Run tailPlatform [second, first] store :=
    (Run.start.committed first (List.Perm.refl _) opened).committed second (List.Perm.refl _) committed
  have separates := separates_fingerprints tailPlatform [second, first] (by simp [first, second, sampleAttempt])
    (by decide +kernel)
  have keeps : ∀ attempt ∈ [second, first], KeepsEntity attempt := by decide +kernel
  exact ⟨first, second, store, run, by decide +kernel, episodes_survive run separates keeps⟩

/-- A check that recovered under one canonical schedule and failed under another has two rows.  When the closed
one is listed last, the check opens its episode again while nothing about it changed. -/
theorem unchanged_check_opens_twice :
    ∃ past store, Run tailPlatform past store ∧ Separates tailPlatform (FingerprintTexts past) ∧
      ¬ AgainstNewest tailPlatform past ∧ ¬ OnceOpened (momentsOf tailPlatform (js "authority.bindingReleaseConsistent") past) ∧
      ((momentsOf tailPlatform (js "authority.bindingReleaseConsistent") past).take 2).map
        (fun moment => (moment.reading.status, moment.reading.canonicalScheduleId,
          moment.decision.map AlertDecision.kind)) =
        [(.critical, js "nightly", some .new), (.critical, js "nightly", some .new)] := by
  let first := sampleAttempt .critical (js "canary") 1000 []
  let afterFirst := (sampleCommit first .empty).getD .empty
  let second := sampleAttempt .healthy (js "canary") 2000 afterFirst.alertState.values
  let afterSecond := (sampleCommit second afterFirst).getD .empty
  let third := sampleAttempt .critical (js "nightly") 3000 afterSecond.alertState.values
  let afterThird := (sampleCommit third afterSecond).getD .empty
  let fourth := sampleAttempt .critical (js "nightly") 4000 afterThird.alertState.values.reverse
  let past := [fourth, third, second, first]
  have firstDone : sampleCommit first .empty = some afterFirst := sampleCommit_getD (by decide +kernel)
  have secondDone : sampleCommit second afterFirst = some afterSecond := sampleCommit_getD (by decide +kernel)
  have thirdDone : sampleCommit third afterSecond = some afterThird := sampleCommit_getD (by decide +kernel)
  have fourthDone : (sampleCommit fourth afterThird).isSome = true := by decide +kernel
  obtain ⟨store, committed⟩ := Option.isSome_iff_exists.mp fourthDone
  have reversed : fourth.listing.Perm afterThird.alertState.values := by
    rw [show fourth.listing = afterThird.alertState.values.reverse from sampleAttempt_listing _ _ _ _]
    exact List.reverse_perm _
  have runFirst : Run tailPlatform [first] afterFirst := Run.start.committed first (List.Perm.refl _) firstDone
  have runSecond : Run tailPlatform [second, first] afterSecond :=
    runFirst.committed second (List.Perm.refl _) secondDone
  have runThird : Run tailPlatform [third, second, first] afterThird :=
    runSecond.committed third (List.Perm.refl _) thirdDone
  have run : Run tailPlatform past store := runThird.committed fourth reversed committed
  have single : ∀ attempt ∈ past, ∃ status, attempt.report = reportOf status :=
    List.forall_mem_cons.mpr ⟨⟨.critical, rfl⟩, List.forall_mem_cons.mpr ⟨⟨.critical, rfl⟩,
      List.forall_mem_cons.mpr ⟨⟨.healthy, rfl⟩, List.forall_mem_singleton.mpr ⟨.critical, rfl⟩⟩⟩⟩
  have separates := separates_fingerprints tailPlatform past single (by decide +kernel)
  refine ⟨past, store, run, separates, ?_, ?_, by decide +kernel⟩
  · intro against
    have stale : ¬ ∀ check ∈ fourth.report.checks, existingFor tailPlatform fourth check =
        lastWritten tailPlatform check.id [third, second, first] := by decide +kernel
    exact stale against.1
  · intro once
    have unrecovered : ∀ moment ∈ (momentsOf tailPlatform (js "authority.bindingReleaseConsistent") past).take 2,
        ¬ moment.Emits .recovered := by decide +kernel
    have twice : openings ((momentsOf tailPlatform (js "authority.bindingReleaseConsistent") past).take 2) = 2 := by decide +kernel
    have bound := once [] _ ((momentsOf tailPlatform (js "authority.bindingReleaseConsistent") past).drop 2)
      (List.take_append_drop 2 _).symm unrecovered
    omega

end KernelJson.Alerting.IdentityChanges
