import KernelJson.Alerting.Engine
import KernelJson.Health.Catalogue

/-!
# Alerts on the checks of the catalogue

Every check that a report has is reduced against the row of its alert, so an
open alert goes on or recovers with each report that has its check.  A report
that leaves a check out by design leaves the row of its alert as it is.
-/

namespace KernelJson.Health

open Alerting.Engine
open Alerting.Reducer
open Contracts.Platform
open Foundation.JsText

/-! ## Reports -/

/-- What the engine reads of a check. -/
def engineCheck (check : CheckResult) : KernelJson.Alerting.Policy.CheckResult :=
  ⟨check.id.text, check.status, check.message⟩

section Reports

variable (dateParse : JsString → Option Int) (snapshot : HealthSnapshot) (exp : HealthExpectations)

/-- The checks of a report, as the engine reads them. -/
def engineChecks : List KernelJson.Alerting.Policy.CheckResult :=
  (allChecks (evaluateHealthSnapshot dateParse snapshot exp)).map engineCheck

theorem engineChecks_ids :
    (engineChecks dateParse snapshot exp).map KernelJson.Alerting.Policy.CheckResult.id =
      ((wholeCatalogue exp).filter (isReported snapshot)).map CheckId.text := by
  rw [← allChecks_ids dateParse snapshot exp, engineChecks, List.map_map, List.map_map]
  rfl

/-- The report of a snapshot. -/
def reportFor : HealthReport where
  checks := engineChecks dateParse snapshot exp
  distinct := by
    rw [engineChecks_ids]
    exact ((wholeCatalogue_nodup exp).filter _).map CheckId.text_injective
  singleLine := by
    intro check member
    obtain ⟨original, -, rfl⟩ := List.mem_map.mp member
    exact original.id.text_singleLine

/-- The evaluation of a report at an instant, with the rows as they were listed. -/
def attemptFor (now : Int) (listing : List AlertStateRow) : Attempt :=
  ⟨reportFor dateParse snapshot exp, exp.scheduleId, now, listing⟩

theorem mem_reported {id : JsString} :
    (∃ check ∈ (reportFor dateParse snapshot exp).checks, check.id = id) ↔
      ∃ listed ∈ (wholeCatalogue exp).filter (isReported snapshot), listed.text = id := by
  rw [← List.mem_map, ← List.mem_map, ← engineChecks_ids dateParse snapshot exp]
  rfl

end Reports

/-! ## Rows of one schedule -/

section Rows

variable {platform : Platform} {past : List Attempt} {store : AlertStore} {attempt : Attempt}

/-- While the schedule stays, a check is reduced against its own row. -/
theorem existingFor_stored (keyed : Keyed platform past store)
    (fixed : ∀ earlier ∈ past, earlier.canonicalScheduleId = attempt.canonicalScheduleId)
    (listed : attempt.listing.Perm store.alertState.values)
    (separates : Separates platform (FingerprintTexts (attempt :: past)))
    {check : KernelJson.Alerting.Policy.CheckResult} (member : check ∈ attempt.report.checks) {key : JsString}
    {row : AlertStateRow} (stored : store.alertState.get? key = some row) (named : row.checkId = check.id) :
    existingFor platform attempt check = some row := by
  have entity : ∀ {other : AlertStateRow}, Valid platform past other →
      other.entityId = attempt.canonicalScheduleId := by
    intro other valid
    obtain ⟨earlier, inside, same⟩ := valid.entity
    exact same.symm.trans (fixed earlier inside)
  obtain ⟨here, valid⟩ := keyed key row stored
  cases existing : existingFor platform attempt check with
  | none => exact absurd named (existingFor_none listed existing stored)
  | some found =>
      obtain ⟨foundName, foundStored, foundValid⟩ := existingFor_some keyed listed separates member existing
      have same : found.fingerprint = row.fingerprint := by
        rw [foundValid.fingerprint, valid.fingerprint, foundName, named, entity foundValid, entity valid]
      rw [same, here, stored] at foundStored
      rw [foundStored]

/-- An open row goes on or recovers. -/
theorem reduction_of_opened {check : KernelJson.Alerting.Policy.CheckResult} {row : AlertStateRow}
    (existing : existingFor platform attempt check = some row) (opened : row.currentState = .opened) :
    ∃ next, (reduction platform attempt check).1 = some next ∧ next.fingerprint = row.fingerprint ∧
      next.lastSeenAt = attempt.now := by
  have step := reduced platform (KernelJson.Alerting.Policy.resolvePolicy check.id) check attempt.canonicalScheduleId
    attempt.now (some row)
  unfold reduction reduceCheck
  rw [existing]
  generalize reduceUnder platform (KernelJson.Alerting.Policy.resolvePolicy check.id) check attempt.canonicalScheduleId
    attempt.now (some row) = outcome at step ⊢
  cases step with
  | quiet _ closed =>
      have ended := closed row rfl
      rw [opened] at ended
      cases ended
  | recovered other _ same _ =>
      cases same
      exact ⟨_, rfl, rfl, rfl⟩
  | started _ _ closed =>
      have ended := closed row rfl
      rw [opened] at ended
      cases ended
  | continued other _ _ same _ =>
      cases same
      exact ⟨_, rfl, rfl, rfl⟩

/-- The row of an unreported check stands after the commit. -/
theorem kept_of_unreported (keyed : Keyed platform past store)
    (listed : attempt.listing.Perm store.alertState.values)
    (separates : Separates platform (FingerprintTexts (attempt :: past))) {key : JsString} {row : AlertStateRow}
    (stored : store.alertState.get? key = some row)
    (unreported : ∀ check ∈ attempt.report.checks, check.id ≠ row.checkId) {after : AlertStore}
    (done : putAll (nextRows platform attempt) (intents platform attempt) store = some after) :
    after.alertState.get? key = some row := by
  refine (committed_rows keyed listed separates done key row).mpr (Or.inr ⟨stored, ?_⟩)
  intro next member same
  obtain ⟨check, inside, made⟩ := mem_nextRows.mp member
  obtain ⟨named, valid⟩ := nextRow_valid keyed listed separates inside made
  obtain ⟨here, rowValid⟩ := keyed key row stored
  obtain ⟨checks, -⟩ := valid.identity separates (rowValid.later attempt) (same.trans here.symm)
  exact unreported check inside (named.symm.trans checks)

end Rows

/-! ## The checks of every snapshot -/

/-- Left out by design: the read checks of a database that was not reached, and the checks on the details of
the evidence when there is no scheduled task to read it of. -/
def isWithheld (snapshot : HealthSnapshot) : CheckId → Bool
  | .scheduleReadsSucceed => !snapshot.database.reachable
  | .taskReadsSucceed => !snapshot.database.reachable
  | .toolReceiptPresentWhereRequired =>
      !(snapshot.evidence.dbReachable && isTruthy snapshot.evidence.mostRecentScheduledTaskId)
  | .digestMatchesApproved =>
      !(snapshot.evidence.dbReachable && isTruthy snapshot.evidence.mostRecentScheduledTaskId)
  | .boundToCorrectTask =>
      !(snapshot.evidence.dbReachable && isTruthy snapshot.evidence.mostRecentScheduledTaskId)
  | _ => false

/-- Nothing is said of the active version while there is no row of the schedule to read it of, nor of the
capability service while the registered services could not be read. -/
def isUndecided (snapshot : HealthSnapshot) : CheckId → Bool
  | .activeVersionExpected => snapshot.scheduler.dbReachable && snapshot.scheduler.scheduleState.isNone
  | .capabilityServiceRegistered => snapshot.execution.registeredServices.isUnavailable
  | _ => false

theorem isReported_iff {snapshot : HealthSnapshot} {id : CheckId} (decided : isUndecided snapshot id = false) :
    isReported snapshot id = true ↔ isWithheld snapshot id = false := by
  cases id with
  | activeVersionExpected =>
      revert decided
      simp only [isReported, isWithheld, isUndecided]
      cases snapshot.scheduler.dbReachable <;> cases snapshot.scheduler.scheduleState <;> simp
  | capabilityServiceRegistered => simpa [isReported, isWithheld, isUndecided] using decided
  | _ => simp [isReported, isWithheld]

/-- What a report has of the catalogue. -/
structure StableChecks (dateParse : JsString → Option Int) (snapshot : HealthSnapshot)
    (exp : HealthExpectations) :
    Prop where
  ordered : ∀ domain, (checkIds dateParse snapshot exp domain).Sublist (catalogue exp domain)
  once : ∀ domain, (checkIds dateParse snapshot exp domain).Nodup
  reported : ∀ domain, ∀ id ∈ catalogue exp domain, isUndecided snapshot id = false →
    (id ∈ checkIds dateParse snapshot exp domain ↔ isWithheld snapshot id = false)
  honest : ∀ domain, ∀ check ∈ (evaluateHealthSnapshot dateParse snapshot exp domain).checks,
    isUnread snapshot check.id = true → check.status = .unknown

theorem stableChecks (dateParse : JsString → Option Int) (snapshot : HealthSnapshot)
    (exp : HealthExpectations) :
    StableChecks dateParse snapshot exp where
  ordered := by
    intro domain
    rw [checkIds_eq]
    exact List.filter_sublist
  once := by
    intro domain
    rw [checkIds_eq]
    exact (catalogue_nodup exp domain).filter _
  reported := by
    intro domain id listed decided
    rw [checkIds_eq, List.mem_filter, isReported_iff decided]
    exact and_iff_right listed
  honest := unread_unknown dateParse snapshot exp

/-- What an evaluation does to the alerts that stand. -/
structure AlertsFollow (platform : Platform) (store : AlertStore) (dateParse : JsString → Option Int)
    (snapshot : HealthSnapshot) (exp : HealthExpectations) (attempt : Attempt) : Prop where
  reevaluated : ∀ key row, store.alertState.get? key = some row → row.currentState = .opened →
    ∀ domain, ∀ id ∈ checkIds dateParse snapshot exp domain, id.text = row.checkId →
      ∃ check ∈ attempt.report.checks, check.id = row.checkId ∧ existingFor platform attempt check = some row ∧
        ∃ next, (reduction platform attempt check).1 = some next ∧ next.lastSeenAt = attempt.now ∧
          ∀ after, putAll (nextRows platform attempt) (intents platform attempt) store = some after →
            after.alertState.get? key = some next
  kept : ∀ key row, store.alertState.get? key = some row →
    (∀ domain, ∀ id ∈ checkIds dateParse snapshot exp domain, id.text ≠ row.checkId) →
      ∀ after, putAll (nextRows platform attempt) (intents platform attempt) store = some after →
        after.alertState.get? key = some row

theorem mem_wholeCatalogue {exp : HealthExpectations} {snapshot : HealthSnapshot} {id : CheckId}
    (dateParse : JsString → Option Int) :
    id ∈ (wholeCatalogue exp).filter (isReported snapshot) ↔
      ∃ domain, id ∈ checkIds dateParse snapshot exp domain := by
  simp only [checkIds_eq, List.mem_filter, wholeCatalogue, List.mem_flatMap]
  constructor
  · rintro ⟨⟨domain, -, listed⟩, reported⟩
    exact ⟨domain, listed, reported⟩
  · rintro ⟨domain, listed, reported⟩
    exact ⟨⟨domain, mem_healthDomains domain, listed⟩, reported⟩

section Claim

variable {platform : Platform} {past : List Attempt} {store : AlertStore}
variable (dateParse : JsString → Option Int) (snapshot : HealthSnapshot) (exp : HealthExpectations)
variable (now : Int) (listing : List AlertStateRow)

/-- In a run under one schedule, open alerts follow the checks that are reported. -/
theorem alertsFollow (keyed : Keyed platform past store)
    (fixed : ∀ earlier ∈ past, earlier.canonicalScheduleId = exp.scheduleId)
    (listed : listing.Perm store.alertState.values)
    (separates : Separates platform (FingerprintTexts (attemptFor dateParse snapshot exp now listing :: past))) :
    AlertsFollow platform store dateParse snapshot exp (attemptFor dateParse snapshot exp now listing) where
  reevaluated := by
    intro key row stored opened domain id reported named
    obtain ⟨check, member, same⟩ := (mem_reported dateParse snapshot exp).mpr
      ⟨id, (mem_wholeCatalogue dateParse).mpr ⟨domain, reported⟩, named⟩
    have existing := @existingFor_stored _ _ _ (attemptFor dateParse snapshot exp now listing) keyed fixed listed
      separates check member key row stored same.symm
    obtain ⟨next, made, sameKey, seen⟩ := reduction_of_opened existing opened
    refine ⟨check, member, same, existing, next, made, seen, ?_⟩
    intro after done
    refine (committed_rows keyed listed separates done key next).mpr (Or.inl ⟨?_, ?_⟩)
    · exact mem_nextRows.mpr ⟨check, member, made⟩
    · exact sameKey.trans (keyed key row stored).1
  kept := by
    intro key row stored absent after done
    refine kept_of_unreported keyed listed separates stored ?_ done
    intro check member same
    obtain ⟨id, reported, named⟩ := (mem_reported dateParse snapshot exp).mp ⟨check, member, same⟩
    obtain ⟨domain, inside⟩ := (mem_wholeCatalogue dateParse).mp reported
    exact absent domain id inside named

/-- Every snapshot is evaluated to the checks of one catalogue, and in a run under fixed expectations an open
alert is evaluated whenever its check is reported. -/
theorem catalogue_stable (run : Run platform past store)
    (fixed : ∀ earlier ∈ past, earlier.canonicalScheduleId = exp.scheduleId)
    (listed : listing.Perm store.alertState.values)
    (separates : Separates platform (FingerprintTexts (attemptFor dateParse snapshot exp now listing :: past))) :
    StableChecks dateParse snapshot exp ∧
      AlertsFollow platform store dateParse snapshot exp (attemptFor dateParse snapshot exp now listing) := by
  have keyed := run.keyed (separates.mono fun _ => FingerprintTexts.later _)
  exact ⟨stableChecks dateParse snapshot exp,
    alertsFollow dateParse snapshot exp now listing keyed fixed listed separates⟩

end Claim

/-! ## A sample -/

def sampleExpectations : HealthExpectations where
  scheduleId := js "canary"
  scheduleState := .enabled
  activeVersion := some (js "v1")
  recipe := js "canary"
  approvedDigestSha256 := none
  armNext := false
  releaseId := none
  services := [capabilityService]
  fireStalenessGraceMs := none
  plannedFireGraceMs := none
  stuckWakeGraceMs := none
  identityBootstrapGraceMs := none

/-- No source could be read. -/
def darkSnapshot : HealthSnapshot where
  checkedAt := []
  scheduler := ⟨false, none, [], .unavailable []⟩
  authority := ⟨false, none, [], [], false⟩
  admission := ⟨false, .unavailable [], false⟩
  execution := ⟨.unavailable [], .unavailable []⟩
  restate := ⟨.unavailable [], .unavailable [], .unavailable []⟩
  database := ⟨false, false, false⟩
  evidence := ⟨false, none, []⟩
  releaseParity := ⟨false, none, none, false⟩
  productionConfig := ⟨none, none, none, none⟩
  legacyAuthority := ⟨.unavailable []⟩
  identity := ⟨false, [], [], .unavailable []⟩

/-- Only the reads of the database succeed. -/
def readSnapshot : HealthSnapshot :=
  { darkSnapshot with database := ⟨true, true, true⟩ }

/-- With the database the read checks of its domain are gone. -/
theorem catalogue_unstable :
    ¬ ∀ dateParse exp first second domain id,
      id ∈ checkIds dateParse first exp domain ↔ id ∈ checkIds dateParse second exp domain := by
  intro stable
  have same := stable (fun _ => none) sampleExpectations readSnapshot darkSnapshot .database .taskReadsSucceed
  rw [checkIds_eq, checkIds_eq] at same
  exact absurd same (by decide)

theorem sampleHashes_nodup :
    (everyId.map fun id => shortHash tailPlatform (fingerprintText id.text (js "canary"))).Nodup := by
  simp only [everyId, List.map_cons, List.map_nil, CheckId.text]
  iterate 43 rw [js_ofList]
  decide

/-- The hash of the sample tells the checks of a run under one schedule apart. -/
theorem separates_catalogue (past : List Attempt)
    (scheduled : ∀ attempt ∈ past, attempt.canonicalScheduleId = js "canary")
    (named : ∀ attempt ∈ past, ∀ check ∈ attempt.report.checks, ∃ id : CheckId, id.text = check.id) :
    Separates tailPlatform (FingerprintTexts past) := by
  rintro _ _ ⟨first, memberFirst, check, inside, second, memberSecond, rfl⟩
    ⟨third, memberThird, other, otherInside, fourth, memberFourth, rfl⟩ same
  obtain ⟨id, idText⟩ := named first memberFirst check inside
  obtain ⟨otherId, otherText⟩ := named third memberThird other otherInside
  rw [scheduled second memberSecond, scheduled fourth memberFourth, ← idText, ← otherText] at same ⊢
  rw [List.inj_on_of_nodup_map sampleHashes_nodup (mem_everyId id) (mem_everyId otherId) same]

theorem sampleAttempt_named (status : KernelJson.Alerting.Policy.HealthStatus) (now : Int)
    (listing : List AlertStateRow) :
    ∀ check ∈ (sampleAttempt status (js "canary") now listing).report.checks, ∃ id : CheckId,
      id.text = check.id := by
  intro check member
  rw [List.mem_singleton.mp member]
  exact ⟨.bindingReleaseConsistent, rfl⟩

theorem attemptFor_named (dateParse : JsString → Option Int) (snapshot : HealthSnapshot)
    (exp : HealthExpectations)
    (now : Int) (listing : List AlertStateRow) :
    ∀ check ∈ (attemptFor dateParse snapshot exp now listing).report.checks, ∃ id : CheckId,
      id.text = check.id := by
  intro check member
  obtain ⟨original, -, rfl⟩ := List.mem_map.mp member
  exact ⟨original.id, rfl⟩

/-- The store after an alert opened. -/
def sampleStore : AlertStore :=
  (sampleCommit (sampleAttempt .critical (js "canary") 1000 []) .empty).getD .empty

/-- An alert opens; then no source can be read, and its check is reported all the same. -/
theorem sample_catalogue_stable :
    ∃ row, sampleStore.alertState.values = [row] ∧ row.currentState = .opened ∧
      StableChecks (fun _ => none) darkSnapshot sampleExpectations ∧
        AlertsFollow tailPlatform sampleStore (fun _ => none) darkSnapshot sampleExpectations
          (attemptFor (fun _ => none) darkSnapshot sampleExpectations 2000 [row]) := by
  have committed := @sampleCommit_getD (sampleAttempt .critical (js "canary") 1000 []) .empty (by decide)
  have run := Run.start.committed _ (List.Perm.refl _) committed
  have states : sampleStore.alertState.values.map AlertStateRow.currentState = [.opened] := by decide
  obtain ⟨row, values, opened⟩ := List.map_eq_singleton_iff.mp states
  have listed : [row].Perm sampleStore.alertState.values := by rw [values]
  refine ⟨row, values, opened, catalogue_stable _ _ _ 2000 [row] run ?_ listed (separates_catalogue _ ?_ ?_)⟩
  · intro attempt member
    rw [List.mem_singleton.mp member]
    rfl
  · simp [attemptFor, sampleAttempt, sampleExpectations]
  · simp only [List.forall_mem_cons, List.not_mem_nil, false_imp_iff, implies_true, and_true]
    exact ⟨attemptFor_named _ _ _ _ _, sampleAttempt_named _ _ _⟩

end KernelJson.Health
