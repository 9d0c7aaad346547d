import KernelJson.Health.Evaluate

/-!
# The catalogue of health checks

For given expectations each domain has a fixed list of checks, and a snapshot is
evaluated to the checks of that list in its order.  Some of them are left out
where what they look at was not there to be looked at.  An alert whose check is
left out keeps its row until the check is reported again.
-/

namespace KernelJson.Health

open Alerting.Policy
open Foundation.JsText

/-! ## The checks of a domain -/

/-- A check that is made only under some expectations. -/
def expectedIf (condition : Bool) (id : CheckId) : List CheckId :=
  if condition then [id] else []

/-- The checks of each domain, in the order in which they are reported. -/
def catalogue (exp : HealthExpectations) : DomainName → List CheckId
  | .authority =>
      [.bindingReleaseConsistent, .admittedFiresHaveCanonicalTasks, .admittedFiresMaterialised,
        .noReleaseMismatchIncidents]
  | .admission => [.doorReachable, .humanOperatorPresent]
  | .scheduler =>
      .scheduleEnabled :: expectedIf (isTruthy exp.activeVersion) .activeVersionExpected ++
        [.recentFireExists, .noDuplicateFireWindow, .noOrphanPlannedFire, .admittedFiresBoundConsistently,
          .nextWakeArmedAndFuture, .noZeroDelayLoop]
  | .execution =>
      .workerRegistered :: expectedIf (exp.services.contains capabilityService) .capabilityServiceRegistered ++
        [.noWorkerRestartLoop]
  | .restate => [.restateReachable, .expectedServicesRegistered, .noStuckInvocation]
  | .database => [.databaseReachable, .scheduleReadsSucceed, .taskReadsSucceed]
  | .evidence =>
      [.mostRecentCompletedTaskHasEvidence, .toolReceiptPresentWhereRequired, .digestMatchesApproved,
        .boundToCorrectTask]
  | .releaseParity =>
      [.selfReportedReleaseKnown, .matchesExpected, .recentBindingsConsistent, .noBoundReleaseRejection]
  | .productionConfig => [.armNextExpected, .approvedDigestPresentAndValid, .scheduleIdentityMatchesCanonical]
  | .legacyAuthority => [.b1FreezeObservable]
  | .identity =>
      [.completedTasksHaveActivation, .profilesHaveActivatedIdentity, .currentDigestParity,
        .singleCurrentPerTenant,
        .headEqualsCurrent, .analystRunsBound, .verifierIsolated]

/-! ## The texts of the identifiers -/

/-- The checks of every domain. -/
def everyId : List CheckId :=
  [.bindingReleaseConsistent, .admittedFiresHaveCanonicalTasks, .admittedFiresMaterialised,
    .noReleaseMismatchIncidents,
    .doorReachable, .humanOperatorPresent, .scheduleEnabled, .activeVersionExpected, .recentFireExists,
    .noDuplicateFireWindow, .noOrphanPlannedFire, .admittedFiresBoundConsistently, .nextWakeArmedAndFuture,
    .noZeroDelayLoop, .workerRegistered, .capabilityServiceRegistered, .noWorkerRestartLoop, .restateReachable,
    .expectedServicesRegistered, .noStuckInvocation, .databaseReachable, .scheduleReadsSucceed,
      .taskReadsSucceed,
    .mostRecentCompletedTaskHasEvidence, .toolReceiptPresentWhereRequired, .digestMatchesApproved,
      .boundToCorrectTask,
    .selfReportedReleaseKnown, .matchesExpected, .recentBindingsConsistent, .noBoundReleaseRejection,
      .armNextExpected,
    .approvedDigestPresentAndValid, .scheduleIdentityMatchesCanonical, .b1FreezeObservable,
    .completedTasksHaveActivation, .profilesHaveActivatedIdentity, .currentDigestParity,
      .singleCurrentPerTenant,
    .headEqualsCurrent, .analystRunsBound, .verifierIsolated]

theorem mem_everyId (id : CheckId) : id ∈ everyId := by
  cases id <;> decide

/-- A number that tells the texts of the identifiers apart. -/
def signature (text : JsString) : Nat :=
  text.foldl (fun sum unit => 31 * sum + unit.toNat) 0

theorem signatures_nodup : (everyId.map fun id => signature id.text).Nodup := by
  simp only [everyId, List.map_cons, List.map_nil, CheckId.text]
  iterate 42 rw [js_ofList]
  decide

/-- Different checks have different identifiers. -/
theorem CheckId.text_injective : Function.Injective CheckId.text := by
  intro first second same
  exact List.inj_on_of_nodup_map signatures_nodup (mem_everyId first) (mem_everyId second) (congrArg signature same)

/-- An identifier is a single line. -/
theorem CheckId.text_singleLine (id : CheckId) : 10 ∉ id.text := by
  cases id <;> (simp only [CheckId.text]; rw [js_ofList]; decide)

/-! ## The catalogue -/

/-- The checks of all domains. -/
def wholeCatalogue (exp : HealthExpectations) : List CheckId :=
  healthDomains.flatMap (catalogue exp)

/-- No check stands twice in the catalogue. -/
theorem wholeCatalogue_nodup (exp : HealthExpectations) : (wholeCatalogue exp).Nodup := by
  simp only [wholeCatalogue, healthDomains, List.flatMap_cons, List.flatMap_nil, catalogue]
  generalize isTruthy exp.activeVersion = versioned
  generalize exp.services.contains capabilityService = capable
  cases versioned <;> cases capable <;> decide

theorem mem_healthDomains (domain : DomainName) : domain ∈ healthDomains := by
  cases domain <;> decide

theorem catalogue_nodup (exp : HealthExpectations) (domain : DomainName) : (catalogue exp domain).Nodup :=
  (List.nodup_flatMap.mp (wholeCatalogue_nodup exp)).1 domain (mem_healthDomains domain)

/-- What a snapshot lets be reported. -/
def isReported (snapshot : HealthSnapshot) : CheckId → Bool
  | .activeVersionExpected => !snapshot.scheduler.dbReachable || snapshot.scheduler.scheduleState.isSome
  | .capabilityServiceRegistered => !snapshot.execution.registeredServices.isUnavailable
  | .scheduleReadsSucceed => snapshot.database.reachable
  | .taskReadsSucceed => snapshot.database.reachable
  | .toolReceiptPresentWhereRequired =>
      snapshot.evidence.dbReachable && isTruthy snapshot.evidence.mostRecentScheduledTaskId
  | .digestMatchesApproved =>
      snapshot.evidence.dbReachable && isTruthy snapshot.evidence.mostRecentScheduledTaskId
  | .boundToCorrectTask =>
      snapshot.evidence.dbReachable && isTruthy snapshot.evidence.mostRecentScheduledTaskId
  | _ => true

/-! ## The identifiers of checks -/

section Identifiers

variable (dateParse : JsString → Option Int) (exp : HealthExpectations) (checkedAt : JsString)

theorem doorCheck_id (healthy : Source Bool) : (doorCheck healthy checkedAt).id = .doorReachable := by
  cases healthy <;> rfl

theorem restartCheck_id (count : Source Nat) : (restartCheck count checkedAt).id = .noWorkerRestartLoop := by
  cases count <;> rfl

theorem restateReachableCheck_id (reachable : Source Bool) :
    (restateReachableCheck reachable checkedAt).id = .restateReachable := by
  cases reachable <;> rfl

theorem expectedServicesCheck_id (registered : Source (List JsString)) :
    (expectedServicesCheck registered exp checkedAt).id = .expectedServicesRegistered := by
  cases registered <;> rfl

theorem stuckInvocationCheck_id (invocations : Source (List RestateInvocationRow)) :
    (stuckInvocationCheck dateParse invocations checkedAt).id = .noStuckInvocation := by
  cases invocations <;> rfl

theorem digestCheck_id (receipt : Option EvidenceRow) :
    (digestCheck receipt exp checkedAt).id = .digestMatchesApproved := by
  unfold digestCheck
  split <;> rfl

theorem matchesExpectedCheck_id (reported : Option JsString) :
    (matchesExpectedCheck reported exp checkedAt).id = .matchesExpected := by
  unfold matchesExpectedCheck
  split <;> rfl

theorem armNextCheck_id (armNext : Option Bool) :
    (armNextCheck armNext exp checkedAt).id = .armNextExpected := by
  cases armNext <;> rfl

theorem approvedDigestCheck_id (shapeValid : Option Bool) :
    (approvedDigestCheck shapeValid checkedAt).id = .approvedDigestPresentAndValid := by
  cases shapeValid <;> rfl

theorem recentFireCheck_id (s : SchedulerSnapshot) :
    (recentFireCheck dateParse s exp checkedAt).id = .recentFireExists := by
  unfold recentFireCheck
  split <;> rfl

theorem nextWakeCheck_id (invocations : List RestateInvocationRow) :
    (nextWakeCheck dateParse exp checkedAt invocations).id = .nextWakeArmedAndFuture := by
  unfold nextWakeCheck
  simp only
  split
  · split <;> rfl
  · rfl

theorem analystRunsCheck_id (c : IdentityCognitionSnapshot) :
    (analystRunsCheck c checkedAt).id = .analystRunsBound := by
  unfold analystRunsCheck
  split <;> rfl

theorem verifierCheck_id (c : IdentityCognitionSnapshot) :
    (verifierCheck c checkedAt).id = .verifierIsolated := by
  unfold verifierCheck
  split
  · rfl
  · split <;> rfl

theorem evaluateIdentityCognition_ids (cognition : Source IdentityCognitionSnapshot) :
    (evaluateIdentityCognition cognition checkedAt).map CheckResult.id =
      [.currentDigestParity, .singleCurrentPerTenant, .headEqualsCurrent, .analystRunsBound,
        .verifierIsolated] := by
  cases cognition with
  | unavailable reason => rfl
  | read c =>
      simp only [evaluateIdentityCognition, List.map_cons, analystRunsCheck_id, verifierCheck_id]
      rfl

theorem scheduleRestateChecks_ids (s : SchedulerSnapshot) :
    (scheduleRestateChecks dateParse s exp checkedAt).map CheckResult.id =
      [.nextWakeArmedAndFuture, .noZeroDelayLoop] := by
  unfold scheduleRestateChecks
  split
  · rfl
  · simp only [List.map_cons, nextWakeCheck_id]
    rfl

/-- Checks made for a truthy text. -/
theorem toList_map_of_truthy (text : Option JsString) (make : JsString → CheckResult) (id : CheckId)
    (same : ∀ value, (make value).id = id) :
    ((truthy text).map make).toList.map CheckResult.id = expectedIf (isTruthy text) id := by
  unfold isTruthy expectedIf
  cases truthy text with
  | none => rfl
  | some value => simp [same]

theorem scheduleRowChecks_ids (s : SchedulerSnapshot) :
    (scheduleRowChecks s exp checkedAt).map CheckResult.id =
      .scheduleEnabled :: expectedIf (s.scheduleState.isSome && isTruthy exp.activeVersion) .activeVersionExpected := by
  unfold scheduleRowChecks
  cases s.scheduleState with
  | none => rfl
  | some row =>
      simp only [List.map_cons, Option.isSome_some, Bool.true_and]
      rw [toList_map_of_truthy _ _ .activeVersionExpected fun _ => rfl]
      rfl

theorem scheduleDbChecks_ids (s : SchedulerSnapshot) :
    (scheduleDbChecks dateParse s exp checkedAt).map CheckResult.id =
      .scheduleEnabled ::
        expectedIf ((!s.dbReachable || s.scheduleState.isSome) && isTruthy exp.activeVersion) .activeVersionExpected ++
        [.recentFireExists, .noDuplicateFireWindow, .noOrphanPlannedFire, .admittedFiresBoundConsistently] := by
  unfold scheduleDbChecks
  cases s.dbReachable with
  | false =>
      simp only [Bool.false_eq_true, if_false, List.map_append, Bool.not_false, Bool.true_or, Bool.true_and]
      rw [toList_map_of_truthy _ _ .activeVersionExpected fun _ => rfl]
      rfl
  | true =>
      simp only [if_true, List.map_append, scheduleRowChecks_ids, List.map_cons, recentFireCheck_id,
        Bool.not_true,
        Bool.false_or]
      rfl

theorem registrationChecks_ids (registered : Source (List JsString)) :
    (registrationChecks registered exp checkedAt).map CheckResult.id =
      .workerRegistered ::
        expectedIf (!registered.isUnavailable && exp.services.contains capabilityService)
          .capabilityServiceRegistered := by
  cases registered with
  | unavailable reason => rfl
  | read names =>
      simp only [registrationChecks, List.map_cons, Source.isUnavailable, Bool.not_false, Bool.true_and]
      cases exp.services.contains capabilityService <;> rfl

theorem evidenceChecks_ids (taskId : JsString) (rows : List EvidenceRow) :
    (evidenceChecks taskId rows exp checkedAt).map CheckResult.id =
      [.mostRecentCompletedTaskHasEvidence, .toolReceiptPresentWhereRequired, .digestMatchesApproved,
        .boundToCorrectTask] := by
  simp only [evidenceChecks, List.map_cons, digestCheck_id]
  rfl

end Identifiers

section Evaluation

variable (dateParse : JsString → Option Int) (snapshot : HealthSnapshot) (exp : HealthExpectations)

/-- The identifiers that a snapshot is evaluated to in a domain. -/
def checkIds (domain : DomainName) : List CheckId :=
  (evaluateHealthSnapshot dateParse snapshot exp domain).checks.map CheckResult.id

/-- A snapshot is evaluated to the checks of the catalogue that it lets be reported. -/
theorem checkIds_eq (domain : DomainName) :
    checkIds dateParse snapshot exp domain = (catalogue exp domain).filter (isReported snapshot) := by
  unfold checkIds
  cases domain with
  | authority =>
      simp only [evaluateHealthSnapshot, evaluateAuthority]
      split <;> rfl
  | admission =>
      simp only [evaluateHealthSnapshot, evaluateAdmission, aggregateDomain_checks, List.map_cons, doorCheck_id]
      split <;> rfl
  | scheduler =>
      simp only [evaluateHealthSnapshot, evaluateScheduler, aggregateDomain_checks, List.map_append,
        scheduleDbChecks_ids, scheduleRestateChecks_ids]
      cases reachable : snapshot.scheduler.dbReachable <;> cases row : snapshot.scheduler.scheduleState <;>
        cases version : isTruthy exp.activeVersion <;>
          simp [expectedIf, catalogue, List.filter_cons, isReported, reachable, row, version]
  | execution =>
      simp only [evaluateHealthSnapshot, evaluateExecution, aggregateDomain_checks, List.map_append,
        registrationChecks_ids, List.map_cons, restartCheck_id, List.map_nil]
      simp only [catalogue]
      cases read : snapshot.execution.registeredServices.isUnavailable <;>
        cases exp.services.contains capabilityService <;>
          simp [expectedIf, List.filter_cons, isReported, read]
  | restate =>
      simp only [evaluateHealthSnapshot, evaluateRestate, aggregateDomain_checks, List.map_cons,
        restateReachableCheck_id, expectedServicesCheck_id, stuckInvocationCheck_id]
      rfl
  | database =>
      simp only [evaluateHealthSnapshot, evaluateDatabase, aggregateDomain_checks, List.map_cons]
      cases reachable : snapshot.database.reachable <;>
        simp [check, catalogue, List.filter_cons, isReported, reachable]
  | evidence =>
      simp only [evaluateHealthSnapshot, evaluateEvidence]
      cases reachable : snapshot.evidence.dbReachable with
      | false => simp [dbUnknown, check, catalogue, List.filter_cons, isReported, reachable]
      | true =>
          cases task : truthy snapshot.evidence.mostRecentScheduledTaskId with
          | none => simp [check, catalogue, List.filter_cons, isReported, reachable, isTruthy, task]
          | some taskId =>
              simp [evidenceChecks_ids, catalogue, List.filter_cons, isReported, reachable, isTruthy, task]
  | releaseParity =>
      simp only [evaluateHealthSnapshot, evaluateReleaseParity, aggregateDomain_checks, List.map_cons,
        matchesExpectedCheck_id]
      cases snapshot.releaseParity.dbReachable <;> rfl
  | productionConfig =>
      simp only [evaluateHealthSnapshot, evaluateProductionConfig, aggregateDomain_checks, List.map_cons,
        armNextCheck_id, approvedDigestCheck_id]
      rfl
  | legacyAuthority =>
      simp only [evaluateHealthSnapshot, evaluateLegacyAuthority, aggregateDomain_checks, List.map_cons]
      split <;> rfl
  | identity =>
      simp only [evaluateHealthSnapshot, evaluateIdentity]
      split
      · simp only [aggregateDomain_checks, List.map_append, evaluateIdentityCognition_ids]
        rfl
      · rfl

/-- The identifiers of all checks of a report. -/
theorem allChecks_ids :
    (allChecks (evaluateHealthSnapshot dateParse snapshot exp)).map CheckResult.id =
      (wholeCatalogue exp).filter (isReported snapshot) := by
  rw [allChecks, wholeCatalogue, List.map_flatMap, List.filter_flatMap]
  exact List.flatMap_congr fun domain _ => checkIds_eq dateParse snapshot exp domain

/-! ## Sources that could not be read -/

/-- The source of a check could not be read. -/
def isUnread (snapshot : HealthSnapshot) : CheckId → Bool
  | .bindingReleaseConsistent =>
      !snapshot.authority.dbReachable || snapshot.authority.bindingProvenance.isNone
  | .admittedFiresHaveCanonicalTasks => !snapshot.authority.dbReachable
  | .admittedFiresMaterialised => !snapshot.authority.dbReachable
  | .noReleaseMismatchIncidents => !snapshot.authority.dbReachable
  | .doorReachable => snapshot.admission.doorHealthy.isUnavailable
  | .humanOperatorPresent => !snapshot.admission.dbReachable
  | .scheduleEnabled => !snapshot.scheduler.dbReachable
  | .activeVersionExpected => !snapshot.scheduler.dbReachable
  | .recentFireExists => !snapshot.scheduler.dbReachable
  | .noDuplicateFireWindow => !snapshot.scheduler.dbReachable
  | .noOrphanPlannedFire => !snapshot.scheduler.dbReachable
  | .admittedFiresBoundConsistently => !snapshot.scheduler.dbReachable
  | .nextWakeArmedAndFuture => snapshot.scheduler.restateInvocations.isUnavailable
  | .noZeroDelayLoop => snapshot.scheduler.restateInvocations.isUnavailable
  | .workerRegistered => snapshot.execution.registeredServices.isUnavailable
  | .capabilityServiceRegistered => snapshot.execution.registeredServices.isUnavailable
  | .noWorkerRestartLoop => snapshot.execution.workerRestartCount.isUnavailable
  | .restateReachable => snapshot.restate.reachable.isUnavailable
  | .expectedServicesRegistered => snapshot.restate.registeredServices.isUnavailable
  | .noStuckInvocation => snapshot.restate.scheduleInvocations.isUnavailable
  | .databaseReachable => false
  | .scheduleReadsSucceed => !snapshot.database.reachable
  | .taskReadsSucceed => !snapshot.database.reachable
  | .mostRecentCompletedTaskHasEvidence => !snapshot.evidence.dbReachable
  | .toolReceiptPresentWhereRequired => !snapshot.evidence.dbReachable
  | .digestMatchesApproved => !snapshot.evidence.dbReachable
  | .boundToCorrectTask => !snapshot.evidence.dbReachable
  | .selfReportedReleaseKnown => false
  | .matchesExpected => false
  | .recentBindingsConsistent =>
      !snapshot.releaseParity.dbReachable || snapshot.releaseParity.bindingProvenance.isNone
  | .noBoundReleaseRejection => !snapshot.releaseParity.dbReachable
  | .armNextExpected => false
  | .approvedDigestPresentAndValid => false
  | .scheduleIdentityMatchesCanonical => false
  | .b1FreezeObservable => snapshot.legacyAuthority.b1FreezeObservable.isUnavailable
  | .completedTasksHaveActivation => !snapshot.identity.dbReachable
  | .profilesHaveActivatedIdentity => !snapshot.identity.dbReachable
  | .currentDigestParity => !snapshot.identity.dbReachable || snapshot.identity.cognition.isUnavailable
  | .singleCurrentPerTenant => !snapshot.identity.dbReachable || snapshot.identity.cognition.isUnavailable
  | .headEqualsCurrent => !snapshot.identity.dbReachable || snapshot.identity.cognition.isUnavailable
  | .analystRunsBound => !snapshot.identity.dbReachable || snapshot.identity.cognition.isUnavailable
  | .verifierIsolated => !snapshot.identity.dbReachable || snapshot.identity.cognition.isUnavailable

/-- A list of checks in which each check whose source could not be read is unknown. -/
def Honest (checks : List CheckResult) : Prop :=
  ∀ check ∈ checks, isUnread snapshot check.id = true → check.status = .unknown

theorem honest_nil : Honest snapshot [] :=
  fun _ impossible => by cases impossible

theorem honest_cons {check : CheckResult} {rest : List CheckResult} :
    Honest snapshot (check :: rest) ↔
      (isUnread snapshot check.id = true → check.status = .unknown) ∧ Honest snapshot rest :=
  List.forall_mem_cons

theorem honest_append {first second : List CheckResult} :
    Honest snapshot (first ++ second) ↔ Honest snapshot first ∧ Honest snapshot second :=
  List.forall_mem_append

/-- Unknown checks are honest, whatever could be read. -/
theorem honest_of_unknown {checks : List CheckResult} (unknown : ∀ check ∈ checks, check.status = .unknown) :
    Honest snapshot checks :=
  fun check member _ => unknown check member

/-- Checks whose sources could be read are honest. -/
theorem honest_of_read {checks : List CheckResult}
    (read : ∀ id ∈ checks.map CheckResult.id, isUnread snapshot id = false) : Honest snapshot checks := by
  intro check member unread
  rw [read check.id (List.mem_map_of_mem member)] at unread
  exact absurd unread Bool.false_ne_true

theorem mem_expectedIf {condition : Bool} {id other : CheckId} :
    other ∈ expectedIf condition id ↔ condition = true ∧ other = id := by
  unfold expectedIf
  cases condition <;> simp

theorem verdict_none (expectedRelease : Option JsString) :
    (bindingProvenanceVerdict none expectedRelease).1 = .unknown := rfl

theorem authority_honest : Honest snapshot
    (evaluateHealthSnapshot dateParse snapshot exp .authority).checks := by
  simp only [evaluateHealthSnapshot, evaluateAuthority]
  cases reachable : snapshot.authority.dbReachable with
  | false =>
      refine honest_of_unknown snapshot ?_
      simp [dbUnknown, check]
  | true =>
      simp only [if_true, aggregateDomain_checks, honest_cons, check, isUnread, reachable]
      cases snapshot.authority.bindingProvenance with
      | none => simp [verdict_none, honest_nil]
      | some provenance => simp [honest_nil]

theorem admission_honest : Honest snapshot
    (evaluateHealthSnapshot dateParse snapshot exp .admission).checks := by
  simp only [evaluateHealthSnapshot, evaluateAdmission, aggregateDomain_checks, honest_cons,
    doorCheck_id, isUnread]
  refine ⟨?_, ?_, honest_nil snapshot⟩
  · cases snapshot.admission.doorHealthy with
    | unavailable reason => exact fun _ => rfl
    | read healthy => exact fun impossible => by cases impossible
  · cases reachable : snapshot.admission.dbReachable with
    | false => exact fun _ => rfl
    | true => simp [check]

theorem scheduler_honest : Honest snapshot
    (evaluateHealthSnapshot dateParse snapshot exp .scheduler).checks := by
  simp only [evaluateHealthSnapshot, evaluateScheduler, aggregateDomain_checks, honest_append]
  constructor
  · cases reachable : snapshot.scheduler.dbReachable with
    | false =>
        refine honest_of_unknown snapshot ?_
        unfold scheduleDbChecks
        rw [reachable]
        cases truthy exp.activeVersion <;> simp [dbUnknown, check]
    | true =>
        refine honest_of_read snapshot ?_
        rw [scheduleDbChecks_ids]
        simp only [List.cons_append, List.mem_cons, List.mem_append, mem_expectedIf, List.not_mem_nil, or_false]
        rintro id (rfl | ⟨-, rfl⟩ | rfl | rfl | rfl | rfl) <;> simp only [isUnread, reachable, Bool.not_true]
  · unfold scheduleRestateChecks
    cases read : snapshot.scheduler.restateInvocations with
    | unavailable reason =>
        refine honest_of_unknown snapshot ?_
        simp [unknownFromUnavailable, check]
    | read invocations =>
        refine honest_of_read snapshot ?_
        simp [nextWakeCheck_id, zeroDelayCheck, check, isUnread, read, Source.isUnavailable]

theorem execution_honest : Honest snapshot
    (evaluateHealthSnapshot dateParse snapshot exp .execution).checks := by
  simp only [evaluateHealthSnapshot, evaluateExecution, aggregateDomain_checks, honest_append]
  constructor
  · cases read : snapshot.execution.registeredServices with
    | unavailable reason =>
        refine honest_of_unknown snapshot ?_
        simp [registrationChecks, unknownFromUnavailable, check]
    | read registered =>
        refine honest_of_read snapshot ?_
        rw [registrationChecks_ids]
        simp only [List.mem_cons, mem_expectedIf]
        rintro id (rfl | ⟨-, rfl⟩) <;> simp only [isUnread, read, Source.isUnavailable]
  · simp only [honest_cons, restartCheck_id, isUnread]
    refine ⟨?_, honest_nil snapshot⟩
    cases snapshot.execution.workerRestartCount with
    | unavailable reason => exact fun _ => rfl
    | read count => exact fun impossible => by cases impossible

theorem restate_honest : Honest snapshot (evaluateHealthSnapshot dateParse snapshot exp .restate).checks := by
  simp only [evaluateHealthSnapshot, evaluateRestate, aggregateDomain_checks, honest_cons,
    restateReachableCheck_id,
    expectedServicesCheck_id, stuckInvocationCheck_id, isUnread]
  refine ⟨?_, ?_, ?_, honest_nil snapshot⟩
  · cases snapshot.restate.reachable with
    | unavailable reason => exact fun _ => rfl
    | read reachable => exact fun impossible => by cases impossible
  · cases snapshot.restate.registeredServices with
    | unavailable reason => exact fun _ => rfl
    | read registered => exact fun impossible => by cases impossible
  · cases snapshot.restate.scheduleInvocations with
    | unavailable reason => exact fun _ => rfl
    | read invocations => exact fun impossible => by cases impossible

theorem database_honest : Honest snapshot (evaluateHealthSnapshot dateParse snapshot exp .database).checks := by
  refine honest_of_read snapshot ?_
  change ∀ id ∈ checkIds dateParse snapshot exp .database, isUnread snapshot id = false
  rw [checkIds_eq]
  intro id member
  obtain ⟨listed, reported⟩ := List.mem_filter.mp member
  simp only [catalogue, List.mem_cons, List.not_mem_nil, or_false] at listed
  rcases listed with rfl | rfl | rfl
  · rfl
  · rw [isUnread, show snapshot.database.reachable = true from reported, Bool.not_true]
  · rw [isUnread, show snapshot.database.reachable = true from reported, Bool.not_true]

theorem evidence_honest : Honest snapshot (evaluateHealthSnapshot dateParse snapshot exp .evidence).checks := by
  cases reachable : snapshot.evidence.dbReachable with
  | false =>
      refine honest_of_unknown snapshot ?_
      simp [evaluateHealthSnapshot, evaluateEvidence, reachable, dbUnknown, check]
  | true =>
      refine honest_of_read snapshot ?_
      change ∀ id ∈ checkIds dateParse snapshot exp .evidence, isUnread snapshot id = false
      rw [checkIds_eq]
      intro id member
      have listed := List.mem_of_mem_filter member
      simp only [catalogue, List.mem_cons, List.not_mem_nil, or_false] at listed
      rcases listed with rfl | rfl | rfl | rfl <;> simp only [isUnread, reachable, Bool.not_true]

theorem releaseParity_honest :
    Honest snapshot (evaluateHealthSnapshot dateParse snapshot exp .releaseParity).checks := by
  simp only [evaluateHealthSnapshot, evaluateReleaseParity, aggregateDomain_checks, honest_cons,
    matchesExpectedCheck_id]
  refine ⟨?_, ?_, ?_, ?_, honest_nil snapshot⟩
  · exact fun impossible => by cases impossible
  · exact fun impossible => by cases impossible
  · cases reachable : snapshot.releaseParity.dbReachable with
    | false => exact fun _ => rfl
    | true =>
        cases provenance : snapshot.releaseParity.bindingProvenance with
        | none => exact fun _ => rfl
        | some found => simp [check, isUnread, reachable, provenance]
  · cases reachable : snapshot.releaseParity.dbReachable with
    | false => exact fun _ => rfl
    | true => simp [check, isUnread, reachable]

theorem productionConfig_honest :
    Honest snapshot (evaluateHealthSnapshot dateParse snapshot exp .productionConfig).checks := by
  refine honest_of_read snapshot ?_
  change ∀ id ∈ checkIds dateParse snapshot exp .productionConfig, isUnread snapshot id = false
  rw [checkIds_eq]
  intro id member
  have listed := List.mem_of_mem_filter member
  simp only [catalogue, List.mem_cons, List.not_mem_nil, or_false] at listed
  rcases listed with rfl | rfl | rfl <;> rfl

theorem legacyAuthority_honest :
    Honest snapshot (evaluateHealthSnapshot dateParse snapshot exp .legacyAuthority).checks := by
  simp only [evaluateHealthSnapshot, evaluateLegacyAuthority, aggregateDomain_checks, honest_cons]
  refine ⟨?_, honest_nil snapshot⟩
  cases read : snapshot.legacyAuthority.b1FreezeObservable with
  | unavailable reason => exact fun _ => rfl
  | read observable => simp [check, isUnread, read, Source.isUnavailable]

theorem identity_honest : Honest snapshot (evaluateHealthSnapshot dateParse snapshot exp .identity).checks := by
  cases reachable : snapshot.identity.dbReachable with
  | false =>
      simp only [evaluateHealthSnapshot, evaluateIdentity, reachable, Bool.false_eq_true, if_false,
        aggregateDomain_checks]
      refine honest_of_unknown snapshot ?_
      intro check member
      obtain ⟨entry, -, rfl⟩ := List.mem_map.mp member
      rfl
  | true =>
      cases read : snapshot.identity.cognition with
      | unavailable reason =>
          simp only [evaluateHealthSnapshot, evaluateIdentity, reachable, if_true, aggregateDomain_checks,
            honest_append, honest_cons, read]
          refine ⟨⟨?_, ?_, honest_nil snapshot⟩, honest_of_unknown snapshot ?_⟩
          · simp [check, isUnread, reachable]
          · simp [check, isUnread, reachable]
          · intro check member
            obtain ⟨entry, -, rfl⟩ := List.mem_map.mp member
            rfl
      | read cognition =>
          refine honest_of_read snapshot ?_
          change ∀ id ∈ checkIds dateParse snapshot exp .identity, isUnread snapshot id = false
          rw [checkIds_eq]
          intro id member
          have listed := List.mem_of_mem_filter member
          simp only [catalogue, List.mem_cons, List.not_mem_nil, or_false] at listed
          rcases listed with rfl | rfl | rfl | rfl | rfl | rfl | rfl <;>
            simp only [isUnread, reachable, read, Source.isUnavailable, Bool.not_true, Bool.or_false]

/-- A check whose source could not be read is reported as unknown. -/
theorem unread_unknown (domain : DomainName) :
    Honest snapshot (evaluateHealthSnapshot dateParse snapshot exp domain).checks := by
  cases domain with
  | authority => exact authority_honest dateParse snapshot exp
  | admission => exact admission_honest dateParse snapshot exp
  | scheduler => exact scheduler_honest dateParse snapshot exp
  | execution => exact execution_honest dateParse snapshot exp
  | restate => exact restate_honest dateParse snapshot exp
  | database => exact database_honest dateParse snapshot exp
  | evidence => exact evidence_honest dateParse snapshot exp
  | releaseParity => exact releaseParity_honest dateParse snapshot exp
  | productionConfig => exact productionConfig_honest dateParse snapshot exp
  | legacyAuthority => exact legacyAuthority_honest dateParse snapshot exp
  | identity => exact identity_honest dateParse snapshot exp

end Evaluation

end KernelJson.Health
