import KernelJson.Alerting.Policy
import KernelJson.Foundation.Json

/-!
# Health snapshots

What one health run has collected, and what it is judged against.  A source that
could not be reached is unavailable with a reason, never a guess.  Nullable and
optional texts are options; instants are texts, to be read by `Date.parse`.
-/

namespace KernelJson.Health

open Alerting.Policy
open Foundation
open Foundation.JsText

/-! ## Expectations -/

inductive ScheduleState where
  | enabled
  | disabled
  | paused
deriving DecidableEq

def ScheduleState.text : ScheduleState → JsString
  | .enabled => js "enabled"
  | .disabled => js "disabled"
  | .paused => js "paused"

structure HealthExpectations where
  scheduleId : JsString
  scheduleState : ScheduleState
  activeVersion : Option JsString
  recipe : JsString
  approvedDigestSha256 : Option JsString
  armNext : Bool
  releaseId : Option JsString
  services : List JsString
  fireStalenessGraceMs : Option Int
  plannedFireGraceMs : Option Int
  stuckWakeGraceMs : Option Int
  identityBootstrapGraceMs : Option Int

/-- An optional text that is truthy: it is there, and not empty. -/
def truthy (text : Option JsString) : Option JsString :=
  text.filter fun units => !units.isEmpty

/-! ## Sources -/

/-- `T | Unavailable`. -/
inductive Source (α : Type) where
  | unavailable (reason : JsString)
  | read (value : α)

/-- `isUnavailable`. -/
def Source.isUnavailable {α : Type} : Source α → Bool
  | .unavailable _ => true
  | .read _ => false

structure ScheduleStateRow where
  state : JsString
  activeVersion : JsString

structure ScheduleFireRow where
  scheduleId : JsString
  scheduleVersion : JsString
  fireWindowKey : JsString
  fireAtUtc : JsString
  state : JsString
  admittedChildTaskId : Option JsString
  createdAt : JsString

structure BindingProvenance where
  activeEpoch : JsString
  activeReleaseId : Option JsString
  currentBindingCount : Nat
  mismatchedBindingCount : Nat
  missingProvenanceCount : Nat
  legacyBindingCount : Nat

structure RestateInvocationRow where
  id : JsString
  status : JsString
  scheduledStartAt : Option JsString
  completedAt : Option JsString

structure EvidenceRow where
  taskId : JsString
  type : JsString
  digest : Option JsString
  metadata : List (JsString × Json)

/-! ## Snapshots -/

structure SchedulerSnapshot where
  dbReachable : Bool
  scheduleState : Option ScheduleStateRow
  fires : List ScheduleFireRow
  restateInvocations : Source (List RestateInvocationRow)

structure AuthoritySnapshot where
  dbReachable : Bool
  bindingProvenance : Option BindingProvenance
  admittedFireTaskIdsMissingAdmission : List JsString
  admittedFireTaskIdsUnmaterialised : List JsString
  boundReleaseRejectionSeen : Bool

structure AdmissionSnapshot where
  dbReachable : Bool
  doorHealthy : Source Bool
  humanOperatorPresent : Bool

structure ExecutionSnapshot where
  registeredServices : Source (List JsString)
  workerRestartCount : Source Nat

structure RestateSnapshot where
  reachable : Source Bool
  registeredServices : Source (List JsString)
  scheduleInvocations : Source (List RestateInvocationRow)

structure DatabaseSnapshot where
  reachable : Bool
  scheduleReadOk : Bool
  taskReadOk : Bool

structure EvidenceSnapshot where
  dbReachable : Bool
  mostRecentScheduledTaskId : Option JsString
  evidenceForTask : List EvidenceRow

structure ReleaseParitySnapshot where
  dbReachable : Bool
  selfReportedReleaseId : Option JsString
  bindingProvenance : Option BindingProvenance
  boundReleaseRejectionSeen : Bool

structure ProductionConfigSnapshot where
  armNext : Option Bool
  approvedDigestShapeValid : Option Bool
  scheduleIdConfigured : Option JsString
  recipeConfigured : Option JsString

structure LegacyAuthoritySnapshot where
  b1FreezeObservable : Source Bool

structure IdentityOrphanRow where
  taskId : JsString

structure IncompleteBootstrapRow where
  identityId : JsString
  ageMs : Int

structure UnboundLatch where
  taskId : JsString
  stepId : JsString
  reason : JsString

structure IsolationViolation where
  taskId : JsString
  reason : JsString

structure IdentityCognitionSnapshot where
  digestParityFailures : List JsString
  tenantsWithMultipleCurrent : List JsString
  headCurrentMismatches : List JsString
  contractActive : Bool
  requiredLatches : Nat
  unboundRequired : List UnboundLatch
  contractRuntimeRecords : Nat
  isolationViolations : List IsolationViolation

structure IdentitySnapshot where
  dbReachable : Bool
  completedTasksMissingActivation : List IdentityOrphanRow
  profilesWithoutCurrentIdentity : List IncompleteBootstrapRow
  cognition : Source IdentityCognitionSnapshot

structure HealthSnapshot where
  checkedAt : JsString
  scheduler : SchedulerSnapshot
  authority : AuthoritySnapshot
  admission : AdmissionSnapshot
  execution : ExecutionSnapshot
  restate : RestateSnapshot
  database : DatabaseSnapshot
  evidence : EvidenceSnapshot
  releaseParity : ReleaseParitySnapshot
  productionConfig : ProductionConfigSnapshot
  legacyAuthority : LegacyAuthoritySnapshot
  identity : IdentitySnapshot

/-! ## Domains and checks -/

/-- `HEALTH_DOMAINS`. -/
inductive DomainName where
  | authority
  | admission
  | scheduler
  | execution
  | restate
  | database
  | evidence
  | releaseParity
  | productionConfig
  | legacyAuthority
  | identity
deriving DecidableEq

def healthDomains : List DomainName :=
  [.authority, .admission, .scheduler, .execution, .restate, .database, .evidence, .releaseParity,
    .productionConfig, .legacyAuthority, .identity]

/-- The identifiers of the checks, one constructor for each that the evaluators write. -/
inductive CheckId where
  | bindingReleaseConsistent
  | admittedFiresHaveCanonicalTasks
  | admittedFiresMaterialised
  | noReleaseMismatchIncidents
  | doorReachable
  | humanOperatorPresent
  | scheduleEnabled
  | activeVersionExpected
  | recentFireExists
  | noDuplicateFireWindow
  | noOrphanPlannedFire
  | admittedFiresBoundConsistently
  | nextWakeArmedAndFuture
  | noZeroDelayLoop
  | workerRegistered
  | capabilityServiceRegistered
  | noWorkerRestartLoop
  | restateReachable
  | expectedServicesRegistered
  | noStuckInvocation
  | databaseReachable
  | scheduleReadsSucceed
  | taskReadsSucceed
  | mostRecentCompletedTaskHasEvidence
  | toolReceiptPresentWhereRequired
  | digestMatchesApproved
  | boundToCorrectTask
  | selfReportedReleaseKnown
  | matchesExpected
  | recentBindingsConsistent
  | noBoundReleaseRejection
  | armNextExpected
  | approvedDigestPresentAndValid
  | scheduleIdentityMatchesCanonical
  | b1FreezeObservable
  | completedTasksHaveActivation
  | profilesHaveActivatedIdentity
  | currentDigestParity
  | singleCurrentPerTenant
  | headEqualsCurrent
  | analystRunsBound
  | verifierIsolated
deriving DecidableEq

def CheckId.text : CheckId → JsString
  | .bindingReleaseConsistent => js "authority.bindingReleaseConsistent"
  | .admittedFiresHaveCanonicalTasks => js "authority.admittedFiresHaveCanonicalTasks"
  | .admittedFiresMaterialised => js "authority.admittedFiresMaterialised"
  | .noReleaseMismatchIncidents => js "authority.noReleaseMismatchIncidents"
  | .doorReachable => js "admission.doorReachable"
  | .humanOperatorPresent => js "admission.humanOperatorPresent"
  | .scheduleEnabled => js "scheduler.scheduleEnabled"
  | .activeVersionExpected => js "scheduler.activeVersionExpected"
  | .recentFireExists => js "scheduler.recentFireExists"
  | .noDuplicateFireWindow => js "scheduler.noDuplicateFireWindow"
  | .noOrphanPlannedFire => js "scheduler.noOrphanPlannedFire"
  | .admittedFiresBoundConsistently => js "scheduler.admittedFiresBoundConsistently"
  | .nextWakeArmedAndFuture => js "scheduler.nextWakeArmedAndFuture"
  | .noZeroDelayLoop => js "scheduler.noZeroDelayLoop"
  | .workerRegistered => js "execution.workerRegistered"
  | .capabilityServiceRegistered => js "execution.capabilityServiceRegistered"
  | .noWorkerRestartLoop => js "execution.noWorkerRestartLoop"
  | .restateReachable => js "restate.reachable"
  | .expectedServicesRegistered => js "restate.expectedServicesRegistered"
  | .noStuckInvocation => js "restate.noStuckInvocation"
  | .databaseReachable => js "database.reachable"
  | .scheduleReadsSucceed => js "database.scheduleReadsSucceed"
  | .taskReadsSucceed => js "database.taskReadsSucceed"
  | .mostRecentCompletedTaskHasEvidence => js "evidence.mostRecentCompletedTaskHasEvidence"
  | .toolReceiptPresentWhereRequired => js "evidence.toolReceiptPresentWhereRequired"
  | .digestMatchesApproved => js "evidence.digestMatchesApproved"
  | .boundToCorrectTask => js "evidence.boundToCorrectTask"
  | .selfReportedReleaseKnown => js "releaseParity.selfReportedReleaseKnown"
  | .matchesExpected => js "releaseParity.matchesExpected"
  | .recentBindingsConsistent => js "releaseParity.recentBindingsConsistent"
  | .noBoundReleaseRejection => js "releaseParity.noBoundReleaseRejection"
  | .armNextExpected => js "productionConfig.armNextExpected"
  | .approvedDigestPresentAndValid => js "productionConfig.approvedDigestPresentAndValid"
  | .scheduleIdentityMatchesCanonical => js "productionConfig.scheduleIdentityMatchesCanonical"
  | .b1FreezeObservable => js "legacyAuthority.b1FreezeObservable"
  | .completedTasksHaveActivation => js "identity.completedTasksHaveActivation"
  | .profilesHaveActivatedIdentity => js "identity.profilesHaveActivatedIdentity"
  | .currentDigestParity => js "identity.currentDigestParity"
  | .singleCurrentPerTenant => js "identity.singleCurrentPerTenant"
  | .headEqualsCurrent => js "identity.headEqualsCurrent"
  | .analystRunsBound => js "identity.analystRunsBound"
  | .verifierIsolated => js "identity.verifierIsolated"

structure CheckResult where
  id : CheckId
  status : HealthStatus
  observed : Option Json
  expected : Option Json
  evidence : JsString
  message : JsString
  checkedAt : JsString

structure DomainResult where
  status : HealthStatus
  checks : List CheckResult

/-! ## Aggregation -/

/-- `SEVERITY`. -/
def severity : HealthStatus → Nat
  | .healthy => 0
  | .unknown => 1
  | .degraded => 2
  | .critical => 3

def worseOf (first second : HealthStatus) : HealthStatus :=
  if severity second > severity first then second else first

/-- The worst of the checks; a domain without checks is unknown. -/
def aggregateDomain (checks : List CheckResult) : DomainResult :=
  if checks.isEmpty then ⟨.unknown, checks⟩
  else ⟨checks.foldl (fun worst check => worseOf worst check.status) .healthy, checks⟩

def aggregateOverall (domains : List DomainResult) : HealthStatus :=
  if domains.isEmpty then .unknown
  else domains.foldl (fun worst domain => worseOf worst domain.status) .healthy

@[simp]
theorem aggregateDomain_checks (checks : List CheckResult) : (aggregateDomain checks).checks = checks := by
  unfold aggregateDomain
  split <;> rfl

end KernelJson.Health
