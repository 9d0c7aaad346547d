import KernelJson.Alerting.Outbox

/-!
# The alert policy

Which severity a status of a health check has, whether it is announced, and
under which text.  Every check of the catalogue has an entry of its own; a check
without one alerts on critical results only.
-/

namespace KernelJson.Alerting.Policy

open Alerting.Outbox
open Foundation.JsText

/-! ## Health checks -/

inductive HealthStatus where
  | healthy
  | degraded
  | critical
  | unknown
deriving DecidableEq

structure CheckResult where
  id : JsString
  status : HealthStatus
  message : JsString

/-! ## Severities -/

/-- `SEVERITY_RANK`; a lower rank is more severe. -/
def severityRank : AlertSeverity → Nat
  | .p0 => 0
  | .p1 => 1
  | .p2 => 2
  | .p3 => 3

def isWorse (first second : AlertSeverity) : Bool :=
  severityRank first < severityRank second

theorem severityRank_injective : Function.Injective severityRank := by
  intro first second
  cases first <;> cases second <;> decide

/-- Of two different severities one is worse. -/
theorem isWorse_of_ne {first second : AlertSeverity} (different : first ≠ second)
    (better : isWorse first second = false) : isWorse second first = true := by
  have ranks : severityRank first ≠ severityRank second := severityRank_injective.ne different
  simp only [isWorse, decide_eq_false_iff_not, decide_eq_true_eq] at better ⊢
  omega

theorem isWorse_asymm {first second : AlertSeverity} (worse : isWorse first second = true) :
    isWorse second first = false := by
  simp only [isWorse, decide_eq_false_iff_not, decide_eq_true_eq] at worse ⊢
  omega

theorem isWorse_irrefl (severity : AlertSeverity) : isWorse severity severity = false := by
  simp [isWorse]

/-! ## Entries -/

structure AlertPolicyEntry where
  checkId : JsString
  severityFor : HealthStatus → Option AlertSeverity
  notify : Option Bool
  notifyFor : Option (HealthStatus → AlertSeverity → Bool)
  alertMessage : Option (CheckResult → JsString)

/-- The severities of the statuses that alert. -/
structure SeverityMap where
  critical : Option AlertSeverity := none
  degraded : Option AlertSeverity := none
  unknown : Option AlertSeverity := none

def SeverityMap.severityFor (map : SeverityMap) : HealthStatus → Option AlertSeverity
  | .healthy => none
  | .degraded => map.degraded
  | .critical => map.critical
  | .unknown => map.unknown

def simple (checkId : String) (map : SeverityMap) (notify : Option Bool := none)
    (alertMessage : Option (CheckResult → JsString) := none) : AlertPolicyEntry where
  checkId := js checkId
  severityFor := map.severityFor
  notify := notify
  notifyFor := none
  alertMessage := alertMessage

/-- An entry whose unknown results are tracked and never announced. -/
def identity (checkId : String) (map : SeverityMap) : AlertPolicyEntry :=
  { simple checkId { map with unknown := some .p3 } with
    notifyFor := some fun status _ => status != .unknown }

/-- A fixed text before the message of the check. -/
def prefixed (text : String) : Option (CheckResult → JsString) :=
  some fun check => js text ++ check.message

/-- `ALERT_POLICY`. -/
def alertPolicy : List AlertPolicyEntry :=
  [ simple "authority.bindingReleaseConsistent" { critical := some .p1, unknown := some .p3 },
    simple "authority.admittedFiresHaveCanonicalTasks" { critical := some .p0 } none
      (some fun _ => js "An admitted schedule fire has no corresponding KernelJSON admission record — the scheduler may have minted outside KernelJSON's authority"),
    simple "authority.admittedFiresMaterialised" { degraded := some .p2 },
    simple "authority.noReleaseMismatchIncidents" { critical := some .p1 },
    simple "admission.doorReachable" { critical := some .p1, unknown := some .p3 },
    simple "admission.humanOperatorPresent" { critical := some .p1 },
    simple "scheduler.scheduleEnabled" { critical := some .p1 },
    simple "scheduler.activeVersionExpected" { critical := some .p2 },
    simple "scheduler.recentFireExists" { critical := some .p1, degraded := some .p2 },
    simple "scheduler.noDuplicateFireWindow" { critical := some .p0 } none
      (prefixed "Duplicate fire row detected for a canonical window — "),
    simple "scheduler.noOrphanPlannedFire" { degraded := some .p2 },
    simple "scheduler.admittedFiresBoundConsistently" { critical := some .p0 },
    simple "scheduler.nextWakeArmedAndFuture" { critical := some .p1, degraded := some .p2 } none
      (prefixed "Enabled production schedule has no valid future wake — "),
    simple "scheduler.noZeroDelayLoop" { critical := some .p0 } none
      (prefixed "Possible zero-delay self-rearm loop detected — "),
    simple "execution.workerRegistered" { critical := some .p1 },
    simple "execution.capabilityServiceRegistered" { critical := some .p1 },
    simple "execution.noWorkerRestartLoop" { critical := some .p1, degraded := some .p2 },
    simple "restate.reachable" { critical := some .p1 },
    simple "restate.expectedServicesRegistered" { critical := some .p1 },
    simple "restate.noStuckInvocation" { critical := some .p1 } none
      (prefixed "A scheduled wake is stuck past its own due time — "),
    simple "database.reachable" { critical := some .p1 },
    simple "database.scheduleReadsSucceed" { critical := some .p1 },
    simple "database.taskReadsSucceed" { critical := some .p1 },
    simple "evidence.mostRecentCompletedTaskHasEvidence" { critical := some .p2 },
    simple "evidence.toolReceiptPresentWhereRequired" { critical := some .p2 },
    simple "evidence.digestMatchesApproved" { critical := some .p1 },
    simple "evidence.boundToCorrectTask" { critical := some .p0 },
    simple "releaseParity.selfReportedReleaseKnown" { unknown := some .p3 },
    simple "releaseParity.matchesExpected" { critical := some .p1 },
    simple "releaseParity.recentBindingsConsistent" { critical := some .p1 },
    simple "releaseParity.noBoundReleaseRejection" { critical := some .p1 },
    simple "productionConfig.armNextExpected" { critical := some .p1 },
    simple "productionConfig.approvedDigestPresentAndValid" { critical := some .p1 },
    simple "productionConfig.scheduleIdentityMatchesCanonical" { critical := some .p1 },
    simple "legacyAuthority.b1FreezeObservable" { unknown := some .p3, critical := some .p0 } (some false),
    identity "identity.completedTasksHaveActivation" { critical := some .p1 },
    identity "identity.profilesHaveActivatedIdentity" { degraded := some .p2 },
    identity "identity.currentDigestParity" { critical := some .p1 },
    identity "identity.singleCurrentPerTenant" { critical := some .p0 },
    identity "identity.headEqualsCurrent" { critical := some .p1 },
    identity "identity.analystRunsBound" { critical := some .p0 },
    identity "identity.verifierIsolated" { critical := some .p1 } ]

/-- `DEFAULT_POLICY`. -/
def defaultPolicy : AlertPolicyEntry :=
  simple "*" { critical := some .p2 }

def resolvePolicy (checkId : JsString) : AlertPolicyEntry :=
  (alertPolicy.find? fun entry => entry.checkId == checkId).getD defaultPolicy

/-- No entry alerts on a healthy result. -/
theorem resolvePolicy_healthy (checkId : JsString) : (resolvePolicy checkId).severityFor .healthy = none := by
  have entries : ∀ entry ∈ alertPolicy, entry.severityFor .healthy = none := by
    simp [alertPolicy, simple, identity, SeverityMap.severityFor]
  unfold resolvePolicy
  cases found : alertPolicy.find? fun entry => entry.checkId == checkId with
  | none => rfl
  | some entry => exact entries entry (List.mem_of_find?_eq_some found)

/-- `policyNotifies(policy, status, severity)`. -/
def policyNotifies (policy : AlertPolicyEntry) (status : HealthStatus) (severity : AlertSeverity) : Bool :=
  if policy.notify = some false then false
  else
    match policy.notifyFor with
    | some notifyFor => notifyFor status severity
    | none => true

theorem audible_of_notifies {policy : AlertPolicyEntry} {status : HealthStatus} {severity : AlertSeverity}
    (notifies : policyNotifies policy status severity = true) : policy.notify ≠ some false := by
  intro muted
  rw [policyNotifies, if_pos muted] at notifies
  cases notifies

/-- What is not announced is muted, or narrowed by its status. -/
theorem narrowed_of_not_notifies {policy : AlertPolicyEntry} {status : HealthStatus} {severity : AlertSeverity}
    (silent : ¬ policyNotifies policy status severity = true) :
    policy.notify = some false ∨ policy.notifyFor.isNone = false := by
  by_cases muted : policy.notify = some false
  · exact Or.inl muted
  · rw [policyNotifies, if_neg muted] at silent
    cases narrowed : policy.notifyFor with
    | none =>
        rw [narrowed] at silent
        exact absurd rfl silent
    | some notifyFor => exact Or.inr rfl

end KernelJson.Alerting.Policy
