import KernelJson.Health.Snapshot

/-!
# Health evaluation

One evaluator for each domain turns what was collected into checks.  A check
whose source is unavailable is unknown, with the reason.  `Date.parse` is a
parameter; a text that it does not read makes every comparison false.
-/

namespace KernelJson.Health

open Alerting.Policy
open Foundation
open Foundation.JsText

/-! ## Graces and texts -/

def defaultIdentityBootstrapGraceMs : Int := 600000

def defaultFireStalenessGraceMs : Int := 90000000

def defaultPlannedFireGraceMs : Int := 600000

def defaultStuckWakeGraceMs : Int := 300000

/-- `Math.round(ms / unit)`. -/
def rounded (ms unit : Int) : Int :=
  (2 * ms + unit) / (2 * unit)

def roundedText (ms unit : Int) : JsString :=
  signedDecimal (rounded ms unit)

def quoted (text : JsString) : JsString :=
  js "\"" ++ text ++ js "\""

/-- `texts.join(", ")`. -/
def listed (texts : List JsString) : JsString :=
  (texts.intersperse (js ", ")).flatten

def nullableJson : Option JsString → Json
  | none => .null
  | some text => .str text

def textsJson (texts : List JsString) : Json :=
  .arr (texts.map .str)

/-- A truthy text, or nothing. -/
def isTruthy (text : Option JsString) : Bool :=
  (truthy text).isSome

mutual
/-- What a template literal makes of a value. -/
def templateText : Json → JsString
  | .null => js "null"
  | .bool value => if value then js "true" else js "false"
  | .num value => signedDecimal value
  | .real literal => literal
  | .str text => text
  | .arr items => Json.joinComma (templateItems items)
  | .obj _ => js "[object Object]"

def templateItems : List Json → List JsString
  | [] => []
  | .null :: rest => [] :: templateItems rest
  | item :: rest => templateText item :: templateItems rest
end

/-! ## Checks -/

def check (id : CheckId) (status : HealthStatus) (evidence message checkedAt : JsString)
    (observed expected : Option Json) : CheckResult :=
  { id := id, status := status, evidence := evidence, message := message, checkedAt := checkedAt,
    observed := observed, expected := expected }

def unknownFromUnavailable (id : CheckId) (reason evidence checkedAt : JsString) : CheckResult :=
  check id .unknown evidence (js "evidence unavailable: " ++ reason) checkedAt none none

def dbUnknown (id : CheckId) (evidence checkedAt : JsString) : CheckResult :=
  check id .unknown evidence (js "database unreachable — see the database domain") checkedAt none none

section Evaluators

variable (dateParse : JsString → Option Int)

/-- The milliseconds from one instant to another, unless one of them is not a number. -/
def elapsed (now : Option Int) (since : JsString) : Option Int :=
  now.bind fun now => (dateParse since).map fun start => now - start

def longerThan (grace : Int) (age : Option Int) : Bool :=
  age.any fun ms => decide (grace < ms)

/-! ### Scheduler -/

/-- The comparison of a descending sort by time. -/
def laterFirst (first second : JsString) : Bool :=
  match dateParse first, dateParse second with
  | some one, some two => decide (two ≤ one)
  | _, _ => true

def earlierFirst (first second : JsString) : Bool :=
  match dateParse first, dateParse second with
  | some one, some two => decide (one ≤ two)
  | _, _ => true

def sortedFires (fires : List ScheduleFireRow) : List ScheduleFireRow :=
  fires.mergeSort fun first second => laterFirst dateParse first.fireAtUtc second.fireAtUtc

def windowText (fire : ScheduleFireRow) : JsString :=
  fire.scheduleId ++ js "|" ++ fire.scheduleVersion ++ js "|" ++ fire.fireWindowKey

/-- The fires of each window. -/
def byWindow (fires : List ScheduleFireRow) : JsMap JsString Nat :=
  fires.foldl (fun counts fire => counts.set (windowText fire) ((counts.get? (windowText fire)).getD 0 + 1)) .empty

def duplicateWindows (fires : List ScheduleFireRow) : List (JsString × Nat) :=
  (byWindow fires).entries.filter fun entry => decide (1 < entry.2)

/-- Consecutive completions less than a minute apart. -/
def tightPairs : List (Option Int) → Nat
  | [] => 0
  | first :: rest =>
      (match first, rest.head? with
        | some one, some (some two) => if two - one < 60000 then 1 else 0
        | _, _ => 0) + tightPairs rest

section Scheduler

variable (s : SchedulerSnapshot) (exp : HealthExpectations) (checkedAt : JsString)

def scheduleEnabledCheck (row : ScheduleStateRow) : CheckResult :=
  let expected := exp.scheduleState.text
  check .scheduleEnabled (if row.state = expected then .healthy else .critical) (js "schedule_state.state")
    (if row.state = expected then js "schedule is " ++ expected ++ js " as expected"
      else js "schedule state is " ++ quoted row.state ++ js ", expected " ++ quoted expected)
    checkedAt (some (.str row.state)) (some (.str expected))

def activeVersionCheck (row : ScheduleStateRow) (version : JsString) : CheckResult :=
  check .activeVersionExpected (if row.activeVersion = version then .healthy else .critical)
    (js "schedule_state.active_version")
    (if row.activeVersion = version then js "active version is " ++ version ++ js " as expected"
      else js "active version is " ++ quoted row.activeVersion ++ js ", expected " ++ quoted version)
    checkedAt (some (.str row.activeVersion)) (some (.str version))

/-- The checks on the row of the schedule; without a row the version is not looked at. -/
def scheduleRowChecks : List CheckResult :=
  match s.scheduleState with
  | none =>
      [check .scheduleEnabled .critical (js "schedule_state")
        (js "no schedule_state row found for " ++ exp.scheduleId) checkedAt (some .null)
        (some (.str exp.scheduleState.text))]
  | some row =>
      scheduleEnabledCheck exp checkedAt row ::
        ((truthy exp.activeVersion).map (activeVersionCheck checkedAt row)).toList

def scheduleIsEnabled : Bool :=
  s.scheduleState.any fun row => decide (row.state = js "enabled")

def recentFireCheck : CheckResult :=
  let grace := exp.fireStalenessGraceMs.getD defaultFireStalenessGraceMs
  match (sortedFires dateParse s.fires).head? with
  | none =>
      check .recentFireExists (if scheduleIsEnabled s then .critical else .unknown) (js "schedule_fires")
        (if scheduleIsEnabled s then js "schedule is enabled but has never fired"
          else js "no fires yet (schedule is not enabled, or not yet due)")
        checkedAt none none
  | some fire =>
      let age := elapsed dateParse (dateParse checkedAt) fire.fireAtUtc
      let fresh := age.any fun ms => decide (ms ≤ grace)
      let ageText := (age.map fun ms => roundedText ms 3600000).getD (js "NaN")
      check .recentFireExists (if fresh then .healthy else .degraded) (js "schedule_fires.fire_at_utc")
        (if fresh then js "most recent fire " ++ fire.fireAtUtc ++ js " is within the " ++ roundedText grace 3600000 ++
            js "h staleness grace"
          else js "most recent fire " ++ fire.fireAtUtc ++ js " is " ++ ageText ++ js "h old, beyond the " ++
            roundedText grace 3600000 ++ js "h grace")
        checkedAt (some (.str fire.fireAtUtc)) none

def duplicateFireCheck : CheckResult :=
  let duplicates := duplicateWindows s.fires
  check .noDuplicateFireWindow (if duplicates.isEmpty then .healthy else .critical)
    (js "schedule_fires (schedule_id,schedule_version,fire_window_key)")
    (if duplicates.isEmpty then js "no calendar window has more than one fire row"
      else decimal duplicates.length ++ js " window(s) have duplicate fire rows: " ++ listed (duplicates.map Prod.fst))
    checkedAt
    (some (.arr (duplicates.map fun entry =>
      .obj [(js "window", .str entry.1), (js "count", .num (Int.ofNat entry.2))]))) none

def orphanPlannedCheck : CheckResult :=
  let grace := exp.plannedFireGraceMs.getD defaultPlannedFireGraceMs
  let stuck := s.fires.filter fun fire => decide (fire.state = js "PLANNED") && !isTruthy fire.admittedChildTaskId &&
    longerThan grace (elapsed dateParse (dateParse checkedAt) fire.createdAt)
  let windows := stuck.map ScheduleFireRow.fireWindowKey
  check .noOrphanPlannedFire (if stuck.isEmpty then .healthy else .degraded) (js "schedule_fires.state")
    (if stuck.isEmpty then js "no fire is stuck PLANNED past the admission grace period"
      else decimal stuck.length ++ js " fire(s) stuck PLANNED (never admitted) past " ++ roundedText grace 60000 ++
        js "min: " ++ listed windows)
    checkedAt (some (textsJson windows)) none

def admittedBoundCheck : CheckResult :=
  let inconsistent := s.fires.filter fun fire => decide (fire.state = js "ADMITTED") && !isTruthy fire.admittedChildTaskId
  check .admittedFiresBoundConsistently (if inconsistent.isEmpty then .healthy else .critical)
    (js "schedule_fires.state/admitted_child_task_id")
    (if inconsistent.isEmpty then js "every ADMITTED fire has a bound child task"
      else decimal inconsistent.length ++ js " fire(s) are ADMITTED with no admitted_child_task_id")
    checkedAt none none

/-- The checks on the rows of the database. -/
def scheduleDbChecks : List CheckResult :=
  if s.dbReachable then
    scheduleRowChecks s exp checkedAt ++
      [recentFireCheck dateParse s exp checkedAt, duplicateFireCheck s checkedAt,
        orphanPlannedCheck dateParse s exp checkedAt, admittedBoundCheck s checkedAt]
  else
    let unknown := fun id => dbUnknown id (js "schedule_state/schedule_fires") checkedAt
    [unknown .scheduleEnabled] ++
      ((truthy exp.activeVersion).map fun _ => unknown .activeVersionExpected).toList ++
      [unknown .recentFireExists, unknown .noDuplicateFireWindow, unknown .noOrphanPlannedFire,
        unknown .admittedFiresBoundConsistently]

/-- A pending invocation that is past its start for longer than a grace. -/
def isStuck (grace : Int) (row : RestateInvocationRow) : Bool :=
  (truthy row.scheduledStartAt).any fun start => longerThan grace (elapsed dateParse (dateParse checkedAt) start)

def isFuture (row : RestateInvocationRow) : Bool :=
  (truthy row.scheduledStartAt).any fun start =>
    (elapsed dateParse (dateParse checkedAt) start).any fun ms => decide (ms < 0)

def nextWakeCheck (invocations : List RestateInvocationRow) : CheckResult :=
  let grace := exp.stuckWakeGraceMs.getD defaultStuckWakeGraceMs
  if exp.armNext then
    match invocations.filter fun row => decide (row.status = js "scheduled") with
    | [] =>
        check .nextWakeArmedAndFuture .critical (js "restate sys_invocation (status=scheduled)")
          (js "recurring mode is expected (armNext=true) but no next wake is durably armed — the self-rearm chain has stopped")
          checkedAt none none
    | first :: others =>
        let future := (first :: others).filter (isFuture dateParse checkedAt)
        let stuck := (first :: others).filter (isStuck dateParse checkedAt grace)
        check .nextWakeArmedAndFuture
          (if !stuck.isEmpty then .critical else if !future.isEmpty then .healthy else .degraded)
          (js "restate sys_invocation.scheduled_start_at")
          (if !stuck.isEmpty then
              decimal stuck.length ++ js " pending wake(s) are past their scheduled_start_at by more than " ++
                roundedText grace 60000 ++ js "min — stuck, not merely about to run"
            else if !future.isEmpty then
              js "next wake is durably armed for " ++ first.scheduledStartAt.getD (js "null") ++ js ", in the future"
            else js "a wake is pending but not clearly in the future")
          checkedAt (some (.arr ((first :: others).map fun row => nullableJson row.scheduledStartAt))) none
  else
    check .nextWakeArmedAndFuture .healthy (js "productionConfig.armNext")
      (js "recurring mode (armNext) is not expected on; a pending self-armed wake is not required") checkedAt none none

def zeroDelayCheck (invocations : List RestateInvocationRow) : CheckResult :=
  let completed := ((invocations.filter fun row => decide (row.status = js "completed")).filterMap fun row =>
    truthy row.completedAt).mergeSort (earlierFirst dateParse)
  let tight := tightPairs (completed.map dateParse)
  check .noZeroDelayLoop (if tight = 0 then .healthy else .critical)
    (js "restate sys_invocation.completed_at (consecutive gaps)")
    (if tight = 0 then js "no two completed invocations landed within 60s of each other"
      else decimal tight ++ js " consecutive-completion gap(s) under 60s — indicative of a zero-delay self-rearm loop")
    checkedAt (some (textsJson completed)) none

def scheduleRestateChecks : List CheckResult :=
  match s.restateInvocations with
  | .unavailable reason =>
      [unknownFromUnavailable .nextWakeArmedAndFuture reason (js "restate sys_invocation") checkedAt,
        unknownFromUnavailable .noZeroDelayLoop reason (js "restate sys_invocation") checkedAt]
  | .read invocations =>
      [nextWakeCheck dateParse exp checkedAt invocations, zeroDelayCheck dateParse checkedAt invocations]

def evaluateScheduler : DomainResult :=
  aggregateDomain (scheduleDbChecks dateParse s exp checkedAt ++ scheduleRestateChecks dateParse s exp checkedAt)

end Scheduler

/-! ### Authority -/

/-- `bindingProvenanceVerdict`. -/
def bindingProvenanceVerdict (provenance : Option BindingProvenance) (expectedRelease : Option JsString) :
    HealthStatus × JsString :=
  match provenance.bind fun found => (truthy found.activeReleaseId).map (Prod.mk found) with
  | none =>
      (.unknown, js "NO_PROVENANCE: canonical release activation unavailable; transition qualification blocked")
  | some (found, activeRelease) =>
      if found.activeEpoch = js "0" then
        (.unknown, js "NO_PROVENANCE: canonical release activation unavailable; transition qualification blocked")
      else if 0 < found.mismatchedBindingCount ∨ expectedRelease.any (fun expected => decide (activeRelease ≠ expected)) = true then
        (.critical, js "release epoch mismatch: binding differs from its activation or active release differs from expectation")
      else if 0 < found.missingProvenanceCount then
        (.unknown, js "NO_PROVENANCE: binding provenance incomplete; transition qualification blocked")
      else if found.currentBindingCount = 0 then
        (.unknown, js "NO_OBSERVATION: no bindings in the active release epoch")
      else
        (.healthy, js "bindings match their canonical release epochs; pre-cutover history is preserved")

def provenanceJson : Option BindingProvenance → Json
  | none => .null
  | some found =>
      .obj [(js "activeEpoch", .str found.activeEpoch), (js "activeReleaseId", nullableJson found.activeReleaseId),
        (js "currentBindingCount", .num found.currentBindingCount),
        (js "mismatchedBindingCount", .num found.mismatchedBindingCount),
        (js "missingProvenanceCount", .num found.missingProvenanceCount),
        (js "legacyBindingCount", .num found.legacyBindingCount)]

def rejectionEvidence : JsString :=
  js "outcomes/task_events (text search: \"Task requires its bound worker release\")"

def evaluateAuthority (s : AuthoritySnapshot) (checkedAt : JsString) (expectedRelease : Option JsString) :
    DomainResult :=
  if s.dbReachable then
    let binding := bindingProvenanceVerdict s.bindingProvenance expectedRelease
    let missing := s.admittedFireTaskIdsMissingAdmission
    let unmaterialised := s.admittedFireTaskIdsUnmaterialised
    aggregateDomain
      [ check .bindingReleaseConsistent binding.1 (js "database release epochs") binding.2 checkedAt
          (some (provenanceJson s.bindingProvenance)) none,
        check .admittedFiresHaveCanonicalTasks (if missing.isEmpty then .healthy else .critical)
          (js "schedule_fires.admitted_child_task_id vs kernel_private.task_admissions")
          (if missing.isEmpty then js "every admitted fire has a real KernelJSON admission record"
            else decimal missing.length ++ js " admitted fire(s) reference a task id with NO kernel_private.task_admissions row — the scheduler minted without KernelJSON ever recording an admission")
          checkedAt (some (textsJson missing)) none,
        check .admittedFiresMaterialised (if unmaterialised.isEmpty then .healthy else .degraded)
          (js "schedule_fires.admitted_child_task_id vs tasks.id (where task_admissions exists)")
          (if unmaterialised.isEmpty then
              js "every admitted fire with a KernelJSON admission record has a materialised canonical task"
            else decimal unmaterialised.length ++ js " admitted fire(s) have a real admission record but never materialised a canonical task — an execution/materialisation failure downstream of a successful admission, not an authority breach")
          checkedAt (some (textsJson unmaterialised)) none,
        check .noReleaseMismatchIncidents (if s.boundReleaseRejectionSeen then .critical else .healthy)
          rejectionEvidence
          (if s.boundReleaseRejectionSeen then
              js "a recent task was rejected for binding to the wrong worker release — a real release-parity incident occurred"
            else js "no recent bound-worker-release rejection found")
          checkedAt none none ]
  else
    aggregateDomain
      [ dbUnknown .bindingReleaseConsistent (js "kernel_private.execution_bindings") checkedAt,
        dbUnknown .admittedFiresHaveCanonicalTasks
          (js "schedule_fires.admitted_child_task_id vs kernel_private.task_admissions") checkedAt,
        dbUnknown .admittedFiresMaterialised
          (js "schedule_fires.admitted_child_task_id vs tasks.id (where task_admissions exists)") checkedAt,
        dbUnknown .noReleaseMismatchIncidents rejectionEvidence checkedAt ]

/-! ### Admission -/

def doorCheck (doorHealthy : Source Bool) (checkedAt : JsString) : CheckResult :=
  match doorHealthy with
  | .unavailable reason => unknownFromUnavailable .doorReachable reason (js "GET /healthz") checkedAt
  | .read healthy =>
      check .doorReachable (if healthy then .healthy else .critical) (js "GET /healthz")
        (if healthy then js "admission door responded 200 to /healthz"
          else js "admission door did not respond healthy to /healthz")
        checkedAt none none

def evaluateAdmission (s : AdmissionSnapshot) (checkedAt : JsString) : DomainResult :=
  aggregateDomain
    [ doorCheck s.doorHealthy checkedAt,
      if s.dbReachable then
        check .humanOperatorPresent (if s.humanOperatorPresent then .healthy else .critical)
          (js "principals / tenant_memberships")
          (if s.humanOperatorPresent then js "at least one ACTIVE HUMAN operator principal exists"
            else js "no ACTIVE HUMAN operator principal exists — admission cannot be owned/approved")
          checkedAt none none
      else dbUnknown .humanOperatorPresent (js "principals / tenant_memberships") checkedAt ]

/-! ### Execution -/

def coreServices : List JsString :=
  [js "KernelWorkflowV1", js "TaskWorkflow"]

/-- The expected services that are not registered. -/
def missingServices (expected registered : List JsString) : List JsString :=
  expected.filter fun name => !registered.contains name

def capabilityService : JsString :=
  js "CapabilityServiceV1"

def capabilityServiceCheck (registered : List JsString) (checkedAt : JsString) : CheckResult :=
  check .capabilityServiceRegistered (if registered.contains capabilityService then .healthy else .critical)
    (js "restate admin /deployments")
    (if registered.contains capabilityService then js "CapabilityServiceV1 is registered"
      else js "CapabilityServiceV1 is not registered — the sealed canary capability cannot run")
    checkedAt none none

/-- The checks on the registered services; when they cannot be read the capability service is not looked at. -/
def registrationChecks (registered : Source (List JsString)) (exp : HealthExpectations) (checkedAt : JsString) :
    List CheckResult :=
  match registered with
  | .unavailable reason =>
      [unknownFromUnavailable .workerRegistered reason (js "restate admin /deployments") checkedAt]
  | .read registered =>
      let missing := missingServices coreServices registered
      check .workerRegistered (if missing.isEmpty then .healthy else .critical) (js "restate admin /deployments")
          (if missing.isEmpty then js "canonical workflow services are registered"
            else js "missing registered service(s): " ++ listed missing)
          checkedAt (some (textsJson registered)) (some (textsJson coreServices)) ::
        if exp.services.contains capabilityService then [capabilityServiceCheck registered checkedAt] else []

def restartCheck (count : Source Nat) (checkedAt : JsString) : CheckResult :=
  match count with
  | .unavailable reason =>
      unknownFromUnavailable .noWorkerRestartLoop reason (js "container restart count (operator-supplied)") checkedAt
  | .read count =>
      check .noWorkerRestartLoop (if count = 0 then .healthy else if count < 3 then .degraded else .critical)
        (js "container restart count (operator-supplied)") (js "worker restart count is " ++ decimal count)
        checkedAt (some (.num count)) none

def evaluateExecution (s : ExecutionSnapshot) (exp : HealthExpectations) (checkedAt : JsString) : DomainResult :=
  aggregateDomain (registrationChecks s.registeredServices exp checkedAt ++ [restartCheck s.workerRestartCount checkedAt])

/-! ### Restate -/

def restateReachableCheck (reachable : Source Bool) (checkedAt : JsString) : CheckResult :=
  match reachable with
  | .unavailable reason =>
      unknownFromUnavailable .restateReachable reason (js "GET restate admin /health") checkedAt
  | .read reachable =>
      check .restateReachable (if reachable then .healthy else .critical) (js "GET restate admin /health")
        (if reachable then js "Restate admin endpoint responded healthy"
          else js "Restate admin endpoint did not respond healthy")
        checkedAt none none

def expectedServicesCheck (registered : Source (List JsString)) (exp : HealthExpectations) (checkedAt : JsString) :
    CheckResult :=
  match registered with
  | .unavailable reason =>
      unknownFromUnavailable .expectedServicesRegistered reason (js "restate admin /deployments") checkedAt
  | .read registered =>
      let missing := missingServices exp.services registered
      check .expectedServicesRegistered (if missing.isEmpty then .healthy else .critical)
        (js "restate admin /deployments")
        (if missing.isEmpty then js "all expected services are registered"
          else js "missing registered service(s): " ++ listed missing)
        checkedAt (some (textsJson registered)) (some (textsJson exp.services))

def stuckInvocationCheck (invocations : Source (List RestateInvocationRow)) (checkedAt : JsString) : CheckResult :=
  match invocations with
  | .unavailable reason => unknownFromUnavailable .noStuckInvocation reason (js "restate sys_invocation") checkedAt
  | .read rows =>
      let stuck := rows.filter fun row =>
        decide (row.status = js "scheduled") && isStuck dateParse checkedAt defaultStuckWakeGraceMs row
      check .noStuckInvocation (if stuck.isEmpty then .healthy else .critical)
        (js "restate sys_invocation (status=scheduled, past scheduled_start_at)")
        (if stuck.isEmpty then js "no scheduled invocation is stuck past its own wake time"
          else decimal stuck.length ++ js " invocation(s) stuck past their scheduled_start_at")
        checkedAt (some (textsJson (stuck.map RestateInvocationRow.id))) none

def evaluateRestate (s : RestateSnapshot) (exp : HealthExpectations) (checkedAt : JsString) : DomainResult :=
  aggregateDomain
    [ restateReachableCheck s.reachable checkedAt, expectedServicesCheck s.registeredServices exp checkedAt,
      stuckInvocationCheck dateParse s.scheduleInvocations checkedAt ]

/-! ### Database -/

/-- The read checks are made only of a database that was reached. -/
def evaluateDatabase (s : DatabaseSnapshot) (checkedAt : JsString) : DomainResult :=
  aggregateDomain
    (check .databaseReachable (if s.reachable then .healthy else .critical) (js "select 1")
        (if s.reachable then js "production database is reachable" else js "production database is not reachable")
        checkedAt none none ::
      if s.reachable then
        [ check .scheduleReadsSucceed (if s.scheduleReadOk then .healthy else .critical)
            (js "select from schedule_state/schedule_fires")
            (if s.scheduleReadOk then js "scheduler reads succeed" else js "scheduler reads failed")
            checkedAt none none,
          check .taskReadsSucceed (if s.taskReadOk then .healthy else .critical) (js "select from tasks")
            (if s.taskReadOk then js "task reads succeed" else js "task reads failed") checkedAt none none ]
      else [])

/-! ### Evidence -/

def toolReceipt (rows : List EvidenceRow) : Option EvidenceRow :=
  rows.find? fun row => decide (row.type = js "TOOL_RECEIPT")

/-- `receipt.digest ?? receipt.metadata["content_sha256"] ?? null`. -/
def observedDigest (receipt : EvidenceRow) : Json :=
  match receipt.digest with
  | some digest => .str digest
  | none => (JsMap.lookupEntry (js "content_sha256") receipt.metadata).getD .null

/-- `observed === approved`. -/
def isText (approved : JsString) : Json → Bool
  | .str text => decide (text = approved)
  | _ => false

def digestCheck (receipt : Option EvidenceRow) (exp : HealthExpectations) (checkedAt : JsString) : CheckResult :=
  match truthy exp.approvedDigestSha256, receipt with
  | none, _ =>
      check .digestMatchesApproved .unknown (js "SCHED_APPROVED_SHA256")
        (js "no approved digest configured to compare against") checkedAt none none
  | some _, none =>
      check .digestMatchesApproved .critical (js "evidence.digest / metadata")
        (js "no TOOL_RECEIPT to read a digest from") checkedAt none none
  | some approved, some receipt =>
      let observed := observedDigest receipt
      check .digestMatchesApproved (if isText approved observed then .healthy else .critical) (js "evidence.digest")
        (if isText approved observed then js "observed digest matches the approved digest exactly"
          else js "observed digest " ++ quoted (templateText observed) ++ js " does not match approved " ++ quoted approved)
        checkedAt (some observed) (some (.str approved))

/-- The checks on the evidence of a task. -/
def evidenceChecks (taskId : JsString) (rows : List EvidenceRow) (exp : HealthExpectations) (checkedAt : JsString) :
    List CheckResult :=
  let receipt := toolReceipt rows
  let bound := rows.all fun row => decide (row.taskId = taskId)
  [ check .mostRecentCompletedTaskHasEvidence (if rows.isEmpty then .critical else .healthy)
      (js "evidence where task_id=" ++ taskId)
      (if rows.isEmpty then js "the most recently scheduled task has no evidence at all"
        else js "the most recently scheduled task has evidence recorded")
      checkedAt none none,
    check .toolReceiptPresentWhereRequired (if receipt.isSome then .healthy else .critical)
      (js "evidence where task_id=" ++ taskId ++ js " and type='TOOL_RECEIPT'")
      (if receipt.isSome then js "a TOOL_RECEIPT is present"
        else js "no TOOL_RECEIPT found for the most recent scheduled task")
      checkedAt none none,
    digestCheck receipt exp checkedAt,
    check .boundToCorrectTask (if bound then .healthy else .critical) (js "evidence.task_id")
      (if bound then js "all returned evidence is bound to the queried task"
        else js "evidence rows returned for the wrong task")
      checkedAt none none ]

/-- Without a database, or without a scheduled task, there is one check. -/
def evaluateEvidence (s : EvidenceSnapshot) (exp : HealthExpectations) (checkedAt : JsString) : DomainResult :=
  if s.dbReachable then
    match truthy s.mostRecentScheduledTaskId with
    | none =>
        aggregateDomain
          [check .mostRecentCompletedTaskHasEvidence .unknown (js "schedule_fires -> evidence")
            (js "no scheduled task exists yet to check evidence for") checkedAt none none]
    | some taskId => aggregateDomain (evidenceChecks taskId s.evidenceForTask exp checkedAt)
  else aggregateDomain [dbUnknown .mostRecentCompletedTaskHasEvidence (js "schedule_fires -> evidence") checkedAt]

/-! ### Release parity -/

def matchesExpectedCheck (reported : Option JsString) (exp : HealthExpectations) (checkedAt : JsString) : CheckResult :=
  match truthy exp.releaseId, truthy reported with
  | none, _ =>
      check .matchesExpected .unknown (js "EXPECTED_RELEASE_ID")
        (js "no expected release id configured to compare against") checkedAt none none
  | some _, none =>
      check .matchesExpected .unknown (js "process.env.KERNELJSON_RELEASE_ID")
        (js "this component does not report its own release id") checkedAt none none
  | some expected, some release =>
      check .matchesExpected (if release = expected then .healthy else .critical)
        (js "process.env.KERNELJSON_RELEASE_ID vs EXPECTED_RELEASE_ID")
        (if release = expected then js "self-reported release matches the expected release"
          else js "self-reported release " ++ quoted release ++ js " does not match expected " ++ quoted expected)
        checkedAt (some (.str release)) (some (.str expected))

def evaluateReleaseParity (s : ReleaseParitySnapshot) (exp : HealthExpectations) (checkedAt : JsString) : DomainResult :=
  let binding := bindingProvenanceVerdict (if s.dbReachable then s.bindingProvenance else none) exp.releaseId
  aggregateDomain
    [ check .selfReportedReleaseKnown (if isTruthy s.selfReportedReleaseId then .healthy else .unknown)
        (js "process.env.KERNELJSON_RELEASE_ID")
        (match truthy s.selfReportedReleaseId with
          | some release => js "this component reports release " ++ release
          | none => js "this component has no KERNELJSON_RELEASE_ID set")
        checkedAt (some (nullableJson s.selfReportedReleaseId)) none,
      matchesExpectedCheck s.selfReportedReleaseId exp checkedAt,
      check .recentBindingsConsistent binding.1 (js "database release epochs") binding.2 checkedAt
        (some (provenanceJson s.bindingProvenance)) none,
      if s.dbReachable then
        check .noBoundReleaseRejection (if s.boundReleaseRejectionSeen then .critical else .healthy) rejectionEvidence
          (if s.boundReleaseRejectionSeen then js "a live release mismatch rejection was observed"
            else js "no release mismatch rejection observed")
          checkedAt none none
      else dbUnknown .noBoundReleaseRejection rejectionEvidence checkedAt ]

/-! ### Production configuration -/

def boolText (value : Bool) : JsString :=
  if value then js "true" else js "false"

def armNextCheck (armNext : Option Bool) (exp : HealthExpectations) (checkedAt : JsString) : CheckResult :=
  match armNext with
  | none =>
      check .armNextExpected .unknown (js "process.env.SCHED_ARM_NEXT")
        (js "this component does not report SCHED_ARM_NEXT (expected when run against the admission door, which has no scheduler config)")
        checkedAt none none
  | some armed =>
      check .armNextExpected (if armed = exp.armNext then .healthy else .critical) (js "process.env.SCHED_ARM_NEXT")
        (if armed = exp.armNext then js "SCHED_ARM_NEXT=" ++ boolText armed ++ js " matches expectation"
          else js "SCHED_ARM_NEXT=" ++ boolText armed ++ js ", expected " ++ boolText exp.armNext)
        checkedAt (some (.bool armed)) (some (.bool exp.armNext))

def approvedDigestCheck (shapeValid : Option Bool) (checkedAt : JsString) : CheckResult :=
  match shapeValid with
  | none =>
      check .approvedDigestPresentAndValid .unknown (js "process.env.SCHED_APPROVED_SHA256")
        (js "SCHED_APPROVED_SHA256 not set on this component") checkedAt none none
  | some valid =>
      check .approvedDigestPresentAndValid (if valid then .healthy else .critical)
        (js "process.env.SCHED_APPROVED_SHA256")
        (if valid then js "approved digest is present and correctly shaped"
          else js "approved digest is present but not a valid 64-char lowercase hex sha256")
        checkedAt none none

def scheduleIdentityCheck (s : ProductionConfigSnapshot) (exp : HealthExpectations) (checkedAt : JsString) : CheckResult :=
  let scheduleOk := s.scheduleIdConfigured.all fun configured => decide (configured = exp.scheduleId)
  let recipeOk := s.recipeConfigured.all fun configured => decide (configured = exp.recipe)
  check .scheduleIdentityMatchesCanonical (if scheduleOk && recipeOk then .healthy else .critical)
    (js "process.env.SCHED_RECIPE vs canonical schedule/recipe")
    (if scheduleOk && recipeOk then js "configured schedule/recipe identity matches canonical production values"
      else js "configured identity diverges — schedule=" ++ s.scheduleIdConfigured.getD (js "n/a") ++
        js " recipe=" ++ s.recipeConfigured.getD (js "n/a"))
    checkedAt none (some (.obj [(js "scheduleId", .str exp.scheduleId), (js "recipe", .str exp.recipe)]))

def evaluateProductionConfig (s : ProductionConfigSnapshot) (exp : HealthExpectations) (checkedAt : JsString) :
    DomainResult :=
  aggregateDomain
    [ armNextCheck s.armNext exp checkedAt, approvedDigestCheck s.approvedDigestShapeValid checkedAt,
      scheduleIdentityCheck s exp checkedAt ]

/-! ### Identity -/

/-- `IDENTITY_CHECK_SOURCES`: every identity check, in order, with the durable source it reads. -/
def identityCheckSources : List (CheckId × JsString) :=
  [ (.completedTasksHaveActivation, js "public.tasks vs public.identity_activations"),
    (.profilesHaveActivatedIdentity, js "public.identity_profiles vs public.identity_activations"),
    (.currentDigestParity, js "public.identity_versions vs kernel_private.identity_core_digest_v1"),
    (.singleCurrentPerTenant, js "public.identity_current grouped by tenant"),
    (.headEqualsCurrent, js "public.identity_head vs public.identity_current"),
    (.analystRunsBound, js "identity_cognition_latches (REQUIRED) vs identity_pins, identity_versions, analyst evidence"),
    (.verifierIsolated, js "reviewer evidence, identity_pins, NONE latches vs analyst evidence") ]

def sourceOf (id : CheckId) : JsString :=
  ((identityCheckSources.find? fun entry => decide (entry.1 = id)).map Prod.snd).getD []

def invariantCheck (id : CheckId) (observed : List JsString) (ok bad checkedAt : JsString) : CheckResult :=
  check id (if observed.isEmpty then .healthy else .critical) (sourceOf id)
    (if observed.isEmpty then ok else decimal observed.length ++ js " " ++ bad) checkedAt
    (some (textsJson observed)) (some (.arr []))

def unboundJson (latch : UnboundLatch) : Json :=
  .obj [(js "taskId", .str latch.taskId), (js "stepId", .str latch.stepId), (js "reason", .str latch.reason)]

def violationJson (violation : IsolationViolation) : Json :=
  .obj [(js "taskId", .str violation.taskId), (js "reason", .str violation.reason)]

def analystRunsCheck (c : IdentityCognitionSnapshot) (checkedAt : JsString) : CheckResult :=
  if c.requiredLatches = 0 then
    check .analystRunsBound .unknown (sourceOf .analystRunsBound)
      (js "NO_OBSERVATION: no REQUIRED analyst latch exists (cognition OFF or not yet run) — nothing consumed identity")
      checkedAt none none
  else
    check .analystRunsBound (if c.unboundRequired.isEmpty then .healthy else .critical) (sourceOf .analystRunsBound)
      (if c.unboundRequired.isEmpty then
          js "every one of " ++ decimal c.requiredLatches ++ js " REQUIRED analyst latch(es) is bound: pin, pinned version, projection and evidence verify"
        else decimal c.unboundRequired.length ++ js " REQUIRED analyst latch(es) do not verify — a model may have received identity bytes that are not provably governed")
      checkedAt (some (.arr (c.unboundRequired.map unboundJson))) (some (.arr []))

def verifierCheck (c : IdentityCognitionSnapshot) (checkedAt : JsString) : CheckResult :=
  if !c.isolationViolations.isEmpty then
    check .verifierIsolated .critical (sourceOf .verifierIsolated)
      (decimal c.isolationViolations.length ++ js " identity isolation violation(s)") checkedAt
      (some (.arr (c.isolationViolations.map violationJson))) (some (.arr []))
  else if !c.contractActive || decide (c.contractRuntimeRecords = 0) then
    check .verifierIsolated .unknown (sourceOf .verifierIsolated)
      (js "NO_OBSERVATION: no mission runtime record under the identity cognition contract yet") checkedAt none none
  else
    check .verifierIsolated .healthy (sourceOf .verifierIsolated)
      (js "no identity on the reviewer or outside the analyst across " ++ decimal c.contractRuntimeRecords ++
        js " contract-era runtime record(s)") checkedAt none none

def evaluateIdentityCognition (cognition : Source IdentityCognitionSnapshot) (checkedAt : JsString) : List CheckResult :=
  match cognition with
  | .unavailable reason =>
      (identityCheckSources.drop 2).map fun entry => unknownFromUnavailable entry.1 reason entry.2 checkedAt
  | .read c =>
      [ invariantCheck .currentDigestParity c.digestParityFailures
          (js "every identity version's stored digests equal kerneljson:identity-core/v1")
          (js "identity version(s) whose stored digests differ from kerneljson:identity-core/v1") checkedAt,
        invariantCheck .singleCurrentPerTenant c.tenantsWithMultipleCurrent
          (js "at most one current identity per tenant") (js "tenant(s) with more than one current identity") checkedAt,
        invariantCheck .headEqualsCurrent c.headCurrentMismatches
          (js "every identity head is its current activated version")
          (js "identity/identities whose head is not the current activated version") checkedAt,
        analystRunsCheck c checkedAt, verifierCheck c checkedAt ]

def evaluateIdentity (s : IdentitySnapshot) (exp : HealthExpectations) (checkedAt : JsString) : DomainResult :=
  let grace := exp.identityBootstrapGraceMs.getD defaultIdentityBootstrapGraceMs
  if s.dbReachable then
    let stuck := s.completedTasksMissingActivation
    let incomplete := s.profilesWithoutCurrentIdentity.filter fun row => decide (grace ≤ row.ageMs)
    aggregateDomain
      ([ check .completedTasksHaveActivation (if stuck.isEmpty then .healthy else .critical)
          (js "public.tasks (COMPLETED, identity-change/v1) vs public.identity_activations.request_task_id")
          (if stuck.isEmpty then js "every completed identity-change task has a matching activation"
            else decimal stuck.length ++ js " completed identity-change task(s) have no matching identity_activations row — ADR-0021 D8 orphan: the task claims success but the identity change never took effect")
          checkedAt (some (textsJson (stuck.map IdentityOrphanRow.taskId))) (some (.arr [])),
        check .profilesHaveActivatedIdentity (if incomplete.isEmpty then .healthy else .degraded)
          (js "public.identity_profiles vs public.identity_activations")
          (if incomplete.isEmpty then js "every identity profile past the bootstrap grace period has an activated identity"
            else decimal incomplete.length ++ js " identity profile(s) have no activated identity — an interrupted bootstrap; the owner's next bootstrap request resumes the same profile")
          checkedAt (some (textsJson (incomplete.map IncompleteBootstrapRow.identityId))) (some (.arr [])) ] ++
        evaluateIdentityCognition s.cognition checkedAt)
  else aggregateDomain (identityCheckSources.map fun entry => dbUnknown entry.1 entry.2 checkedAt)

/-! ### Legacy authority -/

def evaluateLegacyAuthority (s : LegacyAuthoritySnapshot) (checkedAt : JsString) : DomainResult :=
  aggregateDomain
    [ match s.b1FreezeObservable with
      | .unavailable reason =>
          unknownFromUnavailable .b1FreezeObservable reason
            (js "Shared Brain (cross-system, out of scope for this module)") checkedAt
      | .read observable =>
          check .b1FreezeObservable (if observable then .healthy else .critical)
            (js "Shared Brain authority_mode observation")
            (if observable then js "B1 authority freeze remains observably in effect"
              else js "B1 authority freeze does not appear to be in effect")
            checkedAt none none ]

/-! ## The report -/

/-- The domains of `evaluateHealthSnapshot`. -/
def evaluateHealthSnapshot (snapshot : HealthSnapshot) (exp : HealthExpectations) : DomainName → DomainResult
  | .authority => evaluateAuthority snapshot.authority snapshot.checkedAt exp.releaseId
  | .admission => evaluateAdmission snapshot.admission snapshot.checkedAt
  | .scheduler => evaluateScheduler dateParse snapshot.scheduler exp snapshot.checkedAt
  | .execution => evaluateExecution snapshot.execution exp snapshot.checkedAt
  | .restate => evaluateRestate dateParse snapshot.restate exp snapshot.checkedAt
  | .database => evaluateDatabase snapshot.database snapshot.checkedAt
  | .evidence => evaluateEvidence snapshot.evidence exp snapshot.checkedAt
  | .releaseParity => evaluateReleaseParity snapshot.releaseParity exp snapshot.checkedAt
  | .productionConfig => evaluateProductionConfig snapshot.productionConfig exp snapshot.checkedAt
  | .legacyAuthority => evaluateLegacyAuthority snapshot.legacyAuthority snapshot.checkedAt
  | .identity => evaluateIdentity snapshot.identity exp snapshot.checkedAt

def overall (domains : DomainName → DomainResult) : HealthStatus :=
  aggregateOverall (healthDomains.map domains)

/-- `allChecks(report)`. -/
def allChecks (domains : DomainName → DomainResult) : List CheckResult :=
  healthDomains.flatMap fun domain => (domains domain).checks

end Evaluators

end KernelJson.Health
