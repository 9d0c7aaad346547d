import KernelJson.Contracts.Outcome
import KernelJson.Contracts.PolicyGate
import KernelJson.Foundation.JsonCodec

/-!
# Events, and records as JSON values

The events of a task, and the values that `JSON.stringify` sees of tasks,
steps, evidence, outcomes and events: objects whose fields stand in the order
of the schema, without the fields that are undefined.  Different records have
different values.
-/

namespace KernelJson.Contracts.Records

open Contracts.Common
open Contracts.Outcome
open Contracts.PolicyGate (capabilityRefJson idJson principalJson principalKindText timestampJson)
open Contracts.Task
open Foundation
open Foundation.JsText
open Scheduler.CivilTime

/-! ## Events -/

inductive TaskEventType where
  | taskCreated
  | intentResolved
  | planCompiled
  | policyChecked
  | stepStarted
  | modelCalled
  | toolCalled
  | evidenceReceived
  | stepCompleted
  | approvalRequested
  | approvalGranted
  | verificationFailed
  | replanTriggered
  | taskCompleted
  | taskFailed
  | learningProposed
  | taskReady
  | taskStarted
  | taskWaiting
  | taskResumed
  | taskVerifying
  | taskCancelled
deriving DecidableEq

/-- A value that `TaskEvent.parse` accepts; it keeps what it accepts. -/
structure TaskEvent where
  id : Id
  taskId : Id
  stepId : Option Id
  type : TaskEventType
  occurredAt : Timestamp
  actor : PrincipalRef
  traceId : Id
  payload : Json

/-! ## Names of enumerations -/

def TaskStatus.text : TaskStatus → JsString
  | .received => js "RECEIVED"
  | .compiled => js "COMPILED"
  | .ready => js "READY"
  | .running => js "RUNNING"
  | .waiting => js "WAITING"
  | .approvalRequired => js "APPROVAL_REQUIRED"
  | .verifying => js "VERIFYING"
  | .completed => js "COMPLETED"
  | .failed => js "FAILED"
  | .cancelled => js "CANCELLED"

def statusCodec : Codec TaskStatus :=
  .enum TaskStatus.text
    [.received, .compiled, .ready, .running, .waiting, .approvalRequired, .verifying, .completed, .failed,
      .cancelled]
    (fun status => by cases status <;> simp) (by decide +kernel)

def riskCodec : Codec RiskClass :=
  .enum
    (fun
      | .low => js "LOW"
      | .medium => js "MEDIUM"
      | .high => js "HIGH"
      | .critical => js "CRITICAL")
    [.low, .medium, .high, .critical] (fun risk => by cases risk <;> simp) (by decide +kernel)

def kindCodec : Codec StepKind :=
  .enum
    (fun
      | .deterministicFunction => js "DETERMINISTIC_FUNCTION"
      | .toolCall => js "TOOL_CALL"
      | .llmCall => js "LLM_CALL"
      | .agentLoop => js "AGENT_LOOP"
      | .parallelMap => js "PARALLEL_MAP"
      | .sandboxExec => js "SANDBOX_EXEC"
      | .humanApproval => js "HUMAN_APPROVAL"
      | .waitForEvent => js "WAIT_FOR_EVENT"
      | .schedule => js "SCHEDULE"
      | .subworkflow => js "SUBWORKFLOW")
    [.deterministicFunction, .toolCall, .llmCall, .agentLoop, .parallelMap, .sandboxExec, .humanApproval,
      .waitForEvent, .schedule, .subworkflow]
    (fun kind => by cases kind <;> simp) (by decide +kernel)

def evidenceTypeCodec : Codec EvidenceType :=
  .enum
    (fun
      | .deterministicResult => js "DETERMINISTIC_RESULT"
      | .toolReceipt => js "TOOL_RECEIPT"
      | .artifact => js "ARTIFACT"
      | .humanDecision => js "HUMAN_DECISION")
    [.deterministicResult, .toolReceipt, .artifact, .humanDecision] (fun type => by cases type <;> simp)
    (by decide +kernel)

def OutcomeStatus.text : OutcomeStatus → JsString
  | .completed => js "COMPLETED"
  | .failed => js "FAILED"
  | .cancelled => js "CANCELLED"

theorem OutcomeStatus.listed (status : OutcomeStatus) :
    status ∈ [OutcomeStatus.completed, .failed, .cancelled] := by
  cases status with
  | completed => exact List.mem_cons_self
  | failed => exact List.mem_cons_of_mem _ List.mem_cons_self
  | cancelled => exact List.mem_cons_of_mem _ (List.mem_cons_of_mem _ List.mem_cons_self)

theorem OutcomeStatus.apart :
    ([OutcomeStatus.completed, .failed, .cancelled].map OutcomeStatus.text).Nodup := by
  decide +kernel

def outcomeStatusCodec : Codec OutcomeStatus :=
  .enum OutcomeStatus.text [.completed, .failed, .cancelled] OutcomeStatus.listed OutcomeStatus.apart

def eventTypeCodec : Codec TaskEventType :=
  .enum
    (fun
      | .taskCreated => js "TASK_CREATED"
      | .intentResolved => js "INTENT_RESOLVED"
      | .planCompiled => js "PLAN_COMPILED"
      | .policyChecked => js "POLICY_CHECKED"
      | .stepStarted => js "STEP_STARTED"
      | .modelCalled => js "MODEL_CALLED"
      | .toolCalled => js "TOOL_CALLED"
      | .evidenceReceived => js "EVIDENCE_RECEIVED"
      | .stepCompleted => js "STEP_COMPLETED"
      | .approvalRequested => js "APPROVAL_REQUESTED"
      | .approvalGranted => js "APPROVAL_GRANTED"
      | .verificationFailed => js "VERIFICATION_FAILED"
      | .replanTriggered => js "REPLAN_TRIGGERED"
      | .taskCompleted => js "TASK_COMPLETED"
      | .taskFailed => js "TASK_FAILED"
      | .learningProposed => js "LEARNING_PROPOSED"
      | .taskReady => js "TASK_READY"
      | .taskStarted => js "TASK_STARTED"
      | .taskWaiting => js "TASK_WAITING"
      | .taskResumed => js "TASK_RESUMED"
      | .taskVerifying => js "TASK_VERIFYING"
      | .taskCancelled => js "TASK_CANCELLED")
    [.taskCreated, .intentResolved, .planCompiled, .policyChecked, .stepStarted, .modelCalled, .toolCalled,
      .evidenceReceived, .stepCompleted, .approvalRequested, .approvalGranted, .verificationFailed,
      .replanTriggered, .taskCompleted, .taskFailed, .learningProposed, .taskReady, .taskStarted, .taskWaiting,
      .taskResumed, .taskVerifying, .taskCancelled]
    (fun type => by cases type <;> simp) (by decide +kernel)

/-! ## Objects -/

/-- The object of the fields that are present. -/
def objectOf (fields : List (JsString × Option Json)) : Json :=
  .obj (fields.filterMap fun field => field.2.map fun value => (field.1, value))

theorem mem_present {fields : List (JsString × Option Json)} {name : JsString} (value : Json)
    (member : (name, value) ∈ fields.filterMap fun field => field.2.map fun value => (field.1, value)) :
    name ∈ fields.map Prod.fst := by
  obtain ⟨⟨other, present⟩, inside, same⟩ := List.mem_filterMap.mp member
  cases present with
  | none => cases same
  | some found =>
      cases same
      exact List.mem_map_of_mem inside

theorem present_injective {left right : List (JsString × Option Json)}
    (names : left.map Prod.fst = right.map Prod.fst) (distinct : (left.map Prod.fst).Nodup)
    (same : (left.filterMap fun field => field.2.map fun value => (field.1, value)) =
      right.filterMap fun field => field.2.map fun value => (field.1, value)) : left = right := by
  induction left generalizing right with
  | nil =>
      cases right with
      | nil => rfl
      | cons head tail => cases names
  | cons head tail ih =>
      cases right with
      | nil => cases names
      | cons other rest =>
          obtain ⟨name, value⟩ := head
          obtain ⟨otherName, otherValue⟩ := other
          simp only [List.map_cons, List.cons.injEq] at names
          obtain ⟨rfl, names⟩ := names
          obtain ⟨fresh, restDistinct⟩ := List.nodup_cons.mp distinct
          have freshRest : name ∉ rest.map Prod.fst := names ▸ fresh
          cases value with
          | none =>
              cases otherValue with
              | none => rw [ih names restDistinct same]
              | some found =>
                  refine absurd (mem_present found ?_) fresh
                  simp only [List.filterMap_cons, Option.map_none, Option.map_some] at same
                  rw [same]
                  exact List.mem_cons_self
          | some found =>
              cases otherValue with
              | none =>
                  refine absurd (mem_present found ?_) freshRest
                  simp only [List.filterMap_cons, Option.map_none, Option.map_some] at same
                  rw [← same]
                  exact List.mem_cons_self
              | some there =>
                  simp only [List.filterMap_cons, Option.map_some, List.cons.injEq, Prod.mk.injEq,
                    true_and] at same
                  obtain ⟨rfl, same⟩ := same
                  rw [ih names restDistinct same]

/-- Objects under the same distinct names agree only where all of their fields do. -/
theorem objectOf_injective {names : List JsString} (distinct : names.Nodup)
    {left right : List (JsString × Option Json)} (here : left.map Prod.fst = names)
    (there : right.map Prod.fst = names) (same : objectOf left = objectOf right) : left = right :=
  present_injective (here.trans there.symm) (here ▸ distinct) (Json.obj.inj same)

/-! ## Records -/

def textListJson (texts : List JsString) : Json := .arr (texts.map .str)

def idListJson (ids : List Id) : Json := .arr (ids.map idJson)

def natJson (number : Nat) : Json := .num number

def tenantJson (tenant : TenantRef) : Json := .obj [(js "id", idJson tenant.id)]

def budgetJson (budget : Budget) : Json :=
  .obj [(js "amount", .num budget.amount), (js "currency", .str budget.currency)]

def Task.fields (task : Task) : List (JsString × Option Json) :=
  [(js "id", some (idJson task.id)), (js "parentTaskId", task.parentTaskId.map idJson),
    (js "principal", some (principalJson task.principal)), (js "tenant", some (tenantJson task.tenant)),
    (js "objective", some (.str task.objective)),
    (js "acceptanceCriteria", some (textListJson task.acceptanceCriteria)),
    (js "constraints", some (textListJson task.constraints)),
    (js "riskClass", some (riskCodec.write task.riskClass)), (js "budget", task.budget.map budgetJson),
    (js "deadline", task.deadline.map timestampJson), (js "status", some (statusCodec.write task.status)),
    (js "traceId", some (idJson task.traceId)), (js "createdAt", some (timestampJson task.createdAt)),
    (js "startedAt", task.startedAt.map timestampJson), (js "completedAt", task.completedAt.map timestampJson)]

def Task.toJson (task : Task) : Json := objectOf (Task.fields task)

def retryPolicyJson (policy : RetryPolicy) : Json :=
  .obj [(js "maxAttempts", .num policy.maxAttempts), (js "backoffMs", .num policy.backoffMs)]

def TaskStep.fields (step : TaskStep) : List (JsString × Option Json) :=
  [(js "id", some (idJson step.id)), (js "taskId", some (idJson step.taskId)),
    (js "kind", some (kindCodec.write step.kind)), (js "status", some (statusCodec.write step.status)),
    (js "dependencies", some (idListJson step.dependencies)),
    (js "requiredCapabilities", some (.arr (step.requiredCapabilities.map capabilityRefJson))),
    (js "riskClass", some (riskCodec.write step.riskClass)),
    (js "retryPolicy", some (retryPolicyJson step.retryPolicy)),
    (js "timeout", step.timeout.map natJson), (js "input", some step.input),
    (js "output", step.output), (js "idempotencyKey", step.idempotencyKey.map .str)]

def TaskStep.toJson (step : TaskStep) : Json := objectOf (TaskStep.fields step)

def Evidence.fields (evidence : Evidence) : List (JsString × Option Json) :=
  [(js "id", some (idJson evidence.id)), (js "taskId", some (idJson evidence.taskId)),
    (js "stepId", evidence.stepId.map idJson), (js "type", some (evidenceTypeCodec.write evidence.type)),
    (js "source", some (.str evidence.source)), (js "ref", evidence.ref.map .str),
    (js "uri", evidence.uri.map .str), (js "digest", evidence.digest.map .str),
    (js "capturedAt", some (timestampJson evidence.capturedAt)), (js "metadata", some evidence.metadata)]

def Evidence.toJson (evidence : Evidence) : Json := objectOf (Evidence.fields evidence)

def acceptanceResultJson (result : AcceptanceResult) : Json :=
  .obj [(js "criterion", .str result.criterion), (js "passed", .bool result.passed),
    (js "evidenceRefs", idListJson result.evidenceRefs)]

def Outcome.toJson (outcome : Outcome) : Json :=
  .obj [(js "taskId", idJson outcome.taskId), (js "status", outcomeStatusCodec.write outcome.status),
    (js "acceptanceResults", .arr (outcome.acceptanceResults.map acceptanceResultJson)),
    (js "evidenceRefs", idListJson outcome.evidenceRefs), (js "summary", .str outcome.summary),
    (js "completedAt", timestampJson outcome.completedAt)]

def TaskEvent.fields (event : TaskEvent) : List (JsString × Option Json) :=
  [(js "id", some (idJson event.id)), (js "taskId", some (idJson event.taskId)),
    (js "stepId", event.stepId.map idJson), (js "type", some (eventTypeCodec.write event.type)),
    (js "occurredAt", some (timestampJson event.occurredAt)), (js "actor", some (principalJson event.actor)),
    (js "traceId", some (idJson event.traceId)), (js "payload", some event.payload)]

def TaskEvent.toJson (event : TaskEvent) : Json := objectOf (TaskEvent.fields event)

/-! ## Different records have different values -/

theorem idJson_injective : Function.Injective idJson :=
  fun _ _ same => Contracts.Common.Id.ext (Json.str.inj same)

theorem timestampJson_injective : Function.Injective timestampJson := by
  intro first second same
  have instants := toISOString_injective (Json.str.inj same)
  cases first
  cases second
  cases instants
  rfl

theorem str_injective : Function.Injective Json.str := fun _ _ same => Json.str.inj same

theorem natJson_injective : Function.Injective natJson :=
  fun _ _ same => Int.ofNat.inj (Json.num.inj same)

theorem arr_map_injective {α : Type} {write : α → Json} (injective : Function.Injective write) :
    Function.Injective fun values : List α => Json.arr (values.map write) :=
  fun _ _ same => injective.list_map (Json.arr.inj same)

theorem principalJson_injective : Function.Injective principalJson := by
  rintro ⟨id, kind⟩ ⟨otherId, otherKind⟩ same
  simp only [principalJson, Json.obj.injEq, List.cons.injEq, Prod.mk.injEq, true_and, and_true,
    Json.str.injEq] at same
  obtain ⟨ids, kinds⟩ := same
  have kindSame : kind = otherKind := by
    cases kind <;> cases otherKind <;> first | rfl | exact absurd kinds (by decide +kernel)
  rw [idJson_injective ids, kindSame]

theorem tenantJson_injective : Function.Injective tenantJson := by
  rintro ⟨id⟩ ⟨otherId⟩ same
  simp only [tenantJson, Json.obj.injEq, List.cons.injEq, Prod.mk.injEq, true_and, and_true] at same
  rw [idJson_injective same]

theorem budgetJson_injective : Function.Injective budgetJson := by
  rintro ⟨amount, currency⟩ ⟨otherAmount, otherCurrency⟩ same
  simp only [budgetJson, Json.obj.injEq, List.cons.injEq, Prod.mk.injEq, true_and, and_true,
    Json.num.injEq, Json.str.injEq, Nat.cast_inj] at same
  rw [same.1, same.2]

theorem retryPolicyJson_injective : Function.Injective retryPolicyJson := by
  rintro ⟨maxAttempts, backoffMs⟩ ⟨otherAttempts, otherBackoff⟩ same
  simp only [retryPolicyJson, Json.obj.injEq, List.cons.injEq, Prod.mk.injEq, true_and, and_true,
    Json.num.injEq, Nat.cast_inj] at same
  rw [same.1, same.2]

theorem capabilityRefJson_injective : Function.Injective capabilityRefJson := by
  rintro ⟨id, version⟩ ⟨otherId, otherVersion⟩ same
  simp only [capabilityRefJson, Json.obj.injEq, List.cons.injEq, Prod.mk.injEq, true_and, and_true,
    Json.str.injEq] at same
  rw [idJson_injective same.1, same.2]

theorem acceptanceResultJson_injective : Function.Injective acceptanceResultJson := by
  rintro ⟨criterion, passed, refs⟩ ⟨otherCriterion, otherPassed, otherRefs⟩ same
  simp only [acceptanceResultJson, Json.obj.injEq, List.cons.injEq, Prod.mk.injEq, true_and, and_true,
    Json.str.injEq, Json.bool.injEq] at same
  rw [same.1, same.2.1, arr_map_injective idJson_injective same.2.2]

def taskNames : List JsString :=
  [js "id", js "parentTaskId", js "principal", js "tenant", js "objective", js "acceptanceCriteria",
    js "constraints", js "riskClass", js "budget", js "deadline", js "status", js "traceId", js "createdAt",
    js "startedAt", js "completedAt"]

theorem nodup_taskNames : taskNames.Nodup := by
  decide +kernel

theorem Task.toJson_injective : Function.Injective Task.toJson := by
  intro first second same
  have fields : Task.fields first = Task.fields second :=
    objectOf_injective nodup_taskNames rfl rfl same
  simp only [Task.fields, List.cons.injEq, Prod.mk.injEq, true_and, and_true, Option.some.injEq] at fields
  obtain ⟨id, parent, principal, tenant, objective, criteria, constraints, risk, budget, deadline, status,
    trace, created, started, completed⟩ := fields
  cases first
  cases second
  cases idJson_injective id
  cases Option.map_injective idJson_injective parent
  cases principalJson_injective principal
  cases tenantJson_injective tenant
  cases str_injective objective
  cases arr_map_injective str_injective criteria
  cases arr_map_injective str_injective constraints
  cases riskCodec.write_injective risk
  cases Option.map_injective budgetJson_injective budget
  cases Option.map_injective timestampJson_injective deadline
  cases statusCodec.write_injective status
  cases idJson_injective trace
  cases timestampJson_injective created
  cases Option.map_injective timestampJson_injective started
  cases Option.map_injective timestampJson_injective completed
  rfl

def stepNames : List JsString :=
  [js "id", js "taskId", js "kind", js "status", js "dependencies", js "requiredCapabilities",
    js "riskClass", js "retryPolicy", js "timeout", js "input", js "output", js "idempotencyKey"]

theorem nodup_stepNames : stepNames.Nodup := by
  decide +kernel

theorem TaskStep.toJson_injective : Function.Injective TaskStep.toJson := by
  intro first second same
  have fields : TaskStep.fields first = TaskStep.fields second :=
    objectOf_injective nodup_stepNames rfl rfl same
  simp only [TaskStep.fields, List.cons.injEq, Prod.mk.injEq, true_and, and_true, Option.some.injEq] at fields
  obtain ⟨id, taskId, kind, status, dependencies, capabilities, risk, retry, timeout, input, output, key⟩ :=
    fields
  cases first
  cases second
  cases idJson_injective id
  cases idJson_injective taskId
  cases kindCodec.write_injective kind
  cases statusCodec.write_injective status
  cases arr_map_injective idJson_injective dependencies
  cases arr_map_injective capabilityRefJson_injective capabilities
  cases riskCodec.write_injective risk
  cases retryPolicyJson_injective retry
  cases Option.map_injective natJson_injective timeout
  cases input
  cases output
  cases Option.map_injective str_injective key
  rfl

def evidenceNames : List JsString :=
  [js "id", js "taskId", js "stepId", js "type", js "source", js "ref", js "uri", js "digest",
    js "capturedAt", js "metadata"]

theorem nodup_evidenceNames : evidenceNames.Nodup := by
  decide +kernel

theorem Evidence.toJson_injective : Function.Injective Evidence.toJson := by
  intro first second same
  have fields : Evidence.fields first = Evidence.fields second :=
    objectOf_injective nodup_evidenceNames rfl rfl same
  simp only [Evidence.fields, List.cons.injEq, Prod.mk.injEq, true_and, and_true, Option.some.injEq] at fields
  obtain ⟨id, taskId, stepId, type, source, ref, uri, digest, captured, metadata⟩ := fields
  cases first
  cases second
  cases idJson_injective id
  cases idJson_injective taskId
  cases Option.map_injective idJson_injective stepId
  cases evidenceTypeCodec.write_injective type
  cases str_injective source
  cases Option.map_injective str_injective ref
  cases Option.map_injective str_injective uri
  cases Option.map_injective str_injective digest
  cases timestampJson_injective captured
  cases metadata
  rfl

theorem Outcome.toJson_injective : Function.Injective Outcome.toJson := by
  rintro ⟨taskId, status, results, refs, summary, completed⟩
    ⟨otherTaskId, otherStatus, otherResults, otherRefs, otherSummary, otherCompleted⟩ same
  simp only [Outcome.toJson, Json.obj.injEq, List.cons.injEq, Prod.mk.injEq, true_and, and_true,
    Json.str.injEq] at same
  obtain ⟨ids, statuses, results, refs, rfl, completions⟩ := same
  cases idJson_injective ids
  cases outcomeStatusCodec.write_injective statuses
  cases arr_map_injective acceptanceResultJson_injective results
  cases arr_map_injective idJson_injective refs
  cases timestampJson_injective completions
  rfl

def eventNames : List JsString :=
  [js "id", js "taskId", js "stepId", js "type", js "occurredAt", js "actor", js "traceId", js "payload"]

theorem nodup_eventNames : eventNames.Nodup := by
  decide +kernel

theorem TaskEvent.toJson_injective : Function.Injective TaskEvent.toJson := by
  intro first second same
  have fields : TaskEvent.fields first = TaskEvent.fields second :=
    objectOf_injective nodup_eventNames rfl rfl same
  simp only [TaskEvent.fields, List.cons.injEq, Prod.mk.injEq, true_and, and_true, Option.some.injEq] at fields
  obtain ⟨id, taskId, stepId, type, occurred, actor, trace, payload⟩ := fields
  cases first
  cases second
  cases idJson_injective id
  cases idJson_injective taskId
  cases Option.map_injective idJson_injective stepId
  cases eventTypeCodec.write_injective type
  cases timestampJson_injective occurred
  cases principalJson_injective actor
  cases idJson_injective trace
  cases payload
  rfl

end KernelJson.Contracts.Records
