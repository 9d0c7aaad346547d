import KernelJson.Contracts.Platform
import KernelJson.Contracts.Task
import KernelJson.Scheduler.CivilTime

/-!
# Policy decisions and approvals

The schemas of policy evaluations, capability invocations and approvals, with
the JSON values that their digests are taken of.
-/

namespace KernelJson.Contracts.PolicyGate

open Contracts.Common
open Contracts.Platform
open Contracts.Task
open Foundation
open Foundation.JsText
open Scheduler.CivilTime

/-! ## References -/

structure TraceRef where
  traceId : Id
  correlationId : Id
  spanId : Option JsString
deriving DecidableEq

def TraceRef.parse (trace : TraceRef) : Option TraceRef := do
  let spanId ← parseOptional parseText trace.spanId
  some { trace with spanId := spanId }

def idJson (id : Id) : Json := .str id.text

def timestampJson (timestamp : Timestamp) : Json := .str (toISOString timestamp.ms)

/-- A field of an object, left out when the value is undefined. -/
def optionalField {α : Type} (name : String) (write : α → Json) : Option α → List (JsString × Json)
  | none => []
  | some value => [(js name, write value)]

def principalKindText : PrincipalKind → JsString
  | .human => js "HUMAN"
  | .service => js "SERVICE"

def principalJson (principal : PrincipalRef) : Json :=
  .obj [(js "id", idJson principal.id), (js "kind", .str (principalKindText principal.kind))]

def traceJson (trace : TraceRef) : Json :=
  .obj ([(js "traceId", idJson trace.traceId), (js "correlationId", idJson trace.correlationId)] ++
    optionalField "spanId" .str trace.spanId)

def capabilityRefJson (ref : CapabilityRef) : Json :=
  .obj [(js "id", idJson ref.id), (js "version", .str ref.version)]

/-! ## Invocations -/

structure CapabilityInvocation where
  runId : Id
  taskId : Id
  stepId : Id
  trace : TraceRef
  capability : CapabilityRef
  idempotencyKey : JsString
  input : Json

/-- `CapabilityInvocation.parse`. -/
def CapabilityInvocation.parse (request : CapabilityInvocation) : Option CapabilityInvocation := do
  let trace ← request.trace.parse
  let capability ← request.capability.parse
  let idempotencyKey ← parseText request.idempotencyKey
  if idempotencyKey.length ≤ 256 then
    some { request with trace := trace, capability := capability, idempotencyKey := idempotencyKey }
  else none

def CapabilityInvocation.toJson (request : CapabilityInvocation) : Json :=
  .obj [(js "runId", idJson request.runId), (js "taskId", idJson request.taskId),
    (js "stepId", idJson request.stepId), (js "trace", traceJson request.trace),
    (js "capability", capabilityRefJson request.capability),
    (js "idempotencyKey", .str request.idempotencyKey), (js "input", request.input)]

/-! ## Evaluations -/

inductive Decision where
  | allow
  | deny
  | approvalRequired
deriving DecidableEq

def Decision.text : Decision → JsString
  | .allow => js "ALLOW"
  | .deny => js "DENY"
  | .approvalRequired => js "APPROVAL_REQUIRED"

structure PolicyDecision where
  id : Id
  taskId : Id
  stepId : Option Id
  capability : CapabilityRef
  decision : Decision
  reasonCode : JsString
  evaluatedAt : Timestamp
  policyVersion : JsString
deriving DecidableEq

def PolicyDecision.parse (decision : PolicyDecision) : Option PolicyDecision := do
  let capability ← decision.capability.parse
  let reasonCode ← parseText decision.reasonCode
  let policyVersion ← parseText decision.policyVersion
  some { decision with capability := capability, reasonCode := reasonCode, policyVersion := policyVersion }

def PolicyDecision.toJson (decision : PolicyDecision) : Json :=
  .obj ([(js "id", idJson decision.id), (js "taskId", idJson decision.taskId)] ++
    optionalField "stepId" idJson decision.stepId ++
    [(js "capability", capabilityRefJson decision.capability), (js "decision", .str decision.decision.text),
      (js "reasonCode", .str decision.reasonCode), (js "evaluatedAt", timestampJson decision.evaluatedAt),
      (js "policyVersion", .str decision.policyVersion)])

structure PolicyScope where
  taskId : Id
  stepId : Id
  tenantId : Id
  principal : PrincipalRef
  trace : TraceRef
  capability : CapabilityRef
  invocationDigest : JsString
  descriptorDigest : JsString
  policyVersion : JsString
deriving DecidableEq

def PolicyScope.parse (scope : PolicyScope) : Option PolicyScope := do
  let trace ← scope.trace.parse
  let capability ← scope.capability.parse
  if isSha256Text scope.invocationDigest = true ∧ isSha256Text scope.descriptorDigest = true ∧
      scope.policyVersion ≠ [] then
    some { scope with trace := trace, capability := capability }
  else none

def PolicyScope.toJson (scope : PolicyScope) : Json :=
  .obj [(js "taskId", idJson scope.taskId), (js "stepId", idJson scope.stepId),
    (js "tenantId", idJson scope.tenantId), (js "principal", principalJson scope.principal),
    (js "trace", traceJson scope.trace), (js "capability", capabilityRefJson scope.capability),
    (js "invocationDigest", .str scope.invocationDigest),
    (js "descriptorDigest", .str scope.descriptorDigest), (js "policyVersion", .str scope.policyVersion)]

structure PolicyEvaluation where
  decision : PolicyDecision
  scope : PolicyScope
  scopeDigest : JsString
  approver : Option PrincipalRef
  expiresAt : Option Timestamp
deriving DecidableEq

/-- An approval has a human approver and a deadline after the evaluation; other decisions have
neither. -/
def PolicyEvaluation.ApprovalFields (evaluation : PolicyEvaluation) : Prop :=
  (evaluation.decision.decision = .approvalRequired →
    (∃ approver ∈ evaluation.approver, approver.kind = .human) ∧
      ∃ expiresAt ∈ evaluation.expiresAt, evaluation.decision.evaluatedAt.ms < expiresAt.ms) ∧
  (evaluation.decision.decision ≠ .approvalRequired →
    evaluation.approver = none ∧ evaluation.expiresAt = none)

instance (evaluation : PolicyEvaluation) : Decidable evaluation.ApprovalFields :=
  inferInstanceAs (Decidable ((_ → _) ∧ (_ → _)))

/-- The refinements of the evaluation schema. -/
def PolicyEvaluation.Refined (evaluation : PolicyEvaluation) : Prop :=
  evaluation.decision.taskId = evaluation.scope.taskId ∧
    evaluation.decision.stepId = some evaluation.scope.stepId ∧
    evaluation.decision.policyVersion = evaluation.scope.policyVersion ∧
    evaluation.decision.capability = evaluation.scope.capability ∧ evaluation.ApprovalFields

instance (evaluation : PolicyEvaluation) : Decidable evaluation.Refined :=
  inferInstanceAs (Decidable (_ ∧ _ ∧ _ ∧ _ ∧ _))

/-- `PolicyEvaluation.parse`. -/
def PolicyEvaluation.parse (evaluation : PolicyEvaluation) : Option PolicyEvaluation := do
  let decision ← evaluation.decision.parse
  let scope ← evaluation.scope.parse
  let parsed := { evaluation with decision := decision, scope := scope }
  if isSha256Text evaluation.scopeDigest = true ∧ parsed.Refined then some parsed else none

def PolicyEvaluation.toJson (evaluation : PolicyEvaluation) : Json :=
  .obj ([(js "decision", evaluation.decision.toJson), (js "scope", evaluation.scope.toJson),
      (js "scopeDigest", .str evaluation.scopeDigest)] ++
    optionalField "approver" principalJson evaluation.approver ++
    optionalField "expiresAt" timestampJson evaluation.expiresAt)

/-- Reading an evaluation trims texts of its decision and scope, and leaves the rest as it is. -/
theorem PolicyEvaluation.parse_keeps {evaluation parsed : PolicyEvaluation}
    (read : evaluation.parse = some parsed) :
    parsed.approver = evaluation.approver ∧ parsed.scope.taskId = evaluation.scope.taskId ∧
      parsed.scope.tenantId = evaluation.scope.tenantId := by
  simp only [PolicyEvaluation.parse, PolicyScope.parse, Option.bind_eq_bind, Option.bind_eq_some_iff] at read
  obtain ⟨decision, -, scope, ⟨trace, -, capability, -, digested⟩, accepted⟩ := read
  split at digested
  · cases digested
    split at accepted
    · cases accepted
      exact ⟨rfl, rfl, rfl⟩
    · cases accepted
  · cases digested

theorem PolicyEvaluation.parse_refined {evaluation parsed : PolicyEvaluation}
    (read : evaluation.parse = some parsed) : parsed.Refined := by
  simp only [PolicyEvaluation.parse, Option.bind_eq_bind, Option.bind_eq_some_iff] at read
  obtain ⟨decision, -, scope, -, accepted⟩ := read
  split at accepted
  · next holds =>
      cases accepted
      exact holds.2
  · cases accepted

/-- Only an approval names an approver, and it names a human. -/
theorem PolicyEvaluation.Refined.approver {evaluation : PolicyEvaluation} (refined : evaluation.Refined)
    {approver : PrincipalRef} (named : evaluation.approver = some approver) :
    evaluation.decision.decision = .approvalRequired ∧ approver.kind = .human := by
  have fields := refined.2.2.2.2
  by_cases required : evaluation.decision.decision = .approvalRequired
  · obtain ⟨⟨other, member, human⟩, -⟩ := fields.1 required
    rw [named, Option.mem_def, Option.some.injEq] at member
    exact ⟨required, member ▸ human⟩
  · have absent := (fields.2 required).1
    rw [named] at absent
    cases absent

/-! ## Approvals -/

inductive Answered where
  | granted
  | denied
deriving DecidableEq

structure ApprovalAnswer where
  scopeDigest : JsString
  decision : Answered
  digest : isSha256Text scopeDigest = true
deriving DecidableEq

inductive ApprovalStatus where
  | pending
  | granted
  | denied
  | expired
deriving DecidableEq

def ApprovalStatus.text : ApprovalStatus → JsString
  | .pending => js "PENDING"
  | .granted => js "GRANTED"
  | .denied => js "DENIED"
  | .expired => js "EXPIRED"

inductive ApprovalReason where
  | human
  | expired
  | cancelled
deriving DecidableEq

def ApprovalReason.text : ApprovalReason → JsString
  | .human => js "HUMAN"
  | .expired => js "EXPIRED"
  | .cancelled => js "CANCELLED"

structure ApprovalResolution where
  approvalId : Id
  scopeDigest : JsString
  status : ApprovalStatus
  expiresAt : Timestamp
  evidenceId : Option Id
  reason : Option ApprovalReason
deriving DecidableEq

end KernelJson.Contracts.PolicyGate
