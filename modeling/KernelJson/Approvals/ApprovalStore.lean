import KernelJson.Contracts.Identity
import KernelJson.Contracts.PolicyGate
import KernelJson.Foundation.JsMap
import KernelJson.Foundation.Transactions

/-!
# The approval store

`ApprovalStore.record` opens an approval beside the policy check that asks for
it; `resolve`, `cancel` and `expire` close it.  Each call is one transaction
under the advisory lock of its task: it either commits all its writes or
leaves the database as it was.
-/

namespace KernelJson.Approvals.ApprovalStore

open Contracts.Common
open Contracts.Identity
open Contracts.Platform
open Contracts.PolicyGate
open Contracts.Task
open Foundation
open Foundation.JsText
open Foundation.Transactions

/-! ## Rows -/

structure ApprovalRow where
  taskId : Id
  stepId : Id
  requestedFrom : Id
  requestedAt : Timestamp
  status : ApprovalStatus
  resolvedAt : Option Timestamp
  evidenceId : Option Id
deriving DecidableEq

/-- What the policy check of an invocation was asked with. -/
structure Ticket where
  evaluation : PolicyEvaluation
  invocation : CapabilityInvocation
  approvalId : Id

def Ticket.toJson (ticket : Ticket) : Json :=
  .obj [(js "evaluation", ticket.evaluation.toJson), (js "invocation", ticket.invocation.toJson),
    (js "approvalId", idJson ticket.approvalId)]

/-- How an approval was resolved, and by whom. -/
structure ApprovalMetadata where
  approvalId : Id
  scopeDigest : JsString
  status : ApprovalStatus
  reason : ApprovalReason
  actor : PrincipalRef
deriving DecidableEq

def ApprovalMetadata.toJson (metadata : ApprovalMetadata) : Json :=
  .obj [(js "approvalId", idJson metadata.approvalId), (js "scopeDigest", .str metadata.scopeDigest),
    (js "status", .str metadata.status.text), (js "reason", .str metadata.reason.text),
    (js "actor", principalJson metadata.actor)]

inductive EventPayload where
  | ticket (ticket : Ticket)
  | resolution (metadata : ApprovalMetadata)
  | other (payload : Json)

inductive TaskEventType where
  | policyChecked
  | approvalGranted
  | other (type : JsString)
deriving DecidableEq

structure TaskEvent where
  id : Id
  taskId : Id
  stepId : Option Id
  eventKey : JsString
  requestDigest : JsString
  type : TaskEventType
  occurredAt : Timestamp
  actorId : Id
  traceId : Id
  payload : EventPayload

inductive EvidenceMetadata where
  | approval (metadata : ApprovalMetadata)
  | other (metadata : Json)

/-- `metadata?.reason`. -/
def EvidenceMetadata.reason : EvidenceMetadata → Option ApprovalReason
  | .approval metadata => some metadata.reason
  | .other _ => none

inductive EvidenceKind where
  | humanDecision
  | deterministicResult
  | other (type : JsString)
deriving DecidableEq

structure EvidenceRow where
  id : Id
  taskId : Id
  stepId : Option Id
  type : EvidenceKind
  source : JsString
  digest : Option JsString
  capturedAt : Timestamp
  metadata : EvidenceMetadata

/-- The tables that the approval store reads and writes; rows are found under the identifier
that their `uuid` column holds. -/
structure ApprovalDb where
  clock : Timestamp
  members : Memberships
  tasks : JsMap Id Task
  steps : JsMap Id TaskStep
  approvals : JsMap Id ApprovalRow
  taskEvents : List TaskEvent
  evidence : List EvidenceRow

inductive ApprovalFault where
  /-- A contract schema rejected a value. -/
  | schema
  | approval (message : JsString)
  /-- A member of an undefined value was read. -/
  | typeError
  /-- The database refused a statement. -/
  | database (constraint : JsString)
deriving DecidableEq

/-! ## Queries -/

def policyKey (approvalId : Id) : JsString :=
  js "policy-approval:" ++ approvalId.text

def resolvedKey (approvalId : Id) : JsString :=
  js "approval:" ++ approvalId.text ++ js ":resolved"

def approvalSource : JsString := js "kerneljson:approval/v1"

namespace ApprovalDb

/-- The event of a task under a key, which the table holds once at most. -/
def eventOf (db : ApprovalDb) (taskId : Id) (key : JsString) : Option TaskEvent :=
  db.taskEvents.find? fun event => event.taskId = taskId ∧ event.eventKey = key

def evidenceOf (db : ApprovalDb) (evidenceId : Id) : Option EvidenceRow :=
  db.evidence.find? fun row => row.id = evidenceId

/-- The reason in the evidence that an approval refers to. -/
def reasonOf (db : ApprovalDb) (evidenceId : Option Id) : Option ApprovalReason :=
  (evidenceId.bind db.evidenceOf).bind fun row => row.metadata.reason

/-- The step of a task. -/
def stepOf (db : ApprovalDb) (stepId taskId : Id) : Option TaskStep :=
  (db.steps.get? stepId.column).filter fun step => step.taskId.column = taskId.column

/-- `this.member(db, tenant, actor, action)`. -/
def member (db : ApprovalDb) (tenant : Id) (actor : PrincipalRef) (action : Permission) :
    Except ApprovalFault Unit :=
  if Authorized db.members ⟨tenant, actor⟩ action then .ok ()
  else .error (.approval (js "Identity is not an authorized member of the task tenant"))

/-- An event that the primary key and the key of its task admit. -/
def insertEvent (db : ApprovalDb) (event : TaskEvent) : Except ApprovalFault ApprovalDb :=
  if db.taskEvents.any fun row => row.id = event.id then .error (.database (js "task_events_pkey"))
  else if db.taskEvents.any fun row => row.taskId = event.taskId ∧ row.eventKey = event.eventKey then
    .error (.database (js "task_events_task_id_event_key_key"))
  else .ok { db with taskEvents := db.taskEvents ++ [event] }

def insertEvidence (db : ApprovalDb) (row : EvidenceRow) : Except ApprovalFault ApprovalDb :=
  if db.evidence.any fun other => other.id = row.id then .error (.database (js "evidence_pkey"))
  else .ok { db with evidence := db.evidence ++ [row] }

end ApprovalDb

section Store

variable (platform : Platform)

/-! ## Opening an approval -/

/-- The policy check is about the persisted step of the task. -/
def MatchesStep (task : Task) (step : TaskStep) (evaluation : PolicyEvaluation)
    (request : CapabilityInvocation) : Prop :=
  task.status = .compiled ∧ step.status = .ready ∧ task.tenant.id = evaluation.scope.tenantId ∧
    capabilityDigest platform (principalJson task.principal) =
      capabilityDigest platform (principalJson evaluation.scope.principal) ∧
    task.traceId = evaluation.scope.trace.traceId ∧
    capabilityDigest platform step.input = capabilityDigest platform request.input ∧
    step.idempotencyKey = some request.idempotencyKey ∧
    capabilityDigest platform (.arr (step.requiredCapabilities.map capabilityRefJson)) =
      capabilityDigest platform (.arr [capabilityRefJson request.capability])

instance (task : Task) (step : TaskStep) (evaluation : PolicyEvaluation) (request : CapabilityInvocation) :
    Decidable (MatchesStep platform task step evaluation request) :=
  inferInstanceAs (Decidable (_ ∧ _ ∧ _ ∧ _ ∧ _ ∧ _ ∧ _ ∧ _))

def pendingRow (task : Task) (step : TaskStep) (evaluation : PolicyEvaluation) (approver : PrincipalRef) :
    ApprovalRow where
  taskId := task.id.column
  stepId := step.id.column
  requestedFrom := approver.id.column
  requestedAt := evaluation.decision.evaluatedAt
  status := .pending
  resolvedAt := none
  evidenceId := none

def insertApproval (db : ApprovalDb) (approvalId : Id) (task : Task) (step : TaskStep)
    (evaluation : PolicyEvaluation) (approver : PrincipalRef) : Except ApprovalFault ApprovalDb :=
  if (db.approvals.get? approvalId.column).isSome then .error (.database (js "approvals_pkey"))
  else
    .ok { db with
      approvals := db.approvals.set approvalId.column (pendingRow task step evaluation approver) }

/-- The approval that a decision asks for. -/
def openApproval (db : ApprovalDb) (approvalId : Id) (task : Task) (step : TaskStep)
    (evaluation : PolicyEvaluation) : Except ApprovalFault ApprovalDb :=
  if evaluation.decision.decision = .approvalRequired then
    match evaluation.approver with
    | none => .error .typeError
    | some approver => do
        db.member task.tenant.id approver .approve
        insertApproval db approvalId task step evaluation approver
  else .ok db

def policyEvent (task : Task) (step : TaskStep) (ticket : Ticket) (digest : JsString) : TaskEvent where
  id := ticket.evaluation.decision.id.column
  taskId := task.id.column
  stepId := some step.id.column
  eventKey := policyKey ticket.approvalId
  requestDigest := digest
  type := .policyChecked
  occurredAt := ticket.evaluation.decision.evaluatedAt
  actorId := task.principal.id.column
  traceId := task.traceId.column
  payload := .ticket ticket

/-- `z.parse` of a value that may be undefined. -/
def parsed {α : Type} (value : Option α) : Except ApprovalFault α :=
  match value with
  | none => .error .schema
  | some value => .ok value

/-- The transaction of `record`, when no event stands under its key. -/
def recordNew (db : ApprovalDb) (ticket : Ticket) (digest : JsString) : Except ApprovalFault ApprovalDb := do
  let task ← parsed ((db.tasks.get? ticket.evaluation.scope.taskId.column).bind Task.parse)
  let step ← parsed ((db.stepOf ticket.evaluation.scope.stepId task.id).bind TaskStep.parse)
  if MatchesStep platform task step ticket.evaluation ticket.invocation then
    db.member task.tenant.id task.principal .submit
    let opened ← openApproval db ticket.approvalId task step ticket.evaluation
    opened.insertEvent (policyEvent task step ticket digest)
  else .error (.approval (js "Policy does not match persisted task step"))

/-- `record(evaluation, invocation, approvalId)`. -/
def record (db : ApprovalDb) (evaluation : PolicyEvaluation) (invocation : CapabilityInvocation)
    (approvalId : Id) : Except ApprovalFault ApprovalDb := do
  let e ← parsed evaluation.parse
  let request ← parsed invocation.parse
  if e.scopeDigest ≠ capabilityDigest platform e.scope.toJson ∨
      e.scope.invocationDigest ≠ capabilityDigest platform request.toJson then
    .error (.approval (js "Invalid policy scope"))
  else
    let ticket : Ticket := ⟨e, request, approvalId⟩
    let digest := capabilityDigest platform ticket.toJson
    match db.eventOf e.scope.taskId.column (policyKey approvalId) with
    | some prior =>
        if prior.requestDigest ≠ digest then .error (.approval (js "Policy idempotency conflict")) else .ok db
    | none => recordNew platform db ticket digest

/-! ## Closing an approval -/

/-- `ticket(db, id)`: the evaluation that an approval was opened with, and how it stands. -/
def ticket (db : ApprovalDb) (id : Id) : Except ApprovalFault (PolicyEvaluation × ApprovalResolution) :=
  match db.approvals.get? id.column with
  | none => .error (.approval (js "Unknown approval"))
  | some row =>
      match db.eventOf row.taskId (policyKey id.column) with
      | none => .error (.approval (js "Unknown approval"))
      | some event =>
          match event.payload with
          | .ticket stored => do
              let evaluation ← parsed stored.evaluation.parse
              let _ ← parsed stored.invocation.parse
              let expiresAt ← parsed evaluation.expiresAt
              .ok (evaluation,
                { approvalId := id
                  scopeDigest := evaluation.scopeDigest
                  status := row.status
                  expiresAt := expiresAt
                  evidenceId := row.evidenceId
                  reason := db.reasonOf row.evidenceId })
          | _ => .error .schema

inductive Action where
  | granted
  | denied
  | cancel
  | expire
deriving DecidableEq

def Answered.action : Answered → Action
  | .granted => .granted
  | .denied => .denied

/-- Who called `finish`, and with which scope digest; an expiry names nobody. -/
structure Caller where
  actor : Option PrincipalRef
  scopeDigest : Option JsString

/-- The identity and scope of the caller are those of the ticket. -/
def checkCaller (db : ApprovalDb) (evaluation : PolicyEvaluation) (action : Action) (caller : Caller) :
    Except ApprovalFault Unit :=
  if action = .expire then .ok ()
  else
    match if action = .cancel then some evaluation.scope.principal else evaluation.approver with
    | none => .error .typeError
    | some expected =>
        match caller.actor with
        | none => .error (.approval (js "Approval identity or scope mismatch"))
        | some actor =>
            if actor ≠ expected ∨ (action ≠ .cancel ∧ caller.scopeDigest ≠ some evaluation.scopeDigest) then
              .error (.approval (js "Approval identity or scope mismatch"))
            else db.member evaluation.scope.tenantId actor (if action = .cancel then .cancel else .approve)

/-- The status that a resolution commits. -/
def resolvedStatus (expired cancelled : Bool) (action : Action) : ApprovalStatus :=
  if expired then .expired
  else if cancelled then .denied
  else if action = .granted then .granted
  else .denied

def resolvedReason (expired cancelled : Bool) : ApprovalReason :=
  if expired then .expired else if cancelled then .cancelled else .human

def evidenceRow (evaluation : PolicyEvaluation) (metadata : ApprovalMetadata) (digest : JsString)
    (evidenceId : Id) (at_ : Timestamp) : EvidenceRow where
  id := evidenceId.column
  taskId := evaluation.scope.taskId.column
  stepId := some evaluation.scope.stepId.column
  type := if metadata.reason = .human then .humanDecision else .deterministicResult
  source := approvalSource
  digest := some digest
  capturedAt := at_
  metadata := .approval metadata

def resolvedEvent (evaluation : PolicyEvaluation) (metadata : ApprovalMetadata) (digest : JsString)
    (eventId : Id) (at_ : Timestamp) : TaskEvent where
  id := eventId.column
  taskId := evaluation.scope.taskId.column
  stepId := some evaluation.scope.stepId.column
  eventKey := resolvedKey metadata.approvalId
  requestDigest := digest
  type := if metadata.status = .granted then .approvalGranted else .policyChecked
  occurredAt := at_
  actorId := metadata.actor.id.column
  traceId := evaluation.scope.trace.traceId.column
  payload := .resolution metadata

def ApprovalRow.resolve (row : ApprovalRow) (status : ApprovalStatus) (at_ : Timestamp) (evidenceId : Id) :
    ApprovalRow :=
  { row with status := status, resolvedAt := some at_, evidenceId := some evidenceId.column }

/-- `update approvals`, under the check that a resolution does not precede its request. -/
def updateApproval (db : ApprovalDb) (id : Id) (status : ApprovalStatus) (at_ : Timestamp) (evidenceId : Id) :
    Except ApprovalFault ApprovalDb :=
  match db.approvals.get? id.column with
  | none => .ok db
  | some row =>
      if at_.ms < row.requestedAt.ms then .error (.database (js "approvals_check"))
      else .ok { db with approvals := db.approvals.set id.column (row.resolve status at_ evidenceId) }

/-- The three writes of a resolution. -/
def commitResolution (db : ApprovalDb) (evaluation : PolicyEvaluation) (metadata : ApprovalMetadata)
    (evidenceId eventId : Id) : Except ApprovalFault ApprovalDb := do
  let digest := capabilityDigest platform metadata.toJson
  let evidenced ← db.insertEvidence (evidenceRow evaluation metadata digest evidenceId db.clock)
  let updated ← updateApproval evidenced metadata.approvalId metadata.status db.clock evidenceId
  updated.insertEvent (resolvedEvent evaluation metadata digest eventId db.clock)

def taskStatus (db : ApprovalDb) (evaluation : PolicyEvaluation) : Option TaskStatus :=
  (db.tasks.get? evaluation.scope.taskId.column).map (·.status)

def isExpired (db : ApprovalDb) (resolution : ApprovalResolution) : Bool :=
  resolution.expiresAt.ms ≤ db.clock.ms

def isCancelled (db : ApprovalDb) (evaluation : PolicyEvaluation) (action : Action) : Bool :=
  action = .cancel ∨ taskStatus db evaluation = some .cancelled

/-- The task waits for the authorization. -/
def IsAwaiting (db : ApprovalDb) (evaluation : PolicyEvaluation) : Prop :=
  taskStatus db evaluation = some .compiled ∨ taskStatus db evaluation = some .approvalRequired

instance (db : ApprovalDb) (evaluation : PolicyEvaluation) : Decidable (IsAwaiting db evaluation) :=
  inferInstanceAs (Decidable (_ ∨ _))

/-- How an action resolves a pending approval now. -/
def resolutionMetadata (db : ApprovalDb) (id : Id) (evaluation : PolicyEvaluation)
    (resolution : ApprovalResolution) (action : Action) (caller : Caller) : ApprovalMetadata where
  approvalId := id
  scopeDigest := evaluation.scopeDigest
  status := resolvedStatus (isExpired db resolution) (isCancelled db evaluation action) action
  reason := resolvedReason (isExpired db resolution) (isCancelled db evaluation action)
  actor := caller.actor.getD evaluation.scope.principal

/-- The resolution that a call returns after it committed one. -/
def ApprovalResolution.resolve (resolution : ApprovalResolution) (metadata : ApprovalMetadata)
    (evidenceId : Id) : ApprovalResolution :=
  { resolution with
    status := metadata.status
    evidenceId := some evidenceId
    reason := some metadata.reason }

/-- The resolution of a pending approval, unless an expiry comes too early. -/
def resolvePending (db : ApprovalDb) (id : Id) (evaluation : PolicyEvaluation)
    (resolution : ApprovalResolution) (action : Action) (caller : Caller) (evidenceId eventId : Id) :
    Except ApprovalFault (ApprovalResolution × ApprovalDb) :=
  if action = .expire ∧ isExpired db resolution = false then .ok (resolution, db)
  else if isCancelled db evaluation action = false ∧ ¬ IsAwaiting db evaluation then
    .error (.approval (js "Task is not awaiting authorization"))
  else do
    let metadata := resolutionMetadata db id evaluation resolution action caller
    let after ← commitResolution platform db evaluation metadata evidenceId eventId
    .ok (ApprovalResolution.resolve resolution metadata evidenceId, after)

/-- `finish(id, action, actor, scopeDigest, evidenceId, eventId)`. -/
def finish (db : ApprovalDb) (id : Id) (action : Action) (caller : Caller) (evidenceId eventId : Id) :
    Except ApprovalFault (ApprovalResolution × ApprovalDb) := do
  let (evaluation, resolution) ← ticket db id
  checkCaller db evaluation action caller
  if resolution.status ≠ .pending then .ok (resolution, db)
  else resolvePending platform db id evaluation resolution action caller evidenceId eventId

/-! ## Calls -/

inductive Call where
  | record (evaluation : PolicyEvaluation) (invocation : CapabilityInvocation) (approvalId : Id)
  | resolve (id : Id) (answer : ApprovalAnswer) (actor : PrincipalRef) (evidenceId eventId : Id)
  | cancel (id : Id) (actor : PrincipalRef) (evidenceId eventId : Id)
  | expire (id : Id) (evidenceId eventId : Id)

/-- What a call returns; `record` returns nothing. -/
def run (db : ApprovalDb) : Call → Except ApprovalFault (Option ApprovalResolution × ApprovalDb)
  | .record evaluation invocation approvalId =>
      (record platform db evaluation invocation approvalId).map fun after => (none, after)
  | .resolve id answer actor evidenceId eventId =>
      (finish platform db id (Answered.action answer.decision) ⟨some actor, some answer.scopeDigest⟩ evidenceId
        eventId).map fun returned => (some returned.1, returned.2)
  | .cancel id actor evidenceId eventId =>
      (finish platform db id .cancel ⟨some actor, none⟩ evidenceId eventId).map fun returned =>
        (some returned.1, returned.2)
  | .expire id evidenceId eventId =>
      (finish platform db id .expire ⟨none, none⟩ evidenceId eventId).map fun returned =>
        (some returned.1, returned.2)

/-- A transaction that throws is rolled back. -/
def perform (db : ApprovalDb) (call : Call) : Except ApprovalFault (Option ApprovalResolution) × ApprovalDb :=
  commit (fun before => run platform before call) db

end Store

end KernelJson.Approvals.ApprovalStore
