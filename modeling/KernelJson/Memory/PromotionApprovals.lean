import KernelJson.Approvals.ApprovalStore
import KernelJson.Approvals.Evaluation
import KernelJson.Foundation.Programs
import KernelJson.Ledger.Store
import KernelJson.Memory.Tables

/-!
# The approval of a promotion

`PromotionApprovals.request` expresses a promotion that needs an approval as a
task with one step, and records the policy evaluation that asks a named human
for it; `submit` then records the candidate that waits for the answer.  Each
commit is followed by a point at which the process may end.
-/

namespace KernelJson.Memory.PromotionApprovals

open Approvals.ApprovalStore (ApprovalDb ApprovalFault ApprovalRow EvidenceRow)
open Approvals.Evaluation
open Contracts.Common
open Contracts.Digest
open Contracts.Identity
open Contracts.Platform
open Contracts.PolicyGate
open Contracts.Records
open Contracts.Task
open Foundation
open Foundation.JsText
open Foundation.Programs
open Ledger.Store (Db EventRow Surroundings Write)
open Memory.Policy
open Memory.Service
open Memory.Tables

/-! ## The database -/

/-- The tables of the ledger, of the approval store and of canonical memory. -/
structure World where
  ledger : Db
  approvals : JsMap Id ApprovalRow
  policyEvents : List Approvals.ApprovalStore.TaskEvent
  evidence : List EvidenceRow
  memory : MemoryState

/-- The rows of a table under their identifiers. -/
def tableOf {Row : Type} (key : Row → Id) (rows : List Row) : JsMap Id Row :=
  rows.foldr (fun row table => table.set (key row) row) .empty

/-- An event of the ledger, as the approval store finds it in `task_events`. -/
def storedEvent (row : EventRow) : Approvals.ApprovalStore.TaskEvent where
  id := row.id
  taskId := row.taskId
  stepId := row.stepId
  eventKey := row.key
  requestDigest := hexText row.requestDigest
  type := .other ((eventTypeCodec.write row.type).asString?.getD [])
  occurredAt := row.occurredAt
  actorId := row.actorId
  traceId := row.traceId
  payload := .other row.payload

/-- The database as the approval store sees it. -/
def World.view (world : World) (clock : Timestamp) : ApprovalDb where
  clock := clock
  members := world.memory.members
  tasks := tableOf Task.id world.ledger.tasks
  steps := tableOf TaskStep.id world.ledger.steps
  approvals := world.approvals
  taskEvents := world.ledger.events.map storedEvent ++ world.policyEvents
  evidence := world.evidence

/-! ## Writes of the memory tables -/

instance (origin : MemoryOrigin) : Decidable (Trusted origin) := inferInstanceAs (Decidable (_ ∨ _))

instance : DecidablePred Allows
  | .decided .allow | .allowApproved => .isTrue trivial
  | .decided .requireApproval | .decided .hold | .decided .refuse | .rejectApproval => .isFalse id

instance : DecidablePred NeedsApproval
  | .decided .requireApproval | .allowApproved | .rejectApproval => .isTrue trivial
  | .decided .allow | .decided .hold | .decided .refuse => .isFalse id

instance (tables : MemoryState) (row : CandidateRow) : Decidable (CandidateFits tables row) :=
  decidable_of_iff ((∀ other ∈ tables.candidates, other.id ≠ row.id) ∧
      (∀ other ∈ tables.candidates, other.tenantId = row.tenantId → other.idempotencyKey ≠ row.idempotencyKey) ∧
      (row.intent = .new ↔ row.targetMemoryId = none) ∧
      (row.state = .awaitingApproval → row.approvalId ≠ none) ∧ (row.state = .promoted → Trusted row.origin))
    ⟨fun ⟨fresh, key, targeted, awaiting, promoted⟩ => ⟨fresh, key, targeted, awaiting, promoted⟩,
      fun fits => ⟨fits.fresh, fits.key, fits.targeted, fits.awaiting, fits.promoted⟩⟩

instance (tables : MemoryState) (row : PromotionRow) : Decidable (PromotionFits tables row) :=
  decidable_of_iff ((∀ other ∈ tables.promotions, other.id ≠ row.id) ∧
      (Allows row.decision ↔ row.resultMemoryId ≠ none ∧ row.resultVersion ≠ none) ∧
      (NeedsApproval row.decision → row.approvalId ≠ none) ∧
      (row.resultMemoryId ≠ none →
        ∀ other ∈ tables.promotions, other.candidateId = row.candidateId → other.resultMemoryId = none) ∧
      ∃ found ∈ tables.candidates, found.id = row.candidateId ∧ found.tenantId = row.tenantId ∧
        (Allows row.decision → Trusted found.origin))
    ⟨fun ⟨fresh, named, approved, single, candidate⟩ => ⟨fresh, named, approved, single, candidate⟩,
      fun fits => ⟨fits.fresh, fits.named, fits.approved, fits.single, fits.candidate⟩⟩

instance (promotion : PromotionRow) (row : VersionRow) : Decidable (Names promotion row) :=
  decidable_of_iff (promotion.id = row.promotionId ∧ Allows promotion.decision ∧
      promotion.tenantId = row.tenantId ∧ promotion.candidateId = row.candidateId ∧
      promotion.resultMemoryId = some row.memoryId ∧ promotion.resultVersion = some row.version)
    ⟨fun ⟨id, allows, tenant, candidate, memory, version⟩ => ⟨id, allows, tenant, candidate, memory, version⟩,
      fun names => ⟨names.id, names.allows, names.tenant, names.candidate, names.memory, names.version⟩⟩

instance (before row : VersionRow) : Decidable (Follows before row) :=
  decidable_of_iff (before.memoryId = row.memoryId ∧ before.version + 1 = row.version ∧
      before.tenantId = row.tenantId ∧ before.class_ = row.class_ ∧ before.subject = row.subject ∧
      before.kind ≠ .retract)
    ⟨fun ⟨memory, next, tenant, class_, subject, asserted⟩ => ⟨memory, next, tenant, class_, subject, asserted⟩,
      fun follows => ⟨follows.memory, follows.next, follows.tenant, follows.class_, follows.subject,
        follows.asserted⟩⟩

instance (tables : MemoryState) (row : VersionRow) : Decidable (VersionFits tables row) :=
  decidable_of_iff ((∀ other ∈ tables.versions, other.memoryId = row.memoryId → other.version ≠ row.version) ∧
      (∀ other ∈ tables.versions, other.promotionId ≠ row.promotionId) ∧ 1 ≤ row.version ∧
      (row.version = 1 ↔ row.supersedesVersion = none) ∧ (row.kind = .retract → 1 < row.version) ∧
      (∃ found ∈ tables.promotions, Names found row) ∧
      (1 < row.version → ∃ before ∈ tables.versions, Follows before row))
    ⟨fun ⟨fresh, promotion, positive, first, retracts, promoted, follows⟩ =>
        ⟨fresh, promotion, positive, first, retracts, promoted, follows⟩,
      fun fits => ⟨fits.fresh, fits.promotion, fits.positive, fits.first, fits.retracts, fits.promoted,
        fits.follows⟩⟩

instance (tables : MemoryState) (row : RelationRow) : Decidable (RelationFits tables row) :=
  decidable_of_iff ((∀ other ∈ tables.relations, other.id ≠ row.id) ∧ row.fromMemory ≠ row.toMemory ∧
      (∀ other ∈ tables.relations, other.fromMemory = row.fromMemory → other.toMemory ≠ row.toMemory) ∧
      (∀ version ∈ tables.versions,
        version.memoryId = row.fromMemory ∨ version.memoryId = row.toMemory → version.tenantId = row.tenantId) ∧
      (∃ version ∈ tables.versions, version.memoryId = row.fromMemory) ∧
      (∃ version ∈ tables.versions, version.memoryId = row.toMemory) ∧
      ∃ found ∈ tables.promotions, found.id = row.createdByPromotionId ∧ Allows found.decision ∧
        found.tenantId = row.tenantId ∧ found.resultMemoryId = some row.fromMemory)
    ⟨fun ⟨fresh, apart, unique, ofTenant, source, target, promoted⟩ =>
        ⟨fresh, apart, unique, ofTenant, source, target, promoted⟩,
      fun fits => ⟨fits.fresh, fits.apart, fits.unique, fits.ofTenant, fits.source, fits.target, fits.promoted⟩⟩

/-- The rows enter one after another, unless one does not fit. -/
def insertAll {Row : Type} (fits : MemoryState → Row → Prop) [∀ tables row, Decidable (fits tables row)]
    (put : MemoryState → Row → MemoryState) : List Row → MemoryState → Option MemoryState
  | [], tables => some tables
  | row :: rest, tables => if fits tables row then insertAll fits put rest (put tables row) else none

theorem insertAll_iff {Row : Type} {fits : MemoryState → Row → Prop} [∀ tables row, Decidable (fits tables row)]
    {put : MemoryState → Row → MemoryState} {rows : List Row} {tables after : MemoryState} :
    insertAll fits put rows tables = some after ↔ Inserted fits put rows tables after := by
  induction rows generalizing tables with
  | nil =>
      refine ⟨?_, ?_⟩
      · rintro ⟨⟩
        exact .nil _
      · rintro ⟨⟩
        rfl
  | cons row rest ih =>
      unfold insertAll
      split
      · next fit =>
          rw [ih]
          refine ⟨fun later => .cons fit later, fun inserted => ?_⟩
          cases inserted with
          | cons _ later => exact later
      · next unfit =>
          refine ⟨fun made => (by cases made), fun inserted => ?_⟩
          cases inserted with
          | cons fit _ => exact absurd fit unfit

/-- The writes of one transaction, unless a guard refuses one. -/
def commitWrites (writes : Writes) (tables : MemoryState) : Option MemoryState := do
  let recorded ← insertAll CandidateFits putCandidate writes.candidates tables
  let decided ← insertAll PromotionFits putPromotion writes.promotions recorded
  let versioned ← insertAll VersionFits putVersion writes.versions decided
  insertAll RelationFits putRelation writes.relations versioned

theorem commitWrites_iff {writes : Writes} {tables after : MemoryState} :
    commitWrites writes tables = some after ↔ Committed tables writes after := by
  simp only [commitWrites, Option.bind_eq_bind, Option.bind_eq_some_iff, insertAll_iff]
  refine ⟨?_, ?_⟩
  · rintro ⟨recorded, first, decided, second, versioned, third, fourth⟩
    exact ⟨recorded, decided, versioned, first, second, third, fourth⟩
  · rintro ⟨recorded, decided, versioned, first, second, third, fourth⟩
    exact ⟨recorded, first, decided, second, versioned, third, fourth⟩

/-! ## The request -/

structure PromotionApprovalConfig where
  approver : PrincipalRef
  ttlMs : Nat

structure PromotionRequest where
  tenantId : Id
  candidateId : Id
  candidateDigest : JsString
  submitter : PrincipalRef

theorem isUuid_memoryPromote : isUuid (js "60000000-0000-4000-8000-0000000000a1") = true := by
  decide +kernel

def memoryPromote : CapabilityRef :=
  ⟨⟨js "60000000-0000-4000-8000-0000000000a1", isUuid_memoryPromote⟩, js "1.0.0"⟩

/-- What a process draws for one request: its clock, and the random identifiers. -/
structure Draw where
  evaluatedAt : Timestamp
  runId : Id
  createdEvent : Id
  compiledEvent : Id
  decisionId : Id
  recordedAt : Timestamp

section Request

variable (platform : Platform)

/-- `stableId([kind, tenantId, candidateId])`. -/
def derivedId (kind : String) (request : PromotionRequest) : Id :=
  stableId platform.sha256
    (.arr [.str (js kind), .str request.tenantId.text, .str request.candidateId.text])

def approvalId (request : PromotionRequest) : Id := derivedId platform "memory-approval/v1" request

def taskId (request : PromotionRequest) : Id := derivedId platform "memory-promotion-task/v1" request

def traceId (request : PromotionRequest) : Id := derivedId platform "memory-promotion-trace/v1" request

def stepId (request : PromotionRequest) : Id := derivedId platform "memory-promotion-step/v1" request

def promotionInvocation (request : PromotionRequest) (runId : Id) : CapabilityInvocation where
  runId := runId
  taskId := taskId platform request
  stepId := stepId platform request
  trace := ⟨traceId platform request, taskId platform request, none⟩
  capability := memoryPromote
  idempotencyKey := js "memory-promote-" ++ request.candidateId.text
  input := .obj [(js "candidateId", idJson request.candidateId),
    (js "candidateDigest", .str request.candidateDigest)]

def promotionTask (request : PromotionRequest) (createdAt : Timestamp) : Task where
  id := taskId platform request
  parentTaskId := none
  principal := request.submitter
  tenant := ⟨request.tenantId⟩
  objective := js "Promote memory candidate " ++ request.candidateId.text
  acceptanceCriteria :=
    [js "The candidate is promoted only after the named approver grants this exact promotion"]
  constraints := []
  riskClass := .low
  budget := none
  deadline := none
  status := .received
  traceId := traceId platform request
  createdAt := createdAt
  startedAt := none
  completedAt := none

def promotionStep (request : PromotionRequest) (invocation : CapabilityInvocation) : TaskStep where
  id := stepId platform request
  taskId := taskId platform request
  kind := .deterministicFunction
  status := .ready
  dependencies := []
  requiredCapabilities := [memoryPromote]
  riskClass := .low
  retryPolicy := ⟨1, 0⟩
  timeout := none
  input := invocation.input
  output := none
  idempotencyKey := some invocation.idempotencyKey

/-- The metadata of the capability, as its descriptor digests it. -/
def promoteMetadata : Json :=
  .obj [(js "id", idJson memoryPromote.id), (js "version", .str memoryPromote.version),
    (js "description",
      .str (js "Promote one memory candidate to canonical memory, after the named human approves this exact candidate")),
    (js "inputSchemaRef", .str (js "kerneljson:memory-promote-input/v1")),
    (js "outputSchemaRef", .str (js "kerneljson:memory-promote-output/v1")), (js "riskClass", .str (js "LOW")),
    (js "permissions", .arr []), (js "implementationType", .str (js "DETERMINISTIC")),
    (js "verificationRequirements", .arr [.str (js "approved-promotion/v1")])]

/-- `registry.describe(MEMORY_PROMOTE)`, with the JSON schemas that the platform derives for its input and output. -/
def promoteDescriptor (inputSchema outputSchema : Json) : CapabilityDescriptor where
  ref := memoryPromote
  riskClass := .low
  permissions := []
  implementationType := .deterministic
  digest := capabilityDigest platform (.obj [(js "metadata", promoteMetadata), (js "inputSchema", inputSchema),
    (js "outputSchema", outputSchema)])

def promotionRules (config : PromotionApprovalConfig) (request : PromotionRequest) : PolicyRules where
  version := js "kj-memory-approval-policy/1"
  rules := [⟨request.tenantId, request.submitter.id, memoryPromote, .approvalRequired, some config.approver,
    some config.ttlMs⟩]

def promotionEvent (request : PromotionRequest) (id : Id) (type : TaskEventType) (occurredAt : Timestamp) :
    TaskEvent where
  id := id
  taskId := taskId platform request
  stepId := none
  type := type
  occurredAt := occurredAt
  actor := request.submitter
  traceId := traceId platform request
  payload := .obj []

/-- `{ key: "create", task, event: event("TASK_CREATED") }`. -/
def createWrite (request : PromotionRequest) (task : Task) (draw : Draw) : Write :=
  ⟨js "create", task, promotionEvent platform request draw.createdEvent .taskCreated draw.evaluatedAt, none, none, none,
    none⟩

/-- `{ key: "compile", task, event: event("PLAN_COMPILED"), step }`. -/
def compileWrite (request : PromotionRequest) (task : Task) (step : TaskStep) (draw : Draw) : Write :=
  ⟨js "compile", task, promotionEvent platform request draw.compiledEvent .planCompiled draw.evaluatedAt, some step,
    none, none, none⟩

/-! ## The commits -/

/-- How a submission ends early. -/
inductive Stop where
  | crashed
  | schema
  | ledger (fault : Ledger.Store.Fault)
  | approval (fault : ApprovalFault)
  | memory (failure : Failure)

/-- The commits of a submission, after each of which the process may end, and its beginning. -/
inductive Point where
  | begun
  | created
  | compiled
  | recorded
  | stored
deriving DecidableEq

def orStop {α : Type} : Option α → Program Stop World α
  | none => throw .schema
  | some value => pure value

/-- What the tables beside the ledger's answer to one of its writes; the task is bound to no workflow. -/
def surroundings (world : World) (input : Write) : Surroundings where
  admits := decide (Authorized world.memory.members ⟨input.task.tenant.id, input.task.principal⟩ .submit)
  effectsResolved := true
  cognition := fun _ _ => true
  briefVerified := false
  approvedContentSha256 := none
  stores := world.policyEvents.all fun row => row.id ≠ input.event.id.column

/-- `this.ledger.write(input)`. -/
def writeLedger (input : Write) (world : World) : Except Stop (Unit × World) :=
  match Ledger.Store.record platform (surroundings world input) input world.ledger with
  | .error fault => .error (.ledger fault)
  | .ok (_, ledger) => .ok ((), { world with ledger := ledger })

/-- `this.store.record(evaluation, invocation, approvalId)`. -/
def recordApproval (evaluation : PolicyEvaluation) (invocation : CapabilityInvocation) (approvalId : Id)
    (world : World) : Except Stop (Unit × World) :=
  match Approvals.ApprovalStore.record platform (world.view evaluation.decision.evaluatedAt) evaluation invocation
      approvalId with
  | .error fault => .error (.approval fault)
  | .ok after =>
      .ok ((), { world with
        approvals := after.approvals
        policyEvents := after.taskEvents.drop world.ledger.events.length })

/-! ## `request` -/

variable (config : PromotionApprovalConfig) (inputSchema outputSchema : Json)

/-- The two writes of a task that is not there. -/
def openTask (cut : Option Point) (request : PromotionRequest) (task : Task) (step : TaskStep) (draw : Draw) :
    Program Stop World Unit := do
  transact (writeLedger platform (createWrite platform request task draw))
  cutAt .crashed (cut = some .created)
  let compiled ← orStop ({ task with status := .compiled } : Task).parse
  transact (writeLedger platform (compileWrite platform request compiled step draw))
  cutAt .crashed (cut = some .compiled)

/-- `if (haveTask.rowCount === 0)`. -/
def ensureTask (cut : Option Point) (request : PromotionRequest) (task : Task) (step : TaskStep) (draw : Draw)
    (haveTask : Bool) : Program Stop World Unit :=
  if haveTask then pure () else openTask platform cut request task step draw

/-- The body of `request` for an approval that is not there. -/
def openApproval (cut : Option Point) (request : PromotionRequest) (draw : Draw) : Program Stop World Unit := do
  let invocation ← orStop (promotionInvocation platform request draw.runId).parse
  let world ← look
  let task ← orStop (promotionTask platform request draw.evaluatedAt).parse
  let step ← orStop (promotionStep platform request invocation).parse
  ensureTask platform cut request task step draw (world.ledger.task? (taskId platform request)).isSome
  let compiled ← orStop ({ task with status := .compiled } : Task).parse
  let evaluation ← orStop (evaluatePolicy platform (promotionRules config request) compiled step invocation
    (promoteDescriptor platform inputSchema outputSchema) draw.decisionId draw.evaluatedAt)
  transact (recordApproval platform evaluation invocation (approvalId platform request))
  cutAt .crashed (cut = some .recorded)

/-- `if (existing.rowCount === 0)`. -/
def ensureApproval (cut : Option Point) (request : PromotionRequest) (draw : Draw) (existing : Bool) :
    Program Stop World Unit :=
  if existing then pure () else openApproval platform config inputSchema outputSchema cut request draw

/-- `this.store.read(approvalId)`. -/
def readApproval (approvalId : Id) (clock : Timestamp) : Program Stop World ApprovalResolution := fun world =>
  match Approvals.ApprovalStore.ticket (world.view clock) approvalId with
  | .error fault => (.error (.approval fault), world)
  | .ok found => (.ok found.2, world)

/-- `request({ tenantId, candidateId, candidateDigest, submitter })`. -/
def requestPromotion (cut : Option Point) (request : PromotionRequest) (draw : Draw) : Program Stop World Id := do
  let world ← look
  ensureApproval platform config inputSchema outputSchema cut request draw
    (world.approvals.get? (approvalId platform request)).isSome
  let _ ← readApproval (approvalId platform request) draw.evaluatedAt
  pure (approvalId platform request)

/-! ## `submit` -/

variable (nfc : JsString → JsString)

/-- A candidate that names an approval names one that stands. -/
def ApprovalsStand (world : World) (writes : Writes) : Prop :=
  ∀ row ∈ writes.candidates, ∀ id ∈ row.approvalId, (world.approvals.get? id.column).isSome = true

instance (world : World) (writes : Writes) : Decidable (ApprovalsStand world writes) :=
  inferInstanceAs (Decidable (∀ row ∈ writes.candidates, ∀ id ∈ row.approvalId, _))

/-- The transaction that records the candidate and the decision. -/
def recordCandidate (origin : MemoryOrigin) (context : TenantContext) (prepared : Prepared) (approvalId : Option Id)
    (now : Timestamp) (world : World) : Except Stop (SubmissionResult × World) :=
  match secondPhase platform nfc world.memory origin context prepared approvalId now with
  | .error failure => .error (.memory failure)
  | .ok (result, writes) =>
      if ApprovalsStand world writes then
        match commitWrites writes world.memory with
        | none => .error (.memory .database)
        | some memory => .ok (result, { world with memory := memory })
      else .error (.memory .database)

def requestOf (context : TenantContext) (prepared : Prepared) : PromotionRequest :=
  ⟨context.tenantId, prepared.candidateId, prepared.requestDigest, context.principal⟩

/-- The approval that a verdict asks for. -/
def approvalFor (cut : Option Point) (context : TenantContext) (prepared : Prepared) (draw : Draw)
    (needsApproval : Bool) : Program Stop World (Option Id) :=
  if needsApproval then
    requestPromotion platform config inputSchema outputSchema cut (requestOf context prepared) draw >>= fun approvalId =>
      pure (some approvalId)
  else pure none

/-- The rest of a submission, by what its read-only transaction found. -/
def afterFirst (cut : Option Point) (origin : MemoryOrigin) (context : TenantContext) (prepared : Prepared)
    (draw : Draw) : SubmissionResult ⊕ Bool → Program Stop World SubmissionResult
  | .inl replay => pure replay
  | .inr needsApproval => do
      let approvalId ← approvalFor platform config inputSchema outputSchema cut context prepared draw needsApproval
      let result ← transact
        (recordCandidate platform nfc origin context prepared approvalId draw.recordedAt)
      cutAt .crashed (cut = some .stored)
      pure result

def readFirst (origin : MemoryOrigin) (context : TenantContext) (prepared : Prepared) :
    Program Stop World (SubmissionResult ⊕ Bool) := fun world =>
  match firstPhase world.memory origin context prepared with
  | .error failure => (.error (.memory failure), world)
  | .ok first => (.ok first, world)

/-- `submit(origin, ctx, raw)` with approvals configured, by a process that ends at `cut` if it gets there. -/
def submit (cut : Option Point) (origin : MemoryOrigin) (context : TenantContext) (raw : Option RawSubmission)
    (draw : Draw) : Program Stop World SubmissionResult := do
  cutAt .crashed (cut = some .begun)
  let prepared ← orStop (prepare platform nfc context.tenantId raw)
  let first ← readFirst origin context prepared
  afterFirst platform config inputSchema outputSchema nfc cut origin context prepared draw first

end Request

end KernelJson.Memory.PromotionApprovals
