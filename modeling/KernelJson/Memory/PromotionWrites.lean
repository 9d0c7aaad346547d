import KernelJson.Ledger.Invariants
import KernelJson.Memory.PromotionApprovals
import KernelJson.Memory.Runs

/-!
# The writes of a promotion request

What creating the task of a request, compiling it and recording its approval
write, and that each succeeds where the ones before it were committed.
-/

namespace KernelJson.Memory.PromotionWrites

open Approvals.ApprovalStore (ApprovalDb ApprovalRow MatchesStep Ticket)
open Approvals.Evaluation
open Contracts.Common
open Contracts.Digest
open Contracts.Identity
open Contracts.Platform
open Contracts.PolicyGate
open Contracts.Records
open Contracts.Task
open Foundation
open Foundation.JsText
open Ledger.Store (Db EventRow Surroundings Write)
open Memory.PromotionApprovals
open Memory.Service

/-! ## Identifiers as texts -/

theorem isSpace_of_class {unit : UInt16} (member : isHexUnit unit = true ∨ isHyphen unit = true) :
    isSpace unit = false := by
  have bounds : unit.toNat = 45 ∨ (48 ≤ unit.toNat ∧ unit.toNat ≤ 102) := by
    rcases member with hex | hyphen
    · simp only [isHexUnit, Bool.or_eq_true, Bool.and_eq_true, decide_eq_true_eq] at hex
      omega
    · rw [isHyphen, beq_iff_eq] at hyphen
      exact .inl (hyphen ▸ rfl)
  simp only [isSpace, Bool.or_eq_false_iff, Bool.and_eq_false_iff, decide_eq_false_iff_not,
    List.contains_eq_mem, List.mem_cons, List.not_mem_nil, or_false]
  omega

/-- Every unit of an identifier is a hexadecimal digit or a hyphen. -/
theorem Id.units (identifier : Id) {unit : UInt16} (member : unit ∈ identifier.text) :
    isHexUnit unit = true ∨ isHyphen unit = true := by
  have wellFormed := identifier.wellFormed
  simp only [isUuid, Bool.or_eq_true, beq_iff_eq] at wellFormed
  rcases wellFormed with (fits | isNil) | isMax
  · obtain ⟨accepts, found, accepted⟩ := fitsShape_mem fits member
    rcases uuidShape_classes found with rfl | rfl | rfl | rfl
    · exact .inl accepted
    · exact .inr accepted
    · refine .inl ?_
      simp only [isVersionUnit, isHexUnit, Bool.or_eq_true, Bool.and_eq_true, decide_eq_true_eq] at accepted ⊢
      omega
    · have listed : (js "89abAB").all isHexUnit = true := by decide
      exact .inl (List.all_eq_true.mp listed unit (List.contains_iff_mem.mp accepted))
  · rw [isNil] at member
    have listed : nilUuid.all (fun unit => isHexUnit unit || isHyphen unit) = true := by
      rw [nilUuid, js_ofList]
      decide
    exact Bool.or_eq_true_iff.mp (List.all_eq_true.mp listed unit member)
  · rw [isMax] at member
    have listed : maxUuid.all (fun unit => isHexUnit unit || isHyphen unit) = true := by
      rw [maxUuid, js_ofList]
      decide
    exact Bool.or_eq_true_iff.mp (List.all_eq_true.mp listed unit member)

/-- A text that starts with a visible unit and ends in an identifier is trimmed as it stands. -/
theorem parseText_before_id {start : JsString} (visible : start.head?.map isSpace = some false)
    (identifier : Id) : parseText (start ++ identifier.text) = some (start ++ identifier.text) := by
  have nonempty : identifier.text ≠ [] := by
    intro empty
    have length := Id.length identifier
    rw [empty] at length
    cases length
  cases start with
  | nil => cases visible
  | cons first rest =>
      refine parseText_of_trimmed ?_ (List.cons_ne_nil _ _)
      refine (trim_eq_self_iff (Option.some.inj visible)).mpr ?_
      show isSpace ((first :: (rest ++ identifier.text)).getLast _) = false
      rw [List.getLast_cons (List.append_ne_nil_of_right_ne_nil rest nonempty),
        List.getLast_append_of_ne_nil _ nonempty]
      exact isSpace_of_class (Id.units identifier (List.getLast_mem nonempty))

/-- A derived identifier is written as its column holds it. -/
theorem stableId_column (sha256 : JsString → HexDigest) (value : Json) :
    (stableId sha256 value).column = stableId sha256 value := by
  have digit : ∀ digit : Fin 16, asciiLower (Json.hexUnit digit) = Json.hexUnit digit := by decide
  have slice : ∀ (hash : HexDigest) (start count : Nat) (inside : start + count ≤ 64),
      (hexSlice hash start count inside).map asciiLower = hexSlice hash start count inside := by
    intro hash start count inside
    rw [hexSlice, List.map_ofFn]
    exact congrArg List.ofFn (funext fun position => digit _)
  have seven : (js "-8").map asciiLower = js "-8" := by decide
  have ten : (js "-a").map asciiLower = js "-a" := by decide
  have dash : (js "-").map asciiLower = js "-" := by decide
  refine Id.ext ?_
  simp only [Id.column, stableId, stableIdText, List.map_append, slice, seven, ten, dash]

/-! ## The parts of a request -/

section Request

variable (platform : Platform) (config : PromotionApprovalConfig) (request : PromotionRequest)

theorem memoryPromote_parse : memoryPromote.parse = some memoryPromote := by
  have version : parseText (js "1.0.0") = some (js "1.0.0") := by
    rw [js_ofList]
    exact parseText_of_ends rfl rfl
  simp only [CapabilityRef.parse, memoryPromote, version, Option.bind_eq_bind, Option.bind_some]

/-- The names of a request start with a visible unit. -/
theorem promote_visible : (js "memory-promote-").head?.map isSpace = some false := by
  rw [js_ofList]
  rfl

theorem promotionKey_parse : parseText (js "memory-promote-" ++ request.candidateId.text) =
    some (js "memory-promote-" ++ request.candidateId.text) :=
  parseText_before_id promote_visible request.candidateId

theorem promotionInvocation_parse (runId : Id) :
    (promotionInvocation platform request runId).parse = some (promotionInvocation platform request runId) := by
  have trace : (promotionInvocation platform request runId).trace.parse =
      some (promotionInvocation platform request runId).trace := rfl
  have short : (js "memory-promote-" ++ request.candidateId.text).length ≤ 256 := by
    rw [List.length_append, Id.length, js_ofList]
    decide
  have key := promotionKey_parse request
  simp only [CapabilityInvocation.parse, promotionInvocation, memoryPromote_parse, key, Option.bind_eq_bind,
    Option.bind_some]
  exact if_pos short

theorem promotionCriteria_parse :
    [js "The candidate is promoted only after the named approver grants this exact promotion"].mapM parseText =
      some [js "The candidate is promoted only after the named approver grants this exact promotion"] := by
  have read : parseText (js "The candidate is promoted only after the named approver grants this exact promotion") =
      some (js "The candidate is promoted only after the named approver grants this exact promotion") := by
    rw [js_ofList]
    exact parseText_of_ends rfl rfl
  simp only [List.mapM_cons, List.mapM_nil, read, Option.pure_def, Option.bind_eq_bind, Option.bind_some]

theorem promotionTask_refined (createdAt : Timestamp) (status : TaskStatus) (unfinished : status ≠ .completed) :
    ({ promotionTask platform request createdAt with status := status } : Task).Refined :=
  ⟨fun same => (by cases same), fun done => absurd done unfinished, fun _ member => (by cases member),
    fun _ member => (by cases member)⟩

theorem promotionTask_parse (createdAt : Timestamp) (status : TaskStatus) (unfinished : status ≠ .completed) :
    ({ promotionTask platform request createdAt with status := status } : Task).parse =
      some { promotionTask platform request createdAt with status := status } := by
  refine Ledger.Invariants.parse_of_trimmed ?_ promotionCriteria_parse rfl (List.cons_ne_nil _ _) rfl
    (promotionTask_refined platform request createdAt status unfinished)
  exact parseText_before_id (by rw [js_ofList]; rfl) request.candidateId

theorem promotionStep_parse (runId : Id) :
    (promotionStep platform request (promotionInvocation platform request runId)).parse =
      some (promotionStep platform request (promotionInvocation platform request runId)) := by
  have key := promotionKey_parse request
  simp only [TaskStep.parse, promotionStep, promotionInvocation, List.mapM_cons, List.mapM_nil, memoryPromote_parse,
    parseOptional, key, Option.map_some, Option.pure_def, Option.bind_eq_bind, Option.bind_some]
  exact if_pos ⟨le_refl _, (by simp), List.not_mem_nil⟩

/-- The task of a request after it was compiled. -/
def compiledTask (createdAt : Timestamp) : Task :=
  { promotionTask platform request createdAt with status := .compiled }

/-- The step of a request, which is the same for every run. -/
def requestStep : TaskStep where
  id := stepId platform request
  taskId := taskId platform request
  kind := .deterministicFunction
  status := .ready
  dependencies := []
  requiredCapabilities := [memoryPromote]
  riskClass := .low
  retryPolicy := ⟨1, 0⟩
  timeout := none
  input := .obj [(js "candidateId", idJson request.candidateId),
    (js "candidateDigest", .str request.candidateDigest)]
  output := none
  idempotencyKey := some (js "memory-promote-" ++ request.candidateId.text)

/-- What a request needs of its surroundings besides a process that does not end: an authorised submitter and approver,
a time to live that the policy rules take, and identifiers as their columns hold them. -/
structure Grantable (members : Memberships) : Prop where
  submits : Authorized members ⟨request.tenantId, request.submitter⟩ .submit
  approves : Authorized members ⟨request.tenantId, config.approver⟩ .approve
  lives : 100 ≤ config.ttlMs ∧ config.ttlMs ≤ 86400000
  tenant : request.tenantId.column = request.tenantId
  submitter : request.submitter.id.column = request.submitter.id

theorem promotionRules_parse {members : Memberships} (grantable : Grantable config request members) :
    (promotionRules config request).parse = some (promotionRules config request) := by
  have refined : PolicyRule.Refined
      ⟨request.tenantId, request.submitter.id, memoryPromote, .approvalRequired, some config.approver,
        some config.ttlMs⟩ := by
    refine ⟨?_, ⟨config.approver, rfl, grantable.approves.human⟩, Option.some_ne_none _⟩
    rintro ttl ⟨⟩
    exact grantable.lives
  have version : js "kj-memory-approval-policy/1" ≠ [] := by
    rw [js_ofList]
    exact List.cons_ne_nil _ _
  simp only [PolicyRules.parse, promotionRules, List.mapM_cons, List.mapM_nil, PolicyRule.parse, memoryPromote_parse,
    if_pos refined, Option.pure_def, Option.bind_eq_bind, Option.bind_some]
  exact if_pos ⟨version, List.nodup_singleton _⟩

variable (inputSchema outputSchema : Json)

/-- The evaluation of a request. -/
def evaluationOf (draw : Draw) (expiresAt : Timestamp) : PolicyEvaluation :=
  approvalEvaluation platform (promotionRules config request) (compiledTask platform request draw.evaluatedAt)
    (requestStep platform request) (promotionInvocation platform request draw.runId)
    (promoteDescriptor platform inputSchema outputSchema) config.approver expiresAt draw.decisionId draw.evaluatedAt

theorem promotion_bound (createdAt : Timestamp) (runId : Id) :
    Bound platform (compiledTask platform request createdAt) (requestStep platform request)
      (promotionInvocation platform request runId) (promoteDescriptor platform inputSchema outputSchema) :=
  ⟨rfl, rfl, rfl, rfl, rfl, rfl, rfl, rfl, rfl, rfl⟩

theorem promotion_rule (createdAt : Timestamp) (runId : Id) :
    ruleFor (promotionRules config request) (compiledTask platform request createdAt)
      (promotionInvocation platform request runId) =
      some ⟨request.tenantId, request.submitter.id, memoryPromote, .approvalRequired, some config.approver,
        some config.ttlMs⟩ :=
  List.find?_cons_of_pos (decide_eq_true ⟨rfl, rfl, rfl⟩)

theorem promotion_evaluates {members : Memberships} (grantable : Grantable config request members) {draw : Draw}
    (createdAt : Timestamp) {expiresAt : Timestamp} (deadline : Timestamp.parse (draw.evaluatedAt.ms + config.ttlMs) = some expiresAt) :
    evaluatePolicy platform (promotionRules config request) (compiledTask platform request createdAt)
      (requestStep platform request) (promotionInvocation platform request draw.runId)
      (promoteDescriptor platform inputSchema outputSchema) draw.decisionId draw.evaluatedAt =
      some (evaluationOf platform config request inputSchema outputSchema draw expiresAt) := by
  have version : parseText (js "kj-memory-approval-policy/1") = some (js "kj-memory-approval-policy/1") := by
    rw [js_ofList]
    exact parseText_of_ends rfl rfl
  have plain : ¬ ((compiledTask platform request createdAt).constraints ≠ [] ∨
      (compiledTask platform request createdAt).budget ≠ none ∨
      (compiledTask platform request createdAt).deadline ≠ none) := by
    rintro (other | other | other)
    · exact other rfl
    · exact other rfl
    · exact other rfl
  have positive : 0 < config.ttlMs := lt_of_lt_of_le (by decide) grantable.lives.1
  exact evaluatePolicy_of_rule platform draw.decisionId (promotionRules_parse config request grantable)
    (promotionTask_parse platform request createdAt .compiled (by decide))
    (promotionStep_parse platform request draw.runId) (promotionInvocation_parse platform request draw.runId) version
    rfl memoryPromote_parse (isSha256Text_hexText _)
    (promotion_bound platform request inputSchema outputSchema createdAt draw.runId) plain
    ⟨rfl, rfl, rfl, rfl, rfl, rfl⟩ (promotion_rule platform config request createdAt draw.runId) rfl rfl
    grantable.approves.human rfl positive deadline

/-! ## The writes of the ledger -/

theorem taskId_column : (taskId platform request).column = taskId platform request := stableId_column _ _

theorem stepId_column : (stepId platform request).column = stepId platform request := stableId_column _ _

theorem traceId_column : (traceId platform request).column = traceId platform request := stableId_column _ _

theorem approvalId_column : (approvalId platform request).column = approvalId platform request := stableId_column _ _

/-- The ledger holds nothing of the request. -/
structure Absent (db : Db) : Prop where
  tasks : ∀ task ∈ db.tasks, task.id ≠ taskId platform request
  events : ∀ row ∈ db.events, row.taskId ≠ taskId platform request
  steps : ∀ step ∈ db.steps, step.id ≠ stepId platform request

/-- The random identifiers of a draw are new. -/
structure NewIds (world : World) (draw : Draw) : Prop where
  ledger : ∀ id ∈ [draw.createdEvent, draw.compiledEvent, draw.decisionId], ∀ row ∈ world.ledger.events,
    row.id ≠ id.column
  policy : ∀ id ∈ [draw.createdEvent, draw.compiledEvent, draw.decisionId], ∀ row ∈ world.policyEvents,
    row.id ≠ id.column
  apart : [draw.createdEvent.column, draw.compiledEvent.column, draw.decisionId.column].Nodup

/-- The row of an event of the request. -/
def eventRow (write : Write) : EventRow :=
  ⟨write.event.id.column, taskId platform request, none, write.key, Ledger.Store.requestDigest platform write,
    write.event.type, write.event.occurredAt, request.submitter.id.column, traceId platform request, .obj []⟩

/-- The ledger after the task was created. -/
def createdDb (db : Db) (draw : Draw) : Db :=
  { db with
    tasks := db.tasks ++ [promotionTask platform request draw.evaluatedAt]
    events := db.events ++ [eventRow platform request
      (createWrite platform request (promotionTask platform request draw.evaluatedAt) draw)] }

/-- The ledger after the task was compiled. -/
def compiledDb (db : Db) (draw : Draw) : Db :=
  { db with
    tasks := db.tasks.map fun row =>
      if row.id = taskId platform request then compiledTask platform request draw.evaluatedAt else row
    steps := db.steps ++ [requestStep platform request]
    events := db.events ++ [eventRow platform request (compileWrite platform request
      (compiledTask platform request draw.evaluatedAt) (requestStep platform request) draw)] }

theorem demand_of {holds : Prop} [Decidable holds] {fault : Ledger.Store.Fault} (proof : holds) :
    Ledger.Store.demand holds fault = .ok () := if_pos proof

theorem event?_absent {db : Db} (absent : Absent platform request db) (key : JsString) :
    db.event? (taskId platform request) key = none := by
  refine List.find?_eq_none.mpr ?_
  intro row member accepted
  rw [taskId_column] at accepted
  exact absent.events row member (of_decide_eq_true accepted).1

/-- A write of a task and at most one step is admitted. -/
theorem validate_plain {key : JsString} {task : Task} {event : TaskEvent} {step : Option TaskStep}
    (read : task.parse = some task)
    (named : event.taskId = task.id ∧ event.traceId = task.traceId ∧ event.actor.id = task.principal.id)
    (stepped : ∀ one ∈ step, one.parse = some one ∧ one.taskId = task.id) :
    (⟨key, task, event, step, none, none, none⟩ : Write).validate = .ok ⟨task, step.toList, none, none⟩ := by
  have stepRead : parseOptional TaskStep.parse step = some step := by
    cases step with
    | none => rfl
    | some one => exact congrArg (Option.map some) (stepped one rfl).1
  have stepsRead : ([] ++ step.toList).mapM TaskStep.parse = some step.toList := by
    cases step with
    | none => rfl
    | some one =>
        simp only [Option.toList_some, List.nil_append, List.mapM_cons, List.mapM_nil, (stepped one rfl).1,
          Option.pure_def, Option.bind_eq_bind, Option.bind_some]
  have batch : (step.toList.map TaskStep.id).Nodup ∧ ∀ one ∈ step.toList, one.taskId = task.id := by
    cases step with
    | none => exact ⟨List.nodup_nil, fun _ member => absurd member List.not_mem_nil⟩
    | some one => exact ⟨List.nodup_singleton _, fun other member => List.mem_singleton.mp member ▸ (stepped one rfl).2⟩
  unfold Write.validate
  simp only [read, stepRead, stepsRead, Ledger.Store.orError, Option.getD_none, Transactions.ok_bind, demand_of named,
    demand_of batch]
  rfl

/-- Such a write adds its step and its event. -/
theorem project_plain {hash : HexDigest} {key : JsString} {task : Task} {steps : List TaskStep} {event : TaskEvent}
    {db : Db} (columns : ∀ step ∈ steps, step.id.column = step.id ∧ step.taskId.column = step.taskId)
    (fresh : ∀ row ∈ db.events, row.id ≠ event.id.column) (stepless : event.stepId = none) :
    Ledger.Store.project hash key ⟨task, steps, none, none⟩ event db =
      .ok { db with
        steps := steps.foldl Ledger.Store.upsertStep db.steps
        events := db.events ++ [⟨event.id.column, task.id.column, none, key, hash, event.type, event.occurredAt,
          event.actor.id.column, event.traceId.column, event.payload⟩] } := by
  have noEvidence : ∀ stepped : Db, ∀ evidence ∈ (none : Option Contracts.Outcome.Evidence),
      (∀ row ∈ db.evidence, row.id ≠ evidence.id.column) ∧
        ∀ stepId ∈ evidence.stepId, stepped.hasStep task.id stepId := fun _ _ member => (by cases member)
  have eventFits : ∀ stepped : Db, (∀ row ∈ db.events, row.id ≠ event.id.column) ∧
      ∀ stepId ∈ event.stepId, stepped.hasStep task.id stepId := by
    rw [stepless]
    exact fun _ => ⟨fresh, fun _ member => (by cases member)⟩
  have noOutcome : ∀ outcome ∈ (none : Option Contracts.Outcome.Outcome), outcome.taskId = task.id.column ∧
      ∀ row ∈ db.outcomes, row.id ≠ event.id.column ∧ row.contract.taskId ≠ task.id.column :=
    fun _ member => (by cases member)
  simp only [Ledger.Store.project, demand_of columns, demand_of (noEvidence _), demand_of (eventFits _),
    demand_of noOutcome, Transactions.ok_bind]
  simp only [stepless, Option.map_none, Option.toList_none, List.append_nil]

/-- The transaction of such a write, once its task was moved. -/
theorem record_plain {around : Surroundings} {input : Write} {steps : List TaskStep} {db moved : Db}
    (valid : input.validate = .ok ⟨input.task, steps, none, none⟩)
    (unwritten : db.event? input.task.id input.key = none)
    (moves : Ledger.Store.move platform around ⟨input.task, steps, none, none⟩ input.event db = .ok moved)
    (columns : ∀ step ∈ steps, step.id.column = step.id ∧ step.taskId.column = step.taskId)
    (fresh : ∀ row ∈ moved.events, row.id ≠ input.event.id.column) (stepless : input.event.stepId = none)
    (stores : around.stores = true) (unfinished : input.task.status ≠ .completed) :
    Ledger.Store.record platform around input db =
      .ok ((), { moved with
        steps := steps.foldl Ledger.Store.upsertStep moved.steps
        events := moved.events ++ [⟨input.event.id.column, input.task.id.column, none, input.key,
          Ledger.Store.requestDigest platform input, input.event.type, input.event.occurredAt,
          input.event.actor.id.column, input.event.traceId.column, input.event.payload⟩] }) := by
  have completion : ∀ projected : Db, input.task.status = .completed →
      Ledger.Store.CompletionStands projected input.task := fun _ done => absurd done unfinished
  simp only [Ledger.Store.record, valid, unwritten, Ledger.Store.recordNew, moves,
    project_plain columns fresh stepless, demand_of stores, demand_of (completion _), Transactions.ok_bind]

theorem stores_of {world : World} {input : Write} (fresh : ∀ row ∈ world.policyEvents, row.id ≠ input.event.id.column) :
    (surroundings world input).stores = true :=
  List.all_eq_true.mpr fun row member => decide_eq_true (fresh row member)

theorem task?_absent {db : Db} (absent : Absent platform request db) : db.task? (taskId platform request) = none := by
  refine List.find?_eq_none.mpr ?_
  intro task member accepted
  rw [taskId_column] at accepted
  exact absent.tasks task member (of_decide_eq_true accepted)

theorem create_ok {world : World} {draw : Draw} (grantable : Grantable config request world.memory.members)
    (absent : Absent platform request world.ledger) (fresh : NewIds world draw) :
    writeLedger platform (createWrite platform request (promotionTask platform request draw.evaluatedAt) draw) world =
      .ok ((), { world with ledger := createdDb platform request world.ledger draw }) := by
  let task := promotionTask platform request draw.evaluatedAt
  let input := createWrite platform request task draw
  have valid : input.validate = .ok ⟨task, [], none, none⟩ :=
    validate_plain (promotionTask_parse platform request draw.evaluatedAt .received (by decide)) ⟨rfl, rfl, rfl⟩
      fun one member => (by cases member)
  have unknown : world.ledger.task? task.id = none := task?_absent platform request absent
  have begins : task.status = .received ∧ input.event.type = .taskCreated := ⟨rfl, rfl⟩
  have admits : (surroundings world input).admits = true := decide_eq_true grantable.submits
  have canonical : Ledger.Store.CanonicalTask world.ledger task :=
    ⟨taskId_column platform request, traceId_column platform request, grantable.tenant, grantable.submitter,
      fun parent member => (by cases member)⟩
  have moves : Ledger.Store.move platform (surroundings world input) ⟨task, [], none, none⟩ input.event world.ledger =
      .ok { world.ledger with tasks := world.ledger.tasks ++ [task] } := by
    simp only [Ledger.Store.move, unknown, Ledger.Store.create, demand_of begins, demand_of admits,
      demand_of canonical, Transactions.ok_bind]
  have recorded := record_plain platform valid (event?_absent platform request absent _) moves
    (fun step member => absurd member List.not_mem_nil) (fresh.ledger draw.createdEvent List.mem_cons_self) rfl
    (stores_of (fresh.policy draw.createdEvent List.mem_cons_self)) (fun done => by cases done)
  unfold writeLedger
  rw [recorded]
  have named : input.task.id.column = taskId platform request := taskId_column platform request
  have traced : input.event.traceId.column = traceId platform request := traceId_column platform request
  simp only [named, traced]
  rfl

theorem upsertStep_absent {steps : List TaskStep} {step : TaskStep} (absent : ∀ stored ∈ steps, stored.id ≠ step.id) :
    Ledger.Store.upsertStep steps step = steps ++ [step] := by
  refine if_neg fun present => ?_
  obtain ⟨stored, member, same⟩ := List.any_eq_true.mp present
  exact absent stored member (of_decide_eq_true same)

theorem created_task? {db : Db} (absent : Absent platform request db) (draw : Draw) :
    (createdDb platform request db draw).task? (taskId platform request) =
      some (promotionTask platform request draw.evaluatedAt) := by
  unfold Db.task? createdDb
  rw [taskId_column, List.find?_append, List.find?_eq_none.mpr fun task member accepted =>
    absent.tasks task member (of_decide_eq_true accepted), Option.none_or]
  exact List.find?_cons_of_pos (decide_eq_true rfl)

theorem keys_apart : js "create" ≠ js "compile" := by
  rw [js_ofList, js_ofList]
  decide

theorem compile_ok {world : World} {db : Db} {draw : Draw} (absent : Absent platform request db)
    (created : world.ledger = createdDb platform request db draw)
    (fresh : ∀ row ∈ db.events, row.id ≠ draw.compiledEvent.column)
    (apart : draw.createdEvent.column ≠ draw.compiledEvent.column)
    (unlisted : ∀ row ∈ world.policyEvents, row.id ≠ draw.compiledEvent.column) :
    writeLedger platform (compileWrite platform request (compiledTask platform request draw.evaluatedAt)
      (requestStep platform request) draw) world =
      .ok ((), { world with
        ledger := compiledDb platform request (createdDb platform request db draw) draw }) := by
  let task := compiledTask platform request draw.evaluatedAt
  let step := requestStep platform request
  let input := compileWrite platform request task step draw
  have parsed : task.parse = some task := promotionTask_parse platform request draw.evaluatedAt .compiled (by decide)
  have stepParsed : step.parse = some step := promotionStep_parse platform request draw.runId
  have valid : input.validate = .ok ⟨task, [step], none, none⟩ := by
    refine validate_plain parsed ⟨rfl, rfl, rfl⟩ ?_
    rintro one ⟨⟩
    exact ⟨stepParsed, rfl⟩
  have unwritten : world.ledger.event? task.id input.key = none := by
    rw [created]
    refine List.find?_eq_none.mpr ?_
    intro row member accepted
    obtain ⟨ofTask, key⟩ := of_decide_eq_true accepted
    rw [show task.id = taskId platform request from rfl, taskId_column] at ofTask
    rcases List.mem_append.mp member with old | new
    · exact absent.events row old ofTask
    · rw [List.mem_singleton.mp new] at key
      exact keys_apart key
  have known : world.ledger.task? task.id = some (promotionTask platform request draw.evaluatedAt) :=
    created ▸ created_task? platform request absent draw
  have original : (promotionTask platform request draw.evaluatedAt).parse =
      some (promotionTask platform request draw.evaluatedAt) :=
    promotionTask_parse platform request draw.evaluatedAt .received (by decide)
  have redefines : (Ledger.Store.redefined (promotionTask platform request draw.evaluatedAt) task).parse = some task :=
    parsed
  have unchecked : Ledger.Store.checkCompletion platform (surroundings world input) ⟨task, [step], none, none⟩
      input.event (promotionTask platform request draw.evaluatedAt) world.ledger = .ok () :=
    if_neg fun done => by cases done
  have moved : (promotionTask platform request draw.evaluatedAt).status = task.status ∨
      Transition (promotionTask platform request draw.evaluatedAt).status task.status :=
    .inr (show Transition .received .compiled by decide)
  have lives : ¬ (promotionTask platform request draw.evaluatedAt).status.Terminal :=
    show ¬ TaskStatus.received.Terminal by decide
  have kept : Ledger.Store.KeepsColumns (promotionTask platform request draw.evaluatedAt) task :=
    ⟨rfl, rfl, rfl, rfl⟩
  have moves : Ledger.Store.move platform (surroundings world input) ⟨task, [step], none, none⟩ input.event
      world.ledger = .ok { world.ledger with
        tasks := world.ledger.tasks.map fun row => if row.id = task.id then task else row } := by
    simp only [Ledger.Store.move, known, Ledger.Store.advance, Ledger.Store.orError, original, redefines, unchecked,
      demand_of moved, demand_of lives, demand_of kept, Transactions.ok_bind]
    rfl
  have columns : ∀ one ∈ [step], one.id.column = one.id ∧ one.taskId.column = one.taskId := by
    intro one member
    rw [List.mem_singleton.mp member]
    exact ⟨stepId_column platform request, taskId_column platform request⟩
  have ids : ∀ row ∈ world.ledger.events, row.id ≠ input.event.id.column := by
    rw [created]
    intro row member
    rcases List.mem_append.mp member with old | new
    · exact fresh row old
    · rw [List.mem_singleton.mp new]
      exact apart
  have recorded := record_plain platform valid unwritten moves columns ids rfl (stores_of unlisted)
    fun done => by cases done
  have stepped : ∀ stored ∈ world.ledger.steps, stored.id ≠ step.id := by
    rw [created]
    exact absent.steps
  have named : input.task.id.column = taskId platform request := taskId_column platform request
  have traced : input.event.traceId.column = traceId platform request := traceId_column platform request
  unfold writeLedger
  rw [recorded]
  simp only [List.foldl_cons, List.foldl_nil, upsertStep_absent stepped, named, traced]
  rw [created]
  rfl

/-! ## Recording the approval -/

theorem tableOf_get? {Row : Type} (key : Row → Id) (rows : List Row) (id : Id) :
    (tableOf key rows).get? id = rows.find? fun row => key row = id := by
  induction rows with
  | nil => rfl
  | cons row rest ih =>
      rw [show tableOf key (row :: rest) = (tableOf key rest).set (key row) row from rfl, JsMap.get?_set, ih,
        List.find?_cons]
      by_cases here : key row = id
      · rw [if_pos here, decide_eq_true here]
      · rw [if_neg here, decide_eq_false here]

/-- The ledger after both writes: one compiled task and its step. -/
structure Compiled (db : Db) : Prop where
  task : ∃ createdAt, (db.tasks.filter fun task => task.id = taskId platform request) =
    [compiledTask platform request createdAt]
  step : db.steps.find? (fun step => step.id = stepId platform request) = some (requestStep platform request)
  keys : ∀ row ∈ db.events, row.taskId = taskId platform request → row.key = js "create" ∨ row.key = js "compile"

/-- No approval was asked for. -/
structure Unasked (world : World) : Prop where
  approval : world.approvals.get? (approvalId platform request) = none
  rows : ∀ id row, world.approvals.get? id = some row → row.taskId ≠ taskId platform request
  policy : ∀ event ∈ world.policyEvents, event.taskId ≠ taskId platform request

theorem policyKey_ne {key : JsString} (listed : key = js "create" ∨ key = js "compile") (id : Id) :
    key ≠ Approvals.ApprovalStore.policyKey id := by
  have first : (Approvals.ApprovalStore.policyKey id).head? = some 112 := rfl
  intro same
  rw [← same] at first
  rcases listed with rfl | rfl
  · cases (Option.some.inj first : (99 : UInt16) = 112)
  · cases (Option.some.inj first : (99 : UInt16) = 112)

variable {platform config request inputSchema outputSchema}

theorem eventOf_absent {world : World} (keys : ∀ row ∈ world.ledger.events, row.taskId = taskId platform request →
      row.key = js "create" ∨ row.key = js "compile")
    (policy : ∀ event ∈ world.policyEvents, event.taskId ≠ taskId platform request) (clock : Timestamp) (id : Id) :
    (world.view clock).eventOf (taskId platform request) (Approvals.ApprovalStore.policyKey id) = none := by
  refine List.find?_eq_none.mpr ?_
  intro event member accepted
  obtain ⟨ofTask, key⟩ := of_decide_eq_true accepted
  rcases List.mem_append.mp member with old | new
  · obtain ⟨row, inside, rfl⟩ := List.mem_map.mp old
    exact policyKey_ne (keys row inside ofTask) id key
  · exact policy event new ofTask

theorem find?_of_filter {db : Db} {task : Task} {id : Id}
    (single : (db.tasks.filter fun task => task.id = id) = [task]) :
    db.tasks.find? (fun task => task.id = id) = some task := by
  rw [← List.head?_filter, single]
  rfl

/-- The task that the approval store finds. -/
theorem Compiled.view_task {world : World} (compiled : Compiled platform request world.ledger) (clock : Timestamp) :
    ∃ createdAt, ((world.view clock).tasks.get? (taskId platform request).column).bind Task.parse =
      some (compiledTask platform request createdAt) := by
  obtain ⟨createdAt, single⟩ := compiled.task
  refine ⟨createdAt, ?_⟩
  rw [taskId_column, World.view, tableOf_get?, find?_of_filter single, Option.bind_some]
  exact promotionTask_parse platform request createdAt .compiled (by decide)

theorem Compiled.view_step {world : World} (compiled : Compiled platform request world.ledger) (clock : Timestamp) :
    ((world.view clock).stepOf (stepId platform request) (taskId platform request)).bind TaskStep.parse =
      some (requestStep platform request) := by
  unfold Approvals.ApprovalStore.ApprovalDb.stepOf
  rw [stepId_column, World.view, tableOf_get?, compiled.step]
  have ofTask : (some (requestStep platform request)).filter (fun step =>
      decide (step.taskId.column = (taskId platform request).column)) = some (requestStep platform request) :=
    if_pos (decide_eq_true rfl)
  rw [ofTask, Option.bind_some]
  exact promotionStep_parse platform request request.tenantId

/-- The ticket of a request. -/
def ticketOf (platform : Platform) (config : PromotionApprovalConfig) (request : PromotionRequest)
    (inputSchema outputSchema : Json) (draw : Draw) (expiresAt : Timestamp) : Ticket :=
  ⟨evaluationOf platform config request inputSchema outputSchema draw expiresAt,
    promotionInvocation platform request draw.runId, approvalId platform request⟩

/-- The world after the approval was recorded. -/
def askedWorld (platform : Platform) (config : PromotionApprovalConfig) (request : PromotionRequest)
    (inputSchema outputSchema : Json) (draw : Draw) (createdAt expiresAt : Timestamp) (world : World) : World :=
  { world with
    approvals := world.approvals.set (approvalId platform request)
      (Approvals.ApprovalStore.pendingRow (compiledTask platform request createdAt) (requestStep platform request)
        (evaluationOf platform config request inputSchema outputSchema draw expiresAt) config.approver)
    policyEvents := world.policyEvents ++ [Approvals.ApprovalStore.policyEvent
      (compiledTask platform request createdAt) (requestStep platform request)
      (ticketOf platform config request inputSchema outputSchema draw expiresAt)
      (capabilityDigest platform (ticketOf platform config request inputSchema outputSchema draw expiresAt).toJson)] }

theorem evaluationOf_parse {members : Memberships} (grantable : Grantable config request members) {draw : Draw}
    {expiresAt : Timestamp} (deadline : Timestamp.parse (draw.evaluatedAt.ms + config.ttlMs) = some expiresAt) :
    (evaluationOf platform config request inputSchema outputSchema draw expiresAt).parse =
      some (evaluationOf platform config request inputSchema outputSchema draw expiresAt) := by
  have version : parseText (js "kj-memory-approval-policy/1") = some (js "kj-memory-approval-policy/1") := by
    rw [js_ofList]
    exact parseText_of_ends rfl rfl
  have later : draw.evaluatedAt.ms < expiresAt.ms := by
    have same := Timestamp.parse_ms deadline
    have positive := grantable.lives.1
    omega
  exact approvalEvaluation_parse platform version rfl memoryPromote_parse (isSha256Text_hexText _)
    grantable.approves.human later

/-- An event whose identifier and key are new is inserted. -/
theorem insertEvent_fresh {db : ApprovalDb} {event : Approvals.ApprovalStore.TaskEvent}
    (ids : ∀ other ∈ db.taskEvents, other.id ≠ event.id) (unwritten : db.eventOf event.taskId event.eventKey = none) :
    db.insertEvent event = .ok { db with taskEvents := db.taskEvents ++ [event] } := by
  have noId : ¬ (db.taskEvents.any fun other => decide (other.id = event.id)) = true := by
    intro present
    obtain ⟨other, member, same⟩ := List.any_eq_true.mp present
    exact ids other member (of_decide_eq_true same)
  have noKey : ¬ (db.taskEvents.any fun other =>
      decide (other.taskId = event.taskId ∧ other.eventKey = event.eventKey)) = true := by
    intro present
    obtain ⟨other, member, same⟩ := List.any_eq_true.mp present
    exact List.find?_eq_none.mp unwritten other member same
  unfold ApprovalDb.insertEvent
  rw [if_neg noId, if_neg noKey]

/-- The approval that a request opens, where none stands under its identifier. -/
theorem openApproval_ok {world : World} (task : Task) (step : TaskStep) {evaluation : PolicyEvaluation}
    (clock : Timestamp) (unasked : Unasked platform request world)
    (asks : evaluation.decision.decision = .approvalRequired) (named : evaluation.approver = some config.approver)
    (approves : Authorized world.memory.members ⟨task.tenant.id, config.approver⟩ .approve) :
    Approvals.ApprovalStore.openApproval (world.view clock) (approvalId platform request) task step evaluation =
      .ok { world.view clock with
        approvals := world.approvals.set (approvalId platform request)
          (Approvals.ApprovalStore.pendingRow task step evaluation config.approver) } := by
  have absent : (world.view clock).approvals.get? (approvalId platform request) = none := unasked.approval
  have authorized : (world.view clock).member task.tenant.id config.approver .approve = .ok () := if_pos approves
  simp only [Approvals.ApprovalStore.openApproval, if_pos asks, named, authorized, Transactions.ok_bind,
    Approvals.ApprovalStore.insertApproval, approvalId_column, absent, Option.isSome_none, Bool.false_eq_true,
    if_false]
  rfl

/-- Where no event stands under its key, the policy check is recorded as a new one. -/
theorem record_unwritten {members : Memberships} (grantable : Grantable config request members) {world : World}
    {draw : Draw} {expiresAt : Timestamp}
    (deadline : Timestamp.parse (draw.evaluatedAt.ms + config.ttlMs) = some expiresAt)
    (absent : (world.view draw.evaluatedAt).eventOf (taskId platform request)
      (Approvals.ApprovalStore.policyKey (approvalId platform request)) = none) :
    Approvals.ApprovalStore.record platform (world.view draw.evaluatedAt)
      (evaluationOf platform config request inputSchema outputSchema draw expiresAt)
      (promotionInvocation platform request draw.runId) (approvalId platform request) =
      Approvals.ApprovalStore.recordNew platform (world.view draw.evaluatedAt)
        (ticketOf platform config request inputSchema outputSchema draw expiresAt)
        (capabilityDigest platform
          (ticketOf platform config request inputSchema outputSchema draw expiresAt).toJson) := by
  let evaluation := evaluationOf platform config request inputSchema outputSchema draw expiresAt
  let invocation := promotionInvocation platform request draw.runId
  have honest : ¬ (evaluation.scopeDigest ≠ capabilityDigest platform evaluation.scope.toJson ∨
      evaluation.scope.invocationDigest ≠ capabilityDigest platform invocation.toJson) := by
    rintro (other | other)
    · exact other rfl
    · exact other rfl
  have unwritten : (world.view draw.evaluatedAt).eventOf evaluation.scope.taskId.column
      (Approvals.ApprovalStore.policyKey (approvalId platform request)) = none := by
    rw [show evaluation.scope.taskId = taskId platform request from rfl, taskId_column]
    exact absent
  have evaluationRead : evaluation.parse = some evaluation := evaluationOf_parse grantable deadline
  have invocationRead : invocation.parse = some invocation := promotionInvocation_parse platform request draw.runId
  show Approvals.ApprovalStore.record platform (world.view draw.evaluatedAt) evaluation invocation _ = _
  simp only [Approvals.ApprovalStore.record, Approvals.ApprovalStore.parsed, evaluationRead, invocationRead,
    Transactions.ok_bind, if_neg honest, unwritten]
  rfl

theorem recordApproval_of_ok {evaluation : PolicyEvaluation} {invocation : CapabilityInvocation} {approvalId : Id}
    {world : World} {after : ApprovalDb}
    (recorded : Approvals.ApprovalStore.record platform (world.view evaluation.decision.evaluatedAt) evaluation
      invocation approvalId = .ok after) :
    recordApproval platform evaluation invocation approvalId world =
      .ok ((), { world with
        approvals := after.approvals
        policyEvents := after.taskEvents.drop world.ledger.events.length }) := by
  rw [recordApproval, recorded]

theorem record_ok (inputSchema outputSchema : Json) {world : World} {draw : Draw} {expiresAt : Timestamp}
    (compiled : Compiled platform request world.ledger) (unasked : Unasked platform request world)
    (grantable : Grantable config request world.memory.members)
    (ledgerIds : ∀ row ∈ world.ledger.events, row.id ≠ draw.decisionId.column)
    (policyIds : ∀ row ∈ world.policyEvents, row.id ≠ draw.decisionId.column)
    (deadline : Timestamp.parse (draw.evaluatedAt.ms + config.ttlMs) = some expiresAt) :
    ∃ createdAt, recordApproval platform (evaluationOf platform config request inputSchema outputSchema draw expiresAt)
      (promotionInvocation platform request draw.runId) (approvalId platform request) world =
      .ok ((), askedWorld platform config request inputSchema outputSchema draw createdAt expiresAt world) := by
  let clock := draw.evaluatedAt
  let view := world.view clock
  let ticket := ticketOf platform config request inputSchema outputSchema draw expiresAt
  let digest := capabilityDigest platform ticket.toJson
  obtain ⟨createdAt, task⟩ := compiled.view_task clock
  refine ⟨createdAt, ?_⟩
  let event := Approvals.ApprovalStore.policyEvent (compiledTask platform request createdAt)
    (requestStep platform request) ticket digest
  have step := compiled.view_step clock
  have absent := eventOf_absent compiled.keys unasked.policy clock (approvalId platform request)
  have matches_ : MatchesStep platform (compiledTask platform request createdAt) (requestStep platform request)
      ticket.evaluation ticket.invocation := ⟨rfl, rfl, rfl, rfl, rfl, rfl, rfl, rfl⟩
  have submits : view.member request.tenantId request.submitter .submit = .ok () := if_pos grantable.submits
  have opened := openApproval_ok (compiledTask platform request createdAt) (requestStep platform request) clock unasked
    (show ticket.evaluation.decision.decision = .approvalRequired from rfl) rfl grantable.approves
  have ids : ∀ other ∈ view.taskEvents, other.id ≠ event.id := by
    intro other member
    rcases List.mem_append.mp member with old | new
    · obtain ⟨stored, inside, rfl⟩ := List.mem_map.mp old
      exact ledgerIds stored inside
    · exact policyIds other new
  have named : event.taskId = taskId platform request := taskId_column platform request
  have recorded : Approvals.ApprovalStore.recordNew platform view ticket digest =
      .ok { view with
        approvals := world.approvals.set (approvalId platform request)
          (Approvals.ApprovalStore.pendingRow (compiledTask platform request createdAt) (requestStep platform request)
            ticket.evaluation config.approver)
        taskEvents := view.taskEvents ++ [event] } := by
    unfold Approvals.ApprovalStore.recordNew
    rw [show ticket.evaluation.scope.taskId = taskId platform request from rfl,
      show ticket.evaluation.scope.stepId = stepId platform request from rfl, task]
    show ((Approvals.ApprovalStore.parsed
      ((view.stepOf (stepId platform request) (taskId platform request)).bind TaskStep.parse)) >>= _) = _
    rw [step]
    show (if MatchesStep platform (compiledTask platform request createdAt) (requestStep platform request)
      ticket.evaluation ticket.invocation then _ else _) = _
    rw [if_pos matches_]
    show (view.member request.tenantId request.submitter .submit >>= fun _ => _) = _
    rw [submits]
    show (Approvals.ApprovalStore.openApproval view (approvalId platform request)
      (compiledTask platform request createdAt) (requestStep platform request) ticket.evaluation >>= _) = _
    rw [opened]
    refine insertEvent_fresh ids ?_
    rw [named]
    exact absent
  have stored : Approvals.ApprovalStore.record platform view ticket.evaluation ticket.invocation
      (approvalId platform request) = Approvals.ApprovalStore.recordNew platform view ticket digest :=
    record_unwritten grantable deadline absent
  have dropped : (view.taskEvents ++ [event]).drop world.ledger.events.length = world.policyEvents ++ [event] := by
    rw [show view.taskEvents = world.ledger.events.map storedEvent ++ world.policyEvents from rfl, List.append_assoc,
      ← List.length_map (f := storedEvent), List.drop_left]
  refine (recordApproval_of_ok (stored.trans recorded)).trans ?_
  simp only [dropped]
  rfl

/-- One approval stands for the task, and is read with its ticket. -/
structure Asked (platform : Platform) (request : PromotionRequest) (world : World) : Prop where
  compiled : Compiled platform request world.ledger
  approval : ∃ row, world.approvals.get? (approvalId platform request) = some row ∧
    row.taskId = taskId platform request ∧ row.status = .pending
  only : ∀ id row, world.approvals.get? id = some row → row.taskId = taskId platform request →
    id = approvalId platform request
  ticket : ∀ clock, ∃ found, Approvals.ApprovalStore.ticket (world.view clock) (approvalId platform request) = .ok found

/-- An approval that stands beside a ticket that is read is read. -/
theorem ticket_found {db : ApprovalDb} {id : Id} {row : ApprovalRow} {event : Approvals.ApprovalStore.TaskEvent}
    {ticket : Ticket} {expiresAt : Timestamp} (standing : db.approvals.get? id.column = some row)
    (listed : db.eventOf row.taskId (Approvals.ApprovalStore.policyKey id.column) = some event)
    (held : event.payload = .ticket ticket) (evaluationRead : ticket.evaluation.parse = some ticket.evaluation)
    (invocationRead : ticket.invocation.parse = some ticket.invocation)
    (expiry : ticket.evaluation.expiresAt = some expiresAt) :
    ∃ found, Approvals.ApprovalStore.ticket db id = .ok found := by
  simp only [Approvals.ApprovalStore.ticket, standing, listed, held, Approvals.ApprovalStore.parsed, evaluationRead,
    invocationRead, expiry, Transactions.ok_bind]
  exact ⟨_, rfl⟩

theorem asked_of_record (inputSchema outputSchema : Json) {world : World} {draw : Draw} (createdAt : Timestamp)
    {expiresAt : Timestamp}
    (compiled : Compiled platform request world.ledger) (unasked : Unasked platform request world)
    (grantable : Grantable config request world.memory.members)
    (deadline : Timestamp.parse (draw.evaluatedAt.ms + config.ttlMs) = some expiresAt) :
    Asked platform request (askedWorld platform config request inputSchema outputSchema draw createdAt expiresAt
      world) where
  compiled := compiled
  approval := ⟨_, JsMap.get?_set_self _ _ _, taskId_column platform request, rfl⟩
  only := by
    intro id row found ofTask
    by_cases same : approvalId platform request = id
    · exact same.symm
    · rw [show (askedWorld platform config request inputSchema outputSchema draw createdAt expiresAt world).approvals =
        world.approvals.set _ _ from rfl, JsMap.get?_set_of_ne _ same] at found
      exact absurd ofTask (unasked.rows id row found)
  ticket := by
    intro clock
    let ticket := ticketOf platform config request inputSchema outputSchema draw expiresAt
    let after := askedWorld platform config request inputSchema outputSchema draw createdAt expiresAt world
    let row := Approvals.ApprovalStore.pendingRow (compiledTask platform request createdAt)
      (requestStep platform request) ticket.evaluation config.approver
    let event := Approvals.ApprovalStore.policyEvent (compiledTask platform request createdAt)
      (requestStep platform request) ticket (capabilityDigest platform ticket.toJson)
    have standing : (after.view clock).approvals.get? (approvalId platform request).column = some row := by
      rw [approvalId_column]
      exact JsMap.get?_set_self _ _ _
    have listed : (after.view clock).eventOf row.taskId
        (Approvals.ApprovalStore.policyKey (approvalId platform request).column) = some event := by
      have before := eventOf_absent compiled.keys unasked.policy clock (approvalId platform request)
      rw [show row.taskId = taskId platform request from taskId_column platform request, approvalId_column]
      unfold ApprovalDb.eventOf at before ⊢
      rw [show (after.view clock).taskEvents = (world.view clock).taskEvents ++ [event] from
        (List.append_assoc _ _ _).symm, List.find?_append, before, Option.none_or]
      exact List.find?_cons_of_pos (decide_eq_true ⟨taskId_column platform request, rfl⟩)
    exact ticket_found standing listed rfl (evaluationOf_parse grantable deadline)
      (promotionInvocation_parse platform request draw.runId) rfl

theorem readApproval_asked {world : World} (asked : Asked platform request world) (clock : Timestamp) :
    ∃ resolution, readApproval (approvalId platform request) clock world = (.ok resolution, world) := by
  obtain ⟨found, ran⟩ := asked.ticket clock
  refine ⟨found.2, ?_⟩
  unfold readApproval
  rw [ran]

end Request

end KernelJson.Memory.PromotionWrites
