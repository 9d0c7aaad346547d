import KernelJson.Memory.PromotionWrites

/-!
# Resuming the request of an approval

What a submission leaves when its process ends after any of its commits, and
what a later attempt makes of it.  A task that was created and not compiled is
taken for one that is ready, and no attempt gets beyond it.
-/

namespace KernelJson.Memory.Resumption

open Approvals.ApprovalStore (ApprovalDb ApprovalRow MatchesStep Ticket)
open Approvals.Evaluation
open Contracts.Common
open Contracts.Digest
open Contracts.Identity
open Contracts.Platform
open Contracts.Records
open Contracts.Task
open Foundation
open Foundation.JsText
open Foundation.Programs
open Ledger.Store (Db EventRow Surroundings Write)
open Memory.Canonical (approver lesson lesson_waits noMemory preparedLesson preparedLesson_new prepare_lesson
  proposer weighingPlatform)
open Memory.Policy
open Memory.PromotionApprovals
open Memory.PromotionWrites
open Memory.Service
open Memory.Tables

/-! ## A request that may be cut -/

section Request

variable {platform : Platform} {config : PromotionApprovalConfig} {request : PromotionRequest}
  {inputSchema outputSchema : Json}

theorem orStop_some {α : Type} {read : Option α} {value : α} (parsed : read = some value) :
    orStop read = (pure value : Program Stop World α) := by
  rw [parsed]
  rfl

/-- The world after both writes of the ledger. -/
def compiledWorld (platform : Platform) (request : PromotionRequest) (draw : Draw) (world : World) : World :=
  { world with ledger := compiledDb platform request (createdDb platform request world.ledger draw) draw }

theorem compiled_of_absent {db : Db} (absent : Absent platform request db) (draw : Draw) :
    Compiled platform request (compiledDb platform request (createdDb platform request db draw) draw) where
  task := by
    refine ⟨draw.evaluatedAt, ?_⟩
    have others : ∀ task ∈ db.tasks, (if task.id = taskId platform request then
        compiledTask platform request draw.evaluatedAt else task) = task :=
      fun task member => if_neg (absent.tasks task member)
    have none : (db.tasks.filter fun task => task.id = taskId platform request) = [] :=
      List.filter_eq_nil_iff.mpr fun task member accepted => absent.tasks task member (of_decide_eq_true accepted)
    show ((db.tasks ++ [promotionTask platform request draw.evaluatedAt]).map _).filter _ = _
    rw [List.map_append, List.filter_append, List.map_congr_left others, List.map_id', none, List.nil_append]
    have here : (promotionTask platform request draw.evaluatedAt).id = taskId platform request := rfl
    rw [List.map_singleton, if_pos here]
    refine List.filter_eq_self.mpr fun task member => decide_eq_true ?_
    rw [List.mem_singleton.mp member]
    rfl
  step := by
    show (db.steps ++ [requestStep platform request]).find? _ = _
    rw [List.find?_append, List.find?_eq_none.mpr fun step member accepted =>
      absent.steps step member (of_decide_eq_true accepted), Option.none_or]
    exact List.find?_cons_of_pos (decide_eq_true rfl)
  keys := by
    intro row member ofTask
    rcases List.mem_append.mp member with earlier | compiled
    · rcases List.mem_append.mp earlier with old | created
      · exact absurd ofTask (absent.events row old)
      · exact .inl (List.mem_singleton.mp created ▸ rfl)
    · exact .inr (List.mem_singleton.mp compiled ▸ rfl)

/-- The two writes end in a compiled task unless the process is cut between them. -/
theorem openTask_ends {cut : Option Point} {draw : Draw} {world : World} (apart : cut ≠ some .created)
    (grantable : Grantable config request world.memory.members) (absent : Absent platform request world.ledger)
    (fresh : NewIds world draw) :
    Ends (openTask platform cut request (promotionTask platform request draw.evaluatedAt)
        (requestStep platform request) draw) world (fun _ after => after = compiledWorld platform request draw world)
      (fun stop after => stop = .crashed ∧ cut ≠ none ∧ after = compiledWorld platform request draw world) := by
  have ids := fresh.apart
  simp only [List.nodup_cons, List.mem_cons, List.not_mem_nil, or_false, not_or] at ids
  have second : draw.compiledEvent ∈ [draw.createdEvent, draw.compiledEvent, draw.decisionId] :=
    List.mem_cons_of_mem _ List.mem_cons_self
  unfold openTask
  refine Ends.bind (fun _ after => after =
    { world with ledger := createdDb platform request world.ledger draw })
    (Ends.transact (create_ok platform config request grantable absent fresh) rfl) ?_
  rintro _ _ rfl
  refine Ends.bind (fun _ after => after =
    { world with ledger := createdDb platform request world.ledger draw }) (Ends.cutAt ?_ fun _ => rfl) ?_
  · intro here
    exact absurd (of_decide_eq_true here) apart
  rintro _ _ rfl
  have compiled := promotionTask_parse platform request draw.evaluatedAt .compiled (by decide)
  rw [orStop_some compiled, pure_bind]
  refine Ends.bind (fun _ after => after = compiledWorld platform request draw world) (Ends.transact
    (compile_ok platform request absent rfl (fresh.ledger _ second) ids.1.1 (fresh.policy _ second)) rfl) ?_
  rintro _ _ rfl
  refine Ends.cutAt (fun here => ⟨rfl, ?_, rfl⟩) fun _ => rfl
  rw [of_decide_eq_true here]
  exact Option.some_ne_none _

/-- The world after the task was found or written. -/
structure Opened (platform : Platform) (request : PromotionRequest) (draw : Draw) (world after : World) : Prop where
  memory : after.memory = world.memory
  approvals : after.approvals = world.approvals
  policy : after.policyEvents = world.policyEvents
  compiled : Compiled platform request after.ledger
  decision : ∀ row ∈ after.ledger.events, row.id ≠ draw.decisionId.column

theorem Opened.unasked {draw : Draw} {world after : World} (opened : Opened platform request draw world after)
    (unasked : Unasked platform request world) : Unasked platform request after := by
  obtain ⟨approval, rows, policy⟩ := unasked
  rw [← opened.approvals] at approval rows
  rw [← opened.policy] at policy
  exact ⟨approval, rows, policy⟩

theorem compiledWorld_opened {draw : Draw} {world : World} (absent : Absent platform request world.ledger)
    (fresh : NewIds world draw) : Opened platform request draw world (compiledWorld platform request draw world) where
  memory := rfl
  approvals := rfl
  policy := rfl
  compiled := compiled_of_absent absent draw
  decision := by
    have ids := fresh.apart
    simp only [List.nodup_cons, List.mem_cons, List.not_mem_nil, or_false, not_or] at ids
    intro row member
    rcases List.mem_append.mp member with earlier | compiled
    · rcases List.mem_append.mp earlier with old | created
      · exact fresh.ledger draw.decisionId (by simp) row old
      · rw [List.mem_singleton.mp created]
        exact ids.1.2
    · rw [List.mem_singleton.mp compiled]
      exact ids.2.1

theorem ensureTask_ends {cut : Option Point} {draw : Draw} {world : World} (apart : cut ≠ some .created)
    (grantable : Grantable config request world.memory.members)
    (ledger : Absent platform request world.ledger ∨ Compiled platform request world.ledger)
    (fresh : NewIds world draw) :
    Ends (ensureTask platform cut request (promotionTask platform request draw.evaluatedAt)
        (requestStep platform request) draw (world.ledger.task? (taskId platform request)).isSome) world
      (fun _ after => Opened platform request draw world after)
      (fun stop after => stop = .crashed ∧ cut ≠ none ∧ Opened platform request draw world after) := by
  rcases ledger with absent | compiled
  · rw [task?_absent platform request absent]
    refine (openTask_ends apart grantable absent fresh).mono ?_ ?_
    · rintro _ _ rfl
      exact compiledWorld_opened absent fresh
    · rintro _ _ ⟨rfl, cut, rfl⟩
      exact ⟨rfl, cut, compiledWorld_opened absent fresh⟩
  · obtain ⟨createdAt, single⟩ := compiled.task
    have known : world.ledger.task? (taskId platform request) = some (compiledTask platform request createdAt) := by
      unfold Db.task?
      rw [taskId_column]
      exact find?_of_filter single
    rw [known]
    exact Ends.pure ⟨rfl, rfl, rfl, compiled, fresh.ledger draw.decisionId (by simp)⟩

/-- What a request that was cut leaves, where the task is compiled. -/
structure Progressed (platform : Platform) (request : PromotionRequest) (memory : MemoryState) (world : World) :
    Prop where
  memory : world.memory = memory
  state : (Compiled platform request world.ledger ∧ Unasked platform request world) ∨ Asked platform request world

theorem openApproval_ends {cut : Option Point} {draw : Draw} {world : World} (apart : cut ≠ some .created)
    (grantable : Grantable config request world.memory.members)
    (ledger : Absent platform request world.ledger ∨ Compiled platform request world.ledger)
    (unasked : Unasked platform request world) (fresh : NewIds world draw) {expiresAt : Timestamp}
    (deadline : Timestamp.parse (draw.evaluatedAt.ms + config.ttlMs) = some expiresAt) :
    Ends (openApproval platform config inputSchema outputSchema cut request draw) world
      (fun _ after => Asked platform request after ∧ after.memory = world.memory)
      (fun stop after => stop = .crashed ∧ cut ≠ none ∧ Progressed platform request world.memory after) := by
  have task : (promotionTask platform request draw.evaluatedAt).parse =
      some (promotionTask platform request draw.evaluatedAt) :=
    promotionTask_parse platform request draw.evaluatedAt .received (by decide)
  have compiledRead := promotionTask_parse platform request draw.evaluatedAt .compiled (by decide)
  have step : (promotionStep platform request (promotionInvocation platform request draw.runId)).parse =
      some (requestStep platform request) := promotionStep_parse platform request draw.runId
  have evaluated := promotion_evaluates platform config request inputSchema outputSchema grantable
    draw.evaluatedAt deadline
  unfold openApproval
  rw [orStop_some (promotionInvocation_parse platform request draw.runId), pure_bind]
  refine Ends.bind (fun seen after => seen = world ∧ after = world) (Ends.look ⟨rfl, rfl⟩) ?_
  rintro seen here ⟨seenHere, same⟩
  rw [seenHere, same, orStop_some task, pure_bind, orStop_some step, pure_bind]
  refine Ends.bind (fun _ after => Opened platform request draw world after) ?_ ?_
  · refine (ensureTask_ends apart grantable ledger fresh).mono (fun _ _ opened => opened) ?_
    rintro stop after ⟨crashed, cut, opened⟩
    exact ⟨crashed, cut, opened.memory, .inl ⟨opened.compiled, opened.unasked unasked⟩⟩
  intro _ after opened
  rw [orStop_some compiledRead, pure_bind]
  change Ends (orStop (evaluatePolicy platform (promotionRules config request)
    (compiledTask platform request draw.evaluatedAt) (requestStep platform request) _ _ _ _) >>= _) after _ _
  rw [orStop_some evaluated, pure_bind]
  have members : Grantable config request after.memory.members := opened.memory ▸ grantable
  have policyIds : ∀ row ∈ after.policyEvents, row.id ≠ draw.decisionId.column := by
    rw [opened.policy]
    exact fresh.policy draw.decisionId (by simp)
  obtain ⟨createdAt, recorded⟩ := record_ok inputSchema outputSchema opened.compiled (opened.unasked unasked) members
    opened.decision policyIds deadline
  have asked := asked_of_record inputSchema outputSchema createdAt opened.compiled (opened.unasked unasked) members
    deadline
  refine Ends.bind (fun _ done => Asked platform request done ∧ done.memory = world.memory)
    (Ends.transact recorded ⟨asked, opened.memory⟩) ?_
  rintro _ done ⟨asked, memory⟩
  refine Ends.cutAt (fun here => ⟨rfl, ?_, memory, .inr asked⟩) fun _ => ⟨asked, memory⟩
  rw [of_decide_eq_true here]
  exact Option.some_ne_none _

/-- Where an attempt starts a request: without an approval, or with one. -/
structure Held (platform : Platform) (request : PromotionRequest) (memory : MemoryState) (world : World) : Prop where
  memory : world.memory = memory
  state : ((Absent platform request world.ledger ∨ Compiled platform request world.ledger) ∧
    Unasked platform request world) ∨ Asked platform request world

theorem Progressed.held {memory : MemoryState} {world : World}
    (progressed : Progressed platform request memory world) : Held platform request memory world := by
  refine ⟨progressed.memory, ?_⟩
  rcases progressed.state with ⟨compiled, unasked⟩ | asked
  · exact .inl ⟨.inr compiled, unasked⟩
  · exact .inr asked

/-- A request ends with its approval unless the process is cut, and then a later attempt may go on. -/
theorem requestPromotion_ends {cut : Option Point} {draw : Draw} {memory : MemoryState} {world : World}
    (apart : cut ≠ some .created) (grantable : Grantable config request memory.members)
    (held : Held platform request memory world) (fresh : NewIds world draw) {expiresAt : Timestamp}
    (deadline : Timestamp.parse (draw.evaluatedAt.ms + config.ttlMs) = some expiresAt) :
    Ends (requestPromotion platform config inputSchema outputSchema cut request draw) world
      (fun id after => id = approvalId platform request ∧ Asked platform request after ∧ after.memory = memory)
      (fun stop after => stop = .crashed ∧ cut ≠ none ∧ Progressed platform request memory after) := by
  have members : Grantable config request world.memory.members := held.memory ▸ grantable
  unfold requestPromotion
  refine Ends.bind (fun seen after => seen = world ∧ after = world) (Ends.look ⟨rfl, rfl⟩) ?_
  rintro seen here ⟨seenHere, same⟩
  rw [seenHere, same]
  refine Ends.bind (fun _ after => Asked platform request after ∧ after.memory = memory) ?_ ?_
  · rcases held.state with ⟨ledger, unasked⟩ | asked
    · rw [unasked.approval]
      rw [← held.memory]
      exact openApproval_ends apart members ledger unasked fresh deadline
    · obtain ⟨row, standing, -⟩ := asked.approval
      rw [standing]
      exact Ends.pure ⟨asked, held.memory⟩
  · rintro _ after ⟨asked, memory⟩
    obtain ⟨resolution, read⟩ := readApproval_asked asked draw.evaluatedAt
    refine Ends.bind (fun _ done => done = after) ?_ ?_
    · unfold Ends
      rw [read]
    · rintro _ _ rfl
      exact Ends.pure ⟨rfl, asked, memory⟩

end Request

/-! ## Recording the candidate -/

section Submission

variable {platform : Platform} {config : PromotionApprovalConfig} {inputSchema outputSchema : Json}
  {nfc : JsString → JsString} {origin : MemoryOrigin} {context : TenantContext} {raw : Option RawSubmission}
  {prepared : Prepared}

/-- The identifier of the promotion that records the decision on a candidate. -/
def decisionIdOf (platform : Platform) (candidateId : Id) : Id :=
  stableId platform.sha256 (.arr [.str (js "memory-promotion/v1"), .str candidateId.text, .str (js "decide")])

def verdictOf (memory : MemoryState) (origin : MemoryOrigin) (context : TenantContext) (prepared : Prepared) :
    PolicyDecisionResult :=
  judge memory origin context prepared.sub (loadTarget memory context.tenantId prepared.sub.targetMemoryId)

/-- The memory tables hold nothing of the candidate, and the policy asks for an approval. -/
structure Unrecorded (platform : Platform) (origin : MemoryOrigin) (context : TenantContext) (prepared : Prepared)
    (memory : MemoryState) : Prop where
  fresh : alreadyRecorded memory context prepared = false
  decision : ∀ other ∈ memory.promotions, other.id ≠ decisionIdOf platform prepared.candidateId
  asks : (verdictOf memory origin context prepared).decision = .requireApproval

/-- The candidate waits for the approval of its request. -/
structure Waiting (platform : Platform) (context : TenantContext) (prepared : Prepared) (world : World) : Prop where
  asked : Asked platform (requestOf context prepared) world
  candidate : ∃ row, (world.memory.candidates.filter fun row => row.id = prepared.candidateId) = [row] ∧
    row.tenantId = context.tenantId.column ∧ row.idempotencyKey = prepared.sub.idempotencyKey ∧
    row.requestDigest = prepared.requestDigest ∧ row.state = .awaitingApproval ∧
    row.approvalId = some (approvalId platform (requestOf context prepared))
  keyed : ∀ row ∈ world.memory.candidates, row.tenantId = context.tenantId.column →
    row.idempotencyKey = prepared.sub.idempotencyKey → row.id = prepared.candidateId
  decided : ∃ promotion ∈ world.memory.promotions, promotion.candidateId = prepared.candidateId

theorem parse_targeted {sub : CandidateSubmission} (parsed : CandidateSubmission.parse raw = some sub) :
    sub.intent = .new ↔ sub.targetMemoryId = none := by
  simp only [CandidateSubmission.parse, Option.bind_eq_bind, Option.bind_eq_some_iff] at parsed
  obtain ⟨held, -, key, -, subject, -, evidence, -, reason, -, target, -, accepted⟩ := parsed
  split at accepted
  · next holds =>
      cases accepted
      exact holds.2.2.2.1
  · cases accepted

theorem prepare_targeted {tenantId : Id} (prepares : prepare platform nfc tenantId raw = some prepared) :
    prepared.sub.intent = .new ↔ prepared.sub.targetMemoryId = none := by
  simp only [prepare, Option.bind_eq_bind, Option.bind_eq_some_iff] at prepares
  obtain ⟨sub, parsed, same⟩ := prepares
  cases same
  exact parse_targeted parsed

/-- The row of a candidate that waits for an approval. -/
def waitingRow (origin : MemoryOrigin) (context : TenantContext) (prepared : Prepared) (memory : MemoryState)
    (approvalId : Id) (now : Timestamp) : CandidateRow :=
  candidateRow origin context prepared (verdictOf memory origin context prepared) (some approvalId) now

theorem waitingRow_waits {memory : MemoryState} (unrecorded : Unrecorded platform origin context prepared memory)
    (approvalId : Id) (now : Timestamp) :
    (waitingRow origin context prepared memory approvalId now).state = .awaitingApproval ∧
      (waitingRow origin context prepared memory approvalId now).approvalId = some approvalId := by
  refine ⟨?_, if_pos unrecorded.asks⟩
  show stateFor (verdictOf memory origin context prepared).decision = _
  rw [unrecorded.asks]
  rfl

/-- What the second transaction is about to write. -/
theorem secondPhase_waits (nfc : JsString → JsString) {memory : MemoryState}
    (unrecorded : Unrecorded platform origin context prepared memory)
    (writes : Authorized memory.members context .knowledgeWrite) (approvalId : Id) (now : Timestamp) :
    ∃ result promotion,
      secondPhase platform nfc memory origin context prepared (some approvalId) now =
        .ok (result, ⟨[waitingRow origin context prepared memory approvalId now], [promotion], [], []⟩) ∧
      promotion.id = decisionIdOf platform prepared.candidateId ∧ promotion.tenantId = context.tenantId.column ∧
      promotion.candidateId = prepared.candidateId ∧ promotion.decision = .decided .requireApproval ∧
      promotion.approvalId = some approvalId ∧ promotion.resultMemoryId = none := by
  have asks := unrecorded.asks
  have final : finalVerdict (verdictOf memory origin context prepared) (some approvalId) =
      verdictOf memory origin context prepared := if_neg fun missing => Option.some_ne_none _ missing.2
  have unseen : ¬ alreadyRecorded memory context prepared = true := by
    rw [unrecorded.fresh]
    exact Bool.false_ne_true
  unfold secondPhase
  rw [if_pos writes]
  dsimp only
  rw [show judge memory origin context prepared.sub
    (loadTarget memory context.tenantId prepared.sub.targetMemoryId) = verdictOf memory origin context prepared from
      rfl, final, if_neg unseen, if_pos asks]
  unfold recordDecision
  dsimp only
  rw [if_neg (by rw [asks]; decide)]
  exact ⟨_, _, rfl, rfl, rfl, rfl, congrArg _ asks, rfl, rfl⟩

/-- The candidate and its decision enter the tables. -/
theorem commitWrites_waits {memory : MemoryState} (unrecorded : Unrecorded platform origin context prepared memory)
    (targeted : prepared.sub.intent = .new ↔ prepared.sub.targetMemoryId = none) {approvalId : Id}
    (now : Timestamp) {promotion : PromotionRow} (id : promotion.id = decisionIdOf platform prepared.candidateId)
    (tenant : promotion.tenantId = context.tenantId.column) (candidate : promotion.candidateId = prepared.candidateId)
    (decision : promotion.decision = .decided .requireApproval) (approved : promotion.approvalId = some approvalId)
    (nothing : promotion.resultMemoryId = none) :
    commitWrites ⟨[waitingRow origin context prepared memory approvalId now], [promotion], [], []⟩ memory =
      some (putPromotion (putCandidate memory (waitingRow origin context prepared memory approvalId now)) promotion) := by
  have waits := waitingRow_waits unrecorded approvalId now
  have unseen : ∀ other ∈ memory.candidates, ¬ (other.id = prepared.candidateId ∨
      (other.tenantId = context.tenantId.column ∧ other.idempotencyKey = prepared.sub.idempotencyKey)) := by
    intro other member seen
    have none := List.any_eq_false.mp unrecorded.fresh other member
    exact none (decide_eq_true seen)
  have candidateFits : CandidateFits memory (waitingRow origin context prepared memory approvalId now) := {
    fresh := fun other member same => unseen other member (.inl same)
    key := fun other member tenant key => unseen other member (.inr ⟨tenant, key⟩)
    targeted := targeted.trans Option.map_eq_none_iff.symm
    awaiting := fun _ missing => Option.some_ne_none _ (waits.2.symm.trans missing)
    promoted := fun promoted => by cases waits.1.symm.trans promoted }
  have promotionFits : PromotionFits
      (putCandidate memory (waitingRow origin context prepared memory approvalId now)) promotion := {
    fresh := fun other member same => unrecorded.decision other member (same.trans id)
    named := by
      rw [decision]
      exact ⟨fun allows => allows.elim, fun both => absurd nothing both.1⟩
    approved := fun _ missing => Option.some_ne_none _ (approved.symm.trans missing)
    single := fun made => absurd nothing made
    candidate := by
      refine ⟨_, List.mem_append_right _ (List.mem_singleton_self _), candidate.symm, tenant.symm, ?_⟩
      rw [decision]
      exact fun allows => allows.elim }
  exact commitWrites_iff.mpr ⟨_, _, _, .cons candidateFits (.nil _), .cons promotionFits (.nil _), .nil _, .nil _⟩

theorem recordCandidate_waits (nfc : JsString → JsString) {memory : MemoryState} {world : World}
    (unrecorded : Unrecorded platform origin context prepared memory)
    (writes : Authorized memory.members context .knowledgeWrite)
    (targeted : prepared.sub.intent = .new ↔ prepared.sub.targetMemoryId = none)
    (asked : Asked platform (requestOf context prepared) world) (same : world.memory = memory) (now : Timestamp) :
    ∃ result after, recordCandidate platform nfc origin context prepared
        (some (approvalId platform (requestOf context prepared))) now world = .ok (result, after) ∧
      Waiting platform context prepared after ∧ after.memory.members = memory.members := by
  subst same
  let approval := approvalId platform (requestOf context prepared)
  let row := waitingRow origin context prepared world.memory approval now
  have waits := waitingRow_waits unrecorded approval now
  obtain ⟨result, promotion, second, id, tenant, candidate, decision, approved, nothing⟩ :=
    secondPhase_waits nfc unrecorded writes approval now
  have committed := commitWrites_waits unrecorded targeted now id tenant candidate decision approved nothing
  have stands : ApprovalsStand world ⟨[row], [promotion], [], []⟩ := by
    intro other member named same
    rw [List.mem_singleton.mp member, show row.approvalId = some approval from waits.2] at same
    cases same
    obtain ⟨standing, found, -⟩ := asked.approval
    rw [approvalId_column, found]
    rfl
  let after : World := { world with memory := putPromotion (putCandidate world.memory row) promotion }
  have recorded : recordCandidate platform nfc origin context prepared (some approval) now world =
      .ok (result, after) := by
    unfold recordCandidate
    rw [second]
    dsimp only
    rw [if_pos stands, committed]
  have unseen : ∀ other ∈ world.memory.candidates, other.id ≠ prepared.candidateId ∧
      (other.tenantId = context.tenantId.column → other.idempotencyKey ≠ prepared.sub.idempotencyKey) := by
    intro other member
    have none := List.any_eq_false.mp unrecorded.fresh other member
    exact ⟨fun seen => none (decide_eq_true (.inl seen)),
      fun ofTenant seen => none (decide_eq_true (.inr ⟨ofTenant, seen⟩))⟩
  refine ⟨result, after, recorded, ⟨⟨asked.compiled, asked.approval, asked.only, asked.ticket⟩, ?_, ?_, ?_⟩, rfl⟩
  · refine ⟨row, ?_, rfl, rfl, rfl, waits⟩
    show (world.memory.candidates ++ [row]).filter _ = _
    rw [List.filter_append, List.filter_eq_nil_iff.mpr fun other member accepted =>
      (unseen other member).1 (of_decide_eq_true accepted), List.nil_append]
    exact List.filter_eq_self.mpr fun other member => List.mem_singleton.mp member ▸ decide_eq_true rfl
  · intro other member ofTenant key
    rcases List.mem_append.mp member with old | new
    · exact absurd key ((unseen other old).2 ofTenant)
    · rw [List.mem_singleton.mp new]
      rfl
  · exact ⟨promotion, List.mem_append_right _ (List.mem_singleton_self _), candidate⟩

/-! ## Attempts -/

theorem firstBy_some {α : Type} (before : α → α → Bool) {rows : List α} (nonempty : rows ≠ []) :
    ∃ first, firstBy before rows = some first := by
  -- of the first two rows one is kept, and the rest is compared with it
  have shorter : ∀ (best row : α) (rest : List α),
      firstBy before (best :: row :: rest) = firstBy before ((if before row best then row else best) :: rest) := by
    intro best row rest
    simp only [firstBy, List.foldl_cons]
    split <;> rfl
  cases rows with
  | nil => exact absurd rfl nonempty
  | cons row rest =>
      clear nonempty
      induction rest generalizing row with
      | nil => exact ⟨row, rfl⟩
      | cons next rest ih =>
          rw [shorter]
          exact ih _

/-- A candidate that waits is answered from its row. -/
theorem firstPhase_waiting (origin : MemoryOrigin) {world : World} (waiting : Waiting platform context prepared world)
    (writes : Authorized world.memory.members context .knowledgeWrite) :
    ∃ result, firstPhase world.memory origin context prepared = .ok (.inl result) := by
  obtain ⟨row, single, tenant, key, digest, -⟩ := waiting.candidate
  have inside : row ∈ world.memory.candidates.filter fun row => row.id = prepared.candidateId := by
    rw [single]
    exact List.mem_singleton_self row
  obtain ⟨member, accepted⟩ := List.mem_filter.mp inside
  have named : row.id = prepared.candidateId := of_decide_eq_true accepted
  have found : candidateOf world.memory context.tenantId prepared.sub.idempotencyKey = some row := by
    cases seen : candidateOf world.memory context.tenantId prepared.sub.idempotencyKey with
    | none => exact absurd (decide_eq_true ⟨tenant, key⟩) (List.find?_eq_none.mp seen row member)
    | some other =>
        have matched := List.find?_some seen
        obtain ⟨ofTenant, sameKey⟩ := of_decide_eq_true matched
        have inside := List.mem_of_find?_eq_some seen
        have listed : other ∈ [row] := single ▸ List.mem_filter.mpr
          ⟨inside, decide_eq_true (waiting.keyed other inside ofTenant sameKey)⟩
        rw [List.mem_singleton.mp listed]
  obtain ⟨promotion, decided, ofCandidate⟩ := waiting.decided
  have nonempty : (world.memory.promotions.filter fun promotion => promotion.candidateId = row.id) ≠ [] := by
    refine List.ne_nil_of_mem (List.mem_filter.mpr ⟨decided, decide_eq_true ?_⟩)
    rw [ofCandidate, named]
  obtain ⟨first, chosen⟩ := firstBy_some PromotionRow.before nonempty
  have answered : ∃ result, resultFor world.memory row true = .ok result := by
    unfold resultFor
    rw [chosen]
    exact ⟨_, rfl⟩
  obtain ⟨result, answered⟩ := answered
  refine ⟨result, ?_⟩
  have replay : existing world.memory context prepared = .ok (some result) := by
    unfold existing
    rw [found]
    show (if row.requestDigest ≠ prepared.requestDigest then _ else _) = _
    rw [if_neg (not_not_intro digest), answered]
    rfl
  simp only [firstPhase, if_pos writes, replay, Transactions.ok_bind]

theorem firstPhase_unrecorded {memory : MemoryState} (unrecorded : Unrecorded platform origin context prepared memory)
    (writes : Authorized memory.members context .knowledgeWrite) :
    firstPhase memory origin context prepared = .ok (.inr true) := by
  have unseen : candidateOf memory context.tenantId prepared.sub.idempotencyKey = none := by
    refine List.find?_eq_none.mpr fun other member accepted => ?_
    have none := List.any_eq_false.mp unrecorded.fresh other member
    exact none (decide_eq_true (.inr (of_decide_eq_true accepted)))
  have first : existing memory context prepared = .ok none := by
    unfold existing
    rw [unseen]
  have asks : (judge memory origin context prepared.sub
      (loadTarget memory context.tenantId prepared.sub.targetMemoryId)).decision = .requireApproval := unrecorded.asks
  simp only [firstPhase, if_pos writes, first, Transactions.ok_bind, asks]
  rfl

/-- Whoever may submit a task may write knowledge. -/
theorem authorized_writes {members : Memberships} {context : TenantContext}
    (submits : Authorized members context .submit) : Authorized members context .knowledgeWrite := by
  refine ⟨submits.1, fun other => ?_⟩
  rcases other with approves | schedules
  · cases approves
  · cases schedules

/-- Where an attempt may start: before the candidate was recorded, or after. -/
def Resumable (platform : Platform) (context : TenantContext) (prepared : Prepared) (memory : MemoryState)
    (world : World) : Prop :=
  Held platform (requestOf context prepared) memory world ∨
    (Waiting platform context prepared world ∧ world.memory.members = memory.members)

theorem submit_ends (inputSchema outputSchema : Json) {cut : Option Point} {draw : Draw} {memory : MemoryState} {world : World}
    (apart : cut ≠ some .created) (prepares : prepare platform nfc context.tenantId raw = some prepared)
    (grantable : Grantable config (requestOf context prepared) memory.members)
    (unrecorded : Unrecorded platform origin context prepared memory)
    (resumable : Resumable platform context prepared memory world) (fresh : NewIds world draw)
    {expiresAt : Timestamp} (deadline : Timestamp.parse (draw.evaluatedAt.ms + config.ttlMs) = some expiresAt) :
    Ends (PromotionApprovals.submit platform config inputSchema outputSchema nfc cut origin context raw draw) world
      (fun _ after => Waiting platform context prepared after ∧ after.memory.members = memory.members)
      (fun stop after => stop = .crashed ∧ cut ≠ none ∧ Resumable platform context prepared memory after) := by
  have writes : Authorized memory.members context .knowledgeWrite := authorized_writes grantable.submits
  unfold PromotionApprovals.submit
  refine Ends.bind (fun _ after => after = world) (Ends.cutAt (fun here => ⟨rfl, ?_, resumable⟩) fun _ => rfl) ?_
  · rw [of_decide_eq_true here]
    exact Option.some_ne_none _
  intro _ here same
  rw [same, orStop_some prepares, pure_bind]
  rcases resumable with held | ⟨waiting, members⟩
  · refine Ends.bind (fun first after => first = .inr true ∧ after = world) ?_ ?_
    · unfold Ends readFirst
      rw [held.memory, firstPhase_unrecorded unrecorded writes]
      exact ⟨rfl, rfl⟩
    · rintro first after ⟨same, here⟩
      rw [same, here]
      refine Ends.bind (fun id done => id = some (approvalId platform (requestOf context prepared)) ∧
        Asked platform (requestOf context prepared) done ∧ done.memory = memory) ?_ ?_
      · refine Ends.bind (fun id done => id = approvalId platform (requestOf context prepared) ∧
          Asked platform (requestOf context prepared) done ∧ done.memory = memory) ?_ ?_
        · refine (requestPromotion_ends apart grantable held fresh deadline).mono (fun _ _ done => done) ?_
          rintro stop after ⟨crashed, cut, progressed⟩
          exact ⟨crashed, cut, .inl progressed.held⟩
        · rintro _ done ⟨rfl, asked, memory⟩
          exact Ends.pure ⟨rfl, asked, memory⟩
      rintro _ done ⟨rfl, asked, memory⟩
      obtain ⟨result, after, recorded, waiting, members⟩ := recordCandidate_waits nfc unrecorded writes
        (prepare_targeted prepares) asked memory draw.recordedAt
      refine Ends.bind (fun _ last => Waiting platform context prepared last ∧ last.memory.members = _)
        (Ends.transact recorded ⟨waiting, members⟩) ?_
      rintro _ last ⟨waiting, members⟩
      refine Ends.bind (fun _ last => Waiting platform context prepared last ∧ last.memory.members = _)
        (Ends.cutAt (fun here => ⟨rfl, ?_, .inr ⟨waiting, members⟩⟩) fun _ => ⟨waiting, members⟩) ?_
      · rw [of_decide_eq_true here]
        exact Option.some_ne_none _
      · exact fun _ _ done => Ends.pure done
  · obtain ⟨result, replay⟩ := firstPhase_waiting origin waiting (members ▸ writes)
    refine Ends.bind (fun first after => first = .inl result ∧ after = world) ?_ ?_
    · unfold Ends readFirst
      rw [replay]
      exact ⟨rfl, rfl⟩
    · rintro first after ⟨same, here⟩
      rw [same, here]
      exact Ends.pure ⟨waiting, members⟩

/-- An attempt for a candidate that waits changes nothing. -/
theorem submit_waiting {cut : Option Point} {draw : Draw} {world : World}
    (prepares : prepare platform nfc context.tenantId raw = some prepared)
    (waiting : Waiting platform context prepared world)
    (writes : Authorized world.memory.members context .knowledgeWrite) :
    (PromotionApprovals.submit platform config inputSchema outputSchema nfc cut origin context raw draw world).2 =
      world := by
  obtain ⟨result, replay⟩ := firstPhase_waiting origin waiting writes
  have ends : Ends (PromotionApprovals.submit platform config inputSchema outputSchema nfc cut origin context raw draw)
      world (fun _ after => after = world) (fun _ after => after = world) := by
    unfold PromotionApprovals.submit
    refine Ends.bind (fun _ after => after = world) (Ends.cutAt (fun _ => rfl) fun _ => rfl) ?_
    intro _ here same
    rw [same, orStop_some prepares, pure_bind]
    refine Ends.bind (fun first after => first = .inl result ∧ after = world) ?_ ?_
    · unfold Ends readFirst
      rw [replay]
      exact ⟨rfl, rfl⟩
    · rintro first after ⟨same, here⟩
      rw [same, here]
      exact Ends.pure rfl
  exact ends.world

/-- Attempts of one submission, one after another, each by a process that may end at an allowed point. -/
inductive Attempts (platform : Platform) (config : PromotionApprovalConfig) (inputSchema outputSchema : Json)
    (nfc : JsString → JsString) (origin : MemoryOrigin) (context : TenantContext) (raw : Option RawSubmission)
    (allowed : Option Point → Prop) (start : World) : World → Prop where
  | none : Attempts platform config inputSchema outputSchema nfc origin context raw allowed start start
  | next {world : World}
      (earlier : Attempts platform config inputSchema outputSchema nfc origin context raw allowed start world)
      (cut : Option Point) (draw : Draw) (ends : allowed cut) (fresh : NewIds world draw) {expiresAt : Timestamp}
      (deadline : Timestamp.parse (draw.evaluatedAt.ms + config.ttlMs) = some expiresAt) :
      Attempts platform config inputSchema outputSchema nfc origin context raw allowed start
        (PromotionApprovals.submit platform config inputSchema outputSchema nfc cut origin context raw draw world).2

/-- Nothing of the submission was recorded yet. -/
structure Clean (platform : Platform) (origin : MemoryOrigin) (context : TenantContext) (prepared : Prepared)
    (world : World) : Prop where
  absent : Absent platform (requestOf context prepared) world.ledger
  unasked : Unasked platform (requestOf context prepared) world
  unrecorded : Unrecorded platform origin context prepared world.memory

/-- The process does not end between the two writes of the task. -/
def WritesTogether (cut : Option Point) : Prop := cut ≠ some .created

theorem attempts_resumable {start world : World}
    (prepares : prepare platform nfc context.tenantId raw = some prepared)
    (grantable : Grantable config (requestOf context prepared) start.memory.members)
    (clean : Clean platform origin context prepared start)
    (attempts : Attempts platform config inputSchema outputSchema nfc origin context raw WritesTogether start world) :
    Resumable platform context prepared start.memory world := by
  induction attempts with
  | none => exact .inl ⟨rfl, .inl ⟨.inl clean.absent, clean.unasked⟩⟩
  | next _ cut draw ends fresh deadline ih =>
      have ended := submit_ends inputSchema outputSchema ends prepares grantable
        clean.unrecorded ih fresh deadline
      exact (ended.mono (fun _ _ waits => .inr waits) fun _ _ stopped => stopped.2.2).world

theorem attempts_waiting {start world : World} (prepares : prepare platform nfc context.tenantId raw = some prepared)
    (waiting : Waiting platform context prepared start)
    (writes : Authorized start.memory.members context .knowledgeWrite) {allowed : Option Point → Prop}
    (attempts : Attempts platform config inputSchema outputSchema nfc origin context raw allowed start world) :
    world = start := by
  induction attempts with
  | none => rfl
  | next _ cut draw ends fresh deadline ih =>
      rw [ih]
      exact submit_waiting prepares waiting writes

/-- Where no attempt ended between the two writes of the task, one that is not cut returns, and leaves one task, one
approval and the candidate that waits for it; and no later attempt changes that. -/
theorem attempts_reach_waiting (inputSchema outputSchema : Json) {start world : World} {draw : Draw}
    {expiresAt : Timestamp} (prepares : prepare platform nfc context.tenantId raw = some prepared)
    (grantable : Grantable config (requestOf context prepared) start.memory.members)
    (clean : Clean platform origin context prepared start)
    (attempts : Attempts platform config inputSchema outputSchema nfc origin context raw WritesTogether start world)
    (fresh : NewIds world draw)
    (deadline : Timestamp.parse (draw.evaluatedAt.ms + config.ttlMs) = some expiresAt) :
    ∃ result after, PromotionApprovals.submit platform config inputSchema outputSchema nfc none origin context raw draw
        world = (.ok result, after) ∧ Waiting platform context prepared after ∧
      ∀ last, Attempts platform config inputSchema outputSchema nfc origin context raw (fun _ => True) after last →
        last = after := by
  have resumable := attempts_resumable prepares grantable clean attempts
  have together : WritesTogether none := fun same => by cases same
  have ends := submit_ends inputSchema outputSchema together prepares grantable clean.unrecorded resumable fresh deadline
  unfold Ends at ends
  cases ran : PromotionApprovals.submit platform config inputSchema outputSchema nfc none origin context raw draw
      world with
  | mk done after =>
      rw [ran] at ends
      cases done with
      | error stop => exact absurd rfl ends.2.1
      | ok result =>
          refine ⟨result, after, rfl, ends.1, fun last later => ?_⟩
          have writes := authorized_writes grantable.submits
          rw [← ends.2] at writes
          exact attempts_waiting prepares ends.1 writes later

/-! ## A task that was not compiled -/

/-- The task was created, and neither its step nor an approval was written. -/
structure Halfway (platform : Platform) (request : PromotionRequest) (world : World) : Prop where
  task : ∃ createdAt, (world.ledger.tasks.filter fun task => task.id = taskId platform request) =
    [promotionTask platform request createdAt]
  steps : ∀ step ∈ world.ledger.steps, step.id ≠ stepId platform request
  keys : ∀ row ∈ world.ledger.events, row.taskId = taskId platform request →
    row.key = js "create" ∨ row.key = js "compile"
  unasked : Unasked platform request world

theorem halfway_of_created {request : PromotionRequest} {world : World} (absent : Absent platform request world.ledger)
    (unasked : Unasked platform request world) (draw : Draw) :
    Halfway platform request { world with ledger := createdDb platform request world.ledger draw } where
  task := by
    refine ⟨draw.evaluatedAt, ?_⟩
    show (world.ledger.tasks ++ [promotionTask platform request draw.evaluatedAt]).filter _ = _
    rw [List.filter_append, List.filter_eq_nil_iff.mpr fun task member accepted =>
      absent.tasks task member (of_decide_eq_true accepted), List.nil_append]
    exact List.filter_eq_self.mpr fun task member => List.mem_singleton.mp member ▸ decide_eq_true rfl
  steps := absent.steps
  keys := by
    intro row member ofTask
    rcases List.mem_append.mp member with old | created
    · exact absurd ofTask (absent.events row old)
    · exact .inl (List.mem_singleton.mp created ▸ rfl)
  unasked := ⟨unasked.approval, unasked.rows, unasked.policy⟩

/-- The step of the task is looked for in vain. -/
theorem record_halfway {request : PromotionRequest} {world : World} {draw : Draw} {expiresAt : Timestamp}
    (halfway : Halfway platform request world) (grantable : Grantable config request world.memory.members)
    (deadline : Timestamp.parse (draw.evaluatedAt.ms + config.ttlMs) = some expiresAt) :
    recordApproval platform (evaluationOf platform config request inputSchema outputSchema draw expiresAt)
      (promotionInvocation platform request draw.runId) (approvalId platform request) world =
      .error (.approval .schema) := by
  have absent : (world.view draw.evaluatedAt).eventOf (taskId platform request)
      (Approvals.ApprovalStore.policyKey (approvalId platform request)) = none :=
    eventOf_absent halfway.keys halfway.unasked.policy draw.evaluatedAt (approvalId platform request)
  let view := world.view draw.evaluatedAt
  let ticket := ticketOf platform config request inputSchema outputSchema draw expiresAt
  obtain ⟨createdAt, single⟩ := halfway.task
  have task : (view.tasks.get? (taskId platform request).column).bind Task.parse =
      some (promotionTask platform request createdAt) := by
    rw [taskId_column, show view = world.view draw.evaluatedAt from rfl, World.view, tableOf_get?,
      find?_of_filter single, Option.bind_some]
    exact promotionTask_parse platform request createdAt .received (by decide)
  have step : (view.stepOf (stepId platform request) (taskId platform request)).bind TaskStep.parse = none := by
    unfold ApprovalDb.stepOf
    rw [stepId_column, show view = world.view draw.evaluatedAt from rfl, World.view, tableOf_get?,
      List.find?_eq_none.mpr fun step member accepted => halfway.steps step member (of_decide_eq_true accepted)]
    rfl
  have failed : Approvals.ApprovalStore.recordNew platform view ticket (capabilityDigest platform ticket.toJson) =
      .error .schema := by
    unfold Approvals.ApprovalStore.recordNew
    rw [show ticket.evaluation.scope.taskId = taskId platform request from rfl,
      show ticket.evaluation.scope.stepId = stepId platform request from rfl, task]
    show (Approvals.ApprovalStore.parsed
      ((view.stepOf (stepId platform request) (taskId platform request)).bind TaskStep.parse) >>= _) = _
    rw [step]
    rfl
  unfold recordApproval
  rw [show (evaluationOf platform config request inputSchema outputSchema draw expiresAt).decision.evaluatedAt =
    draw.evaluatedAt from rfl, record_unwritten grantable deadline absent, failed]

/-- A submission that opens an approval ends as the opening does, where that only stops. -/
theorem submit_of_openApproval {cut : Option Point} {draw : Draw} {world : World} {stopped : Stop → World → Prop}
    (prepares : prepare platform nfc context.tenantId raw = some prepared)
    (unasked : Unasked platform (requestOf context prepared) world)
    (writes : Authorized world.memory.members context .knowledgeWrite)
    (unrecorded : Unrecorded platform origin context prepared world.memory)
    (begun : cut = some .begun → stopped .crashed world)
    (opens : Ends (openApproval platform config inputSchema outputSchema cut (requestOf context prepared) draw) world
      (fun _ _ => False) stopped) :
    Ends (PromotionApprovals.submit platform config inputSchema outputSchema nfc cut origin context raw draw) world
      (fun _ _ => False) stopped := by
  unfold PromotionApprovals.submit
  refine Ends.bind (fun _ after => after = world)
    (Ends.cutAt (fun here => begun (of_decide_eq_true here)) fun _ => rfl) ?_
  intro _ here same
  rw [same, orStop_some prepares, pure_bind]
  refine Ends.bind (fun first after => first = .inr true ∧ after = world) ?_ ?_
  · unfold Ends readFirst
    rw [firstPhase_unrecorded unrecorded writes]
    exact ⟨rfl, rfl⟩
  rintro first after ⟨same, here⟩
  rw [same, here]
  refine Ends.bind (fun _ _ => False) ?_ fun _ _ none => none.elim
  refine Ends.bind (fun _ _ => False) ?_ fun _ _ none => none.elim
  unfold requestPromotion
  refine Ends.bind (fun seen after => seen = world ∧ after = world) (Ends.look ⟨rfl, rfl⟩) ?_
  rintro seen here ⟨seenHere, same⟩
  rw [seenHere, same, unasked.approval]
  exact Ends.bind (fun _ _ => False) opens fun _ _ none => none.elim

/-- No attempt gets beyond a task that was created and not compiled. -/
theorem submit_halfway (inputSchema outputSchema : Json) (cut : Option Point) {draw : Draw} {world : World}
    (prepares : prepare platform nfc context.tenantId raw = some prepared)
    (halfway : Halfway platform (requestOf context prepared) world)
    (grantable : Grantable config (requestOf context prepared) world.memory.members)
    (unrecorded : Unrecorded platform origin context prepared world.memory) {expiresAt : Timestamp}
    (deadline : Timestamp.parse (draw.evaluatedAt.ms + config.ttlMs) = some expiresAt) :
    Ends (PromotionApprovals.submit platform config inputSchema outputSchema nfc cut origin context raw draw) world
      (fun _ _ => False) (fun _ after => after = world) := by
  let request := requestOf context prepared
  refine submit_of_openApproval prepares halfway.unasked (authorized_writes grantable.submits) unrecorded
    (fun _ => rfl) ?_
  have task : (promotionTask platform request draw.evaluatedAt).parse =
      some (promotionTask platform request draw.evaluatedAt) :=
    promotionTask_parse platform request draw.evaluatedAt .received (by decide)
  have compiledRead := promotionTask_parse platform request draw.evaluatedAt .compiled (by decide)
  have step : (promotionStep platform request (promotionInvocation platform request draw.runId)).parse =
      some (requestStep platform request) := promotionStep_parse platform request draw.runId
  have evaluated := promotion_evaluates platform config request inputSchema outputSchema grantable draw.evaluatedAt
    deadline
  have known : (world.ledger.task? (taskId platform request)).isSome = true := by
    obtain ⟨createdAt, single⟩ := halfway.task
    unfold Db.task?
    rw [taskId_column, find?_of_filter single]
    rfl
  unfold openApproval
  rw [orStop_some (promotionInvocation_parse platform request draw.runId), pure_bind]
  refine Ends.bind (fun seen after => seen = world ∧ after = world) (Ends.look ⟨rfl, rfl⟩) ?_
  rintro seen here ⟨seenHere, same⟩
  rw [seenHere, same, orStop_some task, pure_bind, orStop_some step, pure_bind, known]
  refine Ends.bind (fun _ after => after = world) (Ends.pure rfl) ?_
  intro _ here same
  rw [same, orStop_some compiledRead, pure_bind]
  change Ends (orStop (evaluatePolicy platform (promotionRules config request)
    (compiledTask platform request draw.evaluatedAt) (requestStep platform request) _ _ _ _) >>= _) world _ _
  rw [orStop_some evaluated, pure_bind]
  refine Ends.bind (fun _ _ => False) ?_ fun _ _ none => none.elim
  unfold Ends
  rw [run_transact_error (record_halfway halfway grantable deadline)]

/-- A process that ends between the two writes leaves the task halfway. -/
theorem submit_created {draw : Draw} {world : World}
    (prepares : prepare platform nfc context.tenantId raw = some prepared)
    (grantable : Grantable config (requestOf context prepared) world.memory.members)
    (clean : Clean platform origin context prepared world) (fresh : NewIds world draw) :
    (PromotionApprovals.submit platform config inputSchema outputSchema nfc (some .created) origin context raw draw
      world).2 = { world with ledger := createdDb platform (requestOf context prepared) world.ledger draw } := by
  let request := requestOf context prepared
  let created : World := { world with ledger := createdDb platform request world.ledger draw }
  have task : (promotionTask platform request draw.evaluatedAt).parse =
      some (promotionTask platform request draw.evaluatedAt) :=
    promotionTask_parse platform request draw.evaluatedAt .received (by decide)
  have step : (promotionStep platform request (promotionInvocation platform request draw.runId)).parse =
      some (requestStep platform request) := promotionStep_parse platform request draw.runId
  have unknown : world.ledger.task? (taskId platform request) = none :=
    task?_absent platform request clean.absent
  have opens : Ends (openTask platform (some .created) request (promotionTask platform request draw.evaluatedAt)
      (requestStep platform request) draw) world (fun _ _ => False) (fun _ after => after = created) := by
    unfold openTask
    refine Ends.bind (fun _ after => after = created)
      (Ends.transact (create_ok platform config request grantable clean.absent fresh) rfl) ?_
    intro _ here same
    rw [same]
    refine Ends.bind (fun _ _ => False) (Ends.cutAt (fun _ => rfl) fun there => ?_) fun _ _ none => none.elim
    cases there
  have ends : Ends (openApproval platform config inputSchema outputSchema (some .created) request draw) world
      (fun _ _ => False) (fun _ after => after = created) := by
    unfold openApproval
    rw [orStop_some (promotionInvocation_parse platform request draw.runId), pure_bind]
    refine Ends.bind (fun seen after => seen = world ∧ after = world) (Ends.look ⟨rfl, rfl⟩) ?_
    rintro seen here ⟨seenHere, same⟩
    rw [seenHere, same, orStop_some task, pure_bind, orStop_some step, pure_bind, unknown]
    exact Ends.bind (fun _ _ => False) opens fun _ _ none => none.elim
  have submits := @submit_of_openApproval platform config inputSchema outputSchema nfc origin context raw prepared _ _ _ _ prepares clean.unasked
    (authorized_writes grantable.submits) clean.unrecorded (fun same => by cases same) ends
  exact (submits.mono (fun _ _ none => none.elim) fun _ _ same => same).world

theorem attempts_halfway {start world : World} (prepares : prepare platform nfc context.tenantId raw = some prepared)
    (halfway : Halfway platform (requestOf context prepared) start)
    (grantable : Grantable config (requestOf context prepared) start.memory.members)
    (unrecorded : Unrecorded platform origin context prepared start.memory) {allowed : Option Point → Prop}
    (attempts : Attempts platform config inputSchema outputSchema nfc origin context raw allowed start world) :
    world = start := by
  induction attempts with
  | none => rfl
  | next _ cut draw ends fresh deadline ih =>
      rw [ih]
      have ended := submit_halfway inputSchema outputSchema cut prepares halfway grantable unrecorded deadline
      exact (ended.mono (fun _ _ none => none.elim) fun _ _ same => same).world

end Submission

/-! ## A lesson whose approval is asked for -/

def lessonConfig : PromotionApprovalConfig := ⟨⟨approver, .human⟩, 86400000⟩

def emptyWorld : World := ⟨.empty, .empty, [], [], noMemory⟩

def lessonDraw : Draw :=
  ⟨.epoch, ⟨js "ca0117ca-0000-4000-8000-000000000011", by decide +kernel⟩,
    ⟨js "ca0117ca-0000-4000-8000-000000000012", by decide +kernel⟩,
    ⟨js "ca0117ca-0000-4000-8000-000000000013", by decide +kernel⟩,
    ⟨js "ca0117ca-0000-4000-8000-000000000014", by decide +kernel⟩, .epoch⟩

def tomorrow : Timestamp := ⟨86400000, by decide⟩

theorem lesson_deadline : Timestamp.parse (lessonDraw.evaluatedAt.ms + lessonConfig.ttlMs) = some tomorrow := rfl

theorem lessonDraw_new : NewIds emptyWorld lessonDraw where
  ledger := fun _ _ _ member => absurd member List.not_mem_nil
  policy := fun _ _ _ member => absurd member List.not_mem_nil
  apart := by decide

theorem lesson_grantable : Grantable lessonConfig (requestOf proposer preparedLesson) emptyWorld.memory.members where
  submits := ⟨⟨.owner, rfl, by decide⟩, fun other => by rcases other with other | other <;> cases other⟩
  approves := ⟨⟨.owner, rfl, by decide⟩, fun _ => rfl⟩
  lives := by decide
  tenant := by decide
  submitter := by decide

theorem lesson_clean : Clean weighingPlatform .verifiedOutcome proposer preparedLesson emptyWorld where
  absent := ⟨fun _ member => absurd member List.not_mem_nil, fun _ member => absurd member List.not_mem_nil,
    fun _ member => absurd member List.not_mem_nil⟩
  unasked := ⟨rfl, fun _ _ found => (by cases found), fun _ member => absurd member List.not_mem_nil⟩
  unrecorded := by
    refine ⟨rfl, fun _ member => absurd member List.not_mem_nil, ?_⟩
    unfold verdictOf
    rw [preparedLesson_new.2]
    exact lesson_waits

/-- The lesson is asked about after a first attempt that ended at once. -/
theorem lesson_resumes : ∃ result after, PromotionApprovals.submit weighingPlatform lessonConfig .null .null id none
      .verifiedOutcome proposer (some lesson) lessonDraw emptyWorld = (.ok result, after) ∧
    Waiting weighingPlatform proposer preparedLesson after ∧
    ∀ last, Attempts weighingPlatform lessonConfig .null .null id .verifiedOutcome proposer (some lesson)
      (fun _ => True) after last → last = after := by
  have begun : WritesTogether (some .begun) := fun same => by cases same
  have attempted : Attempts weighingPlatform lessonConfig .null .null id .verifiedOutcome proposer (some lesson)
      WritesTogether emptyWorld _ := .next .none (some .begun) lessonDraw begun lessonDraw_new lesson_deadline
  exact attempts_reach_waiting .null .null prepare_lesson lesson_grantable lesson_clean attempted lessonDraw_new
    lesson_deadline

/-- A process that ends between the two writes of the task leaves the lesson without an approval for ever. -/
theorem lesson_stuck : ∃ crashed, Attempts weighingPlatform lessonConfig .null .null id .verifiedOutcome proposer
      (some lesson) (fun _ => True) emptyWorld crashed ∧
    ∀ last, Attempts weighingPlatform lessonConfig .null .null id .verifiedOutcome proposer (some lesson)
      (fun _ => True) crashed last →
      last.approvals.get? (approvalId weighingPlatform (requestOf proposer preparedLesson)) = none ∧
        last.memory.candidates = [] := by
  refine ⟨_, Attempts.none.next (some .created) lessonDraw trivial lessonDraw_new lesson_deadline, ?_⟩
  rw [submit_created prepare_lesson lesson_grantable lesson_clean lessonDraw_new]
  intro last later
  have halfway := halfway_of_created lesson_clean.absent lesson_clean.unasked lessonDraw
  rw [attempts_halfway prepare_lesson halfway lesson_grantable lesson_clean.unrecorded later]
  exact ⟨rfl, rfl⟩

end KernelJson.Memory.Resumption
