import KernelJson.Contracts.Identity
import KernelJson.Memory.Policy

/-!
# The canonical memory service

The tables of canonical memory and the submission of a candidate: a read-only
transaction, the request of an approval where one is needed, and the transaction
that records the candidate, the decision and the version.  The rows that a call
writes are returned beside its answer.
-/

namespace KernelJson.Memory.Service

open Contracts.Common
open Contracts.Digest
open Contracts.Identity
open Contracts.Platform
open Foundation
open Foundation.JsText
open Memory.Policy

/-! ## Tables -/

inductive CandidateState where
  | held
  | awaitingApproval
  | promoted
  | refused
  | rejected
deriving DecidableEq

inductive PromotionDecision where
  | decided (outcome : PolicyOutcome)
  | allowApproved
  | rejectApproval

structure CandidateRow where
  id : Id
  tenantId : Id
  origin : MemoryOrigin
  submittedBy : Id
  idempotencyKey : JsString
  proposedClass : MemoryClass
  intent : MemoryIntent
  targetMemoryId : Option Id
  content : JsString
  contentDigest : JsString
  subject : MemorySubject
  evidence : List MemoryEvidenceRef
  reason : JsString
  requestDigest : JsString
  state : CandidateState
  stateReason : JsString
  approvalId : Option Id
  createdAt : Timestamp

inductive PromotedBy where
  | policyEngine
  | approvedHuman

structure PromotionRow where
  id : Id
  tenantId : Id
  candidateId : Id
  decision : PromotionDecision
  ruleId : JsString
  policyVersion : JsString
  reason : JsString
  promotedByKind : PromotedBy
  promotedByPrincipal : Option Id
  approvalId : Option Id
  evidence : List MemoryEvidenceRef
  resultMemoryId : Option Id
  resultVersion : Option Nat
  createdAt : Timestamp

inductive VersionKind where
  | assert
  | retract
deriving DecidableEq

inductive Confidence where
  | stated
  | verified

structure Provenance where
  origin : MemoryOrigin
  submittedBy : Id
  candidateId : Id
  reason : JsString

structure VersionPolicy where
  policyVersion : JsString
  ruleId : JsString
  decision : PromotionDecision
  protected_ : Bool
  approvalId : Option Id

structure VersionRow where
  memoryId : Id
  version : Nat
  tenantId : Id
  class_ : MemoryClass
  kind : VersionKind
  content : JsString
  contentDigest : JsString
  subject : MemorySubject
  trustClass : TrustClass
  confidence : Confidence
  provenance : Provenance
  evidence : List MemoryEvidenceRef
  policy : VersionPolicy
  candidateId : Id
  promotionId : Id
  supersedesVersion : Option Nat
  createdAt : Timestamp
  promotedAt : Timestamp

/-- A `SUPERSEDES` relation. -/
structure RelationRow where
  id : Id
  tenantId : Id
  fromMemory : Id
  toMemory : Id
  createdByPromotionId : Id
  evidence : List MemoryEvidenceRef

/-- The tables that a submission reads: those of memory, the memberships, and whether `verifiedResult`
finds a piece of evidence in a verified outcome of a tenant's task. -/
structure MemoryState where
  candidates : List CandidateRow
  promotions : List PromotionRow
  versions : List VersionRow
  relations : List RelationRow
  members : Memberships
  verifiedResult : Id → JsString → JsString → Bool

/-! ## Results and failures -/

structure SubmissionResult where
  candidateId : Id
  origin : MemoryOrigin
  state : CandidateState
  decision : PromotionDecision
  ruleId : JsString
  reason : JsString
  memoryId : Option Id
  version : Option Nat
  approvalId : Option Id
  replayed : Bool

inductive MemoryErrorCode where
  | forbiddenOrigin
  | conflict
  | invalid
  | notFound
  | ambiguous

inductive Failure where
  | memoryError (code : MemoryErrorCode) (message : JsString)
  | schema
  | tenantAccessDenied
  | approvals
  | database

/-- What one transaction inserts. -/
structure Writes where
  candidates : List CandidateRow
  promotions : List PromotionRow
  versions : List VersionRow
  relations : List RelationRow

def Writes.none : Writes := ⟨[], [], [], []⟩

/-! ## Preparation -/

variable (platform : Platform) (nfc : JsString → JsString)

def normalise (text : JsString) : JsString := trim (nfc text)

def evidenceJson (evidence : MemoryEvidenceRef) : Json :=
  .obj ([(js "type", .str evidence.type.text), (js "ref", .str evidence.ref)] ++
    (evidence.digest.map fun digest => (js "digest", Json.str digest)).toList)

structure Prepared where
  candidateId : Id
  sub : CandidateSubmission
  contentDigest : JsString
  requestDigest : JsString

def prepare (tenantId : Id) (raw : Option RawSubmission) : Option Prepared := do
  let sub ← CandidateSubmission.parse raw
  let contentDigest := sha256Text platform (normalise nfc sub.content)
  let requestDigest := capabilityDigest platform (.obj [
    (js "class", .str sub.class_.text),
    (js "contentDigest", .str contentDigest),
    (js "subject", .obj [(js "kind", .str sub.subject.kind.text), (js "ref", .str sub.subject.ref)]),
    (js "evidence", .arr (sub.evidence.map evidenceJson)),
    (js "reason", .str sub.reason),
    (js "intent", .str sub.intent.text),
    (js "target", match sub.targetMemoryId with
      | none => .null
      | some target => .str target.text)])
  let candidateId := stableId platform.sha256
    (.arr [.str (js "memory-candidate/v1"), .str tenantId.text, .str sub.idempotencyKey])
  some ⟨candidateId, sub, contentDigest, requestDigest⟩

/-! ## Reads -/

def PromotionDecision.isSettled : PromotionDecision → Bool
  | .decided _ => false
  | .allowApproved | .rejectApproval => true

/-- The order of `resultFor`: settled decisions first, then the latest. -/
def PromotionRow.before (first second : PromotionRow) : Bool :=
  if first.decision.isSettled == second.decision.isSettled then second.createdAt.ms < first.createdAt.ms
  else first.decision.isSettled

def firstBy {α : Type} (before : α → α → Bool) (rows : List α) : Option α :=
  rows.foldl (fun best row => match best with
    | none => some row
    | some held => if before row held then some row else some held) none

def resultFor (state : MemoryState) (row : CandidateRow) (replayed : Bool) : Except Failure SubmissionResult :=
  match firstBy PromotionRow.before (state.promotions.filter fun promotion => promotion.candidateId = row.id) with
  | none => .error (.memoryError .invalid (js "Candidate has no promotion record"))
  | some promotion =>
      .ok ⟨row.id, row.origin, row.state, promotion.decision, promotion.ruleId, promotion.reason,
        promotion.resultMemoryId, promotion.resultVersion, row.approvalId, replayed⟩

def candidateOf (state : MemoryState) (tenantId : Id) (idempotencyKey : JsString) : Option CandidateRow :=
  state.candidates.find? fun row => row.tenantId = tenantId.column ∧ row.idempotencyKey = idempotencyKey

def existing (state : MemoryState) (context : TenantContext) (prepared : Prepared) :
    Except Failure (Option SubmissionResult) :=
  match candidateOf state context.tenantId prepared.sub.idempotencyKey with
  | none => .ok none
  | some row =>
      if row.requestDigest ≠ prepared.requestDigest then
        .error (.memoryError .conflict (js "That idempotency key was already used for a different candidate"))
      else (resultFor state row true).map some

structure TargetState where
  memoryId : Id
  version : Nat
  kind : VersionKind
  class_ : MemoryClass
  subject : MemorySubject
  content : JsString
  superseded : Bool

def headVersion (state : MemoryState) (tenantId memoryId : Id) : Option VersionRow :=
  firstBy (fun first second => second.version < first.version)
    (state.versions.filter fun row => row.tenantId = tenantId.column ∧ row.memoryId = memoryId.column)

def loadTarget (state : MemoryState) (tenantId : Id) (memoryId : Option Id) : Option TargetState := do
  let memoryId ← memoryId
  let head ← headVersion state tenantId memoryId
  some ⟨memoryId, head.version, head.kind, head.class_, head.subject, head.content,
    state.relations.any fun relation => relation.tenantId = tenantId.column ∧ relation.toMemory = memoryId.column⟩

/-! ## Judgement -/

/-- The parts of `text.split("/")`. -/
def slashParts (text : JsString) : List JsString := text.splitOn 47

def taskEvidenceVerified (state : MemoryState) (tenantId : Id) (evidence : List MemoryEvidenceRef) : Bool :=
  let refs := evidence.filter fun evidence => evidence.type = .taskEvidence
  !refs.isEmpty && refs.all fun evidence => match slashParts evidence.ref with
    | [taskId, evidenceId] => isUuid taskId && isUuid evidenceId && state.verifiedResult tenantId taskId evidenceId
    | _ => false

def refuse (ruleId reason : String) : PolicyDecisionResult := ⟨.refuse, js ruleId, js reason, false⟩

/-- The checks of scope and target, which come before the policy table. -/
def scopeRefusal (origin : MemoryOrigin) (context : TenantContext) (sub : CandidateSubmission)
    (target : Option TargetState) : Option PolicyDecisionResult :=
  if origin = .operatorInstruction ∧ sub.subject.kind = .principal ∧ sub.subject.ref ≠ context.principal.id.text then
    some (refuse "subject-scope" "a personal memory can only be written about yourself")
  else if sub.intent = .new then none
  else match target with
    | none => some (refuse "target-not-found" "the memory to change does not exist")
    | some target =>
        if target.kind = .retract then
          some (refuse "target-retracted" "that memory has already been retracted")
        else if target.superseded = true then
          some (refuse "target-superseded" "that memory has already been superseded")
        else if origin = .operatorInstruction ∧ target.subject.kind = .principal ∧
            target.subject.ref ≠ context.principal.id.text then
          some (refuse "subject-scope" "a personal memory can only be changed by its own subject")
        else if sub.intent ≠ .supersede ∧ target.class_ ≠ sub.class_ then
          some (refuse "class-mismatch" "a correction or retraction keeps the memory's class")
        else if sub.intent ≠ .supersede ∧ target.subject ≠ sub.subject then
          some (refuse "subject-mismatch" "a correction or retraction keeps the memory's subject")
        else none

def judge (state : MemoryState) (origin : MemoryOrigin) (context : TenantContext) (sub : CandidateSubmission)
    (target : Option TargetState) : PolicyDecisionResult :=
  match scopeRefusal origin context sub target with
  | some refusal => refusal
  | none =>
      let verdict := decidePromotion origin sub (target.map TargetState.class_)
      if origin = .verifiedOutcome ∧ (verdict.decision = .allow ∨ verdict.decision = .requireApproval) ∧
          taskEvidenceVerified state context.tenantId sub.evidence = false then
        refuse "outcome-not-verified" "the cited task evidence is not part of a verified, completed outcome"
      else verdict

/-! ## Recording -/

def policyVersion : JsString := js "kj-memory-policy/1"

/-- What the content of a candidate that the policy takes for a credential is stored as. -/
def redactedContent : JsString := js "[redacted: this looked like a credential]"

def stateFor : PolicyOutcome → CandidateState
  | .allow => .promoted
  | .requireApproval => .awaitingApproval
  | .hold => .held
  | .refuse => .refused

def candidateRow (origin : MemoryOrigin) (context : TenantContext) (prepared : Prepared)
    (verdict : PolicyDecisionResult) (approvalId : Option Id) (now : Timestamp) : CandidateRow where
  id := prepared.candidateId
  tenantId := context.tenantId.column
  origin := origin
  submittedBy := context.principal.id.column
  idempotencyKey := prepared.sub.idempotencyKey
  proposedClass := prepared.sub.class_
  intent := prepared.sub.intent
  targetMemoryId := prepared.sub.targetMemoryId.map Id.column
  content := if verdict.ruleId = noSecrets then redactedContent else prepared.sub.content
  contentDigest := prepared.contentDigest
  subject := prepared.sub.subject
  evidence := prepared.sub.evidence
  reason := prepared.sub.reason
  requestDigest := prepared.requestDigest
  state := stateFor verdict.decision
  stateReason := verdict.reason
  approvalId := if verdict.decision = .requireApproval then approvalId else none
  createdAt := now

/-- The memory and the version that a promotion of this row creates. -/
def promotedVersion (row : CandidateRow) (target : Option TargetState) : Except Failure (Id × Nat) :=
  if row.intent = .correct ∨ row.intent = .retract then
    match target with
    | none => .error (.memoryError .invalid (js "A correction needs its target"))
    | some target => .ok (target.memoryId, target.version + 1)
  else
    .ok (stableId platform.sha256 (.arr [.str (js "memory/v2"), .str row.tenantId.text, .str row.id.text]), 1)

def versionContent (row : CandidateRow) (target : Option TargetState) : JsString :=
  if row.intent = .retract then (target.map TargetState.content).getD row.content else row.content

def versionRow (row : CandidateRow) (target : Option TargetState) (verdict : PolicyDecisionResult)
    (approvalId : Option Id) (promotionId memoryId : Id) (version : Nat) (now : Timestamp) : VersionRow where
  memoryId := memoryId.column
  version := version
  tenantId := row.tenantId
  class_ := if row.intent = .retract ∨ row.intent = .correct then
      (target.map TargetState.class_).getD row.proposedClass
    else row.proposedClass
  kind := if row.intent = .retract then .retract else .assert
  content := versionContent row target
  contentDigest := sha256Text platform (normalise nfc (versionContent row target))
  subject := row.subject
  trustClass := trustForOrigin row.origin
  confidence := if row.origin = .verifiedOutcome then .verified else .stated
  provenance := ⟨row.origin, row.submittedBy, row.id, row.reason⟩
  evidence := row.evidence
  policy := ⟨policyVersion, verdict.ruleId, .decided verdict.decision, verdict.protected_, approvalId⟩
  candidateId := row.id
  promotionId := promotionId
  supersedesVersion := if version = 1 then none else some (version - 1)
  createdAt := row.createdAt
  promotedAt := now

/-- `recordDecision` in its phase `decide`, by the policy engine. -/
def recordDecision (context : TenantContext) (row : CandidateRow) (target : Option TargetState)
    (verdict : PolicyDecisionResult) (approvalId : Option Id) (now : Timestamp) :
    Except Failure (SubmissionResult × Writes) := do
  let promotionId := stableId platform.sha256
    (.arr [.str (js "memory-promotion/v1"), .str row.id.text, .str (js "decide")])
  let promoted ← if verdict.decision = .allow then (promotedVersion platform row target).map some else .ok none
  let promotion : PromotionRow :=
    ⟨promotionId, row.tenantId, row.id, .decided verdict.decision, verdict.ruleId, policyVersion,
      verdict.reason.take 500, .policyEngine, some context.principal.id.column, approvalId, row.evidence,
      promoted.map fun made => made.1.column, promoted.map Prod.snd, now⟩
  let versions := (promoted.map fun made =>
    versionRow platform nfc row target verdict approvalId promotionId made.1 made.2 now).toList
  let relations := match promoted, target with
    | some made, some target => if row.intent = .supersede then
        [⟨stableId platform.sha256 (.arr [.str (js "memory-relation/v1"), .str (js "SUPERSEDES"), .str made.1.text,
            .str target.memoryId.text]), row.tenantId, made.1.column, target.memoryId.column, promotionId,
          row.evidence⟩]
      else []
    | _, _ => []
  .ok (⟨row.id, row.origin, stateFor verdict.decision, .decided verdict.decision, verdict.ruleId, verdict.reason,
      promoted.map Prod.fst, promoted.map Prod.snd, approvalId, false⟩,
    ⟨[row], [promotion], versions, relations⟩)

/-! ## Submission -/

/-- The verdict of the second transaction when no approval could be requested. -/
def approvalUnavailable (verdict : PolicyDecisionResult) : PolicyDecisionResult :=
  { verdict with
    decision := .hold
    ruleId := js "approval-unavailable"
    reason := js "this promotion needs an approver and none is configured, so it stays a candidate" }

def finalVerdict (verdict : PolicyDecisionResult) (approvalId : Option Id) : PolicyDecisionResult :=
  if verdict.decision = .requireApproval ∧ approvalId = none then approvalUnavailable verdict else verdict

/-- The read-only transaction: the result of a replay, or whether an approval is needed. -/
def firstPhase (state : MemoryState) (origin : MemoryOrigin) (context : TenantContext) (prepared : Prepared) :
    Except Failure (SubmissionResult ⊕ Bool) := do
  if Authorized state.members context .knowledgeWrite then
    match ← existing state context prepared with
    | some replay => .ok (.inl replay)
    | none =>
        let target := loadTarget state context.tenantId prepared.sub.targetMemoryId
        .ok (.inr ((judge state origin context prepared.sub target).decision == .requireApproval))
  else .error .tenantAccessDenied

/-- Whether the insertion of the candidate meets a row with its identifier or its idempotency key. -/
def alreadyRecorded (state : MemoryState) (context : TenantContext) (prepared : Prepared) : Bool :=
  state.candidates.any fun row => row.id = prepared.candidateId ∨
    (row.tenantId = context.tenantId.column ∧ row.idempotencyKey = prepared.sub.idempotencyKey)

/-- The transaction that records the candidate, the decision and the version. -/
def secondPhase (state : MemoryState) (origin : MemoryOrigin) (context : TenantContext) (prepared : Prepared)
    (approvalId : Option Id) (now : Timestamp) : Except Failure (SubmissionResult × Writes) := do
  if Authorized state.members context .knowledgeWrite then
    let target := loadTarget state context.tenantId prepared.sub.targetMemoryId
    let verdict := finalVerdict (judge state origin context prepared.sub target) approvalId
    if alreadyRecorded state context prepared = true then
      match ← existing state context prepared with
      | none => .error (.memoryError .conflict (js "Candidate could not be recorded"))
      | some replay => .ok (replay, .none)
    else
      let approvalId := if verdict.decision = .requireApproval then approvalId else none
      recordDecision platform nfc context (candidateRow origin context prepared verdict approvalId now) target
        verdict approvalId now
  else .error .tenantAccessDenied

/-- What the awaits of one call are answered: the state each transaction reads (none when it fails), the
approval that was requested (none when the request throws), whether the second transaction takes effect, and
whether its end reaches the caller. -/
structure Answers where
  first : Option MemoryState
  approval : Option Id
  second : Option MemoryState
  now : Timestamp
  commits : Bool
  answered : Bool

/-- The approval that the second transaction goes by. -/
def requestApproval (configured : Bool) (needsApproval : Bool) (answers : Answers) : Except Failure (Option Id) :=
  if needsApproval && configured then
    match answers.approval with
    | none => .error .approvals
    | some approvalId => .ok (some approvalId)
  else .ok none

/-- What a call answers, and the rows that it leaves written. -/
structure Submitted where
  answer : Except Failure SubmissionResult
  written : Writes

def failed (failure : Failure) : Submitted := ⟨.error failure, .none⟩

def orFail {α : Type} (failure : Failure) : Option α → Except Failure α
  | none => .error failure
  | some value => .ok value

/-- The steps of a call: a replay, or what the second transaction is about to commit. -/
def attempt (configured : Bool) (origin : MemoryOrigin) (context : TenantContext) (raw : Option RawSubmission)
    (answers : Answers) : Except Failure (SubmissionResult ⊕ SubmissionResult × Writes) := do
  let prepared ← orFail .schema (prepare platform nfc context.tenantId raw)
  let first ← orFail .database answers.first
  match ← firstPhase first origin context prepared with
  | .inl replay => .ok (.inl replay)
  | .inr needsApproval =>
      let approvalId ← requestApproval configured needsApproval answers
      let second ← orFail .database answers.second
      let recorded ← secondPhase platform nfc second origin context prepared approvalId answers.now
      .ok (.inr recorded)

/-- The end of the second transaction: refused by the database, committed with its answer lost, or committed. -/
def commit (answers : Answers) : Except Failure (SubmissionResult ⊕ SubmissionResult × Writes) → Submitted
  | .error failure => failed failure
  | .ok (.inl replay) => ⟨.ok replay, .none⟩
  | .ok (.inr (result, writes)) =>
      if answers.commits = false then failed .database
      else if answers.answered = false then ⟨.error .database, writes⟩
      else ⟨.ok result, writes⟩

def submit (configured : Bool) (origin : MemoryOrigin) (context : TenantContext) (raw : Option RawSubmission)
    (answers : Answers) : Submitted :=
  commit answers (attempt platform nfc configured origin context raw answers)

/-! ## Entry points -/

def submitOperatorInstruction (configured : Bool) (context : TenantContext) (raw : Option RawSubmission)
    (answers : Answers) : Submitted :=
  if context.principal.kind ≠ .human then
    failed (.memoryError .forbiddenOrigin (js "Only a human principal can give a memory instruction"))
  else submit platform nfc configured .operatorInstruction context raw answers

def submitVerifiedOutcomeCandidate (configured : Bool) (context : TenantContext) (raw : Option RawSubmission)
    (answers : Answers) : Submitted :=
  if context.principal.kind ≠ .service then
    failed (.memoryError .forbiddenOrigin (js "A verified outcome is proposed by a service principal"))
  else submit platform nfc configured .verifiedOutcome context raw answers

def submitModelCandidate (configured : Bool) (context : TenantContext) (raw : Option RawSubmission)
    (answers : Answers) : Submitted :=
  submit platform nfc configured .modelProposal context raw answers

def submitExternalCandidate (configured : Bool) (context : TenantContext) (raw : Option RawSubmission)
    (answers : Answers) : Submitted :=
  submit platform nfc configured .sharedBrain context raw answers

/-- A call of the entry point that stands for an origin. -/
def enter (configured : Bool) : MemoryOrigin → TenantContext → Option RawSubmission → Answers → Submitted
  | .operatorInstruction => submitOperatorInstruction platform nfc configured
  | .verifiedOutcome => submitVerifiedOutcomeCandidate platform nfc configured
  | .modelProposal => submitModelCandidate platform nfc configured
  | .sharedBrain => submitExternalCandidate platform nfc configured

end KernelJson.Memory.Service
