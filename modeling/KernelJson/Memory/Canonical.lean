import KernelJson.Contracts.PolicyGate
import KernelJson.Memory.Secrets
import KernelJson.Memory.Tables
import Mathlib.Logic.Relation

/-!
# Canonical memory over whole runs

Submissions, settlements of approvals and flags of conflicts, any number of them
at once.  The lock of a memory and the keys of the candidates make each
transaction on a memory one step; between its transactions a call may wait for
any time, be overtaken, or be lost.  `Canonical` is what every state keeps.
-/

namespace KernelJson.Memory.Canonical

open Contracts.Common
open Contracts.Digest
open Contracts.Identity
open Contracts.Platform
open Contracts.PolicyGate
open Foundation
open Foundation.JsText
open Memory.Policy
open Memory.Secrets
open Memory.Service
open Memory.Tables

/-! ## Settlement -/

/-- What `PromotionApprovals.state` answers for an approval. -/
structure PromotionApprovalState where
  status : ApprovalStatus
  boundCandidateId : Option JsString
  boundCandidateDigest : Option JsString
  approver : Option Id

/-- The verdict on a candidate whose approval was decided. -/
structure Settlement where
  allowed : Bool
  ruleId : JsString
  reason : JsString

def Settlement.decision (settlement : Settlement) : PromotionDecision :=
  if settlement.allowed then .allowApproved else .rejectApproval

def Settlement.state (settlement : Settlement) : CandidateState :=
  if settlement.allowed then .promoted else .rejected

/-- The memory that the promotion would change is no longer current. -/
def Stale (row : CandidateRow) (target : Option TargetState) : Prop :=
  row.intent ≠ .new ∧ match target with
    | none => True
    | some target => target.kind = .retract ∨ target.superseded = true

instance (row : CandidateRow) (target : Option TargetState) : Decidable (Stale row target) :=
  match target with
  | none => inferInstanceAs (Decidable (_ ∧ True))
  | some _ => inferInstanceAs (Decidable (_ ∧ (_ ∨ _)))

def settlementOf (status : ApprovalStatus) (row : CandidateRow) (target : Option TargetState) : Settlement :=
  match status with
  | .granted =>
      if Stale row target then
        ⟨false, js "approval-target-stale", js "the memory this promotion would change is no longer current"⟩
      else
        ⟨true, js "approved-by-human", js "granted by the named approver for this exact candidate"⟩
  | .expired => ⟨false, js "approval-expired", js "the approval expired before it was granted"⟩
  | _ => ⟨false, js "approval-denied", js "the approver declined this promotion"⟩

section Settling

variable (platform : Platform) (nfc : JsString → JsString)

/-- `recordDecision` in its phase `settle`, but for the update of the candidate. -/
def recordSettlement (row : CandidateRow) (target : Option TargetState) (settlement : Settlement)
    (approver : Option Id) (approvalId : Id) (now : Timestamp) : Except Failure (SubmissionResult × Writes) := do
  let promotionId := stableId platform.sha256
    (.arr [.str (js "memory-promotion/v1"), .str row.id.text, .str (js "settle")])
  let promoted ← if settlement.allowed then (promotedVersion platform row target).map some else .ok none
  let promotion : PromotionRow :=
    ⟨promotionId, row.tenantId, row.id, settlement.decision, settlement.ruleId, policyVersion,
      settlement.reason.take 500, if settlement.allowed then .approvedHuman else .policyEngine,
      if settlement.allowed then approver else none, some approvalId, row.evidence,
      promoted.map fun made => made.1.column, promoted.map Prod.snd, now⟩
  let versions := (promoted.map fun made =>
    { versionRow platform nfc row target ⟨.allow, settlement.ruleId, settlement.reason, true⟩ (some approvalId)
        promotionId made.1 made.2 now with
      policy := ⟨policyVersion, settlement.ruleId, settlement.decision, true, some approvalId⟩ }).toList
  let relations := match promoted, target with
    | some made, some target => if row.intent = .supersede then
        [⟨stableId platform.sha256 (.arr [.str (js "memory-relation/v1"), .str (js "SUPERSEDES"), .str made.1.text,
            .str target.memoryId.text]), row.tenantId, made.1.column, target.memoryId.column, promotionId,
          row.evidence⟩]
      else []
    | _, _ => []
  .ok (⟨row.id, row.origin, settlement.state, settlement.decision, settlement.ruleId, settlement.reason,
      promoted.map Prod.fst, promoted.map Prod.snd, some approvalId, false⟩,
    ⟨[], [promotion], versions, relations⟩)

end Settling

/-! ## States -/

/-- A `CONFLICTS_WITH` row of `memory_relations`. -/
structure ConflictRow where
  id : Id
  tenantId : Id
  fromMemory : Id
  toMemory : Id
  actor : Id
  evidence : List MemoryEvidenceRef

/-- How far a call has come. -/
inductive Stage where
  | idle
  | prepared (origin : MemoryOrigin) (context : TenantContext) (prepared : Prepared) (approvalId : Option Id)
  | read (context : TenantContext) (row : CandidateRow) (approvalId : Id)
  | answered (context : TenantContext) (row : CandidateRow) (approvalId : Id) (answer : PromotionApprovalState)

inductive Event where
  /-- A candidate was recorded; `verified` says whether its task evidence was that of a verified outcome. -/
  | recorded (origin : MemoryOrigin) (context : TenantContext) (prepared : Prepared) (verified : Bool)
      (result : SubmissionResult)
  | approval (id : Id) (answer : PromotionApprovalState)
  | settled (candidateId : Id) (result : SubmissionResult)

/-- The tables, the calls, and what has happened, newest first. -/
structure Store where
  tables : MemoryState
  conflicts : List ConflictRow
  stages : Nat → Stage
  past : List Event

def Store.start (members : Memberships) (verifiedResult : Id → JsString → JsString → Bool) : Store :=
  ⟨⟨[], [], [], [], members, verifiedResult⟩, [], fun _ => .idle, []⟩

/-- A call reaches a stage. -/
def at_ (stages : Nat → Stage) (call : Nat) (stage : Stage) : Nat → Stage :=
  fun other => if other = call then stage else stages other

def candidateById (tables : MemoryState) (tenantId id : Id) : Option CandidateRow :=
  tables.candidates.find? fun row => row.tenantId = tenantId.column ∧ row.id = id.column

/-- `insert … on conflict do nothing` of a conflict, under the guard of relations. -/
structure ConflictFits (store : Store) (row : ConflictRow) : Prop where
  apart : row.fromMemory ≠ row.toMemory
  ofTenant : ∀ memoryId, memoryId = row.fromMemory ∨ memoryId = row.toMemory →
    (∃ version ∈ store.tables.versions, version.memoryId = memoryId) ∧
      ∀ version ∈ store.tables.versions, version.memoryId = memoryId → version.tenantId = row.tenantId
  unique : ∀ other ∈ store.conflicts, other.id ≠ row.id ∧
    (other.fromMemory, other.toMemory) ≠ (row.fromMemory, row.toMemory)

section Runs

variable (platform : Platform) (nfc : JsString → JsString) (configured : Bool)

/-- The row that `flagConflict` inserts for two memories. -/
def conflictOf (context : TenantContext) (first second : Id) (evidence : List MemoryEvidenceRef) : ConflictRow :=
  let ordered := if Json.unitsLE second.text first.text then (second, first) else (first, second)
  ⟨stableId platform.sha256 (.arr [.str (js "memory-relation/v1"), .str (js "CONFLICTS_WITH"), .str ordered.1.text,
      .str ordered.2.text]), context.tenantId.column, ordered.1.column, ordered.2.column, context.principal.id.column,
    evidence⟩

inductive Step (store : Store) : Store → Prop where
  | prepare (call : Nat) (origin : MemoryOrigin) (context : TenantContext) (raw : Option RawSubmission)
      (prepared : Prepared) (needsApproval : Bool) (approvalId : Option Id) (idle : store.stages call = .idle)
      (kind : OfKind origin context) (prepares : prepare platform nfc context.tenantId raw = some prepared)
      (first : firstPhase store.tables origin context prepared = .ok (.inr needsApproval))
      (requested : approvalId.isSome = (needsApproval && configured)) :
      Step store ⟨store.tables, store.conflicts, at_ store.stages call (.prepared origin context prepared approvalId),
        store.past⟩
  | record (call : Nat) (origin : MemoryOrigin) (context : TenantContext) (prepared : Prepared)
      (approvalId : Option Id) (now : Timestamp) (result : SubmissionResult) (writes : Writes) (after : MemoryState)
      (goes : store.stages call = .prepared origin context prepared approvalId)
      (fresh : alreadyRecorded store.tables context prepared = false)
      (second : secondPhase platform nfc store.tables origin context prepared approvalId now = .ok (result, writes))
      (committed : Committed store.tables writes after) :
      Step store ⟨after, store.conflicts, at_ store.stages call .idle,
        .recorded origin context prepared
          (taskEvidenceVerified store.tables context.tenantId prepared.sub.evidence) result :: store.past⟩
  | readCandidate (call : Nat) (context : TenantContext) (id : Id) (row : CandidateRow) (approvalId : Id)
      (idle : store.stages call = .idle) (authorized : Authorized store.tables.members context .knowledgeWrite)
      (found : candidateById store.tables context.tenantId id = some row) (waits : row.state = .awaitingApproval)
      (named : row.approvalId = some approvalId) :
      Step store ⟨store.tables, store.conflicts, at_ store.stages call (.read context row approvalId), store.past⟩
  | askApproval (call : Nat) (context : TenantContext) (row : CandidateRow) (approvalId : Id)
      (answer : PromotionApprovalState) (goes : store.stages call = .read context row approvalId)
      (decided : answer.status ≠ .pending) (bound : answer.boundCandidateId = some row.id.text)
      (same : answer.boundCandidateDigest = some row.requestDigest) :
      Step store ⟨store.tables, store.conflicts, at_ store.stages call (.answered context row approvalId answer),
        .approval approvalId answer :: store.past⟩
  | settle (call : Nat) (context : TenantContext) (row locked : CandidateRow) (approvalId : Id)
      (answer : PromotionApprovalState) (now : Timestamp) (result : SubmissionResult) (writes : Writes)
      (between : MemoryState) (goes : store.stages call = .answered context row approvalId answer)
      (authorized : Authorized store.tables.members context .knowledgeWrite)
      (found : candidateById store.tables context.tenantId row.id = some locked)
      (waits : locked.state = .awaitingApproval)
      (recorded : recordSettlement platform nfc locked
        (loadTarget store.tables context.tenantId locked.targetMemoryId)
        (settlementOf answer.status locked (loadTarget store.tables context.tenantId locked.targetMemoryId))
        answer.approver approvalId now = .ok (result, writes))
      (committed : Committed store.tables writes between)
      (fits : UpdateFits between locked.tenantId locked.id result.state) :
      Step store ⟨updateCandidate between locked.tenantId locked.id result.state (result.reason.take 500),
        store.conflicts, at_ store.stages call .idle, .settled locked.id result :: store.past⟩
  | flag (context : TenantContext) (first second : Id) (evidence : List MemoryEvidenceRef)
      (human : context.principal.kind = .human)
      (authorized : Authorized store.tables.members context .knowledgeWrite)
      (fits : ConflictFits store (conflictOf platform context first second evidence)) :
      Step store ⟨store.tables, store.conflicts ++ [conflictOf platform context first second evidence], store.stages,
        store.past⟩
  | lose (taken : Nat → Bool) :
      Step store ⟨store.tables, store.conflicts, fun call => if taken call then .idle else store.stages call,
        store.past⟩
  | change (members : Memberships) (verifiedResult : Id → JsString → JsString → Bool) :
      Step store ⟨{ store.tables with members := members, verifiedResult := verifiedResult }, store.conflicts,
        store.stages, store.past⟩

inductive Reachable : Store → Prop where
  | start (members : Memberships) (verifiedResult : Id → JsString → JsString → Bool) :
      Reachable (.start members verifiedResult)
  | step {store next : Store} (reached : Reachable store) (taken : Step platform nfc configured store next) :
      Reachable next

end Runs

/-! ## Requests -/

/-- The value whose digest tells requests apart, for a content or its digest. -/
def requestJson (sub : CandidateSubmission) (content : JsString) : Json :=
  .obj [
    (js "class", .str sub.class_.text),
    (js "contentDigest", .str content),
    (js "subject", .obj [(js "kind", .str sub.subject.kind.text), (js "ref", .str sub.subject.ref)]),
    (js "evidence", .arr (sub.evidence.map evidenceJson)),
    (js "reason", .str sub.reason),
    (js "intent", .str sub.intent.text),
    (js "target", match sub.targetMemoryId with
      | none => .null
      | some target => .str target.text)]

/-- Two submissions ask for the same: class, normalised content, subject, evidence, reason, intent and target. -/
def SameRequest (nfc : JsString → JsString) (first second : CandidateSubmission) : Prop :=
  requestJson first (normalise nfc first.content) = requestJson second (normalise nfc second.content)

/-- The digest of a prepared request is that of its value. -/
def Digests (platform : Platform) (nfc : JsString → JsString) (prepared : Prepared) : Prop :=
  prepared.requestDigest = capabilityDigest platform
    (requestJson prepared.sub (sha256Text platform (normalise nfc prepared.sub.content)))

/-- The hash has no collision among the contents and the values of two requests. -/
structure Apart (platform : Platform) (nfc : JsString → JsString) (first second : CandidateSubmission) : Prop where
  contents : sha256Text platform (normalise nfc first.content) = sha256Text platform (normalise nfc second.content) →
    normalise nfc first.content = normalise nfc second.content
  values : capabilityDigest platform (requestJson first (sha256Text platform (normalise nfc first.content))) =
      capabilityDigest platform (requestJson second (sha256Text platform (normalise nfc second.content))) →
    requestJson first (sha256Text platform (normalise nfc first.content)) =
      requestJson second (sha256Text platform (normalise nfc second.content))

theorem requestJson_eq {first second : CandidateSubmission} {content other : JsString} :
    requestJson first content = requestJson second other ↔
      content = other ∧ ∀ shared, requestJson first shared = requestJson second shared := by
  simp only [requestJson, Json.obj.injEq, List.cons.injEq, Prod.mk.injEq, Json.str.injEq, true_and, and_true]
  constructor
  · rintro ⟨class_, same, rest⟩
    exact ⟨same, fun shared => ⟨class_, rest⟩⟩
  · rintro ⟨same, others⟩
    exact ⟨(others content).1, same, (others content).2⟩

theorem digests_of_prepare {platform : Platform} {nfc : JsString → JsString} {tenantId : Id}
    {raw : Option RawSubmission} {prepared : Prepared} (prepares : prepare platform nfc tenantId raw = some prepared) :
    Digests platform nfc prepared := by
  obtain ⟨sub, parsed, same⟩ := Option.bind_eq_some_iff.mp prepares
  cases same
  rfl

/-- Requests that ask for the same have one digest, and others have another. -/
theorem digest_eq_iff {platform : Platform} {nfc : JsString → JsString} {first second : Prepared}
    (one : Digests platform nfc first) (two : Digests platform nfc second)
    (apart : Apart platform nfc first.sub second.sub) :
    first.requestDigest = second.requestDigest ↔ SameRequest nfc first.sub second.sub := by
  rw [one, two, SameRequest, requestJson_eq]
  constructor
  · intro same
    obtain ⟨content, others⟩ := requestJson_eq.mp (apart.values same)
    exact ⟨apart.contents content, others⟩
  · rintro ⟨content, others⟩
    rw [content, others]

/-! ## What the results of a key are -/

/-- What a repetition answers for a result: nothing is changed by it, and identifiers come from their columns. -/
def stored (result : SubmissionResult) : SubmissionResult :=
  { result with memoryId := result.memoryId.map Id.column, replayed := true }

/-- The settlement of a candidate, or else the result of its submission. -/
def latest (past : List Event) (candidateId : Id) (result : SubmissionResult) : SubmissionResult :=
  ((past.findSome? fun event => match event with
    | .settled id settled => if id = candidateId then some settled else none
    | _ => none).getD result)

/-- A candidate of an instruction by a human, or of a verified outcome that a service proposed. -/
def Vouched (past : List Event) (row : CandidateRow) : Prop :=
  (row.origin = .operatorInstruction ∧ ∃ context prepared verified result,
    .recorded .operatorInstruction context prepared verified result ∈ past ∧ context.principal.kind = .human ∧
      prepared.candidateId = row.id) ∨
  (row.origin = .verifiedOutcome ∧ ∃ context prepared result,
    .recorded .verifiedOutcome context prepared true result ∈ past ∧ context.principal.kind = .service ∧
      prepared.candidateId = row.id)

/-- The approval of a promotion was granted for exactly this candidate and request. -/
def Granted (past : List Event) (promotion : PromotionRow) (row : CandidateRow) : Prop :=
  ∃ approvalId answer, promotion.approvalId = some approvalId ∧ .approval approvalId answer ∈ past ∧
    answer.status = .granted ∧ answer.boundCandidateId = some row.id.text ∧
    answer.boundCandidateDigest = some row.requestDigest

/-- The rows of a candidate's promotions. -/
def promotionsOf (tables : MemoryState) (candidateId : Id) : List PromotionRow :=
  tables.promotions.filter fun promotion => promotion.candidateId = candidateId

/-- The candidate that was recorded for a request, and what its key answers. -/
def Keeps (tables : MemoryState) (past : List Event) (context : TenantContext) (prepared : Prepared)
    (result : SubmissionResult) : Prop :=
  ∃ row ∈ tables.candidates, row.id = prepared.candidateId ∧ row.tenantId = context.tenantId.column ∧
    row.idempotencyKey = prepared.sub.idempotencyKey ∧ row.requestDigest = prepared.requestDigest ∧
    resultFor tables row true = .ok (stored (latest past row.id result))

/-- The table has the candidate that the call read, waiting for this approval. -/
def Known (tables : MemoryState) (row : CandidateRow) (approvalId : Id) : Prop :=
  row.id.column = row.id ∧ ∃ found ∈ tables.candidates, found.id = row.id ∧
    found.requestDigest = row.requestDigest ∧ found.approvalId = some approvalId

def StageOk (platform : Platform) (nfc : JsString → JsString) (tables : MemoryState) (past : List Event) :
    Stage → Prop
  | .idle => True
  | .prepared origin context prepared _ => OfKind origin context ∧ Digests platform nfc prepared
  | .read _ row approvalId => Known tables row approvalId
  | .answered _ row approvalId answer => Known tables row approvalId ∧ .approval approvalId answer ∈ past ∧
      answer.boundCandidateId = some row.id.text ∧ answer.boundCandidateDigest = some row.requestDigest

/-- What every reachable state keeps. -/
structure Sound (platform : Platform) (nfc : JsString → JsString) (store : Store) : Prop where
  lawful : Lawful store.tables
  vouched : ∀ row ∈ store.tables.candidates, row.state = .awaitingApproval ∨ row.state = .promoted →
    Vouched store.past row
  allowed : ∀ promotion ∈ store.tables.promotions, Allows promotion.decision →
    ∃ row ∈ store.tables.candidates, row.id = promotion.candidateId ∧ row.state = .promoted
  granted : ∀ promotion ∈ store.tables.promotions, promotion.decision = .allowApproved →
    ∃ row ∈ store.tables.candidates, row.id = promotion.candidateId ∧ Granted store.past promotion row
  waiting : ∀ row ∈ store.tables.candidates, row.state = .awaitingApproval →
    ∃ decided, promotionsOf store.tables row.id = [decided] ∧ decided.decision.isSettled = false
  keeps : ∀ origin context prepared verified result,
    .recorded origin context prepared verified result ∈ store.past →
      Keeps store.tables store.past context prepared result
  digests : ∀ origin context prepared verified result,
    .recorded origin context prepared verified result ∈ store.past → Digests platform nfc prepared
  settlements : ∀ id result, .settled id result ∈ store.past → ∃ row ∈ store.tables.candidates, row.id = id
  stages : ∀ call, StageOk platform nfc store.tables store.past (store.stages call)

/-! ## What a decision writes -/

/-- The rows of one decision on a candidate, and the result that it answers. -/
structure Wrote (row : CandidateRow) (target : Option TargetState) (decision : PromotionDecision)
    (result : SubmissionResult) (writes : Writes) : Prop where
  candidate : result.candidateId = row.id
  origin : result.origin = row.origin
  decided : result.decision = decision
  fresh : result.replayed = false
  promotion : ∃ promotion, writes.promotions = [promotion] ∧ promotion.candidateId = row.id ∧
    promotion.decision = decision ∧ promotion.approvalId = result.approvalId ∧ promotion.ruleId = result.ruleId ∧
    promotion.reason = result.reason.take 500 ∧ promotion.resultMemoryId = result.memoryId.map Id.column ∧
    promotion.resultVersion = result.version
  versions : ∀ version ∈ writes.versions, version.candidateId = row.id ∧ version.tenantId = row.tenantId ∧
    (version.version = 1 ∨ ∃ held, target = some held ∧ version.memoryId = held.memoryId.column ∧
      row.intent ≠ .new ∧ Allows decision)

section Writing

variable {platform : Platform} {nfc : JsString → JsString}

theorem promotedVersion_ok {row : CandidateRow} {target : Option TargetState} {made : Id × Nat}
    (promoted : promotedVersion platform row target = .ok made) :
    made.2 = 1 ∨ ∃ held, target = some held ∧ made.1 = held.memoryId ∧ row.intent ≠ .new := by
  unfold promotedVersion at promoted
  split at promoted
  · next changes =>
      cases target with
      | none => cases promoted
      | some held =>
          cases promoted
          refine .inr ⟨held, rfl, rfl, fun new => ?_⟩
          rw [new] at changes
          rcases changes with correct | retract
          · cases correct
          · cases retract
  · cases promoted
    exact .inl rfl

/-- What a promoted decision names, if it promotes. -/
theorem promoted_ok {row : CandidateRow} {target : Option TargetState} {promoted : Option (Id × Nat)}
    (made : (promotedVersion platform row target).map some = .ok promoted) :
    ∃ both, promoted = some both ∧ (both.2 = 1 ∨ ∃ held, target = some held ∧ both.1 = held.memoryId ∧
      row.intent ≠ .new) := by
  obtain ⟨both, here, rfl⟩ := Transactions.map_ok made
  exact ⟨both, rfl, promotedVersion_ok here⟩

theorem recordDecision_wrote {context : TenantContext} {row : CandidateRow} {target : Option TargetState}
    {verdict : PolicyDecisionResult} {approvalId : Option Id} {now : Timestamp} {result : SubmissionResult}
    {writes : Writes}
    (recorded : recordDecision platform nfc context row target verdict approvalId now = .ok (result, writes)) :
    Wrote row target (.decided verdict.decision) result writes ∧ writes.candidates = [row] ∧
      result.state = stateFor verdict.decision ∧ result.reason = verdict.reason ∧ result.approvalId = approvalId := by
  unfold recordDecision at recorded
  dsimp only at recorded
  split at recorded
  · next allow =>
      obtain ⟨promoted, made, rest⟩ := Transactions.bind_ok recorded
      cases rest
      obtain ⟨both, rfl, named⟩ := promoted_ok made
      refine ⟨⟨rfl, rfl, rfl, rfl, ⟨_, rfl, rfl, rfl, rfl, rfl, rfl, rfl, rfl⟩, ?_⟩, rfl, rfl, rfl, rfl⟩
      intro version member
      have same := List.mem_singleton.mp member
      subst same
      refine ⟨rfl, rfl, ?_⟩
      rcases named with one | ⟨held, loaded, memory, changes⟩
      · exact .inl one
      · refine .inr ⟨held, loaded, congrArg Id.column memory, changes, ?_⟩
        rw [allow]
        trivial
  · obtain ⟨promoted, made, rest⟩ := Transactions.bind_ok recorded
    cases made
    cases rest
    exact ⟨⟨rfl, rfl, rfl, rfl, ⟨_, rfl, rfl, rfl, rfl, rfl, rfl, rfl, rfl⟩, fun _ member => by cases member⟩, rfl,
      rfl, rfl, rfl⟩

theorem recordSettlement_wrote {row : CandidateRow} {target : Option TargetState} {settlement : Settlement}
    {approver : Option Id} {approvalId : Id} {now : Timestamp} {result : SubmissionResult} {writes : Writes}
    (recorded : recordSettlement platform nfc row target settlement approver approvalId now = .ok (result, writes)) :
    Wrote row target settlement.decision result writes ∧ writes.candidates = [] ∧
      result.state = settlement.state ∧ result.reason = settlement.reason ∧ result.approvalId = some approvalId := by
  unfold recordSettlement at recorded
  dsimp only at recorded
  split at recorded
  · next allow =>
      obtain ⟨promoted, made, rest⟩ := Transactions.bind_ok recorded
      cases rest
      obtain ⟨both, rfl, named⟩ := promoted_ok made
      refine ⟨⟨rfl, rfl, rfl, rfl, ⟨_, rfl, rfl, rfl, rfl, rfl, rfl, rfl, rfl⟩, ?_⟩, rfl, rfl, rfl, rfl⟩
      intro version member
      have same := List.mem_singleton.mp member
      subst same
      refine ⟨rfl, rfl, ?_⟩
      rcases named with one | ⟨held, loaded, memory, changes⟩
      · exact .inl one
      · refine .inr ⟨held, loaded, congrArg Id.column memory, changes, ?_⟩
        rw [Settlement.decision, allow]
        trivial
  · obtain ⟨promoted, made, rest⟩ := Transactions.bind_ok recorded
    cases made
    cases rest
    exact ⟨⟨rfl, rfl, rfl, rfl, ⟨_, rfl, rfl, rfl, rfl, rfl, rfl, rfl, rfl⟩, fun _ member => by cases member⟩, rfl,
      rfl, rfl, rfl⟩

/-! ### Verdicts -/

theorem scopeRefusal_fits {origin : MemoryOrigin} {context : TenantContext} {sub : CandidateSubmission}
    {target : Option TargetState} {refusal : PolicyDecisionResult}
    (refused : scopeRefusal origin context sub target = some refusal) : refusal.reason.length ≤ 500 := by
  unfold scopeRefusal at refused
  split at refused
  · cases refused
    exact length_js_ofList_le _ (by decide)
  · split at refused
    · cases refused
    · split at refused
      · cases refused
        exact length_js_ofList_le _ (by decide)
      · split at refused
        · cases refused
          exact length_js_ofList_le _ (by decide)
        · split at refused
          · cases refused
            exact length_js_ofList_le _ (by decide)
          · split at refused
            · cases refused
              exact length_js_ofList_le _ (by decide)
            · split at refused
              · cases refused
                exact length_js_ofList_le _ (by decide)
              · split at refused
                · cases refused
                  exact length_js_ofList_le _ (by decide)
                · cases refused

theorem decideOutcome_fits (candidate : CandidateSubmission) : (decideOutcome candidate).reason.length ≤ 500 := by
  unfold decideOutcome
  split
  · exact length_js_ofList_le _ (by decide)
  · split
    · exact length_js_ofList_le _ (by decide)
    · split
      · exact length_js_ofList_le _ (by decide)
      · split
        · exact length_js_ofList_le _ (by decide)
        · exact length_js_ofList_le _ (by decide)

theorem shape_short : (secretShapes.all fun shape => (secretReason shape.1).length ≤ 500) = true := by
  decide +kernel

theorem decidePromotion_fits (origin : MemoryOrigin) (candidate : CandidateSubmission)
    (targetClass : Option MemoryClass) : (decidePromotion origin candidate targetClass).reason.length ≤ 500 := by
  cases secret : looksLikeSecret candidate.content with
  | some shape =>
      obtain ⟨found, listed, rfl⟩ := Option.map_eq_some_iff.mp secret
      rw [decidePromotion_of_secret secret]
      exact of_decide_eq_true (List.all_eq_true.mp shape_short found (List.mem_of_find?_eq_some listed))
  | none =>
      simp only [decidePromotion, secret]
      cases origin with
      | modelProposal => exact of_decide_eq_true rfl
      | sharedBrain => exact of_decide_eq_true rfl
      | verifiedOutcome => exact decideOutcome_fits candidate
      | operatorInstruction =>
          dsimp only
          split
          · decide +kernel
          · decide +kernel

/-- Every reason that a verdict gives fits its column. -/
theorem reason_fits (state : MemoryState) (origin : MemoryOrigin) (context : TenantContext)
    (sub : CandidateSubmission) (target : Option TargetState) (approvalId : Option Id) :
    (finalVerdict (judge state origin context sub target) approvalId).reason.take 500 =
      (finalVerdict (judge state origin context sub target) approvalId).reason := by
  have judged : (judge state origin context sub target).reason.length ≤ 500 := by
    cases refused : scopeRefusal origin context sub target with
    | some refusal =>
        have same : judge state origin context sub target = refusal := by simp only [judge, refused]
        rw [same]
        exact scopeRefusal_fits refused
    | none =>
        rcases judge_cases state origin context sub refused with policy | ⟨-, unverified⟩
        · rw [policy]
          exact decidePromotion_fits _ _ _
        · rw [unverified]
          exact length_js_ofList_le _ (by decide)
  refine List.take_of_length_le ?_
  unfold finalVerdict
  split
  · show (approvalUnavailable _).reason.length ≤ 500
    unfold approvalUnavailable
    dsimp only
    exact length_js_ofList_le _ (by decide)
  · exact judged

/-- What a verdict lets through is what the judgement let through. -/
theorem judged_of_final {verdict : PolicyDecisionResult} {approvalId : Option Id}
    (through : (finalVerdict verdict approvalId).decision = .allow ∨
      (finalVerdict verdict approvalId).decision = .requireApproval) :
    verdict.decision = .allow ∨ verdict.decision = .requireApproval := by
  unfold finalVerdict at through
  split at through
  · rcases through with allow | waits
    · cases allow
    · cases waits
  · exact through

/-- What is promoted, or sent to an approver, comes from a trusted source, and an outcome was verified. -/
theorem trusted_of_judge {state : MemoryState} {origin : MemoryOrigin} {context : TenantContext}
    {sub : CandidateSubmission} {target : Option TargetState}
    (through : (judge state origin context sub target).decision = .allow ∨
      (judge state origin context sub target).decision = .requireApproval) :
    scopeRefusal origin context sub target = none ∧ (origin = .operatorInstruction ∨
      origin = .verifiedOutcome ∧ taskEvidenceVerified state context.tenantId sub.evidence = true) := by
  have open_ : scopeRefusal origin context sub target = none := by
    cases refused : scopeRefusal origin context sub target with
    | none => rfl
    | some refusal =>
        have same : judge state origin context sub target = refusal := by simp only [judge, refused]
        rw [same, (ruleId_of_scopeRefusal refused).1] at through
        rcases through with allow | waits
        · cases allow
        · cases waits
  refine ⟨open_, ?_⟩
  have policy : ∀ decision, decision = PolicyOutcome.allow ∨ decision = .requireApproval →
      ¬ (decision = .hold ∨ decision = .refuse) := by
    rintro decision (rfl | rfl) (other | other)
    all_goals cases other
  unfold judge at through
  rw [open_] at through
  dsimp only at through
  split at through
  · rcases through with allow | waits
    · cases allow
    · cases waits
  · next checked =>
      cases origin with
      | modelProposal => exact absurd (decision_of_untrusted (.inl rfl)) (policy _ through)
      | sharedBrain => exact absurd (decision_of_untrusted (.inr rfl)) (policy _ through)
      | operatorInstruction => exact .inl rfl
      | verifiedOutcome =>
          refine .inr ⟨rfl, ?_⟩
          by_contra unverified
          exact checked ⟨rfl, through, (Bool.not_eq_true _).mp unverified⟩

/-- An allowed change is of a memory that nothing superseded. -/
theorem current_of_scope {origin : MemoryOrigin} {context : TenantContext} {sub : CandidateSubmission}
    {held : TargetState} (open_ : scopeRefusal origin context sub (some held) = none) (changes : sub.intent ≠ .new) :
    held.superseded = false := by
  cases superseded : held.superseded with
  | false => rfl
  | true =>
      unfold scopeRefusal at open_
      split at open_
      · cases open_
      · dsimp only at open_
        split at open_
        · cases open_
        · cases open_

end Writing

end KernelJson.Memory.Canonical
