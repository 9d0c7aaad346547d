import KernelJson.Contracts.Outcome
import KernelJson.Contracts.Reports

/-!
# Evidence of a mission

The shapes of the evidence that the workflow writes and the verifier reads, and
the outputs that its steps record.
-/

namespace KernelJson.Mission.Evidence

open Contracts.Common
open Contracts.Github
open Contracts.Outcome
open Contracts.Platform
open Contracts.Reports
open Foundation
open Foundation.JsText

/-! ## Receipts -/

structure ModelUsage where
  inputTokens : Nat
  outputTokens : Nat
  totalTokens : Nat

/-- What the evidence keeps of the receipt of a successful model call. -/
structure SuccessReceipt where
  callId : Id
  provider : JsString
  model : JsString
  requestDigest : JsString
  providerRequestId : JsString
  responseModel : JsString
  usage : ModelUsage
  outputDigest : JsString

structure ModelFailure where
  code : JsString
  retryable : Bool
  mayHaveRun : Bool
  httpStatus : Option Nat

/-- What the evidence keeps of the receipt of a failed model call. -/
structure FailedReceipt where
  callId : Id
  provider : JsString
  model : JsString
  requestDigest : JsString
  error : ModelFailure

/-! ## Memory -/

structure MissionMemory where
  memoryId : JsString
  version : Int

inductive MemoryStatus where
  | assembled
  | unavailable
deriving DecidableEq

def MemoryStatus.text : MemoryStatus → JsString
  | .assembled => js "ASSEMBLED"
  | .unavailable => js "UNAVAILABLE"

/-- What a runtime was given of canonical memory. -/
structure MissionMemoryContext where
  status : MemoryStatus
  assemblyId : Option JsString
  digest : Option JsString
  text : JsString
  memories : List MissionMemory
  externalCount : Nat
  usedTokens : Nat

/-- The context where the memory service fails. -/
def unavailableMemory : MissionMemoryContext where
  status := .unavailable
  assemblyId := none
  digest := none
  text := []
  memories := []
  externalCount := 0
  usedTokens := 0

def MissionMemory.toJson (memory : MissionMemory) : Json :=
  .obj [(js "memory_id", .str memory.memoryId), (js "version", .num memory.version)]

def textOrNull (text : Option JsString) : Json :=
  (text.map Json.str).getD .null

/-- `memoryEvidence(context)`. -/
def memoryEvidence (context : MissionMemoryContext) : Json :=
  .obj
    [(js "status", .str context.status.text), (js "assembly_id", textOrNull context.assemblyId),
      (js "context_digest", textOrNull context.digest),
      (js "memories", .arr (context.memories.map MissionMemory.toJson)),
      (js "external_count", .num context.externalCount), (js "used_tokens", .num context.usedTokens)]

/-! ## Usage -/

def ModelUsage.toJson (usage : ModelUsage) : Json :=
  .obj [(js "inputTokens", .num usage.inputTokens), (js "outputTokens", .num usage.outputTokens),
    (js "totalTokens", .num usage.totalTokens)]

/-! ## Sources and outputs -/

inductive RuntimeRole where
  | analyst
  | reviewer
deriving DecidableEq

def RuntimeRole.text : RuntimeRole → JsString
  | .analyst => js "analyst"
  | .reviewer => js "reviewer"

/-- `role.toUpperCase()`. -/
def RuntimeRole.upper : RuntimeRole → JsString
  | .analyst => js "ANALYST"
  | .reviewer => js "REVIEWER"

namespace Sources

def github : JsString := js "kerneljson:github-read/v1"

def runtime : RuntimeRole → JsString
  | .analyst => js "kerneljson:runtime/analyst"
  | .reviewer => js "kerneljson:runtime/reviewer"

def reconcile : JsString := js "kerneljson:mission-reconcile/v1"

end Sources

namespace StepOutputs

def github (facts : GithubFacts) (factsDigest : JsString) : Json :=
  .obj [(js "facts_digest", .str factsDigest), (js "head_sha", .str facts.headSha.val)]

def runtime (digest : JsString) : Json :=
  .obj [(js "output_digest", .str digest)]

def reconcile (record : MissionReconciliation) : Json :=
  .obj [(js "decision", .str record.decision.text)]

end StepOutputs

/-! ## Evidence -/

structure Base where
  id : Id
  taskId : Id
  stepId : Id
  capturedAt : Timestamp

/-- Evidence with a digest and without a reference. -/
def Base.record (base : Base) (type : EvidenceType) (source digest : JsString) (metadata : Json) : Evidence where
  id := base.id
  taskId := base.taskId
  stepId := some base.stepId
  type := type
  source := source
  ref := none
  uri := none
  digest := some digest
  capturedAt := base.capturedAt
  metadata := metadata

def Base.evidence (base : Base) (type : EvidenceType) (source digest : JsString) (metadata : Json) :
    Option Evidence :=
  (base.record type source digest metadata).parse

def githubMetadata (facts : GithubFacts) (factsDigest : JsString) : Json :=
  .obj
    [(js "capability", .str (js "github.read")), (js "repo", .str facts.repo.val),
      (js "head_sha", .str facts.headSha.val), (js "content_sha256", .str factsDigest),
      (js "facts", GithubFacts.codec.write facts)]

def githubEvidence (base : Base) (facts : GithubFacts) (factsDigest : JsString) : Option Evidence :=
  base.evidence .toolReceipt Sources.github factsDigest (githubMetadata facts factsDigest)

/-- The fields that the identity contract adds to the evidence of a runtime. -/
inductive CognitionFields where
  | analyst (identity : Json) (required : Bool) (assemblyDigest continuityDigest : Json)
  | reviewer

def CognitionFields.fields : CognitionFields → List (JsString × Json)
  | .analyst identity required assemblyDigest continuityDigest =>
      [(js "identity", identity),
        (js "identity_cognition_mode", .str (if required then js "REQUIRED" else js "NONE")),
        (js "assembly_digest", assemblyDigest), (js "continuity_digest", continuityDigest)]
  | .reviewer => [(js "identity_cognition_mode", .str (js "NONE"))]

/-- What was in play beside the call itself. -/
structure RuntimeExtras where
  memoryContext : Option Json
  faculty : Option Json
  cognition : Option CognitionFields

def RuntimeExtras.fields (extras : RuntimeExtras) : List (JsString × Json) :=
  ((extras.memoryContext.map fun context => [(js "memory_context", context)]).getD []) ++
    ((extras.faculty.map fun pin => [(js "faculty", pin)]).getD []) ++
    ((extras.cognition.map CognitionFields.fields).getD [])

def runtimeMetadata (role : RuntimeRole) (text : JsString) (receipt : SuccessReceipt) (subjectDigest : JsString)
    (extras : RuntimeExtras) : Json :=
  .obj
    ([(js "role", .str role.text), (js "provider", .str receipt.provider), (js "model", .str receipt.model),
      (js "response_model", .str receipt.responseModel),
      (js "provider_request_id", .str receipt.providerRequestId), (js "call_id", .str receipt.callId.text),
      (js "request_digest", .str receipt.requestDigest), (js "output_digest", .str receipt.outputDigest),
      (js "usage", receipt.usage.toJson), (js "subject_digest", .str subjectDigest), (js "text", .str text)] ++
      extras.fields)

section Digests

variable (platform : Platform)

def runtimeEvidence (base : Base) (role : RuntimeRole) (text : JsString) (receipt : SuccessReceipt)
    (subjectDigest : JsString) (extras : RuntimeExtras) : Option Evidence :=
  base.evidence .artifact (Sources.runtime role) (sha256Text platform text)
    (runtimeMetadata role text receipt subjectDigest extras)

/-- A failed step still leaves evidence: what failed, never the provider's error body. -/
def failureEvidence (base : Base) (source : JsString) (metadata : Json) : Option Evidence :=
  base.evidence .artifact source (capabilityDigest platform metadata) metadata

def reconcileEvidence (base : Base) (record : MissionReconciliation) : Option Evidence :=
  base.evidence .deterministicResult Sources.reconcile
    (capabilityDigest platform (MissionReconciliation.codec.write record))
    (MissionReconciliation.codec.write record)

end Digests

/-! ## Reading evidence back -/

theorem trim_source_github : trim Sources.github = Sources.github := by
  decide +kernel

theorem trim_source_runtime (role : RuntimeRole) : trim (Sources.runtime role) = Sources.runtime role := by
  cases role <;> decide +kernel

theorem trim_source_reconcile : trim Sources.reconcile = Sources.reconcile := by
  decide +kernel

/-- Evidence under a trimmed source is recorded as it was put together, or refused. -/
theorem Base.evidence_eq (base : Base) (type : EvidenceType) {source : JsString} (digest : JsString)
    (metadata : Json) (trimmed : trim source = source) :
    base.evidence type source digest metadata =
      if source ≠ [] ∧ isSha256Text digest = true ∧ metadata.names?.isSome = true then
        some (base.record type source digest metadata)
      else none := by
  by_cases empty : source = []
  · have refused : Contracts.Task.parseText source = none := by
      rw [Contracts.Task.parseText, trimmed, if_pos empty]
    rw [if_neg fun holds => holds.1 empty]
    simp only [Base.evidence, Base.record, Evidence.parse, refused, Option.bind_eq_bind, Option.bind_none]
  · have kept := Contracts.Task.parseText_of_trimmed trimmed empty
    simp [Base.evidence, Base.record, Evidence.parse, kept, Contracts.Task.parseOptional, empty]

theorem Base.evidence_inv {base : Base} {type : EvidenceType} {source digest : JsString} {metadata : Json}
    {evidence : Evidence} (trimmed : trim source = source)
    (built : base.evidence type source digest metadata = some evidence) :
    evidence = base.record type source digest metadata := by
  rw [base.evidence_eq type digest metadata trimmed] at built
  split at built
  · exact (Option.some.inj built).symm
  · cases built

/-- Evidence with a computed digest is never refused. -/
theorem Base.evidence_some (base : Base) (type : EvidenceType) {source : JsString} (hash : Contracts.Digest.HexDigest)
    {metadata : Json} (trimmed : trim source = source) (nonempty : source ≠ [])
    (named : metadata.names?.isSome = true) :
    base.evidence type source (Contracts.Digest.hexText hash) metadata =
      some (base.record type source (Contracts.Digest.hexText hash) metadata) := by
  rw [base.evidence_eq type _ metadata trimmed, if_pos ⟨nonempty, isSha256Text_hexText hash, named⟩]

/-- A store may reorder the fields of the metadata. -/
theorem Base.evidence_stored {base : Base} {type : EvidenceType} {source digest : JsString}
    {metadata stored : Json} {evidence : Evidence} (trimmed : trim source = source)
    (same : stored.SameUpToKeyOrder metadata)
    (built : base.evidence type source digest metadata = some evidence) :
    (base.record type source digest stored).parse = some (base.record type source digest stored) := by
  have named : stored.names?.isSome = metadata.names?.isSome := by
    rw [← Json.isSome_names?_sortKeys stored, same, Json.isSome_names?_sortKeys]
  rw [base.evidence_eq type digest metadata trimmed] at built
  have holds := base.evidence_eq type digest stored trimmed
  rw [named] at holds
  split at built
  · next accepted =>
      rw [if_pos accepted] at holds
      exact holds
  · cases built

end KernelJson.Mission.Evidence
