import KernelJson.Foundation.CachedCalls
import KernelJson.Runtimes.ReadCapabilities
import KernelJson.Runtimes.Receipts

/-!
# The legacy Conductor adapter

An invocation of `conductor.brain_query` is checked, put to the bridge, and
answered with a verified receipt.  Results are cached under the idempotency
key when the bridge has answered.  The process behind the bridge is not
modelled: the bridge throws, fails or returns a value.
-/

namespace KernelJson.Runtimes.LegacyConductor

open Contracts.CapabilityRun
open Contracts.Common
open Contracts.Github
open Contracts.Outcome
open Contracts.Platform
open Contracts.PolicyGate
open Foundation
open Foundation.CachedCalls
open Foundation.JsText
open Runtimes.CapabilityRegistry
open Runtimes.ReadCapabilities
open Runtimes.Receipts

/-! ## Errors -/

inductive LegacyConductorCode where
  | invalidRequest
  | unsupportedCapability
  | denied
  | invalidSchema
  | unavailable
  | timeout
  | brainError
  | crash
  | invalidBridgeOutput
  | verificationFailed
  | mutationsDetected
deriving DecidableEq

abbrev LegacyConductorError : Type := Thrown LegacyConductorCode

/-! ## Replies of the bridge -/

/-- A field, as a schema reads it. -/
def readField {α : Type} (codec : Codec α) (name : String) (json : Json) : Option α :=
  (json.field? (js name)).bind codec.read

/-- A field that may be absent. -/
def readOptionalField {α : Type} (codec : Codec α) (name : String) (json : Json) : Option (Option α) :=
  readOptional codec (json.field? (js name))

/-- `z.literal` of a boolean. -/
def readFlag (value : Bool) (name : String) (json : Json) : Option Unit :=
  if (json.field? (js name)).bind Json.asBool? = some value then some () else none

structure BridgeErr where
  code : JsString
  error : JsString

/-- `BridgeErr.safeParse`. -/
def BridgeErr.read (json : Json) : Option BridgeErr := do
  let _ ← readFlag false "ok" json
  let code ← readField anyText "code" json
  let error ← readField anyText "error" json
  let _ ← readOptionalField zero "mutations" json
  some ⟨code, error⟩

/-- An item of `discovered_work`. -/
structure BridgeWork where
  title : JsString
  rationale : JsString
  suggestedCapability : JsString
  priorityHint : JsString
  evidenceRefs : List JsString

def BridgeWork.read (json : Json) : Option BridgeWork := do
  let title ← readField anyText "title" json
  let rationale ← readField anyText "rationale" json
  let suggestedCapability ← readField anyText "suggestedCapability" json
  let priorityHint ← readField anyText "priorityHint" json
  let evidenceRefs ← readField anyText.list "evidenceRefs" json
  some ⟨title, rationale, suggestedCapability, priorityHint, evidenceRefs⟩

def readWorks : Option Json → Option (Option (List BridgeWork))
  | none => some none
  | some works => (works.asArray?.bind fun items => items.mapM BridgeWork.read).map some

/-- `z.number().optional()`, whose number is kept as it stands. -/
def readDuration : Option Json → Option (Option Json)
  | none => some none
  | some (.num value) => some (some (.num value))
  | some (.real literal) => some (some (.real literal))
  | some _ => none

/-- A reply that reports success; its literal fields are checked and not kept. -/
structure BridgeOk where
  query : JsString
  limit : Between 1 8
  text : JsString
  rowCount : Count
  resultDigest : Sha256Text
  resultChars : Count
  discoveredWork : Option (List BridgeWork)
  durationMs : Option Json
  envKeysLoaded : Option (List JsString)
  transport : Option JsString
  taskId : Option (Option JsString)
  executionId : Option (Option JsString)

def nullableText : Codec (Option JsString) := anyText.nullable fun _ => Json.noConfusion

/-- `BridgeOk.safeParse`. -/
def BridgeOk.read (json : Json) : Option BridgeOk := do
  let _ ← readFlag true "ok" json
  let _ ← readField (.literal (js "conductor.brain_query")) "capability" json
  let _ ← readField (.literal (js "brain_query_projects")) "tool" json
  let _ ← readField (.literal (js "projects")) "table" json
  let _ ← readField (.literal (js "projects")) "scope" json
  let query ← readField anyText "query" json
  let limit ← readField (.between 1 8) "limit" json
  let answer ← readField anyText "text" json
  let rowCount ← readField (.between 0 9007199254740991) "row_count" json
  let resultDigest ← readField (.matching isSha256Text) "result_digest" json
  let resultChars ← readField (.between 0 9007199254740991) "result_chars" json
  let _ ← readField zero "mutations" json
  let discoveredWork ← readWorks (json.field? (js "discovered_work"))
  let durationMs ← readDuration (json.field? (js "duration_ms"))
  let envKeysLoaded ← readOptionalField anyText.list "env_keys_loaded" json
  let transport ← readOptionalField anyText "transport" json
  let taskId ← readOptionalField nullableText "taskId" json
  let executionId ← readOptionalField nullableText "executionId" json
  some ⟨query, limit, answer, rowCount, resultDigest, resultChars, discoveredWork, durationMs, envKeysLoaded,
    transport, taskId, executionId⟩

/-- What comes of asking the bridge. -/
inductive BridgeAnswer where
  | threw (code : LegacyConductorCode) (message : JsString)
  | failed (message : Option JsString)
  | returned (value : Json)

/-- The code under which a reported failure is thrown. -/
def BridgeErr.thrownCode (reply : BridgeErr) : LegacyConductorCode :=
  if reply.code = js "DENIED" then .denied
  else if reply.code = js "INVALID_SCHEMA" then .invalidSchema
  else if reply.code = js "TIMEOUT" then .timeout
  else if reply.code = js "UNAVAILABLE" then .unavailable
  else if reply.code = js "CRASH" then .crash
  else .brainError

/-! ## The collar -/

def legacyConductorDenied : List JsString :=
  [js "marcus_chat", js "telegram_send", js "spawner_run", js "jaios_run", js "cloud_escalate",
    js "boardroom_post_dsp", js "brain_log_learning", js "orchestra_save_skill", js "repository.write",
    js "shell.execute", js "email.send", js "message.whatsapp", js "message.telegram",
    js "conductor.marcus_chat", js "conductor.telegram_send", js "conductor.spawner_run",
    js "conductor.cloud_escalate"]

/-- `assertAllowed(capabilityOrTool)`. -/
def assertAllowed (capabilityOrTool : JsString) : Except LegacyConductorError Unit :=
  let lowered := trim capabilityOrTool
  if legacyConductorDenied.contains lowered = true ∨
      (js "conductor.").isPrefixOf lowered = true ∧ lowered ≠ js "conductor.brain_query" then
    .error (.error .denied (js "collar denied: " ++ lowered))
  else if lowered ≠ js "conductor.brain_query" ∧ lowered ≠ conductorBrainQueryId ∧
      lowered ≠ js "brain_query_projects" then
    .error (.error .denied (js "collar denied: " ++ lowered))
  else .ok ()

/-! ## The adapter -/

/-- The adapter with its configuration; its registry holds the definition of the query, and `issues`
gives the messages of a schema that refuses a value. -/
structure LegacyConductorAdapter where
  platform : Platform
  registry : CapabilityRegistry
  timeoutMs : Option Int
  envFile : Option JsString
  issues : Json → JsString
  descriptor : Json
  registered : registry.entries.get? (entryKey conductorBrainQuery) =
    some (conductorBrainQueryDefinition descriptor)

structure LegacyDigests where
  resultDigest : JsString
  requestDigest : JsString
  descriptorDigest : JsString
  outputDigest : JsString

structure BridgeMeta where
  transport : JsString
  envKeysLoaded : List JsString
  durationMs : Option Json
  rowCount : Int

structure LegacyConductorInvokeResult where
  result : CapabilityResult
  evidence : Evidence
  outcome : Outcome
  executionId : Id
  taskId : Id
  discoveredWork : List BridgeWork
  digests : LegacyDigests
  bridgeMeta : BridgeMeta

/-- What a waiting call holds. -/
structure LegacyCall where
  input : ConductorBrainQueryInput
  bridgeRequest : Json

namespace LegacyConductorAdapter

variable (adapter : LegacyConductorAdapter)

def recognise : CapabilityInvocation → Except LegacyConductorError CapabilityInvocation :=
  admitted conductorBrainQuery .invalidRequest .unsupportedCapability

def bridgeRequest (invocation : CapabilityInvocation) (input : ConductorBrainQueryInput) : Json :=
  .obj ([(js "capability", .str (js "conductor.brain_query")), (js "tool", .str (js "brain_query_projects")),
    (js "args", .obj [(js "query", .str input.query.val), (js "scope", .str (js "projects")),
      (js "limit", .num input.limit.val)]),
    (js "taskId", idJson invocation.taskId), (js "executionId", idJson invocation.stepId),
    (js "timeout_seconds", .num (min 60 (max 1 (adapter.timeoutMs.getD 45000 / 1000))))] ++
    optionalField "env_file" Json.str (adapter.envFile.filter (· ≠ [])))

def prepare (invocation : CapabilityInvocation) : Except LegacyConductorError LegacyCall :=
  match ConductorBrainQueryInput.codec.read invocation.input with
  | none => .error (.error .invalidSchema (js "invalid input"))
  | some input =>
      if capabilityDigest adapter.platform (ConductorBrainQueryInput.codec.write input) =
          capabilityDigest adapter.platform invocation.input then
        (assertAllowed (js "conductor.brain_query")).map fun _ => ⟨input,
          adapter.bridgeRequest invocation input⟩
      else .error (.error .invalidSchema (js "input digest mismatch"))

def read (settlement : Settlement BridgeAnswer) : Except LegacyConductorError BridgeOk :=
  match settlement.answer with
  | .threw code message => .error (.error code message)
  | .failed message => .error (.error .unavailable (message.getD (js "bridge failed")))
  | .returned value =>
      match BridgeErr.read value with
      | some reply => .error (.error reply.thrownCode reply.error)
      | none => required (.error .invalidBridgeOutput (adapter.issues value)) (BridgeOk.read value)

end LegacyConductorAdapter

/-- A value within a bound. -/
def within? {α : Type} (accepts : α → Prop) [DecidablePred accepts] (value : α) :
    Option { value : α // accepts value } :=
  if accepted : accepts value then some ⟨value, accepted⟩ else none

def DiscoveredWorkItem.parse (work : BridgeWork) : Option DiscoveredWorkItem := do
  let title ← Matching.parse (lengthWithin 1 512) work.title
  let rationale ← Matching.parse (lengthWithin 1 2048) work.rationale
  let suggestedCapability ← Matching.parse (lengthWithin 1 128) work.suggestedCapability
  let priorityHint ← Matching.parse (lengthWithin 1 16) work.priorityHint
  let evidenceRefs ← within? (fun refs : List JsString => refs.length ≤ 32) work.evidenceRefs
  some ⟨title, rationale, suggestedCapability, priorityHint, evidenceRefs⟩

def summaryOf (reply : BridgeOk) : JsString :=
  js "Legacy Conductor brain_query_projects returned " ++ signedDecimal reply.rowCount.val ++
    js " project row(s) (limit=" ++ signedDecimal reply.limit.val ++ js "); mutations=0"

/-- `ConductorBrainQueryOutput.parse` of what the adapter makes of a reply. -/
def outputOf (input : ConductorBrainQueryInput) (reply : BridgeOk) : Option ConductorBrainQueryOutput := do
  let items ← (reply.discoveredWork.getD []).mapM DiscoveredWorkItem.parse
  let discoveredWork ← within? (fun items : List DiscoveredWorkItem => items.length ≤ 32) items
  let summary ← Matching.parse (lengthWithin 1 2048) (summaryOf reply)
  let keys ← (reply.envKeysLoaded.getD []).mapM (within? fun key : JsString => key ≠ [])
  let envKeysLoaded ← within? (fun keys : List { key : JsString // key ≠ [] } => keys.length ≤ 8) keys
  some ⟨reply.limit, input.query, reply.rowCount, reply.resultDigest, reply.resultChars, discoveredWork,
    summary, envKeysLoaded⟩

namespace LegacyConductorAdapter

variable (adapter : LegacyConductorAdapter)

def envKeys (output : ConductorBrainQueryOutput) : List JsString :=
  output.envKeysLoaded.val.map Subtype.val

/-- The digest of the bounded request. -/
def boundedRequestDigest (input : ConductorBrainQueryInput) : JsString :=
  sha256Text adapter.platform (Json.stringify (.obj [(js "query", .str input.query.val),
    (js "scope", .str (js "projects")), (js "limit", .num input.limit.val)]))

def evidenceSource : JsString := js "legacy-conductor-adapter/conductor.brain_query"

def criterion : JsString :=
  js "conductor.brain_query returns result_digest (64 hex) with mutations=0 and scope=projects"

def statement (invocation : CapabilityInvocation) (call : LegacyCall) (reply : BridgeOk)
    (output : ConductorBrainQueryOutput) : Statement where
  source := evidenceSource
  digest := output.resultDigest.val
  metadata := .obj [(js "executionId", idJson invocation.stepId),
    (js "capability", .str (js "conductor.brain_query")), (js "tool", .str (js "brain_query_projects")),
    (js "bounded_request_digest", .str (adapter.boundedRequestDigest call.input)),
    (js "result_digest", .str output.resultDigest.val), (js "row_count", .num output.rowCount.val),
    (js "mutations", .num 0), (js "transport", .str (js "private-stdio-import")),
    (js "env_keys_loaded", .arr ((envKeys output).map Json.str)),
    (js "correlation_trace_id", idJson invocation.trace.traceId),
    (js "correlation_id", idJson invocation.trace.correlationId),
    (js "conductor_done_is_not_kj_completion", .bool true),
    (js "discovered_work_count", .num (reply.discoveredWork.getD []).length)]
  criterion := criterion
  summary := output.summary.val

def pack (invocation : CapabilityInvocation) (call : LegacyCall) (settlement : Settlement BridgeAnswer)
    (reply : BridgeOk) : Except LegacyConductorError LegacyConductorInvokeResult := do
  let output ← required .schema (outputOf call.input reply)
  let result ← verifiedReceipt adapter.platform adapter.registry conductorBrainQuery .verificationFailed
    invocation (ConductorBrainQueryOutput.codec.write output)
  let proof ← (adapter.statement invocation call reply output).prove invocation settlement
  .ok {
    result := result
    evidence := proof.evidence
    outcome := proof.outcome
    executionId := invocation.stepId
    taskId := invocation.taskId
    discoveredWork := reply.discoveredWork.getD []
    digests := ⟨output.resultDigest.val, result.requestDigest, result.descriptorDigest, result.outputDigest⟩
    bridgeMeta := ⟨js "private-stdio-import", envKeys output, reply.durationMs, output.rowCount.val⟩ }

/-- `invoke(raw)`: up to the call of the bridge, and from its answer on. -/
def service : Service CapabilityInvocation CapabilityInvocation LegacyCall (Settlement BridgeAnswer) BridgeOk
    LegacyConductorInvokeResult JsString LegacyConductorError where
  recognise := recognise
  key := fun invocation => invocation.idempotencyKey
  agrees := fun cached invocation => sameStep adapter.platform cached.result invocation
  conflict := .error .invalidRequest (js "idempotency key conflict")
  prepare := adapter.prepare
  read := adapter.read
  pack := adapter.pack

end LegacyConductorAdapter

end KernelJson.Runtimes.LegacyConductor
