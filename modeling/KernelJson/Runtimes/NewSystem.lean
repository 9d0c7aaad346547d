import KernelJson.Foundation.JsonParse
import KernelJson.Runtimes.LegacyConductor

/-!
# The new-system adapter

An invocation of `repository.read` is checked, posted to the spawner, and
answered with a verified receipt.  Results are cached under the idempotency
key when the spawner has answered.  The transport is not modelled: a post
fails, or it has a status and a body.
-/

namespace KernelJson.Runtimes.NewSystem

open Contracts.CapabilityRun
open Contracts.Common
open Contracts.Github
open Contracts.Outcome
open Contracts.Platform
open Contracts.PolicyGate
open Foundation
open Foundation.CachedCalls
open Foundation.JsText
open Runtimes.CapabilityRegistry
open Runtimes.LegacyConductor
open Runtimes.ReadCapabilities
open Runtimes.Receipts

inductive NewSystemCode where
  | invalidRequest
  | unsupportedCapability
  | spawnerHttp
  | spawnerFailed
  | invalidSpawnerOutput
  | verificationFailed
  | mutationsDetected
deriving DecidableEq

abbrev NewSystemRuntimeError : Type := Thrown NewSystemCode

/-! ## The request -/

structure SpawnRequestBody where
  taskId : JsString
  caller : JsString
  tenantId : JsString
  brief : JsString
  timeoutSeconds : Int
  inputData : RepositoryReadInput

/-- `SpawnRequestBody.parse`, of a body whose mission and skills are `repository.read`. -/
def SpawnRequestBody.parse (body : SpawnRequestBody) : Option SpawnRequestBody :=
  if body.taskId ≠ [] ∧ body.caller ≠ [] ∧ body.tenantId ≠ [] ∧ body.brief ≠ [] ∧
      1 ≤ body.timeoutSeconds ∧ body.timeoutSeconds ≤ 3600 then some body
  else none

def SpawnRequestBody.toJson (body : SpawnRequestBody) : Json :=
  .obj [(js "task_id", .str body.taskId), (js "caller", .str body.caller), (js "tenant_id", .str body.tenantId),
    (js "mission", .str (js "repository.read")), (js "brief", .str body.brief),
    (js "skills", .arr [.str (js "repository.read")]), (js "timeout_seconds", .num body.timeoutSeconds),
    (js "input_data", body.inputData.toJson), (js "dry_run", .bool false)]

/-- A post of the spawn request. -/
structure SpawnCall where
  url : JsString
  body : JsString
  spawnRequest : SpawnRequestBody

/-! ## The response -/

inductive SpawnStatus where
  | completed
  | failed
  | denied
  | cancelled
deriving DecidableEq

def SpawnStatus.text : SpawnStatus → JsString
  | .completed => js "completed"
  | .failed => js "failed"
  | .denied => js "denied"
  | .cancelled => js "cancelled"

def SpawnStatus.read (json : Json) : Option SpawnStatus :=
  json.asString?.bind fun text =>
    [SpawnStatus.completed, .failed, .denied, .cancelled].find? fun status => status.text == text

structure SpawnerResponse where
  taskId : Option JsString
  workerId : Option JsString
  status : SpawnStatus
  exitCode : Option Int
  durationMs : Option Json
  evidence : Option JsString
  output : Option Json
  error : Option JsString

/-- `z.union([z.string(), z.record(z.string(), z.unknown())]).optional()`. -/
def readOutput : Option Json → Option (Option Json)
  | none => some none
  | some (.str text) => some (some (.str text))
  | some (.obj fields) => some (some (.obj fields))
  | some _ => none

/-- `SpawnerResponse.safeParse`; an unknown field passes. -/
def SpawnerResponse.read (json : Json) : Option SpawnerResponse := do
  let taskId ← readOptionalField anyText "task_id" json
  let workerId ← readOptionalField anyText "worker_id" json
  let status ← (json.field? (js "status")).bind SpawnStatus.read
  let exitCode ← readOptionalField (.between (-9007199254740991) 9007199254740991) "exit_code" json
  let durationMs ← readDuration (json.field? (js "duration_ms"))
  let evidence ← readOptionalField anyText "evidence" json
  let output ← readOutput (json.field? (js "output"))
  let error ← readOptionalField anyText "error" json
  some ⟨taskId, workerId, status, exitCode.map Subtype.val, durationMs, evidence, output, error⟩

structure SpawnerStructuredOutput where
  projectName : JsString
  targetPath : JsString
  bytesRead : Count
  linesRead : Count
  contentSha256 : Sha256Text
  outputHash : { hash : JsString // hash ≠ [] }
  skillsMounted : List JsString
  summary : JsString

def SpawnerStructuredOutput.names : List JsString :=
  [js "capability", js "project_name", js "target_path", js "bytes_read", js "lines_read", js "content_sha256",
    js "output_hash", js "skills_mounted", js "mutations_detected", js "summary"]

/-- `SpawnerStructuredOutput.safeParse`; its literal fields are checked and not kept. -/
def SpawnerStructuredOutput.read (json : Json) : Option SpawnerStructuredOutput := do
  if json.hasOnly SpawnerStructuredOutput.names = true then
    let _ ← readField (.literal (js "repository.read")) "capability" json
    let projectName ← readField anyText "project_name" json
    let targetPath ← readField anyText "target_path" json
    let bytesRead ← readField (.between 0 9007199254740991) "bytes_read" json
    let linesRead ← readField (.between 0 9007199254740991) "lines_read" json
    let contentSha256 ← readField (.matching isSha256Text) "content_sha256" json
    let outputHash ← readField nonempty "output_hash" json
    let skillsMounted ← readField anyText.list "skills_mounted" json
    let _ ← readField zero "mutations_detected" json
    let summary ← readField anyText "summary" json
    some ⟨projectName, targetPath, bytesRead, linesRead, contentSha256, outputHash, skillsMounted, summary⟩
  else none

/-- What comes of a post. -/
inductive SpawnAnswer where
  | unreachable (message : Option JsString)
  | refused (status : Nat) (detail : JsString)
  | responded (body : Option Json)

/-- A completed response with its structured output. -/
structure SpawnReading where
  body : SpawnerResponse
  structured : SpawnerStructuredOutput

/-- `RepositoryReadOutput.parse(structured)`. -/
def RepositoryReadOutput.parse (structured : SpawnerStructuredOutput) : Option RepositoryReadOutput := do
  let projectName ← Matching.parse (lengthWithin 1 512) structured.projectName
  let targetPath ← Matching.parse (lengthWithin 1 4096) structured.targetPath
  let outputHash ← Matching.parse (lengthWithin 1 64) structured.outputHash.val
  let skills ← structured.skillsMounted.mapM (within? fun skill : JsString => skill ≠ [])
  let skillsMounted ←
    within? (fun skills : List { skill : JsString // skill ≠ [] } => skills.length ≤ 64) skills
  let summary ← Matching.parse (lengthWithin 1 2048) structured.summary
  some ⟨projectName, targetPath, structured.bytesRead, structured.linesRead,
    structured.contentSha256, outputHash,
    skillsMounted, summary⟩

/-! ## The adapter -/

/-- The adapter with its configuration; its registry holds the definition of the read, and `issues`
gives the messages of a schema that refuses a value. -/
structure NewSystemRuntimeAdapter where
  platform : Platform
  registry : CapabilityRegistry
  baseUrl : JsString
  caller : JsString
  tenantId : JsString
  issues : Option Json → JsString
  descriptor : Json
  registered : registry.entries.get? (entryKey repositoryRead) = some (repositoryReadDefinition descriptor)

structure ReadDigests where
  contentSha256 : JsString
  requestDigest : JsString
  descriptorDigest : JsString
  outputDigest : JsString

structure RuntimeInvokeResult where
  result : CapabilityResult
  evidence : Evidence
  outcome : Outcome
  spawnRequest : SpawnRequestBody
  executionKey : Id
  taskId : Id
  digests : ReadDigests

namespace NewSystemRuntimeAdapter

variable (adapter : NewSystemRuntimeAdapter)

def recognise : CapabilityInvocation → Except NewSystemRuntimeError CapabilityInvocation :=
  admitted repositoryRead .invalidRequest .unsupportedCapability

def brief (input : RepositoryReadInput) : JsString :=
  js "KJ-000000 repository.read" ++
    (match input.targetFile with
    | none => []
    | some targetFile => js " of " ++ targetFile.val)

/-- The body before it is checked.  The texts and the timeout of an input are not empty and not zero,
so that every field that is given is sent. -/
def spawnRequest (invocation : CapabilityInvocation) (input : RepositoryReadInput) : SpawnRequestBody where
  taskId := invocation.taskId.text
  caller := adapter.caller
  tenantId := adapter.tenantId
  brief := brief input
  timeoutSeconds := (input.timeoutSeconds.map Subtype.val).getD 120
  inputData := input

def prepare (invocation : CapabilityInvocation) : Except NewSystemRuntimeError SpawnCall := do
  let input ← required (.error .invalidRequest (js "invalid input")) (RepositoryReadInput.read invocation.input)
  let spawnRequest ← required .schema (adapter.spawnRequest invocation input).parse
  .ok ⟨adapter.baseUrl ++ js "/api/v1/spawn", spawnRequest.toJson.stringify, spawnRequest⟩

/-- `parseStructuredOutput(raw)`. -/
def parseStructuredOutput (raw : Option Json) : Except NewSystemRuntimeError SpawnerStructuredOutput := do
  let value ← match raw with
    | some (.str text) =>
        (required (.error .invalidSpawnerOutput (js "output is not JSON"))
          (JsonParse.parse adapter.platform.numeral text)).map some
    | other => .ok other
  required (.error .invalidSpawnerOutput (adapter.issues value)) (value.bind SpawnerStructuredOutput.read)

/-- `HTTP ${status}`, with the first 200 units of the detail. -/
def httpMessage (status : Nat) (detail : JsString) : JsString :=
  js "HTTP " ++ decimal status ++ (if detail = [] then [] else js ": " ++ detail.take 200)

def read (settlement : Settlement SpawnAnswer) : Except NewSystemRuntimeError SpawnReading :=
  match settlement.answer with
  | .unreachable message => .error (.error .spawnerHttp (message.getD (js "fetch failed")))
  | .refused status detail => .error (.error .spawnerHttp (httpMessage status detail))
  | .responded none => .error .syntaxError
  | .responded (some json) =>
      match SpawnerResponse.read json with
      | none => .error (.error .invalidSpawnerOutput (js "response shape"))
      | some body =>
          if body.status ≠ .completed ∨ body.exitCode ≠ some 0 then
            .error (.error .spawnerFailed ((body.error <|> body.evidence).getD body.status.text))
          else (adapter.parseStructuredOutput body.output).map (SpawnReading.mk body)

def evidenceSource : JsString := js "new-system-spawner/repository.read"

def criterion : JsString := js "repository.read returns content_sha256 (64 hex) with mutations_detected=0"

def statement (invocation : CapabilityInvocation) (reading : SpawnReading) (output : RepositoryReadOutput) :
    Statement where
  source := evidenceSource
  digest := output.contentSha256.val
  metadata := .obj [(js "content_sha256", .str output.contentSha256.val),
    (js "output_hash", .str output.outputHash.val), (js "mutations_detected", .num 0),
    (js "project_name", .str output.projectName.val), (js "target_path", .str output.targetPath.val),
    (js "worker_id", (reading.body.workerId.map Json.str).getD .null),
    (js "spawner_status", .str reading.body.status.text), (js "executionKey", idJson invocation.taskId)]
  criterion := criterion
  summary := output.summary.val

def pack (invocation : CapabilityInvocation) (call : SpawnCall) (settlement : Settlement SpawnAnswer)
    (reading : SpawnReading) : Except NewSystemRuntimeError RuntimeInvokeResult := do
  let output ← required .schema (RepositoryReadOutput.parse reading.structured)
  let result ← verifiedReceipt adapter.platform adapter.registry repositoryRead .verificationFailed invocation
    (RepositoryReadOutput.codec.write output)
  let proof ← (statement invocation reading output).prove invocation settlement
  .ok {
    result := result
    evidence := proof.evidence
    outcome := proof.outcome
    spawnRequest := call.spawnRequest
    executionKey := invocation.taskId
    taskId := invocation.taskId
    digests := ⟨output.contentSha256.val, result.requestDigest, result.descriptorDigest, result.outputDigest⟩ }

/-- `invoke(raw)`: up to the post, and from its response on. -/
def service : Service CapabilityInvocation CapabilityInvocation SpawnCall (Settlement SpawnAnswer) SpawnReading
    RuntimeInvokeResult JsString NewSystemRuntimeError where
  recognise := recognise
  key := fun invocation => invocation.idempotencyKey
  agrees := fun cached invocation => sameStep adapter.platform cached.result invocation
  conflict := .error .invalidRequest (js "idempotency key conflict")
  prepare := adapter.prepare
  read := adapter.read
  pack := adapter.pack

end NewSystemRuntimeAdapter

end KernelJson.Runtimes.NewSystem
