import KernelJson.Ledger.Effects
import KernelJson.Runtimes.Execution

/-!
# The store of capability runs

`CapabilityStore.record` verifies a receipt and stores the run of a running
step, its evidence and its event in one transaction.  A key that was used for
a task answers a repetition of the same request with the same result, and
nothing else.
-/

namespace KernelJson.Runtimes.CapabilityStore

open Contracts.CapabilityRun
open Contracts.Common
open Contracts.Outcome
open Contracts.Platform
open Contracts.PolicyGate
open Contracts.Task
open Foundation
open Foundation.JsText
open Foundation.Transactions
open Ledger.Effects (orError_ok demand_ok)
open Ledger.Store (Fault demand evidenceRow orError)
open Runtimes.BuiltinCapabilities
open Runtimes.CapabilityRegistry
open Runtimes.Execution (sampleInvocation)
open Runtimes.Receipts (receiptOf)

/-! ## Tables -/

/-- A row of `capability_versions`. -/
structure VersionRow where
  id : Id
  capabilityId : Id
  version : JsString
  contract : Json

/-- A row of `capability_runs`. -/
structure RunRow where
  id : Id
  taskId : Id
  stepId : Id
  versionId : Id
  key : JsString
  requestDigest : JsString
  result : CapabilityResult
  evidenceId : Id
  createdAt : Timestamp

/-- An event of `TOOL_CALLED`. -/
structure EventRow where
  id : Id
  taskId : Id
  stepId : Id
  key : JsString
  requestDigest : JsString
  occurredAt : Timestamp
  actorId : Id
  traceId : Id
  result : CapabilityResult
  evidenceId : Id

structure Tables where
  tasks : List Task
  steps : List TaskStep
  versions : List VersionRow
  evidence : List Evidence
  /-- The events of this store. -/
  events : List EventRow
  runs : List RunRow

/-- `select … from capability_runs where task_id=$1 and idempotency_key=$2`. -/
def Tables.run? (tables : Tables) (taskId : Id) (key : JsString) : Option RunRow :=
  tables.runs.find? fun row => row.taskId = taskId.column ∧ row.key = key

def Tables.task? (tables : Tables) (taskId : Id) : Option Task :=
  tables.tasks.find? fun task => task.id = taskId.column

def Tables.step? (tables : Tables) (taskId stepId : Id) : Option TaskStep :=
  tables.steps.find? fun step => step.id = stepId.column ∧ step.taskId = taskId.column

def Tables.version? (tables : Tables) (capability : CapabilityRef) : Option VersionRow :=
  tables.versions.find? fun row => row.capabilityId = capability.id.column ∧ row.version = capability.version

structure CapabilityAudit where
  evidenceId : Id
  eventId : Id
  recordedAt : Timestamp

/-- What the database draws, and whether it takes the rows for every reason that the tables do not express. -/
structure Surroundings where
  versionId : Id
  stores : Bool

/-! ## Recording -/

def refsJson (refs : List CapabilityRef) : Json :=
  .arr (refs.map capabilityRefJson)

/-- What the evidence of a run says about it. -/
def runMetadata (request : CapabilityInvocation) (result : CapabilityResult) : Json :=
  .obj [(js "capability", capabilityRefJson request.capability), (js "runId", idJson request.runId),
    (js "requestDigest", .str result.requestDigest), (js "outputDigest", .str result.outputDigest),
    (js "descriptorDigest", .str result.descriptorDigest)]

section Record

variable (platform : Platform)

/-- The request is that of the running step of a running task. -/
def MatchesStep (task : Task) (step : TaskStep) (request : CapabilityInvocation) : Prop :=
  task.status = .running ∧ task.riskClass = .low ∧ task.traceId = request.trace.traceId ∧ step.status = .running ∧
    step.kind = .deterministicFunction ∧ step.riskClass = .low ∧ step.idempotencyKey = some request.idempotencyKey ∧
    capabilityDigest platform step.input = capabilityDigest platform request.input ∧
    capabilityDigest platform (refsJson step.requiredCapabilities) =
      capabilityDigest platform (refsJson [request.capability])

instance (task : Task) (step : TaskStep) (request : CapabilityInvocation) :
    Decidable (MatchesStep platform task step request) :=
  inferInstanceAs (Decidable (_ ∧ _ ∧ _ ∧ _ ∧ _ ∧ _ ∧ _ ∧ _ ∧ _))

def runEvidence (task : Task) (step : TaskStep) (request : CapabilityInvocation) (result : CapabilityResult)
    (audit : CapabilityAudit) : Evidence where
  id := audit.evidenceId
  taskId := task.id
  stepId := some step.id
  type := .deterministicResult
  source := js "kerneljson:capability/v1"
  ref := none
  uri := none
  digest := some (capabilityDigest platform result.toJson)
  capturedAt := audit.recordedAt
  metadata := runMetadata request result

def runEvent (task : Task) (step : TaskStep) (request : CapabilityInvocation) (result : CapabilityResult)
    (evidence : Evidence) (audit : CapabilityAudit) : EventRow where
  id := audit.eventId.column
  taskId := task.id.column
  stepId := step.id.column
  key := js "capability:" ++ request.idempotencyKey
  requestDigest := result.requestDigest
  occurredAt := audit.recordedAt
  actorId := task.principal.id.column
  traceId := task.traceId.column
  result := result
  evidenceId := evidence.id

def runRow (task : Task) (step : TaskStep) (version : VersionRow) (request : CapabilityInvocation)
    (result : CapabilityResult) (evidence : Evidence) (audit : CapabilityAudit) : RunRow where
  id := request.runId.column
  taskId := task.id.column
  stepId := step.id.column
  versionId := version.id
  key := request.idempotencyKey
  requestDigest := result.requestDigest
  result := result
  evidenceId := evidence.id.column
  createdAt := audit.recordedAt

/-- `insert … on conflict do nothing`, and the row that is there then. -/
def Tables.register (tables : Tables) (capability : CapabilityRef) (descriptor : Json) (id : Id) :
    VersionRow × List VersionRow :=
  match tables.version? capability with
  | some row => (row, tables.versions)
  | none =>
      let row := ⟨id, capability.id.column, capability.version, descriptor⟩
      (row, tables.versions ++ [row])

/-- A key that was used answers only the request and the result that it was used for. -/
def answerPrior (prior : RunRow) (result : CapabilityResult) : Except Fault Unit := do
  let stored ← orError prior.result.parse "Invalid result"
  demand (prior.requestDigest = result.requestDigest ∧
    capabilityDigest platform stored.toJson = capabilityDigest platform result.toJson)
    (.error "Capability idempotency conflict")

/-- The transaction of a run that was not recorded. -/
def recordNew (around : Surroundings) (request : CapabilityInvocation) (result : CapabilityResult) (descriptor : Json)
    (audit : CapabilityAudit) (tables : Tables) : Except Fault Tables := do
  let task ← orError ((tables.task? request.taskId).bind Task.parse) "Invalid task"
  let step ← orError ((tables.step? request.taskId request.stepId).bind TaskStep.parse) "Invalid step"
  demand (MatchesStep platform task step request)
    (.error "Capability request does not match the running task step")
  let (version, versions) := tables.register request.capability descriptor around.versionId
  demand (capabilityDigest platform version.contract = capabilityDigest platform descriptor)
    (.error "Capability version definition conflict")
  let evidence ← orError (runEvidence platform task step request result audit).parse "Invalid evidence"
  let event := runEvent task step request result evidence audit
  let row := runRow task step version request result evidence audit
  demand ((∀ other ∈ tables.evidence, other.id ≠ evidence.id.column) ∧
    (∀ other ∈ tables.events, other.id ≠ event.id ∧ ¬ (other.taskId = event.taskId ∧ other.key = event.key)) ∧
    (∀ other ∈ tables.runs, other.id ≠ row.id ∧ ¬ (other.taskId = row.taskId ∧ other.key = row.key)) ∧
    around.stores = true) (.error "refused by the database")
  .ok { tables with
    versions := versions
    evidence := tables.evidence ++ [evidenceRow evidence]
    events := tables.events ++ [event]
    runs := tables.runs ++ [row] }

/-- The transaction of a verified receipt. -/
def recordVerified (around : Surroundings) (request : CapabilityInvocation) (result : CapabilityResult)
    (descriptor : Json) (audit : CapabilityAudit) (tables : Tables) : Except Fault (Unit × Tables) :=
  match tables.run? request.taskId request.idempotencyKey with
  | some prior => do
      answerPrior platform prior result
      .ok ((), tables)
  | none => do
      let after ← recordNew platform around request result descriptor audit tables
      .ok ((), after)

variable (registry : CapabilityRegistry)

/-- `record(raw, rawResult, audit)`. -/
def recording (around : Surroundings) (raw : CapabilityInvocation) (rawResult : CapabilityResult)
    (audit : CapabilityAudit) (tables : Tables) : Except Fault (Unit × Tables) := do
  let request ← orError raw.parse "Invalid invocation"
  let result ← orError (verify platform registry request rawResult).toOption "Capability error"
  let descriptor ← orError (describe platform registry request.capability).toOption "Capability error"
  recordVerified platform around request result descriptor audit tables

/-- What it throws rolls the transaction back. -/
def record (around : Surroundings) (raw : CapabilityInvocation) (rawResult : CapabilityResult)
    (audit : CapabilityAudit) : Tables → Except Fault Unit × Tables :=
  commit (recording platform registry around raw rawResult audit)

end Record

/-! ## What a recording does -/

variable {platform : Platform} {registry : CapabilityRegistry}

/-- A receipt that the registry verified for a request. -/
structure Verified (platform : Platform) (registry : CapabilityRegistry) (raw : CapabilityInvocation)
    (rawResult : CapabilityResult) (request : CapabilityInvocation) (result : CapabilityResult) : Prop where
  parsed : raw.parse = some request
  verified : verify platform registry request rawResult = .ok result

/-- A run that was recorded, and the tables that it left. -/
structure Writes (platform : Platform) (before : Tables) (request : CapabilityInvocation) (result : CapabilityResult)
    (audit : CapabilityAudit) (task : Task) (step : TaskStep) (version : VersionRow) (evidence : Evidence)
    (after : Tables) : Prop where
  unused : before.run? request.taskId request.idempotencyKey = none
  taskRead : (before.task? request.taskId).bind Task.parse = some task
  stepRead : (before.step? request.taskId request.stepId).bind TaskStep.parse = some step
  matched : MatchesStep platform task step request
  evidenceRead : (runEvidence platform task step request result audit).parse = some evidence
  runs : after.runs = before.runs ++ [runRow task step version request result evidence audit]
  kept : after.evidence = before.evidence ++ [evidenceRow evidence]
  events : after.events = before.events ++ [runEvent task step request result evidence audit]

/-- What a recording that succeeded did: it found the run, or wrote it. -/
inductive Effect (platform : Platform) (before : Tables) (request : CapabilityInvocation) (result : CapabilityResult)
    (audit : CapabilityAudit) : Tables → Prop where
  | found (prior : RunRow) (stored : CapabilityResult)
      (used : before.run? request.taskId request.idempotencyKey = some prior) (read : prior.result.parse = some stored)
      (sameRequest : prior.requestDigest = result.requestDigest)
      (sameResult : capabilityDigest platform stored.toJson = capabilityDigest platform result.toJson) :
      Effect platform before request result audit before
  | written {after : Tables} {task : Task} {step : TaskStep} {version : VersionRow} {evidence : Evidence}
      (writes : Writes platform before request result audit task step version evidence after) :
      Effect platform before request result audit after

theorem recordNew_ok {around : Surroundings} {request : CapabilityInvocation} {result : CapabilityResult}
    {descriptor : Json} {audit : CapabilityAudit} {before after : Tables}
    (unused : before.run? request.taskId request.idempotencyKey = none)
    (done : recordNew platform around request result descriptor audit before = .ok after) :
    Effect platform before request result audit after := by
  unfold recordNew at done
  obtain ⟨task, taskRead, done⟩ := bind_ok done
  obtain ⟨step, stepRead, done⟩ := bind_ok done
  obtain ⟨⟨⟩, matched, done⟩ := bind_ok done
  obtain ⟨⟨⟩, -, done⟩ := bind_ok done
  obtain ⟨evidence, evidenceRead, done⟩ := bind_ok done
  obtain ⟨⟨⟩, -, done⟩ := bind_ok done
  cases done
  exact .written
    { unused := unused
      taskRead := orError_ok taskRead
      stepRead := orError_ok stepRead
      matched := demand_ok matched
      evidenceRead := orError_ok evidenceRead
      runs := rfl
      kept := rfl
      events := rfl }

theorem toOption_ok {Error α : Type} {result : Except Error α} {value : α} (given : result.toOption = some value) :
    result = .ok value := by
  cases result with
  | error fault => cases given
  | ok found => exact congrArg Except.ok (Option.some.inj given)

theorem recording_ok {around : Surroundings} {raw : CapabilityInvocation} {rawResult : CapabilityResult}
    {audit : CapabilityAudit} {before after : Tables}
    (done : recording platform registry around raw rawResult audit before = .ok ((), after)) :
    ∃ request result, Verified platform registry raw rawResult request result ∧
      Effect platform before request result audit after := by
  unfold recording at done
  obtain ⟨request, parsed, done⟩ := bind_ok done
  obtain ⟨result, verified, done⟩ := bind_ok done
  obtain ⟨descriptor, -, done⟩ := bind_ok done
  refine ⟨request, result, ⟨orError_ok parsed, toOption_ok (orError_ok verified)⟩, ?_⟩
  unfold recordVerified at done
  cases used : before.run? request.taskId request.idempotencyKey with
  | some prior =>
      simp only [used] at done
      obtain ⟨⟨⟩, answered, done⟩ := bind_ok done
      cases done
      obtain ⟨stored, read, same⟩ := bind_ok answered
      obtain ⟨sameRequest, sameResult⟩ := demand_ok same
      exact .found prior stored used (orError_ok read) sameRequest sameResult
  | none =>
      simp only [used] at done
      obtain ⟨written, wrote, done⟩ := bind_ok done
      cases done
      exact recordNew_ok used wrote

/-- A recording that throws changes nothing; one that succeeds found or wrote its run. -/
theorem record_cases (platform : Platform) (registry : CapabilityRegistry) (around : Surroundings)
    (raw : CapabilityInvocation) (rawResult : CapabilityResult) (audit : CapabilityAudit) (before : Tables) :
    (∃ fault, record platform registry around raw rawResult audit before = (.error fault, before)) ∨
      ∃ after request result, record platform registry around raw rawResult audit before = (.ok (), after) ∧
        Verified platform registry raw rawResult request result ∧
          Effect platform before request result audit after := by
  rcases commit_cases (recording platform registry around raw rawResult audit) before with
    ⟨fault, -, same⟩ | ⟨⟨⟩, after, ran, same⟩
  · exact .inl ⟨fault, same⟩
  · obtain ⟨request, result, verified, effect⟩ := recording_ok ran
    exact .inr ⟨after, request, result, same, verified, effect⟩

/-! ## Runs -/

inductive Occurrence where
  | record (before : Tables) (around : Surroundings) (raw : CapabilityInvocation) (rawResult : CapabilityResult)
      (audit : CapabilityAudit)
  | others (before after : Tables)

/-- Other writers change no run and remove no evidence. -/
structure Others (before after : Tables) : Prop where
  runs : after.runs = before.runs
  evidence : ∀ item ∈ before.evidence, item ∈ after.evidence

/-- The occurrences so far, the latest first, and the tables that they left. -/
inductive Run (platform : Platform) (registry : CapabilityRegistry) : List Occurrence → Tables → Prop where
  | start {tables : Tables} (unused : tables.runs = []) : Run platform registry [] tables
  | record {past : List Occurrence} {tables : Tables} (run : Run platform registry past tables)
      (around : Surroundings) (raw : CapabilityInvocation) (rawResult : CapabilityResult) (audit : CapabilityAudit) :
      Run platform registry (.record tables around raw rawResult audit :: past)
        (CapabilityStore.record platform registry around raw rawResult audit tables).2
  | others {past : List Occurrence} {tables after : Tables} (run : Run platform registry past tables)
      (others : Others tables after) : Run platform registry (.others tables after :: past) after

/-- The stored evidence of a result. -/
structure EvidenceOf (platform : Platform) (request : CapabilityInvocation) (result : CapabilityResult)
    (item : Evidence) : Prop where
  ofTask : item.taskId = request.taskId.column
  ofStep : item.stepId = some request.stepId.column
  type : item.type = .deterministicResult
  source : item.source = js "kerneljson:capability/v1"
  digest : item.digest = some (capabilityDigest platform result.toJson)
  metadata : item.metadata = runMetadata request result

/-- A row that stands for a request and its verified result, with their evidence. -/
structure Stands (platform : Platform) (registry : CapabilityRegistry) (tables : Tables)
    (request : CapabilityInvocation) (result : CapabilityResult) (row : RunRow) : Prop where
  member : row ∈ tables.runs
  named : row.id = request.runId.column ∧ row.taskId = request.taskId.column ∧ row.stepId = request.stepId.column ∧
    row.key = request.idempotencyKey
  holds : row.result = result ∧ row.requestDigest = result.requestDigest
  verified : ∃ rawResult, verify platform registry request rawResult = .ok result
  evidence : ∃ item ∈ tables.evidence, item.id = row.evidenceId ∧ EvidenceOf platform request result item

theorem runEvidence_parse (task : Task) (step : TaskStep) (request : CapabilityInvocation) (result : CapabilityResult)
    (audit : CapabilityAudit) :
    (runEvidence platform task step request result audit).parse =
      some (runEvidence platform task step request result audit) := by
  have source : parseText (js "kerneljson:capability/v1") = some (js "kerneljson:capability/v1") := by
    decide +kernel
  simp only [Evidence.parse, runEvidence, source, Option.bind_eq_bind, Option.bind_some]
  exact if_pos ⟨isSha256Text_hexText _, rfl, .inr (.inr rfl)⟩

section Writes

variable {before after : Tables} {request : CapabilityInvocation} {result : CapabilityResult}
  {audit : CapabilityAudit} {task : Task} {step : TaskStep} {version : VersionRow} {evidence : Evidence}

theorem Writes.ids (writes : Writes platform before request result audit task step version evidence after) :
    task.id = request.taskId.column ∧ step.id = request.stepId.column := by
  obtain ⟨raw, found, read⟩ := Option.bind_eq_some_iff.mp writes.taskRead
  obtain ⟨rawStep, foundStep, readStep⟩ := Option.bind_eq_some_iff.mp writes.stepRead
  have named := List.find?_some found
  have namedStep := List.find?_some foundStep
  obtain ⟨capabilities, key, rfl⟩ := TaskStep.parse_shape readStep
  exact ⟨(Task.parse_keeps read).1.trans (of_decide_eq_true named), (of_decide_eq_true namedStep).1⟩

/-- The run that was written stands for its request. -/
theorem Writes.stands (writes : Writes platform before request result audit task step version evidence after)
    {rawResult : CapabilityResult} (verified : verify platform registry request rawResult = .ok result) :
    Stands platform registry after request result (runRow task step version request result evidence audit) := by
  obtain ⟨taskId, stepId⟩ := writes.ids
  have made : evidence = runEvidence platform task step request result audit :=
    Option.some.inj (writes.evidenceRead.symm.trans (runEvidence_parse task step request result audit))
  refine ⟨?_, ⟨rfl, ?_, ?_, rfl⟩, ⟨rfl, rfl⟩, ⟨rawResult, verified⟩, evidenceRow evidence, ?_, rfl, ?_⟩
  · rw [writes.runs]
    exact List.mem_append_right _ (List.mem_singleton_self _)
  · show task.id.column = _
    rw [taskId, Id.column_column]
  · show step.id.column = _
    rw [stepId, Id.column_column]
  · rw [writes.kept]
    exact List.mem_append_right _ (List.mem_singleton_self _)
  · subst made
    refine ⟨?_, ?_, rfl, rfl, rfl, rfl⟩
    · show task.id.column = _
      rw [taskId, Id.column_column]
    · show some step.id.column = _
      rw [stepId, Id.column_column]

end Writes

/-- Runs stay and evidence stays. -/
structure Grows (before after : Tables) : Prop where
  runs : ∀ row ∈ before.runs, row ∈ after.runs
  evidence : ∀ item ∈ before.evidence, item ∈ after.evidence

theorem Stands.later {before after : Tables} {request : CapabilityInvocation} {result : CapabilityResult}
    {row : RunRow} (stands : Stands platform registry before request result row) (grows : Grows before after) :
    Stands platform registry after request result row := by
  obtain ⟨item, member, rest⟩ := stands.evidence
  exact { stands with
    member := grows.runs row stands.member
    evidence := ⟨item, grows.evidence item member, rest⟩ }

theorem effect_grows {before after : Tables} {request : CapabilityInvocation} {result : CapabilityResult}
    {audit : CapabilityAudit} (effect : Effect platform before request result audit after) : Grows before after := by
  cases effect with
  | found prior stored used read sameRequest sameResult => exact ⟨fun _ member => member, fun _ member => member⟩
  | written writes =>
      constructor
      · rw [writes.runs]
        exact fun row member => List.mem_append_left _ member
      · rw [writes.kept]
        exact fun item member => List.mem_append_left _ member

/-- An answered recording has its run: under the key of the request, with the digests of the request and the result. -/
structure Answered (platform : Platform) (tables : Tables) (request : CapabilityInvocation)
    (result : CapabilityResult) (row : RunRow) : Prop where
  member : row ∈ tables.runs
  named : row.taskId = request.taskId.column ∧ row.key = request.idempotencyKey
  sameRequest : row.requestDigest = result.requestDigest
  sameResult : capabilityDigest platform row.result.toJson = capabilityDigest platform result.toJson

/-- What every run keeps. -/
structure Kept (platform : Platform) (registry : CapabilityRegistry) (past : List Occurrence) (tables : Tables) :
    Prop where
  keys : (tables.runs.map fun row => (row.taskId, row.key)).Nodup
  stands : ∀ row ∈ tables.runs, ∃ before around raw rawResult audit request result,
    .record before around raw rawResult audit ∈ past ∧
      (CapabilityStore.record platform registry around raw rawResult audit before).1 = .ok () ∧
      Verified platform registry raw rawResult request result ∧ Stands platform registry tables request result row
  answered : ∀ before around raw rawResult audit, .record before around raw rawResult audit ∈ past →
    (CapabilityStore.record platform registry around raw rawResult audit before).1 = .ok () →
      ∃ request result row, Verified platform registry raw rawResult request result ∧
        Answered platform tables request result row

theorem Answered.later {before after : Tables} {request : CapabilityInvocation} {result : CapabilityResult}
    {row : RunRow} (answered : Answered platform before request result row) (grows : Grows before after) :
    Answered platform after request result row :=
  { answered with member := grows.runs row answered.member }

theorem run?_some {tables : Tables} {taskId : Id} {key : JsString} {row : RunRow}
    (found : tables.run? taskId key = some row) :
    row ∈ tables.runs ∧ row.taskId = taskId.column ∧ row.key = key := by
  have named := List.find?_some found
  exact ⟨List.mem_of_find?_eq_some found, of_decide_eq_true named⟩

theorem run?_none {tables : Tables} {taskId : Id} {key : JsString} (absent : tables.run? taskId key = none) :
    (taskId.column, key) ∉ tables.runs.map fun row => (row.taskId, row.key) := by
  intro listed
  obtain ⟨row, member, same⟩ := List.mem_map.mp listed
  have refused := List.find?_eq_none.mp absent row member
  exact refused (decide_eq_true (Prod.mk.inj same))

section Steps

variable {past : List Occurrence} {tables after : Tables}

/-- The run of an answered recording is there, whether it was found or written. -/
theorem Effect.answered (kept : Kept platform registry past tables) {request : CapabilityInvocation}
    {result : CapabilityResult} {audit : CapabilityAudit} {raw : CapabilityInvocation} {rawResult : CapabilityResult}
    (effect : Effect platform tables request result audit after)
    (verified : Verified platform registry raw rawResult request result) :
    ∃ row, Answered platform after request result row := by
  cases effect with
  | found prior stored used read sameRequest sameResult =>
      obtain ⟨member, named⟩ := run?_some used
      obtain ⟨_, _, _, _, _, _, _, -, -, -, stands⟩ := kept.stands prior member
      obtain ⟨given, accepted⟩ := stands.verified
      have again := CapabilityResult.parse_again (verify_ok.mp accepted).1
      have same : stored = prior.result := by
        rw [← stands.holds.1] at again
        exact Option.some.inj (read.symm.trans again)
      subst same
      exact ⟨prior, member, named, sameRequest, sameResult⟩
  | written writes =>
      have stands := writes.stands verified.verified
      exact ⟨_, stands.member, ⟨stands.named.2.1, rfl⟩, rfl, rfl⟩

theorem Effect.keys (kept : Kept platform registry past tables) {request : CapabilityInvocation}
    {result : CapabilityResult} {audit : CapabilityAudit}
    (effect : Effect platform tables request result audit after) :
    (after.runs.map fun row => (row.taskId, row.key)).Nodup := by
  cases effect with
  | found prior stored used read sameRequest sameResult => exact kept.keys
  | @written after task step version evidence writes =>
      obtain ⟨taskId, -⟩ := writes.ids
      have fresh := run?_none writes.unused
      rw [writes.runs, List.map_append, List.map_cons, List.map_nil]
      refine List.nodup_append.mpr ⟨kept.keys, List.nodup_singleton _, ?_⟩
      intro first inside second last same
      cases List.mem_singleton.mp last
      have named : (runRow task step version request result evidence audit).taskId = request.taskId.column := by
        show task.id.column = _
        rw [taskId, Id.column_column]
      rw [same, named] at inside
      exact fresh inside

/-- Every row after a recording was there, or is the one that it wrote. -/
theorem Effect.row {request : CapabilityInvocation} {result : CapabilityResult} {audit : CapabilityAudit}
    {raw : CapabilityInvocation} {rawResult : CapabilityResult}
    (effect : Effect platform tables request result audit after)
    (verified : Verified platform registry raw rawResult request result) {row : RunRow} (member : row ∈ after.runs) :
    row ∈ tables.runs ∨ Stands platform registry after request result row := by
  cases effect with
  | found prior stored used read sameRequest sameResult => exact .inl member
  | written writes =>
      have stands := writes.stands verified.verified
      rw [writes.runs] at member
      rcases List.mem_append.mp member with old | added
      · exact .inl old
      · cases List.mem_singleton.mp added
        exact .inr stands

/-- The rows of before stand for what they stood for. -/
theorem Kept.standsLater (kept : Kept platform registry past tables) (grows : Grows tables after)
    (latest : Occurrence) {row : RunRow} (member : row ∈ tables.runs) :
    ∃ before around raw rawResult audit request result,
      .record before around raw rawResult audit ∈ latest :: past ∧
        (CapabilityStore.record platform registry around raw rawResult audit before).1 = .ok () ∧
        Verified platform registry raw rawResult request result ∧
          Stands platform registry after request result row := by
  obtain ⟨before, around, raw, rawResult, audit, request, result, occurred, done, verified, stands⟩ :=
    kept.stands row member
  exact ⟨before, around, raw, rawResult, audit, request, result, List.mem_cons_of_mem _ occurred, done, verified,
    stands.later grows⟩

theorem Kept.answeredLater (kept : Kept platform registry past tables) (grows : Grows tables after)
    {before : Tables} {around : Surroundings} {raw : CapabilityInvocation} {rawResult : CapabilityResult}
    {audit : CapabilityAudit} (occurred : .record before around raw rawResult audit ∈ past)
    (done : (CapabilityStore.record platform registry around raw rawResult audit before).1 = .ok ()) :
    ∃ request result row, Verified platform registry raw rawResult request result ∧
      Answered platform after request result row := by
  obtain ⟨request, result, row, verified, answered⟩ := kept.answered _ _ _ _ _ occurred done
  exact ⟨request, result, row, verified, answered.later grows⟩

theorem kept_record (kept : Kept platform registry past tables) (around : Surroundings) (raw : CapabilityInvocation)
    (rawResult : CapabilityResult) (audit : CapabilityAudit) :
    Kept platform registry (.record tables around raw rawResult audit :: past)
      (CapabilityStore.record platform registry around raw rawResult audit tables).2 := by
  rcases record_cases platform registry around raw rawResult audit tables with
    ⟨fault, same⟩ | ⟨after, request, result, same, verified, effect⟩
  · rw [same]
    have grows : Grows tables tables := ⟨fun _ member => member, fun _ member => member⟩
    refine ⟨kept.keys, fun row member => kept.standsLater grows _ member, ?_⟩
    intro before around' raw' rawResult' audit' occurred done
    rcases List.mem_cons.mp occurred with now | earlier
    · cases now
      rw [same] at done
      cases done
    · exact kept.answeredLater grows earlier done
  · rw [same]
    have grows := effect_grows effect
    refine ⟨effect.keys kept, ?_, ?_⟩
    · intro row member
      rcases effect.row verified member with old | stands
      · exact kept.standsLater grows _ old
      · exact ⟨_, _, _, _, _, request, result, List.mem_cons_self, congrArg Prod.fst same, verified, stands⟩
    · intro before around' raw' rawResult' audit' occurred done
      rcases List.mem_cons.mp occurred with now | earlier
      · cases now
        obtain ⟨row, answered⟩ := effect.answered kept verified
        exact ⟨request, result, row, verified, answered⟩
      · exact kept.answeredLater grows earlier done

theorem kept_run (run : Run platform registry past tables) : Kept platform registry past tables := by
  induction run with
  | @start tables unused =>
      refine ⟨?_, ?_, fun _ _ _ _ _ occurred => absurd occurred List.not_mem_nil⟩
      · rw [unused]
        exact List.nodup_nil
      · rw [unused]
        exact fun row member => absurd member List.not_mem_nil
  | record run around raw rawResult audit ih => exact kept_record ih around raw rawResult audit
  | @others past tables after run others ih =>
      have grows : Grows tables after := by
        refine ⟨?_, others.evidence⟩
        rw [others.runs]
        exact fun _ member => member
      refine ⟨?_, ?_, ?_⟩
      · rw [others.runs]
        exact ih.keys
      · intro row member
        rw [others.runs] at member
        exact ih.standsLater grows _ member
      · intro before around raw rawResult audit occurred done
        rcases List.mem_cons.mp occurred with now | earlier
        · cases now
        · exact ih.answeredLater grows earlier done

end Steps

/-- In any run of recordings and other writers, a recording that succeeded has exactly one row under its task and key,
with the digests of its request and its result; so two that succeeded under one key agreed in both.  Every row was
written by a recording that succeeded, for a result that the registry verified, and its evidence is stored. -/
theorem recorded_once {past : List Occurrence} {tables : Tables} (run : Run platform registry past tables) :
    (∀ before around raw rawResult audit, .record before around raw rawResult audit ∈ past →
      (record platform registry around raw rawResult audit before).1 = .ok () →
        ∃ request result row, Verified platform registry raw rawResult request result ∧
          Answered platform tables request result row ∧
          ∀ other ∈ tables.runs, other.taskId = row.taskId → other.key = row.key → other = row) ∧
      ∀ row ∈ tables.runs, ∃ before around raw rawResult audit request result,
        .record before around raw rawResult audit ∈ past ∧
          (record platform registry around raw rawResult audit before).1 = .ok () ∧
          Verified platform registry raw rawResult request result ∧
          Stands platform registry tables request result row := by
  have kept := kept_run run
  refine ⟨?_, kept.stands⟩
  intro before around raw rawResult audit occurred done
  obtain ⟨request, result, row, verified, answered⟩ := kept.answered before around raw rawResult audit occurred done
  refine ⟨request, result, row, verified, answered, ?_⟩
  intro other member sameTask sameKey
  exact List.inj_on_of_nodup_map kept.keys member answered.member (Prod.ext sameTask sameKey)

/-! ### A reversed text is recorded -/

def sampleTask : Task where
  id := reverse.id
  parentTaskId := none
  principal := ⟨reverse.id, .service⟩
  tenant := ⟨reverse.id⟩
  objective := js "ab"
  acceptanceCriteria := [js "c"]
  constraints := []
  riskClass := .low
  budget := none
  deadline := none
  status := .running
  traceId := reverse.id
  createdAt := .epoch
  startedAt := none
  completedAt := none

def sampleStep : TaskStep where
  id := reverse.id
  taskId := reverse.id
  kind := .deterministicFunction
  status := .running
  dependencies := []
  requiredCapabilities := [reverse]
  riskClass := .low
  retryPolicy := ⟨1, 0⟩
  timeout := none
  input := textJson (js "ab")
  output := none
  idempotencyKey := some (js "k")

def sampleTables : Tables := ⟨[sampleTask], [sampleStep], [], [], [], []⟩

def sampleResult : CapabilityResult :=
  receiptOf .ascii (reverseDefinition fun _ => .null) sampleInvocation (textJson (js "ba"))

def sampleRegistry : CapabilityRegistry := createBuiltinRegistry .ascii fun _ => .null

def sampleAudit : CapabilityAudit := ⟨reverse.id, uppercase.id, .epoch⟩

theorem sample_succeeds :
    (record .ascii sampleRegistry ⟨reverse.id, true⟩ sampleInvocation sampleResult sampleAudit sampleTables).1 =
      .ok () := by
  have succeeds : (record .ascii sampleRegistry ⟨reverse.id, true⟩ sampleInvocation sampleResult sampleAudit
      sampleTables).1.toOption.isSome = true := by
    decide +kernel
  obtain ⟨⟨⟩, present⟩ := Option.isSome_iff_exists.mp succeeds
  exact toOption_ok present

/-- The reversed text has its row. -/
theorem sample_recorded : ∃ request result row,
    Verified .ascii sampleRegistry sampleInvocation sampleResult request result ∧
      row ∈ (record .ascii sampleRegistry ⟨reverse.id, true⟩ sampleInvocation sampleResult sampleAudit
        sampleTables).2.runs ∧ row.key = request.idempotencyKey := by
  have run := Run.record (@Run.start .ascii sampleRegistry sampleTables rfl) ⟨reverse.id, true⟩ sampleInvocation
    sampleResult sampleAudit
  obtain ⟨request, result, row, verified, answered, -⟩ :=
    (recorded_once run).1 _ _ _ _ _ List.mem_cons_self sample_succeeds
  exact ⟨request, result, row, verified, answered.member, answered.named.2⟩

end KernelJson.Runtimes.CapabilityStore
