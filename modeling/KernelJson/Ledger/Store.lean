import KernelJson.Executor.Verification
import KernelJson.Foundation.Transactions

/-!
# The task ledger

One operation records every event of a task: it checks the write, answers a
repeated key from the stored digest, moves the task along its lifecycle,
verifies a completion from what is persisted, and projects the steps, the
evidence and the outcome that came with the event.  The tables bring their own
constraints and triggers.  All of it is one transaction.
-/

namespace KernelJson.Ledger.Store

open Contracts.Common
open Contracts.Digest
open Contracts.Outcome
open Contracts.Platform
open Contracts.Records
open Contracts.Task
open Executor.Verification
open Foundation
open Foundation.JsText
open Foundation.Transactions
open Planner.Plan

/-! ## Writes -/

structure Write where
  key : JsString
  task : Task
  event : TaskEvent
  step : Option TaskStep
  steps : Option (List TaskStep)
  evidence : Option Evidence
  outcome : Option Outcome

def stepListJson (steps : List TaskStep) : Json := .arr (steps.map TaskStep.toJson)

def Write.fields (input : Write) : List (JsString × Option Json) :=
  [(js "key", some (.str input.key)), (js "task", some (Task.toJson input.task)),
    (js "event", some (TaskEvent.toJson input.event)), (js "step", input.step.map TaskStep.toJson),
    (js "steps", input.steps.map stepListJson), (js "evidence", input.evidence.map Evidence.toJson),
    (js "outcome", input.outcome.map Outcome.toJson)]

def Write.toJson (input : Write) : Json := objectOf input.fields

def writeNames : List JsString :=
  [js "key", js "task", js "event", js "step", js "steps", js "evidence", js "outcome"]

theorem nodup_writeNames : writeNames.Nodup := by
  decide +kernel

theorem Write.toJson_injective : Function.Injective Write.toJson := by
  intro first second same
  have fields : first.fields = second.fields := objectOf_injective nodup_writeNames rfl rfl same
  simp only [Write.fields, List.cons.injEq, Prod.mk.injEq, true_and, and_true, Option.some.injEq] at fields
  obtain ⟨key, task, event, step, steps, evidence, outcome⟩ := fields
  cases first
  cases second
  cases str_injective key
  cases Task.toJson_injective task
  cases TaskEvent.toJson_injective event
  cases Option.map_injective TaskStep.toJson_injective step
  cases Option.map_injective (arr_map_injective TaskStep.toJson_injective) steps
  cases Option.map_injective Evidence.toJson_injective evidence
  cases Option.map_injective Outcome.toJson_injective outcome
  rfl

/-- What a call throws. -/
inductive Fault where
  /-- `CompletionVerificationError` -/
  | verification (message : String)
  | error (message : String)

def orError {α : Type} (value : Option α) (message : String) : Except Fault α :=
  match value with
  | some value => .ok value
  | none => .error (.error message)

def demand (holds : Prop) [Decidable holds] (fault : Fault) : Except Fault Unit :=
  if holds then .ok () else .error fault

/-- The parts of a write, read by their schemas. -/
structure Admitted where
  task : Task
  steps : List TaskStep
  evidence : Option Evidence
  outcome : Option Outcome

/-- The checks of a write that come before the transaction. -/
def Write.validate (input : Write) : Except Fault Admitted := do
  let task ← orError input.task.parse "Invalid task"
  let event := input.event
  demand (event.taskId = task.id ∧ event.traceId = task.traceId ∧ event.actor.id = task.principal.id)
    (.error "Event/task mismatch")
  let step ← orError (parseOptional TaskStep.parse input.step) "Invalid step"
  let steps ← orError ((input.steps.getD [] ++ step.toList).mapM TaskStep.parse) "Invalid step"
  demand ((steps.map TaskStep.id).Nodup ∧ ∀ one ∈ steps, one.taskId = task.id) (.error "Invalid task step batch")
  let evidence ← orError (parseOptional Evidence.parse input.evidence) "Invalid evidence"
  let outcome ← orError (parseOptional Outcome.parse input.outcome) "Invalid outcome"
  demand (∀ found ∈ evidence, found.taskId = task.id) (.error "Evidence/task mismatch")
  .ok ⟨task, steps, evidence, outcome⟩

/-! ## Tables -/

/-- A row of `task_events`. -/
structure EventRow where
  id : Id
  taskId : Id
  stepId : Option Id
  key : JsString
  requestDigest : HexDigest
  type : TaskEventType
  occurredAt : Timestamp
  actorId : Id
  traceId : Id
  payload : Json

/-- A row of `outcomes`; its task is the one that its contract names. -/
structure OutcomeRow where
  id : Id
  contract : Outcome

structure Db where
  tasks : List Task
  steps : List TaskStep
  evidence : List Evidence
  events : List EventRow
  outcomes : List OutcomeRow
  terminalResults : List Outcome

def Db.empty : Db := ⟨[], [], [], [], [], []⟩

def Db.task? (db : Db) (id : Id) : Option Task := db.tasks.find? fun task => task.id = id.column

def Db.event? (db : Db) (id : Id) (key : JsString) : Option EventRow :=
  db.events.find? fun row => row.taskId = id.column ∧ row.key = key

def Db.stepsOf (db : Db) (id : Id) : List TaskStep := db.steps.filter fun step => step.taskId = id.column

def Db.hasStep (db : Db) (taskId stepId : Id) : Prop :=
  ∃ step ∈ db.steps, step.id = stepId.column ∧ step.taskId = taskId.column

instance (db : Db) (taskId stepId : Id) : Decidable (db.hasStep taskId stepId) :=
  inferInstanceAs (Decidable (∃ step ∈ db.steps, _))

def Db.outcome? (db : Db) (id : Id) : Option Outcome :=
  (db.outcomes.find? fun row => row.contract.taskId = id.column).map OutcomeRow.contract

def Db.terminalResult? (db : Db) (id : Id) : Option Outcome :=
  db.terminalResults.find? fun result => result.taskId = id.column

/-- `readOutcome(db, taskId)`. -/
def readOutcome (db : Db) (id : Id) : Except Fault (Option Outcome) :=
  match db.task? id with
  | none => .ok none
  | some _ =>
      match (db.outcome? id).or (db.terminalResult? id) with
      | none => .ok none
      | some contract => (orError contract.parse "Invalid outcome").map some

/-! ## Verifying a completion -/

/-- What other tables and the worker's configuration answer during one write. -/
structure Surroundings where
  /-- The principal has the kind that the task gives it, may submit, and the task is bound to this release. -/
  admits : Bool
  /-- No effect of the task is unresolved. -/
  effectsResolved : Bool
  /-- The evidence agrees with the faculties and the identity that are pinned, for this plan. -/
  cognition : Option Json → List Evidence → Bool
  briefVerified : Bool
  approvedContentSha256 : Option JsString
  /-- The database takes the rows for every reason that the tables below do not express. -/
  stores : Bool

def verificationFailed : Fault := .verification "Persisted completion verification failed"

/-- The evidence of a task that names a step, with that step. -/
def Db.records (db : Db) (id : Id) : List (Evidence × TaskStep) :=
  (db.evidence.filter fun evidence => evidence.taskId = id.column).filterMap fun evidence =>
    evidence.stepId.bind fun stepId =>
      (db.steps.find? fun step => step.id = stepId ∧ step.taskId = id.column).map fun step => (evidence, step)

def Db.planEvents (db : Db) (id : Id) : List EventRow :=
  db.events.filter fun row => row.taskId = id.column ∧ row.type = .planCompiled

/-- `rows[0]?.payload.plan`, which throws on a payload that is null. -/
def planOf (rows : List EventRow) : Except Fault (Option Json) :=
  match rows with
  | [] => .ok none
  | row :: _ =>
      match row.payload with
      | .null => .error (.error "Cannot read properties of null")
      | payload => .ok (payload.field? (js "plan"))

/-- Captured while the task was open. -/
def Fresh (task : Task) (event : TaskEvent) (evidence : Evidence) : Prop :=
  task.createdAt.ms ≤ evidence.capturedAt.ms ∧ evidence.capturedAt.ms ≤ event.occurredAt.ms

instance (task : Task) (event : TaskEvent) (evidence : Evidence) : Decidable (Fresh task event evidence) :=
  inferInstanceAs (Decidable (_ ∧ _))

section Verification

variable (platform : Platform)

def stepA (input : JsString) : JsString := platform.toUpperCase (trim input)

def stepB (input : JsString) : JsString := reverseText input

/-- The metadata of the fixed recipe. -/
def fixedMetadata (task : Task) : Json :=
  .obj [(js "input", .str task.objective), (js "output", .str (stepB (stepA platform task.objective))),
    (js "recipe", .str (js "uppercase-reverse/v1"))]

/-- `verifyEvidence(evidence, task, stepId)`. -/
def verifyEvidence (evidence : Evidence) (task : Task) (stepId : Id) : Prop :=
  evidence.taskId = task.id ∧ evidence.stepId = some stepId ∧ evidence.type = .deterministicResult ∧
    evidence.source = js "kerneljson:uppercase-reverse/v1" ∧
    evidence.digest = some (hexText (digest platform.sha256 (fixedMetadata platform task))) ∧
    SameThreeFields [js "input", js "output", js "recipe"] (fixedMetadata platform task) evidence.metadata

instance (evidence : Evidence) (task : Task) (stepId : Id) :
    Decidable (verifyEvidence platform evidence task stepId) :=
  inferInstanceAs (Decidable (_ ∧ _ ∧ _ ∧ _ ∧ _ ∧ _))

/-- The second step of the fixed recipe, completed. -/
def FixedStep (task : Task) (step : TaskStep) : Prop :=
  step.status = .completed ∧ step.kind = .deterministicFunction ∧
    step.idempotencyKey = some (task.id.text ++ js ":B") ∧
    step.input.asString? = some (stepA platform task.objective) ∧
    step.output.bind Json.asString? = some (stepB (stepA platform task.objective))

instance (task : Task) (step : TaskStep) : Decidable (FixedStep platform task step) :=
  inferInstanceAs (Decidable (_ ∧ _ ∧ _ ∧ _ ∧ _))

/-- One record of a task whose plan was not persisted. -/
def checkRecord (old : Task) (record : Evidence × TaskStep) : Option (List Evidence) := do
  let evidence ← record.1.parse
  let step ← record.2.parse
  some (if FixedStep platform old step ∧ verifyEvidence platform evidence old step.id then [evidence] else [])

/-- The check of a task whose plan was not persisted. -/
def verifyFixed (old : Task) (outcome : Outcome) (records : List (Evidence × TaskStep)) : Prop :=
  ∃ checked ∈ records.mapM (checkRecord platform old), CompletesFrom old outcome checked.flatten

instance (old : Task) (outcome : Outcome) (records : List (Evidence × TaskStep)) :
    Decidable (verifyFixed platform old outcome records) :=
  inferInstanceAs (Decidable (∃ checked ∈ records.mapM (checkRecord platform old), _))

/-- The branch of a write that asks for the status COMPLETED. -/
def verifyCompletion (around : Surroundings) (db : Db) (old task : Task) (event : TaskEvent)
    (outcome : Option Outcome) : Except Fault Unit := do
  demand (around.effectsResolved = true) (.error "Effect outcome is UNRESOLVED")
  match outcome with
  | none => .error (.verification "Completion requires an outcome")
  | some outcome =>
      let records := db.records task.id
      let planEvents := db.planEvents task.id
      let plan ← planOf planEvents
      demand (around.cognition plan (records.map Prod.fst) = true) verificationFailed
      demand (∃ parsed ∈ (records.map Prod.fst).mapM Evidence.parse, ∀ evidence ∈ parsed, Fresh task event evidence)
        verificationFailed
      demand (planEvents.length = 1)
        (.verification "Completion requires exactly one authoritative compiled plan")
      match plan with
      | some plan =>
          demand (verifyPlanCompletion platform old outcome plan (db.stepsOf task.id) (records.map Prod.fst)
            (around.approvedContentSha256.getD []) around.briefVerified = .ok ()) verificationFailed
      | none => demand (verifyFixed platform old outcome records) verificationFailed
      demand (event.type = .taskCompleted) (.verification "Completion event required")

/-! ## Projections -/

/-- The contract that `record_terminal_result` writes. -/
def terminalContract (task : Task) (status : OutcomeStatus) (updatedAt : Timestamp) : Outcome where
  taskId := task.id
  status := status
  acceptanceResults := task.acceptanceCriteria.map fun criterion => ⟨criterion, false, []⟩
  evidenceRefs := []
  summary :=
    match status with
    | .completed => js "Task completed; no completion evidence asserted"
    | .failed => js "Task failed; no completion evidence asserted"
    | .cancelled => js "Task cancelled; no completion evidence asserted"
  completedAt := task.completedAt.getD updatedAt

/-- The status of a result that the trigger records: none for other statuses. -/
def triggered : TaskStatus → Option OutcomeStatus
  | .failed => some .failed
  | .cancelled => some .cancelled
  | _ => none

/-- The trigger after every update of a task; an earlier result stays. -/
def recordTerminalResult (task : Task) (updatedAt : Timestamp) (results : List Outcome) : List Outcome :=
  match triggered task.status with
  | none => results
  | some status =>
      if results.any fun result => result.taskId = task.id then results
      else results ++ [terminalContract task status updatedAt]

/-- `insert … on conflict(id) do update … where task_steps.task_id = excluded.task_id`. -/
def upsertStep (steps : List TaskStep) (step : TaskStep) : List TaskStep :=
  if steps.any fun stored => stored.id = step.id then
    steps.map fun stored => if stored.id = step.id ∧ stored.taskId = step.taskId then step else stored
  else steps ++ [step]

/-- The evidence as its columns hold it. -/
def evidenceRow (evidence : Evidence) : Evidence :=
  { evidence with
    id := evidence.id.column, taskId := evidence.taskId.column, stepId := evidence.stepId.map Id.column }

/-- The status, the contract and the columns of an inserted task agree, and its parent is of its tenant. -/
def CanonicalTask (db : Db) (task : Task) : Prop :=
  task.id.column = task.id ∧ task.traceId.column = task.traceId ∧ task.tenant.id.column = task.tenant.id ∧
    task.principal.id.column = task.principal.id ∧
    ∀ parent ∈ task.parentTaskId, ∃ other ∈ db.tasks, other.id = parent.column ∧ other.tenant = task.tenant

instance (db : Db) (task : Task) : Decidable (CanonicalTask db task) :=
  inferInstanceAs (Decidable (_ ∧ _ ∧ _ ∧ _ ∧ _))

/-- The columns that an update leaves agree with the new contract. -/
def KeepsColumns (old task : Task) : Prop :=
  task.id = old.id ∧ task.traceId = old.traceId ∧ task.tenant = old.tenant ∧ task.principal.id = old.principal.id

instance (old task : Task) : Decidable (KeepsColumns old task) :=
  inferInstanceAs (Decidable (_ ∧ _ ∧ _ ∧ _))

/-- What the deferred trigger requires of a completed task when the transaction commits. -/
def CompletionStands (db : Db) (task : Task) : Prop :=
  ∃ outcome ∈ db.outcome? task.id, outcome.status = .completed ∧ outcome.evidenceRefs ≠ [] ∧
    outcome.acceptanceResults ≠ [] ∧
    (∀ ref ∈ outcome.evidenceRefs, ∃ evidence ∈ db.evidence, evidence.taskId = task.id ∧ evidence.id = ref) ∧
    outcome.acceptanceResults.length = task.acceptanceCriteria.length ∧
    (∀ criterion ∈ task.acceptanceCriteria,
      (outcome.acceptanceResults.filter fun result => result.criterion = criterion).length = 1) ∧
    (∀ result ∈ outcome.acceptanceResults, result.passed = true ∧ result.evidenceRefs ≠ [] ∧
      ∀ ref ∈ result.evidenceRefs, ref ∈ outcome.evidenceRefs) ∧
    ∃ row ∈ db.events, row.taskId = task.id ∧ row.type = .taskCompleted

instance (db : Db) (task : Task) : Decidable (CompletionStands db task) :=
  inferInstanceAs (Decidable (∃ outcome ∈ db.outcome? task.id, _))

/-! ## One write -/

def requestDigest (input : Write) : HexDigest := digest platform.sha256 input.toJson

/-- The first write of a task. -/
def create (around : Surroundings) (admitted : Admitted) (event : TaskEvent) (db : Db) : Except Fault Db := do
  let task := admitted.task
  demand (task.status = .received ∧ event.type = .taskCreated) (.error "Task must begin RECEIVED")
  demand (around.admits = true) (.error "Principal kind mismatch")
  demand (CanonicalTask db task) (.error "task columns")
  .ok { db with tasks := db.tasks ++ [task] }

/-- The stored task with the fields that a write may change. -/
def redefined (original task : Task) : Task :=
  { original with
    status := task.status
    startedAt := task.startedAt.or original.startedAt
    completedAt := task.completedAt.or original.completedAt }

/-- Only a write that asks for COMPLETED is verified. -/
def checkCompletion (around : Surroundings) (admitted : Admitted) (event : TaskEvent) (old : Task) (db : Db) :
    Except Fault Unit :=
  if admitted.task.status = .completed then verifyCompletion platform around db old admitted.task event admitted.outcome
  else .ok ()

/-- A later write of a task. -/
def advance (around : Surroundings) (admitted : Admitted) (event : TaskEvent) (old : Task) (db : Db) :
    Except Fault Db := do
  let task := admitted.task
  let original ← orError old.parse "Invalid task"
  let expected ← orError (redefined original task).parse "Invalid task"
  demand (digest platform.sha256 (Task.toJson expected) = digest platform.sha256 (Task.toJson task))
    (.error "Task definition is immutable")
  demand (old.status = task.status ∨ Transition old.status task.status) (.error "Invalid task transition")
  checkCompletion platform around admitted event old db
  demand (¬ old.status.Terminal) (.error "terminal task is immutable")
  demand (KeepsColumns old task) (.error "task columns")
  .ok { db with
    tasks := db.tasks.map fun row => if row.id = task.id then task else row
    terminalResults := recordTerminalResult task event.occurredAt db.terminalResults }

/-- The steps, the evidence, the event and the outcome of a write. -/
def project (hash : HexDigest) (key : JsString) (admitted : Admitted) (event : TaskEvent) (db : Db) :
    Except Fault Db := do
  let task := admitted.task
  demand (∀ step ∈ admitted.steps, step.id.column = step.id ∧ step.taskId.column = step.taskId)
    (.error "step columns")
  let stepped := { db with steps := admitted.steps.foldl upsertStep db.steps }
  demand (∀ evidence ∈ admitted.evidence, (∀ row ∈ db.evidence, row.id ≠ evidence.id.column) ∧
    ∀ stepId ∈ evidence.stepId, stepped.hasStep task.id stepId) (.error "evidence columns")
  demand ((∀ row ∈ db.events, row.id ≠ event.id.column) ∧
    ∀ stepId ∈ event.stepId, stepped.hasStep task.id stepId) (.error "event columns")
  demand (∀ outcome ∈ admitted.outcome, outcome.taskId = task.id.column ∧
    ∀ row ∈ db.outcomes, row.id ≠ event.id.column ∧ row.contract.taskId ≠ task.id.column) (.error "outcome columns")
  .ok { stepped with
    evidence := db.evidence ++ (admitted.evidence.map evidenceRow).toList
    events := db.events ++
      [⟨event.id.column, task.id.column, event.stepId.map Id.column, key, hash, event.type, event.occurredAt,
        event.actor.id.column, event.traceId.column, event.payload⟩]
    outcomes := db.outcomes ++ (admitted.outcome.map fun outcome => ⟨event.id.column, outcome⟩).toList }

/-- The tasks after a write that is not repeated. -/
def move (around : Surroundings) (admitted : Admitted) (event : TaskEvent) (db : Db) : Except Fault Db :=
  match db.task? admitted.task.id with
  | none => create around admitted event db
  | some old => advance platform around admitted event old db

/-- The transaction of a write that is not repeated. -/
def recordNew (around : Surroundings) (input : Write) (admitted : Admitted) (db : Db) : Except Fault (Unit × Db) := do
  let moved ← move platform around admitted input.event db
  let projected ← project (requestDigest platform input) input.key admitted input.event moved
  demand (around.stores = true) (.error "refused by the database")
  demand (admitted.task.status = .completed → CompletionStands projected admitted.task)
    (.error "completion requires outcome and evidence")
  .ok ((), projected)

/-- A key that was used answers only the write that it was used for. -/
def answerPrior (input : Write) (prior : EventRow) (db : Db) : Except Fault (Unit × Db) := do
  demand (prior.requestDigest = requestDigest platform input) (.error "Idempotency key reused with different input")
  .ok ((), db)

/-- The transaction of `write(input)`. -/
def record (around : Surroundings) (input : Write) (db : Db) : Except Fault (Unit × Db) := do
  let admitted ← input.validate
  match db.event? admitted.task.id input.key with
  | some prior => answerPrior platform input prior db
  | none => recordNew platform around input admitted db

/-- `write(input)`: what it throws rolls the transaction back. -/
def write (around : Surroundings) (input : Write) : Db → Except Fault Unit × Db :=
  commit (record platform around input)

/-! ## Finishing -/

/-- The outcome that stands in for one whose verification failed. -/
def failedOutcome (input : Write) : Outcome where
  taskId := input.task.id
  status := .failed
  acceptanceResults := input.task.acceptanceCriteria.map fun criterion => ⟨criterion, false, []⟩
  evidenceRefs := []
  summary := js "Persisted completion verification failed"
  completedAt := input.event.occurredAt

/-- The second write of a completion whose verification failed. -/
def failedWrite (input : Write) (task : Task) (outcome : Outcome) : Write :=
  { input with
    key := input.key ++ js ":verification-failed"
    task := task
    outcome := some outcome
    event := { input.event with
      type := .taskFailed, payload := .obj [(js "reason", .str (js "VERIFICATION_FAILED"))] } }

/-- The answer after a first write that failed its verification. -/
def settle (around : Surroundings) (input : Write) (db : Db) : Except Fault Outcome × Db :=
  match (failedOutcome input).parse with
  | none => (.error (.error "Invalid outcome"), db)
  | some outcome =>
      match ({ input.task with status := .failed } : Task).parse with
      | none => (.error (.error "Invalid task"), db)
      | some task =>
          let (answer, after) := write platform around (failedWrite input task outcome) db
          (answer.map fun _ => outcome, after)

/-- `finish(input)`, with the surroundings of its first and of its second write. -/
def finish (first second : Surroundings) (input : Write) (db : Db) : Except Fault Outcome × Db :=
  match readOutcome db input.task.id with
  | .error fault => (.error fault, db)
  | .ok (some existing) => (.ok existing, db)
  | .ok none =>
      match write platform first input db with
      | (.ok (), after) => (orError (input.outcome.bind Outcome.parse) "Invalid outcome", after)
      | (.error (.error message), after) => (.error (.error message), after)
      | (.error (.verification _), after) => settle platform second input after

end Verification

/-! ## Runs -/

inductive Call where
  | write (around : Surroundings) (input : Write)
  | finish (first second : Surroundings) (input : Write)

/-- The task id, the key and the rest of what was given. -/
def Call.input : Call → Write
  | .write _ input => input
  | .finish _ _ input => input

/-- What a call answers: a write nothing, a finish its outcome. -/
def Call.perform (platform : Platform) : Call → Db → Except Fault (Option Outcome) × Db
  | .write around input, db =>
      let (answer, after) := Store.write platform around input db
      (answer.map fun _ => none, after)
  | .finish first second input, db =>
      let (answer, after) := Store.finish platform first second input db
      (answer.map some, after)

/-- A call and the tables that it found. -/
structure Moment where
  before : Db
  call : Call

def Moment.after (platform : Platform) (moment : Moment) : Db := (moment.call.perform platform moment.before).2

def Moment.answer (platform : Platform) (moment : Moment) : Except Fault (Option Outcome) :=
  (moment.call.perform platform moment.before).1

/-- The calls so far, the latest first, and the tables that they left. -/
inductive Run (platform : Platform) : List Moment → Db → Prop where
  | start : Run platform [] .empty
  | step {past : List Moment} {db : Db} (run : Run platform past db) (call : Call) :
      Run platform (⟨db, call⟩ :: past) (call.perform platform db).2

end KernelJson.Ledger.Store
