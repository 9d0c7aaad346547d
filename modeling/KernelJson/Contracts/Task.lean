import KernelJson.Contracts.Common
import KernelJson.Foundation.Json

/-!
# Tasks, their steps and their lifecycle

The schemas of tasks and steps, as functions that normalise and check a record,
and the transition table that every status change must follow.
-/

namespace KernelJson.Contracts.Task

open Contracts.Common
open Foundation
open Foundation.JsText

/-! ## Statuses -/

inductive TaskStatus where
  | received
  | compiled
  | ready
  | running
  | waiting
  | approvalRequired
  | verifying
  | completed
  | failed
  | cancelled
deriving DecidableEq

def transitions : TaskStatus → List TaskStatus
  | .received => [.compiled, .failed, .cancelled]
  | .compiled => [.ready, .approvalRequired, .failed, .cancelled]
  | .ready => [.running, .cancelled, .failed]
  | .running => [.waiting, .approvalRequired, .verifying, .failed, .cancelled]
  | .waiting => [.running, .failed, .cancelled]
  | .approvalRequired => [.ready, .running, .failed, .cancelled]
  | .verifying => [.completed, .failed, .cancelled]
  | .completed => []
  | .failed => []
  | .cancelled => []

/-- `assertTransition(from, to)` does not throw. -/
def Transition (before after : TaskStatus) : Prop :=
  after ∈ transitions before

instance (before after : TaskStatus) : Decidable (Transition before after) :=
  inferInstanceAs (Decidable (_ ∈ _))

/-- The statuses that the table lets no task leave. -/
def TaskStatus.Terminal (status : TaskStatus) : Prop :=
  status = .completed ∨ status = .failed ∨ status = .cancelled

instance (status : TaskStatus) : Decidable status.Terminal :=
  inferInstanceAs (Decidable (_ ∨ _))

/-! ## `Text` -/

/-- `Text = z.string().trim().min(1)`. -/
def parseText (text : JsString) : Option JsString :=
  if trim text = [] then none else some (trim text)

theorem parseText_of_trimmed {text : JsString} (trimmed : trim text = text) (nonempty : text ≠ []) :
    parseText text = some text := by
  rw [parseText, trimmed, if_neg nonempty]

/-- A text whose first and last units are visible is read as it stands. -/
theorem parseText_of_ends {text : JsString} (first : text.head?.map isSpace = some false)
    (last : text.getLast?.map isSpace = some false) : parseText text = some text := by
  cases text with
  | nil => cases first
  | cons unit rest =>
      refine parseText_of_trimmed ((trim_eq_self_iff (Option.some.inj first)).mpr ?_) (List.cons_ne_nil _ _)
      rw [List.getLast?_eq_some_getLast (List.cons_ne_nil unit rest)] at last
      exact Option.some.inj last

/-- A text that was read is read as itself. -/
theorem parseText_again {text parsed : JsString} (read : parseText text = some parsed) :
    parseText parsed = some parsed := by
  unfold parseText at read
  split at read
  · cases read
  · next nonempty =>
      cases read
      exact parseText_of_trimmed (trim_trim text) nonempty

theorem mapM_parseText_again {texts parsed : List JsString} (read : texts.mapM parseText = some parsed) :
    parsed.mapM parseText = some parsed := by
  induction texts generalizing parsed with
  | nil =>
      cases read
      rfl
  | cons text rest ih =>
      simp only [List.mapM_cons, Option.bind_eq_bind, Option.bind_eq_some_iff] at read
      obtain ⟨first, here, later, there, same⟩ := read
      cases same
      simp [parseText_again here, ih there]

/-! ## Tasks -/

inductive RiskClass where
  | low
  | medium
  | high
  | critical
deriving DecidableEq

structure Budget where
  amount : Nat
  currency : JsString
deriving DecidableEq

structure Task where
  id : Id
  parentTaskId : Option Id
  principal : PrincipalRef
  tenant : TenantRef
  objective : JsString
  acceptanceCriteria : List JsString
  constraints : List JsString
  riskClass : RiskClass
  budget : Option Budget
  deadline : Option Timestamp
  status : TaskStatus
  traceId : Id
  createdAt : Timestamp
  startedAt : Option Timestamp
  completedAt : Option Timestamp
deriving DecidableEq

def isCurrency (text : JsString) : Bool :=
  text.length == 3 && text.all isUpperUnit

/-- The refinements of the task schema. -/
def Task.Refined (task : Task) : Prop :=
  task.parentTaskId ≠ some task.id ∧
    (task.status = .completed → task.completedAt ≠ none) ∧
    (∀ started ∈ task.startedAt, task.createdAt.ms ≤ started.ms) ∧
    ∀ completed ∈ task.completedAt, (task.startedAt.getD task.createdAt).ms ≤ completed.ms

instance (task : Task) : Decidable task.Refined :=
  inferInstanceAs (Decidable (_ ∧ _ ∧ _ ∧ _))

/-- `Task.parse`. -/
def Task.parse (task : Task) : Option Task := do
  let objective ← parseText task.objective
  let acceptanceCriteria ← task.acceptanceCriteria.mapM parseText
  let constraints ← task.constraints.mapM parseText
  let parsed := { task with
    objective := objective, acceptanceCriteria := acceptanceCriteria, constraints := constraints }
  if acceptanceCriteria ≠ [] ∧ task.budget.all (fun budget => isCurrency budget.currency) = true ∧
      parsed.Refined then some parsed else none

/-- Reading a task trims its texts only. -/
theorem Task.parse_keeps {raw task : Task} (admitted : raw.parse = some task) :
    task.id = raw.id ∧ task.tenant = raw.tenant := by
  simp only [Task.parse, Option.bind_eq_bind, Option.bind_eq_some_iff] at admitted
  obtain ⟨objective, -, criteria, -, constraints, -, accepted⟩ := admitted
  split at accepted
  · cases accepted
    exact ⟨rfl, rfl⟩
  · cases accepted

/-- A task that was admitted is admitted as itself. -/
theorem Task.parse_again {raw task : Task} (admitted : raw.parse = some task) : task.parse = some task := by
  simp only [Task.parse, Option.bind_eq_bind, Option.bind_eq_some_iff] at admitted
  obtain ⟨objective, objectiveRead, criteria, criteriaRead, constraints, constraintsRead, accepted⟩ := admitted
  split at accepted
  · next holds =>
      cases accepted
      simp only [Task.parse, parseText_again objectiveRead, mapM_parseText_again criteriaRead,
        mapM_parseText_again constraintsRead, Option.bind_eq_bind, Option.bind_some]
      exact if_pos holds
  · cases accepted

/-! ## Steps -/

inductive StepKind where
  | deterministicFunction
  | toolCall
  | llmCall
  | agentLoop
  | parallelMap
  | sandboxExec
  | humanApproval
  | waitForEvent
  | schedule
  | subworkflow
deriving DecidableEq

structure CapabilityRef where
  id : Id
  version : JsString
deriving DecidableEq

structure RetryPolicy where
  maxAttempts : Nat
  backoffMs : Nat
deriving DecidableEq

structure TaskStep where
  id : Id
  taskId : Id
  kind : StepKind
  status : TaskStatus
  dependencies : List Id
  requiredCapabilities : List CapabilityRef
  riskClass : RiskClass
  retryPolicy : RetryPolicy
  timeout : Option Nat
  input : Json
  output : Option Json
  idempotencyKey : Option JsString

def CapabilityRef.parse (ref : CapabilityRef) : Option CapabilityRef := do
  let version ← parseText ref.version
  some { ref with version := version }

/-- `z.optional` around a reader. -/
def parseOptional {α : Type} (read : α → Option α) : Option α → Option (Option α)
  | none => some none
  | some value => (read value).map some

/-- `TaskStep.parse`. -/
def TaskStep.parse (step : TaskStep) : Option TaskStep := do
  let requiredCapabilities ← step.requiredCapabilities.mapM CapabilityRef.parse
  let idempotencyKey ← parseOptional parseText step.idempotencyKey
  if 1 ≤ step.retryPolicy.maxAttempts ∧ step.timeout ≠ some 0 ∧ step.id ∉ step.dependencies then
    some { step with requiredCapabilities := requiredCapabilities, idempotencyKey := idempotencyKey }
  else none

/-- Parsing a step normalises texts only. -/
theorem TaskStep.parse_shape {step parsed : TaskStep} (read : step.parse = some parsed) :
    ∃ requiredCapabilities idempotencyKey, parsed =
      { step with requiredCapabilities := requiredCapabilities, idempotencyKey := idempotencyKey } := by
  simp only [TaskStep.parse, Option.bind_eq_bind, Option.bind_eq_some_iff] at read
  obtain ⟨requiredCapabilities, -, idempotencyKey, -, accepted⟩ := read
  split at accepted
  · exact ⟨requiredCapabilities, idempotencyKey, (Option.some.inj accepted).symm⟩
  · cases accepted

end KernelJson.Contracts.Task
