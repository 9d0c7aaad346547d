import KernelJson.Contracts.Records
import KernelJson.Executor.Operations
import KernelJson.Mission.Verify

/-!
# Verifying a completed plan

The check that the ledger makes of a persisted plan before it commits a
completion.  The plan must be the one that planning makes of the task.  A
deterministic plan is executed again from the objective, and the persisted
steps, the cited evidence and the summary must be what that execution gives; a
capability plan is judged by its receipt.
-/

namespace KernelJson.Executor.Verification

open Contracts.Common
open Contracts.Digest
open Contracts.Outcome
open Contracts.Platform
open Contracts.PolicyGate (idJson)
open Contracts.Records
open Contracts.Task
open Executor.Operations
open Foundation
open Foundation.JsText
open Mission.Verify (Checked orThrow verifyMissionCompletion)
open Planner.Plan

/-! ## Plans as JSON values -/

def recipeCodec : Codec Recipe :=
  .enum Recipe.text
    [.uppercaseReverse, .uppercase, .repositoryRead, .claudeMdCheck, .mission, .identityChange, .brief]
    (fun recipe => by cases recipe <;> simp) (by decide +kernel)

def operationCodec : Codec Operation :=
  .enum
    (fun
      | .uppercase => js "UPPERCASE"
      | .reverse => js "REVERSE"
      | .waitForEvent => js "WAIT_FOR_EVENT"
      | .repositoryRead => js "REPOSITORY_READ"
      | .githubEvidence => js "GITHUB_EVIDENCE"
      | .runtimeAnalyse => js "RUNTIME_ANALYSE"
      | .runtimeReview => js "RUNTIME_REVIEW"
      | .reconcile => js "RECONCILE"
      | .identityGovern => js "IDENTITY_GOVERN")
    [.uppercase, .reverse, .waitForEvent, .repositoryRead, .githubEvidence, .runtimeAnalyse, .runtimeReview,
      .reconcile, .identityGovern]
    (fun operation => by cases operation <;> simp) (by decide +kernel)

def planStepJson (step : PlanStep) : Json :=
  .obj [(js "id", idJson step.id), (js "taskId", idJson step.taskId),
    (js "operation", operationCodec.write step.operation), (js "dependencies", idListJson step.dependencies),
    (js "input", step.input.toJson)]

def planJson (plan : ExecutionPlan) : Json :=
  .obj [(js "version", .num 1), (js "taskId", idJson plan.taskId), (js "recipe", recipeCodec.write plan.recipe),
    (js "steps", .arr (plan.steps.map planStepJson)), (js "resultStepId", idJson plan.resultStepId)]

def readId (value : Json) : Option Id :=
  match value.asString? with
  | none => none
  | some text => if shape : isUuid text = true then some ⟨text, shape⟩ else none

def readIds (value : Json) : Option (List Id) := do
  (← value.asArray?).mapM readId

/-- `z.discriminatedUnion("source", …)`. -/
def readStepInput (value : Json) : Option StepInput := do
  let source ← (← value.field? (js "source")).asString?
  if source = js "TASK_OBJECTIVE" ∧ value.hasOnly [js "source"] = true then some .taskObjective
  else if source = js "STEP_OUTPUT" ∧ value.hasOnly [js "source", js "stepId"] = true then
    some (.stepOutput (← readId (← value.field? (js "stepId"))))
  else none

/-- `PlanStep.parse`. -/
def readPlanStep (value : Json) : Option PlanStep := do
  let id ← readId (← value.field? (js "id"))
  let taskId ← readId (← value.field? (js "taskId"))
  let operation ← operationCodec.read (← value.field? (js "operation"))
  let dependencies ← readIds (← value.field? (js "dependencies"))
  let input ← readStepInput (← value.field? (js "input"))
  if value.hasOnly [js "id", js "taskId", js "operation", js "dependencies", js "input"] = true then
    some ⟨id, taskId, operation, dependencies, input⟩
  else none

/-- `ExecutionPlan.parse`. -/
def readPlan (value : Json) : Option ExecutionPlan := do
  let version ← (← value.field? (js "version")).asInt?
  let taskId ← readId (← value.field? (js "taskId"))
  let recipe ← recipeCodec.read (← value.field? (js "recipe"))
  let steps ← (← (← value.field? (js "steps")).asArray?).mapM readPlanStep
  let resultStepId ← readId (← value.field? (js "resultStepId"))
  if version = 1 ∧
      value.hasOnly [js "version", js "taskId", js "recipe", js "steps", js "resultStepId"] = true then
    if wellFormed : WellFormed taskId steps resultStepId then some ⟨taskId, recipe, steps, resultStepId, wellFormed⟩
    else none
  else none

theorem stepInputJson_injective : Function.Injective StepInput.toJson := by
  intro first second same
  cases first with
  | taskObjective =>
      cases second with
      | taskObjective => rfl
      | stepOutput other => simp [StepInput.toJson] at same
  | stepOutput stepId =>
      cases second with
      | taskObjective => simp [StepInput.toJson] at same
      | stepOutput other =>
          simp only [StepInput.toJson, Json.obj.injEq, List.cons.injEq, Prod.mk.injEq, true_and, and_true,
            Json.str.injEq] at same
          rw [Contracts.Common.Id.ext same]

theorem planStepJson_injective : Function.Injective planStepJson := by
  rintro ⟨id, taskId, operation, dependencies, input⟩ ⟨id', taskId', operation', dependencies', input'⟩ same
  simp only [planStepJson, Json.obj.injEq, List.cons.injEq, Prod.mk.injEq, true_and, and_true] at same
  obtain ⟨ids, taskIds, operations, lists, inputs⟩ := same
  cases idJson_injective ids
  cases idJson_injective taskIds
  cases operationCodec.write_injective operations
  cases arr_map_injective idJson_injective lists
  cases stepInputJson_injective inputs
  rfl

theorem planJson_injective : Function.Injective planJson := by
  rintro ⟨taskId, recipe, steps, result, formed⟩ ⟨taskId', recipe', steps', result', formed'⟩ same
  simp only [planJson, Json.obj.injEq, List.cons.injEq, Prod.mk.injEq, true_and, and_true] at same
  obtain ⟨taskIds, recipes, lists, results⟩ := same
  cases idJson_injective taskIds
  cases recipeCodec.write_injective recipes
  cases arr_map_injective planStepJson_injective lists
  cases idJson_injective results
  rfl

/-! ## Execution -/

/-- `Array.from(text)`: the characters, where a surrogate pair is one. -/
def characters : JsString → List JsString
  | [] => []
  | [unit] => [[unit]]
  | unit :: next :: rest =>
      if Json.isHighSurrogate unit && Json.isLowSurrogate next then [unit, next] :: characters rest
      else [unit] :: characters (next :: rest)

/-- `Array.from(text).reverse().join("")`. -/
def reverseText (text : JsString) : JsString := (characters text).reverse.flatten

section Verification

variable (platform : Platform)

/-- `executeFunction(operation, input)`. -/
def executeFunction (operation : Operation) (input : JsString) : Checked JsString :=
  match operation with
  | .uppercase => .ok (platform.toUpperCase (trim input))
  | .reverse => .ok (reverseText input)
  | _ => .error "Operation requires durable workflow handling"

/-- What a step of each operation must have given; waiting hands its input on. -/
def expectedOutput (operation : Operation) (input : JsString) : JsString :=
  match operation with
  | .uppercase => platform.toUpperCase (trim input)
  | .reverse => reverseText input
  | _ => input

/-- `outputs.get(id)`. -/
def outputOf (outputs : List (Id × JsString)) (id : Id) : Option JsString :=
  (outputs.find? fun entry => entry.1 = id).map Prod.snd

/-- `resolveInput(step, task, outputs)`. -/
def resolveInput (step : PlanStep) (task : Task) (outputs : List (Id × JsString)) : Checked JsString :=
  if step.taskId ≠ task.id then .error "Step/task mismatch"
  else
    match step.input with
    | .taskObjective => .ok task.objective
    | .stepOutput stepId =>
        if stepId ∈ step.dependencies then
          orThrow (outputOf outputs stepId) "Dependency output is not available"
        else .error "Dependency output is not available"

/-- Check every persisted step against its own execution, and collect the outputs. -/
def verifySteps (task : Task) (steps : List TaskStep) :
    List PlanStep → List (Id × JsString) → Checked (List (Id × JsString))
  | [], outputs => .ok outputs
  | node :: rest, outputs => do
      let input ← resolveInput node task outputs
      let output := expectedOutput platform node.operation input
      let expected ← orThrow (patchedStep node .completed (.str input) (some (.str output))) "Invalid step"
      match steps.find? fun step => step.id = node.id with
      | none => .error "Persisted step does not match verified execution"
      | some step =>
          if digest platform.sha256 (TaskStep.toJson step) = digest platform.sha256 (TaskStep.toJson expected) then
            verifySteps task steps rest ((node.id, output) :: outputs)
          else .error "Persisted step does not match verified execution"

/-- The metadata that the evidence of a deterministic plan must carry. -/
def resultMetadata (plan : ExecutionPlan) (task : Task) (output : JsString) : Json :=
  .obj [(js "planDigest", .str (hexText (digest platform.sha256 (planJson plan)))),
    (js "input", .str task.objective), (js "output", .str output)]

/-- Metadata of three fields that agrees with the expected one in each. -/
def SameThreeFields (names : List JsString) (expected metadata : Json) : Prop :=
  (metadata.names?.map List.length) = some 3 ∧
    ∀ name ∈ names, (metadata.field? name).bind Json.asString? = (expected.field? name).bind Json.asString?

instance (names : List JsString) (expected metadata : Json) : Decidable (SameThreeFields names expected metadata) :=
  inferInstanceAs (Decidable (_ ∧ _))

/-- The evidence of the result of a deterministic plan. -/
structure ResultEvidence (plan : ExecutionPlan) (task : Task) (output : JsString) (evidence : Evidence) : Prop where
  ofTask : evidence.taskId = task.id
  ofStep : evidence.stepId = some plan.resultStepId
  type : evidence.type = .deterministicResult
  source : evidence.source = js "kerneljson:plan/v1"
  digest : evidence.digest = some (hexText (digest platform.sha256 (resultMetadata platform plan task output)))
  metadata : SameThreeFields [js "planDigest", js "input", js "output"] (resultMetadata platform plan task output)
    evidence.metadata

instance (plan : ExecutionPlan) (task : Task) (output : JsString) (evidence : Evidence) :
    Decidable (ResultEvidence platform plan task output evidence) :=
  decidable_of_iff
    (evidence.taskId = task.id ∧ evidence.stepId = some plan.resultStepId ∧ evidence.type = .deterministicResult ∧
      evidence.source = js "kerneljson:plan/v1" ∧
      evidence.digest = some (hexText (digest platform.sha256 (resultMetadata platform plan task output))) ∧
      SameThreeFields [js "planDigest", js "input", js "output"] (resultMetadata platform plan task output)
        evidence.metadata)
    ⟨fun holds => ⟨holds.1, holds.2.1, holds.2.2.1, holds.2.2.2.1, holds.2.2.2.2.1, holds.2.2.2.2.2⟩,
      fun row => ⟨row.ofTask, row.ofStep, row.type, row.source, row.digest, row.metadata⟩⟩

/-! ## Capability receipts -/

/-- `/(^|[/\\])CLAUDE\.md$/` on the trimmed path. -/
def targetIsClaudeMd (path : Option Json) : Bool :=
  match path.bind Json.asString? with
  | none => false
  | some text =>
      trim text == js "CLAUDE.md" || (js "/CLAUDE.md").isSuffixOf (trim text) ||
        (js "\\CLAUDE.md").isSuffixOf (trim text)

/-- `assertClaudeMdReceipt(receipt, approved)` reports no failure. -/
def assertClaudeMdReceipt (metadata : Json) (approved : JsString) : Prop :=
  isSha256Text approved = true ∧ targetIsClaudeMd (metadata.field? (js "target_path")) = true ∧
    ((metadata.field? (js "mutations_detected")).all fun value => value.asInt? == some 0) = true ∧
    (metadata.field? (js "content_sha256")).bind Json.asString? = some approved

instance (metadata : Json) (approved : JsString) : Decidable (assertClaudeMdReceipt metadata approved) :=
  inferInstanceAs (Decidable (_ ∧ _ ∧ _ ∧ _))

/-- The receipt of a capability plan, its step and the outcome. -/
def verifyCapability (task : Task) (outcome : Outcome) (node : PlanStep) (steps : List TaskStep)
    (records : List Evidence) (approved : JsString) : Checked Unit := do
  let parsed ← orThrow (records.mapM Evidence.parse) "Invalid evidence"
  let receipt ← orThrow
    (parsed.find? fun evidence => evidence.stepId = some node.id ∧ evidence.type = .toolReceipt)
    "Missing capability receipt evidence"
  if ¬ assertClaudeMdReceipt receipt.metadata approved then .error "Capability completion rejected"
  else if receipt.digest ≠ (receipt.metadata.field? (js "content_sha256")).bind Json.asString? then
    .error "Receipt digest does not match content hash"
  else
    let step ← orThrow (steps.find? fun step => step.id = node.id)
      "Persisted capability step does not match completion"
    if step.status ≠ .completed ∨ step.kind ≠ .sandboxExec then
      .error "Persisted capability step does not match completion"
    else if CompletesFrom task outcome [receipt] then .ok ()
    else .error "Completion does not match its evidence"

/-! ## Plans -/

/-- The steps, the evidence and the summary of a plan that is executed again. -/
def verifyDeterministic (task : Task) (outcome : Outcome) (plan : ExecutionPlan) (nodes : List PlanStep)
    (steps : List TaskStep) (records : List Evidence) : Checked Unit := do
  let outputs ← verifySteps platform task steps nodes []
  let output ← orThrow (outputOf outputs plan.resultStepId) "No output"
  let parsed ← orThrow (records.mapM Evidence.parse) "Invalid evidence"
  let verified := parsed.filter fun evidence => ResultEvidence platform plan task output evidence
  if outcome.summary ≠ output then .error "Outcome does not match verified result"
  else if CompletesFrom task outcome verified then .ok ()
  else .error "Completion does not match its evidence"

/-- `verifyPlanCompletion(task, outcome, rawPlan, storedSteps, records, canary)`; whether a brief was verified
is an input. -/
def verifyPlanCompletion (task : Task) (outcome : Outcome) (rawPlan : Json) (storedSteps : List TaskStep)
    (records : List Evidence) (approved : JsString) (briefVerified : Bool) : Checked Unit := do
  let plan ← orThrow (readPlan rawPlan) "Invalid plan"
  let expected ← orThrow (planTask platform task plan.recipe) "Task requirements do not match recipe"
  if digest platform.sha256 (planJson plan) ≠ digest platform.sha256 (planJson expected) then
    .error "Stored plan does not match the versioned recipe"
  else
    let steps ← orThrow (storedSteps.mapM TaskStep.parse) "Invalid step"
    if steps.length ≠ plan.steps.length then .error "Missing or extra persisted steps"
    else
      match plan.recipe with
      | .mission => verifyMissionCompletion platform task outcome plan steps records
      | .brief => if briefVerified then .ok () else .error "Brief completion rejected"
      | _ =>
          let nodes ← orThrow (orderedSteps plan) "Invalid plan"
          match nodes.find? fun node => node.operation = .repositoryRead with
          | some node => verifyCapability task outcome node steps records approved
          | none => verifyDeterministic platform task outcome plan nodes steps records

end Verification

end KernelJson.Executor.Verification
