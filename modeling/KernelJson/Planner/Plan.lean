import KernelJson.Contracts.Platform
import KernelJson.Contracts.Task

/-!
# Execution plans

A recipe and a task determine a plan, whose steps form a chain; the schema of
plans accepts any connected acyclic graph.  Steps are taken in the order of
their dependencies, and by their identifiers among steps that are ready.
-/

namespace KernelJson.Planner.Plan

open Contracts.Common
open Contracts.Digest
open Contracts.Platform
open Contracts.Task
open Foundation
open Foundation.JsText

/-! ## Recipes -/

inductive Recipe where
  | uppercaseReverse
  | uppercase
  | repositoryRead
  | claudeMdCheck
  | mission
  | identityChange
  | brief
deriving DecidableEq

def Recipe.text : Recipe → JsString
  | .uppercaseReverse => js "uppercase-reverse/v1"
  | .uppercase => js "uppercase/v1"
  | .repositoryRead => js "repository-read/v1"
  | .claudeMdCheck => js "claude_md_check/v1"
  | .mission => js "repo-analysis-mission/v1"
  | .identityChange => js "identity-change/v1"
  | .brief => js "morning-brief/v1"

def criteria : Recipe → JsString
  | .uppercaseReverse => js "Output equals reverse(uppercase(trim(objective)))"
  | .uppercase => js "Output equals uppercase(trim(objective))"
  | .repositoryRead => js "repository.read returns content_sha256 (64 hex) with mutations_detected=0"
  | .claudeMdCheck =>
      js "repository.read of CLAUDE.md returns content_sha256 == approved digest with mutations_detected=0"
  | .mission =>
      js "An independent reviewer accepts an analysis whose head SHA and cited paths match the GitHub evidence, re-derived from persisted evidence"
  | .identityChange =>
      js "The identity-change task completes only once a corresponding identity_activations row exists, bound to this exact task id, with a governance class independently derived by the database from the actual document diff"
  | .brief =>
      js "An independent reviewer accepts a brief whose every item cites references present in the captured activity evidence, re-derived from persisted evidence"

/-! ## Plans -/

inductive Operation where
  | uppercase
  | reverse
  | waitForEvent
  | repositoryRead
  | githubEvidence
  | runtimeAnalyse
  | runtimeReview
  | reconcile
  | identityGovern
deriving DecidableEq

inductive StepInput where
  | taskObjective
  | stepOutput (stepId : Id)
deriving DecidableEq

/-- A step output is taken from one of the given steps. -/
def StepInput.Among (input : StepInput) (dependencies : List Id) : Prop :=
  ∀ stepId, input = .stepOutput stepId → stepId ∈ dependencies

instance (input : StepInput) (dependencies : List Id) : Decidable (input.Among dependencies) :=
  match input with
  | .taskObjective => isTrue fun _ impossible => by cases impossible
  | .stepOutput stepId =>
      decidable_of_iff (stepId ∈ dependencies)
        ⟨fun member _ same => by cases same; exact member, fun among => among stepId rfl⟩

def StepInput.toJson : StepInput → Json
  | .taskObjective => .obj [(js "source", .str (js "TASK_OBJECTIVE"))]
  | .stepOutput stepId => .obj [(js "source", .str (js "STEP_OUTPUT")), (js "stepId", .str stepId.text)]

structure PlanStep where
  id : Id
  taskId : Id
  operation : Operation
  dependencies : List Id
  input : StepInput
deriving DecidableEq

/-- All dependencies of the step are among the given identifiers. -/
def PlanStep.Ready (step : PlanStep) (resolved : List Id) : Prop :=
  step.id ∉ resolved ∧ ∀ dependency ∈ step.dependencies, dependency ∈ resolved

instance (step : PlanStep) (resolved : List Id) : Decidable (step.Ready resolved) :=
  inferInstanceAs (Decidable (_ ∧ _))

/-- Rounds of resolution, each of which resolves every step that is ready. -/
def resolve (steps : List PlanStep) : Nat → List Id → List Id
  | 0, resolved => resolved
  | fuel + 1, resolved =>
      resolve steps fuel (resolved ++ (steps.filter fun step => step.Ready resolved).map PlanStep.id)

/-- The steps that the given ones depend on, directly or not. -/
def ancestors (steps : List PlanStep) : Nat → List Id → List Id
  | 0, seen => seen
  | fuel + 1, seen =>
      let reached := (steps.filter fun step => step.id ∈ seen).flatMap PlanStep.dependencies
      ancestors steps fuel (seen ++ (reached.filter fun id => id ∉ seen).dedup)

/-- One step fits its plan. -/
structure PlanStep.Fits (step : PlanStep) (taskId : Id) (ids : List Id) : Prop where
  ofTask : step.taskId = taskId
  unrepeated : step.dependencies.Nodup
  known : ∀ dependency ∈ step.dependencies, dependency ∈ ids ∧ dependency ≠ step.id
  direct : step.input.Among step.dependencies

instance (step : PlanStep) (taskId : Id) (ids : List Id) : Decidable (step.Fits taskId ids) :=
  decidable_of_iff
    ((step.taskId = taskId ∧ step.dependencies.Nodup) ∧
      (∀ dependency ∈ step.dependencies, dependency ∈ ids ∧ dependency ≠ step.id) ∧
      step.input.Among step.dependencies)
    ⟨fun holds => ⟨holds.1.1, holds.1.2, holds.2.1, holds.2.2⟩,
      fun fits => ⟨⟨fits.ofTask, fits.unrepeated⟩, fits.known, fits.direct⟩⟩

/-- The schema of plans with its refinements. -/
structure WellFormed (taskId : Id) (steps : List PlanStep) (resultStepId : Id) : Prop where
  nonempty : 1 ≤ steps.length
  bounded : steps.length ≤ 32
  distinct : (steps.map PlanStep.id).Nodup
  hasResult : resultStepId ∈ steps.map PlanStep.id
  fits : ∀ step ∈ steps, step.Fits taskId (steps.map PlanStep.id)
  acyclic : ∀ step ∈ steps, step.id ∈ resolve steps steps.length []
  connected : ∀ step ∈ steps, step.id ∈ ancestors steps steps.length [resultStepId]

instance (taskId : Id) (steps : List PlanStep) (resultStepId : Id) :
    Decidable (WellFormed taskId steps resultStepId) :=
  decidable_of_iff
    ((1 ≤ steps.length ∧ steps.length ≤ 32 ∧ (steps.map PlanStep.id).Nodup ∧
        resultStepId ∈ steps.map PlanStep.id) ∧
      (∀ step ∈ steps, step.Fits taskId (steps.map PlanStep.id)) ∧
      (∀ step ∈ steps, step.id ∈ resolve steps steps.length []) ∧
      ∀ step ∈ steps, step.id ∈ ancestors steps steps.length [resultStepId])
    ⟨fun holds => ⟨holds.1.1, holds.1.2.1, holds.1.2.2.1, holds.1.2.2.2, holds.2.1, holds.2.2.1, holds.2.2.2⟩,
      fun formed => ⟨⟨formed.nonempty, formed.bounded, formed.distinct, formed.hasResult⟩, formed.fits,
        formed.acyclic, formed.connected⟩⟩

structure ExecutionPlan where
  taskId : Id
  recipe : Recipe
  steps : List PlanStep
  resultStepId : Id
  wellFormed : WellFormed taskId steps resultStepId

/-! ## Planning -/

def operations : Recipe → List Operation
  | .uppercaseReverse => [.uppercase, .waitForEvent, .reverse]
  | .mission => [.githubEvidence, .runtimeAnalyse, .runtimeReview, .reconcile]
  | .brief => [.githubEvidence, .runtimeAnalyse, .runtimeReview, .reconcile]
  | .repositoryRead => [.repositoryRead]
  | .claudeMdCheck => [.repositoryRead]
  | .identityChange => [.identityGovern]
  | .uppercase => [.uppercase]

section Planning

variable (platform : Platform)

/-- `stableId([task.id, recipe, index])`. -/
def stepId (taskId : Id) (recipe : Recipe) (index : Nat) : Id :=
  stableId platform.sha256 (.arr [.str taskId.text, .str recipe.text, .num index])

/-- The step at a position of a recipe: it depends on the one before it. -/
def planStep (taskId : Id) (recipe : Recipe) : Nat → Operation → PlanStep
  | 0, operation => ⟨stepId platform taskId recipe 0, taskId, operation, [], .taskObjective⟩
  | index + 1, operation =>
      ⟨stepId platform taskId recipe (index + 1), taskId, operation, [stepId platform taskId recipe index],
        .stepOutput (stepId platform taskId recipe index)⟩

def planSteps (taskId : Id) (recipe : Recipe) : List PlanStep :=
  (operations recipe).mapIdx (planStep platform taskId recipe)

/-- `planTask(raw, recipe)`. -/
def planTask (raw : Task) (recipe : Recipe) : Option ExecutionPlan := do
  let task ← raw.parse
  if task.riskClass ≠ .low ∨ task.constraints ≠ [] ∨ task.budget ≠ none ∨ task.deadline ≠ none ∨
      task.acceptanceCriteria ≠ [criteria recipe] then none
  else
    let steps := planSteps platform task.id recipe
    let resultStepId := stepId platform task.id recipe ((operations recipe).length - 1)
    if wellFormed : WellFormed task.id steps resultStepId then
      some ⟨task.id, recipe, steps, resultStepId, wellFormed⟩
    else none

end Planning

/-! ## The order of steps -/

def nextStep (steps : List PlanStep) (done : List Id) : Option PlanStep :=
  ((steps.filter fun step => step.Ready done).insertionSort fun first second =>
    Json.unitsLE first.id.text second.id.text).head?

def orderFrom (steps : List PlanStep) : Nat → List Id → Option (List PlanStep)
  | 0, _ => some []
  | remaining + 1, done => do
      let next ← nextStep steps done
      let rest ← orderFrom steps remaining (next.id :: done)
      some (next :: rest)

/-- `orderedSteps(plan)`. -/
def orderedSteps (plan : ExecutionPlan) : Option (List PlanStep) :=
  orderFrom plan.steps plan.steps.length []

/-- Every step depends on the one before it, and the first on none. -/
structure IsChain (steps : List PlanStep) : Prop where
  first : ∀ step, steps[0]? = some step → step.dependencies = []
  later : ∀ index before step, steps[index]? = some before → steps[index + 1]? = some step →
    step.dependencies = [before.id]

theorem IsChain.planSteps (platform : Platform) (taskId : Id) (recipe : Recipe) :
    IsChain (planSteps platform taskId recipe) where
  first := by
    intro step found
    simp only [Plan.planSteps, List.getElem?_mapIdx, Option.map_eq_some_iff] at found
    obtain ⟨operation, -, rfl⟩ := found
    rfl
  later := by
    intro index before step found next
    simp only [Plan.planSteps, List.getElem?_mapIdx, Option.map_eq_some_iff] at found next
    obtain ⟨operation, -, rfl⟩ := found
    obtain ⟨operation, -, rfl⟩ := next
    cases index with
    | zero => rfl
    | succ index => rfl

section Chains

variable {steps : List PlanStep}

theorem id_at_inj (distinct : (steps.map PlanStep.id).Nodup) {first second : Nat} {left right : PlanStep}
    (here : steps[first]? = some left) (there : steps[second]? = some right) (same : left.id = right.id) :
    first = second := by
  have inside : first < (steps.map PlanStep.id).length := by
    rw [List.length_map]
    exact (List.getElem?_eq_some_iff.mp here).1
  apply (List.getElem?_inj inside distinct).mp
  rw [List.getElem?_map, List.getElem?_map, here, there, Option.map_some, Option.map_some, same]

/-- With the steps before a position done, the step at the position is the only one ready. -/
theorem ready_iff (chain : IsChain steps) (distinct : (steps.map PlanStep.id).Nodup) {index position : Nat}
    {step : PlanStep} {done : List Id} (found : steps[position]? = some step)
    (doneBefore : ∀ id, id ∈ done ↔ ∃ earlier other, earlier < index ∧ steps[earlier]? = some other ∧
      other.id = id) : step.Ready done ↔ position = index := by
  constructor
  · rintro ⟨fresh, resolved⟩
    have notBefore : index ≤ position := by
      by_contra before
      exact fresh ((doneBefore _).mpr ⟨position, step, by omega, found, rfl⟩)
    cases position with
    | zero => omega
    | succ position =>
        have inside : position < steps.length :=
          lt_trans (Nat.lt_succ_self position) (List.getElem?_eq_some_iff.mp found).1
        have before := List.getElem?_eq_getElem inside
        have dependencies := chain.later position _ step before found
        obtain ⟨earlier, other, early, there, same⟩ :=
          (doneBefore _).mp (resolved (steps[position]).id (dependencies ▸ List.mem_singleton_self _))
        have same := id_at_inj distinct there before same
        omega
  · rintro rfl
    constructor
    · intro isDone
      obtain ⟨earlier, other, early, there, same⟩ := (doneBefore _).mp isDone
      have same := id_at_inj distinct there found same
      omega
    · intro dependency member
      cases position with
      | zero =>
          rw [chain.first step found] at member
          cases member
      | succ position =>
          have inside : position < steps.length :=
            lt_trans (Nat.lt_succ_self position) (List.getElem?_eq_some_iff.mp found).1
          have before := List.getElem?_eq_getElem inside
          rw [chain.later position _ step before found, List.mem_singleton] at member
          exact (doneBefore _).mpr ⟨position, _, Nat.lt_succ_self position, before, member.symm⟩

theorem filter_eq_singleton {α : Type} {values : List α} {accepts : α → Bool} {index : Nat} {value : α}
    (found : values[index]? = some value)
    (only : ∀ position other, values[position]? = some other → (accepts other = true ↔ position = index)) :
    values.filter accepts = [value] := by
  induction values generalizing index with
  | nil => cases found
  | cons head tail ih =>
      cases index with
      | zero =>
          have kept : accepts head = true := (only 0 head rfl).mpr rfl
          have none : tail.filter accepts = [] := by
            rw [List.filter_eq_nil_iff]
            intro other member accepted
            obtain ⟨position, there⟩ := List.getElem?_of_mem member
            exact absurd ((only (position + 1) other there).mp accepted) (Nat.succ_ne_zero position)
          rw [List.filter_cons_of_pos kept, none, Option.some.inj found]
      | succ index =>
          have dropped : ¬ accepts head = true := fun accepted =>
            absurd ((only 0 head rfl).mp accepted) (Nat.succ_ne_zero index).symm
          rw [List.filter_cons_of_neg dropped]
          exact ih found fun position other there =>
            (only (position + 1) other there).trans Nat.succ_inj

theorem orderFrom_chain (chain : IsChain steps) (distinct : (steps.map PlanStep.id).Nodup) (index : Nat)
    {remaining : Nat} (all : index + remaining = steps.length) {done : List Id}
    (doneBefore : ∀ id, id ∈ done ↔ ∃ earlier other, earlier < index ∧ steps[earlier]? = some other ∧
      other.id = id) : orderFrom steps remaining done = some (steps.drop index) := by
  induction remaining generalizing index done with
  | zero => rw [orderFrom, List.drop_of_length_le (by omega)]
  | succ remaining ih =>
      have inside : index < steps.length := by omega
      have found := List.getElem?_eq_getElem inside
      have ready : (steps.filter fun step => step.Ready done) = [steps[index]] :=
        filter_eq_singleton found fun position other there =>
          decide_eq_true_iff.trans (ready_iff chain distinct there doneBefore)
      have next : nextStep steps done = some steps[index] := by
        rw [nextStep, ready]
        rfl
      have rest : orderFrom steps remaining ((steps[index]).id :: done) = some (steps.drop (index + 1)) := by
        refine ih (index + 1) (by omega) fun id => ?_
        rw [List.mem_cons, doneBefore]
        constructor
        · rintro (rfl | ⟨earlier, other, early, there, same⟩)
          · exact ⟨index, _, Nat.lt_succ_self index, found, rfl⟩
          · exact ⟨earlier, other, Nat.lt_succ_of_lt early, there, same⟩
        · rintro ⟨earlier, other, early, there, rfl⟩
          rcases Nat.lt_succ_iff_lt_or_eq.mp early with before | rfl
          · exact Or.inr ⟨earlier, other, before, there, rfl⟩
          · exact Or.inl (congrArg PlanStep.id (Option.some.inj (there.symm.trans found)))
      simp only [orderFrom, next, rest, Option.bind_eq_bind, Option.bind_some]
      rw [List.drop_eq_getElem_cons inside]

end Chains

/-- What planning makes of a task, and what it requires of it. -/
theorem planTask_cases {platform : Platform} {raw : Task} {recipe : Recipe} {plan : ExecutionPlan}
    (planned : planTask platform raw recipe = some plan) :
    ∃ task, raw.parse = some task ∧ task.acceptanceCriteria = [criteria recipe] ∧ plan.taskId = task.id ∧
      plan.recipe = recipe ∧ plan.steps = planSteps platform task.id recipe := by
  unfold planTask at planned
  simp only [Option.bind_eq_bind, Option.bind_eq_some_iff] at planned
  obtain ⟨task, parsed, planned⟩ := planned
  split at planned
  · cases planned
  · next fits =>
      simp only [not_or, ne_eq, not_not] at fits
      split at planned
      · cases planned
        exact ⟨task, parsed, fits.2.2.2.2, rfl, rfl, rfl⟩
      · cases planned

/-- Planning a task that fits its recipe, with its steps already computed. -/
theorem planTask_eq {platform : Platform} {task : Task} {recipe : Recipe} {steps : List PlanStep}
    {resultStepId : Id} (parsed : task.parse = some task)
    (fits : task.riskClass = .low ∧ task.constraints = [] ∧ task.budget = none ∧ task.deadline = none ∧
      task.acceptanceCriteria = [criteria recipe])
    (computed : planSteps platform task.id recipe = steps)
    (result : stepId platform task.id recipe ((operations recipe).length - 1) = resultStepId)
    (wellFormed : WellFormed task.id steps resultStepId) :
    planTask platform task recipe = some ⟨task.id, recipe, steps, resultStepId, wellFormed⟩ := by
  obtain ⟨risk, constraints, budget, deadline, acceptance⟩ := fits
  subst computed result
  simp only [planTask, parsed, Option.bind_eq_bind, Option.bind_some, risk, constraints, budget, deadline,
    acceptance, ne_eq, not_true_eq_false, or_self, if_false]
  exact dif_pos wellFormed

/-- The steps of a planned task are taken in the order of its recipe. -/
theorem orderedSteps_planTask {platform : Platform} {raw : Task} {recipe : Recipe} {plan : ExecutionPlan}
    (planned : planTask platform raw recipe = some plan) : orderedSteps plan = some plan.steps := by
  obtain ⟨task, -, -, -, -, steps⟩ := planTask_cases planned
  have chain : IsChain plan.steps := steps ▸ IsChain.planSteps platform task.id recipe
  exact orderFrom_chain chain plan.wellFormed.distinct 0 (Nat.zero_add _) fun id => by simp

/-! ## Steps of tasks -/

def Operation.kind : Operation → StepKind
  | .waitForEvent => .waitForEvent
  | .repositoryRead => .sandboxExec
  | .githubEvidence => .toolCall
  | .runtimeAnalyse => .llmCall
  | .runtimeReview => .llmCall
  | .uppercase => .deterministicFunction
  | .reverse => .deterministicFunction
  | .reconcile => .deterministicFunction
  | .identityGovern => .deterministicFunction

def repositoryReadCapability : CapabilityRef :=
  ⟨⟨js "60000000-0000-4000-8000-000000000003", by decide +kernel⟩, js "1.0.0"⟩

def githubReadCapability : CapabilityRef :=
  ⟨⟨js "60000000-0000-4000-8000-0000000000a1", by decide +kernel⟩, js "1.0.0"⟩

def Operation.requiredCapabilities : Operation → List CapabilityRef
  | .repositoryRead => [repositoryReadCapability]
  | .githubEvidence => [githubReadCapability]
  | _ => []

/-- `projectStep(step)`. -/
def projectStep (step : PlanStep) : Option TaskStep :=
  TaskStep.parse
    { id := step.id
      taskId := step.taskId
      kind := step.operation.kind
      status := .ready
      dependencies := step.dependencies
      requiredCapabilities := step.operation.requiredCapabilities
      riskClass := .low
      retryPolicy := ⟨1, 0⟩
      timeout := none
      input := step.input.toJson
      output := none
      idempotencyKey := some (step.taskId.text ++ js ":" ++ step.id.text) }

end KernelJson.Planner.Plan
