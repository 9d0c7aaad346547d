import KernelJson.Ledger.Effects

/-!
# What a verified completion has shown

A plan of a deterministic recipe that passed its verification is the one that
planning makes of the task; the persisted steps are what the executor computes,
the outcome gives the recipe's result and cites evidence of it.  A completion
without a persisted plan rests on the evidence of the fixed recipe.
-/

namespace KernelJson.Ledger.PlanSoundness

open Contracts.Common
open Contracts.Digest
open Contracts.Outcome
open Contracts.Platform
open Contracts.Records
open Contracts.Task
open Executor.Operations
open Executor.Verification
open Foundation
open Foundation.JsText
open Foundation.Transactions
open Ledger.Effects
open Ledger.Store
open Mission.Verify (Checked orThrow orThrow_ok)
open Planner.Plan

/-! ## Executing a plan -/

/-- A step of a plan with what it was given and what it gave. -/
structure Executed where
  node : PlanStep
  input : JsString
  output : JsString

section Execution

variable (platform : Platform)

/-- What the executor makes of a step; waiting hands its input on. -/
def runOperation (operation : Operation) (input : JsString) : Checked JsString :=
  match operation with
  | .waitForEvent => .ok input
  | _ => executeFunction platform operation input

/-- The executor's run over the steps of a plan. -/
def execute (task : Task) : List PlanStep → List (Id × JsString) → Checked (List Executed)
  | [], _ => .ok []
  | node :: rest, outputs => do
      let input ← resolveInput node task outputs
      let output ← runOperation platform node.operation input
      let executed ← execute task rest ((node.id, output) :: outputs)
      .ok (⟨node, input, output⟩ :: executed)

/-- The step that the executor persists at the end. -/
def Executed.step? (item : Executed) : Option TaskStep :=
  patchedStep item.node .completed (.str item.input) (some (.str item.output))

/-- The recipe applied to an objective. -/
def recipeResult (recipe : Recipe) (objective : JsString) : JsString :=
  match recipe with
  | .uppercaseReverse => reverseText (platform.toUpperCase (trim objective))
  | _ => platform.toUpperCase (trim objective)

end Execution

/-- The recipes that are executed again to verify them. -/
def Deterministic (recipe : Recipe) : Prop :=
  recipe = .uppercase ∨ recipe = .uppercaseReverse

/-- The operations of the deterministic recipes. -/
def Functional (operation : Operation) : Prop :=
  operation = .uppercase ∨ operation = .reverse ∨ operation = .waitForEvent

theorem functional_operations {recipe : Recipe} (deterministic : Deterministic recipe) {operation : Operation}
    (member : operation ∈ operations recipe) : Functional operation := by
  rcases deterministic with rfl | rfl
  · simp only [operations, List.mem_singleton] at member
    exact .inl member
  · simp only [operations, List.mem_cons, List.not_mem_nil, or_false] at member
    rcases member with rfl | rfl | rfl
    · exact .inl rfl
    · exact .inr (.inr rfl)
    · exact .inr (.inl rfl)

variable {platform : Platform}

theorem operation_planSteps {taskId : Id} {recipe : Recipe} {node : PlanStep}
    (member : node ∈ planSteps platform taskId recipe) : node.operation ∈ operations recipe ∧ node.taskId = taskId := by
  obtain ⟨index, found⟩ := List.getElem?_of_mem member
  simp only [planSteps, List.getElem?_mapIdx, Option.map_eq_some_iff] at found
  obtain ⟨operation, here, rfl⟩ := found
  have inside := List.mem_of_getElem? here
  cases index with
  | zero => exact ⟨inside, rfl⟩
  | succ index => exact ⟨inside, rfl⟩

/-- On the operations of the deterministic recipes the verifier expects what the executor computes. -/
theorem runOperation_functional (platform : Platform) {operation : Operation} (functional : Functional operation) (input : JsString) :
    runOperation platform operation input = .ok (expectedOutput platform operation input) := by
  rcases functional with rfl | rfl | rfl
  · rfl
  · rfl
  · rfl

/-! ## Collisions -/

/-- A value that verifying a completion digests: the persisted plan and the planned one, a persisted step and an
executed one. -/
inductive CompletionDigested (platform : Platform) (db : Db) : Json → Prop where
  | persistedPlan {row : EventRow} {raw : Json} {plan : ExecutionPlan} (member : row ∈ db.events)
      (given : row.payload.field? (js "plan") = some raw) (read : readPlan raw = some plan) :
      CompletionDigested platform db (planJson plan)
  | plannedTask {task : Task} {recipe : Recipe} {plan : ExecutionPlan} (member : task ∈ db.tasks)
      (planned : planTask platform task recipe = some plan) : CompletionDigested platform db (planJson plan)
  | persistedStep {stored step : TaskStep} (member : stored ∈ db.steps) (read : stored.parse = some step) :
      CompletionDigested platform db (TaskStep.toJson step)
  | executedStep {task : Task} {recipe : Recipe} {plan : ExecutionPlan} {executed : List Executed} {item : Executed}
      {step : TaskStep} (member : task ∈ db.tasks) (planned : planTask platform task recipe = some plan)
      (ran : execute platform task plan.steps [] = .ok executed) (inside : item ∈ executed)
      (given : item.step? = some step) : CompletionDigested platform db (TaskStep.toJson step)

/-- The hash has no collision among the values that the calls digest when they verify. -/
def CompletionApart (platform : Platform) (past : List Moment) : Prop :=
  ∀ moment ∈ past, ∀ one other, CompletionDigested platform moment.before one →
    CompletionDigested platform moment.before other →
    digest platform.sha256 one = digest platform.sha256 other → one = other

/-! ## The steps -/

/-- Every executed step was persisted as the executor computes it. -/
def StepsPersisted (steps : List TaskStep) (executed : List Executed) : Prop :=
  ∀ item ∈ executed, ∃ step, (steps.find? fun step => step.id = item.node.id) = some step ∧ item.step? = some step

/-- What the check of the steps has seen, up to collisions of their digests. -/
def StepsDigested (platform : Platform) (steps : List TaskStep) (executed : List Executed) : Prop :=
  ∀ item ∈ executed, ∃ step expected, (steps.find? fun step => step.id = item.node.id) = some step ∧
    item.step? = some expected ∧
    digest platform.sha256 (TaskStep.toJson step) = digest platform.sha256 (TaskStep.toJson expected)

theorem verifySteps_ok {task : Task} {steps : List TaskStep} {nodes : List PlanStep}
    (functional : ∀ node ∈ nodes, Functional node.operation) {outputs results : List (Id × JsString)}
    (checked : verifySteps platform task steps nodes outputs = .ok results) :
    ∃ executed, execute platform task nodes outputs = .ok executed ∧ StepsDigested platform steps executed := by
  induction nodes generalizing outputs with
  | nil => exact ⟨[], rfl, fun _ member => absurd member List.not_mem_nil⟩
  | cons node rest ih =>
      rw [verifySteps] at checked
      obtain ⟨input, resolved, checked⟩ := bind_ok checked
      obtain ⟨expected, patched, checked⟩ := bind_ok checked
      have here := runOperation_functional platform (functional node List.mem_cons_self) input
      cases found : steps.find? fun step => step.id = node.id with
      | none =>
          simp only [found] at checked
          cases checked
      | some step =>
          simp only [found] at checked
          split at checked
          · next same =>
              obtain ⟨executed, ran, digested⟩ :=
                ih (fun other member => functional other (List.mem_cons_of_mem _ member)) checked
              refine ⟨⟨node, input, expectedOutput platform node.operation input⟩ :: executed, ?_, ?_⟩
              · rw [execute, resolved, ok_bind, here, ok_bind, ran, ok_bind]
              · intro item member
                rcases List.mem_cons.mp member with rfl | later
                · exact ⟨step, expected, found, orThrow_ok patched, same⟩
                · exact digested item later
          · cases checked

theorem execute_nodes {task : Task} {nodes : List PlanStep} {outputs : List (Id × JsString)}
    {executed : List Executed} (ran : execute platform task nodes outputs = .ok executed) :
    executed.map Executed.node = nodes := by
  induction nodes generalizing outputs executed with
  | nil =>
      cases ran
      rfl
  | cons node rest ih =>
      rw [execute] at ran
      obtain ⟨input, -, ran⟩ := bind_ok ran
      obtain ⟨output, -, ran⟩ := bind_ok ran
      obtain ⟨later, here, ran⟩ := bind_ok ran
      cases ran
      rw [List.map_cons, ih here]

/-! ## The result -/

theorem verifySteps_cons {task : Task} {steps : List TaskStep} {node : PlanStep} {rest : List PlanStep}
    {outputs results : List (Id × JsString)}
    (checked : verifySteps platform task steps (node :: rest) outputs = .ok results) :
    ∃ input, resolveInput node task outputs = .ok input ∧ verifySteps platform task steps rest
      ((node.id, expectedOutput platform node.operation input) :: outputs) = .ok results := by
  rw [verifySteps] at checked
  obtain ⟨input, resolved, checked⟩ := bind_ok checked
  obtain ⟨expected, patched, checked⟩ := bind_ok checked
  refine ⟨input, resolved, ?_⟩
  cases found : steps.find? fun step => step.id = node.id with
  | none =>
      simp only [found] at checked
      cases checked
  | some step =>
      simp only [found] at checked
      split at checked
      · exact checked
      · cases checked

theorem outputOf_head (id : Id) (output : JsString) (rest : List (Id × JsString)) :
    outputOf ((id, output) :: rest) id = some output := by
  simp only [outputOf, List.find?_cons, decide_true, Option.map_some]

theorem resolve_first (task : Task) (recipe : Recipe) (operation : Operation) (outputs : List (Id × JsString)) :
    resolveInput (planStep platform task.id recipe 0 operation) task outputs = .ok task.objective :=
  if_neg fun different => different rfl

theorem resolve_next (platform : Platform) (task : Task) (recipe : Recipe) (index : Nat) (operation : Operation) (output : JsString)
    (rest : List (Id × JsString)) : resolveInput (planStep platform task.id recipe (index + 1) operation) task
      ((stepId platform task.id recipe index, output) :: rest) = .ok output := by
  have same : ¬ (planStep platform task.id recipe (index + 1) operation).taskId ≠ task.id := fun different =>
    different rfl
  rw [resolveInput, if_neg same]
  simp only [planStep, List.mem_singleton, if_true, outputOf_head, orThrow]

/-- The output of the last step of a deterministic recipe. -/
theorem verifySteps_result {task : Task} {recipe : Recipe} (deterministic : Deterministic recipe)
    {steps : List TaskStep} {results : List (Id × JsString)}
    (checked : verifySteps platform task steps (planSteps platform task.id recipe) [] = .ok results) :
    outputOf results (stepId platform task.id recipe ((operations recipe).length - 1)) =
      some (recipeResult platform recipe task.objective) := by
  rcases deterministic with rfl | rfl
  · have nodes : planSteps platform task.id .uppercase = [planStep platform task.id .uppercase 0 .uppercase] := rfl
    rw [nodes] at checked
    obtain ⟨input, resolved, checked⟩ := verifySteps_cons checked
    rw [resolve_first] at resolved
    cases resolved
    cases checked
    exact outputOf_head _ _ _
  · have nodes : planSteps platform task.id .uppercaseReverse =
        [planStep platform task.id .uppercaseReverse 0 .uppercase,
          planStep platform task.id .uppercaseReverse 1 .waitForEvent,
          planStep platform task.id .uppercaseReverse 2 .reverse] := rfl
    rw [nodes] at checked
    obtain ⟨first, resolved, checked⟩ := verifySteps_cons checked
    rw [resolve_first] at resolved
    cases resolved
    obtain ⟨second, resolved, checked⟩ := verifySteps_cons checked
    have handed := resolve_next platform task .uppercaseReverse 0 .waitForEvent
      (expectedOutput platform .uppercase task.objective) []
    cases handed.symm.trans resolved
    obtain ⟨third, resolved, checked⟩ := verifySteps_cons checked
    have handed := resolve_next platform task .uppercaseReverse 1 .reverse
      (expectedOutput platform .uppercase task.objective)
      [(stepId platform task.id .uppercaseReverse 0, expectedOutput platform .uppercase task.objective)]
    cases handed.symm.trans resolved
    cases checked
    exact outputOf_head _ _ _

theorem planTask_resultStep {task : Task} {recipe : Recipe} {plan : ExecutionPlan} (self : task.parse = some task)
    (planned : planTask platform task recipe = some plan) : plan.taskId = task.id ∧ plan.recipe = recipe ∧
      plan.steps = planSteps platform task.id recipe ∧
      plan.resultStepId = stepId platform task.id recipe ((operations recipe).length - 1) ∧
      task.acceptanceCriteria = [criteria recipe] := by
  unfold planTask at planned
  simp only [self, Option.bind_eq_bind, Option.bind_some] at planned
  split at planned
  · cases planned
  · next fits =>
      simp only [not_or, ne_eq, not_not] at fits
      split at planned
      · cases planned
        exact ⟨rfl, rfl, rfl, rfl, fits.2.2.2.2⟩
      · cases planned

def criterionLength : Recipe → Nat
  | .uppercaseReverse => 49
  | .uppercase => 40
  | .repositoryRead => 73
  | .claudeMdCheck => 96
  | .mission => 136
  | .identityChange => 214
  | .brief => 151

theorem length_criteria (recipe : Recipe) : (criteria recipe).length = criterionLength recipe := by
  cases recipe
  all_goals
    rw [criteria, js_ofList]
    decide +kernel

/-- The criterion of a task determines its recipe. -/
theorem criteria_injective : Function.Injective criteria := by
  intro first second same
  have lengths := congrArg List.length same
  rw [length_criteria, length_criteria] at lengths
  cases first <;> cases second <;> first | rfl | exact absurd lengths (by decide)

/-- What a verified plan of a deterministic recipe has shown. -/
structure PlanSound (platform : Platform) (db : Db) (task : Task) (recipe : Recipe) (raw : Json) (outcome : Outcome)
    (plan : ExecutionPlan) (executed : List Executed) (steps : List TaskStep) : Prop where
  read : readPlan raw = some plan
  planned : planTask platform task recipe = some plan
  ran : execute platform task plan.steps [] = .ok executed
  covers : executed.map Executed.node = plan.steps
  stored : (db.stepsOf task.id).mapM TaskStep.parse = some steps
  exact : steps.length = plan.steps.length
  persisted : StepsPersisted steps executed
  summary : outcome.summary = recipeResult platform recipe task.objective
  cited : ∀ ref ∈ outcome.evidenceRefs, ∃ row ∈ db.evidence, ∃ evidence, row.parse = some evidence ∧
    evidence.id = ref ∧ ResultEvidence platform plan task (recipeResult platform recipe task.objective) evidence

theorem mem_of_mapM_parse {rows parsed : List Evidence} (read : rows.mapM Evidence.parse = some parsed)
    {evidence : Evidence} (member : evidence ∈ parsed) : ∃ row ∈ rows, row.parse = some evidence := by
  induction rows generalizing parsed with
  | nil =>
      cases read
      cases member
  | cons row rest ih =>
      simp only [List.mapM_cons, Option.bind_eq_bind, Option.bind_eq_some_iff] at read
      obtain ⟨first, here, later, there, same⟩ := read
      cases same
      rcases List.mem_cons.mp member with rfl | inside
      · exact ⟨row, List.mem_cons_self, here⟩
      · obtain ⟨other, among, found⟩ := ih there inside
        exact ⟨other, List.mem_cons_of_mem _ among, found⟩

theorem records_mem {db : Db} {id : Id} {record : Evidence × TaskStep} (member : record ∈ db.records id) :
    record.1 ∈ db.evidence ∧ record.2 ∈ db.steps := by
  obtain ⟨evidence, inside, made⟩ := List.mem_filterMap.mp member
  obtain ⟨stepId, -, made⟩ := Option.bind_eq_some_iff.mp made
  obtain ⟨step, found, same⟩ := Option.map_eq_some_iff.mp made
  cases same
  exact ⟨List.mem_of_mem_filter inside, List.mem_of_find?_eq_some found⟩

theorem demandChecked_ok {outcome : Outcome} {output : JsString} {task : Task} {verified : List Evidence}
    (checked : (if outcome.summary ≠ output then .error "Outcome does not match verified result"
      else if CompletesFrom task outcome verified then .ok ()
      else .error "Completion does not match its evidence" : Checked Unit) = .ok ()) :
    outcome.summary = output ∧ CompletesFrom task outcome verified := by
  by_cases summary : outcome.summary = output
  · rw [if_neg (not_not_intro summary)] at checked
    by_cases completes : CompletesFrom task outcome verified
    · exact ⟨summary, completes⟩
    · rw [if_neg completes] at checked
      cases checked
  · rw [if_pos summary] at checked
    cases checked

/-- The hash has no collision among the values of one verification. -/
def ApartIn (platform : Platform) (db : Db) : Prop :=
  ∀ one other, CompletionDigested platform db one → CompletionDigested platform db other →
    digest platform.sha256 one = digest platform.sha256 other → one = other

theorem steps_persisted {db : Db} (apart : ApartIn platform db) {task : Task} {recipe : Recipe}
    {plan : ExecutionPlan} {executed : List Executed} {steps : List TaskStep} (member : task ∈ db.tasks)
    (planned : planTask platform task recipe = some plan) (ran : execute platform task plan.steps [] = .ok executed)
    (stored : ∀ step ∈ steps, ∃ row ∈ db.steps, row.parse = some step)
    (digested : StepsDigested platform steps executed) : StepsPersisted steps executed := by
  intro item inside
  obtain ⟨step, expected, found, given, same⟩ := digested item inside
  obtain ⟨row, among, read⟩ := stored step (List.mem_of_find?_eq_some found)
  have values := apart _ _ (.persistedStep among read) (.executedStep member planned ran inside given) same
  refine ⟨step, found, ?_⟩
  rw [given, TaskStep.toJson_injective values]

theorem mem_of_mapM_steps {rows parsed : List TaskStep} (read : rows.mapM TaskStep.parse = some parsed) :
    ∀ step ∈ parsed, ∃ row ∈ rows, row.parse = some step := by
  induction rows generalizing parsed with
  | nil =>
      cases read
      exact fun _ member => absurd member List.not_mem_nil
  | cons row rest ih =>
      simp only [List.mapM_cons, Option.bind_eq_bind, Option.bind_eq_some_iff] at read
      obtain ⟨first, here, later, there, same⟩ := read
      cases same
      intro step member
      rcases List.mem_cons.mp member with rfl | inside
      · exact ⟨row, List.mem_cons_self, here⟩
      · obtain ⟨other, among, found⟩ := ih there step inside
        exact ⟨other, List.mem_cons_of_mem _ among, found⟩

/-- A persisted plan of a deterministic recipe that was verified. -/
theorem plan_sound {db : Db} {task : Task} {recipe : Recipe} {raw : Json} {outcome : Outcome} {approved : JsString}
    {brief : Bool} {row : EventRow} (apart : ApartIn platform db) (member : task ∈ db.tasks)
    (self : task.parse = some task) (deterministic : Deterministic recipe)
    (criterion : task.acceptanceCriteria = [criteria recipe]) (event : row ∈ db.events)
    (given : row.payload.field? (js "plan") = some raw)
    (checked : verifyPlanCompletion platform task outcome raw (db.stepsOf task.id)
      ((db.records task.id).map Prod.fst) approved brief = .ok ()) :
    ∃ plan executed steps, PlanSound platform db task recipe raw outcome plan executed steps := by
  unfold verifyPlanCompletion at checked
  obtain ⟨plan, readHere, checked⟩ := bind_ok checked
  obtain ⟨expected, plannedHere, checked⟩ := bind_ok checked
  have read := orThrow_ok readHere
  have planned := orThrow_ok plannedHere
  obtain ⟨-, recipeHere, nodesHere, resultHere, criterionHere⟩ := planTask_resultStep self planned
  have recipes : plan.recipe = recipe := by
    have both := criterion.symm.trans criterionHere
    exact (criteria_injective (List.cons.inj both).1).symm
  split at checked
  · cases checked
  · next same =>
      have values := apart _ _ (.persistedPlan event given read) (.plannedTask member planned) (not_not.mp same)
      have plans : plan = expected := planJson_injective values
      subst plans
      obtain ⟨steps, stepsHere, checked⟩ := bind_ok checked
      have stored := orThrow_ok stepsHere
      split at checked
      · cases checked
      · next lengths =>
          have ordered := orderedSteps_planTask planned
          have operationsHere : ∀ node ∈ plan.steps, Functional node.operation := by
            intro node inside
            rw [nodesHere, recipes] at inside
            exact functional_operations deterministic (operation_planSteps inside).1
          have noRead : (plan.steps.find? fun node => node.operation = .repositoryRead) = none := by
            rw [List.find?_eq_none]
            intro node inside reads
            rw [decide_eq_true_eq] at reads
            have functional := operationsHere node inside
            rw [reads] at functional
            rcases functional with impossible | impossible | impossible <;> cases impossible
          have deterministicCheck : verifyDeterministic platform task outcome plan plan.steps steps
              ((db.records task.id).map Prod.fst) = .ok () := by
            rcases deterministic with rfl | rfl
            · simp only [recipes, ordered, orThrow, ok_bind, noRead] at checked
              exact checked
            · simp only [recipes, ordered, orThrow, ok_bind, noRead] at checked
              exact checked
          unfold verifyDeterministic at deterministicCheck
          obtain ⟨outputs, ran, deterministicCheck⟩ := bind_ok deterministicCheck
          obtain ⟨output, outputHere, deterministicCheck⟩ := bind_ok deterministicCheck
          obtain ⟨parsed, parsedHere, deterministicCheck⟩ := bind_ok deterministicCheck
          obtain ⟨summary, completes⟩ := demandChecked_ok deterministicCheck
          obtain ⟨executed, runs, digested⟩ := verifySteps_ok operationsHere ran
          have result : output = recipeResult platform recipe task.objective := by
            rw [nodesHere, recipes] at ran
            have last := verifySteps_result deterministic ran
            rw [← recipes, ← resultHere, recipes] at last
            exact Option.some.inj ((orThrow_ok outputHere).symm.trans last)
          refine ⟨plan, executed, steps, read, recipes ▸ planned, runs, execute_nodes runs, stored,
            not_not.mp lengths, ?_, summary.trans result, ?_⟩
          · refine steps_persisted apart member planned runs (fun step inside => ?_) digested
            obtain ⟨stepRow, among, readStep⟩ := mem_of_mapM_steps stored step inside
            exact ⟨stepRow, List.mem_of_mem_filter among, readStep⟩
          · intro ref cited
            obtain ⟨evidence, verified, named, -⟩ := completes.2.2.2.2.2.2 ref cited
            obtain ⟨inside, accepted⟩ := List.mem_filter.mp verified
            obtain ⟨rowHere, among, readRow⟩ := mem_of_mapM_parse (orThrow_ok parsedHere) inside
            obtain ⟨record, recordMember, rfl⟩ := List.mem_map.mp among
            refine ⟨record.1, (records_mem recordMember).1, evidence, readRow, named, ?_⟩
            rw [decide_eq_true_eq] at accepted
            rwa [← result]

/-- What the completion of a task has shown whose plan was not persisted: each cited row is evidence of the fixed
recipe, about a step that gave its result. -/
def FixedSound (platform : Platform) (db : Db) (task : Task) (outcome : Outcome) : Prop :=
  ∀ ref ∈ outcome.evidenceRefs, ∃ row ∈ db.evidence, ∃ stepRow ∈ db.steps, ∃ evidence step,
    row.parse = some evidence ∧ stepRow.parse = some step ∧ evidence.id = ref ∧ FixedStep platform task step ∧
    verifyEvidence platform evidence task step.id

theorem checkRecord_mem {task : Task} {records : List (Evidence × TaskStep)} {checked : List (List Evidence)}
    (made : records.mapM (checkRecord platform task) = some checked) {evidence : Evidence}
    (member : evidence ∈ checked.flatten) : ∃ record ∈ records, ∃ step, record.1.parse = some evidence ∧
      record.2.parse = some step ∧ FixedStep platform task step ∧ verifyEvidence platform evidence task step.id := by
  induction records generalizing checked with
  | nil =>
      cases made
      cases member
  | cons record rest ih =>
      simp only [List.mapM_cons, Option.bind_eq_bind, Option.bind_eq_some_iff] at made
      obtain ⟨first, here, later, there, same⟩ := made
      cases same
      rw [List.flatten_cons] at member
      rcases List.mem_append.mp member with now | inside
      · simp only [checkRecord, Option.bind_eq_bind, Option.bind_eq_some_iff] at here
        obtain ⟨read, readHere, step, stepHere, same⟩ := here
        split at same
        · next holds =>
            cases same
            cases List.mem_singleton.mp now
            exact ⟨record, List.mem_cons_self, step, readHere, stepHere, holds.1, holds.2⟩
        · cases same
          cases now
      · obtain ⟨other, among, step, rest⟩ := ih there inside
        exact ⟨other, List.mem_cons_of_mem _ among, step, rest⟩

theorem fixed_sound {db : Db} {task : Task} {outcome : Outcome}
    (verified : verifyFixed platform task outcome (db.records task.id)) : FixedSound platform db task outcome := by
  obtain ⟨checked, made, completes⟩ := verified
  intro ref cited
  obtain ⟨evidence, member, named, -⟩ := completes.2.2.2.2.2.2 ref cited
  obtain ⟨record, among, step, readRow, readStep, fixed, holds⟩ := checkRecord_mem made member
  obtain ⟨rowMember, stepMember⟩ := records_mem among
  exact ⟨record.1, rowMember, record.2, stepMember, evidence, step, readRow, readStep, named, fixed, holds⟩

end KernelJson.Ledger.PlanSoundness
