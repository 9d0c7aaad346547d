import KernelJson.Gateway.Door
import KernelJson.Planner.Chains

/-!
# What was admitted is accepted

Two workflows take up what the door admits: each compiles the stored submission
again and checks it before the task exists.  `Derived` keeps, along every run of
the door, that a stored submission is the one its task was compiled of, and that
the binding of the task was made of the same task.
-/

namespace KernelJson.Gateway.Acceptance

open Contracts.Common
open Contracts.Intent
open Contracts.Platform
open Contracts.Task
open Foundation.JsText
open Gateway.Admission
open Gateway.Door

open Planner.Chains
open Planner.Plan

/-! ## Runs up to the creation of their task -/

/-- How a run ends before its task exists; `unplanned` is an error that the runtime retries. -/
inductive Failure where
  | unsupportedSubmission
  | invalidKeyOrFuture
  | unauthenticated
  | invalidGoldenSubmission
  | invalidTaskIdentity
  | unplanned
deriving DecidableEq

/-- What a run has derived when it writes the creation of its task. -/
structure Creation where
  task : Task
  plan : ExecutionPlan

section Runs

variable (platform : Platform)

/-- The record that the first write carries. -/
def created (task : Task) : Option Task := { task with status := .received }.parse

/-- A run goes on with the plan of its task, and with the record that it writes first. -/
def beginRun (task : Task) (recipe : Recipe) : Except Failure Creation :=
  match planTask platform task recipe, created task with
  | some plan, some first => .ok ⟨first, plan⟩
  | _, _ => .error .unplanned

/-- `KernelWorkflowV1.run` under a key, when the clock of the workflow shows `now`. -/
def kernelRun (raw : KernelSubmission) (key : Id) (now : Int) : Except Failure Creation :=
  match compileIntent platform raw with
  | none => .error .unsupportedSubmission
  | some (task, submission) =>
      if key ≠ task.id ∨ task.createdAt.ms > now then .error .invalidKeyOrFuture
      else beginRun platform task submission.recipe

/-- `GoldenTaskWorkflowV1.run` under a key, with the principal that the run is authenticated as. -/
def goldenRun (raw : KernelSubmission) (key : Id) (actor : Option PrincipalRef) : Except Failure Creation :=
  match actor with
  | none => .error .unauthenticated
  | some actor =>
      match compileIntent platform raw with
      | none => .error .invalidGoldenSubmission
      | some (task, submission) =>
          if submission.recipe ≠ .uppercase then .error .invalidGoldenSubmission
          else if task.id ≠ key ∨ task.principal.id ≠ actor.id ∨ task.principal.kind ≠ actor.kind then
            .error .invalidTaskIdentity
          else beginRun platform task .uppercase

end Runs

/-! ## Compiled tasks -/

section Compiled

variable {platform : Platform} {raw submission : KernelSubmission} {task : Task}

theorem trimmed_criteria (recipe : Recipe) : parseText (criteria recipe) = some (criteria recipe) := by
  cases recipe
  all_goals
    rw [criteria, js_ofList]
    decide +kernel

/-- What a compiled task is made of. -/
structure CompiledOf (submission : KernelSubmission) (task : Task) : Prop where
  parsed : task.parse = some task
  fits : task.riskClass = .low ∧ task.constraints = [] ∧ task.budget = none ∧ task.deadline = none ∧
    task.acceptanceCriteria = [criteria submission.recipe]
  received : task.status = .received
  principal : task.principal = submission.intent.principal
  createdAt : task.createdAt = submission.intent.receivedAt

theorem compiled_of (compiled : compileIntent platform raw = some (task, submission)) :
    CompiledOf submission task := by
  obtain ⟨-, -, -, -, parsed⟩ := compileIntent_ok compiled
  have again := Task.parse_again parsed
  simp only [Task.parse, Option.bind_eq_bind, Option.bind_eq_some_iff] at parsed
  obtain ⟨objective, -, criterion, criterionRead, constraints, constraintsRead, accepted⟩ := parsed
  simp only [rawTask, List.mapM_cons, List.mapM_nil, trimmed_criteria, Option.bind_eq_bind, Option.bind_some,
    Option.pure_def, Option.some.injEq] at criterionRead constraintsRead
  subst criterionRead constraintsRead
  split at accepted
  · cases accepted
    exact ⟨again, ⟨rfl, rfl, rfl, rfl, rfl⟩, rfl, rfl, rfl⟩
  · cases accepted

/-- A compiled task is created as it is. -/
theorem created_of (made : CompiledOf submission task) : created task = some task := by
  have same : { task with status := TaskStatus.received } = task := by
    rw [← made.received]
  rw [created, same, made.parsed]

theorem beginRun_of (made : CompiledOf submission task) (apart : StepsApart platform task.id submission.recipe) :
    ∃ plan, planTask platform task submission.recipe = some plan ∧
      beginRun platform task submission.recipe = .ok ⟨task, plan⟩ := by
  obtain ⟨plan, plans, -, -⟩ := planned apart made.parsed made.fits
  refine ⟨plan, plans, ?_⟩
  rw [beginRun, plans, created_of made]

end Compiled

/-! ## What the door keeps of the compilation -/

variable (config : Config)

/-- An admission was compiled when it was stored, and its binding was made of the same task. -/
def DerivedRow (door : Door) (row : Admission) (ask : Ask) (now : Timestamp) (task : Task) : Prop :=
  .admitted ask row ∈ door.past ∧ compose config now ask = .ok (row.payload, task) ∧ row.taskId = task.id ∧
    bindingFor config task (recipeTarget ask.input.recipe) ∈ door.tables.bindings

structure Derived (door : Door) : Prop where
  stages : ∀ handler ask payload task, door.stages handler = .storing ask payload task →
    ∃ now, compose config now ask = .ok (payload, task)
  rows : ∀ row ∈ door.tables.admissions, ∃ ask now task, DerivedRow config door row ask now task

variable {config}

theorem DerivedRow.grown {door next : Door} {row : Admission} {ask : Ask} {now : Timestamp} {task : Task}
    (holds : DerivedRow config door row ask now task) (past : door.past ⊆ next.past)
    (bindings : door.tables.bindings ⊆ next.tables.bindings) : DerivedRow config next row ask now task :=
  ⟨past holds.1, holds.2.1, holds.2.2.1, bindings holds.2.2.2⟩

/-- A handler that moves to a stage that stores nothing, while events are logged. -/
theorem Derived.onward {door next : Door} (holds : Derived config door)
    (stages : ∀ handler ask payload task, next.stages handler = .storing ask payload task →
      door.stages handler = .storing ask payload task)
    (past : door.past ⊆ next.past) (admissions : next.tables.admissions = door.tables.admissions)
    (bindings : next.tables.bindings = door.tables.bindings) : Derived config next where
  stages := fun handler ask payload task reached =>
    holds.stages handler ask payload task (stages handler ask payload task reached)
  rows := fun row member => by
    rw [admissions] at member
    obtain ⟨ask, now, task, derived⟩ := holds.rows row member
    exact ⟨ask, now, task, derived.grown past (by rw [bindings]; exact fun _ inside => inside)⟩

theorem Derived.moved {door : Door} (holds : Derived config door) (handler : Nat) {stage : Stage}
    (plain : ∀ ask payload task, stage ≠ .storing ask payload task) :
    Derived config (door.move handler stage) := by
  refine holds.onward ?_ (fun _ inside => inside) rfl rfl
  intro other ask payload task reached
  rcases @move_stages door handler stage other with ⟨same, -⟩ | ⟨same, -⟩
  · rw [same] at reached
    exact absurd reached (plain ask payload task)
  · exact same ▸ reached

theorem Derived.logged {door : Door} (holds : Derived config door) (event : Event) :
    Derived config (door.log event) :=
  holds.onward (fun _ _ _ _ reached => reached) (List.subset_cons_self _ _) rfl rfl

/-- What one step preserves. -/
theorem Derived.step {door next : Door} (invariant : Invariant config door) (holds : Derived config door)
    (taken : Step config door next) : Derived config next := by
  cases taken with
  | receive handler request ask idle read => exact (holds.moved handler (by simp)).logged _
  | deny handler members admits ask refusal waits denied => exact (holds.moved handler (by simp)).logged _
  | acquire handler members admits ask waits entered free => exact holds.moved handler (by simp)
  | resume handler ask accepted held recalled => exact holds.moved handler (by simp)
  | refuse handler ask refusal held refused => exact (holds.moved handler (by simp)).logged _
  | reject handler ask now refusal held fresh rejected => exact (holds.moved handler (by simp)).logged _
  | fail handler ask payload task refusal stores failed => exact (holds.moved handler (by simp)).logged _
  | call handler members ask accepted status goes authorized => exact (holds.moved handler (by simp)).logged _
  | finish handler ask accepted status goes =>
      have idle : Derived config (door.move handler .idle) := holds.moved handler (by simp)
      have logged := idle.logged (.answered ask accepted.binding.taskId status)
      exact logged.onward (fun _ _ _ _ reached => reached) (fun _ inside => inside) rfl rfl
  | crash taken =>
      refine holds.onward ?_ (fun _ inside => inside) rfl rfl
      intro handler ask payload task reached
      change (if taken handler then Stage.idle else door.stages handler) = _ at reached
      split at reached
      · cases reached
      · exact reached
  | compose handler ask now payload task held fresh composed =>
      refine ⟨?_, ?_⟩
      · intro other asked submitted compiled reached
        rcases @move_stages door handler (.storing ask payload task) other with ⟨same, -⟩ | ⟨same, -⟩
        · rw [same] at reached
          cases reached
          exact ⟨now, composed⟩
        · exact holds.stages other asked submitted compiled (same ▸ reached)
      · exact holds.rows
  | admitNew handler ask payload task accepted tables stores stored =>
      obtain ⟨-, rfl, rfl⟩ := store_ok invariant.paired stored
      obtain ⟨now, composed⟩ := holds.stages handler ask payload task stores
      refine ⟨?_, ?_⟩
      · intro other asked submitted compiled reached
        rcases @move_stages door handler (.accepted ask ⟨bindingFor config task (recipeTarget ask.input.recipe),
          payload⟩) other with ⟨same, -⟩ | ⟨same, -⟩
        · exact absurd (same.symm.trans reached) (by simp)
        · exact holds.stages other asked submitted compiled (same.symm.trans reached)
      · intro row member
        rcases List.mem_append.mp member with old | new
        · obtain ⟨first, before, compiled, derived⟩ := holds.rows row old
          exact ⟨first, before, compiled, derived.grown (List.subset_cons_self _ _) (List.subset_append_left _ _)⟩
        · rw [List.mem_singleton.mp new]
          exact ⟨ask, now, task, List.mem_cons_self, composed, rfl,
            List.mem_append_right _ (List.mem_singleton_self _)⟩

/-- What a whole run preserves. -/
theorem Reachable.derived {door : Door} (reached : Reachable config door) : Derived config door := by
  induction reached with
  | start => exact ⟨fun _ _ _ _ impossible => (nomatch impossible), fun _ member => absurd member List.not_mem_nil⟩
  | step before taken ih => exact ih.step before.invariant taken

/-! ## Acceptance -/

variable (config) in
/-- How the two workflows take up an admission, whatever their clock shows and whoever calls them. -/
structure Accepts (door : Door) (row : Admission) (ask : Ask) (now : Timestamp) (task : Task)
    (binding : ExecutionBinding) : Prop where
  admitted : .admitted ask row ∈ door.past
  composed : compose config now ask = .ok (row.payload, task)
  named : row.taskId = task.id
  bound : readBinding door.tables row.taskId = some binding
  derived : binding = bindingFor config task (recipeTarget row.payload.recipe)
  kernel : binding.target = workflowTargets .kernel → ∀ clock,
    kernelRun config.platform row.payload binding.executionKey clock =
      if now.ms ≤ clock then beginRun config.platform task row.payload.recipe else .error .invalidKeyOrFuture
  golden : binding.target = workflowTargets .golden → ∀ actor,
    goldenRun config.platform row.payload binding.executionKey (some actor) =
      if actor = ask.context.principal then beginRun config.platform task row.payload.recipe
      else .error .invalidTaskIdentity
  creates : StepsApart config.platform task.id row.payload.recipe →
    ∃ plan, planTask config.platform task row.payload.recipe = some plan ∧
      beginRun config.platform task row.payload.recipe = .ok ⟨task, plan⟩

/-- A submission carries the caller of its request and the moment at which it was received. -/
theorem submission_carries {now : Timestamp} {ask : Ask} {payload : KernelSubmission}
    (made : submission config now ask = some payload) :
    payload.intent.principal = ask.context.principal ∧ payload.intent.receivedAt = now := by
  simp only [submission, Option.bind_eq_bind, Option.bind_eq_some_iff] at made
  obtain ⟨source, -, trace, -, read⟩ := made
  obtain ⟨-, -, -, principal, -⟩ := KernelSubmission.parse_keeps read
  refine ⟨principal, ?_⟩
  simp only [KernelSubmission.parse, IntentEnvelope.parse, Option.bind_eq_bind, Option.bind_eq_some_iff] at read
  obtain ⟨intent, ⟨_, -, _, -, _, -, _, -, _, -, intentSame⟩, same⟩ := read
  cases intentSame
  cases same
  rfl

/-- A binding that is listed is the one that is read under its task. -/
theorem readBinding_of_mem {door : Door} (invariant : Invariant config door) {binding : ExecutionBinding}
    (member : binding ∈ door.tables.bindings) : readBinding door.tables binding.taskId = some binding := by
  have distinct : (door.tables.bindings.map ExecutionBinding.taskId).Nodup := by
    rw [invariant.paired]
    exact invariant.taskIds
  cases read : readBinding door.tables binding.taskId with
  | none => exact absurd (decide_eq_true rfl) (List.find?_eq_none.mp read binding member)
  | some found =>
      have named : found.taskId = binding.taskId := by simpa using List.find?_some read
      rw [List.inj_on_of_nodup_map distinct (List.mem_of_find?_eq_some read) member named]

section Handlers

variable {platform : Platform} {raw submission : KernelSubmission} {task : Task}
  (compiled : compileIntent platform raw = some (task, submission))

include compiled

theorem kernelRun_eq (clock : Int) : kernelRun platform raw task.id clock =
    if submission.intent.receivedAt.ms ≤ clock then beginRun platform task submission.recipe
    else .error .invalidKeyOrFuture := by
  have createdAt := (compiled_of compiled).createdAt
  simp only [kernelRun, compiled, ne_eq, not_true_eq_false, false_or, createdAt]
  by_cases past : submission.intent.receivedAt.ms ≤ clock
  · rw [if_neg (by omega), if_pos past]
  · rw [if_pos (by omega), if_neg past]

theorem goldenRun_eq (routed : submission.recipe = .uppercase) (actor : PrincipalRef) :
    goldenRun platform raw task.id (some actor) =
      if actor = submission.intent.principal then beginRun platform task submission.recipe
      else .error .invalidTaskIdentity := by
  have principal := (compiled_of compiled).principal
  simp only [goldenRun, compiled, routed, ne_eq, not_true_eq_false, if_false, false_or, principal]
  by_cases same : actor = submission.intent.principal
  · subst same
    simp
  · rw [if_neg same, if_pos]
    by_contra both
    simp only [not_or, not_not] at both
    refine same ?_
    obtain ⟨id, kind⟩ := actor
    cases both.1
    cases both.2
    rfl

end Handlers

/-- An admission that was derived at the door is taken up. -/
theorem accepts_of_derived {door : Door} (invariant : Invariant config door) {row : Admission} {ask : Ask}
    {now : Timestamp} {task : Task} (holds : DerivedRow config door row ask now task) :
    Accepts config door row ask now task (bindingFor config task (recipeTarget row.payload.recipe)) := by
  obtain ⟨admitted, composed, named, listed⟩ := holds
  obtain ⟨made, read, compiled⟩ := compose_ok composed
  obtain ⟨recipe, -, again⟩ := submission_ok made
  obtain ⟨principal, receivedAt⟩ := submission_carries made
  obtain ⟨parsed, -⟩ := compileIntent_ok compiled
  have same : row.payload = read := Option.some.inj (again.symm.trans parsed)
  subst same
  rw [← recipe] at listed
  constructor
  case admitted => exact admitted
  case composed => exact composed
  case named => exact named
  case bound =>
    rw [named]
    exact readBinding_of_mem invariant listed
  case derived => rfl
  case kernel =>
    intro _ clock
    rw [← receivedAt]
    exact kernelRun_eq compiled clock
  case golden =>
    intro target actor
    have routed : row.payload.recipe = .uppercase := by
      cases found : row.payload.recipe with
      | uppercase => rfl
      | _ =>
          simp only [bindingFor, recipeTarget, found] at target
          revert target
          decide
    rw [← principal]
    exact goldenRun_eq compiled routed actor
  case creates =>
    intro apart
    exact beginRun_of (compiled_of compiled) apart

/-- Every admitted submission is taken up by the workflow that it is bound to. -/
theorem admission_accepted {door : Door} (reached : Reachable config door) {row : Admission}
    (member : row ∈ door.tables.admissions) :
    ∃ ask now task binding, Accepts config door row ask now task binding := by
  obtain ⟨ask, now, task, derived⟩ := (Reachable.derived reached).rows row member
  exact ⟨ask, now, task, _, accepts_of_derived reached.invariant derived⟩

/-! ## A run whose clock is behind -/

def reverseInput : PublicSubmission :=
  ⟨.uppercaseReverse, js "turn me", by decide, by decide +kernel, by decide +kernel⟩

def reverseCorrelation : Id := ⟨js "74000000-0000-4000-8000-000000000031", by decide +kernel⟩

def reverseAsk : Ask :=
  ⟨sampleContext, reverseInput, js "key-0031", some (js "kerneljson:gateway/v1"), none, reverseCorrelation⟩

def reverseRequest : Request where
  context := sampleContext
  body := .obj [(js "recipe", .str (js "uppercase-reverse/v1")), (js "objective", .str (js "turn me"))]
  idempotencyKey := some (js "key-0031")
  channel := none
  correlation := none
  correlationId := reverseCorrelation

/-- The clock of the door when the request is composed. -/
def noon : Timestamp := ⟨1790000000000, by decide⟩

theorem reverseAsk_read : readRequest sampleConfig reverseRequest = .ok reverseAsk := by
  decide

/-- A door that admitted the request. -/
theorem reverse_admitted : ∃ door payload task, Reachable sampleConfig door ∧
    compose sampleConfig noon reverseAsk = .ok (payload, task) ∧
    admissionOf sampleConfig reverseAsk payload task ∈ door.tables.admissions := by
  have composes : (compose sampleConfig noon reverseAsk).isOk = true := by decide
  obtain ⟨payload, task, composed⟩ : ∃ payload task, compose sampleConfig noon reverseAsk = .ok (payload, task) := by
    cases composed : compose sampleConfig noon reverseAsk with
    | ok made => exact ⟨made.1, made.2, rfl⟩
    | error refusal => exact absurd composes (by rw [composed]; exact Bool.false_ne_true)
  obtain ⟨accepted, tables, stored⟩ := @store_empty sampleConfig reverseAsk payload task
  have received := Reachable.start.step (Step.receive 0 reverseRequest reverseAsk rfl reverseAsk_read)
  have held := received.step (.acquire 0 sampleMembers true reverseAsk rfl (by decide) (by
    intro handler asked locked
    rcases @move_stages .start 0 (.waiting reverseAsk) handler with ⟨same, -⟩ | ⟨same, -⟩
    · change (((Door.start.move 0 (.waiting reverseAsk)).stages handler).locked?) = _ at locked
      rw [same] at locked
      cases locked
    · change (((Door.start.move 0 (.waiting reverseAsk)).stages handler).locked?) = _ at locked
      rw [same] at locked
      cases locked))
  have storing := held.step (.compose 0 reverseAsk noon payload task rfl rfl composed)
  have admitted := storing.step (.admitNew 0 reverseAsk payload task accepted tables rfl stored)
  obtain ⟨-, -, after⟩ := store_ok rfl stored
  refine ⟨_, payload, task, admitted, composed, ?_⟩
  show _ ∈ tables.admissions
  rw [after]
  exact List.mem_append_right _ (List.mem_singleton_self _)

/-- A workflow whose clock is a millisecond behind the door's refuses what the door admitted. -/
theorem admitted_refused_early : ∃ door row binding, Reachable sampleConfig door ∧
    row ∈ door.tables.admissions ∧ readBinding door.tables row.taskId = some binding ∧
    binding.target = workflowTargets .kernel ∧
    kernelRun sampleConfig.platform row.payload binding.executionKey 1789999999999 = .error .invalidKeyOrFuture := by
  obtain ⟨door, payload, task, reached, composed, member⟩ := reverse_admitted
  obtain ⟨made, read, compiled⟩ := compose_ok composed
  obtain ⟨recipe, -, again⟩ := submission_ok made
  obtain ⟨-, receivedAt⟩ := submission_carries made
  have same : payload = read := Option.some.inj (again.symm.trans (compileIntent_ok compiled).1)
  subst same
  obtain ⟨ask, now, other, derived⟩ := (Reachable.derived reached).rows _ member
  have accepts := accepts_of_derived reached.invariant derived
  refine ⟨door, _, _, reached, member, accepts.bound, ?_, ?_⟩
  · show recipeTarget payload.recipe = workflowTargets .kernel
    rw [recipe]
    rfl
  · show kernelRun _ payload other.id _ = _
    have named : other.id = task.id := accepts.named.symm
    rw [named, kernelRun_eq compiled, receivedAt]
    exact if_neg (by decide)

theorem reverse_accepted : ∃ door row ask now task binding, row ∈ door.tables.admissions ∧
    Accepts sampleConfig door row ask now task binding := by
  obtain ⟨door, payload, task, reached, -, member⟩ := reverse_admitted
  obtain ⟨ask, now, made, binding, accepts⟩ := admission_accepted reached member
  exact ⟨door, _, ask, now, made, binding, member, accepts⟩

end KernelJson.Gateway.Acceptance
