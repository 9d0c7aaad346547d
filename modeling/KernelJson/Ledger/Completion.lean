import KernelJson.Ledger.PlanSoundness
import KernelJson.Ledger.Results

/-!
# Completed tasks of the deterministic recipes

However the steps, plans, evidence and outcomes were written: when a task of a
deterministic recipe is COMPLETED, the write that completed it left what its
verification has shown, and no later write changes it.
-/

namespace KernelJson.Ledger.Completion

open Contracts.Common
open Contracts.Digest
open Contracts.Outcome
open Contracts.Platform
open Contracts.Records
open Contracts.Task
open Executor.Operations
open Executor.Verification
open Foundation
open Foundation.JsText
open Foundation.Transactions
open Ledger.Effects
open Ledger.Integrity
open Ledger.Invariants
open Ledger.PlanSoundness
open Ledger.Store
open Planner.Plan

variable {platform : Platform}

/-! ## Completing writes -/

theorem planOf_single {row : EventRow} {plan : Option Json} (given : planOf [row] = .ok plan) :
    plan = row.payload.field? (js "plan") := by
  unfold planOf at given
  cases payload : row.payload with
  | null =>
      simp only [payload] at given
      cases given
  | bool value =>
      simp only [payload] at given
      cases given
      rfl
  | num value =>
      simp only [payload] at given
      cases given
      rfl
  | real literal =>
      simp only [payload] at given
      cases given
      rfl
  | str text =>
      simp only [payload] at given
      cases given
      rfl
  | arr items =>
      simp only [payload] at given
      cases given
      rfl
  | obj fields =>
      simp only [payload] at given
      cases given
      rfl

/-- What the ledger checked before it stored the status COMPLETED. -/
theorem verifyCompletion_ok {around : Surroundings} {db : Db} {old task : Task} {event : TaskEvent}
    {outcome : Option Outcome}
    (verified : verifyCompletion platform around db old task event outcome = .ok ()) :
    ∃ found row, outcome = some found ∧ db.planEvents task.id = [row] ∧
      (∀ raw, row.payload.field? (js "plan") = some raw → ∃ approved brief,
        verifyPlanCompletion platform old found raw (db.stepsOf task.id) ((db.records task.id).map Prod.fst)
          approved brief = .ok ()) ∧
      (row.payload.field? (js "plan") = none → verifyFixed platform old found (db.records task.id)) := by
  unfold verifyCompletion at verified
  obtain ⟨⟨⟩, -, verified⟩ := bind_ok verified
  cases outcome with
  | none => cases verified
  | some found =>
      obtain ⟨plan, planHere, verified⟩ := bind_ok verified
      obtain ⟨⟨⟩, -, verified⟩ := bind_ok verified
      obtain ⟨⟨⟩, -, verified⟩ := bind_ok verified
      obtain ⟨⟨⟩, single, verified⟩ := bind_ok verified
      obtain ⟨row, rows⟩ := List.length_eq_one_iff.mp (demand_ok single)
      rw [rows] at planHere
      have plans := planOf_single planHere
      cases plan with
      | none =>
          obtain ⟨⟨⟩, fixed, -⟩ := bind_ok verified
          refine ⟨found, row, rfl, rows, fun raw given => ?_, fun _ => demand_ok fixed⟩
          rw [← plans] at given
          cases given
      | some raw =>
          obtain ⟨⟨⟩, planned, -⟩ := bind_ok verified
          refine ⟨found, row, rfl, rows, fun other given => ?_, fun absent => ?_⟩
          · rw [← plans] at given
            cases given
            exact ⟨_, _, demand_ok planned⟩
          · rw [← plans] at absent
            cases absent

/-- A write that brings no step. -/
def CarriesNoStep (input : Write) : Prop :=
  input.step = none ∧ input.steps.getD [] = []

theorem no_steps {input : Write} {admitted : Admitted} (valid : Valid input admitted) (none : CarriesNoStep input) :
    admitted.steps = [] := by
  obtain ⟨step, stepRead, stepsRead⟩ := valid.read
  rw [none.1] at stepRead
  cases stepRead
  rw [none.2] at stepsRead
  exact (Option.some.inj stepsRead).symm

theorem replaceStep_other (steps : List TaskStep) {step : TaskStep} {id : Id} (other : step.taskId ≠ id) :
    ((steps.map fun stored => if stored.id = step.id ∧ stored.taskId = step.taskId then step else stored).filter
      fun stored => stored.taskId = id) = steps.filter fun stored => stored.taskId = id := by
  induction steps with
  | nil => rfl
  | cons stored rest ih =>
      rw [List.map_cons, List.filter_cons, List.filter_cons, ih]
      split
      · next replaced =>
          rw [if_neg (by simpa only [decide_eq_true_eq] using other),
            if_neg (by simpa only [decide_eq_true_eq, replaced.2] using other)]
      · rfl

theorem upsertStep_other {steps : List TaskStep} {step : TaskStep} {id : Id} (other : step.taskId ≠ id) :
    (upsertStep steps step).filter (fun stored => stored.taskId = id) =
      steps.filter fun stored => stored.taskId = id := by
  unfold upsertStep
  split
  · exact replaceStep_other steps other
  · rw [List.filter_append, List.filter_cons_of_neg (by simpa only [decide_eq_true_eq] using other),
      List.filter_nil, List.append_nil]

/-- Steps of one task leave the steps of every other as they are. -/
theorem upsertSteps_other {batch : List TaskStep} {id : Id} (others : ∀ step ∈ batch, step.taskId ≠ id)
    (steps : List TaskStep) : (batch.foldl upsertStep steps).filter (fun stored => stored.taskId = id) =
      steps.filter fun stored => stored.taskId = id := by
  induction batch generalizing steps with
  | nil => rfl
  | cons step rest ih =>
      rw [List.foldl_cons, ih (fun other member => others other (List.mem_cons_of_mem _ member)),
        upsertStep_other (others step List.mem_cons_self)]

theorem stepsOf_projected {input : Write} {admitted : Admitted} {moved after : Db} (valid : Valid input admitted)
    (projected : Projected platform input admitted moved after) {id : Id}
    (other : admitted.task.id.column ≠ id.column) : after.stepsOf id = moved.stepsOf id := by
  rw [Db.stepsOf, projected.steps, Db.stepsOf]
  refine upsertSteps_other (fun step member same => other ?_) moved.steps
  rw [← valid.steps step member, (projected.canonicalSteps step member).2, same]

/-- The steps of a terminal task stay as they are. -/
theorem stepsOf_kept {around : Surroundings} {input : Write} {db after : Db}
    (effect : Effect platform around input db after) {id : Id} {task : Task} (found : db.task? id = some task)
    (terminal : task.status.Terminal) : after.stepsOf id = db.stepsOf id := by
  cases effect with
  | replayed valid prior same => rfl
  | created valid unused absent received canonical projected =>
      refine stepsOf_projected valid projected fun same => ?_
      rw [task?_of_column same, found] at absent
      cases absent
  | advanced valid unused here advances projected =>
      refine stepsOf_projected valid projected fun same => ?_
      rw [task?_of_column same, found] at here
      cases here
      exact advances.isOpen terminal

/-- The write that completed a task, and what still stands of it. -/
structure Completing (platform : Platform) (moment : Moment) (db : Db) (id : Id) (old task : Task)
    (outcome : Outcome) (row : EventRow) : Prop where
  found : moment.before.task? id = some old
  definition : SameDefinition old task
  planEvents : moment.before.planEvents id = [row]
  event : row ∈ db.events
  read : db.outcome? id = some outcome
  evidence : ∀ row ∈ moment.before.evidence, row ∈ db.evidence
  steps : CarriesNoStep moment.call.input → db.stepsOf id = moment.before.stepsOf id
  /-- A persisted plan is the one that planning makes, and it was carried out. -/
  planned : ∀ recipe, Deterministic recipe → task.acceptanceCriteria = [criteria recipe] →
    ∀ raw, row.payload.field? (js "plan") = some raw → ∃ plan executed steps,
      PlanSound platform moment.before old recipe raw outcome plan executed steps
  /-- Without a persisted plan, the cited rows are evidence of the fixed recipe. -/
  fixed : row.payload.field? (js "plan") = none → FixedSound platform moment.before old outcome

theorem effect_grows {around : Surroundings} {input : Write} {db after : Db}
    (effect : Effect platform around input db after) :
    (∀ row ∈ db.events, row ∈ after.events) ∧ ∀ row ∈ db.evidence, row ∈ after.evidence := by
  cases effect with
  | replayed valid prior same => exact ⟨fun _ member => member, fun _ member => member⟩
  | created valid unused absent received canonical projected =>
      rw [projected.events, projected.evidence]
      exact ⟨fun _ member => List.mem_append_left _ member, fun _ member => List.mem_append_left _ member⟩
  | advanced valid unused here advances projected =>
      rw [projected.events, projected.evidence]
      exact ⟨fun _ member => List.mem_append_left _ member, fun _ member => List.mem_append_left _ member⟩

theorem completing_kept {moment : Moment} {around : Surroundings} {input : Write} {db after : Db} {id : Id}
    {old task : Task} {outcome : Outcome} {row : EventRow} (effect : Effect platform around input db after)
    (present : db.task? id = some task) (completed : task.status = .completed)
    (completing : Completing platform moment db id old task outcome row) :
    Completing platform moment after id old task outcome row :=
  { completing with
    event := (effect_grows effect).1 row completing.event
    read := outcome?_kept effect completing.read
    evidence := fun row member => (effect_grows effect).2 row (completing.evidence row member)
    steps := fun none => (stepsOf_kept effect present (.inl completed)).trans (completing.steps none) }

/-- The write that brought the status COMPLETED. -/
theorem completing_new {call : Call} {around : Surroundings} {input : Write} {admitted : Admitted} {db after : Db}
    {old : Task} (apart : NoCollision platform [⟨db, call⟩]) (verifies : ApartIn platform db)
    (stored : Stored db) (writes : Writes call around input) (valid : Valid input admitted)
    (found : db.task? admitted.task.id = some old) (advances : Advances platform around input admitted db old)
    (completed : admitted.task.status = .completed)
    (projected : Projected platform input admitted (Db.withUpdate db admitted.task input.event.occurredAt) after) :
    ∃ outcome row, Completing platform ⟨db, call⟩ after admitted.task.id old admitted.task outcome row := by
  obtain ⟨outcome, row, carried, rows, planned, fixed⟩ := verifyCompletion_ok (advances.verified completed)
  have member := task?_mem found
  have self := (stored old member).1
  have ids := advances.keeps.1
  have definition := (advances_evolves advances apart writes valid found stored).definition
  have event : row ∈ db.events := by
    have inside : row ∈ db.planEvents admitted.task.id := rows ▸ List.mem_singleton_self row
    exact List.mem_of_mem_filter inside
  refine ⟨outcome, row,
    { found := found
      definition := definition
      planEvents := rows
      event := ?_
      read := outcome?_new projected carried
      evidence := ?_
      steps := ?_
      planned := ?_
      fixed := fun absent => ?_ }⟩
  · rw [projected.events]
    exact List.mem_append_left _ event
  · intro evidence inside
    rw [projected.evidence]
    exact List.mem_append_left _ inside
  · intro none
    have same : CarriesNoStep input := by
      cases writes with
      | write around input => exact none
      | finish first second input => exact none
      | @failed first second input outcome task outcomeRead taskRead => exact none
    rw [Db.stepsOf, projected.steps, no_steps valid same]
    rfl
  · intro recipe deterministic criterion raw given
    obtain ⟨approved, brief, checked⟩ := planned raw given
    have oldCriterion : old.acceptanceCriteria = [criteria recipe] := by
      rw [definition] at criterion
      exact criterion
    rw [ids] at checked
    exact plan_sound verifies member self deterministic oldCriterion event given checked
  · have holds := fixed absent
    rw [ids] at holds
    exact fixed_sound holds

/-- Every COMPLETED task was completed by a write whose checks still stand. -/
theorem completed_sound {past : List Moment} {db : Db} (run : Run platform past db)
    (apart : NoCollision platform past) (verifies : CompletionApart platform past) {id : Id} {task : Task}
    (found : db.task? id = some task) (completed : task.status = .completed) :
    ∃ moment ∈ past, ∃ old outcome row, Completing platform moment db id old task outcome row := by
  induction run generalizing id task with
  | start => cases found
  | @step past db run call ih =>
      have sound := sound_run run
      have earlier {task : Task} (found : db.task? id = some task) (completed : task.status = .completed) :=
        ih (apart.mono fun _ inside => List.mem_cons_of_mem _ inside)
          (fun moment inside => verifies moment (List.mem_cons_of_mem _ inside)) found completed
      have here : NoCollision platform [⟨db, call⟩] := apart.mono fun other inside => by
        rw [List.mem_singleton.mp inside]
        exact List.mem_cons_self
      rcases perform_cases platform call db with same | ⟨around, input, writes, effect⟩
      · rw [same] at found ⊢
        obtain ⟨moment, before, rest⟩ := earlier found completed
        exact ⟨moment, List.mem_cons_of_mem _ before, rest⟩
      · have kept {task : Task} (present : db.task? id = some task) (completed : task.status = .completed) :
            ∃ moment ∈ (⟨db, call⟩ :: past : List Moment), ∃ old outcome row,
              Completing platform moment (call.perform platform db).2 id old task outcome row := by
          obtain ⟨moment, before, old, outcome, row, completing⟩ := earlier present completed
          exact ⟨moment, List.mem_cons_of_mem _ before, old, outcome, row,
            completing_kept effect present completed completing⟩
        generalize (call.perform platform db).2 = after at found effect kept ⊢
        cases effect with
        | replayed valid prior same => exact kept found completed
        | @created admitted after valid unused absent received canonical projected =>
            rw [projected_task? projected, task?_withTask] at found
            cases present : db.task? id with
            | some other =>
                rw [present, Option.some_or] at found
                cases found
                exact kept present completed
            | none =>
                rw [present, Option.none_or] at found
                split at found
                · cases found
                  rw [received] at completed
                  cases completed
                · cases found
        | @advanced admitted old after valid unused stored advances projected =>
            rw [projected_task? projected, task?_withUpdate] at found
            obtain ⟨row, present, same⟩ := Option.map_eq_some_iff.mp found
            split at same
            · next ids =>
                subst same
                obtain ⟨outcome, planRow, completing⟩ := completing_new here (verifies _ List.mem_cons_self)
                  sound.stored writes valid stored advances completed projected
                have columns : id.column = admitted.task.id.column := by
                  rw [← task?_id present, ids, ← task?_id stored, advances.keeps.1]
                exact ⟨_, List.mem_cons_self, old, outcome, planRow,
                  { completing with
                    found := (task?_of_column columns).trans completing.found
                    planEvents := by
                      have events := completing.planEvents
                      simp only [Db.planEvents] at events ⊢
                      rwa [columns]
                    read := by
                      have read := completing.read
                      simp only [Db.outcome?] at read ⊢
                      rwa [columns]
                    steps := fun none => by
                      have steps := completing.steps none
                      simp only [Db.stepsOf] at steps ⊢
                      rwa [columns] }⟩
            · subst same
              exact kept present completed

/-! ## Where stored rows come from -/

/-- Some write of the run was read as this. -/
def SentBy (past : List Moment) (carries : Write → Admitted → Prop) : Prop :=
  ∃ moment ∈ past, ∃ around input admitted, Writes moment.call around input ∧ Valid input admitted ∧
    carries input admitted

theorem SentBy.later {past : List Moment} {carries : Write → Admitted → Prop} (sent : SentBy past carries)
    (moment : Moment) : SentBy (moment :: past) carries := by
  obtain ⟨earlier, member, rest⟩ := sent
  exact ⟨earlier, List.mem_cons_of_mem _ member, rest⟩

/-- Tasks, steps and payloads are those that the writes of a run carried. -/
structure Sent (past : List Moment) (db : Db) : Prop where
  tasks : ∀ task ∈ db.tasks, SentBy past fun _ admitted => admitted.task = task
  steps : ∀ step ∈ db.steps, SentBy past fun _ admitted => step ∈ admitted.steps
  payloads : ∀ row ∈ db.events, SentBy past fun input _ => input.event.payload = row.payload

theorem mem_upsertSteps {batch steps : List TaskStep} {step : TaskStep} (member : step ∈ batch.foldl upsertStep steps) :
    step ∈ steps ∨ step ∈ batch := by
  induction batch generalizing steps with
  | nil => exact .inl member
  | cons one rest ih =>
      rw [List.foldl_cons] at member
      rcases ih member with stored | later
      · unfold upsertStep at stored
        split at stored
        · obtain ⟨old, inside, same⟩ := List.mem_map.mp stored
          split at same
          · exact .inr (same ▸ List.mem_cons_self)
          · exact .inl (same ▸ inside)
        · rcases List.mem_append.mp stored with before | added
          · exact .inl before
          · exact .inr (List.mem_singleton.mp added ▸ List.mem_cons_self)
      · exact .inr (List.mem_cons_of_mem _ later)

theorem sent_projected {call : Call} {around : Surroundings} {input : Write} {admitted : Admitted} {db moved after : Db}
    {past : List Moment} (writes : Writes call around input) (valid : Valid input admitted)
    (projected : Projected platform input admitted moved after) (sent : Sent past db)
    (steps : moved.steps = db.steps) (events : moved.events = db.events)
    (tasks : ∀ task ∈ moved.tasks, task ∈ db.tasks ∨ task = admitted.task) : Sent (⟨db, call⟩ :: past) after where
  tasks := by
    intro task member
    rw [projected.tasks] at member
    rcases tasks task member with before | rfl
    · exact (sent.tasks task before).later _
    · exact ⟨_, List.mem_cons_self, around, input, admitted, writes, valid, rfl⟩
  steps := by
    intro step member
    rw [projected.steps, steps] at member
    rcases mem_upsertSteps member with before | carried
    · exact (sent.steps step before).later _
    · exact ⟨_, List.mem_cons_self, around, input, admitted, writes, valid, carried⟩
  payloads := by
    intro row member
    rw [projected.events, events] at member
    rcases List.mem_append.mp member with before | added
    · exact (sent.payloads row before).later _
    · rw [List.mem_singleton.mp added]
      exact ⟨_, List.mem_cons_self, around, input, admitted, writes, valid, rfl⟩

theorem sent_run {past : List Moment} {db : Db} (run : Run platform past db) : Sent past db := by
  refine Run.kept Sent ?_ ?_ ?_ run
  · exact ⟨fun _ member => absurd member List.not_mem_nil, fun _ member => absurd member List.not_mem_nil,
      fun _ member => absurd member List.not_mem_nil⟩
  · intro past db call sent same
    exact ⟨fun task member => (sent.tasks task member).later _, fun step member => (sent.steps step member).later _,
      fun row member => (sent.payloads row member).later _⟩
  · intro past db call around input after sent writes same effect
    cases effect with
    | replayed valid prior same =>
        exact ⟨fun task member => (sent.tasks task member).later _,
          fun step member => (sent.steps step member).later _,
          fun row member => (sent.payloads row member).later _⟩
    | created valid unused absent received canonical projected =>
        refine sent_projected writes valid projected sent rfl rfl fun task member => ?_
        rcases List.mem_append.mp member with before | added
        · exact .inl before
        · exact .inr (List.mem_singleton.mp added)
    | advanced valid unused here advances projected =>
        refine sent_projected writes valid projected sent rfl rfl fun task member => ?_
        obtain ⟨row, inside, same⟩ := List.mem_map.mp member
        split at same
        · exact .inr same.symm
        · exact .inl (same ▸ inside)

/-! ### A completed sample -/

def checksum (text : JsString) : Nat :=
  text.foldl (fun sum unit => (sum * 31 + unit.toNat) % 65521) 7

def checksumHash (text : JsString) : HexDigest :=
  HexDigest.ofDigits [checksum text, checksum text / 16, checksum text / 256, checksum text / 4096]

/-- A platform that hashes a text to a checksum. -/
def checksumPlatform : Platform := { Platform.ascii with sha256 := checksumHash }

def planPayload (plan : ExecutionPlan) : Json := .obj [(js "plan", planJson plan)]

def sampleStepId : Id := stepId checksumPlatform sampleTaskId .uppercase 0

theorem samplePlan_wellFormed :
    WellFormed sampleTaskId (planSteps checksumPlatform sampleTaskId .uppercase) sampleStepId := by
  decide +kernel

def samplePlan : ExecutionPlan :=
  ⟨sampleTaskId, .uppercase, planSteps checksumPlatform sampleTaskId .uppercase, sampleStepId, samplePlan_wellFormed⟩

def sampleStep : TaskStep where
  id := sampleStepId
  taskId := sampleTaskId
  kind := .deterministicFunction
  status := .completed
  dependencies := []
  requiredCapabilities := []
  riskClass := .low
  retryPolicy := ⟨1, 0⟩
  timeout := none
  input := .str (js "a")
  output := some (.str (js "A"))
  idempotencyKey := some (sampleTaskId.text ++ js ":" ++ sampleStepId.text)

def sampleEvidenceId : Id := ⟨js "72000000-0000-4000-8000-000000000001", by decide +kernel⟩

def sampleEvidence : Evidence where
  id := sampleEvidenceId
  taskId := sampleTaskId
  stepId := some sampleStepId
  type := .deterministicResult
  source := js "kerneljson:plan/v1"
  ref := none
  uri := none
  digest := some (hexText (digest checksumPlatform.sha256
    (resultMetadata checksumPlatform samplePlan (sampleTask .running) (js "A"))))
  capturedAt := .epoch
  metadata := resultMetadata checksumPlatform samplePlan (sampleTask .running) (js "A")

def sampleOutcome (summary : JsString) : Outcome where
  taskId := sampleTaskId
  status := .completed
  acceptanceResults := [⟨criteria .uppercase, true, [sampleEvidenceId]⟩]
  evidenceRefs := [sampleEvidenceId]
  summary := summary
  completedAt := .epoch

def completedTask : Task := { sampleTask .completed with completedAt := some .epoch }

/-- A write of the sample that brings nothing but its event. -/
def plainWrite (key : JsString) (task : Task) (eventId : Id) (type : TaskEventType) (payload : Json) : Write where
  key := key
  task := task
  event := { sampleEvent eventId type with payload := payload }
  step := none
  steps := none
  evidence := none
  outcome := none

def compiledId : Id := ⟨js "72000000-0000-4000-8000-000000000002", by decide +kernel⟩

def readyId : Id := ⟨js "72000000-0000-4000-8000-000000000003", by decide +kernel⟩

def runningId : Id := ⟨js "72000000-0000-4000-8000-000000000004", by decide +kernel⟩

def verifyingId : Id := ⟨js "72000000-0000-4000-8000-000000000005", by decide +kernel⟩

def completedId : Id := ⟨js "72000000-0000-4000-8000-000000000006", by decide +kernel⟩

/-- The writes of a sample from its plan to its end, the first one first. -/
def sampleWrites (payload : Json) (step : TaskStep) (evidence : Evidence) (summary : JsString) : List Write :=
  [createSample, plainWrite (js "compile") (sampleTask .compiled) compiledId .planCompiled payload,
    plainWrite (js "ready") (sampleTask .ready) readyId .taskReady (.obj []),
    { plainWrite (js "run") (sampleTask .running) runningId .stepCompleted (.obj []) with
      step := some step, evidence := some evidence },
    plainWrite (js "verify") (sampleTask .verifying) verifyingId .taskVerifying (.obj []),
    { plainWrite (js "complete") completedTask completedId .taskCompleted (.obj []) with
      outcome := some (sampleOutcome summary) }]

/-- The tables after the writes, and the calls that made them. -/
def performAll (platform : Platform) : List Write → List Moment → Db → List Moment × Db
  | [], past, db => (past, db)
  | input :: rest, past, db =>
      performAll platform rest (⟨db, .write sampleSurroundings input⟩ :: past)
        ((Call.write sampleSurroundings input).perform platform db).2

theorem performAll_run {inputs : List Write} {past : List Moment} {db : Db} (run : Run platform past db) :
    Run platform (performAll platform inputs past db).1 (performAll platform inputs past db).2 := by
  induction inputs generalizing past db with
  | nil => exact run
  | cons input rest ih => exact ih (.step run _)

theorem performAll_mem {inputs : List Write} {past : List Moment} {db : Db} {moment : Moment}
    (member : moment ∈ (performAll platform inputs past db).1) :
    moment ∈ past ∨ ∃ input ∈ inputs, moment.call = .write sampleSurroundings input := by
  induction inputs generalizing past db with
  | nil => exact .inl member
  | cons input rest ih =>
      rcases ih member with before | ⟨other, inside, same⟩
      · rcases List.mem_cons.mp before with rfl | earlier
        · exact .inr ⟨input, List.mem_cons_self, rfl⟩
        · exact .inl earlier
      · exact .inr ⟨other, List.mem_cons_of_mem _ inside, same⟩

/-- The tasks of the sample: any status, with or without the time of its completion. -/
def stampedTask (status : TaskStatus) (stamp : Option Timestamp) : Task :=
  { sampleTask status with completedAt := stamp }

def stamps : List (Option Timestamp) := [none, some .epoch]

theorem parse_stampedTask (status : TaskStatus) {stamp : Option Timestamp} (listed : stamp ∈ stamps)
    (stamped : status = .completed → stamp ≠ none) : (stampedTask status stamp).parse = some (stampedTask status stamp) := by
  obtain ⟨objective, criteria⟩ := sampleTexts_read
  have refined : (stampedTask status stamp).Refined := by
    refine ⟨(Option.some_ne_none _).symm, stamped, fun started member => absurd member (Option.not_mem_none started),
      fun ended member => ?_⟩
    simp only [stamps, List.mem_cons, List.not_mem_nil, or_false] at listed
    rcases listed with rfl | rfl
    · exact absurd member (Option.not_mem_none ended)
    · cases member
      exact le_refl _
  have nonempty : (stampedTask status stamp).acceptanceCriteria ≠ [] := List.cons_ne_nil _ _
  exact parse_of_trimmed objective criteria rfl nonempty rfl refined

def sampleInputs : List Write := sampleWrites (planPayload samplePlan) sampleStep sampleEvidence (js "A")

/-- The task that a write of the sample carries. -/
theorem sampleInputs_task {input : Write} (member : input ∈ sampleInputs) :
    ∃ status stamp, stamp ∈ stamps ∧ (status = .completed → stamp ≠ none) ∧
      input.task = stampedTask status stamp := by
  simp only [sampleInputs, sampleWrites, List.mem_cons, List.not_mem_nil, or_false] at member
  rcases member with rfl | rfl | rfl | rfl | rfl | rfl
  · exact ⟨.received, none, List.mem_cons_self, nofun, rfl⟩
  · exact ⟨.compiled, none, List.mem_cons_self, nofun, rfl⟩
  · exact ⟨.ready, none, List.mem_cons_self, nofun, rfl⟩
  · exact ⟨.running, none, List.mem_cons_self, nofun, rfl⟩
  · exact ⟨.verifying, none, List.mem_cons_self, nofun, rfl⟩
  · exact ⟨.completed, some .epoch, List.mem_cons_of_mem _ List.mem_cons_self, fun _ => Option.some_ne_none _, rfl⟩

theorem valid_stampedTask {input : Write} {admitted : Admitted} (member : input ∈ sampleInputs)
    (valid : Valid input admitted) : ∃ status stamp, stamp ∈ stamps ∧ (status = .completed → stamp ≠ none) ∧
      admitted.task = stampedTask status stamp := by
  obtain ⟨status, stamp, listed, stamped, given⟩ := sampleInputs_task member
  have read := valid.task
  rw [given, parse_stampedTask status listed stamped] at read
  exact ⟨status, stamp, listed, stamped, (Option.some.inj read).symm⟩

def sampleStatuses : List TaskStatus :=
  [.received, .compiled, .ready, .running, .waiting, .approvalRequired, .verifying, .completed, .failed, .cancelled]

/-- The requests of the sample, and its task in every status. -/
def completionValues : List Json :=
  sampleInputs.map Write.toJson ++
    sampleStatuses.flatMap fun status => stamps.map fun stamp => Task.toJson (stampedTask status stamp)

theorem task_mem_values (status : TaskStatus) (stamp : Option Timestamp) (listed : stamp ∈ stamps) :
    Task.toJson (stampedTask status stamp) ∈ completionValues := by
  refine List.mem_append_right _ (List.mem_flatMap.mpr ⟨status, ?_, List.mem_map_of_mem listed⟩)
  cases status <;> simp [sampleStatuses]

def sampleRun : List Moment × Db := performAll checksumPlatform sampleInputs [] .empty

theorem sampleRun_run : Run checksumPlatform sampleRun.1 sampleRun.2 := performAll_run .start

theorem sampleRun_call {moment : Moment} (member : moment ∈ sampleRun.1) :
    ∃ input ∈ sampleInputs, moment.call = .write sampleSurroundings input := by
  rcases performAll_mem member with impossible | found
  · cases impossible
  · exact found

/-- What a call of the sample was sent comes from its writes. -/
theorem sampleRun_sent (carries : Write → Admitted → Prop) {moment : Moment} (member : moment ∈ sampleRun.1)
    (sent : ∀ earlier, Run checksumPlatform earlier moment.before → SentBy earlier carries) :
    ∃ input ∈ sampleInputs, ∃ admitted, Valid input admitted ∧ carries input admitted := by
  obtain ⟨earlier, earlierRun, included⟩ := run_before sampleRun_run member
  obtain ⟨other, inside, around, input, admitted, writes, valid, carried⟩ := sent earlier earlierRun
  obtain ⟨given, listed, call⟩ := sampleRun_call (included other (List.mem_cons_of_mem _ inside))
  rw [call] at writes
  cases writes
  exact ⟨input, listed, admitted, valid, carried⟩

theorem sampleRun_task {moment : Moment} (member : moment ∈ sampleRun.1) {task : Task}
    (stored : task ∈ moment.before.tasks) : ∃ status stamp, stamp ∈ stamps ∧
      (status = .completed → stamp ≠ none) ∧ task = stampedTask status stamp := by
  obtain ⟨input, listed, admitted, valid, same⟩ := sampleRun_sent (fun _ admitted => admitted.task = task) member
    fun earlier run => (sent_run run).tasks task stored
  rw [← same]
  exact valid_stampedTask listed valid

theorem digested_sample {moment : Moment} (member : moment ∈ sampleRun.1) {value : Json}
    (digested : Digested moment value) : value ∈ completionValues := by
  obtain ⟨input, listed, call⟩ := sampleRun_call member
  cases digested with
  | request writes =>
      rw [call] at writes
      cases writes
      exact List.mem_append_left _ (List.mem_map_of_mem listed)
  | given writes valid =>
      rw [call] at writes
      cases writes
      obtain ⟨status, stamp, stampListed, -, same⟩ := valid_stampedTask listed valid
      rw [same]
      exact task_mem_values status stamp stampListed
  | @expected around input' admitted old original task writes valid found read changed =>
      rw [call] at writes
      cases writes
      obtain ⟨status, stamp, stampListed, stamped, same⟩ := valid_stampedTask listed valid
      obtain ⟨before, mark, markListed, marked, oldSame⟩ := sampleRun_task member (task?_mem found)
      have self : old.parse = some old := by
        rw [oldSame]
        exact parse_stampedTask before markListed marked
      cases read.symm.trans self
      rw [parse_redefined self changed, oldSame, same]
      simp only [stamps, List.mem_cons, List.not_mem_nil, or_false] at stampListed markListed
      rcases stampListed with rfl | rfl
      · rcases markListed with rfl | rfl
        · exact task_mem_values status none List.mem_cons_self
        · exact task_mem_values status (some .epoch) (List.mem_cons_of_mem _ List.mem_cons_self)
      · exact task_mem_values status (some .epoch) (List.mem_cons_of_mem _ List.mem_cons_self)

theorem checksum_lt (text : JsString) : checksum text < 65521 := by
  unfold checksum
  induction text using List.reverseRecOn with
  | nil => decide
  | append_singleton rest unit ih =>
      rw [List.foldl_append]
      exact Nat.mod_lt _ (by decide)

/-- Texts of one digest have one checksum. -/
theorem checksum_of_hash {first second : JsString} (same : checksumHash first = checksumHash second) :
    checksum first = checksum second := by
  have one := congrArg Fin.val (congrFun same 0)
  have two := congrArg Fin.val (congrFun same 1)
  have three := congrArg Fin.val (congrFun same 2)
  have four := congrArg Fin.val (congrFun same 3)
  have small := checksum_lt first
  have small' := checksum_lt second
  change checksum first % 16 = checksum second % 16 at one
  change checksum first / 16 % 16 = checksum second / 16 % 16 at two
  change checksum first / 256 % 16 = checksum second / 256 % 16 at three
  change checksum first / 4096 % 16 = checksum second / 4096 % 16 at four
  omega

theorem apart_of_checksums {values : List Json} (apart : (values.map fun value => checksum value.stringify).Nodup)
    {one other : Json} (here : one ∈ values) (there : other ∈ values)
    (same : digest checksumPlatform.sha256 one = digest checksumPlatform.sha256 other) : one = other :=
  List.inj_on_of_nodup_map apart here there (checksum_of_hash same)

/-- The values that verifying the sample digests. -/
def verifiedValues : List Json := [planJson samplePlan, TaskStep.toJson sampleStep]

/-- What the sample evaluates to. -/
theorem sampleRun_evaluated : (completionValues.map fun value => checksum value.stringify).Nodup ∧
    (verifiedValues.map fun value => checksum value.stringify).Nodup ∧
    sampleRun.2.task? sampleTaskId = some completedTask := by
  decide +kernel

theorem sampleRun_apart : NoCollision checksumPlatform sampleRun.1 := by
  intro first here second there one other oneDigested otherDigested same
  exact apart_of_checksums sampleRun_evaluated.1 (digested_sample here oneDigested) (digested_sample there otherDigested) same

/-! #### What verifying the sample digests -/

theorem readPlan_sample : ((readPlan (planJson samplePlan)).map fun plan =>
    (plan.taskId, plan.recipe, plan.steps, plan.resultStepId)) =
      some (samplePlan.taskId, samplePlan.recipe, samplePlan.steps, samplePlan.resultStepId) := by
  decide +kernel

theorem plan_ext {first second : ExecutionPlan} (taskId : first.taskId = second.taskId)
    (recipe : first.recipe = second.recipe) (steps : first.steps = second.steps)
    (result : first.resultStepId = second.resultStepId) : first = second := by
  cases first
  cases second
  cases taskId
  cases recipe
  cases steps
  cases result
  rfl

theorem planned_sample {status : TaskStatus} {stamp : Option Timestamp} {recipe : Recipe} {plan : ExecutionPlan}
    (self : (stampedTask status stamp).parse = some (stampedTask status stamp))
    (planned : planTask checksumPlatform (stampedTask status stamp) recipe = some plan) : plan = samplePlan := by
  obtain ⟨taskId, recipeSame, steps, result, criterion⟩ := planTask_resultStep self planned
  have uppercase : recipe = .uppercase := (criteria_injective (List.cons.inj criterion).1).symm
  subst uppercase
  exact plan_ext taskId recipeSame steps result

theorem parse_step_of_trimmed {step : TaskStep}
    (capabilities : step.requiredCapabilities.mapM CapabilityRef.parse = some step.requiredCapabilities)
    (key : parseOptional parseText step.idempotencyKey = some step.idempotencyKey)
    (fits : 1 ≤ step.retryPolicy.maxAttempts ∧ step.timeout ≠ some 0 ∧ step.id ∉ step.dependencies) :
    step.parse = some step := by
  simp only [TaskStep.parse, capabilities, key, Option.bind_eq_bind, Option.bind_some]
  exact if_pos fits

theorem sampleStep_key : parseOptional parseText sampleStep.idempotencyKey = some sampleStep.idempotencyKey := by
  decide +kernel

theorem parse_sampleStep : sampleStep.parse = some sampleStep :=
  parse_step_of_trimmed rfl sampleStep_key ⟨le_refl _, (Option.some_ne_none _).symm, List.not_mem_nil⟩

/-- The steps that a write of the sample carries. -/
theorem sampleInputs_steps {input : Write} (member : input ∈ sampleInputs) {admitted : Admitted}
    (valid : Valid input admitted) : ∀ step ∈ admitted.steps, step = sampleStep := by
  obtain ⟨step, stepRead, stepsRead⟩ := valid.read
  have given : input.steps = none ∧ (input.step = none ∨ input.step = some sampleStep) := by
    simp only [sampleInputs, sampleWrites, List.mem_cons, List.not_mem_nil, or_false] at member
    rcases member with rfl | rfl | rfl | rfl | rfl | rfl
    · exact ⟨rfl, .inl rfl⟩
    · exact ⟨rfl, .inl rfl⟩
    · exact ⟨rfl, .inl rfl⟩
    · exact ⟨rfl, .inr rfl⟩
    · exact ⟨rfl, .inl rfl⟩
    · exact ⟨rfl, .inl rfl⟩
  rw [given.1] at stepsRead
  rcases given.2 with absent | present
  · rw [absent] at stepRead
    cases stepRead
    have empty : admitted.steps = [] := (Option.some.inj stepsRead).symm
    rw [empty]
    exact fun _ inside => absurd inside List.not_mem_nil
  · rw [present] at stepRead
    obtain ⟨found, rfl, read⟩ := parseOptional_of_some stepRead
    cases read.symm.trans parse_sampleStep
    simp only [Option.getD_none, List.nil_append, Option.toList_some, List.mapM_cons, List.mapM_nil,
      parse_sampleStep, Option.pure_def, Option.bind_eq_bind, Option.bind_some, Option.some.injEq] at stepsRead
    rw [← stepsRead]
    exact fun _ inside => List.mem_singleton.mp inside

/-- The payload of a write of the sample names its plan, or none. -/
theorem sampleInputs_payload {input : Write} (member : input ∈ sampleInputs) {raw : Json}
    (given : input.event.payload.field? (js "plan") = some raw) : raw = planJson samplePlan := by
  have named : (planPayload samplePlan).field? (js "plan") = some (planJson samplePlan) := by
    simp [planPayload, Json.field?, JsMap.lookupEntry]
  simp only [sampleInputs, sampleWrites, List.mem_cons, List.not_mem_nil, or_false] at member
  rcases member with rfl | rfl | rfl | rfl | rfl | rfl
  · cases given
  · exact Option.some.inj (given.symm.trans named)
  · cases given
  · cases given
  · cases given
  · cases given

def sampleNode : PlanStep := planStep checksumPlatform sampleTaskId .uppercase 0 .uppercase

theorem execute_sample (status : TaskStatus) (stamp : Option Timestamp) :
    execute checksumPlatform (stampedTask status stamp) samplePlan.steps [] =
      .ok [⟨sampleNode, js "a", js "A"⟩] := by
  have upper : checksumPlatform.toUpperCase (trim (js "a")) = js "A" := by
    decide
  have input : resolveInput sampleNode (stampedTask status stamp) [] = .ok (js "a") :=
    @resolve_first checksumPlatform (stampedTask status stamp) .uppercase .uppercase []
  have output : runOperation checksumPlatform sampleNode.operation (js "a") = .ok (js "A") := congrArg Except.ok upper
  have nodes : samplePlan.steps = [sampleNode] := rfl
  rw [nodes, execute, input, ok_bind, output, ok_bind]
  rfl

theorem step_sample : Executed.step? ⟨sampleNode, js "a", js "A"⟩ = some sampleStep := by
  have projected : projectStep sampleNode = some (
      { sampleStep with status := .ready, input := sampleNode.input.toJson, output := none } : TaskStep) :=
    parse_step_of_trimmed rfl sampleStep_key ⟨le_refl _, (Option.some_ne_none _).symm, List.not_mem_nil⟩
  rw [Executed.step?, patchedStep, projected, Option.bind_some]
  exact parse_sampleStep

theorem sampleRun_values {moment : Moment} (member : moment ∈ sampleRun.1) {value : Json}
    (digested : CompletionDigested checksumPlatform moment.before value) : value ∈ verifiedValues := by
  cases digested with
  | @persistedPlan row raw plan stored given read =>
      obtain ⟨input, listed, admitted, valid, same⟩ :=
        sampleRun_sent (fun input _ => input.event.payload = row.payload) member
          fun earlier run => (sent_run run).payloads row stored
      rw [← same] at given
      rw [sampleInputs_payload listed given] at read
      have parts := readPlan_sample
      rw [read, Option.map_some, Option.some.injEq, Prod.mk.injEq, Prod.mk.injEq, Prod.mk.injEq] at parts
      rw [plan_ext parts.1 parts.2.1 parts.2.2.1 parts.2.2.2]
      exact List.mem_cons_self
  | @plannedTask task recipe plan stored planned =>
      obtain ⟨status, stamp, listed, stamped, rfl⟩ := sampleRun_task member stored
      rw [planned_sample (parse_stampedTask status listed stamped) planned]
      exact List.mem_cons_self
  | @persistedStep row step stored read =>
      obtain ⟨input, listed, admitted, valid, carried⟩ :=
        sampleRun_sent (fun _ admitted => row ∈ admitted.steps) member
          fun earlier run => (sent_run run).steps row stored
      rw [sampleInputs_steps listed valid row carried] at read
      cases read.symm.trans parse_sampleStep
      exact List.mem_cons_of_mem _ List.mem_cons_self
  | @executedStep task recipe plan executed item step stored planned ran inside given =>
      obtain ⟨status, stamp, listed, stamped, rfl⟩ := sampleRun_task member stored
      rw [planned_sample (parse_stampedTask status listed stamped) planned, execute_sample] at ran
      cases ran
      rw [List.mem_singleton.mp inside] at given
      cases given.symm.trans step_sample
      exact List.mem_cons_of_mem _ List.mem_cons_self

theorem sampleRun_verifies : CompletionApart checksumPlatform sampleRun.1 := by
  intro moment member one other oneDigested otherDigested same
  exact apart_of_checksums sampleRun_evaluated.2.1 (sampleRun_values member oneDigested) (sampleRun_values member otherDigested) same

theorem sampleRun_completed : sampleRun.2.task? sampleTaskId = some completedTask :=
  sampleRun_evaluated.2.2

theorem sampleRun_sound : ∃ moment ∈ sampleRun.1, ∃ old outcome row,
    Completing checksumPlatform moment sampleRun.2 sampleTaskId old completedTask outcome row :=
  completed_sound sampleRun_run sampleRun_apart sampleRun_verifies sampleRun_completed rfl

/-! #### A sample without a plan -/

/-- The step and the evidence of the fixed recipe. -/
def fixedStep : TaskStep :=
  { sampleStep with input := .str (js "A"), idempotencyKey := some (sampleTaskId.text ++ js ":B") }

def fixedEvidence : Evidence where
  id := sampleEvidenceId
  taskId := sampleTaskId
  stepId := some sampleStepId
  type := .deterministicResult
  source := js "kerneljson:uppercase-reverse/v1"
  ref := none
  uri := none
  digest := some (hexText (digest checksumPlatform.sha256 (fixedMetadata checksumPlatform (sampleTask .running))))
  capturedAt := .epoch
  metadata := fixedMetadata checksumPlatform (sampleTask .running)

def plainRun : List Moment × Db :=
  performAll checksumPlatform (sampleWrites (.obj []) fixedStep fixedEvidence (js "anything")) [] .empty

/-- A task of a deterministic recipe is COMPLETED although no plan of it was persisted. -/
theorem completed_without_plan :
    ¬ ∀ past db, Run checksumPlatform past db → ∀ id task recipe, db.task? id = some task →
      task.status = .completed → Deterministic recipe → task.acceptanceCriteria = [criteria recipe] →
      ∃ outcome row plan, db.outcome? id = some outcome ∧ db.planEvents id = [row] ∧
        (row.payload.field? (js "plan")).bind readPlan = some plan ∧
        planTask checksumPlatform task recipe = some plan ∧
        outcome.summary = recipeResult checksumPlatform recipe task.objective := by
  intro claimed
  have completed : plainRun.2.task? sampleTaskId = some completedTask ∧
      (plainRun.2.planEvents sampleTaskId).all (fun row => (row.payload.field? (js "plan")).isNone) = true := by
    decide +kernel
  obtain ⟨outcome, row, plan, -, rows, read, -, -⟩ :=
    claimed plainRun.1 plainRun.2 (performAll_run .start) sampleTaskId completedTask .uppercase completed.1 rfl
      (.inl rfl) rfl
  have absent := completed.2
  rw [rows, List.all_cons, List.all_nil, Bool.and_true, Option.isNone_iff_eq_none] at absent
  rw [absent] at read
  cases read

end KernelJson.Ledger.Completion
