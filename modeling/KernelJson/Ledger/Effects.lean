import KernelJson.Ledger.Store

/-!
# What a write does

A write that commits was one of three: the repetition of a stored one, the
first of a task, or a later one.  Each case carries the checks that it passed
and the tables that it left; everything else about the ledger follows from it.
-/

namespace KernelJson.Ledger.Effects

open Contracts.Common
open Contracts.Digest
open Contracts.Outcome
open Contracts.Platform
open Contracts.Records
open Contracts.Task
open Foundation.Transactions
open Ledger.Store

/-! ## Checks that passed -/

theorem demand_ok {holds : Prop} [Decidable holds] {fault : Fault} (passed : demand holds fault = .ok ()) :
    holds := by
  unfold demand at passed
  by_cases given : holds
  · exact given
  · rw [if_neg given] at passed
    cases passed

theorem demand_pass {holds : Prop} [Decidable holds] {fault : Fault} (given : holds) :
    demand holds fault = .ok () :=
  if_pos given

theorem orError_ok {α : Type} {value : Option α} {message : String} {found : α}
    (given : orError value message = .ok found) : value = some found := by
  cases value with
  | none => cases given
  | some other =>
      cases given
      rfl

theorem parseOptional_some {α : Type} {read : α → Option α} {value : Option α} {parsed : Option α}
    (given : parseOptional read value = some parsed) {found : α} (present : parsed = some found) :
    ∃ raw, value = some raw ∧ read raw = some found := by
  cases value with
  | none =>
      cases given
      cases present
  | some raw =>
      obtain ⟨one, readHere, same⟩ := Option.map_eq_some_iff.mp given
      rw [present] at same
      cases same
      exact ⟨raw, rfl, readHere⟩

theorem parseOptional_of_some {α : Type} {read : α → Option α} {raw : α} {parsed : Option α}
    (given : parseOptional read (some raw) = some parsed) : ∃ found, parsed = some found ∧ read raw = some found := by
  obtain ⟨found, readHere, same⟩ := Option.map_eq_some_iff.mp given
  exact ⟨found, same.symm, readHere⟩

/-- What the checks before the transaction establish. -/
structure Valid (input : Write) (admitted : Admitted) : Prop where
  task : input.task.parse = some admitted.task
  event : input.event.taskId = admitted.task.id ∧ input.event.traceId = admitted.task.traceId ∧
    input.event.actor.id = admitted.task.principal.id
  distinct : (admitted.steps.map TaskStep.id).Nodup
  steps : ∀ step ∈ admitted.steps, step.taskId = admitted.task.id
  read : ∃ step, parseOptional TaskStep.parse input.step = some step ∧
    (input.steps.getD [] ++ step.toList).mapM TaskStep.parse = some admitted.steps
  evidence : parseOptional Evidence.parse input.evidence = some admitted.evidence
  outcome : parseOptional Outcome.parse input.outcome = some admitted.outcome
  ofTask : ∀ found ∈ admitted.evidence, found.taskId = admitted.task.id

theorem validate_ok {input : Write} {admitted : Admitted} (passed : input.validate = .ok admitted) :
    Valid input admitted := by
  unfold Write.validate at passed
  obtain ⟨task, taskRead, passed⟩ := bind_ok passed
  obtain ⟨⟨⟩, matched, passed⟩ := bind_ok passed
  obtain ⟨step, stepRead, passed⟩ := bind_ok passed
  obtain ⟨steps, stepsRead, passed⟩ := bind_ok passed
  obtain ⟨⟨⟩, batch, passed⟩ := bind_ok passed
  obtain ⟨evidence, evidenceRead, passed⟩ := bind_ok passed
  obtain ⟨outcome, outcomeRead, passed⟩ := bind_ok passed
  obtain ⟨⟨⟩, belongs, passed⟩ := bind_ok passed
  cases passed
  exact
    { task := orError_ok taskRead
      event := demand_ok matched
      distinct := (demand_ok batch).1
      steps := (demand_ok batch).2
      read := ⟨step, orError_ok stepRead, orError_ok stepsRead⟩
      evidence := orError_ok evidenceRead
      outcome := orError_ok outcomeRead
      ofTask := demand_ok belongs }

section Valid

variable {input : Write} {admitted : Admitted}

theorem Valid.task_again (valid : Valid input admitted) : admitted.task.parse = some admitted.task :=
  Task.parse_again valid.task

theorem Valid.id (valid : Valid input admitted) : admitted.task.id = input.task.id :=
  (Task.parse_keeps valid.task).1

/-- An outcome that a write carries is read before anything is stored. -/
theorem Valid.outcome_read (valid : Valid input admitted) :
    input.outcome.bind Outcome.parse = admitted.outcome := by
  have read := valid.outcome
  cases given : input.outcome with
  | none =>
      rw [given] at read
      exact (Option.some.inj read)
  | some raw =>
      rw [given] at read
      obtain ⟨found, present, here⟩ := parseOptional_of_some read
      rw [present]
      exact here

theorem Valid.outcome_again (valid : Valid input admitted) {outcome : Outcome}
    (present : admitted.outcome = some outcome) : outcome.parse = some outcome := by
  obtain ⟨raw, -, read⟩ := parseOptional_some valid.outcome present
  exact Outcome.parse_again read

end Valid

/-! ## The three kinds of writes -/

/-- The event that a write appends. -/
def eventRow (platform : Platform) (input : Write) (admitted : Admitted) : EventRow :=
  ⟨input.event.id.column, admitted.task.id.column, input.event.stepId.map Id.column, input.key,
    requestDigest platform input, input.event.type, input.event.occurredAt, input.event.actor.id.column,
    input.event.traceId.column, input.event.payload⟩

/-- The tables after the steps, the evidence, the event and the outcome of a write. -/
structure Projected (platform : Platform) (input : Write) (admitted : Admitted) (moved after : Db) : Prop where
  tasks : after.tasks = moved.tasks
  terminalResults : after.terminalResults = moved.terminalResults
  steps : after.steps = admitted.steps.foldl upsertStep moved.steps
  evidence : after.evidence = moved.evidence ++ (admitted.evidence.map evidenceRow).toList
  events : after.events = moved.events ++ [eventRow platform input admitted]
  outcomes : after.outcomes = moved.outcomes ++
    (admitted.outcome.map fun outcome => ⟨input.event.id.column, outcome⟩).toList
  freshEvidence : ∀ found ∈ admitted.evidence, ∀ row ∈ moved.evidence, row.id ≠ found.id.column
  onlyOutcome : ∀ outcome ∈ admitted.outcome, outcome.taskId = admitted.task.id.column ∧
    ∀ row ∈ moved.outcomes, row.contract.taskId ≠ admitted.task.id.column
  canonicalSteps : ∀ step ∈ admitted.steps, step.id.column = step.id ∧ step.taskId.column = step.taskId

variable {platform : Platform}

theorem project_ok {hash : HexDigest} {input : Write} {admitted : Admitted} {moved after : Db}
    (same : hash = requestDigest platform input)
    (done : project hash input.key admitted input.event moved = .ok after) :
    Projected platform input admitted moved after := by
  subst same
  unfold project at done
  obtain ⟨⟨⟩, steps, done⟩ := bind_ok done
  obtain ⟨⟨⟩, evidence, done⟩ := bind_ok done
  obtain ⟨⟨⟩, event, done⟩ := bind_ok done
  obtain ⟨⟨⟩, outcome, done⟩ := bind_ok done
  cases done
  exact
    { tasks := rfl
      terminalResults := rfl
      steps := rfl
      evidence := rfl
      events := rfl
      outcomes := rfl
      freshEvidence := fun found member row inside => (demand_ok evidence found member).1 row inside
      onlyOutcome := fun found member => ⟨(demand_ok outcome found member).1,
        fun row inside => ((demand_ok outcome found member).2 row inside).2⟩
      canonicalSteps := demand_ok steps }

/-- The tables after a task was created. -/
def Db.withTask (db : Db) (task : Task) : Db := { db with tasks := db.tasks ++ [task] }

/-- The tables after a task was updated. -/
def Db.withUpdate (db : Db) (task : Task) (updatedAt : Timestamp) : Db :=
  { db with
    tasks := db.tasks.map fun row => if row.id = task.id then task else row
    terminalResults := recordTerminalResult task updatedAt db.terminalResults }

/-- The checks of a later write of a task. -/
structure Advances (platform : Platform) (around : Surroundings) (input : Write) (admitted : Admitted) (db : Db)
    (old : Task) : Prop where
  redefined : ∃ original expected, old.parse = some original ∧
    (redefined original admitted.task).parse = some expected ∧
    digest platform.sha256 (Task.toJson expected) = digest platform.sha256 (Task.toJson admitted.task)
  moves : old.status = admitted.task.status ∨ Transition old.status admitted.task.status
  verified : admitted.task.status = .completed →
    verifyCompletion platform around db old admitted.task input.event admitted.outcome = .ok ()
  isOpen : ¬ old.status.Terminal
  keeps : KeepsColumns old admitted.task

/-- What a write that committed did. -/
inductive Effect (platform : Platform) (around : Surroundings) (input : Write) (db : Db) : Db → Prop where
  | replayed {admitted : Admitted} {prior : EventRow} (valid : Valid input admitted)
      (found : db.event? admitted.task.id input.key = some prior)
      (same : prior.requestDigest = requestDigest platform input) : Effect platform around input db db
  | created {admitted : Admitted} {after : Db} (valid : Valid input admitted)
      (unused : db.event? admitted.task.id input.key = none) (absent : db.task? admitted.task.id = none)
      (received : admitted.task.status = .received) (canonical : admitted.task.id.column = admitted.task.id)
      (projected : Projected platform input admitted (Db.withTask db admitted.task) after) :
      Effect platform around input db after
  | advanced {admitted : Admitted} {old : Task} {after : Db} (valid : Valid input admitted)
      (unused : db.event? admitted.task.id input.key = none) (found : db.task? admitted.task.id = some old)
      (advances : Advances platform around input admitted db old)
      (projected : Projected platform input admitted
        (Db.withUpdate db admitted.task input.event.occurredAt) after) :
      Effect platform around input db after

theorem create_ok {around : Surroundings} {admitted : Admitted} {event : TaskEvent} {db moved : Db}
    (done : create around admitted event db = .ok moved) :
    moved = Db.withTask db admitted.task ∧ admitted.task.status = .received ∧
      admitted.task.id.column = admitted.task.id := by
  unfold create at done
  obtain ⟨⟨⟩, begins, done⟩ := bind_ok done
  obtain ⟨⟨⟩, -, done⟩ := bind_ok done
  obtain ⟨⟨⟩, columns, done⟩ := bind_ok done
  cases done
  exact ⟨rfl, (demand_ok begins).1, (demand_ok columns).1⟩

theorem advance_ok {around : Surroundings} {input : Write} {admitted : Admitted} {old : Task} {db moved : Db}
    (done : advance platform around admitted input.event old db = .ok moved) :
    moved = Db.withUpdate db admitted.task input.event.occurredAt ∧
      Advances platform around input admitted db old := by
  unfold advance at done
  obtain ⟨original, originalRead, done⟩ := bind_ok done
  obtain ⟨expected, expectedRead, done⟩ := bind_ok done
  obtain ⟨⟨⟩, immutable, done⟩ := bind_ok done
  obtain ⟨⟨⟩, moves, done⟩ := bind_ok done
  obtain ⟨⟨⟩, verified, done⟩ := bind_ok done
  obtain ⟨⟨⟩, still, done⟩ := bind_ok done
  obtain ⟨⟨⟩, keeps, done⟩ := bind_ok done
  cases done
  refine ⟨rfl, ⟨original, expected, orError_ok originalRead, orError_ok expectedRead, demand_ok immutable⟩,
    demand_ok moves, fun completed => ?_, demand_ok still, demand_ok keeps⟩
  rwa [checkCompletion, if_pos completed] at verified

theorem answerPrior_ok {input : Write} {prior : EventRow} {db after : Db}
    (done : answerPrior platform input prior db = .ok ((), after)) :
    after = db ∧ prior.requestDigest = requestDigest platform input := by
  unfold answerPrior at done
  obtain ⟨⟨⟩, same, done⟩ := bind_ok done
  cases done
  exact ⟨rfl, demand_ok same⟩

theorem recordNew_ok {around : Surroundings} {input : Write} {admitted : Admitted} {db after : Db}
    (done : recordNew platform around input admitted db = .ok ((), after)) :
    ∃ moved, move platform around admitted input.event db = .ok moved ∧
      Projected platform input admitted moved after := by
  unfold recordNew at done
  obtain ⟨moved, moving, done⟩ := bind_ok done
  obtain ⟨projected, projecting, done⟩ := bind_ok done
  obtain ⟨⟨⟩, stores, done⟩ := bind_ok done
  obtain ⟨⟨⟩, stands, done⟩ := bind_ok done
  cases done
  exact ⟨moved, moving, project_ok rfl projecting⟩

theorem record_ok {around : Surroundings} {input : Write} {db after : Db}
    (done : record platform around input db = .ok ((), after)) : Effect platform around input db after := by
  unfold record at done
  obtain ⟨admitted, validated, done⟩ := bind_ok done
  have valid := validate_ok validated
  cases used : db.event? admitted.task.id input.key with
  | some prior =>
      simp only [used] at done
      obtain ⟨rfl, same⟩ := answerPrior_ok done
      exact .replayed valid used same
  | none =>
      simp only [used] at done
      obtain ⟨moved, moving, projected⟩ := recordNew_ok done
      unfold move at moving
      cases stored : db.task? admitted.task.id with
      | none =>
          simp only [stored] at moving
          obtain ⟨rfl, received, canonical⟩ := create_ok moving
          exact .created valid used stored received canonical projected
      | some old =>
          simp only [stored] at moving
          obtain ⟨rfl, advances⟩ := advance_ok moving
          exact .advanced valid used stored advances projected

/-- A write commits an effect, or changes nothing. -/
theorem write_cases (platform : Platform) (around : Surroundings) (input : Write) (db : Db) :
    (∃ fault, Store.write platform around input db = (.error fault, db)) ∨
      ∃ after, Store.write platform around input db = (.ok (), after) ∧
        Effect platform around input db after := by
  rcases commit_cases (record platform around input) db with ⟨fault, -, same⟩ | ⟨answer, after, ran, same⟩
  · exact .inl ⟨fault, same⟩
  · exact .inr ⟨after, same, record_ok ran⟩

/-! ## What a call does -/

/-- The calls that change the tables do so by one write: their own, or the one that records a failed
verification. -/
inductive Writes : Call → Surroundings → Write → Prop where
  | write (around : Surroundings) (input : Write) : Writes (.write around input) around input
  | finish (first second : Surroundings) (input : Write) : Writes (.finish first second input) first input
  | failed (first second : Surroundings) {input : Write} {outcome : Outcome} {task : Task}
      (outcomeRead : (failedOutcome input).parse = some outcome)
      (taskRead : ({ input.task with status := .failed } : Task).parse = some task) :
      Writes (.finish first second input) second (failedWrite input task outcome)

/-- What a call does to the tables: nothing, or the effect of one of its writes. -/
theorem perform_cases (platform : Platform) (call : Call) (db : Db) :
    (call.perform platform db).2 = db ∨
      ∃ around input, Writes call around input ∧ Effect platform around input db (call.perform platform db).2 := by
  cases call with
  | write around input =>
      rcases write_cases platform around input db with ⟨fault, same⟩ | ⟨after, same, effect⟩
      · left
        simp only [Call.perform, same]
      · right
        refine ⟨around, input, .write around input, ?_⟩
        simpa only [Call.perform, same] using effect
  | finish first second input =>
      simp only [Call.perform, finish]
      cases existing : readOutcome db input.task.id with
      | error fault => exact .inl rfl
      | ok found =>
          cases found with
          | some outcome => exact .inl rfl
          | none =>
              rcases write_cases platform first input db with ⟨fault, same⟩ | ⟨after, same, effect⟩
              · cases fault with
                | error message =>
                    left
                    simp only [same]
                | verification message =>
                    simp only [same, settle]
                    cases outcomeRead : (failedOutcome input).parse with
                    | none => exact .inl rfl
                    | some outcome =>
                        cases taskRead : ({ input.task with status := .failed } : Task).parse with
                        | none => exact .inl rfl
                        | some task =>
                            rcases write_cases platform second (failedWrite input task outcome) db
                              with ⟨fault, failed⟩ | ⟨after, done, effect⟩
                            · left
                              simp only [failed]
                            · right
                              refine ⟨second, _, .failed first second outcomeRead taskRead, ?_⟩
                              simpa only [done] using effect
              · right
                refine ⟨first, input, .finish first second input, ?_⟩
                simpa only [same] using effect

/-- What holds at first, and what every effect keeps, holds after every run. -/
theorem Run.kept (holds : List Moment → Db → Prop) (start : holds [] .empty)
    (idle : ∀ past db call, holds past db → (call.perform platform db).2 = db → holds (⟨db, call⟩ :: past) db)
    (effect : ∀ past db call around input after, holds past db → Writes call around input →
      (call.perform platform db).2 = after → Effect platform around input db after →
      holds (⟨db, call⟩ :: past) after) {past : List Moment} {db : Db} (run : Run platform past db) :
    holds past db := by
  induction run with
  | start => exact start
  | step run call ih =>
      rcases perform_cases platform call _ with same | ⟨around, input, writes, done⟩
      · rw [same]
        exact idle _ _ call ih same
      · exact effect _ _ call around input _ ih writes rfl done

end KernelJson.Ledger.Effects
