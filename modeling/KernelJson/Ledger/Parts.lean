import KernelJson.Ledger.Completion

/-!
# The part of a task in the ledger

A write reads and changes the rows of its own task only, as long as no row of
another task has one of the identifiers that it brings.  So each task sees the
ledger as if it held nothing but this task, whatever the calls on the other
tasks do between its own.
-/

namespace KernelJson.Ledger.Parts

open Contracts.Common
open Contracts.Digest
open Contracts.Outcome
open Contracts.Platform
open Contracts.Records
open Contracts.Task
open Foundation.JsText
open Foundation.Transactions
open Ledger.Completion
open Ledger.Effects
open Ledger.Invariants
open Ledger.Store

/-! ## Rows of one task -/

/-- The rows that belong to a task. -/
def part (db : Db) (id : Id) : Db where
  tasks := db.tasks.filter fun task => task.id = id.column
  steps := db.stepsOf id
  evidence := db.evidence.filter fun evidence => evidence.taskId = id.column
  events := db.events.filter fun row => row.taskId = id.column
  outcomes := db.outcomes.filter fun row => row.contract.taskId = id.column
  terminalResults := db.terminalResults.filter fun result => result.taskId = id.column

/-- A search that accepts rows of a part only finds the same in the part. -/
theorem find?_filter_of_within {α : Type} {rows : List α} {inside accepts : α → Bool}
    (within : ∀ row, accepts row = true → inside row = true) :
    (rows.filter inside).find? accepts = rows.find? accepts := by
  rw [List.find?_filter]
  congr 1
  funext row
  cases given : accepts row with
  | false => simp only [Bool.false_eq_true, and_false, decide_false]
  | true => simp only [within row given, and_self, decide_true]

theorem filter_filter_of_within {α : Type} {rows : List α} {inside accepts : α → Bool}
    (within : ∀ row, accepts row = true → inside row = true) :
    (rows.filter inside).filter accepts = rows.filter accepts := by
  rw [List.filter_filter]
  refine List.filter_congr fun row _ => ?_
  cases given : accepts row with
  | false => rfl
  | true => rw [within row given, Bool.and_self]

section Lookups

variable (db : Db) (id : Id)

theorem part_task? : (part db id).task? id = db.task? id :=
  find?_filter_of_within fun _ given => given

theorem part_event? (key : JsString) : (part db id).event? id key = db.event? id key := by
  refine find?_filter_of_within fun row given => ?_
  rw [decide_eq_true_eq] at given ⊢
  exact given.1

theorem part_stepsOf : (part db id).stepsOf id = db.stepsOf id :=
  filter_filter_of_within fun _ given => given

theorem part_planEvents : (part db id).planEvents id = db.planEvents id := by
  refine filter_filter_of_within fun row given => ?_
  rw [decide_eq_true_eq] at given ⊢
  exact given.1

theorem part_outcome? : (part db id).outcome? id = db.outcome? id :=
  congrArg (Option.map OutcomeRow.contract) (find?_filter_of_within fun _ given => given)

theorem part_terminalResult? : (part db id).terminalResult? id = db.terminalResult? id :=
  find?_filter_of_within fun _ given => given

theorem part_readOutcome : readOutcome (part db id) id = readOutcome db id := by
  simp only [readOutcome, part_task?, part_outcome?, part_terminalResult?]

theorem part_step? (stepId : Id) :
    ((part db id).steps.find? fun step => step.id = stepId ∧ step.taskId = id.column) =
      db.steps.find? fun step => step.id = stepId ∧ step.taskId = id.column := by
  refine find?_filter_of_within fun step given => ?_
  rw [decide_eq_true_eq] at given ⊢
  exact given.2

theorem part_records : (part db id).records id = db.records id := by
  have evidence : ((part db id).evidence.filter fun evidence => evidence.taskId = id.column) =
      db.evidence.filter fun evidence => evidence.taskId = id.column :=
    filter_filter_of_within fun _ given => given
  simp only [Db.records, evidence, part_step?]

theorem part_hasStep (stepId : Id) : (part db id).hasStep id stepId ↔ db.hasStep id stepId := by
  constructor
  · rintro ⟨step, member, named, owner⟩
    exact ⟨step, List.mem_of_mem_filter member, named, owner⟩
  · rintro ⟨step, member, named, owner⟩
    exact ⟨step, List.mem_filter.mpr ⟨member, decide_eq_true owner⟩, named, owner⟩

theorem mem_part_evidence {evidence : Evidence} :
    evidence ∈ (part db id).evidence ↔ evidence ∈ db.evidence ∧ evidence.taskId = id.column := by
  rw [part, List.mem_filter, decide_eq_true_eq]

theorem mem_part_events {row : EventRow} :
    row ∈ (part db id).events ↔ row ∈ db.events ∧ row.taskId = id.column := by
  rw [part, List.mem_filter, decide_eq_true_eq]

theorem mem_part_outcomes {row : OutcomeRow} :
    row ∈ (part db id).outcomes ↔ row ∈ db.outcomes ∧ row.contract.taskId = id.column := by
  rw [part, List.mem_filter, decide_eq_true_eq]

end Lookups

/-! ## Identifiers that a write brings -/

/-- The steps of a write, as they were given. -/
def batch (input : Write) : List TaskStep := input.steps.getD [] ++ input.step.toList

/-- No row of another task has an identifier that the write brings. -/
structure Apart (db : Db) (input : Write) : Prop where
  events : ∀ row ∈ db.events, row.id = input.event.id.column → row.taskId = input.task.id.column
  outcomes : ∀ row ∈ db.outcomes, row.id = input.event.id.column → row.contract.taskId = input.task.id.column
  evidence : ∀ given ∈ input.evidence, ∀ row ∈ db.evidence, row.id = given.id.column →
    row.taskId = input.task.id.column
  steps : ∀ given ∈ batch input, ∀ row ∈ db.steps, row.id = given.id → row.taskId = input.task.id.column

theorem evidence_kept {raw parsed : Evidence} (read : raw.parse = some parsed) :
    parsed.id = raw.id ∧ parsed.taskId = raw.taskId := by
  simp only [Evidence.parse, Option.bind_eq_bind, Option.bind_eq_some_iff] at read
  obtain ⟨source, -, ref, -, accepted⟩ := read
  split at accepted
  · cases accepted
    exact ⟨rfl, rfl⟩
  · cases accepted

theorem step_kept {raw parsed : TaskStep} (read : raw.parse = some parsed) :
    parsed.id = raw.id ∧ parsed.taskId = raw.taskId := by
  obtain ⟨capabilities, key, rfl⟩ := TaskStep.parse_shape read
  exact ⟨rfl, rfl⟩

/-- A step that is admitted was given under its identifier. -/
theorem admitted_given {input : Write} {admitted : Admitted} (valid : Valid input admitted) {step : TaskStep}
    (member : step ∈ admitted.steps) : ∃ given ∈ batch input, given.id = step.id := by
  obtain ⟨single, singleRead, allRead⟩ := valid.read
  obtain ⟨row, inside, read⟩ := PlanSoundness.mem_of_mapM_steps allRead step member
  have same := (step_kept read).1
  rcases List.mem_append.mp inside with listed | alone
  · exact ⟨row, List.mem_append_left _ listed, same.symm⟩
  · rw [Option.mem_toList] at alone
    obtain ⟨raw, given, readRaw⟩ := parseOptional_some singleRead alone
    refine ⟨raw, List.mem_append_right _ ?_, ((step_kept readRaw).1.symm.trans same.symm)⟩
    rw [given]
    exact List.mem_singleton_self raw

/-- Evidence that is admitted was given under its identifier. -/
theorem admitted_evidence {input : Write} {admitted : Admitted} (valid : Valid input admitted)
    {evidence : Evidence} (present : admitted.evidence = some evidence) :
    ∃ given ∈ input.evidence, given.id = evidence.id := by
  obtain ⟨raw, given, read⟩ := parseOptional_some valid.evidence present
  exact ⟨raw, given, (evidence_kept read).1.symm⟩

theorem parse_parent {raw task : Task} (read : raw.parse = some task) : task.parentTaskId = raw.parentTaskId := by
  simp only [Task.parse, Option.bind_eq_bind, Option.bind_eq_some_iff] at read
  obtain ⟨objective, -, criteria, -, constraints, -, accepted⟩ := read
  split at accepted
  · cases accepted
    rfl
  · cases accepted

/-! ## A write on the part of its task -/

theorem map_bind {α β γ : Type} (first : Except Fault α) (rest : α → Except Fault β) (change : β → γ) :
    (first >>= rest).map change = first >>= fun value => (rest value).map change := by
  cases first with
  | error fault => rfl
  | ok value => rfl

/-- Checks that agree, before computations that agree. -/
theorem map_demand {α β : Type} {one other : Prop} [Decidable one] [Decidable other] {fault : Fault}
    {rest : Unit → Except Fault α} {rest' : Unit → Except Fault β} {change : α → β} (same : one ↔ other)
    (agree : one → (rest ()).map change = rest' ()) :
    (demand one fault >>= rest).map change = (demand other fault >>= rest') := by
  by_cases holds : one
  · rw [demand_pass holds, demand_pass (same.mp holds), ok_bind, ok_bind]
    exact agree holds
  · rw [demand, demand, if_neg holds, if_neg (fun given => holds (same.mpr given))]
    rfl

/-- Steps that belong to a task, put among the steps of all. -/
theorem upsertSteps_part {steps : List TaskStep} {id : Id} {stored : List TaskStep}
    (owned : ∀ step ∈ steps, step.taskId = id.column)
    (apart : ∀ step ∈ steps, ∀ row ∈ stored, row.id = step.id → row.taskId = id.column) :
    (steps.foldl upsertStep stored).filter (fun row => row.taskId = id.column) =
      steps.foldl upsertStep (stored.filter fun row => row.taskId = id.column) := by
  induction steps generalizing stored with
  | nil => rfl
  | cons step rest ih =>
      have here := owned step List.mem_cons_self
      have among : (stored.any fun row => row.id = step.id) =
          ((stored.filter fun row => row.taskId = id.column).any fun row => row.id = step.id) := by
        rw [Bool.eq_iff_iff, List.any_eq_true, List.any_eq_true]
        constructor
        · rintro ⟨row, member, named⟩
          have owner := apart step List.mem_cons_self row member (of_decide_eq_true named)
          exact ⟨row, List.mem_filter.mpr ⟨member, decide_eq_true owner⟩, named⟩
        · rintro ⟨row, member, named⟩
          exact ⟨row, List.mem_of_mem_filter member, named⟩
      have single : (upsertStep stored step).filter (fun row => row.taskId = id.column) =
          upsertStep (stored.filter fun row => row.taskId = id.column) step := by
        unfold upsertStep
        rw [← among]
        split
        · rw [List.filter_map]
          congr 1
          refine List.filter_congr fun row _ => ?_
          simp only [Function.comp_apply]
          split
          · next replaced => rw [replaced.2]
          · rfl
        · rw [List.filter_append, List.filter_cons_of_pos (by simpa only [decide_eq_true_eq] using here),
            List.filter_nil]
      rw [List.foldl_cons, List.foldl_cons, ← single]
      refine ih (fun other member => owned other (List.mem_cons_of_mem _ member)) fun other member row inside named => ?_
      have put : row ∈ [step].foldl upsertStep stored := inside
      rcases mem_upsertSteps put with before | added
      · exact apart other (List.mem_cons_of_mem _ member) row before named
      · rw [List.mem_singleton.mp added, here]

theorem forall_filter_iff {α : Type} {rows : List α} {inside : α → Bool} {holds : α → Prop}
    (outside : ∀ row ∈ rows, inside row = false → holds row) :
    (∀ row ∈ rows, holds row) ↔ ∀ row ∈ rows.filter inside, holds row := by
  constructor
  · exact fun all row member => all row (List.mem_of_mem_filter member)
  · intro kept row member
    cases given : inside row with
    | false => exact outside row member given
    | true => exact kept row (List.mem_filter.mpr ⟨member, given⟩)

theorem filter_append_inside {α : Type} {rows more : List α} {inside : α → Bool}
    (all : ∀ row ∈ more, inside row = true) : (rows ++ more).filter inside = rows.filter inside ++ more := by
  rw [List.filter_append, List.filter_eq_self.mpr all]

section Locality

variable {platform : Platform} {around : Surroundings} {input : Write} {admitted : Admitted} {db : Db}

theorem project_part {hash : HexDigest} {key : JsString} (valid : Valid input admitted) (apart : Apart db input) :
    (project hash key admitted input.event db).map (fun after => part after admitted.task.id) =
      project hash key admitted input.event (part db admitted.task.id) := by
  obtain ⟨events, outcomes, evidence, steps⟩ := apart
  rw [← valid.id] at events outcomes evidence steps
  unfold project
  refine map_demand Iff.rfl fun canonical => ?_
  have owned : ∀ step ∈ admitted.steps, step.taskId = admitted.task.id.column := fun step member => by
    rw [← valid.steps step member, (canonical step member).2]
  have stepped : (admitted.steps.foldl upsertStep db.steps).filter
      (fun row => row.taskId = admitted.task.id.column) =
        admitted.steps.foldl upsertStep (part db admitted.task.id).steps :=
    upsertSteps_part owned fun step member row inside named => by
      obtain ⟨given, listed, same⟩ := admitted_given valid member
      exact steps given listed row inside (named.trans same.symm)
  have held (stepId : Id) :
      Db.hasStep { db with steps := admitted.steps.foldl upsertStep db.steps } admitted.task.id stepId ↔
        Db.hasStep { part db admitted.task.id with
          steps := admitted.steps.foldl upsertStep (part db admitted.task.id).steps } admitted.task.id stepId := by
    rw [← part_hasStep]
    unfold Db.hasStep
    rw [← stepped]
    rfl
  refine map_demand ?_ fun _ => ?_
  · refine forall₂_congr fun found present => and_congr ?_ (forall₂_congr fun stepId _ => held stepId)
    refine forall_filter_iff fun row member outside same => ?_
    obtain ⟨given, listed, named⟩ := admitted_evidence valid present
    rw [← named] at same
    exact of_decide_eq_false outside (evidence given listed row member same)
  refine map_demand ?_ fun _ => ?_
  · refine and_congr ?_ (forall₂_congr fun stepId _ => held stepId)
    exact forall_filter_iff fun row member outside same =>
      of_decide_eq_false outside (events row member same)
  refine map_demand ?_ fun named => ?_
  · refine forall₂_congr fun outcome _ => and_congr Iff.rfl ?_
    refine forall_filter_iff fun row member outside => ?_
    exact ⟨fun same => of_decide_eq_false outside (outcomes row member same), of_decide_eq_false outside⟩
  refine congrArg Except.ok ?_
  simp only [part, Db.mk.injEq, true_and, and_true]
  refine ⟨stepped, filter_append_inside ?_, filter_append_inside ?_, filter_append_inside ?_⟩
  · intro row member
    obtain ⟨found, present, rfl⟩ := Option.map_eq_some_iff.mp (Option.mem_toList.mp member)
    exact decide_eq_true (congrArg Id.column (valid.ofTask found present))
  · intro row member
    rw [List.mem_singleton.mp member]
    exact decide_eq_true rfl
  · intro row member
    obtain ⟨outcome, present, rfl⟩ := Option.map_eq_some_iff.mp (Option.mem_toList.mp member)
    exact decide_eq_true (named outcome present).1

theorem verifyCompletion_part {old task : Task} {event : TaskEvent} {outcome : Option Outcome} :
    verifyCompletion platform around (part db task.id) old task event outcome =
      verifyCompletion platform around db old task event outcome := by
  simp only [verifyCompletion, part_records, part_planEvents, part_stepsOf]

theorem create_part {event : TaskEvent} (alone : admitted.task.parentTaskId = none) :
    (create around admitted event db).map (fun after => part after admitted.task.id) =
      create around admitted event (part db admitted.task.id) := by
  unfold create
  refine map_demand Iff.rfl fun _ => map_demand Iff.rfl fun _ => map_demand ?_ fun canonical => ?_
  · refine and_congr Iff.rfl (and_congr Iff.rfl (and_congr Iff.rfl (and_congr Iff.rfl ?_)))
    rw [alone]
    exact ⟨fun _ _ none => absurd none (Option.not_mem_none _), fun _ _ none => absurd none (Option.not_mem_none _)⟩
  · refine congrArg Except.ok ?_
    simp only [part, Db.mk.injEq, and_true]
    refine ⟨filter_append_inside fun task member => ?_, rfl⟩
    rw [List.mem_singleton.mp member]
    exact decide_eq_true canonical.1.symm

theorem recordTerminalResult_part {task : Task} {id : Id} {updatedAt : Timestamp} {results : List Outcome}
    (owned : task.id = id.column) :
    (recordTerminalResult task updatedAt results).filter (fun result => result.taskId = id.column) =
      recordTerminalResult task updatedAt (results.filter fun result => result.taskId = id.column) := by
  unfold recordTerminalResult
  cases triggered task.status with
  | none => rfl
  | some status =>
      have among : (results.any fun result => result.taskId = task.id) =
          ((results.filter fun result => result.taskId = id.column).any fun result => result.taskId = task.id) := by
        rw [List.any_filter, owned]
        simp only [Bool.and_self]
      simp only [← among]
      split
      · rfl
      · refine filter_append_inside fun result member => ?_
        rw [List.mem_singleton.mp member]
        exact decide_eq_true owned

theorem advance_part {event : TaskEvent} {old : Task} (found : db.task? admitted.task.id = some old) :
    (advance platform around admitted event old db).map (fun after => part after admitted.task.id) =
      advance platform around admitted event old (part db admitted.task.id) := by
  unfold advance
  rw [map_bind]
  refine congrArg (bind _) (funext fun original => ?_)
  rw [map_bind]
  refine congrArg (bind _) (funext fun expected => ?_)
  refine map_demand Iff.rfl fun _ => map_demand Iff.rfl fun _ => ?_
  have checks : checkCompletion platform around admitted event old (part db admitted.task.id) =
      checkCompletion platform around admitted event old db := by
    simp only [checkCompletion, verifyCompletion_part]
  rw [map_bind, checks]
  refine congrArg (bind _) (funext fun _ => ?_)
  refine map_demand Iff.rfl fun _ => map_demand Iff.rfl fun keeps => ?_
  have owned : admitted.task.id = admitted.task.id.column := keeps.1.trans (task?_id found)
  refine congrArg Except.ok ?_
  simp only [part, Db.mk.injEq, true_and]
  refine ⟨?_, rfl, recordTerminalResult_part owned⟩
  rw [List.filter_map]
  congr 1
  refine List.filter_congr fun task _ => ?_
  simp only [Function.comp_apply]
  split
  · next same => rw [same]
  · rfl

theorem move_part (alone : admitted.task.parentTaskId = none) :
    (move platform around admitted input.event db).map (fun after => part after admitted.task.id) =
      move platform around admitted input.event (part db admitted.task.id) := by
  unfold move
  rw [part_task?]
  cases found : db.task? admitted.task.id with
  | none => exact create_part alone
  | some old => exact advance_part found

/-- A task that was moved is stored under its identifier. -/
theorem move_owned {moved : Db} (done : move platform around admitted input.event db = .ok moved) :
    admitted.task.id = admitted.task.id.column := by
  unfold move at done
  cases found : db.task? admitted.task.id with
  | none =>
      simp only [found] at done
      exact (create_ok done).2.2.symm
  | some old =>
      simp only [found] at done
      exact (advance_ok done).2.keeps.1.trans (task?_id found)

theorem move_rest {moved : Db} (done : move platform around admitted input.event db = .ok moved) :
    moved.steps = db.steps ∧ moved.evidence = db.evidence ∧ moved.events = db.events ∧
      moved.outcomes = db.outcomes := by
  unfold move at done
  cases found : db.task? admitted.task.id with
  | none =>
      simp only [found] at done
      rw [(create_ok done).1]
      exact ⟨rfl, rfl, rfl, rfl⟩
  | some old =>
      simp only [found] at done
      rw [(advance_ok done).1]
      exact ⟨rfl, rfl, rfl, rfl⟩

theorem completionStands_part {task : Task} (owned : task.id = task.id.column) :
    CompletionStands (part db task.id) task ↔ CompletionStands db task := by
  have evidence (ref : Id) : (∃ evidence ∈ (part db task.id).evidence, evidence.taskId = task.id ∧ evidence.id = ref) ↔
      ∃ evidence ∈ db.evidence, evidence.taskId = task.id ∧ evidence.id = ref := by
    constructor
    · rintro ⟨found, member, rest⟩
      exact ⟨found, List.mem_of_mem_filter member, rest⟩
    · rintro ⟨found, member, named, same⟩
      exact ⟨found, (mem_part_evidence db task.id).mpr ⟨member, named.trans owned⟩, named, same⟩
  have events : (∃ row ∈ (part db task.id).events, row.taskId = task.id ∧ row.type = .taskCompleted) ↔
      ∃ row ∈ db.events, row.taskId = task.id ∧ row.type = .taskCompleted := by
    constructor
    · rintro ⟨row, member, rest⟩
      exact ⟨row, List.mem_of_mem_filter member, rest⟩
    · rintro ⟨row, member, named, same⟩
      exact ⟨row, (mem_part_events db task.id).mpr ⟨member, named.trans owned⟩, named, same⟩
  simp only [CompletionStands, part_outcome?, evidence, events]

theorem Apart.moved {moved : Db} (apart : Apart db input)
    (done : move platform around admitted input.event db = .ok moved) : Apart moved input := by
  obtain ⟨steps, evidence, events, outcomes⟩ := move_rest done
  refine ⟨?_, ?_, ?_, ?_⟩
  · rw [events]
    exact apart.events
  · rw [outcomes]
    exact apart.outcomes
  · rw [evidence]
    exact apart.evidence
  · rw [steps]
    exact apart.steps

theorem recordNew_part (valid : Valid input admitted) (alone : admitted.task.parentTaskId = none)
    (apart : Apart db input) :
    (recordNew platform around input admitted db).map (fun done => (done.1, part done.2 admitted.task.id)) =
      recordNew platform around input admitted (part db admitted.task.id) := by
  unfold recordNew
  rw [← move_part alone]
  cases moving : move platform around admitted input.event db with
  | error fault => rfl
  | ok moved =>
      have owned := move_owned moving
      have projecting := @project_part _ _ _ (requestDigest platform input) input.key valid (apart.moved moving)
      show Except.map _ (project _ _ _ _ moved >>= _) = (project _ _ _ _ (part moved admitted.task.id) >>= _)
      rw [← projecting]
      cases project (requestDigest platform input) input.key admitted input.event moved with
      | error fault => rfl
      | ok projected =>
          show Except.map _ (demand _ _ >>= _) = (demand _ _ >>= _)
          refine map_demand Iff.rfl fun _ => map_demand ?_ fun _ => rfl
          exact imp_congr_right fun _ => (completionStands_part owned).symm

/-- The transaction of a write does on all tables what it does on the part of its task. -/
theorem record_part (alone : input.task.parentTaskId = none) (apart : Apart db input) :
    (record platform around input db).map (fun done => (done.1, part done.2 input.task.id)) =
      record platform around input (part db input.task.id) := by
  unfold record
  cases validated : input.validate with
  | error fault => rfl
  | ok admitted =>
      have valid := validate_ok validated
      have ids := valid.id
      have same : admitted.task.parentTaskId = none := (parse_parent valid.task).trans alone
      show Except.map _ _ = _
      rw [← ids]
      simp only [ok_bind, part_event?]
      cases db.event? admitted.task.id input.key with
      | some prior =>
          unfold answerPrior
          exact map_demand Iff.rfl fun _ => rfl
      | none => exact recordNew_part valid same apart

theorem write_part (alone : input.task.parentTaskId = none) (apart : Apart db input) :
    ((Store.write platform around input db).1, part (Store.write platform around input db).2 input.task.id) =
      Store.write platform around input (part db input.task.id) := by
  have same := @record_part platform around _ _ alone apart
  unfold Store.write commit
  rw [← same]
  cases record platform around input db with
  | error fault => rfl
  | ok done => rfl

theorem Apart.failed (apart : Apart db input) {task : Task} {outcome : Outcome} (same : task.id = input.task.id) :
    Apart db (failedWrite input task outcome) := by
  refine ⟨?_, ?_, ?_, ?_⟩
  · exact fun row member named => (apart.events row member named).trans (congrArg Id.column same.symm)
  · exact fun row member named => (apart.outcomes row member named).trans (congrArg Id.column same.symm)
  · exact fun given present row member named =>
      (apart.evidence given present row member named).trans (congrArg Id.column same.symm)
  · exact fun given present row member named =>
      (apart.steps given present row member named).trans (congrArg Id.column same.symm)

theorem settle_part (alone : input.task.parentTaskId = none) (apart : Apart db input) :
    ((settle platform around input db).1, part (settle platform around input db).2 input.task.id) =
      settle platform around input (part db input.task.id) := by
  unfold settle
  cases (failedOutcome input).parse with
  | none => rfl
  | some outcome =>
      cases taskRead : ({ input.task with status := .failed } : Task).parse with
      | none => rfl
      | some task =>
          have same : task.id = input.task.id := (Task.parse_keeps taskRead).1
          have orphan : task.parentTaskId = none := (parse_parent taskRead).trans alone
          have written : ((Store.write platform around (failedWrite input task outcome) db).1,
              part (Store.write platform around (failedWrite input task outcome) db).2 task.id) =
                Store.write platform around (failedWrite input task outcome) (part db task.id) :=
            write_part orphan (apart.failed same)
          rw [same] at written
          simp only [← written]

theorem finish_part {first second : Surroundings} (alone : input.task.parentTaskId = none)
    (apart : Apart db input) :
    ((finish platform first second input db).1, part (finish platform first second input db).2 input.task.id) =
      finish platform first second input (part db input.task.id) := by
  unfold finish
  rw [part_readOutcome]
  cases readOutcome db input.task.id with
  | error fault => rfl
  | ok found =>
      cases found with
      | some existing => rfl
      | none =>
          have written : ((Store.write platform first input db).1,
              part (Store.write platform first input db).2 input.task.id) =
                Store.write platform first input (part db input.task.id) := write_part alone apart
          rcases write_cases platform first input db with ⟨fault, same⟩ | ⟨after, same, -⟩
          · rw [same] at written
            simp only [same, ← written]
            cases fault with
            | error message => rfl
            | verification message => exact settle_part alone apart
          · rw [same] at written
            simp only [same, ← written]

end Locality

/-! ## Calls -/

/-- A call is answered as if the ledger held its own task alone, and does the same to its part. -/
theorem perform_part {platform : Platform} {call : Call} {db : Db} (alone : call.input.task.parentTaskId = none)
    (apart : Apart db call.input) :
    ((call.perform platform db).1, part (call.perform platform db).2 call.input.task.id) =
      call.perform platform (part db call.input.task.id) := by
  cases call with
  | write around input =>
      have written : ((Store.write platform around input db).1,
          part (Store.write platform around input db).2 input.task.id) =
            Store.write platform around input (part db input.task.id) := write_part alone apart
      simp only [Call.perform, Call.input, ← written]
  | finish first second input =>
      have finished : ((finish platform first second input db).1,
          part (finish platform first second input db).2 input.task.id) =
            finish platform first second input (part db input.task.id) := finish_part alone apart
      simp only [Call.perform, Call.input, ← finished]

theorem filter_append_outside {α : Type} {rows more : List α} {inside : α → Bool}
    (none : ∀ row ∈ more, inside row = false) : (rows ++ more).filter inside = rows.filter inside := by
  have nothing : more.filter inside = [] :=
    List.filter_eq_nil_iff.mpr fun row member => by rw [none row member]; exact Bool.false_ne_true
  rw [List.filter_append, nothing, List.append_nil]

section Others

variable {platform : Platform} {around : Surroundings} {input : Write} {admitted : Admitted} {db moved after : Db}
  {id : Id}

theorem projected_part (valid : Valid input admitted) (projected : Projected platform input admitted moved after)
    (other : admitted.task.id.column ≠ id.column) (tasks : (part moved id).tasks = (part db id).tasks)
    (steps : moved.steps = db.steps) (evidence : moved.evidence = db.evidence) (events : moved.events = db.events)
    (outcomes : moved.outcomes = db.outcomes)
    (results : (part moved id).terminalResults = (part db id).terminalResults) : part after id = part db id := by
  simp only [part] at tasks results ⊢
  rw [Db.mk.injEq, projected.tasks, projected.evidence, projected.events, projected.outcomes,
    projected.terminalResults, evidence, events, outcomes]
  refine ⟨tasks, ?_, filter_append_outside ?_, filter_append_outside ?_, filter_append_outside ?_, results⟩
  · rw [stepsOf_projected valid projected other, Db.stepsOf, steps, Db.stepsOf]
  · intro row member
    obtain ⟨found, present, rfl⟩ := Option.map_eq_some_iff.mp (Option.mem_toList.mp member)
    refine decide_eq_false fun same => other ?_
    rw [← valid.ofTask found present]
    exact same
  · intro row member
    rw [List.mem_singleton.mp member]
    exact decide_eq_false other
  · intro row member
    obtain ⟨outcome, present, rfl⟩ := Option.map_eq_some_iff.mp (Option.mem_toList.mp member)
    exact decide_eq_false fun same => other ((projected.onlyOutcome outcome present).1.symm.trans same)

theorem updated_other {task : Task} {id : Id} (other : task.id ≠ id.column) (rows : List Task) :
    (rows.map fun row => if row.id = task.id then task else row).filter (fun row => row.id = id.column) =
      rows.filter fun row => row.id = id.column := by
  induction rows with
  | nil => rfl
  | cons row rest ih =>
      rw [List.map_cons, List.filter_cons, List.filter_cons, ih]
      split
      · next replaced =>
          rw [if_neg (by simpa only [decide_eq_true_eq] using other),
            if_neg (by simpa only [decide_eq_true_eq, replaced] using other)]
      · rfl

theorem recordTerminalResult_other {task : Task} {id : Id} (other : task.id ≠ id.column) {updatedAt : Timestamp}
    {results : List Outcome} :
    (recordTerminalResult task updatedAt results).filter (fun result => result.taskId = id.column) =
      results.filter fun result => result.taskId = id.column := by
  unfold recordTerminalResult
  cases triggered task.status with
  | none => rfl
  | some status =>
      simp only
      split
      · rfl
      · refine filter_append_outside fun result member => ?_
        rw [List.mem_singleton.mp member]
        exact decide_eq_false other

/-- The writes of a call are of its task and bring what it brings. -/
theorem writes_brings {call : Call} {around : Surroundings} {input : Write} (writes : Writes call around input) :
    input.task.id = call.input.task.id ∧ input.event.id = call.input.event.id ∧
      input.evidence = call.input.evidence ∧ batch input = batch call.input := by
  cases writes with
  | write around input => exact ⟨rfl, rfl, rfl, rfl⟩
  | finish first second input => exact ⟨rfl, rfl, rfl, rfl⟩
  | failed first second outcomeRead taskRead => exact ⟨(Task.parse_keeps taskRead).1, rfl, rfl, rfl⟩

/-- A write leaves the rows of every other task as they are. -/
theorem effect_other (effect : Effect platform around input db after) (other : input.task.id.column ≠ id.column) :
    part after id = part db id := by
  cases effect with
  | replayed valid prior same => rfl
  | @created admitted after valid unused absent received canonical projected =>
      rw [← valid.id] at other
      refine projected_part valid projected other ?_ rfl rfl rfl rfl rfl
      refine filter_append_outside fun task member => ?_
      rw [List.mem_singleton.mp member]
      exact decide_eq_false fun same => other (canonical.trans same)
  | @advanced admitted old after valid unused found advances projected =>
      rw [← valid.id] at other
      have owned : admitted.task.id = admitted.task.id.column := advances.keeps.1.trans (task?_id found)
      rw [← owned] at other
      exact projected_part valid projected (owned ▸ other) (updated_other other db.tasks) rfl rfl rfl rfl
        (recordTerminalResult_other other)

theorem perform_other {call : Call} (other : call.input.task.id.column ≠ id.column) :
    part (call.perform platform db).2 id = part db id := by
  rcases perform_cases platform call db with same | ⟨around, input, writes, effect⟩
  · rw [same]
  · refine effect_other effect ?_
    rw [(writes_brings writes).1]
    exact other

end Others

/-! ## Runs -/

/-- Every row of a run was brought by a call on its task. -/
structure Brought (past : List Moment) (db : Db) : Prop where
  events : ∀ row ∈ db.events, ∃ moment ∈ past, row.taskId = moment.call.input.task.id.column ∧
    row.id = moment.call.input.event.id.column
  outcomes : ∀ row ∈ db.outcomes, ∃ moment ∈ past, row.contract.taskId = moment.call.input.task.id.column ∧
    row.id = moment.call.input.event.id.column
  evidence : ∀ row ∈ db.evidence, ∃ moment ∈ past, row.taskId = moment.call.input.task.id.column ∧
    ∃ given ∈ moment.call.input.evidence, row.id = given.id.column
  steps : ∀ row ∈ db.steps, ∃ moment ∈ past, row.taskId = moment.call.input.task.id.column ∧
    ∃ given ∈ batch moment.call.input, row.id = given.id

variable {platform : Platform}

theorem brought_projected {past : List Moment} {db moved after : Db} {call : Call} {around : Surroundings}
    {input : Write} {admitted : Admitted} (writes : Writes call around input) (valid : Valid input admitted)
    (projected : Projected platform input admitted moved after) (brought : Brought past db)
    (steps : moved.steps = db.steps) (evidence : moved.evidence = db.evidence) (events : moved.events = db.events)
    (outcomes : moved.outcomes = db.outcomes) : Brought (⟨db, call⟩ :: past) after := by
  obtain ⟨task, event, given, listed⟩ := writes_brings writes
  have ids : admitted.task.id = call.input.task.id := valid.id.trans task
  refine ⟨?_, ?_, ?_, ?_⟩
  · intro row member
    rw [projected.events, events] at member
    rcases List.mem_append.mp member with before | added
    · obtain ⟨moment, inside, rest⟩ := brought.events row before
      exact ⟨moment, List.mem_cons_of_mem _ inside, rest⟩
    · rw [List.mem_singleton.mp added]
      exact ⟨_, List.mem_cons_self, congrArg Id.column ids, congrArg Id.column event⟩
  · intro row member
    rw [projected.outcomes, outcomes] at member
    rcases List.mem_append.mp member with before | added
    · obtain ⟨moment, inside, rest⟩ := brought.outcomes row before
      exact ⟨moment, List.mem_cons_of_mem _ inside, rest⟩
    · obtain ⟨outcome, present, rfl⟩ := Option.map_eq_some_iff.mp (Option.mem_toList.mp added)
      exact ⟨_, List.mem_cons_self, (projected.onlyOutcome outcome present).1.trans (congrArg Id.column ids),
        congrArg Id.column event⟩
  · intro row member
    rw [projected.evidence, evidence] at member
    rcases List.mem_append.mp member with before | added
    · obtain ⟨moment, inside, rest⟩ := brought.evidence row before
      exact ⟨moment, List.mem_cons_of_mem _ inside, rest⟩
    · obtain ⟨found, present, rfl⟩ := Option.map_eq_some_iff.mp (Option.mem_toList.mp added)
      obtain ⟨raw, carried, same⟩ := admitted_evidence valid present
      rw [given] at carried
      exact ⟨_, List.mem_cons_self, congrArg Id.column ((valid.ofTask found present).trans ids), raw, carried,
        congrArg Id.column same.symm⟩
  · intro row member
    rw [projected.steps, steps] at member
    rcases mem_upsertSteps member with before | added
    · obtain ⟨moment, inside, rest⟩ := brought.steps row before
      exact ⟨moment, List.mem_cons_of_mem _ inside, rest⟩
    · obtain ⟨raw, carried, same⟩ := admitted_given valid added
      rw [listed] at carried
      refine ⟨_, List.mem_cons_self, ?_, raw, carried, same.symm⟩
      rw [← (projected.canonicalSteps row added).2, valid.steps row added, ids]

theorem Brought.later {past : List Moment} {db : Db} (brought : Brought past db) (moment : Moment) :
    Brought (moment :: past) db := by
  refine ⟨?_, ?_, ?_, ?_⟩
  · intro row member
    obtain ⟨other, inside, rest⟩ := brought.events row member
    exact ⟨other, List.mem_cons_of_mem _ inside, rest⟩
  · intro row member
    obtain ⟨other, inside, rest⟩ := brought.outcomes row member
    exact ⟨other, List.mem_cons_of_mem _ inside, rest⟩
  · intro row member
    obtain ⟨other, inside, rest⟩ := brought.evidence row member
    exact ⟨other, List.mem_cons_of_mem _ inside, rest⟩
  · intro row member
    obtain ⟨other, inside, rest⟩ := brought.steps row member
    exact ⟨other, List.mem_cons_of_mem _ inside, rest⟩

theorem brought_run {past : List Moment} {db : Db} (run : Run platform past db) : Brought past db := by
  refine Run.kept Brought ?_ ?_ ?_ run
  · exact ⟨fun _ member => absurd member List.not_mem_nil, fun _ member => absurd member List.not_mem_nil,
      fun _ member => absurd member List.not_mem_nil, fun _ member => absurd member List.not_mem_nil⟩
  · exact fun past db call brought _ => brought.later _
  · intro past db call around input after brought writes same effect
    cases effect with
    | replayed valid prior same => exact brought.later _
    | created valid unused absent received canonical projected =>
        exact brought_projected writes valid projected brought rfl rfl rfl rfl
    | advanced valid unused found advances projected =>
        exact brought_projected writes valid projected brought rfl rfl rfl rfl

/-- Two writes have no identifier of an event, of evidence or of a step in common. -/
structure Separate (one other : Write) : Prop where
  events : one.event.id.column ≠ other.event.id.column
  evidence : ∀ first ∈ one.evidence, ∀ second ∈ other.evidence, first.id.column ≠ second.id.column
  steps : ∀ first ∈ batch one, ∀ second ∈ batch other, first.id ≠ second.id

/-- Calls on different tasks bring different identifiers. -/
def TasksApart (past : List Moment) : Prop :=
  ∀ one ∈ past, ∀ other ∈ past, one.call.input.task.id.column ≠ other.call.input.task.id.column →
    Separate one.call.input other.call.input

theorem apart_of_brought {past : List Moment} {db : Db} {call : Call} (brought : Brought past db)
    (tasks : TasksApart (⟨db, call⟩ :: past)) : Apart db call.input := by
  have owner {moment : Moment} (member : moment ∈ past)
      (clash : ¬ Separate moment.call.input call.input) :
      moment.call.input.task.id.column = call.input.task.id.column := by
    by_contra different
    exact clash (tasks moment (List.mem_cons_of_mem _ member) _ List.mem_cons_self different)
  refine ⟨?_, ?_, ?_, ?_⟩
  · intro row member same
    obtain ⟨moment, inside, ofTask, named⟩ := brought.events row member
    exact ofTask.trans (owner inside fun separate => separate.events (named.symm.trans same))
  · intro row member same
    obtain ⟨moment, inside, ofTask, named⟩ := brought.outcomes row member
    exact ofTask.trans (owner inside fun separate => separate.events (named.symm.trans same))
  · intro given carried row member same
    obtain ⟨moment, inside, ofTask, raw, brings, named⟩ := brought.evidence row member
    exact ofTask.trans (owner inside fun separate =>
      separate.evidence raw brings given carried (named.symm.trans same))
  · intro given carried row member same
    obtain ⟨moment, inside, ofTask, raw, brings, named⟩ := brought.steps row member
    exact ofTask.trans (owner inside fun separate =>
      separate.steps raw brings given carried (named.symm.trans same))

theorem part_of_column {db : Db} {first second : Id} (same : first.column = second.column) :
    part db first = part db second := by
  simp only [part, Db.stepsOf, same]

/-- A call with what it answered. -/
def exchange (platform : Platform) (moment : Moment) : Call × Except Fault (Option Outcome) :=
  (moment.call, moment.answer platform)

/-- The calls of a run on one task make a run of their own, which answers each of them the same and leaves the
part of the task. -/
theorem tasks_isolated {past : List Moment} {db : Db} (run : Run platform past db)
    (alone : ∀ moment ∈ past, moment.call.input.task.parentTaskId = none) (apart : TasksApart past) (id : Id) :
    ∃ own, Run platform own (part db id) ∧ own.map (exchange platform) =
      (past.filter fun moment => moment.call.input.task.id.column = id.column).map (exchange platform) := by
  induction run with
  | start => exact ⟨[], .start, rfl⟩
  | @step past db run call ih =>
      obtain ⟨own, ownRun, same⟩ := ih (fun moment member => alone moment (List.mem_cons_of_mem _ member))
        fun one here other there => apart one (List.mem_cons_of_mem _ here) other (List.mem_cons_of_mem _ there)
      by_cases ours : call.input.task.id.column = id.column
      · have performed := @perform_part platform _ _ (alone _ List.mem_cons_self)
          (apart_of_brought (brought_run run) apart)
        rw [part_of_column ours, part_of_column ours] at performed
        refine ⟨⟨part db id, call⟩ :: own, ?_, ?_⟩
        · have next := Run.step ownRun call
          rwa [← performed] at next
        · rw [List.filter_cons_of_pos (by simpa only [decide_eq_true_eq] using ours), List.map_cons, List.map_cons, same]
          congr 1
          simp only [exchange, Moment.answer, ← performed]
      · refine ⟨own, ?_, ?_⟩
        · rwa [perform_other ours]
        · rw [List.filter_cons_of_neg (by simpa only [decide_eq_true_eq] using ours), same]

/-! ### Two tasks whose calls interleave -/

def otherTaskId : Id := ⟨js "73000000-0000-4000-8000-000000000001", by decide +kernel⟩

def otherCreatedId : Id := ⟨js "73000000-0000-4000-8000-000000000002", by decide +kernel⟩

def createOther : Write :=
  { createSample with
    task := { sampleTask .received with id := otherTaskId }
    event := { sampleEvent otherCreatedId .taskCreated with taskId := otherTaskId } }

def interleavedInputs : List Write := [createSample, createOther, cancelSample (js "stopped")]

def interleaved : List Moment × Db := performAll lengthPlatform interleavedInputs [] .empty

theorem interleaved_input {moment : Moment} (member : moment ∈ interleaved.1) :
    moment.call.input ∈ interleavedInputs := by
  rcases performAll_mem member with impossible | ⟨input, inside, same⟩
  · cases impossible
  · rw [same]
    exact inside

theorem interleaved_separate {one other : Write} (here : one ∈ interleavedInputs) (there : other ∈ interleavedInputs)
    (different : one.task.id.column ≠ other.task.id.column) : Separate one other := by
  have nothing {first second : Write} (evidence : first.evidence = none) (steps : batch first = [])
      (events : first.event.id.column ≠ second.event.id.column) : Separate first second :=
    ⟨events, fun found member => absurd (evidence ▸ member) (Option.not_mem_none found),
      fun step member => absurd (steps ▸ member) List.not_mem_nil⟩
  simp only [interleavedInputs, List.mem_cons, List.not_mem_nil, or_false] at here there
  rcases here with rfl | rfl | rfl
  · rcases there with rfl | rfl | rfl
    · exact absurd rfl different
    · exact nothing rfl rfl (by decide)
    · exact absurd rfl different
  · rcases there with rfl | rfl | rfl
    · exact nothing rfl rfl (by decide)
    · exact absurd rfl different
    · exact nothing rfl rfl (by decide)
  · rcases there with rfl | rfl | rfl
    · exact absurd rfl different
    · exact nothing rfl rfl (by decide)
    · exact absurd rfl different

theorem interleaved_isolated : ∃ own, Run lengthPlatform own (part interleaved.2 sampleTaskId) ∧
    own.map (exchange lengthPlatform) =
      (interleaved.1.filter fun moment => moment.call.input.task.id.column = sampleTaskId.column).map
        (exchange lengthPlatform) := by
  refine tasks_isolated (performAll_run .start) (fun moment member => ?_) (fun one here other there => ?_) sampleTaskId
  · have given := interleaved_input member
    simp only [interleavedInputs, List.mem_cons, List.not_mem_nil, or_false] at given
    rcases given with same | same | same
    · rw [same]
      rfl
    · rw [same]
      rfl
    · rw [same]
      rfl
  · exact interleaved_separate (interleaved_input here) (interleaved_input there)

end KernelJson.Ledger.Parts
