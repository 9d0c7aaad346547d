import KernelJson.Ledger.Integrity

/-!
# Outcomes and statuses

An outcome is stored under any event and any status.  As long as the writes
that carry one carry the status of their task, every outcome that is read names
its task, is read of a terminal task only, and has the status of that task; a
COMPLETED one was verified.
-/

namespace KernelJson.Ledger.Results

open Contracts.Common
open Contracts.Outcome
open Contracts.Platform
open Contracts.Records
open Contracts.Task
open Foundation
open Foundation.JsText
open Ledger.Effects
open Ledger.Integrity
open Ledger.Invariants
open Ledger.Store

/-! ## Agreement -/

/-- An outcome that a write carries has the status of its task. -/
def OutcomeAgrees (input : Write) : Prop :=
  ∀ outcome ∈ input.outcome, outcome.status.taskStatus = input.task.status

theorem parse_status {raw task : Task} (read : raw.parse = some task) : task.status = raw.status := by
  simp only [Task.parse, Option.bind_eq_bind, Option.bind_eq_some_iff] at read
  obtain ⟨objective, -, criteria, -, constraints, -, accepted⟩ := read
  split at accepted
  · cases accepted
    rfl
  · cases accepted

theorem outcome_kept {raw outcome : Outcome} (read : raw.parse = some outcome) :
    outcome.taskId = raw.taskId ∧ outcome.status = raw.status := by
  obtain ⟨results, -, rfl, -, -⟩ := Outcome.parse_cases read
  exact ⟨rfl, rfl⟩

theorem taskStatus_terminal (status : OutcomeStatus) : status.taskStatus.Terminal := by
  cases status with
  | completed => exact .inl rfl
  | failed => exact .inr (.inl rfl)
  | cancelled => exact .inr (.inr rfl)

/-- The write that records a failed verification agrees of itself. -/
theorem writes_agree {call : Call} {around : Surroundings} {input : Write} (writes : Writes call around input)
    (agrees : OutcomeAgrees call.input) : OutcomeAgrees input := by
  cases writes with
  | write around input => exact agrees
  | finish first second input => exact agrees
  | @failed first second input outcome task outcomeRead taskRead =>
      intro carried member
      cases member
      have status : outcome.status = .failed := (outcome_kept outcomeRead).2
      rw [status]
      exact (parse_status taskRead).symm

theorem valid_agrees {input : Write} {admitted : Admitted} (valid : Valid input admitted)
    (agrees : OutcomeAgrees input) {outcome : Outcome} (carried : admitted.outcome = some outcome) :
    outcome.status.taskStatus = admitted.task.status := by
  obtain ⟨raw, given, read⟩ := parseOptional_some valid.outcome carried
  rw [(outcome_kept read).2, agrees raw given, parse_status valid.task]

/-! ## Stored outcomes -/

/-- The contract belongs to a terminal task of its status. -/
def Rests (db : Db) (contract : Outcome) : Prop :=
  ∃ task, db.task? contract.taskId = some task ∧ task.id = contract.taskId ∧ task.status.Terminal ∧
    contract.status.taskStatus = task.status

/-- Every stored outcome and every recorded terminal result belongs to a terminal task of its status. -/
structure AllRest (db : Db) : Prop where
  outcomes : ∀ row ∈ db.outcomes, Rests db row.contract
  results : ∀ result ∈ db.terminalResults, Rests db result

variable {platform : Platform}

section Steps

variable {around : Surroundings} {input : Write} {db after : Db}

theorem rests_kept (effect : Effect platform around input db after) (stored : Stored db) {contract : Outcome}
    (rests : Rests db contract) : Rests after contract := by
  obtain ⟨task, found, named, terminal, same⟩ := rests
  exact ⟨task, terminal_kept effect stored found terminal, named, terminal, same⟩

theorem rows_projected {admitted : Admitted} {moved : Db} (projected : Projected platform input admitted moved after)
    {row : OutcomeRow} (member : row ∈ after.outcomes) :
    row ∈ moved.outcomes ∨ admitted.outcome = some row.contract := by
  rw [projected.outcomes] at member
  rcases List.mem_append.mp member with before | added
  · exact .inl before
  · simp only [Option.mem_toList, Option.map_eq_some_iff] at added
    obtain ⟨outcome, given, rfl⟩ := added
    exact .inr given

theorem allRest_kept (effect : Effect platform around input db after) (stored : Stored db)
    (agrees : OutcomeAgrees input) (rest : AllRest db) : AllRest after := by
  have whole := effect
  cases effect with
  | replayed valid prior same => exact rest
  | @created admitted after valid unused absent received canonical projected =>
      refine ⟨fun row member => ?_, fun result member => ?_⟩
      · rcases rows_projected projected member with before | carried
        · exact rests_kept whole stored (rest.outcomes row before)
        · -- A task begins RECEIVED, which is the status of no outcome.
          have same := valid_agrees valid agrees carried
          have terminal := taskStatus_terminal row.contract.status
          rw [same, received] at terminal
          exact absurd terminal (by decide)
      · rw [projected.terminalResults] at member
        exact rests_kept whole stored (rest.results result member)
  | @advanced admitted old after valid unused found advances projected =>
      have present : after.task? admitted.task.id = some admitted.task := by
        rw [projected_task? projected]
        exact task?_updated found advances.keeps input.event.occurredAt
      have canonical : admitted.task.id.column = admitted.task.id := by
        rw [advances.keeps.1]
        exact (stored old (task?_mem found)).2
      refine ⟨fun row member => ?_, fun result member => ?_⟩
      · rcases rows_projected projected member with before | carried
        · exact rests_kept whole stored (rest.outcomes row before)
        · have same := valid_agrees valid agrees carried
          have named := (projected.onlyOutcome row.contract carried).1
          rw [canonical] at named
          refine ⟨admitted.task, named ▸ present, named.symm, ?_, same⟩
          rw [← same]
          exact taskStatus_terminal row.contract.status
      · rw [projected.terminalResults] at member
        rcases mem_recordTerminalResult member with before | ⟨status, given, rfl⟩
        · exact rests_kept whole stored (rest.results result before)
        · obtain ⟨terminal, same⟩ := triggered_terminal given
          exact ⟨admitted.task, present, rfl, terminal, same⟩

end Steps

theorem allRest_run {past : List Moment} {db : Db} (run : Run platform past db)
    (agrees : ∀ moment ∈ past, OutcomeAgrees moment.call.input) : AllRest db := by
  have kept : Sound platform past db ∧ ((∀ moment ∈ past, OutcomeAgrees moment.call.input) → AllRest db) := by
    refine Run.kept (fun past db => Sound platform past db ∧
      ((∀ moment ∈ past, OutcomeAgrees moment.call.input) → AllRest db)) ?_ ?_ ?_ run
    · exact ⟨sound_run .start, fun _ => ⟨fun _ member => absurd member List.not_mem_nil,
        fun _ member => absurd member List.not_mem_nil⟩⟩
    · rintro past db call ⟨sound, rest⟩ same
      refine ⟨?_, fun agrees => rest fun moment member => agrees moment (List.mem_cons_of_mem _ member)⟩
      refine { sound with origins := fun row member => ?_ }
      obtain ⟨moment, before, rest⟩ := sound.origins row member
      exact ⟨moment, List.mem_cons_of_mem _ before, rest⟩
    · rintro past db call around input after ⟨sound, rest⟩ writes same effect
      refine ⟨effect_sound effect writes sound, fun agrees => ?_⟩
      have now := writes_agree writes (agrees _ List.mem_cons_self)
      exact allRest_kept effect sound.stored now
        (rest fun moment member => agrees moment (List.mem_cons_of_mem _ member))
  exact kept.2 agrees

/-! ## Verified completions -/

/-- A call of the run verified the completion of this very task. -/
def VerifiedBy (platform : Platform) (past : List Moment) (task : Task) : Prop :=
  ∃ moment ∈ past, ∃ around input admitted old, Writes moment.call around input ∧ Valid input admitted ∧
    admitted.task = task ∧ moment.before.task? task.id = some old ∧
    verifyCompletion platform around moment.before old task input.event admitted.outcome = .ok ()

theorem completed_verified {past : List Moment} {db : Db} (run : Run platform past db) :
    ∀ task ∈ db.tasks, task.status = .completed → VerifiedBy platform past task := by
  refine Run.kept (fun past db => ∀ task ∈ db.tasks, task.status = .completed →
    VerifiedBy platform past task) ?_ ?_ ?_ run
  · exact fun _ member => absurd member List.not_mem_nil
  · intro past db call verified same task member completed
    obtain ⟨moment, before, rest⟩ := verified task member completed
    exact ⟨moment, List.mem_cons_of_mem _ before, rest⟩
  · intro past db call around input after verified writes same effect task member completed
    have earlier : task ∈ db.tasks → VerifiedBy platform (⟨db, call⟩ :: past) task := by
      intro inside
      obtain ⟨moment, before, rest⟩ := verified task inside completed
      exact ⟨moment, List.mem_cons_of_mem _ before, rest⟩
    cases effect with
    | replayed valid prior same => exact earlier member
    | created valid unused absent received canonical projected =>
        rw [projected.tasks] at member
        rcases List.mem_append.mp member with before | added
        · exact earlier before
        · rw [List.mem_singleton.mp added, received] at completed
          cases completed
    | @advanced admitted old after valid unused found advances projected =>
        rw [projected.tasks] at member
        obtain ⟨row, inside, same⟩ := List.mem_map.mp member
        split at same
        · subst same
          exact ⟨_, List.mem_cons_self, around, input, admitted, old, writes, valid, rfl, found,
            advances.verified completed⟩
        · exact earlier (same ▸ inside)

/-! ## Outcomes that are read -/

/-- The outcome names the stored task, which rests in the status of the outcome. -/
def Truthful (db : Db) (id : Id) (outcome : Outcome) : Prop :=
  ∃ task, db.task? id = some task ∧ outcome.taskId = task.id ∧ task.status.Terminal ∧
    outcome.status.taskStatus = task.status

theorem read_truthful {db : Db} (rest : AllRest db) {id : Id} {outcome : Outcome}
    (read : readOutcome db id = .ok (some outcome)) : Truthful db id outcome := by
  obtain ⟨-, contract, found, parsed⟩ := readOutcome_some.mp read
  have rests : Rests db contract ∧ contract.taskId = id.column := by
    cases stored : db.outcome? id with
    | some other =>
        rw [stored, Option.some_or] at found
        cases found
        obtain ⟨row, here, rfl⟩ := Option.map_eq_some_iff.mp stored
        have accepted := List.find?_some here
        simp only [decide_eq_true_eq] at accepted
        exact ⟨rest.outcomes row (List.mem_of_find?_eq_some here), accepted⟩
    | none =>
        rw [stored, Option.none_or] at found
        obtain ⟨member, named⟩ := terminalResult?_mem found
        exact ⟨rest.results contract member, named⟩
  obtain ⟨⟨task, present, named, terminal, same⟩, column⟩ := rests
  obtain ⟨ids, statuses⟩ := outcome_kept parsed
  refine ⟨task, ?_, ids.trans named.symm, terminal, ?_⟩
  · rwa [column, task?_column] at present
  · rw [statuses, same]

/-- Where every write carries the status of its task, an outcome that is read or returned names its task, which
rests in the status of the outcome; a COMPLETED one was verified. -/
theorem outcomes_truthful {past : List Moment} {db : Db} (run : Run platform past db)
    (agrees : ∀ moment ∈ past, OutcomeAgrees moment.call.input) :
    (∀ id outcome, readOutcome db id = .ok (some outcome) → Truthful db id outcome) ∧
      (∀ id outcome, readOutcome db id = .ok (some outcome) → outcome.status = .completed →
        ∃ task, db.task? id = some task ∧ VerifiedBy platform past task) ∧
      (NoCollision platform past → ∀ moment ∈ past, ∀ outcome, moment.answer platform = .ok (some outcome) →
        Truthful (moment.after platform) moment.call.input.task.id outcome) := by
  refine ⟨fun id outcome => read_truthful (allRest_run run agrees), ?_, ?_⟩
  · intro id outcome read completed
    obtain ⟨task, found, -, -, same⟩ := read_truthful (allRest_run run agrees) read
    refine ⟨task, found, completed_verified run task (task?_mem found) ?_⟩
    rw [← same, completed]
    rfl
  · intro apart moment member outcome answered
    obtain ⟨earlier, earlierRun, included⟩ := run_before run member
    have before := apart.mono included
    have left : AllRest (moment.after platform) := by
      refine allRest_run (.step earlierRun moment.call) fun other inside => ?_
      exact agrees other (included other inside)
    obtain ⟨found, call⟩ := moment
    cases call with
    | write around input =>
        simp only [Moment.answer, Call.perform] at answered
        obtain ⟨value, -, impossible⟩ := Transactions.map_ok answered
        cases impossible
    | finish first second input =>
        simp only [Moment.answer, Call.perform] at answered
        obtain ⟨given, here, same⟩ := Transactions.map_ok answered
        cases same
        exact read_truthful left (finish_reads (sound_run earlierRun) before (Prod.ext here rfl))

/-! ### The sample, with an outcome that agrees and with one that does not -/

theorem stopSample_truthful :
    (∀ id outcome, readOutcome sampleCancelled id = .ok (some outcome) → Truthful sampleCancelled id outcome) ∧
      (∀ id outcome, readOutcome sampleCancelled id = .ok (some outcome) → outcome.status = .completed →
        ∃ task, sampleCancelled.task? id = some task ∧ VerifiedBy lengthPlatform sampleCalls task) ∧
      (NoCollision lengthPlatform sampleCalls → ∀ moment ∈ sampleCalls, ∀ outcome,
        moment.answer lengthPlatform = .ok (some outcome) →
        Truthful (moment.after lengthPlatform) moment.call.input.task.id outcome) := by
  refine outcomes_truthful sampleCancelled_run fun moment member => ?_
  simp only [sampleCalls, List.mem_cons, List.not_mem_nil, or_false] at member
  rcases member with rfl | rfl
  · intro outcome carried
    cases carried
    rfl
  · intro outcome carried
    cases carried

/-- A completed outcome that no evidence supports. -/
def forgedOutcome : Outcome where
  taskId := sampleTaskId
  status := .completed
  acceptanceResults := [⟨Planner.Plan.criteria .uppercase, true, [createdId]⟩]
  evidenceRefs := [createdId]
  summary := js "done"
  completedAt := .epoch

def forgedCall : Call := .write sampleSurroundings { createSample with outcome := some forgedOutcome }

def forgedDb : Db := (forgedCall.perform lengthPlatform .empty).2

/-- The first write of a task may bring a COMPLETED outcome, which is then read of the RECEIVED task. -/
theorem received_task_reads_completed :
    ¬ ∀ past db, Run lengthPlatform past db → ∀ id outcome, readOutcome db id = .ok (some outcome) →
      Truthful db id outcome := by
  intro claimed
  have status : (forgedDb.task? sampleTaskId).map Task.status = some .received := by
    decide
  have answered : (readOutcome forgedDb sampleTaskId).toOption = some (some forgedOutcome) := by
    decide
  have read : readOutcome forgedDb sampleTaskId = .ok (some forgedOutcome) := by
    cases result : readOutcome forgedDb sampleTaskId with
    | error fault =>
        rw [result] at answered
        cases answered
    | ok found =>
        rw [result] at answered
        cases answered
        rfl
  obtain ⟨task, found, -, terminal, -⟩ :=
    claimed [⟨.empty, forgedCall⟩] forgedDb (.step .start forgedCall) sampleTaskId forgedOutcome read
  rw [found, Option.map_some] at status
  rw [Option.some.inj status] at terminal
  exact absurd terminal (by decide)

end KernelJson.Ledger.Results
