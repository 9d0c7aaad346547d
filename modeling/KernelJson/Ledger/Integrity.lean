import KernelJson.Ledger.Invariants

/-!
# The integrity of the ledger

Over every run of writes and completions: a task keeps its definition, its
status follows the lifecycle and rests once it is terminal, a repeated write
changes nothing, a reused key is refused, a completion that returned returns
the same again, and a call that throws leaves every table as it was.
-/

namespace KernelJson.Ledger.Integrity

open Contracts.Common
open Contracts.Digest
open Contracts.Outcome
open Contracts.Platform
open Contracts.Records
open Contracts.Task
open Foundation
open Foundation.JsText
open Foundation.Transactions
open Ledger.Effects
open Ledger.Invariants
open Ledger.Store

variable {platform : Platform}

/-! ## Outcomes that were read -/

theorem readOutcome_some {db : Db} {id : Id} {outcome : Outcome} :
    readOutcome db id = .ok (some outcome) ↔ (db.task? id).isSome = true ∧
      ∃ contract, (db.outcome? id).or (db.terminalResult? id) = some contract ∧ contract.parse = some outcome := by
  unfold readOutcome
  cases db.task? id with
  | none =>
      constructor
      · intro read
        cases read
      · rintro ⟨impossible, -⟩
        cases impossible
  | some task =>
      cases (db.outcome? id).or (db.terminalResult? id) with
      | none =>
          constructor
          · intro read
            cases read
          · rintro ⟨-, contract, impossible, -⟩
            cases impossible
      | some contract =>
          cases read : contract.parse with
          | none =>
              constructor
              · intro failed
                simp only [read] at failed
                cases failed
              · rintro ⟨-, other, same, parsed⟩
                cases same
                rw [read] at parsed
                cases parsed
          | some parsed =>
              constructor
              · intro given
                simp only [read] at given
                cases given
                exact ⟨rfl, contract, rfl, read⟩
              · rintro ⟨-, other, same, again⟩
                cases same
                rw [read] at again
                cases again
                simp only [read]
                rfl

theorem readOutcome_none {db : Db} {id : Id} (read : readOutcome db id = .ok none)
    (present : (db.task? id).isSome = true) : db.outcome? id = none ∧ db.terminalResult? id = none := by
  unfold readOutcome at read
  obtain ⟨task, found⟩ := Option.isSome_iff_exists.mp present
  simp only [found] at read
  have unread : (db.outcome? id).or (db.terminalResult? id) = none := by
    cases either : (db.outcome? id).or (db.terminalResult? id) with
    | none => rfl
    | some contract =>
        simp only [either] at read
        cases parsed : contract.parse with
        | none =>
            simp only [parsed] at read
            cases read
        | some other =>
            simp only [parsed] at read
            cases read
  exact Option.or_eq_none_iff.mp unread

section Effects

variable {around : Surroundings} {input : Write} {db after : Db} {past : List Moment} {call : Call}

theorem terminalResult?_mem {id : Id} {result : Outcome} (found : db.terminalResult? id = some result) :
    result ∈ db.terminalResults ∧ result.taskId = id.column := by
  have accepted := List.find?_some found
  exact ⟨List.mem_of_find?_eq_some found, by simpa only [decide_eq_true_eq] using accepted⟩

theorem terminalResult?_kept (effect : Effect platform around input db after) {id : Id} {result : Outcome}
    (found : db.terminalResult? id = some result) : after.terminalResult? id = some result := by
  cases effect with
  | replayed valid prior same => exact found
  | created valid unused absent received canonical projected =>
      rw [Db.terminalResult?, projected.terminalResults]
      exact found
  | @advanced admitted old after valid unused here advances projected =>
      rw [Db.terminalResult?, projected.terminalResults]
      show (recordTerminalResult admitted.task input.event.occurredAt db.terminalResults).find? _ = _
      unfold recordTerminalResult
      split
      · exact found
      · split
        · exact found
        · exact find?_append_of_some found _

/-- An outcome that is read once is read after every effect. -/
theorem read_kept (effect : Effect platform around input db after) (sound : Sound platform past db) {id : Id}
    {outcome : Outcome} (read : readOutcome db id = .ok (some outcome)) :
    readOutcome after id = .ok (some outcome) := by
  obtain ⟨present, contract, found, parsed⟩ := readOutcome_some.mp read
  refine readOutcome_some.mpr ⟨isSome_task?_kept effect present, contract, ?_, parsed⟩
  cases stored : db.outcome? id with
  | some other =>
      rw [stored, Option.some_or] at found
      rw [outcome?_kept effect stored, Option.some_or, found]
  | none =>
      rw [stored, Option.none_or] at found
      obtain ⟨member, named⟩ := terminalResult?_mem found
      obtain ⟨task, taskFound, terminal⟩ := sound.results contract member
      rw [named, task?_column] at taskFound
      have unchanged : after.outcome? id = none := by
        cases effect with
        | replayed valid prior same => exact stored
        | @created admitted after valid unused absent received canonical projected =>
            rw [outcome?_projected projected]
            show (db.outcome? id).or _ = none
            rw [stored, Option.none_or, Option.bind_eq_none_iff]
            intro given carried
            have named := (projected.onlyOutcome given carried).1
            refine if_neg fun same => ?_
            rw [named] at same
            rw [task?_of_column same, taskFound] at absent
            cases absent
        | @advanced admitted old after valid unused here advances projected =>
            rw [outcome?_projected projected]
            show (db.outcome? id).or _ = none
            rw [stored, Option.none_or, Option.bind_eq_none_iff]
            intro given carried
            have named := (projected.onlyOutcome given carried).1
            refine if_neg fun same => ?_
            rw [named] at same
            rw [task?_of_column same, taskFound] at here
            cases here
            exact advances.isOpen terminal
      rw [unchanged, Option.none_or, terminalResult?_kept effect found]

/-- The key of a write that was not repeated holds its digest. -/
theorem event?_new {admitted : Admitted} {moved : Db} (projected : Projected platform input admitted moved after)
    (unused : moved.event? admitted.task.id input.key = none) :
    after.event? admitted.task.id input.key = some (eventRow platform input admitted) := by
  rw [Db.event?, projected.events, List.find?_append]
  have absent : moved.events.find? (fun row => row.taskId = admitted.task.id.column ∧ row.key = input.key) = none :=
    unused
  rw [absent, Option.none_or, List.find?_cons_of_pos]
  simp only [eventRow, and_self, decide_true]

theorem event?_kept (effect : Effect platform around input db after) {id : Id} {key : JsString} {row : EventRow}
    (found : db.event? id key = some row) : after.event? id key = some row := by
  cases effect with
  | replayed valid prior same => exact found
  | created valid unused absent received canonical projected =>
      rw [Db.event?, projected.events]
      exact find?_append_of_some found _
  | advanced valid unused here advances projected =>
      rw [Db.event?, projected.events]
      exact find?_append_of_some found _

/-- After a write, its key holds its digest. -/
theorem event?_written (effect : Effect platform around input db after) :
    ∃ admitted row, Valid input admitted ∧ after.event? admitted.task.id input.key = some row ∧
      row.requestDigest = requestDigest platform input := by
  cases effect with
  | replayed valid found same => exact ⟨_, _, valid, found, same⟩
  | created valid unused absent received canonical projected =>
      exact ⟨_, _, valid, event?_new projected unused, rfl⟩
  | advanced valid unused here advances projected =>
      exact ⟨_, _, valid, event?_new projected unused, rfl⟩

theorem event?_mem {id : Id} {key : JsString} {row : EventRow} (found : db.event? id key = some row) :
    row ∈ db.events ∧ row.taskId = id.column ∧ row.key = key := by
  have accepted := List.find?_some found
  simp only [decide_eq_true_eq] at accepted
  exact ⟨List.mem_of_find?_eq_some found, accepted⟩

/-- A write that carries an outcome leaves it to be read, where none was. -/
theorem read_written (effect : Effect platform around input db after) (sound : Sound platform past db)
    (apart : NoCollision platform (⟨db, call⟩ :: past)) (writes : Writes call around input)
    (unread : readOutcome db input.task.id = .ok none) {outcome : Outcome}
    (given : input.outcome.bind Outcome.parse = some outcome) :
    readOutcome after input.task.id = .ok (some outcome) := by
  have written {admitted : Admitted} (valid : Valid input admitted)
      (present : (after.task? admitted.task.id).isSome = true)
      (found : after.outcome? admitted.task.id = some outcome)
      (carried : admitted.outcome = some outcome) : readOutcome after input.task.id = .ok (some outcome) := by
    rw [← valid.id]
    exact readOutcome_some.mpr ⟨present, outcome, by rw [found, Option.some_or], valid.outcome_again carried⟩
  cases effect with
  | @replayed admitted prior valid found same =>
      obtain ⟨member, ofTask, key⟩ := event?_mem found
      obtain ⟨moment, before, around', earlier, read, writesThen, validThen, taskThen, keyThen, digestThen, stored⟩ :=
        sound.origins prior member
      -- The key was used by a write with the same digest, which is this very write.
      have values := apart moment (List.mem_cons_of_mem _ before) ⟨db, call⟩ List.mem_cons_self _ _
        (.request writesThen) (.request writes) (digestThen.symm.trans same)
      have inputs := Write.toJson_injective values
      subst inputs
      have carried : read.outcome = some outcome := validThen.outcome_read.symm.trans given
      have held := stored outcome carried
      have present : (db.task? earlier.task.id).isSome = true := by
        have kept := sound.tasks prior member
        rwa [taskThen, task?_column, validThen.id] at kept
      rw [validThen.id] at held
      rw [(readOutcome_none unread present).1] at held
      cases held
  | created valid unused absent received canonical projected =>
      have carried := valid.outcome_read.symm.trans given
      refine written valid ?_ (outcome?_new projected carried) carried
      rw [projected_task? projected, task?_created absent canonical, Option.isSome_some]
  | advanced valid unused found advances projected =>
      have carried := valid.outcome_read.symm.trans given
      refine written valid ?_ (outcome?_new projected carried) carried
      rw [projected_task? projected, task?_updated found advances.keeps, Option.isSome_some]

end Effects

/-! ## Runs -/

variable {past : List Moment} {db : Db}

/-- Every call of a run found tables that an earlier part of the run left. -/
theorem run_before (run : Run platform past db) {moment : Moment} (member : moment ∈ past) :
    ∃ earlier, Run platform earlier moment.before ∧ ∀ other ∈ moment :: earlier, other ∈ past := by
  induction run with
  | start => cases member
  | @step past db run call ih =>
      rcases List.mem_cons.mp member with rfl | before
      · exact ⟨past, run, fun _ inside => inside⟩
      · obtain ⟨earlier, earlierRun, included⟩ := ih before
        exact ⟨earlier, earlierRun, fun other inside => List.mem_cons_of_mem _ (included other inside)⟩

/-- What held after a call and is kept by every effect still holds. -/
theorem since (holds : Db → Prop)
    (kept : ∀ {past db around input after}, Sound platform past db → holds db →
      Effect platform around input db after → holds after)
    (run : Run platform past db) {moment : Moment} (member : moment ∈ past)
    (start : holds (moment.after platform)) : holds db := by
  induction run with
  | start => cases member
  | @step past db run call ih =>
      rcases List.mem_cons.mp member with rfl | before
      · exact start
      · have held := ih before
        rcases perform_cases platform call db with same | ⟨around, input, writes, effect⟩
        · rwa [same]
        · exact kept (sound_run run) held effect

/-- What one call does to a stored task. -/
theorem call_task {call : Call} (sound : Sound platform past db) (apart : NoCollision platform [⟨db, call⟩]) {id : Id}
    {old : Task} (found : db.task? id = some old) :
    ∃ new, (call.perform platform db).2.task? id = some new ∧ Evolves old new := by
  rcases perform_cases platform call db with same | ⟨around, input, writes, effect⟩
  · rw [same]
    exact ⟨old, found, .refl old⟩
  · exact effect_task effect apart writes sound.stored found

theorem moment_task (run : Run platform past db) (apart : NoCollision platform past) {moment : Moment}
    (member : moment ∈ past) {id : Id} {old : Task} (found : moment.before.task? id = some old) :
    ∃ new, (moment.after platform).task? id = some new ∧ Evolves old new := by
  obtain ⟨earlier, earlierRun, included⟩ := run_before run member
  refine call_task (sound_run earlierRun) (apart.mono fun other inside => ?_) found
  rw [List.mem_singleton.mp inside]
  exact member

theorem task_lineage (run : Run platform past db) (apart : NoCollision platform past) {moment : Moment}
    (member : moment ∈ past) {id : Id} {old : Task} (found : moment.before.task? id = some old) :
    ∃ new, db.task? id = some new ∧ Lineage old new := by
  induction run with
  | start => cases member
  | @step past db run call ih =>
      have here : NoCollision platform [⟨db, call⟩] :=
        apart.mono fun other inside => by
          rw [List.mem_singleton.mp inside]
          exact List.mem_cons_self
      rcases List.mem_cons.mp member with rfl | before
      · obtain ⟨new, present, evolves⟩ := call_task (sound_run run) here found
        exact ⟨new, present, (Lineage.refl old).tail evolves⟩
      · obtain ⟨middle, present, lineage⟩ :=
          ih (apart.mono fun other inside => List.mem_cons_of_mem _ inside) before
        obtain ⟨new, later, evolves⟩ := call_task (sound_run run) here present
        exact ⟨new, later, lineage.tail evolves⟩

/-! ## Repetitions -/

/-- The call stored this write. -/
def wrote (platform : Platform) (moment : Moment) (input : Write) : Prop :=
  ∃ around, Writes moment.call around input ∧
    Store.write platform around input moment.before = (.ok (), moment.after platform)

theorem commit_ok {World α : Type} {transaction : World → Except Fault (α × World)} {before after : World} {answer : α}
    (committed : commit transaction before = (.ok answer, after)) : transaction before = .ok (answer, after) := by
  unfold commit at committed
  cases ran : transaction before with
  | error fault =>
      simp only [ran] at committed
      cases committed
  | ok done =>
      simp only [ran, Prod.mk.injEq, Except.ok.injEq] at committed
      obtain ⟨rfl, rfl⟩ := committed
      rfl

theorem wrote_effect {moment : Moment} {input : Write} (stored : wrote platform moment input) :
    ∃ around, Writes moment.call around input ∧
      Effect platform around input moment.before (moment.after platform) := by
  obtain ⟨around, writes, committed⟩ := stored
  exact ⟨around, writes, record_ok (commit_ok committed)⟩

/-- The checks before the transaction depend on the input only. -/
theorem valid_unique {input : Write} {first second : Admitted} (one : Valid input first) (two : Valid input second) :
    first.task = second.task :=
  Option.some.inj (one.task.symm.trans two.task)

theorem key_held (run : Run platform past db) {moment : Moment} (member : moment ∈ past) {input : Write}
    (stored : wrote platform moment input) :
    ∃ admitted row, Valid input admitted ∧ db.event? admitted.task.id input.key = some row ∧
      row.requestDigest = requestDigest platform input := by
  obtain ⟨around, writes, effect⟩ := wrote_effect stored
  obtain ⟨admitted, row, valid, found, hash⟩ := event?_written effect
  have held := since (fun db => db.event? admitted.task.id input.key = some row)
    (fun _ held effect => event?_kept effect held) run member found
  exact ⟨admitted, row, valid, held, hash⟩

theorem validates {moment : Moment} {input : Write} (stored : wrote platform moment input) :
    ∃ admitted, input.validate = .ok admitted := by
  obtain ⟨around, writes, committed⟩ := stored
  obtain ⟨admitted, validated, -⟩ := bind_ok (commit_ok committed)
  exact ⟨admitted, validated⟩

/-- A write that was stored is answered again without a change. -/
theorem write_again (run : Run platform past db) {moment : Moment} (member : moment ∈ past) {input : Write}
    (stored : wrote platform moment input) (around : Surroundings) :
    Store.write platform around input db = (.ok (), db) := by
  obtain ⟨admitted, validated⟩ := validates stored
  obtain ⟨read, row, valid, found, hash⟩ := key_held run member stored
  rw [← valid_unique (validate_ok validated) valid] at found
  have ran : record platform around input db = .ok ((), db) := by
    unfold record
    rw [validated, ok_bind]
    simp only [found, answerPrior, demand_pass hash, ok_bind]
  rw [Store.write, commit, ran]

/-- A key that was used refuses every other write. -/
theorem key_refused (run : Run platform past db) {moment : Moment} (member : moment ∈ past) {input other : Write}
    (stored : wrote platform moment input) {around : Surroundings} (sameKey : other.key = input.key)
    (sameTask : other.task.id.column = input.task.id.column) (different : other ≠ input)
    (apart : NoCollision platform (⟨db, .write around other⟩ :: past)) :
    ∃ fault, Store.write platform around other db = (.error fault, db) := by
  rcases write_cases platform around other db with refused | ⟨after, done, effect⟩
  · exact refused
  · exfalso
    obtain ⟨read, row, valid, found, hash⟩ := key_held run member stored
    have lookup {admitted : Admitted} (valid' : Valid other admitted) :
        db.event? admitted.task.id other.key = some row := by
      rw [← found, sameKey]
      simp only [Db.event?, valid'.id, valid.id, sameTask]
    cases effect with
    | replayed valid' prior same =>
        have one := Option.some.inj ((lookup valid').symm.trans prior)
        obtain ⟨before, writes, -⟩ := wrote_effect stored
        have values := apart moment (List.mem_cons_of_mem _ member) ⟨db, .write around other⟩
          List.mem_cons_self _ _ (.request writes) (.request (.write around other))
          (hash.symm.trans ((congrArg EventRow.requestDigest one).trans same))
        exact different (Write.toJson_injective values).symm
    | created valid' unused absent received canonical projected =>
        rw [lookup valid'] at unused
        cases unused
    | advanced valid' unused here advances projected =>
        rw [lookup valid'] at unused
        cases unused

/-! ## Completions -/

theorem readOutcome_of_column {db : Db} {first second : Id} (same : first.column = second.column) :
    readOutcome db first = readOutcome db second := by
  simp only [readOutcome, Db.task?, Db.outcome?, Db.terminalResult?, same]

/-- What a completion answers is read afterwards. -/
theorem finish_reads {first second : Surroundings} {input : Write} {after : Db} {outcome : Outcome}
    (sound : Sound platform past db) (apart : NoCollision platform (⟨db, .finish first second input⟩ :: past))
    (done : finish platform first second input db = (.ok outcome, after)) :
    readOutcome after input.task.id = .ok (some outcome) := by
  unfold finish at done
  cases existing : readOutcome db input.task.id with
  | error fault =>
      simp only [existing] at done
      cases done
  | ok found =>
      cases found with
      | some stored =>
          simp only [existing] at done
          cases done
          exact existing
      | none =>
          simp only [existing] at done
          rcases write_cases platform first input db with ⟨fault, same⟩ | ⟨left, same, effect⟩
          · cases fault with
            | error message =>
                simp only [same] at done
                cases done
            | verification message =>
                simp only [same, settle] at done
                cases outcomeRead : (failedOutcome input).parse with
                | none =>
                    simp only [outcomeRead] at done
                    cases done
                | some failed =>
                    cases taskRead : ({ input.task with status := .failed } : Task).parse with
                    | none =>
                        simp only [outcomeRead, taskRead] at done
                        cases done
                    | some task =>
                        simp only [outcomeRead, taskRead] at done
                        rcases write_cases platform second (failedWrite input task failed) db
                          with ⟨fault, refused⟩ | ⟨left, written, effect⟩
                        · simp only [refused] at done
                          cases done
                        · simp only [written] at done
                          cases done
                          have ids : task.id = input.task.id := (Task.parse_keeps taskRead).1
                          have read : readOutcome after (failedWrite input task failed).task.id = .ok (some failed) :=
                            read_written effect sound apart (.failed first second outcomeRead taskRead)
                              ((congrArg (readOutcome db) ids).trans existing) (Outcome.parse_again outcomeRead)
                          exact (congrArg (readOutcome after) ids).symm.trans read
          · simp only [same, Prod.mk.injEq] at done
            obtain ⟨given, rfl⟩ := done
            exact read_written effect sound apart (.finish first second input) existing (orError_ok given)

/-- An answered completion is answered the same again, whatever the later call carries. -/
theorem finish_again (run : Run platform past db) (apart : NoCollision platform past) {moment : Moment}
    (member : moment ∈ past) {first second : Surroundings} {input : Write} {outcome : Outcome}
    (called : moment.call = .finish first second input) (answered : moment.answer platform = .ok (some outcome))
    (first' second' : Surroundings) {other : Write} (sameTask : other.task.id.column = input.task.id.column) :
    finish platform first' second' other db = (.ok outcome, db) := by
  obtain ⟨earlier, earlierRun, included⟩ := run_before run member
  have done : finish platform first second input moment.before = (.ok outcome, moment.after platform) := by
    simp only [Moment.answer, Moment.after, called, Call.perform] at answered ⊢
    obtain ⟨found, here, same⟩ := map_ok answered
    cases same
    exact Prod.ext here rfl
  have here : NoCollision platform (⟨moment.before, .finish first second input⟩ :: earlier) := by
    have before := apart.mono included
    rwa [← called]
  have read := finish_reads (sound_run earlierRun) here done
  have held := since (fun db => readOutcome db input.task.id = .ok (some outcome))
    (fun sound held effect => read_kept effect sound held) run member read
  rw [← readOutcome_of_column sameTask] at held
  rw [finish, held]

/-! ## Calls that throw -/

theorem write_thrown {around : Surroundings} {input : Write} {fault : Fault}
    (failed : (Store.write platform around input db).1 = .error fault) :
    (Store.write platform around input db).2 = db :=
  commit_error failed

theorem finish_thrown {first second : Surroundings} {input : Write} {fault : Fault}
    (carries : input.outcome ≠ none) (failed : (finish platform first second input db).1 = .error fault) :
    (finish platform first second input db).2 = db := by
  unfold finish at failed ⊢
  cases existing : readOutcome db input.task.id with
  | error fault => rfl
  | ok found =>
      cases found with
      | some stored => rfl
      | none =>
          simp only [existing] at failed ⊢
          rcases write_cases platform first input db with ⟨fault, same⟩ | ⟨left, same, effect⟩
          · cases fault with
            | error message => simp only [same]
            | verification message =>
                simp only [same, settle] at failed ⊢
                cases outcomeRead : (failedOutcome input).parse with
                | none => rfl
                | some outcome =>
                    cases taskRead : ({ input.task with status := .failed } : Task).parse with
                    | none => rfl
                    | some task =>
                        simp only [outcomeRead, taskRead] at failed ⊢
                        rcases write_cases platform second (failedWrite input task outcome) db
                          with ⟨fault, refused⟩ | ⟨left, written, effect⟩
                        · rw [refused]
                        · simp only [written] at failed
                          cases failed
          · -- The write was stored, so its outcome had been read.
            exfalso
            simp only [same] at failed
            obtain ⟨admitted, row, valid, -, -⟩ := event?_written effect
            obtain ⟨raw, present⟩ := Option.ne_none_iff_exists'.mp carries
            have optional := valid.outcome
            rw [present] at optional
            obtain ⟨parsed, -, read⟩ := parseOptional_of_some optional
            rw [present, Option.bind_some, read] at failed
            cases failed

/-! ## The ledger -/

/-- What every run of the ledger keeps. -/
structure Intact (platform : Platform) (past : List Moment) (db : Db) : Prop where
  /-- One call moves a task along the lifecycle at most once, and changes no more of it than its times. -/
  step : ∀ moment ∈ past, ∀ id old, moment.before.task? id = some old →
    ∃ new, (moment.after platform).task? id = some new ∧ Evolves old new
  /-- A task that was stored is still the same definition, its status reached along the lifecycle. -/
  lineage : ∀ moment ∈ past, ∀ id old, moment.before.task? id = some old →
    ∃ new, db.task? id = some new ∧ Lineage old new
  /-- A write that was stored is answered again without a change. -/
  repeated : ∀ moment ∈ past, ∀ input, wrote platform moment input → ∀ around,
    Store.write platform around input db = (.ok (), db)
  /-- A write of another input under a stored key of its task is refused. -/
  reused : ∀ moment ∈ past, ∀ input, wrote platform moment input → ∀ around other, other.key = input.key →
    other.task.id.column = input.task.id.column → other ≠ input →
    NoCollision platform (⟨db, .write around other⟩ :: past) →
    ∃ fault, Store.write platform around other db = (.error fault, db)
  /-- A completion that returned returns the same for its task from then on, and changes nothing. -/
  finished : ∀ moment ∈ past, ∀ first second input outcome, moment.call = .finish first second input →
    moment.answer platform = .ok (some outcome) → ∀ first' second' other,
    other.task.id.column = input.task.id.column → finish platform first' second' other db = (.ok outcome, db)
  /-- A call that throws changes nothing, if it is a write or a completion with an outcome. -/
  thrown : ∀ moment ∈ past, ∀ fault, moment.answer platform = .error fault →
    (∀ first second input, moment.call = .finish first second input → input.outcome ≠ none) →
    moment.after platform = moment.before

theorem ledger_integrity (run : Run platform past db) (apart : NoCollision platform past) :
    Intact platform past db where
  step := fun _ member _ _ found => moment_task run apart member found
  lineage := fun _ member _ _ found => task_lineage run apart member found
  repeated := fun _ member _ stored around => write_again run member stored around
  reused := fun _ member _ stored _ _ sameKey sameTask different apart =>
    key_refused run member stored sameKey sameTask different apart
  finished := fun _ member _ _ _ _ called answered first second _ sameTask =>
    finish_again run apart member called answered first second sameTask
  thrown := by
    rintro ⟨before, call⟩ member fault failed carries
    cases call with
    | write around input =>
        simp only [Moment.answer, Moment.after, Call.perform] at failed ⊢
        cases answered : (Store.write platform around input before).1 with
        | error other => exact write_thrown answered
        | ok value =>
            rw [answered] at failed
            cases failed
    | finish first second input =>
        simp only [Moment.answer, Moment.after, Call.perform] at failed ⊢
        cases answered : (finish platform first second input before).1 with
        | error other => exact finish_thrown (carries first second input rfl) answered
        | ok value =>
            rw [answered] at failed
            cases failed

/-! ### A cancelled task -/

def stopSample : Call := .write sampleSurroundings (cancelSample (js "stopped"))

/-- The tables after the sample was cancelled. -/
def sampleCancelled : Db := (stopSample.perform lengthPlatform sampleCreated).2

def sampleCalls : List Moment := [⟨sampleCreated, stopSample⟩, ⟨.empty, .write sampleSurroundings createSample⟩]

theorem sampleCancelled_run : Run lengthPlatform sampleCalls sampleCancelled :=
  .step sampleCreated_run _

/-- The values that the two calls digest. -/
def sampleValues : List Json :=
  [createSample.toJson, (cancelSample (js "stopped")).toJson, Task.toJson (sampleTask .received),
    Task.toJson (sampleTask .cancelled)]

theorem valid_sampleTask {input : Write} {admitted : Admitted} (status : TaskStatus) (isOpen : status ≠ .completed)
    (given : input.task = sampleTask status) (valid : Valid input admitted) : admitted.task = sampleTask status := by
  have read := valid.task
  rw [given, parse_sampleTask status isOpen] at read
  exact (Option.some.inj read).symm

theorem digested_create {value : Json}
    (digested : Digested ⟨.empty, .write sampleSurroundings createSample⟩ value) : value ∈ sampleValues := by
  cases digested with
  | request writes =>
      cases writes
      exact List.mem_cons_self
  | given writes valid =>
      cases writes
      rw [valid_sampleTask _ (by decide) rfl valid]
      simp [sampleValues]
  | expected writes valid found read changed =>
      cases writes
      cases found

theorem digested_stop {value : Json} (digested : Digested ⟨sampleCreated, stopSample⟩ value) :
    value ∈ sampleValues := by
  cases digested with
  | request writes =>
      cases writes
      simp [sampleValues]
  | given writes valid =>
      cases writes
      rw [valid_sampleTask _ (by decide) rfl valid]
      simp [sampleValues]
  | expected writes valid found read changed =>
      cases writes
      have given := valid_sampleTask .cancelled (by decide) rfl valid
      rw [given] at found changed
      have old := Option.some.inj (found.symm.trans sampleCreated_task)
      rw [old, parse_sampleTask .received (by decide)] at read
      cases read
      have moved : redefined (sampleTask .received) (sampleTask .cancelled) = sampleTask .cancelled := rfl
      rw [moved, parse_sampleTask .cancelled (by decide)] at changed
      cases changed
      simp [sampleValues]

theorem sampleCalls_apart : NoCollision lengthPlatform sampleCalls := by
  have listed : ∀ moment ∈ sampleCalls, ∀ value, Digested moment value → value ∈ sampleValues := by
    intro moment member value digested
    simp only [sampleCalls, List.mem_cons, List.not_mem_nil, or_false] at member
    rcases member with rfl | rfl
    · exact digested_stop digested
    · exact digested_create digested
  have apart : (sampleValues.map (digest lengthPlatform.sha256)).Nodup := by
    decide +kernel
  intro first here second there one other oneDigested otherDigested same
  exact List.inj_on_of_nodup_map apart (listed first here one oneDigested) (listed second there other otherDigested)
    same

theorem sampleCancelled_intact : Intact lengthPlatform sampleCalls sampleCancelled :=
  ledger_integrity sampleCancelled_run sampleCalls_apart

/-- A completion answers under a key that another input has used, once its task has an outcome. -/
theorem finish_answers_reused_key :
    ¬ ∀ past db, Run lengthPlatform past db → ∀ first second other row,
      db.event? other.task.id other.key = some row → row.requestDigest ≠ requestDigest lengthPlatform other →
      ∃ fault, (finish lengthPlatform first second other db).1 = .error fault := by
  intro rejects
  have evaluated : (sampleCancelled.event? sampleTaskId (js "cancel")).isSome = true ∧
      (sampleCancelled.event? sampleTaskId (js "cancel")).all (fun row =>
        row.requestDigest ≠ requestDigest lengthPlatform (cancelSample (js "stopped later"))) = true ∧
      (finish lengthPlatform sampleSurroundings sampleSurroundings
        (cancelSample (js "stopped later")) sampleCancelled).1.isOk = true := by
    decide +kernel
  obtain ⟨present, hashes, answered⟩ := evaluated
  obtain ⟨row, found⟩ := Option.isSome_iff_exists.mp present
  rw [found, Option.all_some, decide_eq_true_eq] at hashes
  obtain ⟨fault, failed⟩ := rejects sampleCalls sampleCancelled sampleCancelled_run sampleSurroundings
    sampleSurroundings (cancelSample (js "stopped later")) row found hashes
  rw [failed] at answered
  cases answered

end KernelJson.Ledger.Integrity
