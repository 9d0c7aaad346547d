import KernelJson.Ledger.Effects
import Mathlib.Logic.Relation

/-!
# Invariants of the ledger

What one effect does to a stored task, and what every run keeps: stored tasks
and outcomes are read as themselves, a recorded terminal result belongs to a
task that rests, and every event came from a write of the run.
-/

namespace KernelJson.Ledger.Invariants

open Contracts.Common
open Contracts.Digest
open Contracts.Outcome
open Contracts.Platform
open Contracts.Records
open Contracts.Task
open Foundation
open Foundation.JsText
open Ledger.Effects
open Ledger.Store

/-! ## Tasks -/

/-- Only the status and the times of starting and completing differ. -/
def SameDefinition (old new : Task) : Prop :=
  new = { old with status := new.status, startedAt := new.startedAt, completedAt := new.completedAt }

theorem SameDefinition.refl (task : Task) : SameDefinition task task := rfl

theorem SameDefinition.trans {first second third : Task} (one : SameDefinition first second)
    (two : SameDefinition second third) : SameDefinition first third := by
  unfold SameDefinition at one two ⊢
  rw [two, one]

/-- What one call may do to a stored task. -/
structure Evolves (old new : Task) : Prop where
  definition : SameDefinition old new
  status : new.status = old.status ∨ Transition old.status new.status
  rests : old.status.Terminal → new = old

theorem Evolves.refl (task : Task) : Evolves task task :=
  ⟨.refl task, .inl rfl, fun _ => rfl⟩

/-- What any number of calls may do to a stored task. -/
structure Lineage (old new : Task) : Prop where
  definition : SameDefinition old new
  status : Relation.ReflTransGen Transition old.status new.status
  rests : old.status.Terminal → new = old

theorem Lineage.refl (task : Task) : Lineage task task :=
  ⟨.refl task, .refl, fun _ => rfl⟩

theorem Lineage.tail {first second third : Task} (earlier : Lineage first second) (evolves : Evolves second third) :
    Lineage first third := by
  refine ⟨earlier.definition.trans evolves.definition, ?_, fun terminal => ?_⟩
  · rcases evolves.status with same | moved
    · rw [same]
      exact earlier.status
    · exact earlier.status.tail moved
  · have same := earlier.rests terminal
    rw [same] at evolves
    exact evolves.rests terminal

/-- A task that was read is read the same after its status and times changed. -/
theorem parse_redefined {original task expected : Task} (read : original.parse = some original)
    (changed : (redefined original task).parse = some expected) : expected = redefined original task := by
  simp only [Task.parse, Option.bind_eq_bind, Option.bind_eq_some_iff] at read changed
  obtain ⟨objective, objectiveRead, criteria, criteriaRead, constraints, constraintsRead, accepted⟩ := read
  obtain ⟨objective', objectiveRead', criteria', criteriaRead', constraints', constraintsRead', accepted'⟩ := changed
  split at accepted
  · have same := Option.some.inj accepted
    split at accepted'
    · cases accepted'
      have objectives : objective' = objective := Option.some.inj (objectiveRead'.symm.trans objectiveRead)
      have lists : criteria' = criteria := Option.some.inj (criteriaRead'.symm.trans criteriaRead)
      have limits : constraints' = constraints := Option.some.inj (constraintsRead'.symm.trans constraintsRead)
      subst objectives lists limits
      have parts : original.objective = objective' ∧ original.acceptanceCriteria = criteria' ∧
          original.constraints = constraints' := by
        rw [← same]
        exact ⟨rfl, rfl, rfl⟩
      simp only [redefined, ← parts.1, ← parts.2.1, ← parts.2.2]
    · cases accepted'
  · cases accepted

/-- Stored tasks are read as themselves, under identifiers as their column holds them. -/
def Stored (db : Db) : Prop :=
  ∀ task ∈ db.tasks, task.parse = some task ∧ task.id.column = task.id

theorem task?_mem {db : Db} {id : Id} {task : Task} (found : db.task? id = some task) : task ∈ db.tasks :=
  List.mem_of_find?_eq_some found

theorem task?_id {db : Db} {id : Id} {task : Task} (found : db.task? id = some task) : task.id = id.column := by
  have accepted := List.find?_some found
  simpa only [decide_eq_true_eq] using accepted

theorem task?_withTask (db : Db) (task : Task) (id : Id) : (Db.withTask db task).task? id =
    (db.task? id).or (if task.id = id.column then some task else none) := by
  simp only [Db.task?, Db.withTask, List.find?_append, List.find?_cons, List.find?_nil]
  by_cases same : task.id = id.column
  · simp only [same, decide_true, if_true]
  · simp only [same, decide_false, if_false]

theorem find?_replaced (rows : List Task) (task : Task) (id : Id) :
    (rows.map fun row => if row.id = task.id then task else row).find? (fun row => row.id = id) =
      (rows.find? fun row => row.id = id).map fun row => if row.id = task.id then task else row := by
  induction rows with
  | nil => rfl
  | cons row rest ih =>
      have kept : (if row.id = task.id then task else row).id = row.id := by
        split
        · next same => exact same.symm
        · rfl
      simp only [List.map_cons, List.find?_cons, kept]
      by_cases here : row.id = id
      · simp only [here, decide_true, Option.map_some]
      · simp only [here, decide_false, ih]

theorem task?_withUpdate (db : Db) (task : Task) (updatedAt : Timestamp) (id : Id) :
    (Db.withUpdate db task updatedAt).task? id =
      (db.task? id).map fun row => if row.id = task.id then task else row :=
  find?_replaced db.tasks task id.column

theorem projected_task? {platform : Platform} {input : Write} {admitted : Admitted} {moved after : Db}
    (projected : Projected platform input admitted moved after) (id : Id) : after.task? id = moved.task? id := by
  simp only [Db.task?, projected.tasks]

/-! ## Collisions -/

/-- A value that a call digests: one of its requests, or a definition that it compares. -/
inductive Digested (moment : Moment) : Json → Prop where
  | request {around : Surroundings} {input : Write} (writes : Writes moment.call around input) :
      Digested moment input.toJson
  | given {around : Surroundings} {input : Write} {admitted : Admitted} (writes : Writes moment.call around input)
      (valid : Valid input admitted) : Digested moment (Task.toJson admitted.task)
  | expected {around : Surroundings} {input : Write} {admitted : Admitted} {old original task : Task}
      (writes : Writes moment.call around input) (valid : Valid input admitted)
      (found : moment.before.task? admitted.task.id = some old) (read : old.parse = some original)
      (changed : (redefined original admitted.task).parse = some task) : Digested moment (Task.toJson task)

/-- The hash has no collision among the values that the calls digest. -/
def NoCollision (platform : Platform) (past : List Moment) : Prop :=
  ∀ first ∈ past, ∀ second ∈ past, ∀ one other, Digested first one → Digested second other →
    digest platform.sha256 one = digest platform.sha256 other → one = other

variable {platform : Platform}

theorem NoCollision.mono {past fewer : List Moment} (apart : NoCollision platform past)
    (included : ∀ moment ∈ fewer, moment ∈ past) : NoCollision platform fewer :=
  fun first one second two => apart first (included first one) second (included second two)

/-- A later write keeps the definition. -/
theorem advances_evolves {around : Surroundings} {input : Write} {admitted : Admitted} {db : Db} {old : Task}
    {call : Call} (advances : Advances platform around input admitted db old)
    (apart : NoCollision platform [⟨db, call⟩]) (writes : Writes call around input) (valid : Valid input admitted)
    (found : db.task? admitted.task.id = some old) (stored : Stored db) : Evolves old admitted.task := by
  obtain ⟨original, expected, read, changed, same⟩ := advances.redefined
  have self := (stored old (task?_mem found)).1
  have originalSame : original = old := Option.some.inj (read.symm.trans self)
  subst originalSame
  have values := apart _ List.mem_cons_self _ List.mem_cons_self _ _
    (.expected writes valid found read changed) (.given writes valid) same
  have equal : admitted.task = redefined original admitted.task :=
    (Task.toJson_injective values).symm.trans (parse_redefined self changed)
  refine ⟨?_, ?_, fun terminal => absurd terminal advances.isOpen⟩
  · unfold SameDefinition
    generalize admitted.task = task at equal
    rw [equal]
    rfl
  · exact advances.moves.imp Eq.symm id

/-- What an effect does to a stored task. -/
theorem effect_task {around : Surroundings} {input : Write} {db after : Db} {call : Call}
    (effect : Effect platform around input db after) (apart : NoCollision platform [⟨db, call⟩])
    (writes : Writes call around input) (stored : Stored db) {id : Id} {old : Task}
    (found : db.task? id = some old) : ∃ new, after.task? id = some new ∧ Evolves old new := by
  cases effect with
  | replayed valid prior same => exact ⟨old, found, .refl old⟩
  | created valid unused absent received canonical projected =>
      refine ⟨old, ?_, .refl old⟩
      rw [projected_task? projected, task?_withTask, found, Option.some_or]
  | @advanced admitted current after valid unused here advances projected =>
      have keeps := advances.keeps.1
      rw [projected_task? projected, task?_withUpdate, found, Option.map_some]
      by_cases same : old.id = admitted.task.id
      · have ids : id.column = admitted.task.id.column := by
          rw [← task?_id found, same, keeps]
          exact (stored current (task?_mem here)).2.symm
        have one : current = old := by
          have lookup : db.task? admitted.task.id = db.task? id := by
            simp only [Db.task?, ids]
          exact Option.some.inj (here.symm.trans (lookup.trans found))
        subst one
        exact ⟨admitted.task, by rw [if_pos same], advances_evolves advances apart writes valid here stored⟩
      · exact ⟨old, by rw [if_neg same], .refl old⟩

theorem effect_stored {around : Surroundings} {input : Write} {db after : Db}
    (effect : Effect platform around input db after) (stored : Stored db) : Stored after := by
  cases effect with
  | replayed valid prior same => exact stored
  | created valid unused absent received canonical projected =>
      intro task member
      rw [projected.tasks] at member
      rcases List.mem_append.mp member with before | added
      · exact stored task before
      · cases List.mem_singleton.mp added
        exact ⟨valid.task_again, canonical⟩
  | @advanced admitted current after valid unused here advances projected =>
      intro task member
      rw [projected.tasks] at member
      obtain ⟨row, inside, same⟩ := List.mem_map.mp member
      split at same
      · cases same
        refine ⟨valid.task_again, ?_⟩
        rw [advances.keeps.1]
        exact (stored current (task?_mem here)).2
      · rw [← same]
        exact stored row inside

/-! ## Results -/

/-- What the tables of results and of events keep. -/
structure Sound (platform : Platform) (past : List Moment) (db : Db) : Prop where
  stored : Stored db
  results : ∀ result ∈ db.terminalResults, ∃ task, db.task? result.taskId = some task ∧ task.status.Terminal
  outcomes : ∀ row ∈ db.outcomes, row.contract.parse = some row.contract
  tasks : ∀ row ∈ db.events, (db.task? row.taskId).isSome = true
  origins : ∀ row ∈ db.events, ∃ moment ∈ past, ∃ around input admitted, Writes moment.call around input ∧
    Valid input admitted ∧ row.taskId = admitted.task.id.column ∧ row.key = input.key ∧
    row.requestDigest = requestDigest platform input ∧
    ∀ outcome ∈ admitted.outcome, db.outcome? admitted.task.id = some outcome

theorem outcome?_projected {input : Write} {admitted : Admitted} {moved after : Db}
    (projected : Projected platform input admitted moved after) (id : Id) :
    after.outcome? id = (moved.outcome? id).or
      (admitted.outcome.bind fun outcome => if outcome.taskId = id.column then some outcome else none) := by
  simp only [Db.outcome?, projected.outcomes, List.find?_append]
  cases moved.outcomes.find? fun row => row.contract.taskId = id.column with
  | some row => rfl
  | none =>
      cases admitted.outcome with
      | none => rfl
      | some outcome =>
          simp only [Option.map_some, Option.toList_some, List.find?_cons, List.find?_nil, Option.none_or,
            Option.map_none, Option.bind_some]
          by_cases same : outcome.taskId = id.column
          · simp only [same, decide_true, if_true, Option.map_some]
          · simp only [same, decide_false, if_false, Option.map_none]

/-- An outcome that a new write carries is read afterwards. -/
theorem outcome?_new {input : Write} {admitted : Admitted} {moved after : Db}
    (projected : Projected platform input admitted moved after) {outcome : Outcome}
    (given : admitted.outcome = some outcome) : after.outcome? admitted.task.id = some outcome := by
  obtain ⟨named, only⟩ := projected.onlyOutcome outcome given
  have before : moved.outcome? admitted.task.id = none := by
    simp only [Db.outcome?, Option.map_eq_none_iff, List.find?_eq_none, decide_eq_true_eq]
    exact only
  rw [outcome?_projected projected, before, given, Option.none_or, Option.bind_some, if_pos named]

theorem outcome?_kept {around : Surroundings} {input : Write} {db after : Db}
    (effect : Effect platform around input db after) {id : Id} {outcome : Outcome}
    (found : db.outcome? id = some outcome) : after.outcome? id = some outcome := by
  cases effect with
  | replayed valid prior same => exact found
  | created valid unused absent received canonical projected =>
      rw [outcome?_projected projected]
      exact congrArg (Option.or · _) found
  | advanced valid unused here advances projected =>
      rw [outcome?_projected projected]
      exact congrArg (Option.or · _) found

/-- A result that the trigger recorded, or one that was there. -/
theorem mem_recordTerminalResult {task : Task} {updatedAt : Timestamp} {results : List Outcome} {result : Outcome}
    (member : result ∈ recordTerminalResult task updatedAt results) :
    result ∈ results ∨ ∃ status, triggered task.status = some status ∧
      result = terminalContract task status updatedAt := by
  unfold recordTerminalResult at member
  split at member
  · exact .inl member
  · next status present =>
      split at member
      · exact .inl member
      · rcases List.mem_append.mp member with before | added
        · exact .inl before
        · exact .inr ⟨status, present, List.mem_singleton.mp added⟩

theorem triggered_terminal {status : TaskStatus} {result : OutcomeStatus} (given : triggered status = some result) :
    status.Terminal ∧ result.taskStatus = status := by
  cases status <;> cases given
  · exact ⟨.inr (.inl rfl), rfl⟩
  · exact ⟨.inr (.inr rfl), rfl⟩

theorem task?_column (db : Db) (id : Id) : db.task? id.column = db.task? id := by
  simp only [Db.task?, Id.column_column]

theorem task?_of_column {db : Db} {first second : Id} (same : first.column = second.column) :
    db.task? first = db.task? second := by
  simp only [Db.task?, same]

/-- A terminal task is the same after every effect. -/
theorem terminal_kept {around : Surroundings} {input : Write} {db after : Db}
    (effect : Effect platform around input db after) (stored : Stored db) {id : Id} {old : Task}
    (found : db.task? id = some old) (terminal : old.status.Terminal) : after.task? id = some old := by
  cases effect with
  | replayed valid prior same => exact found
  | created valid unused absent received canonical projected =>
      rw [projected_task? projected, task?_withTask, found, Option.some_or]
  | @advanced admitted current after valid unused here advances projected =>
      rw [projected_task? projected, task?_withUpdate, found, Option.map_some]
      have other : old.id ≠ admitted.task.id := by
        intro same
        have ids : admitted.task.id.column = id.column := by
          rw [← same, (stored old (task?_mem found)).2, task?_id found]
        have one : current = old := Option.some.inj (here.symm.trans ((task?_of_column ids).trans found))
        exact advances.isOpen (one ▸ terminal)
      rw [if_neg other]

theorem isSome_task?_kept {around : Surroundings} {input : Write} {db after : Db}
    (effect : Effect platform around input db after) {id : Id} (present : (db.task? id).isSome = true) :
    (after.task? id).isSome = true := by
  obtain ⟨old, found⟩ := Option.isSome_iff_exists.mp present
  cases effect with
  | replayed valid prior same => exact present
  | created valid unused absent received canonical projected =>
      rw [projected_task? projected, task?_withTask, found, Option.some_or, Option.isSome_some]
  | advanced valid unused here advances projected =>
      rw [projected_task? projected, task?_withUpdate, found, Option.map_some, Option.isSome_some]

/-- The task of a write that was not repeated is stored afterwards as the write gives it. -/
theorem task?_created {db : Db} {task : Task} (absent : db.task? task.id = none)
    (canonical : task.id.column = task.id) : (Db.withTask db task).task? task.id = some task := by
  rw [task?_withTask, absent, Option.none_or, if_pos canonical.symm]

theorem task?_updated {db : Db} {old task : Task} (found : db.task? task.id = some old)
    (keeps : KeepsColumns old task) (updatedAt : Timestamp) :
    (Db.withUpdate db task updatedAt).task? task.id = some task := by
  rw [task?_withUpdate, found, Option.map_some, if_pos keeps.1.symm]

/-- The event of a new write, and where it came from. -/
theorem origin_new {call : Call} {around : Surroundings} {input : Write} {admitted : Admitted} {db moved after : Db}
    {past : List Moment} (writes : Writes call around input) (valid : Valid input admitted)
    (projected : Projected platform input admitted moved after) :
    ∃ moment ∈ (⟨db, call⟩ :: past : List Moment), ∃ around given read, Writes moment.call around given ∧
      Valid given read ∧ (eventRow platform input admitted).taskId = read.task.id.column ∧
      (eventRow platform input admitted).key = given.key ∧
      (eventRow platform input admitted).requestDigest = requestDigest platform given ∧
      ∀ outcome ∈ read.outcome, after.outcome? read.task.id = some outcome :=
  ⟨_, List.mem_cons_self, around, input, admitted, writes, valid, rfl, rfl, rfl,
    fun _ given => outcome?_new projected given⟩

section Steps

variable {call : Call} {around : Surroundings} {input : Write} {db after : Db} {past : List Moment}

theorem origins_kept (effect : Effect platform around input db after) (sound : Sound platform past db)
    {row : EventRow} (member : row ∈ db.events) :
    ∃ moment ∈ (⟨db, call⟩ :: past : List Moment), ∃ around input admitted, Writes moment.call around input ∧
      Valid input admitted ∧ row.taskId = admitted.task.id.column ∧ row.key = input.key ∧
      row.requestDigest = requestDigest platform input ∧
      ∀ outcome ∈ admitted.outcome, after.outcome? admitted.task.id = some outcome := by
  obtain ⟨moment, before, around, given, admitted, writes, valid, ofTask, key, hash, outcomes⟩ :=
    sound.origins row member
  exact ⟨moment, List.mem_cons_of_mem _ before, around, given, admitted, writes, valid, ofTask, key, hash,
    fun outcome present => outcome?_kept effect (outcomes outcome present)⟩

theorem results_kept (effect : Effect platform around input db after) (sound : Sound platform past db)
    {result : Outcome} (member : result ∈ db.terminalResults) :
    ∃ task, after.task? result.taskId = some task ∧ task.status.Terminal := by
  obtain ⟨task, found, terminal⟩ := sound.results result member
  exact ⟨task, terminal_kept effect sound.stored found terminal, terminal⟩

theorem outcomes_projected {admitted : Admitted} {moved : Db} (valid : Valid input admitted)
    (projected : Projected platform input admitted moved after)
    (before : ∀ row ∈ moved.outcomes, row.contract.parse = some row.contract) :
    ∀ row ∈ after.outcomes, row.contract.parse = some row.contract := by
  intro row member
  rw [projected.outcomes] at member
  rcases List.mem_append.mp member with old | added
  · exact before row old
  · simp only [Option.mem_toList, Option.map_eq_some_iff] at added
    obtain ⟨outcome, given, rfl⟩ := added
    exact valid.outcome_again given

theorem effect_sound (effect : Effect platform around input db after) (writes : Writes call around input)
    (sound : Sound platform past db) : Sound platform (⟨db, call⟩ :: past) after := by
  have whole := effect
  cases effect with
  | replayed valid prior same =>
      exact
        { stored := sound.stored
          results := sound.results
          outcomes := sound.outcomes
          tasks := sound.tasks
          origins := fun row member => origins_kept whole sound member }
  | @created admitted after valid unused absent received canonical projected =>
      refine
        { stored := effect_stored whole sound.stored
          results := ?_
          outcomes := outcomes_projected valid projected sound.outcomes
          tasks := ?_
          origins := ?_ }
      · intro result member
        rw [projected.terminalResults] at member
        exact results_kept whole sound member
      · intro row member
        rw [projected.events] at member
        rcases List.mem_append.mp member with before | added
        · exact isSome_task?_kept whole (sound.tasks row before)
        · rw [List.mem_singleton.mp added, eventRow, task?_column, projected_task? projected,
            task?_created absent canonical, Option.isSome_some]
      · intro row member
        rw [projected.events] at member
        rcases List.mem_append.mp member with before | added
        · exact origins_kept whole sound before
        · rw [List.mem_singleton.mp added]
          exact origin_new writes valid projected
  | @advanced admitted old after valid unused found advances projected =>
      have updated := task?_updated found advances.keeps input.event.occurredAt
      refine
        { stored := effect_stored whole sound.stored
          results := ?_
          outcomes := outcomes_projected valid projected sound.outcomes
          tasks := ?_
          origins := ?_ }
      · intro result member
        rw [projected.terminalResults] at member
        rcases mem_recordTerminalResult member with before | ⟨status, given, rfl⟩
        · exact results_kept whole sound before
        · refine ⟨admitted.task, ?_, (triggered_terminal given).1⟩
          rw [projected_task? projected]
          exact updated
      · intro row member
        rw [projected.events] at member
        rcases List.mem_append.mp member with before | added
        · exact isSome_task?_kept whole (sound.tasks row before)
        · rw [List.mem_singleton.mp added, eventRow, task?_column, projected_task? projected, updated,
            Option.isSome_some]
      · intro row member
        rw [projected.events] at member
        rcases List.mem_append.mp member with before | added
        · exact origins_kept whole sound before
        · rw [List.mem_singleton.mp added]
          exact origin_new writes valid projected

end Steps

theorem sound_run {past : List Moment} {db : Db} (run : Run platform past db) : Sound platform past db := by
  refine Run.kept (Sound platform) ?_ ?_ ?_ run
  · exact
      { stored := fun _ member => absurd member List.not_mem_nil
        results := fun _ member => absurd member List.not_mem_nil
        outcomes := fun _ member => absurd member List.not_mem_nil
        tasks := fun _ member => absurd member List.not_mem_nil
        origins := fun _ member => absurd member List.not_mem_nil }
  · intro past db call sound same
    refine { sound with origins := fun row member => ?_ }
    obtain ⟨moment, before, rest⟩ := sound.origins row member
    exact ⟨moment, List.mem_cons_of_mem _ before, rest⟩
  · intro past db call around input after sound writes same effect
    exact effect_sound effect writes sound

/-! ## A sample -/

def lengthHash (text : JsString) : HexDigest :=
  HexDigest.ofDigits [text.length, text.length / 16, text.length / 256, text.length / 4096]

/-- A platform that hashes a text to its length. -/
def lengthPlatform : Platform := { Platform.ascii with sha256 := lengthHash }

def sampleSurroundings : Surroundings where
  admits := true
  effectsResolved := true
  cognition := fun _ _ => true
  briefVerified := true
  approvedContentSha256 := none
  stores := true

def sampleTaskId : Id := ⟨js "71000000-0000-4000-8000-000000000001", by decide +kernel⟩

def samplePrincipal : PrincipalRef := ⟨⟨js "71000000-0000-4000-8000-000000000002", by decide +kernel⟩, .human⟩

def sampleTraceId : Id := ⟨js "71000000-0000-4000-8000-000000000003", by decide +kernel⟩

def createdId : Id := ⟨js "71000000-0000-4000-8000-000000000004", by decide +kernel⟩

def cancelledId : Id := ⟨js "71000000-0000-4000-8000-000000000005", by decide +kernel⟩

def sampleTask (status : TaskStatus) : Task where
  id := sampleTaskId
  parentTaskId := none
  principal := samplePrincipal
  tenant := ⟨⟨js "71000000-0000-4000-8000-000000000006", by decide +kernel⟩⟩
  objective := js "a"
  acceptanceCriteria := [Planner.Plan.criteria .uppercase]
  constraints := []
  riskClass := .low
  budget := none
  deadline := none
  status := status
  traceId := sampleTraceId
  createdAt := .epoch
  startedAt := none
  completedAt := none

def sampleEvent (id : Id) (type : TaskEventType) : TaskEvent :=
  ⟨id, sampleTaskId, none, type, .epoch, samplePrincipal, sampleTraceId, .obj []⟩

def createSample : Write where
  key := js "create"
  task := sampleTask .received
  event := sampleEvent createdId .taskCreated
  step := none
  steps := none
  evidence := none
  outcome := none

def cancelSample (summary : JsString) : Write where
  key := js "cancel"
  task := sampleTask .cancelled
  event := sampleEvent cancelledId .taskCancelled
  step := none
  steps := none
  evidence := none
  outcome := some
    { taskId := sampleTaskId
      status := .cancelled
      acceptanceResults := []
      evidenceRefs := []
      summary := summary
      completedAt := .epoch }

/-- The tables after the sample was created. -/
def sampleCreated : Db := ((Call.write sampleSurroundings createSample).perform lengthPlatform .empty).2

theorem sampleCreated_run : Run lengthPlatform [⟨.empty, .write sampleSurroundings createSample⟩] sampleCreated :=
  .step .start _

theorem sampleCreated_task : sampleCreated.task? sampleTaskId = some (sampleTask .received) := by
  decide

theorem sampleTexts_read : parseText (js "a") = some (js "a") ∧
    [Planner.Plan.criteria .uppercase].mapM parseText = some [Planner.Plan.criteria .uppercase] := by
  decide

theorem parse_of_trimmed {task : Task} (objective : parseText task.objective = some task.objective)
    (criteria : task.acceptanceCriteria.mapM parseText = some task.acceptanceCriteria)
    (constraints : task.constraints.mapM parseText = some task.constraints)
    (nonempty : task.acceptanceCriteria ≠ [])
    (budget : task.budget.all (fun budget => isCurrency budget.currency) = true) (refined : task.Refined) :
    task.parse = some task := by
  simp only [Task.parse, objective, criteria, constraints, Option.bind_eq_bind, Option.bind_some]
  exact if_pos ⟨nonempty, budget, refined⟩

theorem parse_sampleTask (status : TaskStatus) (isOpen : status ≠ .completed) :
    (sampleTask status).parse = some (sampleTask status) := by
  obtain ⟨objective, criteria⟩ := sampleTexts_read
  have refined : (sampleTask status).Refined :=
    ⟨(Option.some_ne_none _).symm, fun completed => absurd completed isOpen,
      fun started member => absurd member (Option.not_mem_none started),
      fun ended member => absurd member (Option.not_mem_none ended)⟩
  have nonempty : (sampleTask status).acceptanceCriteria ≠ [] := List.cons_ne_nil _ _
  exact parse_of_trimmed objective criteria rfl nonempty rfl refined

end KernelJson.Ledger.Invariants
