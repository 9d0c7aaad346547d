import KernelJson.Gateway.Admission

/-!
# The admission door under concurrency

Any number of requests are served at once.  The first transaction of a request
waits for the advisory lock of its key, looks for what is remembered under the
key, and admits the request if there is nothing; the second one dispatches.  A
request may be lost at any point, with the lock it holds and the writes it has
not committed.  `Idempotent` says what every reachable state guarantees.
-/

namespace KernelJson.Gateway.Door

open Contracts.Common
open Contracts.Identity
open Contracts.Intent
open Contracts.Platform
open Contracts.Task
open Foundation
open Foundation.JsText
open Gateway.Admission
open Planner.Plan

/-! ## States -/

/-- How far a handler has come with its request. -/
inductive Stage where
  | idle
  | waiting (ask : Ask)
  | holding (ask : Ask)
  | storing (ask : Ask) (payload : KernelSubmission) (task : Task)
  | accepted (ask : Ask) (accepted : Accepted)
  | dispatched (ask : Ask) (accepted : Accepted) (status : DispatchStatus)

/-- The request whose lock is held at this stage. -/
def Stage.locked? : Stage → Option Ask
  | .holding ask => some ask
  | .storing ask _ _ => some ask
  | _ => none

inductive Event where
  | received (ask : Ask)
  | refused (ask : Ask) (refusal : Refusal)
  | admitted (ask : Ask) (row : Admission)
  | called (ask : Ask) (accepted : Accepted)
  | answered (ask : Ask) (taskId : Id) (status : DispatchStatus)

/-- The tables, the handlers, and what has happened, newest first. -/
structure Door where
  tables : Tables
  stages : Nat → Stage
  past : List Event

def Door.start : Door := ⟨.empty, fun _ => .idle, []⟩

namespace Door

/-- A handler reaches a stage. -/
def move (door : Door) (handler : Nat) (stage : Stage) : Door :=
  ⟨door.tables, fun other => if other = handler then stage else door.stages other, door.past⟩

def log (door : Door) (event : Event) : Door := ⟨door.tables, door.stages, event :: door.past⟩

def write (door : Door) (tables : Tables) : Door := ⟨tables, door.stages, door.past⟩

/-- The handlers that a crash takes lose their requests. -/
def lose (door : Door) (taken : Nat → Bool) : Door :=
  ⟨door.tables, fun handler => if taken handler then .idle else door.stages handler, door.past⟩

end Door

/-- The dispatch of the second transaction with its two events. -/
def recordDispatch (tables : Tables) (taskId : Id) (status : DispatchStatus) : Tables :=
  { tables with dispatchEvents := tables.dispatchEvents ++ [⟨taskId, .requested⟩, ⟨taskId, status⟩] }

/-! ## Steps -/

variable (config : Config)

/-- No other handler holds the lock that the request waits for. -/
def Free (door : Door) (ask : Ask) : Prop :=
  ∀ handler held, (door.stages handler).locked? = some held → lock config held ≠ lock config ask

inductive Step (door : Door) : Door → Prop where
  | receive (handler : Nat) (request : Request) (ask : Ask) (idle : door.stages handler = .idle)
      (read : readRequest config request = .ok ask) :
      Step door ((door.move handler (.waiting ask)).log (.received ask))
  | deny (handler : Nat) (members : Memberships) (admits : Bool) (ask : Ask) (refusal : Refusal)
      (waits : door.stages handler = .waiting ask) (denied : enter members admits ask = .error refusal) :
      Step door ((door.move handler .idle).log (.refused ask refusal))
  | acquire (handler : Nat) (members : Memberships) (admits : Bool) (ask : Ask)
      (waits : door.stages handler = .waiting ask) (entered : enter members admits ask = .ok ())
      (free : Free config door ask) :
      Step door (door.move handler (.holding ask))
  | resume (handler : Nat) (ask : Ask) (accepted : Accepted) (holds : door.stages handler = .holding ask)
      (recalled : remembered config door.tables ask = .ok (some accepted)) :
      Step door (door.move handler (.accepted ask accepted))
  | refuse (handler : Nat) (ask : Ask) (refusal : Refusal) (holds : door.stages handler = .holding ask)
      (refused : remembered config door.tables ask = .error refusal) :
      Step door ((door.move handler .idle).log (.refused ask refusal))
  | compose (handler : Nat) (ask : Ask) (now : Timestamp) (payload : KernelSubmission) (task : Task)
      (holds : door.stages handler = .holding ask) (fresh : remembered config door.tables ask = .ok none)
      (composed : compose config now ask = .ok (payload, task)) :
      Step door (door.move handler (.storing ask payload task))
  | reject (handler : Nat) (ask : Ask) (now : Timestamp) (refusal : Refusal)
      (holds : door.stages handler = .holding ask) (fresh : remembered config door.tables ask = .ok none)
      (rejected : compose config now ask = .error refusal) :
      Step door ((door.move handler .idle).log (.refused ask refusal))
  | admitNew (handler : Nat) (ask : Ask) (payload : KernelSubmission) (task : Task) (accepted : Accepted)
      (tables : Tables) (stores : door.stages handler = .storing ask payload task)
      (stored : store config door.tables ask payload task = .ok (accepted, tables)) :
      Step door (((door.write tables).move handler (.accepted ask accepted)).log
        (.admitted ask (admissionOf config ask payload task)))
  | fail (handler : Nat) (ask : Ask) (payload : KernelSubmission) (task : Task) (refusal : Refusal)
      (stores : door.stages handler = .storing ask payload task)
      (failed : store config door.tables ask payload task = .error refusal) :
      Step door ((door.move handler .idle).log (.refused ask refusal))
  | call (handler : Nat) (members : Memberships) (ask : Ask) (accepted : Accepted) (status : DispatchStatus)
      (goes : door.stages handler = .accepted ask accepted)
      (authorized : Authorized members ask.context .submit) :
      Step door ((door.move handler (.dispatched ask accepted status)).log (.called ask accepted))
  | finish (handler : Nat) (ask : Ask) (accepted : Accepted) (status : DispatchStatus)
      (goes : door.stages handler = .dispatched ask accepted status) :
      Step door (((door.write (recordDispatch door.tables accepted.binding.taskId status)).move handler .idle).log
        (.answered ask accepted.binding.taskId status))
  | crash (taken : Nat → Bool) : Step door (door.lose taken)

inductive Reachable : Door → Prop where
  | start : Reachable .start
  | step {door next : Door} (reached : Reachable door) (taken : Step config door next) : Reachable next

/-! ## What stages and events say -/

/-- The row was stored by a request that was received, with its digests and its submission. -/
structure Stored (past : List Event) (ask : Ask) (row : Admission) : Prop where
  received : .received ask ∈ past
  caller : row.caller = ask.caller config
  request : row.requestDigest = requestDigest config ask
  payload : row.payload.parse = some row.payload
  recipe : row.payload.recipe = ask.input.recipe
  objective : row.payload.intent.objective = ask.input.objective

/-- What a request goes on with is what an admission under its key and of its submission stored. -/
def Resumes (tables : Tables) (ask : Ask) (accepted : Accepted) : Prop :=
  ∃ row ∈ tables.admissions, row.caller = ask.caller config ∧ row.requestDigest = requestDigest config ask ∧
    accepted.payload = row.payload ∧ accepted.binding.taskId = row.taskId

/-- No admission stands under the key of the request. -/
def Fresh (tables : Tables) (ask : Ask) : Prop :=
  ∀ row ∈ tables.admissions, row.caller ≠ ask.caller config

def StageOk (tables : Tables) (past : List Event) : Stage → Prop
  | .idle => True
  | .waiting ask => .received ask ∈ past
  | .holding ask => .received ask ∈ past
  | .storing ask payload _ =>
      .received ask ∈ past ∧ Fresh config tables ask ∧ payload.parse = some payload ∧
        payload.recipe = ask.input.recipe ∧ payload.intent.objective = ask.input.objective
  | .accepted ask accepted => .received ask ∈ past ∧ Resumes config tables ask accepted
  | .dispatched ask accepted _ => .called ask accepted ∈ past

def EventOk (tables : Tables) (past : List Event) : Event → Prop
  | .received _ => True
  | .refused ask _ => .received ask ∈ past
  | .admitted ask row => row ∈ tables.admissions ∧ Stored config past ask row
  | .called ask accepted => .received ask ∈ past ∧ Resumes config tables ask accepted
  | .answered ask taskId _ => ∃ accepted, accepted.binding.taskId = taskId ∧ .called ask accepted ∈ past

/-- A lock is held by one handler at a time. -/
def Alone (door : Door) : Prop :=
  ∀ first second held other, (door.stages first).locked? = some held → (door.stages second).locked? = some other →
    lock config held = lock config other → first = second

/-- What every reachable state keeps. -/
structure Invariant (door : Door) : Prop where
  callers : (door.tables.admissions.map Admission.caller).Nodup
  taskIds : (door.tables.admissions.map Admission.taskId).Nodup
  paired : door.tables.bindings.map ExecutionBinding.taskId = door.tables.admissions.map Admission.taskId
  rows : ∀ row ∈ door.tables.admissions, ∃ ask, .admitted ask row ∈ door.past
  stages : ∀ handler, StageOk config door.tables door.past (door.stages handler)
  events : ∀ event ∈ door.past, EventOk config door.tables door.past event
  alone : Alone config door

variable {config}

theorem Stored.later {past more : List Event} {ask : Ask} {row : Admission} (stored : Stored config past ask row)
    (grown : past ⊆ more) : Stored config more ask row :=
  { stored with received := grown stored.received }

theorem StageOk.later {tables : Tables} {past more : List Event} {stage : Stage}
    (ok : StageOk config tables past stage) (grown : past ⊆ more) : StageOk config tables more stage := by
  cases stage with
  | idle => trivial
  | waiting ask => exact grown ok
  | holding ask => exact grown ok
  | storing ask payload task => exact ⟨grown ok.1, ok.2⟩
  | accepted ask accepted => exact ⟨grown ok.1, ok.2⟩
  | dispatched ask accepted status => exact grown ok

theorem EventOk.later {tables : Tables} {past more : List Event} {event : Event}
    (ok : EventOk config tables past event) (grown : past ⊆ more) : EventOk config tables more event := by
  cases event with
  | received ask => trivial
  | refused ask refusal => exact grown ok
  | admitted ask row => exact ⟨ok.1, ok.2.later grown⟩
  | called ask accepted => exact ⟨grown ok.1, ok.2⟩
  | answered ask taskId status =>
      obtain ⟨accepted, same, called⟩ := ok
      exact ⟨accepted, same, grown called⟩

/-! ## Moves that write no row -/

theorem Invariant.start : Invariant config .start where
  callers := List.nodup_nil
  taskIds := List.nodup_nil
  paired := rfl
  rows := fun _ member => absurd member List.not_mem_nil
  stages := fun _ => trivial
  events := fun _ member => absurd member List.not_mem_nil
  alone := fun _ _ _ _ held => nomatch held

theorem Invariant.log {door : Door} (holds : Invariant config door) (event : Event)
    (ok : EventOk config door.tables (event :: door.past) event) : Invariant config (door.log event) where
  callers := holds.callers
  taskIds := holds.taskIds
  paired := holds.paired
  rows := fun row member => by
    obtain ⟨ask, admitted⟩ := holds.rows row member
    exact ⟨ask, List.mem_cons_of_mem _ admitted⟩
  stages := fun handler => (holds.stages handler).later (List.subset_cons_self _ _)
  events := fun other member => by
    rcases List.mem_cons.mp member with rfl | earlier
    · exact ok
    · exact (holds.events other earlier).later (List.subset_cons_self _ _)
  alone := holds.alone

theorem move_stages {door : Door} {handler : Nat} {stage : Stage} (other : Nat) :
    ((door.move handler stage).stages other = stage ∧ other = handler) ∨
      ((door.move handler stage).stages other = door.stages other ∧ other ≠ handler) := by
  by_cases here : other = handler
  · exact .inl ⟨if_pos here, here⟩
  · exact .inr ⟨if_neg here, here⟩

/-- A handler may take a lock that is free, and keep or leave the one it holds. -/
theorem Alone.move {door : Door} (alone : Alone config door) {handler : Nat} {stage : Stage}
    (locks : ∀ ask, stage.locked? = some ask →
      Free config door ask ∨ (door.stages handler).locked? = some ask) :
    Alone config (door.move handler stage) := by
  intro first second held other lockedFirst lockedSecond same
  rcases @move_stages door handler stage first with ⟨here, isFirst⟩ | ⟨here, notFirst⟩
  · rcases @move_stages door handler stage second with ⟨there, isSecond⟩ | ⟨there, -⟩
    · exact isFirst.trans isSecond.symm
    · rw [here] at lockedFirst
      rw [there] at lockedSecond
      rcases locks held lockedFirst with free | kept
      · exact absurd same.symm (free second other lockedSecond)
      · exact isFirst.trans (alone handler second held other kept lockedSecond same)
  · rcases @move_stages door handler stage second with ⟨there, isSecond⟩ | ⟨there, -⟩
    · rw [here] at lockedFirst
      rw [there] at lockedSecond
      rcases locks other lockedSecond with free | kept
      · exact absurd same (free first held lockedFirst)
      · exact (alone first handler held other lockedFirst kept same).trans isSecond.symm
    · rw [here] at lockedFirst
      rw [there] at lockedSecond
      exact alone first second held other lockedFirst lockedSecond same

theorem Alone.leave {door : Door} (alone : Alone config door) (handler : Nat) {stage : Stage}
    (unlocked : stage.locked? = none) : Alone config (door.move handler stage) := by
  refine alone.move fun ask locked => ?_
  rw [unlocked] at locked
  cases locked

theorem Invariant.move {door : Door} (holds : Invariant config door) (handler : Nat) {stage : Stage}
    (ok : StageOk config door.tables door.past stage)
    (locks : ∀ ask, stage.locked? = some ask →
      Free config door ask ∨ (door.stages handler).locked? = some ask) :
    Invariant config (door.move handler stage) where
  callers := holds.callers
  taskIds := holds.taskIds
  paired := holds.paired
  rows := holds.rows
  stages := fun other => by
    rcases @move_stages door handler stage other with ⟨same, -⟩ | ⟨same, -⟩
    · rw [same]
      exact ok
    · rw [same]
      exact holds.stages other
  events := holds.events
  alone := holds.alone.move locks

/-- A stage without a lock may be reached at any time. -/
theorem Invariant.leave {door : Door} (holds : Invariant config door) (handler : Nat) (stage : Stage)
    (ok : StageOk config door.tables door.past stage) (unlocked : stage.locked? = none) :
    Invariant config (door.move handler stage) :=
  holds.move handler ok fun ask locked => by
    rw [unlocked] at locked
    cases locked

theorem Invariant.lose {door : Door} (holds : Invariant config door) (taken : Nat → Bool) :
    Invariant config (door.lose taken) where
  callers := holds.callers
  taskIds := holds.taskIds
  paired := holds.paired
  rows := holds.rows
  stages := fun handler => by
    show StageOk config door.tables door.past (if taken handler then .idle else door.stages handler)
    split
    · trivial
    · exact holds.stages handler
  events := holds.events
  alone := fun first second held other lockedFirst lockedSecond same => by
    have kept : ∀ handler ask, ((door.lose taken).stages handler).locked? = some ask →
        (door.stages handler).locked? = some ask := by
      intro handler ask locked
      change (if taken handler then Stage.idle else door.stages handler).locked? = some ask at locked
      split at locked
      · cases locked
      · exact locked
    exact holds.alone first second held other (kept first held lockedFirst) (kept second other lockedSecond) same

/-! ## The first transaction -/

/-- What is remembered under a key was stored by the admission of the same submission. -/
theorem remembered_some {tables : Tables} {ask : Ask} {accepted : Accepted}
    (rows : ∀ row ∈ tables.admissions, row.payload.parse = some row.payload)
    (recalled : remembered config tables ask = .ok (some accepted)) : Resumes config tables ask accepted := by
  unfold remembered at recalled
  cases found : tables.admissions.find? fun row => row.caller = ask.caller config with
  | none =>
      rw [found] at recalled
      cases recalled
  | some row =>
      have member := List.mem_of_find?_eq_some found
      have caller : row.caller = ask.caller config := by simpa using List.find?_some found
      simp only [found] at recalled
      split at recalled
      · cases recalled
      · next same =>
          rw [rows row member] at recalled
          cases bound : readBinding tables row.taskId with
          | none =>
              rw [bound] at recalled
              cases recalled
          | some binding =>
              rw [bound] at recalled
              cases recalled
              have named : binding.taskId = row.taskId := by simpa using List.find?_some bound
              exact ⟨row, member, caller, not_not.mp same, rfl, named⟩

theorem remembered_none {tables : Tables} {ask : Ask} (recalled : remembered config tables ask = .ok none) :
    Fresh config tables ask := by
  unfold remembered at recalled
  cases found : tables.admissions.find? fun row => row.caller = ask.caller config with
  | none =>
      intro row member same
      exact absurd (decide_eq_true same) (List.find?_eq_none.mp found row member)
  | some row =>
      simp only [found] at recalled
      split at recalled
      · cases recalled
      · split at recalled
        · cases recalled
        · cases recalled
        · cases recalled

theorem Invariant.payloads {door : Door} (holds : Invariant config door) :
    ∀ row ∈ door.tables.admissions, row.payload.parse = some row.payload := by
  intro row member
  obtain ⟨ask, admitted⟩ := holds.rows row member
  exact (holds.events _ admitted).2.payload

/-- Requests of one caller under one key wait for one lock. -/
theorem lock_of_caller {first second : Ask} (same : first.caller config = second.caller config) :
    lock config first = lock config second := by
  simp only [Ask.caller, Prod.mk.injEq] at same
  obtain ⟨tenant, principal, key⟩ := same
  rw [lock, lock, tenant, principal, key]

theorem Resumes.grown {tables : Tables} {ask : Ask} {accepted : Accepted} (resumes : Resumes config tables ask accepted)
    {more : Tables} (grown : tables.admissions ⊆ more.admissions) : Resumes config more ask accepted := by
  obtain ⟨row, member, rest⟩ := resumes
  exact ⟨row, grown member, rest⟩

/-- The commit of a first request keeps the invariant: it alone holds the lock of its key. -/
theorem Invariant.committed {door : Door} (holds : Invariant config door) {handler : Nat} {ask : Ask}
    {payload : KernelSubmission} {task : Task} {accepted : Accepted} {tables : Tables}
    (stores : door.stages handler = .storing ask payload task)
    (stored : store config door.tables ask payload task = .ok (accepted, tables)) :
    Invariant config (((door.write tables).move handler (.accepted ask accepted)).log
      (.admitted ask (admissionOf config ask payload task))) := by
  obtain ⟨fits, rfl, rfl⟩ := store_ok holds.paired stored
  have stage := holds.stages handler
  rw [stores] at stage
  obtain ⟨received, fresh, read, recipe, objective⟩ := stage
  have grown : door.tables.admissions ⊆ door.tables.admissions ++ [admissionOf config ask payload task] :=
    List.subset_append_left _ _
  have inside : admissionOf config ask payload task ∈
      door.tables.admissions ++ [admissionOf config ask payload task] :=
    List.mem_append_right _ List.mem_cons_self
  have later : door.past ⊆ .admitted ask (admissionOf config ask payload task) :: door.past :=
    List.subset_cons_self _ _
  have row : Stored config (.admitted ask (admissionOf config ask payload task) :: door.past) ask
      (admissionOf config ask payload task) :=
    ⟨later received, rfl, rfl, read, recipe, objective⟩
  have locked : (door.stages handler).locked? = some ask := by
    rw [stores]
    rfl
  refine ⟨?_, ?_, ?_, ?_, ?_, ?_, ?_⟩
  · show ((door.tables.admissions ++ [admissionOf config ask payload task]).map Admission.caller).Nodup
    rw [List.map_append]
    refine List.nodup_append.mpr ⟨holds.callers, List.nodup_singleton _, ?_⟩
    intro caller member other single same
    obtain ⟨old, memberOld, rfl⟩ := List.mem_map.mp member
    exact (fits old memberOld).2 (same.trans (List.mem_singleton.mp single))
  · show ((door.tables.admissions ++ [admissionOf config ask payload task]).map Admission.taskId).Nodup
    rw [List.map_append]
    refine List.nodup_append.mpr ⟨holds.taskIds, List.nodup_singleton _, ?_⟩
    intro taskId member other single same
    obtain ⟨old, memberOld, rfl⟩ := List.mem_map.mp member
    exact (fits old memberOld).1 (same.trans (List.mem_singleton.mp single))
  · show (door.tables.bindings ++ _).map ExecutionBinding.taskId = (door.tables.admissions ++ _).map Admission.taskId
    rw [List.map_append, List.map_append, holds.paired]
    rfl
  · intro other member
    rcases List.mem_append.mp member with old | new
    · obtain ⟨first, admitted⟩ := holds.rows other old
      exact ⟨first, later admitted⟩
    · rw [List.mem_singleton.mp new]
      exact ⟨ask, List.mem_cons_self⟩
  · intro other
    rcases @move_stages door handler (.accepted ask ⟨_, payload⟩) other with ⟨same, -⟩ | ⟨same, apart⟩
    · show StageOk config _ _ ((door.move handler _).stages other)
      rw [same]
      exact ⟨later received, admissionOf config ask payload task, inside, rfl, rfl, rfl, rfl⟩
    · show StageOk config _ _ ((door.move handler _).stages other)
      rw [same]
      have before := (holds.stages other).later later
      cases reached : door.stages other with
      | storing asked submitted compiled =>
          rw [reached] at before
          refine ⟨before.1, ?_, before.2.2⟩
          intro found member
          rcases List.mem_append.mp member with old | new
          · exact before.2.1 found old
          · rw [List.mem_singleton.mp new]
            intro same
            have theirs : (door.stages other).locked? = some asked := by
              rw [reached]
              rfl
            exact apart (holds.alone other handler asked ask theirs locked (lock_of_caller same.symm))
      | accepted asked resumed =>
          rw [reached] at before
          exact ⟨before.1, before.2.grown grown⟩
      | idle => trivial
      | waiting asked =>
          rw [reached] at before
          exact before
      | holding asked =>
          rw [reached] at before
          exact before
      | dispatched asked resumed status =>
          rw [reached] at before
          exact before
  · intro event member
    rcases List.mem_cons.mp member with rfl | earlier
    · exact ⟨inside, row⟩
    · have before := (holds.events event earlier).later later
      cases event with
      | received asked => trivial
      | refused asked refusal => exact before
      | admitted asked old => exact ⟨grown before.1, before.2⟩
      | called asked resumed => exact ⟨before.1, before.2.grown grown⟩
      | answered asked taskId status => exact before
  · exact holds.alone.leave handler rfl

/-- What one step preserves. -/
theorem Invariant.step {door next : Door} (holds : Invariant config door) (taken : Step config door next) :
    Invariant config next := by
  cases taken with
  | receive handler request ask idle read =>
      have logged : Invariant config (door.log (.received ask)) := holds.log _ trivial
      exact logged.leave handler (.waiting ask) List.mem_cons_self rfl
  | deny handler members admits ask refusal waits denied =>
      have stage := holds.stages handler
      rw [waits] at stage
      exact (holds.leave handler .idle trivial rfl).log (.refused ask refusal)
        (List.mem_cons_of_mem _ stage)
  | acquire handler members admits ask waits entered free =>
      have stage := holds.stages handler
      rw [waits] at stage
      refine holds.move handler stage fun held same => ?_
      cases same
      exact .inl free
  | resume handler ask accepted held recalled =>
      have stage := holds.stages handler
      rw [held] at stage
      exact holds.leave handler _ ⟨stage, remembered_some holds.payloads recalled⟩ rfl
  | refuse handler ask refusal held refused =>
      have stage := holds.stages handler
      rw [held] at stage
      exact (holds.leave handler .idle trivial rfl).log (.refused ask refusal)
        (List.mem_cons_of_mem _ stage)
  | compose handler ask now payload task held fresh composed =>
      have stage := holds.stages handler
      rw [held] at stage
      obtain ⟨made, -⟩ := compose_ok composed
      obtain ⟨recipe, objective, read⟩ := submission_ok made
      refine holds.move handler ⟨stage, remembered_none fresh, read, recipe, objective⟩ fun asked same => ?_
      cases same
      rw [held]
      exact .inr rfl
  | reject handler ask now refusal held fresh rejected =>
      have stage := holds.stages handler
      rw [held] at stage
      exact (holds.leave handler .idle trivial rfl).log (.refused ask refusal)
        (List.mem_cons_of_mem _ stage)
  | admitNew handler ask payload task accepted tables stores stored => exact holds.committed stores stored
  | fail handler ask payload task refusal stores failed =>
      have stage := holds.stages handler
      rw [stores] at stage
      exact (holds.leave handler .idle trivial rfl).log (.refused ask refusal)
        (List.mem_cons_of_mem _ stage.1)
  | call handler members ask accepted status goes authorized =>
      have stage := holds.stages handler
      rw [goes] at stage
      have logged : Invariant config (door.log (.called ask accepted)) :=
        holds.log _ ⟨List.mem_cons_of_mem _ stage.1, stage.2⟩
      exact logged.leave handler (.dispatched ask accepted status) List.mem_cons_self rfl
  | finish handler ask accepted status goes =>
      have stage := holds.stages handler
      rw [goes] at stage
      have logged : Invariant config (door.log (.answered ask accepted.binding.taskId status)) :=
        holds.log _ ⟨accepted, rfl, List.mem_cons_of_mem _ stage⟩
      have moved := logged.leave handler .idle trivial rfl
      exact ⟨moved.callers, moved.taskIds, moved.paired, moved.rows, moved.stages, moved.events, moved.alone⟩
  | crash taken => exact holds.lose taken

/-- What a whole run preserves. -/
theorem Reachable.invariant {door : Door} (reached : Reachable config door) : Invariant config door := by
  induction reached with
  | start => exact .start
  | step _ taken ih => exact ih.step taken

/-! ## Idempotence -/

/-- The two requests are of one principal in one tenant, under one key. -/
def SameKey (first second : Ask) : Prop :=
  first.context.tenantId = second.context.tenantId ∧ first.context.principal.id = second.context.principal.id ∧
    first.key = second.key

/-- The values that the door digests for the requests that it received. -/
inductive Digested (past : List Event) : Json → Prop where
  | key {ask : Ask} (received : .received ask ∈ past) : Digested past (.str ask.key)
  | input {ask : Ask} (received : .received ask ∈ past) : Digested past ask.input.toJson

variable (config)

/-- The hash has no collision among them. -/
def CollisionFree (past : List Event) : Prop :=
  ∀ one other, Digested past one → Digested past other →
    capabilityDigest config.platform one = capabilityDigest config.platform other → one = other

/-- What the door guarantees: one admission and one task under each key, whose submission alone is dispatched. -/
structure Idempotent (door : Door) : Prop where
  single : ∀ first second row other, .admitted first row ∈ door.past → .admitted second other ∈ door.past →
    SameKey first second → row = other
  apart : ∀ first second row other, .admitted first row ∈ door.past → .admitted second other ∈ door.past →
    row.taskId = other.taskId → SameKey first second
  listed : ∀ row, row ∈ door.tables.admissions ↔ ∃ ask, .admitted ask row ∈ door.past
  bound : ∀ taskId, (∃ row ∈ door.tables.admissions, row.taskId = taskId) ↔
    ∃ binding ∈ door.tables.bindings, binding.taskId = taskId
  dispatches : ∀ ask accepted, .called ask accepted ∈ door.past → ∃ first row, .admitted first row ∈ door.past ∧
    SameKey first ask ∧ first.input = ask.input ∧ accepted.payload = row.payload ∧
    accepted.binding.taskId = row.taskId
  answers : ∀ ask taskId status, .answered ask taskId status ∈ door.past → ∃ first row,
    .admitted first row ∈ door.past ∧ SameKey first ask ∧ first.input = ask.input ∧ taskId = row.taskId
  resumes : ∀ first row ask, .admitted first row ∈ door.past → .received ask ∈ door.past → SameKey first ask →
    ask.input = first.input → ∃ binding, binding.taskId = row.taskId ∧
      remembered config door.tables ask = .ok (some ⟨binding, row.payload⟩)
  conflicts : ∀ first row ask, .admitted first row ∈ door.past → .received ask ∈ door.past → SameKey first ask →
    ask.input ≠ first.input → remembered config door.tables ask = .error .idempotencyConflict
  settled : ∀ first row ask, .admitted first row ∈ door.past → .received ask ∈ door.past → SameKey first ask →
    ∀ handler payload task, door.stages handler ≠ .storing ask payload task
  refusals : ∀ next ask refusal, Step config door next → next.past = .refused ask refusal :: door.past →
    next.tables = door.tables
  grows : ∀ next, Step config door next → door.tables.admissions <+: next.tables.admissions

variable {config}

theorem recipeText_injective : Function.Injective Recipe.text := by
  intro first second same
  cases first <;> cases second <;> first | rfl | exact absurd same (by decide)

theorem toJson_injective : Function.Injective PublicSubmission.toJson := by
  intro first second same
  simp only [PublicSubmission.toJson, Json.obj.injEq, List.cons.injEq, Prod.mk.injEq, Json.str.injEq,
    true_and, and_true] at same
  obtain ⟨recipe, objective⟩ := same
  cases first
  cases second
  cases recipeText_injective recipe
  cases objective
  rfl

section Separated

variable {door : Door} (apart : CollisionFree config door.past) {first ask : Ask}
  (receivedFirst : .received first ∈ door.past) (received : .received ask ∈ door.past)

include apart receivedFirst received

theorem sameKey_iff : SameKey first ask ↔ first.caller config = ask.caller config := by
  simp only [SameKey, Ask.caller, Prod.mk.injEq]
  constructor
  · rintro ⟨tenant, principal, key⟩
    refine ⟨tenant, principal, ?_⟩
    rw [keyDigest, keyDigest, key]
  · rintro ⟨tenant, principal, key⟩
    exact ⟨tenant, principal, Json.str.inj (apart _ _ (.key receivedFirst) (.key received) key)⟩

theorem sameInput_iff : first.input = ask.input ↔ requestDigest config first = requestDigest config ask := by
  constructor
  · intro same
    rw [requestDigest, requestDigest, same]
  · intro same
    exact toJson_injective (apart _ _ (.input receivedFirst) (.input received) same)

end Separated

namespace Invariant

variable {door : Door}

theorem admitted (holds : Invariant config door) {ask : Ask} {row : Admission}
    (inside : .admitted ask row ∈ door.past) : row ∈ door.tables.admissions ∧ Stored config door.past ask row :=
  holds.events _ inside

/-- What a request resumes is the admission of a request under the same key, of the same submission. -/
theorem resumed (holds : Invariant config door) (apart : CollisionFree config door.past) {ask : Ask}
    {accepted : Accepted} (received : .received ask ∈ door.past) (resumes : Resumes config door.tables ask accepted) :
    ∃ first row, .admitted first row ∈ door.past ∧ SameKey first ask ∧ first.input = ask.input ∧
      accepted.payload = row.payload ∧ accepted.binding.taskId = row.taskId := by
  obtain ⟨row, member, caller, request, payload, taskId⟩ := resumes
  obtain ⟨first, inside⟩ := holds.rows row member
  have stored := (holds.admitted inside).2
  refine ⟨first, row, inside, ?_, ?_, payload, taskId⟩
  · exact (sameKey_iff apart stored.received received).mpr (stored.caller.symm.trans caller)
  · exact (sameInput_iff apart stored.received received).mpr (stored.request.symm.trans request)

/-- The row of a key is the one that is looked up under it. -/
theorem find_row (holds : Invariant config door) {row : Admission} (member : row ∈ door.tables.admissions) {ask : Ask}
    (caller : row.caller = ask.caller config) :
    (door.tables.admissions.find? fun row => row.caller = ask.caller config) = some row := by
  cases found : door.tables.admissions.find? fun row => row.caller = ask.caller config with
  | none => exact absurd (decide_eq_true caller) (List.find?_eq_none.mp found row member)
  | some other =>
      have same : other.caller = ask.caller config := by simpa using List.find?_some found
      rw [List.inj_on_of_nodup_map holds.callers (List.mem_of_find?_eq_some found) member (same.trans caller.symm)]

/-- An admitted task is bound. -/
theorem row_bound (holds : Invariant config door) {row : Admission} (member : row ∈ door.tables.admissions) :
    ∃ binding, readBinding door.tables row.taskId = some binding ∧ binding.taskId = row.taskId := by
  have listed : row.taskId ∈ door.tables.bindings.map ExecutionBinding.taskId :=
    holds.paired ▸ List.mem_map_of_mem member
  obtain ⟨binding, inside, named⟩ := List.mem_map.mp listed
  cases read : readBinding door.tables row.taskId with
  | none => exact absurd (decide_eq_true named) (List.find?_eq_none.mp read binding inside)
  | some found => exact ⟨found, rfl, by simpa using List.find?_some read⟩

end Invariant

theorem Step.grows {door next : Door} (holds : Invariant config door) (taken : Step config door next) :
    door.tables.admissions <+: next.tables.admissions := by
  cases taken with
  | admitNew handler ask payload task accepted tables stores stored =>
      obtain ⟨-, -, rfl⟩ := store_ok holds.paired stored
      exact List.prefix_append _ _
  | _ => exact List.prefix_refl _

/-- A request that is refused has written nothing. -/
theorem Step.refusals {door next : Door} {ask : Ask} {refusal : Refusal} (taken : Step config door next)
    (refused : next.past = .refused ask refusal :: door.past) : next.tables = door.tables := by
  cases taken with
  | admitNew handler asked payload task accepted tables stores stored => cases refused
  | finish handler asked accepted status goes => cases refused
  | _ => rfl

/-- The admission door is idempotent. -/
theorem admission_idempotent {door : Door} (reached : Reachable config door)
    (apart : CollisionFree config door.past) : Idempotent config door := by
  have holds := reached.invariant
  constructor
  case single =>
    intro first second row other one two same
    obtain ⟨member, stored⟩ := holds.admitted one
    obtain ⟨memberOther, storedOther⟩ := holds.admitted two
    have callers := (sameKey_iff apart stored.received storedOther.received).mp same
    exact List.inj_on_of_nodup_map holds.callers member memberOther
      (stored.caller.trans (callers.trans storedOther.caller.symm))
  case apart =>
    intro first second row other one two same
    obtain ⟨member, stored⟩ := holds.admitted one
    obtain ⟨memberOther, storedOther⟩ := holds.admitted two
    cases List.inj_on_of_nodup_map holds.taskIds member memberOther same
    exact (sameKey_iff apart stored.received storedOther.received).mpr
      (stored.caller.symm.trans storedOther.caller)
  case listed =>
    intro row
    constructor
    · exact holds.rows row
    · rintro ⟨ask, inside⟩
      exact (holds.admitted inside).1
  case bound =>
    intro taskId
    have listed : taskId ∈ door.tables.admissions.map Admission.taskId ↔
        taskId ∈ door.tables.bindings.map ExecutionBinding.taskId := by
      rw [holds.paired]
    simpa only [List.mem_map] using listed
  case dispatches =>
    intro ask accepted inside
    obtain ⟨received, resumes⟩ := holds.events _ inside
    exact holds.resumed apart received resumes
  case answers =>
    intro ask taskId status inside
    obtain ⟨accepted, same, called⟩ := holds.events _ inside
    obtain ⟨received, resumes⟩ := holds.events _ called
    obtain ⟨first, row, admitted, key, input, -, named⟩ := holds.resumed apart received resumes
    exact ⟨first, row, admitted, key, input, same.symm.trans named⟩
  case resumes =>
    intro first row ask inside received key input
    obtain ⟨member, stored⟩ := holds.admitted inside
    have caller := stored.caller.trans ((sameKey_iff apart stored.received received).mp key)
    have request := stored.request.trans ((sameInput_iff apart stored.received received).mp input.symm)
    obtain ⟨binding, read, named⟩ := holds.row_bound member
    refine ⟨binding, named, ?_⟩
    rw [remembered, holds.find_row member caller]
    simp only [request, ne_eq, not_true_eq_false, if_false, read, stored.payload]
  case conflicts =>
    intro first row ask inside received key input
    obtain ⟨member, stored⟩ := holds.admitted inside
    have caller := stored.caller.trans ((sameKey_iff apart stored.received received).mp key)
    have request : row.requestDigest ≠ requestDigest config ask := by
      intro same
      exact input ((sameInput_iff apart stored.received received).mpr (stored.request.symm.trans same)).symm
    rw [remembered, holds.find_row member caller]
    exact if_pos request
  case settled =>
    intro first row ask inside received key handler payload task stores
    obtain ⟨member, stored⟩ := holds.admitted inside
    have caller := stored.caller.trans ((sameKey_iff apart stored.received received).mp key)
    have stage := holds.stages handler
    rw [stores] at stage
    exact stage.2.1 row member caller
  case refusals => exact fun next ask refusal taken refused => taken.refusals refused
  case grows => exact fun next taken => taken.grows holds

/-! ## A sample -/

def sampleId (digit : Fin 10) : Id :=
  ⟨js "73000000-0000-4000-8000-00000000000" ++ decimal digit, by revert digit; decide +kernel⟩

/-- A platform that hashes a text to its length. -/
def samplePlatform : Platform :=
  { Platform.ascii with sha256 := fun text => .ofDigits [text.length, text.length / 16] }

def sampleConfig : Config := ⟨samplePlatform, js "release-1", fun _ _ => true, fun text => text.length⟩

def sampleContext : TenantContext := ⟨sampleId 1, ⟨sampleId 2, .human⟩⟩

def sampleInput : PublicSubmission := ⟨.uppercase, js "hello", by decide, by decide +kernel, by decide +kernel⟩

def sampleAsk : Ask :=
  ⟨sampleContext, sampleInput, js "key-0001", some (js "kerneljson:gateway/v1"), none, sampleId 3⟩

def sampleRequest : Request where
  context := sampleContext
  body := .obj [(js "recipe", .str (js "uppercase/v1")), (js "objective", .str (js " hello "))]
  idempotencyKey := some (js "key-0001")
  channel := none
  correlation := none
  correlationId := sampleId 3

def sampleMembers : Memberships := fun context => if context = sampleContext then some .member else none

theorem sampleAsk_read : readRequest sampleConfig sampleRequest = .ok sampleAsk := by
  decide

theorem sampleAsk_composes : (compose sampleConfig .epoch sampleAsk).isOk = true := by
  decide

/-- The first request under a key is admitted. -/
theorem store_empty (ask : Ask) (payload : KernelSubmission) (task : Task) :
    ∃ accepted tables, store config .empty ask payload task = .ok (accepted, tables) := by
  refine ⟨⟨bindingFor config task (recipeTarget ask.input.recipe), payload⟩, ?_⟩
  simp [store, persistBinding, insertBinding, readBinding, Tables.empty, Fits, bind, Except.bind]

theorem sampleAsk_apart (row : Admission) :
    CollisionFree sampleConfig [.admitted sampleAsk row, .received sampleAsk] := by
  have values : ∀ value, Digested [.admitted sampleAsk row, .received sampleAsk] value →
      value = .str sampleAsk.key ∨ value = sampleAsk.input.toJson := by
    intro value digested
    cases digested with
    | key received =>
        simp only [List.mem_cons, reduceCtorEq, Event.received.injEq, List.not_mem_nil, or_false, false_or]
          at received
        exact .inl (by rw [received])
    | input received =>
        simp only [List.mem_cons, reduceCtorEq, Event.received.injEq, List.not_mem_nil, or_false, false_or]
          at received
        exact .inr (by rw [received])
  have differ : capabilityDigest samplePlatform (.str sampleAsk.key) ≠
      capabilityDigest samplePlatform sampleAsk.input.toJson := by
    decide
  intro one other first second same
  rcases values one first with rfl | rfl
  · rcases values other second with rfl | rfl
    · rfl
    · exact absurd same differ
  · rcases values other second with rfl | rfl
    · exact absurd same.symm differ
    · rfl

/-- A request that was admitted. -/
theorem sampleDoor_idempotent : ∃ door row, Reachable sampleConfig door ∧
    .admitted sampleAsk row ∈ door.past ∧ Idempotent sampleConfig door := by
  obtain ⟨payload, task, composed⟩ : ∃ payload task, compose sampleConfig .epoch sampleAsk = .ok (payload, task) := by
    cases composed : compose sampleConfig .epoch sampleAsk with
    | ok made => exact ⟨made.1, made.2, rfl⟩
    | error refusal => exact absurd sampleAsk_composes (by rw [composed]; exact Bool.false_ne_true)
  obtain ⟨accepted, tables, stored⟩ := @store_empty sampleConfig sampleAsk payload task
  have received := Reachable.start.step (Step.receive 0 sampleRequest sampleAsk rfl sampleAsk_read)
  have held := received.step (.acquire 0 sampleMembers true sampleAsk rfl (by decide) (by
    intro handler asked locked
    rcases @move_stages .start 0 (.waiting sampleAsk) handler with ⟨same, -⟩ | ⟨same, -⟩
    · change (((Door.start.move 0 (.waiting sampleAsk)).stages handler).locked?) = _ at locked
      rw [same] at locked
      cases locked
    · change (((Door.start.move 0 (.waiting sampleAsk)).stages handler).locked?) = _ at locked
      rw [same] at locked
      cases locked))
  have storing := held.step (.compose 0 sampleAsk .epoch payload task rfl rfl composed)
  have admitted := storing.step (.admitNew 0 sampleAsk payload task accepted tables rfl stored)
  exact ⟨_, _, admitted, List.mem_cons_self, admission_idempotent admitted (sampleAsk_apart _)⟩

end KernelJson.Gateway.Door
