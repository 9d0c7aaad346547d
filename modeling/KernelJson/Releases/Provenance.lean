import KernelJson.Gateway.Admission

/-!
# Release provenance

A transaction that inserts an execution binding or activates a release first
updates the row of the release epoch, and so holds its lock until it ends.  The
statements of different transactions come in any order; each sees what is
committed and what its own transaction wrote.
-/

namespace KernelJson.Releases.Provenance

open Contracts.Common
open Contracts.Platform
open Foundation
open Foundation.JsText
open Gateway.Admission

/-! ## Rows -/

/-- `^[A-Za-z0-9._:-]{1,160}$`. -/
def isReleaseId (text : JsString) : Bool :=
  lengthWithin 1 160 text
    && text.all fun unit => isAlphanumericUnit unit || unit == 46 || unit == 95 || unit == 58 || unit == 45

/-- A row of `release_activations`; `Evidence` stands for the values of `jsonb`. -/
structure Activation (Evidence : Type) where
  epoch : Nat
  requestId : Id
  releaseId : JsString
  previousReleaseId : Option JsString
  evidence : Evidence
deriving DecidableEq

/-- A row of `execution_bindings`. -/
structure BindingRow where
  contract : ExecutionBinding
  releaseEpoch : Nat

/-- What a transaction writes. -/
inductive Write (Evidence : Type) where
  | activation (row : Activation Evidence)
  | binding (row : BindingRow)

/-- The arguments of `activate_release`, any of which may be null. -/
structure Call (Evidence : Type) where
  requestId : Option Id
  releaseId : Option JsString
  expectedEpoch : Option Int
  evidence : Option Evidence

section Statements

variable {Evidence : Type}

/-- The activations of a log, the latest first. -/
def activations (log : List (Write Evidence)) : List (Activation Evidence) :=
  log.filterMap fun
    | .activation row => some row
    | .binding _ => none

def bindings (log : List (Write Evidence)) : List BindingRow :=
  log.filterMap fun
    | .activation _ => none
    | .binding row => some row

/-- `select * into existing from release_activations where request_id = p_request_id`. -/
def findRequest (log : List (Write Evidence)) (requestId : Option Id) : Option (Activation Evidence) :=
  (activations log).find? fun row => some row.requestId = requestId

/-- `select release_id into prior from release_activations where epoch = current_epoch`. -/
def releaseOf (log : List (Write Evidence)) (epoch : Nat) : Option JsString :=
  ((activations log).find? fun row => row.epoch = epoch).map Activation.releaseId

/-- `readBinding(db, taskId)`, with the columns that the database adds. -/
def bindingOf (log : List (Write Evidence)) (taskId : Id) : Option BindingRow :=
  (bindings log).find? fun row => row.contract.taskId = taskId

/-- The arguments are those of a row. -/
def Identical (row : Activation Evidence) (call : Call Evidence) : Prop :=
  call.releaseId = some row.releaseId ∧ call.evidence = some row.evidence ∧
    call.expectedEpoch = some ((row.epoch : Int) - 1)

instance [DecidableEq Evidence] (row : Activation Evidence) (call : Call Evidence) : Decidable (Identical row call) :=
  inferInstanceAs (Decidable (_ ∧ _))

/-- The row that a call inserts, if it keeps the checks of the table; `filled` holds of an object with a field. -/
def rowOf (filled : Evidence → Bool) (call : Call Evidence) (epoch : Nat) (prior : Option JsString) :
    Option (Activation Evidence) :=
  match call.requestId, call.releaseId, call.evidence with
  | some requestId, some releaseId, some evidence =>
      if isReleaseId releaseId = true ∧ filled evidence = true then
        some ⟨epoch, requestId, releaseId, prior, evidence⟩
      else none
  | _, _, _ => none

/-- The primary key and the unique key of the table. -/
def KeepsKeys (log : List (Write Evidence)) (row : Activation Evidence) : Prop :=
  ∀ other ∈ activations log, other.epoch ≠ row.epoch ∧ other.requestId ≠ row.requestId

/-- `persistBinding` finds its binding, or one that differs in its release only. -/
def Stands (platform : Platform) (log : List (Write Evidence)) (binding : ExecutionBinding) : Prop :=
  ∃ row, bindingOf log binding.taskId = some row ∧
    capabilityDigest platform { row.contract with releaseId := binding.releaseId }.toJson =
      capabilityDigest platform binding.toJson

/-! ## Transactions -/

inductive Stage (Evidence : Type) where
  | unbegun
  /-- Between two calls. -/
  | idle
  /-- The trigger of an insertion has read the epoch. -/
  | stamped (binding : ExecutionBinding) (epoch : Nat)
  /-- The binding is read back. -/
  | reading (binding : ExecutionBinding)
  /-- `activate_release` has updated the row of the epoch. -/
  | activating (call : Call Evidence) (current : Nat)
  /-- Its request is new and expects the current epoch. -/
  | unused (call : Call Evidence) (current : Nat)
  | preceded (call : Call Evidence) (current : Nat) (prior : Option JsString)
  | bumped (call : Call Evidence) (current : Nat) (prior : Option JsString)
  /-- An exception was raised. -/
  | failed
  | ended

/-- A transaction: its version of the epoch row, which it has while it holds the lock of that row, and its writes, the
latest first. -/
structure Transaction (Evidence : Type) where
  stage : Stage Evidence
  epoch : Option Nat
  writes : List (Write Evidence)

inductive Event (Evidence : Type) where
  /-- The epoch that a call returned, or none when it raised an exception, and what it saw. -/
  | answered (name : Nat) (call : Call Evidence) (result : Option Nat) (seen : List (Write Evidence))
  | committed (name : Nat) (writes : List (Write Evidence))

variable (platform : Platform) (filled : Evidence → Bool)

/-- The statements of a transaction, given the committed epoch and log and whether the lock of the row is free for
it. -/
inductive Statement (name committed : Nat) (log : List (Write Evidence)) (free : Prop) :
    Transaction Evidence → Transaction Evidence → List (Event Evidence) → Prop where
  | begin : Statement name committed log free ⟨.unbegun, none, []⟩ ⟨.idle, none, []⟩ []
  /-- `update release_epoch set epoch = epoch returning epoch` in the trigger. -/
  | stamp (binding : ExecutionBinding) (own : Option Nat) (writes : List (Write Evidence)) (waited : free) :
      Statement name committed log free ⟨.idle, own, writes⟩
        ⟨.stamped binding (own.getD committed), some (own.getD committed), writes⟩ []
  | insert (binding : ExecutionBinding) (epoch : Nat) (own : Option Nat) (writes : List (Write Evidence))
      (absent : bindingOf (writes ++ log) binding.taskId = none) :
      Statement name committed log free ⟨.stamped binding epoch, own, writes⟩
        ⟨.reading binding, own, .binding ⟨binding, epoch⟩ :: writes⟩ []
  /-- `on conflict(task_id) do nothing`. -/
  | keep (binding : ExecutionBinding) (epoch : Nat) (own : Option Nat) (writes : List (Write Evidence))
      (row : BindingRow) (present : bindingOf (writes ++ log) binding.taskId = some row) :
      Statement name committed log free ⟨.stamped binding epoch, own, writes⟩ ⟨.reading binding, own, writes⟩ []
  | read (binding : ExecutionBinding) (own : Option Nat) (writes : List (Write Evidence))
      (stands : Stands platform (writes ++ log) binding) :
      Statement name committed log free ⟨.reading binding, own, writes⟩ ⟨.idle, own, writes⟩ []
  | drift (binding : ExecutionBinding) (own : Option Nat) (writes : List (Write Evidence))
      (drifted : ¬ Stands platform (writes ++ log) binding) :
      Statement name committed log free ⟨.reading binding, own, writes⟩ ⟨.failed, own, writes⟩ []
  /-- The first statement of `activate_release`. -/
  | lock (call : Call Evidence) (own : Option Nat) (writes : List (Write Evidence)) (waited : free) :
      Statement name committed log free ⟨.idle, own, writes⟩
        ⟨.activating call (own.getD committed), some (own.getD committed), writes⟩ []
  | repeated (call : Call Evidence) (current : Nat) (own : Option Nat) (writes : List (Write Evidence))
      (existing : Activation Evidence) (found : findRequest (writes ++ log) call.requestId = some existing)
      (same : Identical existing call) :
      Statement name committed log free ⟨.activating call current, own, writes⟩ ⟨.idle, own, writes⟩
        [.answered name call (some existing.epoch) (writes ++ log)]
  | conflict (call : Call Evidence) (current : Nat) (own : Option Nat) (writes : List (Write Evidence))
      (existing : Activation Evidence) (found : findRequest (writes ++ log) call.requestId = some existing)
      (other : ¬ Identical existing call) :
      Statement name committed log free ⟨.activating call current, own, writes⟩ ⟨.failed, own, writes⟩
        [.answered name call none (writes ++ log)]
  | stale (call : Call Evidence) (current : Nat) (own : Option Nat) (writes : List (Write Evidence))
      (new : findRequest (writes ++ log) call.requestId = none) (other : call.expectedEpoch ≠ some (current : Int)) :
      Statement name committed log free ⟨.activating call current, own, writes⟩ ⟨.failed, own, writes⟩
        [.answered name call none (writes ++ log)]
  | search (call : Call Evidence) (current : Nat) (own : Option Nat) (writes : List (Write Evidence))
      (new : findRequest (writes ++ log) call.requestId = none) (expected : call.expectedEpoch = some (current : Int)) :
      Statement name committed log free ⟨.activating call current, own, writes⟩ ⟨.unused call current, own, writes⟩ []
  | precede (call : Call Evidence) (current : Nat) (own : Option Nat) (writes : List (Write Evidence)) :
      Statement name committed log free ⟨.unused call current, own, writes⟩
        ⟨.preceded call current (releaseOf (writes ++ log) current), own, writes⟩ []
  /-- `update release_epoch set epoch = epoch + 1 returning epoch`. -/
  | bump (call : Call Evidence) (current : Nat) (prior : Option JsString) (own : Option Nat)
      (writes : List (Write Evidence)) (waited : free) :
      Statement name committed log free ⟨.preceded call current prior, own, writes⟩
        ⟨.bumped call (own.getD committed + 1) prior, some (own.getD committed + 1), writes⟩ []
  | record (call : Call Evidence) (current : Nat) (prior : Option JsString) (own : Option Nat)
      (writes : List (Write Evidence)) (row : Activation Evidence) (made : rowOf filled call current prior = some row)
      (keys : KeepsKeys (writes ++ log) row) :
      Statement name committed log free ⟨.bumped call current prior, own, writes⟩
        ⟨.idle, own, .activation row :: writes⟩ [.answered name call (some current) (writes ++ log)]
  | reject (call : Call Evidence) (current : Nat) (prior : Option JsString) (own : Option Nat)
      (writes : List (Write Evidence))
      (rejected : ∀ row, rowOf filled call current prior = some row → ¬ KeepsKeys (writes ++ log) row) :
      Statement name committed log free ⟨.bumped call current prior, own, writes⟩ ⟨.failed, own, writes⟩
        [.answered name call none (writes ++ log)]

/-! ## The database -/

structure Database (Evidence : Type) where
  epoch : Nat
  /-- The committed rows, the latest first. -/
  log : List (Write Evidence)
  transactions : Nat → Transaction Evidence
  past : List (Event Evidence)

def Database.start : Database Evidence := ⟨0, [], fun _ => ⟨.unbegun, none, []⟩, []⟩

def Database.put (db : Database Evidence) (name : Nat) (transaction : Transaction Evidence) : Database Evidence :=
  { db with transactions := Function.update db.transactions name transaction }

/-- No other transaction holds the lock of the epoch row. -/
def Free (db : Database Evidence) (name : Nat) : Prop :=
  ∀ other, other ≠ name → (db.transactions other).epoch = none

inductive Step (before : Database Evidence) : Database Evidence → Prop where
  | run (name : Nat) (after : Transaction Evidence) (events : List (Event Evidence))
      (moved : Statement platform filled name before.epoch before.log (Free before name) (before.transactions name)
        after events) :
      Step before { before.put name after with past := events ++ before.past }
  | commit (name : Nat) (own : Option Nat) (writes : List (Write Evidence))
      (idle : before.transactions name = ⟨.idle, own, writes⟩) :
      Step before { before.put name ⟨.ended, none, []⟩ with
        epoch := own.getD before.epoch, log := writes ++ before.log, past := .committed name writes :: before.past }
  /-- A transaction is rolled back, its connection is lost, or a statement of it is rejected. -/
  | rollback (name : Nat) (begun : (before.transactions name).stage ≠ .unbegun) :
      Step before (before.put name ⟨.ended, none, []⟩)

inductive Reachable : Database Evidence → Prop where
  | start : Reachable .start
  | step {before after : Database Evidence} (reached : Reachable before) (taken : Step platform filled before after) :
      Reachable after

/-! ## What is guaranteed -/

/-- What was committed, the latest first. -/
def committedLog : List (Event Evidence) → List (Write Evidence)
  | [] => []
  | .answered _ _ _ _ :: past => committedLog past
  | .committed _ writes :: past => writes ++ committedLog past

/-- The order of releases and bindings. -/
structure ReleaseOrder [DecidableEq Evidence] (db : Database Evidence) : Prop where
  history : db.log = committedLog db.past
  epochs : (activations db.log).map Activation.epoch = (List.range' 1 db.epoch).reverse
  predecessors : ∀ row ∈ activations db.log, row.previousReleaseId = releaseOf db.log (row.epoch - 1)
  before : ∀ later row earlier, db.log = later ++ .activation row :: earlier →
    ∀ binding ∈ bindings earlier, binding.releaseEpoch < row.epoch
  after : ∀ later row earlier, db.log = later ++ .activation row :: earlier →
    ∀ binding ∈ bindings later, row.epoch ≤ binding.releaseEpoch
  once : ((activations db.log).map Activation.requestId).Nodup
  /-- A call sees all that was committed before it returned. -/
  sees : ∀ later name call result seen earlier, db.past = later ++ .answered name call result seen :: earlier →
    committedLog earlier <:+ seen
  /-- A request that was activated is answered with its epoch, or refused when its arguments differ. -/
  retried : ∀ name call result seen, .answered name call result seen ∈ db.past → ∀ row ∈ activations seen,
    some row.requestId = call.requestId → result = if Identical row call then some row.epoch else none
  /-- A new request is activated at the epoch that it expects only. -/
  stale : ∀ name call result seen, .answered name call result seen ∈ db.past →
    (∀ row ∈ activations seen, some row.requestId ≠ call.requestId) →
      call.expectedEpoch ≠ some ((activations seen).length : Int) → result = none
  /-- What a refused call is part of is never committed. -/
  refused : ∀ name call seen, .answered name call none seen ∈ db.past → ∀ writes, .committed name writes ∉ db.past

/-! ## Logs in order -/

/-- A log in which every row fits those below it. -/
inductive Ordered : Nat → List (Write Evidence) → Prop where
  | nil : Ordered 0 []
  | binding {log : List (Write Evidence)} (row : BindingRow) (ordered : Ordered row.releaseEpoch log) :
      Ordered row.releaseEpoch (.binding row :: log)
  | activation {epoch : Nat} {log : List (Write Evidence)} (row : Activation Evidence) (ordered : Ordered epoch log)
      (next : row.epoch = epoch + 1) (prior : row.previousReleaseId = releaseOf log epoch)
      (new : ∀ other ∈ activations log, other.requestId ≠ row.requestId) :
      Ordered (epoch + 1) (.activation row :: log)

theorem Ordered.epochs {epoch : Nat} {log : List (Write Evidence)} (ordered : Ordered epoch log) :
    (activations log).map Activation.epoch = (List.range' 1 epoch).reverse := by
  induction ordered with
  | nil => rfl
  | binding row ordered ih => exact ih
  | @activation epoch log row ordered next prior new ih =>
      change row.epoch :: (activations log).map Activation.epoch = _
      rw [ih, next, List.range'_1_concat, List.reverse_append, Nat.add_comm 1 epoch]
      rfl

theorem Ordered.length {epoch : Nat} {log : List (Write Evidence)} (ordered : Ordered epoch log) :
    (activations log).length = epoch := by
  have lengths := congrArg List.length ordered.epochs
  rw [List.length_map, List.length_reverse, List.length_range'] at lengths
  exact lengths

theorem Ordered.bounds {epoch : Nat} {log : List (Write Evidence)} (ordered : Ordered epoch log)
    {row : Activation Evidence} (member : row ∈ activations log) : 1 ≤ row.epoch ∧ row.epoch ≤ epoch := by
  have listed : row.epoch ∈ (activations log).map Activation.epoch := List.mem_map_of_mem member
  rw [ordered.epochs, List.mem_reverse, List.mem_range'_1] at listed
  omega

/-- Another activation leaves the releases of the epochs before it. -/
theorem releaseOf_cons {row : Activation Evidence} {log : List (Write Evidence)} {epoch : Nat}
    (other : row.epoch ≠ epoch) : releaseOf (.activation row :: log) epoch = releaseOf log epoch := by
  unfold releaseOf
  rw [show activations (.activation row :: log) = row :: activations log from rfl,
    List.find?_cons_of_neg (by rw [decide_eq_true_eq]; exact other)]

theorem Ordered.predecessors {epoch : Nat} {log : List (Write Evidence)} (ordered : Ordered epoch log)
    {row : Activation Evidence} (member : row ∈ activations log) :
    row.previousReleaseId = releaseOf log (row.epoch - 1) := by
  induction ordered with
  | nil => cases member
  | binding binding ordered ih => exact ih member
  | @activation epoch log latest ordered next prior new ih =>
      obtain same | earlier := List.mem_cons.mp member
      · subst same
        rw [releaseOf_cons (by omega), next]
        exact prior
      · obtain ⟨-, bound⟩ := ordered.bounds earlier
        rw [releaseOf_cons (by omega)]
        exact ih earlier

theorem Ordered.stamped_le {epoch : Nat} {log : List (Write Evidence)} (ordered : Ordered epoch log)
    {binding : BindingRow} (member : binding ∈ bindings log) : binding.releaseEpoch ≤ epoch := by
  induction ordered with
  | nil => cases member
  | binding row ordered ih =>
      obtain same | earlier := List.mem_cons.mp member
      · rw [same]
      · exact ih earlier
  | activation row ordered next prior new ih => exact Nat.le_succ_of_le (ih member)

/-- What stands below an activation is in order up to the epoch before it. -/
theorem Ordered.beneath {epoch : Nat} {later earlier : List (Write Evidence)} {row : Activation Evidence}
    (ordered : Ordered epoch (later ++ .activation row :: earlier)) :
    ∃ before, row.epoch = before + 1 ∧ Ordered before earlier := by
  induction later generalizing epoch with
  | nil =>
      cases ordered with
      | activation _ ordered next prior new => exact ⟨_, next, ordered⟩
  | cons write later ih =>
      cases ordered with
      | binding _ ordered => exact ih ordered
      | activation _ ordered next prior new => exact ih ordered

/-- Above an activation every binding carries its epoch or a later one. -/
theorem Ordered.above {epoch : Nat} {later earlier : List (Write Evidence)} {row : Activation Evidence}
    (ordered : Ordered epoch (later ++ .activation row :: earlier)) :
    row.epoch ≤ epoch ∧ ∀ binding ∈ bindings later, row.epoch ≤ binding.releaseEpoch := by
  induction later generalizing epoch with
  | nil =>
      cases ordered with
      | activation _ ordered next prior new =>
          refine ⟨next.le, ?_⟩
          intro binding member
          cases member
  | cons write later ih =>
      cases ordered with
      | binding latest ordered =>
          obtain ⟨bound, rest⟩ := ih ordered
          refine ⟨bound, ?_⟩
          intro binding member
          obtain same | earlier := List.mem_cons.mp member
          · rw [same]
            exact bound
          · exact rest binding earlier
      | activation latest ordered next prior new =>
          obtain ⟨bound, rest⟩ := ih ordered
          exact ⟨Nat.le_succ_of_le bound, rest⟩

theorem Ordered.once {epoch : Nat} {log : List (Write Evidence)} (ordered : Ordered epoch log) :
    ((activations log).map Activation.requestId).Nodup := by
  induction ordered with
  | nil => exact List.nodup_nil
  | binding row ordered ih => exact ih
  | activation row ordered next prior new ih =>
      refine List.nodup_cons.mpr ⟨?_, ih⟩
      intro listed
      obtain ⟨other, member, same⟩ := List.mem_map.mp listed
      exact new other member same

/-! ## One transaction -/

/-- What a transaction knows, given the committed log. -/
inductive Sound (log : List (Write Evidence)) : Transaction Evidence → Prop where
  | unbegun : Sound log ⟨.unbegun, none, []⟩
  | outside : Sound log ⟨.idle, none, []⟩
  | inside (epoch : Nat) (writes : List (Write Evidence)) (ordered : Ordered epoch (writes ++ log)) :
      Sound log ⟨.idle, some epoch, writes⟩
  | stamped (binding : ExecutionBinding) (epoch : Nat) (writes : List (Write Evidence))
      (ordered : Ordered epoch (writes ++ log)) : Sound log ⟨.stamped binding epoch, some epoch, writes⟩
  | reading (binding : ExecutionBinding) (epoch : Nat) (writes : List (Write Evidence))
      (ordered : Ordered epoch (writes ++ log)) : Sound log ⟨.reading binding, some epoch, writes⟩
  | activating (call : Call Evidence) (epoch : Nat) (writes : List (Write Evidence))
      (ordered : Ordered epoch (writes ++ log)) : Sound log ⟨.activating call epoch, some epoch, writes⟩
  | unused (call : Call Evidence) (epoch : Nat) (writes : List (Write Evidence))
      (ordered : Ordered epoch (writes ++ log)) (new : findRequest (writes ++ log) call.requestId = none)
      (expected : call.expectedEpoch = some (epoch : Int)) : Sound log ⟨.unused call epoch, some epoch, writes⟩
  | preceded (call : Call Evidence) (epoch : Nat) (writes : List (Write Evidence))
      (ordered : Ordered epoch (writes ++ log)) (new : findRequest (writes ++ log) call.requestId = none)
      (expected : call.expectedEpoch = some (epoch : Int)) :
      Sound log ⟨.preceded call epoch (releaseOf (writes ++ log) epoch), some epoch, writes⟩
  | bumped (call : Call Evidence) (epoch : Nat) (writes : List (Write Evidence))
      (ordered : Ordered epoch (writes ++ log)) (new : findRequest (writes ++ log) call.requestId = none)
      (expected : call.expectedEpoch = some (epoch : Int)) :
      Sound log ⟨.bumped call (epoch + 1) (releaseOf (writes ++ log) epoch), some (epoch + 1), writes⟩
  | failed (own : Option Nat) (writes : List (Write Evidence)) : Sound log ⟨.failed, own, writes⟩
  | ended : Sound log ⟨.ended, none, []⟩

/-- The epoch that an update of the row returns is that of what the transaction sees. -/
theorem Sound.current {log writes : List (Write Evidence)} {committed : Nat} {own : Option Nat}
    (sound : Sound log ⟨.idle, own, writes⟩) (ordered : Ordered committed log) :
    Ordered (own.getD committed) (writes ++ log) := by
  cases sound with
  | outside => exact ordered
  | inside epoch _ inner => exact inner

theorem rowOf_some {filled : Evidence → Bool} {call : Call Evidence} {epoch : Nat} {prior : Option JsString}
    {row : Activation Evidence} (made : rowOf filled call epoch prior = some row) :
    row.epoch = epoch ∧ row.previousReleaseId = prior ∧ call.requestId = some row.requestId := by
  unfold rowOf at made
  split at made
  · split at made
    · cases made
      exact ⟨rfl, rfl, by assumption⟩
    · cases made
  · cases made

theorem findRequest_none {log : List (Write Evidence)} {requestId : Option Id} (new : findRequest log requestId = none)
    {row : Activation Evidence} (member : row ∈ activations log) : some row.requestId ≠ requestId := by
  have other := List.find?_eq_none.mp new row member
  rw [decide_eq_true_eq] at other
  exact other

variable {platform : Platform} {filled : Evidence → Bool}

theorem Sound.statement {name committed : Nat} {log : List (Write Evidence)} {free : Prop}
    {before after : Transaction Evidence} {events : List (Event Evidence)} (sound : Sound log before)
    (ordered : Ordered committed log)
    (moved : Statement platform filled name committed log free before after events) : Sound log after := by
  cases moved with
  | begin => exact .outside
  | stamp binding own writes waited => exact .stamped binding _ writes (sound.current ordered)
  | insert binding epoch own writes absent =>
      cases sound with
      | stamped _ _ _ inner => exact .reading binding _ _ (.binding ⟨binding, epoch⟩ inner)
  | keep binding epoch own writes row present =>
      cases sound with
      | stamped _ _ _ inner => exact .reading binding _ _ inner
  | read binding own writes stands =>
      cases sound with
      | reading _ epoch _ inner => exact .inside epoch writes inner
  | drift binding own writes drifted => exact .failed own writes
  | lock call own writes waited => exact .activating call _ writes (sound.current ordered)
  | repeated call current own writes existing found same =>
      cases sound with
      | activating _ _ _ inner => exact .inside current writes inner
  | conflict call current own writes existing found other => exact .failed own writes
  | stale call current own writes new other => exact .failed own writes
  | search call current own writes new expected =>
      cases sound with
      | activating _ _ _ inner => exact .unused call current writes inner new expected
  | precede call current own writes =>
      cases sound with
      | unused _ _ _ inner new expected => exact .preceded call current writes inner new expected
  | bump call current prior own writes waited =>
      cases sound with
      | preceded _ _ _ inner new expected => exact .bumped call current writes inner new expected
  | record call current prior own writes row made keys =>
      cases sound with
      | bumped _ epoch _ inner new expected =>
          obtain ⟨next, prior, request⟩ := rowOf_some made
          refine .inside (epoch + 1) _ (.activation row inner next prior ?_)
          intro other member same
          exact findRequest_none new member (by rw [same, request])
  | reject call current prior own writes rejected => exact .failed own writes

/-- What a call answers, given what it saw. -/
structure Truthful [DecidableEq Evidence] (call : Call Evidence) (result : Option Nat) (seen : List (Write Evidence)) : Prop where
  retried : ∀ row ∈ activations seen, some row.requestId = call.requestId →
    result = if Identical row call then some row.epoch else none
  stale : (∀ row ∈ activations seen, some row.requestId ≠ call.requestId) →
    call.expectedEpoch ≠ some ((activations seen).length : Int) → result = none

/-- A request that is found is the only one with its identifier. -/
theorem Ordered.found {epoch : Nat} {log : List (Write Evidence)} (ordered : Ordered epoch log)
    {requestId : Option Id} {existing : Activation Evidence} (found : findRequest log requestId = some existing)
    {row : Activation Evidence} (member : row ∈ activations log) (same : some row.requestId = requestId) :
    row = existing := by
  have known := List.find?_some found
  rw [decide_eq_true_eq] at known
  apply List.inj_on_of_nodup_map ordered.once member (List.mem_of_find?_eq_some found)
  exact Option.some.inj (same.trans known.symm)

theorem Truthful.of_found [DecidableEq Evidence] {epoch : Nat} {seen : List (Write Evidence)} (ordered : Ordered epoch seen)
    {call : Call Evidence} {existing : Activation Evidence}
    (found : findRequest seen call.requestId = some existing) :
    Truthful call (if Identical existing call then some existing.epoch else none) seen where
  retried := by
    intro row member same
    rw [ordered.found found member same]
  stale := by
    intro absent
    have known := List.find?_some found
    rw [decide_eq_true_eq] at known
    exact absurd known (absent existing (List.mem_of_find?_eq_some found))

theorem Truthful.of_new [DecidableEq Evidence] {seen : List (Write Evidence)} {call : Call Evidence} {result : Option Nat}
    (new : findRequest seen call.requestId = none)
    (stale : call.expectedEpoch ≠ some ((activations seen).length : Int) → result = none) :
    Truthful call result seen where
  retried := by
    intro row member same
    exact absurd same (findRequest_none new member)
  stale := by
    intro _ other
    exact stale other

/-- The events of a statement: none, or the answer of a call, which fails the transaction when it is a refusal. -/
theorem Sound.events [DecidableEq Evidence] {name committed : Nat} {log : List (Write Evidence)} {free : Prop}
    {before after : Transaction Evidence} {events : List (Event Evidence)} (sound : Sound log before)
    (moved : Statement platform filled name committed log free before after events) :
    events = [] ∨ ∃ call result, events = [.answered name call result (before.writes ++ log)] ∧
      Truthful call result (before.writes ++ log) ∧ (result = none → after.stage = .failed) := by
  cases moved with
  | begin => exact .inl rfl
  | stamp binding own writes waited => exact .inl rfl
  | insert binding epoch own writes absent => exact .inl rfl
  | keep binding epoch own writes row present => exact .inl rfl
  | read binding own writes stands => exact .inl rfl
  | drift binding own writes drifted => exact .inl rfl
  | lock call own writes waited => exact .inl rfl
  | repeated call current own writes existing found same =>
      cases sound with
      | activating _ _ _ inner =>
          have truthful := Truthful.of_found inner found
          rw [if_pos same] at truthful
          exact .inr ⟨call, _, rfl, truthful, nofun⟩
  | conflict call current own writes existing found other =>
      cases sound with
      | activating _ _ _ inner =>
          have truthful := Truthful.of_found inner found
          rw [if_neg other] at truthful
          exact .inr ⟨call, _, rfl, truthful, fun _ => rfl⟩
  | stale call current own writes new other => exact .inr ⟨call, _, rfl, .of_new new fun _ => rfl, fun _ => rfl⟩
  | search call current own writes new expected => exact .inl rfl
  | precede call current own writes => exact .inl rfl
  | bump call current prior own writes waited => exact .inl rfl
  | record call current prior own writes row made keys =>
      cases sound with
      | bumped _ epoch _ inner new expected =>
          refine .inr ⟨call, _, rfl, .of_new new ?_, nofun⟩
          intro other
          rw [inner.length] at other
          exact absurd expected other
  | reject call current prior own writes rejected =>
      cases sound with
      | bumped _ epoch _ inner new expected =>
          exact .inr ⟨call, _, rfl, .of_new new fun _ => rfl, fun _ => rfl⟩

/-- A transaction takes the lock only when it is free. -/
theorem Statement.locks {name committed : Nat} {log : List (Write Evidence)} {free : Prop}
    {before after : Transaction Evidence} {events : List (Event Evidence)}
    (moved : Statement platform filled name committed log free before after events) (held : after.epoch ≠ none) :
    free ∨ before.epoch ≠ none := by
  cases moved with
  | stamp binding own writes waited => exact .inl waited
  | lock call own writes waited => exact .inl waited
  | bump call current prior own writes waited => exact .inl waited
  | _ => exact .inr held

/-- No statement follows the end of a transaction or an exception. -/
theorem Statement.live {name committed : Nat} {log : List (Write Evidence)} {free : Prop}
    {before after : Transaction Evidence} {events : List (Event Evidence)}
    (moved : Statement platform filled name committed log free before after events) :
    before.stage ≠ .failed ∧ before.stage ≠ .ended := by
  cases moved with
  | _ => exact ⟨nofun, nofun⟩

/-! ## Runs -/

/-- Every answer saw what was committed before it. -/
inductive Lawful [DecidableEq Evidence] : List (Event Evidence) → Prop where
  | nil : Lawful []
  | answered {past : List (Event Evidence)} (name : Nat) (call : Call Evidence) (result : Option Nat)
      (seen : List (Write Evidence)) (sees : committedLog past <:+ seen) (truthful : Truthful call result seen)
      (rest : Lawful past) : Lawful (.answered name call result seen :: past)
  | committed {past : List (Event Evidence)} (name : Nat) (writes : List (Write Evidence)) (rest : Lawful past) :
      Lawful (.committed name writes :: past)

/-- The invariant of the database. -/
structure Kept [DecidableEq Evidence] (db : Database Evidence) : Prop where
  ordered : Ordered db.epoch db.log
  sound : ∀ name, Sound db.log (db.transactions name)
  exclusive : ∀ name other, (db.transactions name).epoch ≠ none → other ≠ name →
    (db.transactions other).epoch = none
  history : db.log = committedLog db.past
  lawful : Lawful db.past
  refused : ∀ name call seen, .answered name call none seen ∈ db.past →
    (db.transactions name).stage = .failed ∨ (db.transactions name).stage = .ended
  committed : ∀ name writes, .committed name writes ∈ db.past → (db.transactions name).stage = .ended
  apart : ∀ name call seen, .answered name call none seen ∈ db.past → ∀ writes, .committed name writes ∉ db.past

theorem put_self (db : Database Evidence) (name : Nat) (transaction : Transaction Evidence) :
    (db.put name transaction).transactions name = transaction :=
  Function.update_self ..

theorem put_of_ne (db : Database Evidence) {name other : Nat} (different : other ≠ name)
    (transaction : Transaction Evidence) :
    (db.put name transaction).transactions other = db.transactions other :=
  Function.update_of_ne different ..

section Keeping

variable [DecidableEq Evidence]

theorem Kept.start : Kept (.start : Database Evidence) where
  ordered := .nil
  sound := fun _ => .unbegun
  exclusive := by
    intro name other held
    exact absurd rfl held
  history := rfl
  lawful := .nil
  refused := by
    intro name call seen member
    cases member
  committed := by
    intro name writes member
    cases member
  apart := by
    intro name call seen member
    cases member

omit [DecidableEq Evidence] in
/-- A transaction that holds no lock knows nothing of the committed log. -/
theorem Sound.elsewhere {log other : List (Write Evidence)} {transaction : Transaction Evidence}
    (sound : Sound log transaction) (unlocked : transaction.epoch = none) : Sound other transaction := by
  cases sound with
  | unbegun => exact .unbegun
  | outside => exact .outside
  | failed own writes => exact .failed own writes
  | ended => exact .ended
  | _ => cases unlocked

/-- The lock is exclusive after one transaction has moved. -/
theorem Kept.exclusive_put {db : Database Evidence} (kept : Kept db) {name : Nat} {after : Transaction Evidence}
    (alone : after.epoch ≠ none → ∀ other, other ≠ name → (db.transactions other).epoch = none)
    (first second : Nat) (held : ((db.put name after).transactions first).epoch ≠ none) (different : second ≠ first) :
    ((db.put name after).transactions second).epoch = none := by
  by_cases mine : first = name
  · subst mine
    rw [put_self] at held
    rw [put_of_ne db different]
    exact alone held second different
  · rw [put_of_ne db mine] at held
    by_cases theirs : second = name
    · subst theirs
      rw [put_self]
      by_contra taken
      exact held (alone taken first mine)
    · rw [put_of_ne db theirs]
      exact kept.exclusive first second held different

theorem Kept.run {db : Database Evidence} (kept : Kept db) {name : Nat} {after : Transaction Evidence}
    {events : List (Event Evidence)}
    (moved : Statement platform filled name db.epoch db.log (Free db name) (db.transactions name) after events) :
    Kept { db.put name after with past := events ++ db.past } := by
  obtain ⟨unfailed, unended⟩ := moved.live
  have sound : ∀ other, Sound db.log ((db.put name after).transactions other) := by
    intro other
    by_cases mine : other = name
    · subst mine
      rw [put_self]
      exact (kept.sound other).statement kept.ordered moved
    · rw [put_of_ne db mine]
      exact kept.sound other
  have alone : after.epoch ≠ none → ∀ other, other ≠ name → (db.transactions other).epoch = none := by
    intro held
    obtain free | already := moved.locks held
    · exact free
    · exact fun other => kept.exclusive name other already
  have exclusive := kept.exclusive_put alone
  have others : ∀ other call seen, .answered other call none seen ∈ db.past → other ≠ name := by
    intro other call seen member mine
    subst mine
    exact (kept.refused other call seen member).elim unfailed unended
  have uncommitted : ∀ writes, .committed name writes ∉ db.past := by
    intro writes member
    exact unended (kept.committed name writes member)
  have committed : ∀ other writes, .committed other writes ∈ db.past →
      ((db.put name after).transactions other).stage = .ended := by
    intro other writes member
    have different : other ≠ name := by
      intro mine
      subst mine
      exact uncommitted writes member
    rw [put_of_ne db different]
    exact kept.committed other writes member
  have refused : ∀ other call seen, .answered other call none seen ∈ db.past →
      ((db.put name after).transactions other).stage = .failed ∨
        ((db.put name after).transactions other).stage = .ended := by
    intro other call seen member
    rw [put_of_ne db (others other call seen member)]
    exact kept.refused other call seen member
  obtain none_ | ⟨call, result, one, truthful, fails⟩ := (kept.sound name).events moved
  · subst none_
    exact ⟨kept.ordered, sound, exclusive, kept.history, kept.lawful, refused, committed, kept.apart⟩
  · subst one
    refine ⟨kept.ordered, sound, exclusive, kept.history, ?_, ?_, ?_, ?_⟩
    · refine .answered name call result _ ?_ truthful kept.lawful
      change committedLog db.past <:+ _
      rw [← kept.history]
      exact List.suffix_append ..
    · intro other again seen member
      obtain same | earlier := List.mem_cons.mp member
      · cases same
        change ((db.put name after).transactions name).stage = .failed ∨ _
        rw [put_self]
        exact .inl (fails rfl)
      · exact refused other again seen earlier
    · intro other writes member
      obtain same | earlier := List.mem_cons.mp member
      · cases same
      · exact committed other writes earlier
    · intro other again seen member writes written
      obtain same | before := List.mem_cons.mp written
      · cases same
      · obtain same | earlier := List.mem_cons.mp member
        · cases same
          exact uncommitted writes before
        · exact kept.apart other again seen earlier writes before

theorem Kept.ended {db : Database Evidence} (kept : Kept db) (name : Nat) :
    Kept (db.put name ⟨.ended, none, []⟩) := by
  refine ⟨kept.ordered, ?_, ?_, kept.history, kept.lawful, ?_, ?_, kept.apart⟩
  · intro other
    by_cases mine : other = name
    · rw [mine, put_self]
      exact .ended
    · rw [put_of_ne db mine]
      exact kept.sound other
  · exact kept.exclusive_put fun held => absurd rfl held
  · intro other call seen member
    by_cases mine : other = name
    · rw [mine, put_self]
      exact .inr rfl
    · rw [put_of_ne db mine]
      exact kept.refused other call seen member
  · intro other writes member
    by_cases mine : other = name
    · rw [mine, put_self]
    · rw [put_of_ne db mine]
      exact kept.committed other writes member

theorem Kept.commit {db : Database Evidence} (kept : Kept db) {name : Nat} {own : Option Nat}
    {writes : List (Write Evidence)} (idle : db.transactions name = ⟨.idle, own, writes⟩) :
    Kept { db.put name ⟨.ended, none, []⟩ with
      epoch := own.getD db.epoch, log := writes ++ db.log, past := .committed name writes :: db.past } := by
  have finished := kept.ended name
  have mine : Sound db.log ⟨.idle, own, writes⟩ := by
    rw [← idle]
    exact kept.sound name
  refine ⟨mine.current kept.ordered, ?_, finished.exclusive, ?_, .committed name writes kept.lawful, ?_, ?_, ?_⟩
  · intro other
    cases own with
    | none =>
        cases mine with
        | outside => exact finished.sound other
    | some epoch =>
        apply (finished.sound other).elsewhere
        by_cases same : other = name
        · rw [same, put_self]
        · rw [put_of_ne db same]
          refine kept.exclusive name other ?_ same
          rw [idle]
          exact nofun
  · exact congrArg (writes ++ ·) kept.history
  · intro other call seen member
    obtain same | earlier := List.mem_cons.mp member
    · cases same
    · exact finished.refused other call seen earlier
  · intro other written member
    obtain same | earlier := List.mem_cons.mp member
    · cases same
      exact congrArg Transaction.stage (put_self db name _)
    · exact finished.committed other written earlier
  · intro other call seen member written again
    obtain same | earlier := List.mem_cons.mp member
    · cases same
    · obtain same | before := List.mem_cons.mp again
      · cases same
        have stopped := kept.refused name call seen earlier
        rw [idle] at stopped
        obtain stopped | stopped := stopped <;> cases stopped
      · exact kept.apart other call seen earlier written before

theorem Reachable.kept {db : Database Evidence} (reached : Reachable platform filled db) : Kept db := by
  induction reached with
  | start => exact .start
  | step reached taken ih =>
      cases taken with
      | run name after events moved => exact ih.run moved
      | commit name own writes idle => exact ih.commit idle
      | rollback name begun => exact ih.ended name

theorem Lawful.sees {later earlier : List (Event Evidence)} {name : Nat} {call : Call Evidence}
    {result : Option Nat} {seen : List (Write Evidence)}
    (lawful : Lawful (later ++ .answered name call result seen :: earlier)) :
    committedLog earlier <:+ seen ∧ Truthful call result seen := by
  induction later with
  | nil =>
      cases lawful with
      | answered _ _ _ _ sees truthful rest => exact ⟨sees, truthful⟩
  | cons event later ih =>
      cases lawful with
      | answered _ _ _ _ sees truthful rest => exact ih rest
      | committed _ _ rest => exact ih rest

theorem Lawful.truthful {past : List (Event Evidence)} (lawful : Lawful past) {name : Nat} {call : Call Evidence}
    {result : Option Nat} {seen : List (Write Evidence)} (member : .answered name call result seen ∈ past) :
    Truthful call result seen := by
  obtain ⟨later, earlier, split⟩ := List.append_of_mem member
  rw [split] at lawful
  exact lawful.sees.2

/-- However transactions interleave, releases and bindings are in one order. -/
theorem releases_ordered {db : Database Evidence} (reached : Reachable platform filled db) : ReleaseOrder db := by
  have kept := reached.kept
  refine ⟨kept.history, kept.ordered.epochs, fun row member => kept.ordered.predecessors member, ?_, ?_,
    kept.ordered.once, ?_, ?_, ?_, kept.apart⟩
  · intro later row earlier split binding member
    have ordered := kept.ordered
    rw [split] at ordered
    obtain ⟨before, next, inner⟩ := ordered.beneath
    have bound := inner.stamped_le member
    omega
  · intro later row earlier split
    have ordered := kept.ordered
    rw [split] at ordered
    exact ordered.above.2
  · intro later name call result seen earlier split
    have lawful := kept.lawful
    rw [split] at lawful
    exact lawful.sees.1
  · intro name call result seen member
    exact (kept.lawful.truthful member).retried
  · intro name call result seen member
    exact (kept.lawful.truthful member).stale

end Keeping

end Statements

/-! ## A sample run -/

def sampleCall : Call Bool :=
  ⟨some ⟨js "c0000037-0000-4000-8000-000000000001", by decide⟩, some (js "release-1"), some 0, some true⟩

theorem sample_alone (transaction : Transaction Bool) : Free (Database.start.put 0 transaction) 0 := by
  intro other different
  rw [put_of_ne _ different]
  rfl

/-- The state of the only transaction of a run that has committed nothing yet. -/
def sampleWithin (transaction : Transaction Bool) (past : List (Event Bool)) : Database Bool :=
  { Database.start.put 0 transaction with past := past }

theorem sampleWithin_self (transaction : Transaction Bool) (past : List (Event Bool)) :
    (sampleWithin transaction past).transactions 0 = transaction :=
  put_self .start 0 transaction

theorem sampleWithin_step {before after : Transaction Bool} {past events : List (Event Bool)}
    (reached : Reachable .ascii id (sampleWithin before past))
    (moved : ∀ free : Prop, free → Statement .ascii id 0 0 [] free before after events) :
    Reachable .ascii id (sampleWithin after (events ++ past)) := by
  have alone : Free (sampleWithin before past) 0 := sample_alone before
  have next := Reachable.step reached (.run 0 after events (by rw [sampleWithin_self]; exact moved _ alone))
  have same : Function.update (Function.update (Database.start : Database Bool).transactions 0 before) 0 after =
      Function.update Database.start.transactions 0 after := Function.update_idem ..
  simpa only [sampleWithin, Database.put, same] using next

def sampleRow : Activation Bool :=
  ⟨1, ⟨js "c0000037-0000-4000-8000-000000000001", by decide⟩, js "release-1", none, true⟩

def sampleAnswer : Event Bool := .answered 0 sampleCall (some 1) []

theorem sampleActivated_reached : Reachable .ascii id
    (sampleWithin ⟨.idle, some 1, [.activation sampleRow]⟩ [sampleAnswer]) := by
  have unbegun : Reachable .ascii id (sampleWithin ⟨.unbegun, none, []⟩ []) := by
    have same : sampleWithin ⟨.unbegun, none, []⟩ [] = .start :=
      congrArg (fun transactions => (⟨0, [], transactions, []⟩ : Database Bool)) (Function.update_eq_self ..)
    rw [same]
    exact .start
  have begun := sampleWithin_step unbegun fun _ _ => .begin
  have locked := sampleWithin_step begun fun _ free => .lock sampleCall none [] free
  have searched := sampleWithin_step locked fun _ _ => .search sampleCall 0 (some 0) [] rfl rfl
  have preceded := sampleWithin_step searched fun _ _ => .precede sampleCall 0 (some 0) []
  have bumped := sampleWithin_step preceded fun _ free => .bump sampleCall 0 none (some 0) [] free
  exact sampleWithin_step bumped fun _ _ =>
    .record sampleCall 1 none (some 1) [] sampleRow (by decide +kernel) nofun

/-- The first release has been activated. -/
def sampleDatabase : Database Bool :=
  { (sampleWithin ⟨.idle, some 1, [.activation sampleRow]⟩ [sampleAnswer]).put 0 ⟨.ended, none, []⟩ with
    epoch := 1, log := [.activation sampleRow], past := [.committed 0 [.activation sampleRow], sampleAnswer] }

theorem sampleDatabase_reached : Reachable .ascii id sampleDatabase :=
  .step sampleActivated_reached (.commit 0 (some 1) [.activation sampleRow] (sampleWithin_self ..))

theorem first_release_ordered : ReleaseOrder sampleDatabase :=
  releases_ordered sampleDatabase_reached

end KernelJson.Releases.Provenance
