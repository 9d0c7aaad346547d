import KernelJson.Alerting.DeliveryWorker

/-!
# Terminal outbox rows

An outcome is written over whatever the row holds, so a terminal row stays
terminal only while nobody writes outcomes for it any more.  That is so as long
as recovery takes up abandoned attempts only: then each row in flight belongs to
one attempt, or to one recovery, and to nobody else.
-/

namespace KernelJson.Alerting.TerminalRows

open Alerting.DeliveryWorker
open Alerting.Outbox
open Alerting.OutboxStores
open Foundation.DurablePrograms
open Foundation.JsText

/-! ## Ownership of rows in flight -/

section Ownership

variable {boundary : NotificationOutboxStore}

/-- The row has this status. -/
def HasStatus (world : DeliveryWorld boundary) (id : JsString) (status : OutboxStatus) : Prop :=
  ∃ row, world.row id = some row ∧ row.status = status

/-- Some attempt on the row is between its claim and its outcome. -/
def InFlight (world : DeliveryWorld boundary) (id : JsString) : Prop :=
  ∃ actor, world.attempts actor = some id

/-- The row is in flight for nobody. -/
def Orphaned (world : DeliveryWorld boundary) (id : JsString) : Prop :=
  HasStatus world id .sending ∧ ¬ InFlight world id

/-- Each attempted row is sending, and one actor attempts it. -/
structure Owned (world : DeliveryWorld boundary) : Prop where
  sending : ∀ {actor id}, world.attempts actor = some id → HasStatus world id .sending
  unique : ∀ {actor other id}, world.attempts actor = some id → world.attempts other = some id →
    other = actor

/-- Terminal rows keep their status, and no notification is started for them. -/
def Settled (before after : DeliveryWorld boundary) : Prop :=
  ∀ id status, Terminal status → HasStatus before id status →
    HasStatus after id status ∧ after.notified.count id = before.notified.count id

/-- What others leave alone: the row an actor attempts and, for the holder of the lock, the
orphaned rows. -/
structure Undisturbed (actor : Nat) (before after : DeliveryWorld boundary) : Prop where
  attempt : after.attempts actor = before.attempts actor
  lock : before.lock = some actor → after.lock = some actor
  orphans : before.lock = some actor → ∀ id, Orphaned before id → Orphaned after id

theorem HasStatus.unique {world : DeliveryWorld boundary} {id : JsString} {first second : OutboxStatus}
    (here : HasStatus world id first) (there : HasStatus world id second) : first = second := by
  obtain ⟨row, found, rfl⟩ := here
  obtain ⟨row', found', rfl⟩ := there
  rw [found] at found'
  cases found'
  rfl

theorem not_terminal_sending : ¬ Terminal .sending := by
  rintro (delivered | poison)
  · cases delivered
  · cases poison

/-- Rows in flight are delivered by one attempt, or recovered by the holder of the lock. -/
def ownership (boundary : NotificationOutboxStore) : Discipline (DeliveryWorld boundary) where
  valid := Owned
  grows := Settled
  rely := Undisturbed
  grows_refl := fun _ _ _ _ here => ⟨here, rfl⟩
  grows_trans := by
    intro first second third left right id status terminal here
    obtain ⟨middle, count⟩ := left id status terminal here
    obtain ⟨last, count'⟩ := right id status terminal middle
    exact ⟨last, count'.trans count⟩
  rely_refl := fun _ _ => ⟨rfl, id, fun _ _ => id⟩
  rely_trans := by
    intro actor first second third left right
    exact ⟨right.attempt.trans left.attempt, fun held => right.lock (left.lock held),
      fun held id orphan => right.orphans (left.lock held) id (left.orphans held id orphan)⟩

/-! ## What single effects preserve -/

/-- The same rows and attempts, and the same lock for everyone else. -/
theorem undisturbed_of_same {actor other : Nat} {before after : DeliveryWorld boundary}
    (different : other ≠ actor) (rows : ∀ id, after.row id = before.row id)
    (attempts : ∀ other, other ≠ actor → after.attempts other = before.attempts other)
    (own : ∀ id, after.attempts actor = some id → before.attempts actor = some id)
    (lock : before.lock = some other → after.lock = some other) : Undisturbed other before after where
  attempt := attempts other different
  lock := lock
  orphans := by
    rintro - id ⟨⟨row, found, sending⟩, idle⟩
    refine ⟨⟨row, (rows id).trans found, sending⟩, ?_⟩
    rintro ⟨owner, attempt⟩
    by_cases same : owner = actor
    · subst same
      exact idle ⟨owner, own id attempt⟩
    · exact idle ⟨owner, (attempts owner same).symm.trans attempt⟩

theorem Settled.of_rows {before after : DeliveryWorld boundary} (rows : ∀ id, after.row id = before.row id)
    (notified : after.notified = before.notified) : Settled before after := by
  rintro id status - ⟨row, found, here⟩
  exact ⟨⟨row, (rows id).trans found, here⟩, by rw [notified]⟩

/-- Dropping an attempt, or the lock, harms nobody. -/
theorem Owned.release {before after : DeliveryWorld boundary} (owned : Owned before) {actor : Nat}
    (rows : ∀ id, after.row id = before.row id)
    (attempts : ∀ other, other ≠ actor → after.attempts other = before.attempts other)
    (own : ∀ id, after.attempts actor = some id → before.attempts actor = some id) : Owned after := by
  have earlier : ∀ {owner id}, after.attempts owner = some id → before.attempts owner = some id := by
    intro owner id attempt
    by_cases same : owner = actor
    · subst same
      exact own id attempt
    · exact (attempts owner same).symm.trans attempt
  refine ⟨fun attempt => ?_, fun attempt attempt' => owned.unique (earlier attempt) (earlier attempt')⟩
  obtain ⟨row, found, sending⟩ := owned.sending (earlier attempt)
  exact ⟨row, (rows _).trans found, sending⟩

/-- An effect that leaves rows and notifications alone and attempts nothing new. -/
theorem quiet_guarantee {actor : Nat} {before after : DeliveryWorld boundary} (owned : Owned before)
    (rows : ∀ id, after.row id = before.row id) (notified : after.notified = before.notified)
    (attempts : ∀ other, other ≠ actor → after.attempts other = before.attempts other)
    (own : ∀ id, after.attempts actor = some id → before.attempts actor = some id)
    (lock : ∀ other, other ≠ actor → before.lock = some other → after.lock = some other) :
    (ownership boundary).Guarantee false actor before after where
  valid := owned.release rows attempts own
  grows := .of_rows rows notified
  others := by
    rintro other (durable | different)
    · cases durable
    · exact undisturbed_of_same different rows attempts own (lock other different)

/-- A claim of a pending row, attempted by the claimer unless the answer was lost. -/
theorem claim_guarantee {actor : Nat} {before after : DeliveryWorld boundary} {id : JsString}
    {old new : NotificationOutboxRow} (owned : Owned before) (found : before.row id = some old)
    (pending : old.status = .pending) (sending : new.status = .sending)
    (rows : ∀ other, after.row other = if other = id then some new else before.row other)
    (notified : after.notified = before.notified) (lock : after.lock = before.lock)
    (attempts : ∀ other, other ≠ actor → after.attempts other = before.attempts other)
    (own : ∀ claimed, after.attempts actor = some claimed → claimed = id ∨ before.attempts actor = some claimed) :
    (ownership boundary).Guarantee false actor before after := by
  have here : HasStatus before id .pending := ⟨old, found, pending⟩
  have free : ∀ {owner}, before.attempts owner ≠ some id := fun attempt =>
    OutboxStatus.noConfusion (here.unique (owned.sending attempt))
  have kept : ∀ {other status}, other ≠ id → HasStatus before other status → HasStatus after other status := by
    rintro other status different ⟨row, same, here⟩
    exact ⟨row, by rw [rows, if_neg different, same], here⟩
  have now : HasStatus after id .sending := ⟨new, by rw [rows, if_pos rfl], sending⟩
  have earlier : ∀ {owner claimed}, after.attempts owner = some claimed → claimed ≠ id →
      before.attempts owner = some claimed := by
    intro owner claimed attempt different
    by_cases same : owner = actor
    · subst same
      exact (own claimed attempt).resolve_left different
    · exact (attempts owner same).symm.trans attempt
  have claimer : ∀ {owner}, after.attempts owner = some id → owner = actor := by
    intro owner attempt
    by_contra different
    exact free ((attempts owner different).symm.trans attempt)
  refine ⟨⟨fun {owner claimed} attempt => ?_, fun {owner other claimed} attempt attempt' => ?_⟩,
    fun other status terminal there => ?_, fun other distinct => ?_⟩
  · by_cases same : claimed = id
    · exact same ▸ now
    · exact kept same (owned.sending (earlier attempt same))
  · by_cases same : claimed = id
    · subst same
      exact (claimer attempt').trans (claimer attempt).symm
    · exact owned.unique (earlier attempt same) (earlier attempt' same)
  · have different : other ≠ id := by
      rintro rfl
      rw [there.unique here] at terminal
      rcases terminal with delivered | poison
      · cases delivered
      · cases poison
    exact ⟨kept different there, by rw [notified]⟩
  · refine ⟨attempts other (distinct.resolve_left Bool.noConfusion), fun held => lock.trans held, ?_⟩
    rintro - orphan ⟨there, idle⟩
    have different : orphan ≠ id := by
      rintro rfl
      exact OutboxStatus.noConfusion (here.unique there)
    exact ⟨kept different there, fun ⟨owner, attempt⟩ => idle ⟨owner, earlier attempt different⟩⟩

/-- An outcome for a row in flight that nobody else attempts and no lock holder recovers. -/
theorem outcome_guarantee {actor : Nat} {before after : DeliveryWorld boundary} {id : JsString}
    (owned : Owned before) (sending : HasStatus before id .sending)
    (alone : ∀ other, other ≠ actor → before.attempts other ≠ some id)
    (exclusive : ∀ other, other ≠ actor → before.lock = some other → ¬ Orphaned before id)
    (rows : ∀ other, other ≠ id → after.row other = before.row other)
    (notified : after.notified = before.notified) (lock : after.lock = before.lock)
    (attempts : ∀ other, other ≠ actor → after.attempts other = before.attempts other)
    (own : after.attempts actor = none) :
    (ownership boundary).Guarantee false actor before after := by
  have kept : ∀ {other status}, other ≠ id → HasStatus before other status → HasStatus after other status := by
    rintro other status different ⟨row, same, here⟩
    exact ⟨row, (rows other different).trans same, here⟩
  have earlier : ∀ {owner claimed}, after.attempts owner = some claimed →
      owner ≠ actor ∧ before.attempts owner = some claimed := by
    intro owner claimed attempt
    have different : owner ≠ actor := by
      rintro rfl
      rw [own] at attempt
      cases attempt
    exact ⟨different, (attempts owner different).symm.trans attempt⟩
  refine ⟨⟨fun {owner claimed} attempt => ?_, fun attempt attempt' => ?_⟩,
    fun other status terminal there => ?_, fun other distinct => ?_⟩
  · obtain ⟨different, attempted⟩ := earlier attempt
    exact kept (fun same => alone owner different (same ▸ attempted)) (owned.sending attempted)
  · exact owned.unique (earlier attempt).2 (earlier attempt').2
  · have different : other ≠ id := by
      rintro rfl
      exact not_terminal_sending (there.unique sending ▸ terminal)
    exact ⟨kept different there, by rw [notified]⟩
  · have different := distinct.resolve_left Bool.noConfusion
    refine ⟨attempts other different, fun held => lock.trans held, fun held orphan ⟨there, idle⟩ => ?_⟩
    have apart : orphan ≠ id := fun same => exclusive other different held (same ▸ ⟨there, idle⟩)
    exact ⟨kept apart there, fun ⟨owner, attempt⟩ => idle ⟨owner, (earlier attempt).2⟩⟩

/-- A notification for the row that the actor attempts. -/
theorem notify_guarantee {actor : Nat} {world : DeliveryWorld boundary} {id : JsString}
    (owned : Owned world) (attempt : world.attempts actor = some id) :
    (ownership boundary).Guarantee false actor world { world with notified := world.notified ++ [id] } := by
  refine ⟨⟨owned.sending, owned.unique⟩, fun other status terminal there => ⟨there, ?_⟩, fun other _ =>
    ⟨rfl, fun held => held, fun _ _ orphan => orphan⟩⟩
  have different : id ≠ other := by
    rintro rfl
    exact not_terminal_sending (there.unique (owned.sending attempt) ▸ terminal)
  rw [List.count_append, List.count_singleton, if_neg (by simpa using different), Nat.add_zero]

end Ownership

/-! ## The guarded paths -/

/-- Recovery takes up abandoned attempts only: when stale rows are listed, nobody is between
the claim and the outcome of an attempt on any of them. -/
def RecoversAbandoned (boundary : NotificationOutboxStore) :
    Nat → (op : DeliveryOp) → DeliveryWorld boundary → op.Answer → Prop
  | _, .listStaleSending _ _, world, answer =>
      ∀ stale, answer = some stale → ∀ row ∈ stale, ¬ InFlight world row.notificationId
  | _, _, _, _ => True

/-- The delivery machine while recovery takes up abandoned attempts only. -/
def guardedMachine (boundary : NotificationOutboxStore) :
    Machine (DeliveryWorld boundary) DeliveryOp DeliveryOp.Answer (Option DeliverySummary) :=
  (deliveryMachine boundary).restrict (RecoversAbandoned boundary)

section Paths

variable {boundary : NotificationOutboxStore} {actor : Nat} {deps : DeliveryDeps} {nowIso : Int}

/-- The obligation of an actor inside the guarded machine. -/
abbrev Obliged {β : Type} (boundary : NotificationOutboxStore) (actor : Nat) (program : Delivery β)
    (post : β → DeliveryWorld boundary → Prop) (world : DeliveryWorld boundary) : Prop :=
  wp (guardedMachine boundary).exec false (ownership boundary) actor program post world

theorem attempting_self (world : DeliveryWorld boundary) (id : Option JsString) :
    (world.attempting actor id).attempts actor = id :=
  Function.update_self _ _ _

theorem attempting_other (world : DeliveryWorld boundary) (id : Option JsString) {other : Nat}
    (different : other ≠ actor) : (world.attempting actor id).attempts other = world.attempts other :=
  Function.update_of_ne different _ _

/-- The outcome of an operation that touches neither rows nor attempts, nor another's lock. -/
theorem still_guarantee {world : DeliveryWorld boundary} (owned : Owned world) {lock : Option Nat}
    (others : ∀ other, other ≠ actor → world.lock = some other → lock = some other) :
    (ownership boundary).Guarantee false actor world { world with lock := lock } :=
  quiet_guarantee owned (fun _ => rfl) rfl (fun _ _ => rfl) (fun _ => id) others

/-- What writing an outcome may change. -/
structure WritesOutcome (actor : Nat) (id : JsString) (before after : DeliveryWorld boundary) : Prop where
  rows : ∀ other, other ≠ id → after.row other = before.row other
  notified : after.notified = before.notified
  lock : after.lock = before.lock
  attempts : ∀ other, other ≠ actor → after.attempts other = before.attempts other
  own : after.attempts actor = none

theorem perform_applyOutcome {row : NotificationOutboxRow} {eventOutcome : DeliveryOutcome}
    {errorClass : Option JsString} {attemptNumber : Nat} {now : Int} {transport : JsString}
    {before after : DeliveryWorld boundary} {answer : Option Unit}
    (effect : perform boundary actor
      (.applyOutcome row eventOutcome errorClass attemptNumber now transport) before answer after) :
    WritesOutcome actor row.notificationId before after := by
  rcases effect with ⟨outbox, written, rfl⟩ | ⟨-, rfl⟩
  · exact ⟨(boundary.applyOutcome_row written).1, rfl, rfl, fun _ => attempting_other _ _, attempting_self _ _⟩
  · exact ⟨fun _ _ => rfl, rfl, rfl, fun _ => attempting_other _ _, attempting_self _ _⟩

theorem recordAttempt_obliged {claimed : NotificationOutboxRow} {attempt : DeliveryAttemptResult}
    {tally : DeliveryTally} {world : DeliveryWorld boundary}
    (attempted : world.attempts actor = some claimed.notificationId) :
    Obliged boundary actor (recordAttempt deps claimed attempt nowIso tally) (fun _ _ => True) world := by
  intro before relied owned answer after ⟨effect, _⟩
  have own : before.attempts actor = some claimed.notificationId := relied.attempt.trans attempted
  have written := perform_applyOutcome effect
  rw [decideNextOutboxState_id] at written
  refine ⟨outcome_guarantee owned (owned.sending own) (fun other different there => ?_)
    (fun other _ _ orphan => orphan.2 ⟨actor, own⟩) written.rows written.notified written.lock
    written.attempts written.own, ?_⟩
  · exact different (owned.unique own there)
  · cases answer with
    | none => exact fun _ _ _ => trivial
    | some _ => exact fun _ _ _ => trivial

/-- A successful claim returns the row it made the actor attempt. -/
theorem perform_markSending {id : JsString} {now : Int} {before after : DeliveryWorld boundary}
    {answer : Option (Option NotificationOutboxRow)} (owned : Owned before)
    (effect : perform boundary actor (.markSending id now) before answer after) :
    (ownership boundary).Guarantee false actor before after ∧
      ∀ claimed, answer = some (some claimed) → after.attempts actor = some claimed.notificationId := by
  rcases boundary.markSending_row id now before.outbox with ⟨none, rows⟩ | ⟨old, found, claimable, some, rows⟩
  · rcases effect with ⟨rfl, rfl⟩ | ⟨rfl, rfl | rfl⟩
    · rw [none]
      refine ⟨quiet_guarantee owned rows rfl (fun _ => attempting_other _ _) (fun claimed attempt => ?_)
        (fun _ _ held => held), fun _ impossible => by cases impossible⟩
      rw [attempting_self] at attempt
      cases attempt
    · exact ⟨.refl owned, fun _ impossible => by cases impossible⟩
    · exact ⟨quiet_guarantee owned rows rfl (fun _ _ => rfl) (fun _ same => same) (fun _ _ held => held),
        fun _ impossible => by cases impossible⟩
  · rcases effect with ⟨rfl, rfl⟩ | ⟨rfl, rfl | rfl⟩
    · rw [some]
      refine ⟨claim_guarantee owned found claimable.1 rfl rows rfl rfl (fun _ => attempting_other _ _)
        (fun claimed attempt => ?_), fun claimed same => ?_⟩
      · rw [attempting_self] at attempt
        cases attempt
        exact Or.inl rfl
      · cases same
        rw [attempting_self]
        exact congrArg _ (boundary.row_id found).symm
    · exact ⟨.refl owned, fun _ impossible => by cases impossible⟩
    · exact ⟨claim_guarantee owned found claimable.1 rfl rows rfl rfl (fun _ _ => rfl) (fun _ => Or.inr),
        fun _ impossible => by cases impossible⟩

theorem deliverRow_obliged (id : JsString) (tally : DeliveryTally) (world : DeliveryWorld boundary) :
    Obliged boundary actor (deliverRow deps id nowIso tally) (fun _ _ => True) world := by
  intro before relied owned answer after ⟨effect, _⟩
  obtain ⟨guarantee, attempted⟩ := perform_markSending owned effect
  refine ⟨guarantee, ?_⟩
  rcases answer with - | - | claimed
  · exact fun _ _ _ => trivial
  · exact fun _ _ _ => trivial
  · have own := attempted claimed rfl
    rintro notifying relied' owned' - started ⟨rfl, -⟩
    have kept : notifying.attempts actor = some claimed.notificationId := relied'.attempt.trans own
    refine ⟨?_, ?_⟩
    · rw [rowToPayload_id]
      exact notify_guarantee owned' kept
    · rintro waiting relied'' owned'' attempt ended ⟨rfl, -⟩
      exact ⟨.refl owned'', recordAttempt_obliged (relied''.attempt.trans kept)⟩

theorem deliverEach_obliged (ids : List JsString) (tally : DeliveryTally) (world : DeliveryWorld boundary) :
    Obliged boundary actor (deliverEach deps nowIso ids tally) (fun _ _ => True) world := by
  induction ids generalizing tally world with
  | nil => exact fun _ _ _ => trivial
  | cons id rest ih =>
      refine wp_bind (wp_mono (fun progress current _ _ => ?_) (deliverRow_obliged id tally world))
      obtain ⟨tally, result⟩ := progress
      cases result with
      | ok => exact ih tally current
      | outboxFailed => exact fun _ _ _ => trivial

theorem drainDue_obliged (tally : DeliveryTally) (world : DeliveryWorld boundary) :
    Obliged boundary actor (drainDue deps nowIso tally) (fun _ _ => True) world := by
  intro before relied owned answer after ⟨effect, _⟩
  obtain ⟨-, rfl⟩ := effect
  refine ⟨.refl owned, ?_⟩
  cases answer with
  | none => exact fun _ _ _ => trivial
  | some due => exact deliverEach_obliged _ _ _

theorem WritesOutcome.orphaned {before after : DeliveryWorld boundary} {id other : JsString}
    (written : WritesOutcome actor id before after) (different : other ≠ id)
    (orphan : Orphaned before other) : Orphaned after other := by
  obtain ⟨⟨row, found, sending⟩, idle⟩ := orphan
  refine ⟨⟨row, (written.rows other different).trans found, sending⟩, ?_⟩
  rintro ⟨owner, attempt⟩
  by_cases same : owner = actor
  · subst same
    rw [written.own] at attempt
    cases attempt
  · exact idle ⟨owner, (written.attempts owner same).symm.trans attempt⟩

/-- Recovery by the holder of the lock, of rows that were orphaned when they were listed. -/
theorem recoverEach_obliged {stale : List NotificationOutboxRow} {tally : DeliveryTally}
    {world : DeliveryWorld boundary} (held : world.lock = some actor)
    (distinct : (stale.map (·.notificationId)).Nodup)
    (orphaned : ∀ row ∈ stale, Orphaned world row.notificationId) :
    Obliged boundary actor (recoverEach deps nowIso stale tally) (fun _ _ => True) world := by
  induction stale generalizing tally world with
  | nil => exact fun _ _ _ => trivial
  | cons row rest ih =>
      obtain ⟨fresh, distinct'⟩ := List.nodup_cons.mp distinct
      unfold recoverEach
      cases recovered : recoverIfStaleSending row nowIso deps.config with
      | none => exact ih held distinct' fun other member => orphaned other (List.mem_cons_of_mem _ member)
      | some decision =>
          intro before relied owned answer after ⟨effect, _⟩
          have here := relied.lock held
          have orphan := relied.orphans held _ (orphaned row List.mem_cons_self)
          have written := perform_applyOutcome effect
          rw [(recoverIfStaleSending_spec recovered).2.1] at written
          refine ⟨outcome_guarantee owned orphan.1 (fun other _ attempt => orphan.2 ⟨other, attempt⟩)
            (fun other different lock => ?_) written.rows written.notified written.lock written.attempts
            written.own, ?_⟩
          · rw [here] at lock
            exact absurd (Option.some.inj lock).symm different
          · cases answer with
            | none => exact fun _ _ _ => trivial
            | some _ =>
                refine ih (written.lock.trans here) distinct' fun other member => ?_
                have different : other.notificationId ≠ row.notificationId := fun same =>
                  fresh (List.mem_map.mpr ⟨other, member, same⟩)
                exact written.orphaned different
                  (relied.orphans held _ (orphaned other (List.mem_cons_of_mem _ member)))

theorem workOutbox_obliged {world : DeliveryWorld boundary} (held : world.lock = some actor) :
    Obliged boundary actor (workOutbox deps nowIso) (fun _ _ => True) world := by
  intro before relied owned answer after ⟨effect, abandoned⟩
  obtain ⟨listed, rfl⟩ := effect
  refine ⟨.refl owned, ?_⟩
  cases answer with
  | none => exact fun _ _ _ => trivial
  | some stale =>
      have same : stale = boundary.listStaleSending nowIso deps.config.staleSendingMs after.outbox :=
        Option.some.inj (listed.resolve_left (Option.some_ne_none stale))
      refine wp_bind (wp_mono (fun progress current _ _ => ?_)
        (recoverEach_obliged (relied.lock held) (same ▸ boundary.listStaleSending_nodup _ _ _) fun row member => ?_))
      · obtain ⟨tally, result⟩ := progress
        cases result with
        | ok => exact drainDue_obliged tally current
        | outboxFailed => exact fun _ _ _ => trivial
      · obtain ⟨found, sending, -⟩ := boundary.listStaleSending_row (same ▸ member)
        exact ⟨⟨row, found, sending⟩, abandoned stale rfl row member⟩

theorem runDeliveryWorker_obliged {world : DeliveryWorld boundary} (held : world.lock = some actor) :
    Obliged boundary actor (runDeliveryWorker deps) (fun _ _ => True) world := by
  rintro before relied owned start after ⟨rfl, -⟩
  refine ⟨.refl owned, wp_bind (wp_mono (fun progress current _ _ => ?_)
    (workOutbox_obliged (relied.lock held)))⟩
  rintro waiting - owned' finish ended ⟨rfl, -⟩
  exact ⟨.refl owned', fun _ _ _ => trivial⟩

theorem deliverRows_obliged (ids : List JsString) (world : DeliveryWorld boundary) :
    Obliged boundary actor (deliverRows deps ids) (fun _ _ => True) world := by
  rintro before - owned start after ⟨rfl, -⟩
  refine ⟨.refl owned, wp_bind (wp_mono (fun progress current _ _ => ?_) (deliverEach_obliged ids .zero _))⟩
  rintro waiting - owned' finish ended ⟨rfl, -⟩
  exact ⟨.refl owned', fun _ _ _ => trivial⟩

theorem monitorTick_obliged (world : DeliveryWorld boundary) :
    Obliged boundary actor (monitorTick deps) (fun _ _ => True) world := by
  intro before relied owned answer after ⟨effect, _⟩
  rcases effect with ⟨rfl, free, rfl⟩ | ⟨rfl, -, rfl⟩
  · refine ⟨still_guarantee owned fun other _ held => ?_, wp_bind (wp_mono (fun summary current _ _ => ?_)
      (runDeliveryWorker_obliged rfl))⟩
    · rw [free] at held
      cases held
    · intro waiting _ owned' done released ⟨effect', _⟩
      subst effect'
      refine ⟨?_, fun _ _ _ => trivial⟩
      split
      · next mine =>
          refine still_guarantee owned' fun other different held => ?_
          rw [mine] at held
          exact absurd (Option.some.inj held).symm different
      · exact .refl owned'
  · exact ⟨.refl owned, fun _ _ _ => trivial⟩

end Paths

/-! ## Runs -/

section Runs

variable {boundary : NotificationOutboxStore}

theorem queued_keeps {before after : DeliveryWorld boundary} (queued : Queued boundary before after)
    (owned : Owned before) :
    Owned after ∧ Settled before after ∧ ∀ actor, Undisturbed actor before after := by
  cases queued with
  | @enqueue intents outbox done =>
      have kept : ∀ {id status}, HasStatus before id status →
          HasStatus (before.withOutbox outbox) id status := by
        rintro id status ⟨row, found, here⟩
        rcases boundary.enqueue_row done id with same | ⟨absent, -⟩
        · exact ⟨row, same.trans found, here⟩
        · exact absurd (absent.symm.trans found) (Option.some_ne_none row).symm
      exact ⟨⟨fun attempt => kept (owned.sending attempt), owned.unique⟩, fun _ _ _ here => ⟨kept here, rfl⟩,
        fun _ => ⟨rfl, fun held => held, fun _ _ orphan => ⟨kept orphan.1, orphan.2⟩⟩⟩

theorem guardedMachine_certified (boundary : NotificationOutboxStore) :
    Certified (guardedMachine boundary) (ownership boundary) (fun _ _ => True) where
  started := by
    rintro actor world program (⟨deps, rfl⟩ | ⟨deps, ids, rfl⟩) -
    · exact monitorTick_obliged world
    · exact wp_bind (wp_mono (fun _ _ _ _ => fun _ _ _ => trivial) (deliverRows_obliged ids world))
  environment := queued_keeps
  halted := by
    rintro actor before after rfl owned
    have others : ∀ other, other ≠ actor → before.lock = some other →
        (if before.lock = some actor then none else before.lock) = some other := by
      intro other different held
      rw [if_neg fun mine => different (Option.some.inj (held.symm.trans mine)), held]
    have guarantee : (ownership boundary).Guarantee false actor before
        { before.attempting actor none with
          lock := if before.lock = some actor then none else before.lock } := by
      refine quiet_guarantee owned (fun _ => rfl) rfl (fun other => attempting_other before none)
        (fun id attempt => ?_) others
      have settled : (before.attempting actor none).attempts actor = some id := attempt
      rw [attempting_self] at settled
      cases settled
    exact ⟨guarantee.valid, guarantee.grows, fun other different => guarantee.others other (Or.inr different)⟩

theorem initial_owned (outbox : boundary.Store) : Owned (DeliveryWorld.initial outbox) where
  sending := fun attempt => by cases attempt
  unique := fun attempt => by cases attempt

/-- In every run of the delivery paths whose recoveries take up abandoned attempts only, a row
once delivered or poisoned keeps its status, and no notification is started for it again. -/
theorem terminal_rows_final {outbox : boundary.Store}
    {config later : Config (DeliveryWorld boundary) DeliveryOp DeliveryOp.Answer (Option DeliverySummary)}
    (reached : Steps (guardedMachine boundary) (Config.initial (.initial outbox)) config)
    (continued : Steps (guardedMachine boundary) config later) {id : JsString} {row : NotificationOutboxRow}
    (found : config.world.row id = some row) (terminal : Terminal row.status) :
    (∃ row', later.world.row id = some row' ∧ row'.status = row.status) ∧
      later.world.notified.count id = config.world.notified.count id := by
  have certified := guardedMachine_certified boundary
  obtain ⟨sound, -⟩ := certified.steps (Sound.initial (initial_owned outbox)) reached
  obtain ⟨-, settled⟩ := certified.steps sound continued
  exact settled id row.status terminal ⟨row, found, rfl⟩

end Runs

/-! ## A late outcome -/

section LateOutcome

def sampleRow : JsString := js "n"

def sampleIntent : NotificationIntent where
  notificationId := sampleRow
  fingerprint := js "f"
  checkId := js "C1"
  entityId := js "e"
  firstSeenAt := 0
  lastSeenAt := 0
  kind := .new
  occurrenceCount := 1
  severity := .p1
  message := js "m"
  durationMs := none
  createdAt := 0

def sampleDeps : DeliveryDeps := ⟨js "console", defaultDeliveryConfig, 50⟩

abbrev DeliveryConfiguration (boundary : NotificationOutboxStore) : Type :=
  Config (DeliveryWorld boundary) DeliveryOp DeliveryOp.Answer (Option DeliverySummary)

def sampleDelivery : Delivery (Option DeliverySummary) :=
  deliverRows sampleDeps [sampleRow] >>= fun summary => .ret (some summary)

/-- Three `deliverRows` runs of the one row, and a tick of the monitor as actor 1. -/
def sampleStart {boundary : NotificationOutboxStore} (outbox : boundary.Store) :
    DeliveryConfiguration boundary :=
  ((((Config.initial (.initial outbox)).withRun 0 (some (Run.fresh sampleDelivery))).withRun 1
    (some (Run.fresh (monitorTick sampleDeps)))).withRun 2 (some (Run.fresh sampleDelivery))).withRun 3
      (some (Run.fresh sampleDelivery))

theorem sampleStart_reached {boundary : NotificationOutboxStore}
    {machine : Machine (DeliveryWorld boundary) DeliveryOp DeliveryOp.Answer (Option DeliverySummary)}
    (starts : machine.starts = (deliveryMachine boundary).starts) (outbox : boundary.Store) :
    Steps machine (Config.initial (.initial outbox)) (sampleStart outbox) := by
  have delivery : ∀ actor world, machine.starts actor world sampleDelivery := by
    rw [starts]
    exact fun _ _ => Or.inr ⟨sampleDeps, [sampleRow], rfl⟩
  have tick : ∀ actor world, machine.starts actor world (monitorTick sampleDeps) := by
    rw [starts]
    exact fun _ _ => Or.inl ⟨sampleDeps, rfl⟩
  have first : Step machine (Config.initial (.initial outbox))
      ((Config.initial (.initial outbox)).withRun 0 (some (Run.fresh sampleDelivery))) :=
    .start rfl (delivery 0 _)
  exact (((Relation.ReflTransGen.single first).tail (.start rfl (tick 1 _))).tail
    (.start rfl (delivery 2 _))).tail (.start rfl (delivery 3 _))

/-- Steps of one actor at one time, whose notification ends this way. -/
def sampleSteps (boundary : NotificationOutboxStore) (count actor : Nat) (clock : Int)
    (attempt : DeliveryAttemptResult) :
    List (Nat × ((op : DeliveryOp) → DeliveryWorld boundary → op.Answer × DeliveryWorld boundary)) :=
  List.replicate count (actor, performWith clock attempt actor)

theorem sampleSteps_perform {boundary : NotificationOutboxStore} {count actor : Nat} {clock : Int}
    {attempt : DeliveryAttemptResult}
    {entry : Nat × ((op : DeliveryOp) → DeliveryWorld boundary → op.Answer × DeliveryWorld boundary)}
    (member : entry ∈ sampleSteps boundary count actor clock attempt) (op : DeliveryOp)
    (world : DeliveryWorld boundary) :
    perform boundary entry.1 op world (entry.2 op world).1 (entry.2 op world).2 := by
  rw [List.eq_of_mem_replicate member]
  exact performWith_performs clock attempt actor op world

/-- Actor 0 is slow to notify, the tick recovers the row meanwhile, and actor 2 delivers it. -/
def sampleDelivered {boundary : NotificationOutboxStore} (outbox : boundary.Store) :
    DeliveryConfiguration boundary :=
  (sampleStart outbox).script (sampleSteps boundary 3 0 0 .ok ++ sampleSteps boundary 4 1 200000 .ok ++
    sampleSteps boundary 5 2 200000 .ok)

/-- Actor 0's notification fails at last, and actor 3 takes the row up again. -/
def sampleReopened {boundary : NotificationOutboxStore} (outbox : boundary.Store) :
    DeliveryConfiguration boundary :=
  (sampleDelivered outbox).script
    (sampleSteps boundary 2 0 200000 (.failed false (js "TimeoutError")) ++
      sampleSteps boundary 3 3 400000 .ok)

def statusOf {boundary : NotificationOutboxStore} (config : DeliveryConfiguration boundary) :
    Option OutboxStatus :=
  (config.world.row sampleRow).map (·.status)

/-- A delivered row changes its status in some run, and is notified again. -/
def Reopens (boundary : NotificationOutboxStore) (outbox : boundary.Store) : Prop :=
  ∃ config later : DeliveryConfiguration boundary,
    Steps (deliveryMachine boundary) (Config.initial (.initial outbox)) config ∧
      Steps (deliveryMachine boundary) config later ∧ statusOf config = some .delivered ∧
      statusOf later = some .sending ∧
      config.world.notified.count sampleRow < later.world.notified.count sampleRow

theorem sample_reopens {boundary : NotificationOutboxStore} {outbox : boundary.Store}
    (delivered : statusOf (sampleDelivered outbox) = some .delivered)
    (reopened : statusOf (sampleReopened outbox) = some .sending)
    (notified : (sampleDelivered outbox).world.notified.count sampleRow <
      (sampleReopened outbox).world.notified.count sampleRow) : Reopens boundary outbox := by
  refine ⟨sampleDelivered outbox, sampleReopened outbox, (sampleStart_reached rfl outbox).trans ?_, ?_,
    delivered, reopened, notified⟩
  · refine Steps.script (fun entry member => ?_) _
    rcases List.mem_append.mp member with earlier | third
    · rcases List.mem_append.mp earlier with first | second
      · exact sampleSteps_perform first
      · exact sampleSteps_perform second
    · exact sampleSteps_perform third
  · refine Steps.script (fun entry member => ?_) _
    rcases List.mem_append.mp member with first | second
    · exact sampleSteps_perform first
    · exact sampleSteps_perform second

def sampleInMemory : InMemoryNotificationOutboxStore :=
  InMemoryNotificationOutboxStore.empty.enqueue [sampleIntent]

def samplePostgres : PgNotificationOutboxStore :=
  { PgNotificationOutboxStore.empty with notificationOutbox := OutboxRows.empty.put sampleIntent.row }

/-- In both stores an outcome written late takes a delivered row back. -/
theorem late_outcome_reopens_row :
    Reopens inMemory sampleInMemory ∧ Reopens postgres samplePostgres :=
  ⟨sample_reopens (by decide +kernel) (by decide +kernel) (by decide +kernel),
    sample_reopens (by decide +kernel) (by decide +kernel) (by decide +kernel)⟩

/-- `performWith` with a listing of stale rows that always throws. -/
def performUnlisted {boundary : NotificationOutboxStore} (clock : Int) (actor : Nat) :
    (op : DeliveryOp) → DeliveryWorld boundary → op.Answer × DeliveryWorld boundary
  | .listStaleSending _ _, world => (none, world)
  | op, world => performWith clock .ok actor op world

theorem performUnlisted_guarded {boundary : NotificationOutboxStore} (clock : Int) (actor : Nat)
    (op : DeliveryOp) (world : DeliveryWorld boundary) :
    (guardedMachine boundary).exec actor op world (performUnlisted clock actor op world).1
      (performUnlisted clock actor op world).2 := by
  cases op with
  | listStaleSending now staleSendingMs => exact ⟨⟨Or.inl rfl, rfl⟩, fun _ impossible => by cases impossible⟩
  | acquireLock => exact ⟨performWith_performs clock .ok actor .acquireLock world, trivial⟩
  | releaseLock => exact ⟨rfl, trivial⟩
  | now => exact ⟨rfl, trivial⟩
  | listDue now limit => exact ⟨performWith_performs clock .ok actor (.listDue now limit) world, trivial⟩
  | markSending id now => exact ⟨performWith_performs clock .ok actor (.markSending id now) world, trivial⟩
  | startNotify payload => exact ⟨rfl, trivial⟩
  | awaitNotify => exact ⟨rfl, trivial⟩
  | applyOutcome row eventOutcome errorClass attemptNumber now transport =>
      exact ⟨performWith_performs clock .ok actor
        (.applyOutcome row eventOutcome errorClass attemptNumber now transport) world, trivial⟩

/-- The row is delivered by actor 0 before anyone else moves. -/
def sampleSettled : DeliveryConfiguration inMemory :=
  Config.script (List.replicate 5 (0, performUnlisted 0 0)) (sampleStart sampleInMemory)

/-- Actor 2 then finds nothing to claim. -/
def sampleIgnored : DeliveryConfiguration inMemory :=
  Config.script (List.replicate 3 (2, performUnlisted 200000 2)) sampleSettled

theorem sample_delivered_stays :
    (∃ row, sampleIgnored.world.row sampleRow = some row ∧ row.status = .delivered) ∧
      sampleIgnored.world.notified.count sampleRow = 1 := by
  have handled : ∀ {count actor clock}, ∀ entry ∈ List.replicate count (actor, performUnlisted clock actor),
      ∀ op world, (guardedMachine inMemory).exec entry.1 op world (entry.2 op world).1 (entry.2 op world).2 := by
    intro count actor clock entry member op world
    rw [List.eq_of_mem_replicate member]
    exact performUnlisted_guarded clock actor op world
  have started : Steps (guardedMachine inMemory) (Config.initial (.initial sampleInMemory))
      (sampleStart sampleInMemory) := @sampleStart_reached inMemory (guardedMachine inMemory) rfl sampleInMemory
  have reached : Steps (guardedMachine inMemory) (Config.initial (.initial sampleInMemory)) sampleSettled :=
    started.trans (Steps.script handled _)
  have delivered : statusOf sampleSettled = some .delivered := by decide +kernel
  have once : sampleSettled.world.notified.count sampleRow = 1 := by decide +kernel
  obtain ⟨row, found, status⟩ := Option.map_eq_some_iff.mp delivered
  obtain ⟨⟨row', found', same⟩, count⟩ :=
    terminal_rows_final reached (Steps.script handled _) found (Or.inl status)
  exact ⟨⟨row', found', same.trans status⟩, count.trans once⟩

end LateOutcome

end KernelJson.Alerting.TerminalRows
