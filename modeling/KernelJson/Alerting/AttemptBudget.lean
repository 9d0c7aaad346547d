import KernelJson.Alerting.TerminalRows

/-!
# The budget of delivery attempts

A claim counts an attempt, and a failed attempt that used up the budget poisons
its row.  Recovery does not look at the count: a last attempt that is abandoned
goes back to the queue.  As long as that does not happen, no row is notified
more often than the budget allows, and one that used it up is poisoned unless
its last notification went through.
-/

namespace KernelJson.Alerting.AttemptBudget

open Alerting.DeliveryWorker
open Alerting.Outbox
open Alerting.OutboxStores
open Alerting.TerminalRows
open Foundation
open Foundation.DurablePrograms
open Foundation.JsText

/-! ## Stores that keep the count -/

/-- A store whose outcomes keep the count of attempts that they are given. -/
structure CountingStore extends NotificationOutboxStore where
  applyOutcome_count : ∀ {outcome eventOutcome errorClass attemptNumber now transport store after},
    applyOutcome outcome eventOutcome errorClass attemptNumber now transport store = some after →
      ∀ old, row store outcome.notificationId = some old →
        ∃ new, row after outcome.notificationId = some new ∧ new.status = outcome.status ∧
          new.attemptCount = outcome.attemptCount

def countingInMemory : CountingStore where
  toNotificationOutboxStore := inMemory
  applyOutcome_count := by
    intro outcome eventOutcome errorClass attemptNumber now transport store after done old _
    cases done
    exact ⟨outcome, (OutboxRows.get?_put _ _ _).trans (if_pos rfl), rfl, rfl⟩

def countingPostgres : CountingStore where
  toNotificationOutboxStore := postgres
  applyOutcome_count := by
    intro outcome eventOutcome errorClass attemptNumber now transport store after done found here
    obtain ⟨old, stands, rfl⟩ := Option.map_eq_some_iff.mp done
    have named : old.notificationId = outcome.notificationId := OutboxRows.get?_id stands
    exact ⟨PgNotificationOutboxStore.updateColumns old outcome,
      (OutboxRows.get?_put _ _ _).trans (if_pos named), rfl, rfl⟩

/-! ## The machine under one configuration -/

/-- The delivery machine whose paths all have one configuration. -/
def machineUnder (boundary : NotificationOutboxStore) (config : DeliveryConfig) :
    Machine (DeliveryWorld boundary) DeliveryOp DeliveryOp.Answer (Option DeliverySummary) :=
  { deliveryMachine boundary with
    starts := fun _ _ program => (∃ deps, deps.config = config ∧ program = monitorTick deps) ∨
      ∃ deps ids, deps.config = config ∧ program = deliverRows deps ids >>= fun summary => .ret (some summary) }

/-- An attempt that used up the budget is under way as long as its row is sending. -/
def LastAttended {boundary : NotificationOutboxStore} (config : DeliveryConfig) (world : DeliveryWorld boundary) :
    Prop :=
  ∀ id row, world.row id = some row → row.status = .sending → config.maxAttempts ≤ row.attemptCount →
    InFlight world id

/-- The machine while recovery takes up abandoned attempts only, and no last attempt is abandoned. -/
def attendedMachine (boundary : NotificationOutboxStore) (config : DeliveryConfig) :
    Machine (DeliveryWorld boundary) DeliveryOp DeliveryOp.Answer (Option DeliverySummary) :=
  { machineUnder boundary config with
    exec := fun actor op before answer after =>
      (guardedMachine boundary).exec actor op before answer after ∧ LastAttended config after
    halts := fun actor before after =>
      (deliveryMachine boundary).halts actor before after ∧ LastAttended config after }

/-- No row is notified more often than the budget allows, and one that used it up is settled. -/
structure WithinBudget {boundary : NotificationOutboxStore} (config : DeliveryConfig) (world : DeliveryWorld boundary) :
    Prop where
  bounded : ∀ id, world.notified.count id ≤ config.maxAttempts
  spent : ∀ id row, world.row id = some row → world.notified.count id = config.maxAttempts → ¬ InFlight world id →
    row.status = .delivered ∨ row.status = .poison

/-! ## The invariant -/

section Budget

variable {boundary : CountingStore} {config : DeliveryConfig}

/-- No row was notified more often than its attempts were counted, and only attempts in flight and settled rows have
used up the budget. -/
structure Counted (config : DeliveryConfig) (world : DeliveryWorld boundary.toNotificationOutboxStore) : Prop where
  absent : ∀ id, world.row id = none → world.notified.count id = 0
  counted : ∀ id row, world.row id = some row → world.notified.count id ≤ row.attemptCount
  within : ∀ id row, world.row id = some row → row.attemptCount ≤ config.maxAttempts
  pending : ∀ id row, world.row id = some row → row.status = .pending → row.attemptCount < config.maxAttempts
  attended : LastAttended config world

/-- What an actor's own attempt, and a row that it recovers, may rely on. -/
structure Unspent (actor : Nat) (before after : DeliveryWorld boundary.toNotificationOutboxStore) : Prop
    extends Undisturbed actor before after where
  own : ∀ id, before.attempts actor = some id →
    after.row id = before.row id ∧ after.notified.count id = before.notified.count id
  orphanRow : before.lock = some actor → ∀ id, Orphaned before id → after.row id = before.row id

theorem Unspent.trans {actor : Nat} {first second third : DeliveryWorld boundary.toNotificationOutboxStore}
    (left : Unspent actor first second) (right : Unspent actor second third) : Unspent actor first third where
  toUndisturbed := (ownership boundary.toNotificationOutboxStore).rely_trans left.toUndisturbed right.toUndisturbed
  own := by
    intro id attempt
    obtain ⟨row, count⟩ := left.own id attempt
    obtain ⟨row', count'⟩ := right.own id (left.attempt.trans attempt)
    exact ⟨row'.trans row, count'.trans count⟩
  orphanRow := fun held id orphan =>
    (right.orphanRow (left.lock held) id (left.orphans held id orphan)).trans (left.orphanRow held id orphan)

/-- The discipline of the budget: ownership, with the counts of the rows. -/
def budget (boundary : CountingStore) (config : DeliveryConfig) :
    Discipline (DeliveryWorld boundary.toNotificationOutboxStore) where
  valid := fun world => Owned world ∧ Counted config world
  grows := fun _ _ => True
  rely := Unspent
  grows_refl := fun _ => trivial
  grows_trans := fun _ _ => trivial
  rely_refl := fun actor world =>
    { (ownership boundary.toNotificationOutboxStore).rely_refl actor world with
      own := fun _ _ => ⟨rfl, rfl⟩
      orphanRow := fun _ _ _ => rfl }
  rely_trans := Unspent.trans

variable {actor : Nat} {before after : DeliveryWorld boundary.toNotificationOutboxStore}

/-- What a step owes to the budget on top of what it owes to ownership. -/
theorem budget_guarantee (owns : (ownership boundary.toNotificationOutboxStore).Guarantee false actor before after)
    (counted : Counted config after)
    (own : ∀ other, other ≠ actor → ∀ id, before.attempts other = some id →
      after.row id = before.row id ∧ after.notified.count id = before.notified.count id)
    (orphanRow : ∀ other, other ≠ actor → before.lock = some other → ∀ id, Orphaned before id →
      after.row id = before.row id) :
    (budget boundary config).Guarantee false actor before after where
  valid := ⟨owns.valid, counted⟩
  grows := trivial
  others := by
    rintro other (durable | different)
    · cases durable
    · exact { owns.others other (Or.inr different) with
        own := own other different
        orphanRow := orphanRow other different }

/-- The counts stand where rows and notifications do. -/
theorem Counted.of_rows (counted : Counted config before) (rows : ∀ id, after.row id = before.row id)
    (notified : after.notified = before.notified) (attended : LastAttended config after) : Counted config after where
  absent := fun id found => by rw [notified]; exact counted.absent id ((rows id).symm.trans found)
  counted := fun id row found => by rw [notified]; exact counted.counted id row ((rows id).symm.trans found)
  within := fun id row found => counted.within id row ((rows id).symm.trans found)
  pending := fun id row found => counted.pending id row ((rows id).symm.trans found)
  attended := attended

/-- One row changed, and the notifications did not. -/
theorem Counted.of_row {id : JsString} {new : NotificationOutboxRow} (counted : Counted config before)
    (rows : ∀ other, other ≠ id → after.row other = before.row other) (here : after.row id = some new)
    (notified : after.notified = before.notified) (count : before.notified.count id ≤ new.attemptCount)
    (within : new.attemptCount ≤ config.maxAttempts)
    (pending : new.status = .pending → new.attemptCount < config.maxAttempts)
    (attended : LastAttended config after) : Counted config after where
  absent := by
    intro other found
    by_cases same : other = id
    · rw [same, here] at found
      cases found
    · rw [notified]
      exact counted.absent other ((rows other same).symm.trans found)
  counted := by
    intro other row found
    rw [notified]
    by_cases same : other = id
    · rw [same, here] at found
      cases found
      exact same ▸ count
    · exact counted.counted other row ((rows other same).symm.trans found)
  within := by
    intro other row found
    by_cases same : other = id
    · rw [same, here] at found
      cases found
      exact within
    · exact counted.within other row ((rows other same).symm.trans found)
  pending := by
    intro other row found
    by_cases same : other = id
    · rw [same, here] at found
      cases found
      exact pending
    · exact counted.pending other row ((rows other same).symm.trans found)
  attended := attended

/-! ## Single effects -/

/-- An effect that leaves rows and notifications alone. -/
theorem still_budget (owns : (ownership boundary.toNotificationOutboxStore).Guarantee false actor before after)
    (counted : Counted config before) (rows : ∀ id, after.row id = before.row id)
    (notified : after.notified = before.notified) (attended : LastAttended config after) :
    (budget boundary config).Guarantee false actor before after :=
  budget_guarantee owns (counted.of_rows rows notified attended)
    (fun _ _ id _ => ⟨rows id, by rw [notified]⟩) fun _ _ _ id _ => rows id

/-- An effect on one row that nobody else attempts and no other lock holder recovers. -/
theorem row_budget {id : JsString} {new : NotificationOutboxRow}
    (owns : (ownership boundary.toNotificationOutboxStore).Guarantee false actor before after)
    (counted : Counted config before) (rows : ∀ other, other ≠ id → after.row other = before.row other)
    (here : after.row id = some new) (notified : after.notified = before.notified)
    (alone : ∀ other, other ≠ actor → before.attempts other ≠ some id)
    (exclusive : ∀ other, other ≠ actor → before.lock = some other → ¬ Orphaned before id)
    (count : before.notified.count id ≤ new.attemptCount) (within : new.attemptCount ≤ config.maxAttempts)
    (pending : new.status = .pending → new.attemptCount < config.maxAttempts)
    (attended : LastAttended config after) : (budget boundary config).Guarantee false actor before after := by
  refine budget_guarantee owns (counted.of_row rows here notified count within pending attended)
    (fun other different attempted attempt => ?_) fun other different held orphan there => ?_
  · have apart : attempted ≠ id := fun same => alone other different (same ▸ attempt)
    exact ⟨rows attempted apart, by rw [notified]⟩
  · exact rows orphan fun same => exclusive other different held (same ▸ there)

/-- The obligation of an actor inside the attended machine. -/
abbrev Budgeted {β : Type} (boundary : CountingStore) (config : DeliveryConfig) (actor : Nat) (program : Delivery β)
    (post : β → DeliveryWorld boundary.toNotificationOutboxStore → Prop)
    (world : DeliveryWorld boundary.toNotificationOutboxStore) : Prop :=
  wp (attendedMachine boundary.toNotificationOutboxStore config).exec false (budget boundary config) actor program post
    world

/-- The count of a decision is that of the row it is about, and a decision to try again leaves attempts over. -/
theorem decideNextOutboxState_count (row : NotificationOutboxRow) (attempt : DeliveryAttemptResult) (now : Int)
    (config : DeliveryConfig) :
    (decideNextOutboxState row attempt now config).row.attemptCount = row.attemptCount ∧
      ((decideNextOutboxState row attempt now config).row.status = .pending →
        row.attemptCount < config.maxAttempts) := by
  cases attempt with
  | ok => exact ⟨rfl, fun pending => by cases pending⟩
  | failed permanent errorClass =>
      cases permanent with
      | true => exact ⟨rfl, fun pending => by cases pending⟩
      | false =>
          simp only [decideNextOutboxState]
          split
          · exact ⟨rfl, fun pending => by cases pending⟩
          · next left => exact ⟨rfl, fun _ => Nat.not_le.mp left⟩

theorem recoverIfStaleSending_count {row : NotificationOutboxRow} {now : Int} {config : DeliveryConfig}
    {decision : DeliveryDecision} (recovered : recoverIfStaleSending row now config = some decision) :
    decision.row.attemptCount = row.attemptCount := by
  unfold recoverIfStaleSending at recovered
  split at recovered
  · split at recovered
    · cases recovered
    · cases recovered
      rfl
  · cases recovered

/-- An outcome of a row that the actor alone may write. -/
theorem outcome_budget {outcome : NotificationOutboxRow} {eventOutcome : DeliveryOutcome} {errorClass : Option JsString}
    {attemptNumber : Nat} {now : Int} {transport : JsString} {answer : Option Unit} {old : NotificationOutboxRow}
    (owned : Owned before) (counted : Counted config before)
    (effect : perform boundary.toNotificationOutboxStore actor
      (.applyOutcome outcome eventOutcome errorClass attemptNumber now transport) before answer after)
    (attended : LastAttended config after) (found : before.row outcome.notificationId = some old)
    (sending : old.status = .sending)
    (alone : ∀ other, other ≠ actor → before.attempts other ≠ some outcome.notificationId)
    (exclusive : ∀ other, other ≠ actor → before.lock = some other → ¬ Orphaned before outcome.notificationId)
    (count : outcome.attemptCount = old.attemptCount)
    (pending : outcome.status = .pending → old.attemptCount < config.maxAttempts) :
    (budget boundary config).Guarantee false actor before after := by
  have written := perform_applyOutcome effect
  have owns := outcome_guarantee owned ⟨old, found, sending⟩ alone exclusive written.rows written.notified written.lock
    written.attempts written.own
  rcases effect with ⟨outbox, applied, rfl⟩ | ⟨-, rfl⟩
  · obtain ⟨new, here, status, kept⟩ := boundary.applyOutcome_count applied old found
    have same : new.attemptCount = old.attemptCount := kept.trans count
    refine row_budget owns counted written.rows here written.notified alone exclusive ?_ ?_ (fun again => ?_) attended
    · rw [same]
      exact counted.counted _ old found
    · rw [same]
      exact counted.within _ old found
    · rw [same]
      exact pending (status.symm.trans again)
  · exact still_budget owns counted (fun _ => rfl) rfl attended

/-- A claim counts its attempt. -/
theorem claim_budget {id : JsString} {now : Int} {answer : Option (Option NotificationOutboxRow)}
    (owned : Owned before) (counted : Counted config before)
    (effect : perform boundary.toNotificationOutboxStore actor (.markSending id now) before answer after)
    (attended : LastAttended config after) :
    (budget boundary config).Guarantee false actor before after ∧
      ∀ claimed, answer = some (some claimed) → after.attempts actor = some claimed.notificationId ∧
        after.row claimed.notificationId = some claimed ∧ claimed.status = .sending ∧
        after.notified.count claimed.notificationId < claimed.attemptCount := by
  obtain ⟨owns, attempted⟩ := perform_markSending owned effect
  rcases boundary.markSending_row id now before.outbox with ⟨none, rows⟩ | ⟨old, found, claimable, some, rows⟩
  · rcases effect with ⟨rfl, rfl⟩ | ⟨rfl, rfl | rfl⟩
    · refine ⟨still_budget owns counted rows rfl attended, fun claimed same => ?_⟩
      rw [none] at same
      cases same
    · exact ⟨still_budget owns counted (fun _ => rfl) rfl attended, fun _ impossible => by cases impossible⟩
    · exact ⟨still_budget owns counted rows rfl attended, fun _ impossible => by cases impossible⟩
  · have named : old.notificationId = id := boundary.row_id found
    have left := counted.pending id old found claimable.1
    have count := counted.counted id old found
    have free : ∀ owner, before.attempts owner ≠ .some id := by
      intro owner attempt
      obtain ⟨row, here, sending⟩ := owned.sending attempt
      cases here.symm.trans found
      rw [claimable.1] at sending
      cases sending
    have settled : ¬ Orphaned before id := by
      rintro ⟨⟨row, here, sending⟩, -⟩
      cases here.symm.trans found
      rw [claimable.1] at sending
      cases sending
    have wrote : ∀ {world : DeliveryWorld boundary.toNotificationOutboxStore},
        (∀ other, world.row other = if other = id then .some (sendingRow old now) else before.row other) →
        world.notified = before.notified → LastAttended config world →
        (ownership boundary.toNotificationOutboxStore).Guarantee false actor before world →
        (budget boundary config).Guarantee false actor before world := by
      intro world written notified stays held
      refine row_budget held counted (fun other different => (written other).trans (if_neg different))
        ((written id).trans (if_pos rfl)) notified (fun other _ => free other) (fun _ _ _ => settled) ?_ ?_
        (fun pending => nomatch pending) stays
      · show before.notified.count id ≤ old.attemptCount + 1
        omega
      · show old.attemptCount + 1 ≤ config.maxAttempts
        omega
    rcases effect with ⟨rfl, rfl⟩ | ⟨rfl, rfl | rfl⟩
    · refine ⟨wrote rows rfl attended owns, fun claimed same => ?_⟩
      have own := attempted claimed same
      rw [some] at same
      cases same
      refine ⟨own, ?_, rfl, ?_⟩
      · exact (rows _).trans (if_pos named)
      · show before.notified.count old.notificationId < old.attemptCount + 1
        rw [named]
        omega
    · exact ⟨still_budget owns counted (fun _ => rfl) rfl attended, fun _ impossible => by cases impossible⟩
    · exact ⟨wrote rows rfl attended owns, fun _ impossible => by cases impossible⟩

/-- A notification for a row whose attempt is counted. -/
theorem notify_budget {world : DeliveryWorld boundary.toNotificationOutboxStore} {id : JsString}
    {claimed : NotificationOutboxRow} (owned : Owned world) (counted : Counted config world)
    (attempt : world.attempts actor = some id) (found : world.row id = some claimed)
    (left : world.notified.count id < claimed.attemptCount) :
    (budget boundary config).Guarantee false actor world { world with notified := world.notified ++ [id] } := by
  have counts : ∀ other, (world.notified ++ [id]).count other =
      world.notified.count other + if other = id then 1 else 0 := by
    intro other
    rw [List.count_append, List.count_singleton]
    by_cases same : other = id
    · simp [same]
    · simp [same, Ne.symm same]
  refine budget_guarantee (notify_guarantee owned attempt)
    ⟨fun other absent => ?_, fun other row here => ?_, counted.within, counted.pending, counted.attended⟩
    (fun other different attempted there => ⟨rfl, ?_⟩) fun _ _ _ _ _ => rfl
  · have apart : other ≠ id := by
      rintro rfl
      exact nomatch absent.symm.trans found
    show (world.notified ++ [id]).count other = 0
    rw [counts, if_neg apart]
    exact counted.absent other absent
  · show (world.notified ++ [id]).count other ≤ row.attemptCount
    rw [counts]
    by_cases same : other = id
    · subst same
      cases here.symm.trans found
      rw [if_pos rfl]
      exact left
    · rw [if_neg same]
      exact counted.counted other row here
  · have apart : attempted ≠ id := by
      rintro rfl
      exact different (owned.unique attempt there)
    show (world.notified ++ [id]).count attempted = _
    rw [counts, if_neg apart, Nat.add_zero]

/-! ## The paths -/

variable {deps : DeliveryDeps} {nowIso : Int}

theorem recordAttempt_budgeted {claimed : NotificationOutboxRow} {attempt : DeliveryAttemptResult}
    {tally : DeliveryTally} {world : DeliveryWorld boundary.toNotificationOutboxStore} (same : deps.config = config)
    (attempted : world.attempts actor = some claimed.notificationId)
    (found : world.row claimed.notificationId = some claimed) (sending : claimed.status = .sending) :
    Budgeted boundary config actor (recordAttempt deps claimed attempt nowIso tally) (fun _ _ => True) world := by
  rintro before relied valid answer after ⟨⟨effect, _⟩, attended⟩
  have own : before.attempts actor = some claimed.notificationId := relied.attempt.trans attempted
  have here := (relied.own _ attempted).1.trans found
  have named := decideNextOutboxState_id claimed attempt nowIso deps.config
  have count := decideNextOutboxState_count claimed attempt nowIso deps.config
  refine ⟨outcome_budget valid.1 valid.2 effect attended (named.symm ▸ here) sending (fun other different there => ?_)
    (fun other _ _ orphan => ?_) count.1 (fun again => same ▸ count.2 again), ?_⟩
  · exact different (valid.1.unique own (named ▸ there))
  · exact orphan.2 ⟨actor, named.symm ▸ own⟩
  · cases answer with
    | none => exact fun _ _ _ => trivial
    | some _ => exact fun _ _ _ => trivial

theorem deliverRow_budgeted (same : deps.config = config) (id : JsString) (tally : DeliveryTally)
    (world : DeliveryWorld boundary.toNotificationOutboxStore) :
    Budgeted boundary config actor (deliverRow deps id nowIso tally) (fun _ _ => True) world := by
  rintro before relied valid answer after ⟨⟨effect, _⟩, attended⟩
  obtain ⟨guarantee, attempted⟩ := claim_budget valid.1 valid.2 effect attended
  refine ⟨guarantee, ?_⟩
  rcases answer with - | - | claimed
  · exact fun _ _ _ => trivial
  · exact fun _ _ _ => trivial
  · obtain ⟨own, found, sending, left⟩ := attempted claimed rfl
    rintro notifying relied' valid' - started ⟨⟨rfl, -⟩, -⟩
    have kept : notifying.attempts actor = some claimed.notificationId := relied'.attempt.trans own
    obtain ⟨row, count⟩ := relied'.own _ own
    refine ⟨?_, ?_⟩
    · rw [rowToPayload_id]
      exact notify_budget valid'.1 valid'.2 kept (row.trans found) (count.symm ▸ left)
    · rintro waiting relied'' valid'' attempt ended ⟨⟨rfl, -⟩, -⟩
      refine ⟨.refl valid'', recordAttempt_budgeted same (relied''.attempt.trans kept) ?_ sending⟩
      exact (relied''.own _ kept).1.trans (row.trans found)

theorem deliverEach_budgeted (same : deps.config = config) (ids : List JsString) (tally : DeliveryTally)
    (world : DeliveryWorld boundary.toNotificationOutboxStore) :
    Budgeted boundary config actor (deliverEach deps nowIso ids tally) (fun _ _ => True) world := by
  induction ids generalizing tally world with
  | nil => exact fun _ _ _ => trivial
  | cons id rest ih =>
      refine wp_bind (wp_mono (fun progress current _ _ => ?_) (deliverRow_budgeted same id tally world))
      obtain ⟨tally, result⟩ := progress
      cases result with
      | ok => exact ih tally current
      | outboxFailed => exact fun _ _ _ => trivial

theorem drainDue_budgeted (same : deps.config = config) (tally : DeliveryTally)
    (world : DeliveryWorld boundary.toNotificationOutboxStore) :
    Budgeted boundary config actor (drainDue deps nowIso tally) (fun _ _ => True) world := by
  rintro before relied valid answer after ⟨⟨effect, _⟩, _⟩
  obtain ⟨-, rfl⟩ := effect
  refine ⟨.refl valid, ?_⟩
  cases answer with
  | none => exact fun _ _ _ => trivial
  | some due => exact deliverEach_budgeted same _ _ _

/-- Recovery by the holder of the lock, of rows that stand as they were listed. -/
theorem recoverEach_budgeted {stale : List NotificationOutboxRow} {tally : DeliveryTally}
    {world : DeliveryWorld boundary.toNotificationOutboxStore}
    (held : world.lock = some actor) (distinct : (stale.map (·.notificationId)).Nodup)
    (orphaned : ∀ row ∈ stale, Orphaned world row.notificationId ∧ world.row row.notificationId = some row) :
    Budgeted boundary config actor (recoverEach deps nowIso stale tally) (fun _ _ => True) world := by
  induction stale generalizing tally world with
  | nil => exact fun _ _ _ => trivial
  | cons row rest ih =>
      obtain ⟨fresh, distinct'⟩ := List.nodup_cons.mp distinct
      unfold recoverEach
      cases recovered : recoverIfStaleSending row nowIso deps.config with
      | none => exact ih held distinct' fun other member => orphaned other (List.mem_cons_of_mem _ member)
      | some decision =>
          rintro before relied valid answer after ⟨⟨effect, _⟩, attended⟩
          have here := relied.lock held
          have apart : ∀ other ∈ rest, other.notificationId ≠ row.notificationId := fun other member again =>
            fresh (List.mem_map.mpr ⟨other, member, again⟩)
          have standing : ∀ other ∈ row :: rest, Orphaned before other.notificationId ∧
              before.row other.notificationId = some other := by
            intro other member
            obtain ⟨orphan, found⟩ := orphaned other member
            exact ⟨relied.orphans held _ orphan, (relied.orphanRow held _ orphan).trans found⟩
          obtain ⟨orphan, found⟩ := standing row List.mem_cons_self
          obtain ⟨sending, named, -⟩ := recoverIfStaleSending_spec recovered
          have written := perform_applyOutcome effect
          rw [named] at written
          refine ⟨outcome_budget valid.1 valid.2 effect attended (named.symm ▸ found) sending
            (fun other _ attempt => orphan.2 ⟨other, named ▸ attempt⟩) (fun other different lock => ?_)
            (recoverIfStaleSending_count recovered) (fun _ => ?_), ?_⟩
          · rw [here] at lock
            exact absurd (Option.some.inj lock).symm different
          · by_contra full
            exact orphan.2 (valid.2.attended _ row found sending (Nat.not_lt.mp full))
          · cases answer with
            | none => exact fun _ _ _ => trivial
            | some _ =>
                refine ih (written.lock.trans here) distinct' fun other member => ?_
                obtain ⟨still, stands⟩ := standing other (List.mem_cons_of_mem _ member)
                exact ⟨written.orphaned (apart other member) still,
                  (written.rows _ (apart other member)).trans stands⟩

theorem workOutbox_budgeted {world : DeliveryWorld boundary.toNotificationOutboxStore} (same : deps.config = config)
    (held : world.lock = some actor) :
    Budgeted boundary config actor (workOutbox deps nowIso) (fun _ _ => True) world := by
  rintro before relied valid answer after ⟨⟨effect, abandoned⟩, _⟩
  obtain ⟨listed, rfl⟩ := effect
  refine ⟨.refl valid, ?_⟩
  cases answer with
  | none => exact fun _ _ _ => trivial
  | some stale =>
      have list := Option.some.inj (listed.resolve_left nofun)
      refine wp_bind (wp_mono (fun progress current _ _ => ?_) (recoverEach_budgeted (relied.lock held)
        (list ▸ boundary.listStaleSending_nodup _ _ _) fun row member => ?_))
      · obtain ⟨tally, result⟩ := progress
        cases result with
        | ok => exact drainDue_budgeted same tally current
        | outboxFailed => exact fun _ _ _ => trivial
      · obtain ⟨found, sending, -⟩ := boundary.listStaleSending_row (list ▸ member)
        exact ⟨⟨⟨row, found, sending⟩, abandoned stale rfl row member⟩, found⟩

theorem runDeliveryWorker_budgeted {world : DeliveryWorld boundary.toNotificationOutboxStore}
    (same : deps.config = config) (held : world.lock = some actor) :
    Budgeted boundary config actor (runDeliveryWorker deps) (fun _ _ => True) world := by
  rintro before relied valid start after ⟨⟨rfl, -⟩, -⟩
  refine ⟨.refl valid, wp_bind (wp_mono (fun progress current _ _ => ?_)
    (workOutbox_budgeted same (relied.lock held)))⟩
  rintro waiting - valid' finish ended ⟨⟨rfl, -⟩, -⟩
  exact ⟨.refl valid', fun _ _ _ => trivial⟩

theorem deliverRows_budgeted (same : deps.config = config) (ids : List JsString)
    (world : DeliveryWorld boundary.toNotificationOutboxStore) :
    Budgeted boundary config actor (deliverRows deps ids) (fun _ _ => True) world := by
  rintro before - valid start after ⟨⟨rfl, -⟩, -⟩
  refine ⟨.refl valid, wp_bind (wp_mono (fun progress current _ _ => ?_) (deliverEach_budgeted same ids .zero _))⟩
  rintro waiting - valid' finish ended ⟨⟨rfl, -⟩, -⟩
  exact ⟨.refl valid', fun _ _ _ => trivial⟩

theorem monitorTick_budgeted (same : deps.config = config)
    (world : DeliveryWorld boundary.toNotificationOutboxStore) :
    Budgeted boundary config actor (monitorTick deps) (fun _ _ => True) world := by
  rintro before relied valid answer after ⟨⟨effect, _⟩, attended⟩
  rcases effect with ⟨rfl, free, rfl⟩ | ⟨rfl, -, rfl⟩
  · refine ⟨still_budget (still_guarantee valid.1 fun other _ held => ?_) valid.2 (fun _ => rfl) rfl attended,
      wp_bind (wp_mono (fun summary current _ _ => ?_) (runDeliveryWorker_budgeted same rfl))⟩
    · rw [free] at held
      cases held
    · rintro waiting _ valid' done released ⟨⟨effect', _⟩, attended'⟩
      refine ⟨?_, fun _ _ _ => trivial⟩
      change released = if waiting.lock = some actor then { waiting with lock := none } else waiting at effect'
      by_cases mine : waiting.lock = some actor
      · rw [if_pos mine] at effect'
        subst effect'
        refine still_budget (still_guarantee valid'.1 fun other different held => ?_) valid'.2 (fun _ => rfl) rfl
          attended'
        rw [mine] at held
        exact absurd (Option.some.inj held).symm different
      · rw [if_neg mine] at effect'
        subst effect'
        exact .refl valid'
  · exact ⟨.refl valid, fun _ _ _ => trivial⟩

/-! ## Runs -/

theorem queued_budget {before after : DeliveryWorld boundary.toNotificationOutboxStore} (some : 0 < config.maxAttempts)
    (queued : Queued boundary.toNotificationOutboxStore before after) (owned : Owned before)
    (counted : Counted config before) :
    Counted config after ∧ ∀ actor, Unspent actor before after := by
  obtain ⟨-, -, undisturbed⟩ := queued_keeps queued owned
  cases queued with
  | @enqueue intents outbox done =>
      have kept : ∀ {id row}, before.row id = .some row → (before.withOutbox outbox).row id = .some row := by
        intro id row found
        rcases boundary.enqueue_row done id with same | ⟨absent, -⟩
        · exact same.trans found
        · exact absurd (absent.symm.trans found) nofun
      have origin : ∀ {id row}, (before.withOutbox outbox).row id = .some row → before.row id = .some row ∨
          before.row id = none ∧ row.attemptCount = 0 ∧ row.status = .pending := by
        intro id row found
        rcases boundary.enqueue_row done id with same | ⟨absent, intent, -, inserted⟩
        · exact .inl (same.symm.trans found)
        · cases found.symm.trans inserted
          exact .inr ⟨absent, rfl, rfl⟩
      refine ⟨⟨fun id absent => ?_, fun id row found => ?_, fun id row found => ?_, fun id row found pending => ?_,
        fun id row found sending full => ?_⟩, fun actor => ?_⟩
      · refine counted.absent id ?_
        cases found : before.row id with
        | none => rfl
        | some row => exact nomatch absent.symm.trans (kept found)
      · rcases origin found with old | ⟨absent, -, -⟩
        · exact counted.counted id row old
        · exact (counted.absent id absent).le.trans (Nat.zero_le _)
      · rcases origin found with old | ⟨-, zero, -⟩
        · exact counted.within id row old
        · rw [zero]
          exact Nat.zero_le _
      · rcases origin found with old | ⟨-, zero, -⟩
        · exact counted.pending id row old pending
        · rw [zero]
          exact some
      · rcases origin found with old | ⟨-, -, pending⟩
        · exact counted.attended id row old sending full
        · rw [pending] at sending
          cases sending
      · refine { undisturbed actor with own := fun id attempt => ⟨?_, rfl⟩, orphanRow := fun _ id orphan => ?_ }
        · obtain ⟨row, found, -⟩ := owned.sending attempt
          exact (kept found).trans found.symm
        · obtain ⟨⟨row, found, -⟩, -⟩ := orphan
          exact (kept found).trans found.symm

theorem attendedMachine_certified (boundary : CountingStore) {config : DeliveryConfig} (some : 0 < config.maxAttempts) :
    Certified (attendedMachine boundary.toNotificationOutboxStore config) (budget boundary config) (fun _ _ => True) where
  started := by
    rintro actor world program (⟨deps, same, rfl⟩ | ⟨deps, ids, same, rfl⟩) -
    · exact monitorTick_budgeted same world
    · exact wp_bind (wp_mono (fun _ _ _ _ => fun _ _ _ => trivial) (deliverRows_budgeted same ids world))
  environment := by
    intro before after queued valid
    obtain ⟨owned, -, -⟩ := queued_keeps queued valid.1
    obtain ⟨counted, relied⟩ := queued_budget some queued valid.1 valid.2
    exact ⟨⟨owned, counted⟩, trivial, relied⟩
  halted := by
    rintro actor before after ⟨halted, attended⟩ valid
    obtain ⟨owned, settled, undisturbed⟩ :=
      (guardedMachine_certified boundary.toNotificationOutboxStore).halted halted valid.1
    cases halted
    refine ⟨⟨owned, valid.2.of_rows (fun _ => rfl) rfl attended⟩, trivial, fun other different => ?_⟩
    exact { undisturbed other different with own := fun _ _ => ⟨rfl, rfl⟩, orphanRow := fun _ _ _ => rfl }

theorem initial_counted {outbox : boundary.Store} (empty : ∀ id, boundary.row outbox id = none) :
    Counted config (DeliveryWorld.initial outbox : DeliveryWorld boundary.toNotificationOutboxStore) where
  absent := fun _ _ => rfl
  counted := fun id _ found => nomatch (empty id).symm.trans found
  within := fun id _ found => nomatch (empty id).symm.trans found
  pending := fun id _ found => nomatch (empty id).symm.trans found
  attended := fun id _ found => nomatch (empty id).symm.trans found

/-- While no last attempt is abandoned, the budget bounds the notifications of every row. -/
theorem attempts_bounded {outbox : boundary.Store} (some : 0 < config.maxAttempts)
    (empty : ∀ id, boundary.row outbox id = none)
    {reached : Config (DeliveryWorld boundary.toNotificationOutboxStore) DeliveryOp DeliveryOp.Answer
      (Option DeliverySummary)}
    (steps : Steps (attendedMachine boundary.toNotificationOutboxStore config) (Config.initial (.initial outbox))
      reached) : WithinBudget config reached.world := by
  have valid : (budget boundary config).valid (.initial outbox) := ⟨initial_owned outbox, initial_counted empty⟩
  obtain ⟨sound, -⟩ := (attendedMachine_certified boundary some).steps (Sound.initial valid) steps
  obtain ⟨-, counted⟩ := sound.valid
  refine ⟨fun id => ?_, fun id row found spent idle => ?_⟩
  · cases found : reached.world.row id with
    | none => exact (counted.absent id found).le.trans (Nat.zero_le _)
    | some row => exact (counted.counted id row found).trans (counted.within id row found)
  · have full : config.maxAttempts ≤ row.attemptCount := spent ▸ counted.counted id row found
    cases status : row.status with
    | pending => exact absurd (counted.pending id row found status) (Nat.not_lt.mpr full)
    | sending => exact absurd (counted.attended id row found status full) idle
    | delivered => exact .inl rfl
    | poison => exact .inr rfl

end Budget

/-! ## An abandoned last attempt -/

/-- One attempt a row. -/
def singleAttempt : DeliveryConfig := { defaultDeliveryConfig with maxAttempts := 1 }

def singleDeps : DeliveryDeps := ⟨js "console", singleAttempt, 50⟩

def singleDelivery : Delivery (Option DeliverySummary) :=
  deliverRows singleDeps [sampleRow] >>= fun summary => .ret (some summary)

def emptyStore : InMemoryNotificationOutboxStore := .empty

/-- The queued row, with a delivery of it by actor 0 and a tick of the monitor as actor 1. -/
def singleStart : DeliveryConfiguration inMemory :=
  (((Config.initial (.initial emptyStore)).withWorld (DeliveryWorld.initial sampleInMemory)).withRun 0
    (some (Run.fresh singleDelivery))).withRun 1 (some (Run.fresh (monitorTick singleDeps)))

theorem singleStart_reached :
    Steps (machineUnder inMemory singleAttempt) (Config.initial (.initial emptyStore)) singleStart := by
  have queued : Step (machineUnder inMemory singleAttempt) (Config.initial (.initial emptyStore))
      ((Config.initial (.initial emptyStore)).withWorld (DeliveryWorld.initial sampleInMemory)) :=
    .environment (@Queued.enqueue inMemory _ [sampleIntent] _ rfl)
  exact ((Relation.ReflTransGen.single queued).tail (.start rfl (.inr ⟨singleDeps, [sampleRow], rfl, rfl⟩))).tail
    (.start rfl (.inl ⟨singleDeps, rfl, rfl⟩))

/-- Actor 0 has started its notification, the only one that the budget allows. -/
def singleStarted : DeliveryConfiguration inMemory :=
  singleStart.script (sampleSteps inMemory 3 0 0 .ok)

/-- The process of actor 0 dies before it hears of the outcome. -/
def singleDied : DeliveryConfiguration inMemory :=
  (singleStarted.withRun 0 none).withWorld { singleStarted.world.attempting 0 none with
    lock := if singleStarted.world.lock = some 0 then none else singleStarted.world.lock }

/-- A later tick recovers the row and notifies again. -/
def singleRepeated : DeliveryConfiguration inMemory :=
  singleDied.script (sampleSteps inMemory 7 1 200000 .ok)

theorem singleRepeated_reached :
    Steps (machineUnder inMemory singleAttempt) (Config.initial (.initial emptyStore)) singleRepeated := by
  have started : Steps (machineUnder inMemory singleAttempt) singleStart singleStarted :=
    Steps.script (fun entry member => sampleSteps_perform member) _
  have died : Step (machineUnder inMemory singleAttempt) singleStarted singleDied := by
    have waiting : (singleStarted.runs 0).isSome = true := by decide +kernel
    obtain ⟨run, found⟩ := Option.isSome_iff_exists.mp waiting
    exact .kill found rfl
  have repeated : Steps (machineUnder inMemory singleAttempt) singleDied singleRepeated :=
    Steps.script (fun entry member => sampleSteps_perform member) _
  exact ((singleStart_reached.trans started).tail died).trans repeated

/-- After a crash in the last attempt the row is notified beyond its budget. -/
theorem abandoned_attempt_exceeds_budget :
    Steps (machineUnder inMemory singleAttempt) (Config.initial (.initial emptyStore)) singleRepeated ∧
      ¬ WithinBudget singleAttempt singleRepeated.world := by
  refine ⟨singleRepeated_reached, fun within => ?_⟩
  have twice : singleRepeated.world.notified.count sampleRow = 2 := by decide +kernel
  have bound := within.bounded sampleRow
  rw [twice] at bound
  exact absurd bound (by decide)

/-! ## A delivery within its budget -/

theorem lastAttended_of_few {world : DeliveryWorld inMemory} {config : DeliveryConfig}
    (few : ∀ row ∈ world.outbox.rows.all, row.attemptCount < config.maxAttempts) : LastAttended config world := by
  intro id row found _ full
  exact absurd (few row (JsMap.mem_values.mpr ⟨id, found⟩)) (Nat.not_lt.mpr full)

/-- An actor that waits for no operation stays where it is; any other goes on by one. -/
theorem advance_cases {World Op α : Type} {Ans : Op → Type} (handle : (op : Op) → World → Ans op × World) (actor : Nat)
    (config : Config World Op Ans α) : config.advance handle actor = config ∨
      ∃ (run : Run Op Ans α) (op : Op) (next : Ans op → Prog Op Ans α) (live : run.ahead = [])
        (waiting : run.resume = .call op next), config.runs actor = some run ∧ config.advance handle actor =
          (config.withRun actor (some (run.extend (handle op config.world).1 live waiting))).withWorld
            (handle op config.world).2 := by
  unfold Config.advance
  split
  · exact .inl rfl
  · next run found =>
      split
      · exact .inl rfl
      · next live =>
          split
          · exact .inl rfl
          · next op next waiting => exact .inr ⟨run, op, next, live, waiting, found, rfl⟩

/-- An operation of an actor that leaves no last attempt abandoned. -/
theorem attended_advance {config : DeliveryConfiguration inMemory} {deliveryConfig : DeliveryConfig} {actor : Nat}
    {handle : (op : DeliveryOp) → DeliveryWorld inMemory → op.Answer × DeliveryWorld inMemory}
    (guarded : ∀ op world, (guardedMachine inMemory).exec actor op world (handle op world).1 (handle op world).2)
    (few : ∀ row ∈ (config.advance handle actor).world.outbox.rows.all,
      row.attemptCount < deliveryConfig.maxAttempts) :
    Steps (attendedMachine inMemory deliveryConfig) config (config.advance handle actor) := by
  have attended := lastAttended_of_few few
  rcases advance_cases handle actor config with same | ⟨run, op, next, live, waiting, found, moved⟩
  · rw [same]
  · rw [moved] at attended ⊢
    exact .single (.commit found live waiting ⟨guarded op config.world, attended⟩)

/-- The queued row, with a delivery of it by actor 0. -/
def attendedStart : DeliveryConfiguration inMemory :=
  ((Config.initial (.initial emptyStore)).withWorld (DeliveryWorld.initial sampleInMemory)).withRun 0
    (some (Run.fresh sampleDelivery))

/-- Actor 0 after some operations. -/
def attendedAfter : Nat → DeliveryConfiguration inMemory
  | 0 => attendedStart
  | count + 1 => (attendedAfter count).advance (performUnlisted 0 0) 0

theorem attendedAfter_reached (count : Nat) (few : ∀ earlier ≤ count, ∀ row ∈ (attendedAfter earlier).world.outbox.rows.all,
    row.attemptCount < defaultDeliveryConfig.maxAttempts) :
    Steps (attendedMachine inMemory defaultDeliveryConfig) (Config.initial (.initial emptyStore))
      (attendedAfter count) := by
  induction count with
  | zero =>
      have queued : Step (attendedMachine inMemory defaultDeliveryConfig) (Config.initial (.initial emptyStore))
          ((Config.initial (.initial emptyStore)).withWorld (DeliveryWorld.initial sampleInMemory)) :=
        .environment (@Queued.enqueue inMemory _ [sampleIntent] _ rfl)
      exact (Relation.ReflTransGen.single queued).tail (.start rfl (.inr ⟨sampleDeps, [sampleRow], rfl, rfl⟩))
  | succ count ih =>
      have earlier := ih fun earlier bound => few earlier (Nat.le_succ_of_le bound)
      exact earlier.trans (attended_advance (performUnlisted_guarded 0 0) (few (count + 1) le_rfl))

/-- The row is queued, claimed, notified and delivered. -/
theorem sample_within_budget :
    Steps (attendedMachine inMemory defaultDeliveryConfig) (Config.initial (.initial emptyStore)) (attendedAfter 5) ∧
      statusOf (attendedAfter 5) = some .delivered ∧ (attendedAfter 5).world.notified.count sampleRow = 1 ∧
      WithinBudget defaultDeliveryConfig (attendedAfter 5).world := by
  have reached := attendedAfter_reached 5 (by decide +kernel)
  exact ⟨reached, by decide +kernel, by decide +kernel,
    @attempts_bounded countingInMemory defaultDeliveryConfig emptyStore (by decide) (fun _ => rfl) _ reached⟩

end KernelJson.Alerting.AttemptBudget
