import KernelJson.Alerting.Outbox
import KernelJson.Foundation.JsMap
import Mathlib.Data.List.Sort

/-!
# The notification outbox

The persistence boundary of delivery, and its two implementations.  Both claim
pending rows only, and both write an outcome over whatever the row then holds.
-/

namespace KernelJson.Alerting.OutboxStores

open Alerting.Outbox
open Foundation
open Foundation.JsText

/-! ## Rows under their identifiers -/

/-- Rows, each under its own notification identifier. -/
structure OutboxRows where
  table : JsMap JsString NotificationOutboxRow
  keyed : ∀ id row, table.get? id = some row → row.notificationId = id

namespace OutboxRows

def empty : OutboxRows :=
  ⟨.empty, fun _ _ found => by cases found⟩

def get? (rows : OutboxRows) (id : JsString) : Option NotificationOutboxRow :=
  rows.table.get? id

def put (rows : OutboxRows) (row : NotificationOutboxRow) : OutboxRows where
  table := rows.table.set row.notificationId row
  keyed := by
    intro id found here
    rw [JsMap.get?_set] at here
    split at here
    · next same =>
        cases here
        exact same
    · exact rows.keyed id found here

def all (rows : OutboxRows) : List NotificationOutboxRow :=
  rows.table.values

theorem get?_put (rows : OutboxRows) (row : NotificationOutboxRow) (id : JsString) :
    (rows.put row).get? id = if row.notificationId = id then some row else rows.get? id :=
  JsMap.get?_set _ _ _ _

theorem get?_id {rows : OutboxRows} {id : JsString} {row : NotificationOutboxRow}
    (found : rows.get? id = some row) : row.notificationId = id :=
  rows.keyed id row found

theorem mem_all {rows : OutboxRows} {row : NotificationOutboxRow} (member : row ∈ rows.all) :
    rows.get? row.notificationId = some row := by
  obtain ⟨id, found⟩ := JsMap.mem_values.mp member
  rw [rows.keyed id row found]
  exact found

theorem all_nodup (rows : OutboxRows) : (rows.all.map (·.notificationId)).Nodup := by
  have keys : rows.all.map (·.notificationId) = rows.table.entries.map Prod.fst := by
    simp only [all, JsMap.values, List.map_map]
    refine List.map_congr_left fun entry member => ?_
    exact rows.keyed entry.1 entry.2 (JsMap.get?_of_mem member)
  rw [keys]
  exact rows.table.nodup

end OutboxRows

/-- The row as a successful claim writes it. -/
def sendingRow (row : NotificationOutboxRow) (now : Int) : NotificationOutboxRow :=
  { row with status := .sending, attemptCount := row.attemptCount + 1, lastAttemptAt := some now }

/-- A row that `markSending` may claim. -/
def Claimable (row : NotificationOutboxRow) (now : Int) : Prop :=
  row.status = .pending ∧ row.nextAttemptAt ≤ now

instance (row : NotificationOutboxRow) (now : Int) : Decidable (Claimable row now) :=
  inferInstanceAs (Decidable (_ ∧ _))

/-- A row whose attempt is old enough to count as abandoned. -/
def StaleSending (row : NotificationOutboxRow) (now staleSendingMs : Int) : Prop :=
  row.status = .sending ∧ ∃ lastAttemptAt ∈ row.lastAttemptAt, staleSendingMs ≤ now - lastAttemptAt

instance (row : NotificationOutboxRow) (now staleSendingMs : Int) :
    Decidable (StaleSending row now staleSendingMs) :=
  inferInstanceAs (Decidable (_ ∧ _))

/-! ## The boundary -/

/-- A store of the outbox, with what each of its operations may do to a row.  `none` is a
rejected write, which leaves the store as it was. -/
structure NotificationOutboxStore where
  Store : Type
  row : Store → JsString → Option NotificationOutboxRow
  enqueue : List NotificationIntent → Store → Option Store
  listDue : Int → Nat → Store → List NotificationOutboxRow
  markSending : JsString → Int → Store → Option NotificationOutboxRow × Store
  applyOutcome : NotificationOutboxRow → DeliveryOutcome → Option JsString → Nat → Int → JsString →
    Store → Option Store
  listStaleSending : Int → Int → Store → List NotificationOutboxRow
  row_id : ∀ {store id found}, row store id = some found → found.notificationId = id
  enqueue_row : ∀ {intents store after}, enqueue intents store = some after → ∀ id,
    row after id = row store id ∨
      row store id = none ∧ ∃ intent ∈ intents, row after id = some intent.row
  markSending_row : ∀ id now store,
    ((markSending id now store).1 = none ∧ ∀ other, row (markSending id now store).2 other = row store other) ∨
      ∃ old, row store id = some old ∧ Claimable old now ∧
        (markSending id now store).1 = some (sendingRow old now) ∧
        ∀ other, row (markSending id now store).2 other =
          if other = id then some (sendingRow old now) else row store other
  applyOutcome_row : ∀ {outcome eventOutcome errorClass attemptNumber now transport store after},
    applyOutcome outcome eventOutcome errorClass attemptNumber now transport store = some after →
      (∀ other, other ≠ outcome.notificationId → row after other = row store other) ∧
      ∀ old, row store outcome.notificationId = some old →
        ∃ new, row after outcome.notificationId = some new ∧ new.status = outcome.status
  listStaleSending_row : ∀ {now staleSendingMs store found}, found ∈ listStaleSending now staleSendingMs store →
    row store found.notificationId = some found ∧ StaleSending found now staleSendingMs
  listStaleSending_nodup : ∀ now staleSendingMs store,
    ((listStaleSending now staleSendingMs store).map (·.notificationId)).Nodup

/-! ## Reads and writes of both implementations -/

def dueRows (rows : OutboxRows) (now : Int) (limit : Nat) : List NotificationOutboxRow :=
  ((rows.all.filter fun row => decide (Claimable row now)).insertionSort fun first second =>
    first.createdAt ≤ second.createdAt).take limit

def staleRows (rows : OutboxRows) (now staleSendingMs : Int) : List NotificationOutboxRow :=
  rows.all.filter fun row => decide (StaleSending row now staleSendingMs)

def claimRow (id : JsString) (now : Int) (rows : OutboxRows) : Option NotificationOutboxRow × OutboxRows :=
  match rows.get? id with
  | none => (none, rows)
  | some row => if Claimable row now then (some (sendingRow row now), rows.put (sendingRow row now)) else (none, rows)

theorem claimRow_spec (id : JsString) (now : Int) (rows : OutboxRows) :
    ((claimRow id now rows).1 = none ∧ ∀ other, (claimRow id now rows).2.get? other = rows.get? other) ∨
      ∃ old, rows.get? id = some old ∧ Claimable old now ∧
        (claimRow id now rows).1 = some (sendingRow old now) ∧
        ∀ other, (claimRow id now rows).2.get? other =
          if other = id then some (sendingRow old now) else rows.get? other := by
  unfold claimRow
  cases found : rows.get? id with
  | none => exact Or.inl ⟨rfl, fun _ => rfl⟩
  | some row =>
      dsimp only
      split
      · next claimable =>
          refine Or.inr ⟨row, rfl, claimable, rfl, fun other => ?_⟩
          have named : row.notificationId = id := OutboxRows.get?_id found
          rw [OutboxRows.get?_put, show (sendingRow row now).notificationId = id from named]
          simp only [eq_comm]
      · exact Or.inl ⟨rfl, fun _ => rfl⟩

theorem staleRows_spec {rows : OutboxRows} {now staleSendingMs : Int} {row : NotificationOutboxRow}
    (found : row ∈ staleRows rows now staleSendingMs) :
    rows.get? row.notificationId = some row ∧ StaleSending row now staleSendingMs := by
  obtain ⟨member, stale⟩ := List.mem_filter.mp found
  exact ⟨OutboxRows.mem_all member, of_decide_eq_true stale⟩

theorem staleRows_nodup (rows : OutboxRows) (now staleSendingMs : Int) :
    ((staleRows rows now staleSendingMs).map (·.notificationId)).Nodup :=
  rows.all_nodup.sublist (List.filter_sublist.map _)

/-! ## In memory -/

structure InMemoryNotificationOutboxStore where
  rows : OutboxRows
  events : List DeliveryEvent

namespace InMemoryNotificationOutboxStore

def empty : InMemoryNotificationOutboxStore := ⟨.empty, []⟩

def insertIntent (rows : OutboxRows) (intent : NotificationIntent) : OutboxRows :=
  if (rows.get? intent.notificationId).isSome then rows else rows.put intent.row

def enqueue (intents : List NotificationIntent) (store : InMemoryNotificationOutboxStore) :
    InMemoryNotificationOutboxStore :=
  { store with rows := intents.foldl insertIntent store.rows }

def markSending (id : JsString) (now : Int) (store : InMemoryNotificationOutboxStore) :
    Option NotificationOutboxRow × InMemoryNotificationOutboxStore :=
  ((claimRow id now store.rows).1, { store with rows := (claimRow id now store.rows).2 })

def applyOutcome (row : NotificationOutboxRow) (eventOutcome : DeliveryOutcome) (errorClass : Option JsString)
    (attemptNumber : Nat) (now : Int) (transport : JsString) (store : InMemoryNotificationOutboxStore) :
    InMemoryNotificationOutboxStore where
  rows := store.rows.put row
  events := store.events ++ [⟨row.notificationId, attemptNumber, now, eventOutcome, errorClass, transport⟩]

end InMemoryNotificationOutboxStore

/-- What one insertion may do to a row. -/
def Inserts (intents : List NotificationIntent) (before after : OutboxRows) : Prop :=
  ∀ id, after.get? id = before.get? id ∨
    before.get? id = none ∧ ∃ intent ∈ intents, after.get? id = some intent.row

theorem Inserts.put {rows : OutboxRows} {intent : NotificationIntent}
    (absent : rows.get? intent.notificationId = none) : Inserts [intent] rows (rows.put intent.row) := by
  intro id
  rw [OutboxRows.get?_put]
  by_cases same : intent.notificationId = id
  · subst same
    exact Or.inr ⟨absent, intent, List.mem_singleton_self _, if_pos rfl⟩
  · exact Or.inl (if_neg same)

theorem Inserts.cons {intent : NotificationIntent} {intents : List NotificationIntent}
    {before middle after : OutboxRows} (first : Inserts [intent] before middle)
    (rest : Inserts intents middle after) : Inserts (intent :: intents) before after := by
  intro id
  rcases rest id with kept | ⟨absent, found, member, inserted⟩
  · rcases first id with same | ⟨absent, found, member, inserted⟩
    · exact Or.inl (kept.trans same)
    · exact Or.inr ⟨absent, found, List.mem_singleton.mp member ▸ List.mem_cons_self, kept.trans inserted⟩
  · rcases first id with same | ⟨_, _, _, earlier⟩
    · exact Or.inr ⟨same ▸ absent, found, List.mem_cons_of_mem _ member, inserted⟩
    · rw [earlier] at absent
      cases absent

theorem InMemoryNotificationOutboxStore.insertIntent_inserts (rows : OutboxRows) (intent : NotificationIntent) :
    Inserts [intent] rows (insertIntent rows intent) := by
  unfold insertIntent
  split
  · exact fun _ => Or.inl rfl
  · next absent => exact .put (Option.not_isSome_iff_eq_none.mp absent)

theorem InMemoryNotificationOutboxStore.enqueue_inserts (intents : List NotificationIntent) (rows : OutboxRows) :
    Inserts intents rows (intents.foldl insertIntent rows) := by
  induction intents generalizing rows with
  | nil => exact fun _ => Or.inl rfl
  | cons intent rest ih => exact (insertIntent_inserts rows intent).cons (ih _)

def inMemory : NotificationOutboxStore where
  Store := InMemoryNotificationOutboxStore
  row := fun store => store.rows.get?
  enqueue := fun intents store => some (store.enqueue intents)
  listDue := fun now limit store => dueRows store.rows now limit
  markSending := fun id now store => store.markSending id now
  applyOutcome := fun row eventOutcome errorClass attemptNumber now transport store =>
    some (store.applyOutcome row eventOutcome errorClass attemptNumber now transport)
  listStaleSending := fun now staleSendingMs store => staleRows store.rows now staleSendingMs
  row_id := OutboxRows.get?_id
  enqueue_row := by
    intro intents store after done
    cases done
    exact InMemoryNotificationOutboxStore.enqueue_inserts intents store.rows
  markSending_row := fun id now store => claimRow_spec id now store.rows
  applyOutcome_row := by
    intro outcome eventOutcome errorClass attemptNumber now transport store after done
    cases done
    refine ⟨fun other different => ?_, fun old _ => ⟨outcome, ?_, rfl⟩⟩
    · exact (OutboxRows.get?_put _ _ _).trans (if_neg (Ne.symm different))
    · exact (OutboxRows.get?_put _ _ _).trans (if_pos rfl)
  listStaleSending_row := staleRows_spec
  listStaleSending_nodup := fun now staleSendingMs store => staleRows_nodup store.rows now staleSendingMs

/-! ## In Postgres -/

/-- The outbox table and its append-only log of delivery events. -/
structure PgNotificationOutboxStore where
  notificationOutbox : OutboxRows
  deliveryEvents : List DeliveryEvent

namespace PgNotificationOutboxStore

def empty : PgNotificationOutboxStore := ⟨.empty, []⟩

/-- The columns of the table's second unique constraint. -/
def episodeMoment (intent : NotificationIntent) : JsString × Int × AlertEventKind × Nat :=
  (intent.fingerprint, intent.firstSeenAt, intent.kind, intent.occurrenceCount)

/-- `on conflict (notification_id) do nothing`; the other constraint rejects the statement. -/
def insertIntent (rows : OutboxRows) (intent : NotificationIntent) : Option OutboxRows :=
  if (rows.get? intent.notificationId).isSome then some rows
  else if rows.all.any fun row => episodeMoment row.toNotificationIntent == episodeMoment intent then none
  else some (rows.put intent.row)

/-- One transaction: a rejected insertion rolls all of them back. -/
def enqueue (intents : List NotificationIntent) (store : PgNotificationOutboxStore) :
    Option PgNotificationOutboxStore :=
  (intents.foldlM insertIntent store.notificationOutbox).map fun rows =>
    { store with notificationOutbox := rows }

def markSending (id : JsString) (now : Int) (store : PgNotificationOutboxStore) :
    Option NotificationOutboxRow × PgNotificationOutboxStore :=
  ((claimRow id now store.notificationOutbox).1,
    { store with notificationOutbox := (claimRow id now store.notificationOutbox).2 })

/-- The columns that an outcome sets. -/
def updateColumns (old row : NotificationOutboxRow) : NotificationOutboxRow :=
  { old with
    status := row.status
    attemptCount := row.attemptCount
    lastAttemptAt := row.lastAttemptAt
    nextAttemptAt := row.nextAttemptAt
    deliveredAt := row.deliveredAt
    lastError := row.lastError }

/-- One transaction: the update, and an event that must refer to a row. -/
def applyOutcome (row : NotificationOutboxRow) (eventOutcome : DeliveryOutcome) (errorClass : Option JsString)
    (attemptNumber : Nat) (now : Int) (transport : JsString) (store : PgNotificationOutboxStore) :
    Option PgNotificationOutboxStore :=
  (store.notificationOutbox.get? row.notificationId).map fun old =>
    { notificationOutbox := store.notificationOutbox.put (updateColumns old row)
      deliveryEvents := store.deliveryEvents ++
        [⟨row.notificationId, attemptNumber, now, eventOutcome, errorClass, transport⟩] }

theorem insertIntent_inserts {rows after : OutboxRows} {intent : NotificationIntent}
    (done : insertIntent rows intent = some after) : Inserts [intent] rows after := by
  unfold insertIntent at done
  split at done
  · cases done
    exact fun _ => Or.inl rfl
  · next absent =>
      split at done
      · cases done
      · cases done
        exact .put (Option.not_isSome_iff_eq_none.mp absent)

theorem enqueue_inserts {intents : List NotificationIntent} {rows after : OutboxRows}
    (done : intents.foldlM insertIntent rows = some after) : Inserts intents rows after := by
  induction intents generalizing rows with
  | nil =>
      cases done
      exact fun _ => Or.inl rfl
  | cons intent rest ih =>
      rw [List.foldlM_cons] at done
      obtain ⟨middle, first, last⟩ := Option.bind_eq_some_iff.mp done
      exact (insertIntent_inserts first).cons (ih last)

end PgNotificationOutboxStore

def postgres : NotificationOutboxStore where
  Store := PgNotificationOutboxStore
  row := fun store => store.notificationOutbox.get?
  enqueue := PgNotificationOutboxStore.enqueue
  listDue := fun now limit store => dueRows store.notificationOutbox now limit
  markSending := PgNotificationOutboxStore.markSending
  applyOutcome := PgNotificationOutboxStore.applyOutcome
  listStaleSending := fun now staleSendingMs store => staleRows store.notificationOutbox now staleSendingMs
  row_id := OutboxRows.get?_id
  enqueue_row := by
    intro intents store after done
    obtain ⟨rows, inserted, rfl⟩ := Option.map_eq_some_iff.mp done
    exact PgNotificationOutboxStore.enqueue_inserts inserted
  markSending_row := fun id now store => claimRow_spec id now store.notificationOutbox
  applyOutcome_row := by
    intro outcome eventOutcome errorClass attemptNumber now transport store after done
    obtain ⟨old, found, rfl⟩ := Option.map_eq_some_iff.mp done
    have named : old.notificationId = outcome.notificationId := OutboxRows.get?_id found
    refine ⟨fun other different => ?_, fun _ _ => ⟨PgNotificationOutboxStore.updateColumns old outcome, ?_, rfl⟩⟩
    · exact (OutboxRows.get?_put _ _ _).trans (if_neg fun same => different (same.symm.trans named))
    · exact (OutboxRows.get?_put _ _ _).trans (if_pos named)
  listStaleSending_row := staleRows_spec
  listStaleSending_nodup := fun now staleSendingMs store =>
    staleRows_nodup store.notificationOutbox now staleSendingMs

end KernelJson.Alerting.OutboxStores
