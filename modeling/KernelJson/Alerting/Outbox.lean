import KernelJson.Contracts.Common
import KernelJson.Foundation.JsText

/-!
# Outbox rows and their next states

The pure core of notification delivery: what a row becomes after a delivery
attempt, and what an abandoned attempt becomes.  Instants are milliseconds.
-/

namespace KernelJson.Alerting.Outbox

open Foundation.JsText

/-! ## Rows -/

inductive OutboxStatus where
  | pending
  | sending
  | delivered
  | poison
deriving DecidableEq

inductive DeliveryOutcome where
  | delivered
  | transientFailure
  | permanentFailure
  | ambiguousRecovered
deriving DecidableEq

inductive AlertEventKind where
  | new
  | ongoing
  | escalated
  | deescalated
  | recovered
deriving DecidableEq

inductive AlertSeverity where
  | p0
  | p1
  | p2
  | p3
deriving DecidableEq

def AlertEventKind.text : AlertEventKind → JsString
  | .new => js "NEW"
  | .ongoing => js "ONGOING"
  | .escalated => js "ESCALATED"
  | .deescalated => js "DEESCALATED"
  | .recovered => js "RECOVERED"

def AlertSeverity.text : AlertSeverity → JsString
  | .p0 => js "P0"
  | .p1 => js "P1"
  | .p2 => js "P2"
  | .p3 => js "P3"

structure NotificationPayload where
  notificationId : JsString
  fingerprint : JsString
  checkId : JsString
  entityId : JsString
  firstSeenAt : Int
  lastSeenAt : Int
  kind : AlertEventKind
  occurrenceCount : Nat
  severity : AlertSeverity
  message : JsString
  durationMs : Option Int
deriving DecidableEq

structure NotificationIntent extends NotificationPayload where
  createdAt : Int
deriving DecidableEq

structure NotificationOutboxRow extends NotificationIntent where
  status : OutboxStatus
  attemptCount : Nat
  lastAttemptAt : Option Int
  nextAttemptAt : Int
  deliveredAt : Option Int
  lastError : Option JsString
deriving DecidableEq

/-- The row that `enqueue` inserts for an intent. -/
def NotificationIntent.row (intent : NotificationIntent) : NotificationOutboxRow where
  toNotificationIntent := intent
  status := .pending
  attemptCount := 0
  lastAttemptAt := none
  nextAttemptAt := intent.createdAt
  deliveredAt := none
  lastError := none

/-- The statuses that end a row. -/
def Terminal (status : OutboxStatus) : Prop :=
  status = .delivered ∨ status = .poison

/-! ## Attempts -/

inductive DeliveryAttemptResult where
  | ok
  | failed (permanent : Bool) (errorClass : JsString)
deriving DecidableEq

structure DeliveryEvent where
  notificationId : JsString
  attemptNumber : Nat
  attemptedAt : Int
  outcome : DeliveryOutcome
  errorClass : Option JsString
  transport : JsString
deriving DecidableEq

structure DeliveryConfig where
  baseDelayMs : Nat
  maxDelayMs : Nat
  maxAttempts : Nat
  staleSendingMs : Int
deriving DecidableEq

def defaultDeliveryConfig : DeliveryConfig :=
  ⟨5000, 300000, 8, 120000⟩

/-- Bounded exponential backoff after the attempt that just failed. -/
def computeBackoffMs (attemptCount : Nat) (config : DeliveryConfig) : Nat :=
  min (config.baseDelayMs * 2 ^ (attemptCount - 1)) config.maxDelayMs

structure DeliveryDecision where
  row : NotificationOutboxRow
  eventOutcome : DeliveryOutcome
  errorClass : Option JsString
deriving DecidableEq

/-- The next state of a row that was just attempted. -/
def decideNextOutboxState (row : NotificationOutboxRow) (attempt : DeliveryAttemptResult) (now : Int)
    (config : DeliveryConfig) : DeliveryDecision :=
  match attempt with
  | .ok =>
      ⟨{ row with status := .delivered, lastAttemptAt := some now, deliveredAt := some now, lastError := none },
        .delivered, none⟩
  | .failed true errorClass =>
      ⟨{ row with status := .poison, lastAttemptAt := some now, lastError := some errorClass },
        .permanentFailure, some errorClass⟩
  | .failed false errorClass =>
      if row.attemptCount ≥ config.maxAttempts then
        ⟨{ row with status := .poison, lastAttemptAt := some now, lastError := some errorClass },
          .transientFailure, some errorClass⟩
      else
        ⟨{ row with
            status := .pending
            lastAttemptAt := some now
            nextAttemptAt := now + computeBackoffMs row.attemptCount config
            lastError := some errorClass },
          .transientFailure, some errorClass⟩

/-- Recovery of an attempt that is old enough to count as abandoned. -/
def recoverIfStaleSending (row : NotificationOutboxRow) (now : Int) (config : DeliveryConfig) :
    Option DeliveryDecision :=
  match row.status, row.lastAttemptAt with
  | .sending, some lastAttemptAt =>
      if now - lastAttemptAt < config.staleSendingMs then none
      else some ⟨{ row with status := .pending, nextAttemptAt := now }, .ambiguousRecovered, none⟩
  | _, _ => none

/-- A decision is about the row that was attempted. -/
theorem decideNextOutboxState_id (row : NotificationOutboxRow) (attempt : DeliveryAttemptResult) (now : Int)
    (config : DeliveryConfig) :
    (decideNextOutboxState row attempt now config).row.notificationId = row.notificationId := by
  cases attempt with
  | ok => rfl
  | failed permanent errorClass =>
      cases permanent with
      | true => rfl
      | false =>
          simp only [decideNextOutboxState]
          split <;> rfl

/-- No attempt leaves its row in flight. -/
theorem decideNextOutboxState_settles (row : NotificationOutboxRow) (attempt : DeliveryAttemptResult)
    (now : Int) (config : DeliveryConfig) :
    (decideNextOutboxState row attempt now config).row.status ≠ .sending := by
  cases attempt with
  | ok => exact OutboxStatus.noConfusion
  | failed permanent errorClass =>
      cases permanent with
      | true => exact OutboxStatus.noConfusion
      | false =>
          simp only [decideNextOutboxState]
          split <;> exact OutboxStatus.noConfusion

/-- Recovery applies to rows in flight only, and returns them to the queue. -/
theorem recoverIfStaleSending_spec {row : NotificationOutboxRow} {now : Int} {config : DeliveryConfig}
    {decision : DeliveryDecision} (recovered : recoverIfStaleSending row now config = some decision) :
    row.status = .sending ∧ decision.row.notificationId = row.notificationId ∧
      decision.row.status = .pending := by
  unfold recoverIfStaleSending at recovered
  split at recovered
  · next lastAttemptAt status attempted =>
      split at recovered
      · cases recovered
      · cases recovered
        exact ⟨status, rfl, rfl⟩
  · cases recovered

/-! ## What a transport is given -/

def operatorReplyPrefix : JsString := js "OPERATOR.reply."

/-- `/^OPERATOR\.reply\.\d{1,20}$/`. -/
def isOperatorReplyCheckId (checkId : JsString) : Bool :=
  operatorReplyPrefix.isPrefixOf checkId &&
    let digits := checkId.drop operatorReplyPrefix.length
    decide (1 ≤ digits.length ∧ digits.length ≤ 20) && digits.all fun unit => 48 ≤ unit && unit ≤ 57

def operatorReplyCheckId (updateId : Nat) : JsString :=
  operatorReplyPrefix ++ decimal updateId

def briefPrefix : JsString := js "MISSION.morningBrief."

/-- `/^MISSION\.morningBrief\.[0-9a-f]{8}\.completed$/`. -/
def isBriefCompletedCheckId (checkId : JsString) : Bool :=
  briefPrefix.isPrefixOf checkId &&
    let rest := checkId.drop briefPrefix.length
    rest.drop 8 == js ".completed" &&
      (rest.take 8).all fun unit => (48 ≤ unit && unit ≤ 57) || (97 ≤ unit && unit ≤ 102)

/-- The payload of a row; all but replies and completed briefs carry a synthetic summary. -/
def rowToPayload (row : NotificationOutboxRow) : NotificationPayload :=
  if isOperatorReplyCheckId row.checkId then row.toNotificationPayload
  else if isBriefCompletedCheckId row.checkId then row.toNotificationPayload
  else
    { row.toNotificationPayload with
      message := row.checkId ++ js ": " ++ row.kind.text ++ js " (" ++ row.severity.text ++ js ")" }

theorem rowToPayload_id (row : NotificationOutboxRow) :
    (rowToPayload row).notificationId = row.notificationId := by
  unfold rowToPayload
  split
  · rfl
  · split <;> rfl

end KernelJson.Alerting.Outbox
