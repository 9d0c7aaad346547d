import KernelJson.Alerting.Policy
import KernelJson.Contracts.Platform

/-!
# Reducing a check against its row

The pure core of alerting: the stored row of a check and a fresh result become
the next row and at most one decision.  Instants are milliseconds.
-/

namespace KernelJson.Alerting.Reducer

open Alerting.Outbox
open Alerting.Policy
open Contracts.Platform
open Foundation.JsText

/-! ## Identity of an alert -/

/-- The first 32 hexadecimal digits of the hash of a text. -/
def shortHash (platform : Platform) (text : JsString) : JsString :=
  (sha256Text platform text).take 32

/-- The text that `fingerprintFor` hashes. -/
def fingerprintText (checkId entityId : JsString) : JsString :=
  checkId ++ 10 :: entityId

def fingerprintFor (platform : Platform) (checkId entityId : JsString) : JsString :=
  shortHash platform (fingerprintText checkId entityId)

/-- Every check is about the canonical schedule. -/
def resolveEntityId (_checkId canonicalScheduleId : JsString) : JsString :=
  canonicalScheduleId

/-! ## Rows and decisions -/

inductive AlertState where
  | opened
  | recovered
deriving DecidableEq

structure AlertStateRow where
  fingerprint : JsString
  checkId : JsString
  entityId : JsString
  severity : AlertSeverity
  currentState : AlertState
  firstSeenAt : Int
  lastSeenAt : Int
  lastNotifiedAt : Option Int
  occurrenceCount : Nat
  recoveredAt : Option Int
deriving DecidableEq

structure AlertDecision where
  kind : AlertEventKind
  severity : AlertSeverity
  fingerprint : JsString
  checkId : JsString
  entityId : JsString
  message : JsString
  notify : Bool
  firstSeenAt : Int
  lastSeenAt : Int
  lastNotifiedAt : Option Int
  occurrenceCount : Nat
  durationMs : Option Int
deriving DecidableEq

def alertMessage (policy : AlertPolicyEntry) (check : CheckResult) : JsString :=
  match policy.alertMessage with
  | some text => text check
  | none => check.message

def recoveredMessage (check : CheckResult) : JsString :=
  check.id ++ js " recovered — " ++ check.message

/-! ## One evaluation -/

section Reduction

variable (platform : Platform) (policy : AlertPolicyEntry) (check : CheckResult)
variable (canonicalScheduleId : JsString) (now : Int)

/-- The entity and the fingerprint of the evaluation. -/
def entityOf : JsString :=
  resolveEntityId check.id canonicalScheduleId

def fingerprintOf : JsString :=
  fingerprintFor platform check.id (entityOf check canonicalScheduleId)

/-- Whether the end of an episode is announced; under control by status, only if something of it was. -/
def notifiesRecovery (existing : AlertStateRow) : Bool :=
  policy.notify != some false && (policy.notifyFor.isNone || existing.lastNotifiedAt.isSome)

/-- An open episode ends. -/
def recover (existing : AlertStateRow) : AlertStateRow × AlertDecision :=
  let notify := notifiesRecovery policy existing
  let lastNotifiedAt := if notify then some now else existing.lastNotifiedAt
  ({ existing with
      currentState := .recovered
      lastSeenAt := now
      recoveredAt := some now
      lastNotifiedAt := lastNotifiedAt },
    { kind := .recovered
      severity := existing.severity
      fingerprint := fingerprintOf platform check canonicalScheduleId
      checkId := check.id
      entityId := entityOf check canonicalScheduleId
      message := recoveredMessage check
      notify := notify
      firstSeenAt := existing.firstSeenAt
      lastSeenAt := now
      lastNotifiedAt := lastNotifiedAt
      occurrenceCount := existing.occurrenceCount
      durationMs := some (now - existing.firstSeenAt) })

/-- A fresh episode starts. -/
def openEpisode (severity : AlertSeverity) : AlertStateRow × AlertDecision :=
  let notify := policyNotifies policy check.status severity
  let lastNotifiedAt := if notify then some now else none
  ({ fingerprint := fingerprintOf platform check canonicalScheduleId
     checkId := check.id
     entityId := entityOf check canonicalScheduleId
     severity := severity
     currentState := .opened
     firstSeenAt := now
     lastSeenAt := now
     lastNotifiedAt := lastNotifiedAt
     occurrenceCount := 1
     recoveredAt := none },
    { kind := .new
      severity := severity
      fingerprint := fingerprintOf platform check canonicalScheduleId
      checkId := check.id
      entityId := entityOf check canonicalScheduleId
      message := alertMessage policy check
      notify := notify
      firstSeenAt := now
      lastSeenAt := now
      lastNotifiedAt := lastNotifiedAt
      occurrenceCount := 1
      durationMs := none })

/-- What an unhealthy result is to an open episode. -/
def continuedKind (existing : AlertStateRow) (severity : AlertSeverity) : AlertEventKind :=
  if severity = existing.severity then .ongoing
  else if isWorse severity existing.severity then .escalated
  else .deescalated

/-- Whether an unhealthy result of an open episode is announced. -/
def notifiesChange (existing : AlertStateRow) (severity : AlertSeverity) : Bool :=
  continuedKind existing severity != .ongoing && policyNotifies policy check.status severity

def continuedRow (existing : AlertStateRow) (severity : AlertSeverity) : AlertStateRow :=
  { existing with
    severity := severity
    lastSeenAt := now
    occurrenceCount := existing.occurrenceCount + 1
    lastNotifiedAt := if notifiesChange policy check existing severity then some now else existing.lastNotifiedAt }

def continuedDecision (existing : AlertStateRow) (severity : AlertSeverity) : AlertDecision where
  kind := continuedKind existing severity
  severity := severity
  fingerprint := fingerprintOf platform check canonicalScheduleId
  checkId := check.id
  entityId := entityOf check canonicalScheduleId
  message := alertMessage policy check
  notify := notifiesChange policy check existing severity
  firstSeenAt := existing.firstSeenAt
  lastSeenAt := now
  lastNotifiedAt := (continuedRow policy check now existing severity).lastNotifiedAt
  occurrenceCount := (continuedRow policy check now existing severity).occurrenceCount
  durationMs := none

/-- An open episode goes on; an unchanged severity yields no decision. -/
def continueEpisode (existing : AlertStateRow) (severity : AlertSeverity) :
    AlertStateRow × Option AlertDecision :=
  (continuedRow policy check now existing severity,
    if continuedKind existing severity = .ongoing then none
    else some (continuedDecision platform policy check canonicalScheduleId now existing severity))

/-- The reduction under a given policy. -/
def reduceUnder (existing : Option AlertStateRow) : Option AlertStateRow × Option AlertDecision :=
  match policy.severityFor check.status, existing with
  | none, none => (none, none)
  | none, some row =>
      if row.currentState = .recovered then (some row, none)
      else
        let ended := recover platform policy check canonicalScheduleId now row
        (some ended.1, some ended.2)
  | some severity, none =>
      let started := openEpisode platform policy check canonicalScheduleId now severity
      (some started.1, some started.2)
  | some severity, some row =>
      if row.currentState = .recovered then
        let started := openEpisode platform policy check canonicalScheduleId now severity
        (some started.1, some started.2)
      else
        let continued := continueEpisode platform policy check canonicalScheduleId now row severity
        (some continued.1, continued.2)

/-- No episode is open. -/
def Closed (existing : Option AlertStateRow) : Prop :=
  ∀ row, existing = some row → row.currentState = .recovered

/-- What a reduction can do. -/
inductive Reduced (existing : Option AlertStateRow) : Option AlertStateRow × Option AlertDecision → Prop where
  | quiet : policy.severityFor check.status = none → Closed existing → Reduced existing (existing, none)
  | recovered (row : AlertStateRow) : policy.severityFor check.status = none → existing = some row →
      row.currentState = .opened →
      Reduced existing (some (recover platform policy check canonicalScheduleId now row).1,
        some (recover platform policy check canonicalScheduleId now row).2)
  | started (severity : AlertSeverity) : policy.severityFor check.status = some severity → Closed existing →
      Reduced existing (some (openEpisode platform policy check canonicalScheduleId now severity).1,
        some (openEpisode platform policy check canonicalScheduleId now severity).2)
  | continued (row : AlertStateRow) (severity : AlertSeverity) :
      policy.severityFor check.status = some severity → existing = some row → row.currentState = .opened →
      Reduced existing (some (continueEpisode platform policy check canonicalScheduleId now row severity).1,
        (continueEpisode platform policy check canonicalScheduleId now row severity).2)

theorem opened_of_not_recovered {row : AlertStateRow} (running : row.currentState ≠ .recovered) :
    row.currentState = .opened := by
  cases state : row.currentState with
  | opened => rfl
  | recovered => exact absurd state running

theorem closed_none : Closed none :=
  fun _ impossible => by cases impossible

theorem closed_some {row : AlertStateRow} (ended : row.currentState = .recovered) : Closed (some row) := by
  intro other same
  cases same
  exact ended

theorem reduced (existing : Option AlertStateRow) :
    Reduced platform policy check canonicalScheduleId now existing
      (reduceUnder platform policy check canonicalScheduleId now existing) := by
  unfold reduceUnder
  cases alerts : policy.severityFor check.status with
  | none =>
      cases existing with
      | none => exact .quiet alerts closed_none
      | some row =>
          by_cases ended : row.currentState = .recovered
          · simp only [if_pos ended]
            exact .quiet alerts (closed_some ended)
          · simp only [if_neg ended]
            exact .recovered row alerts rfl (opened_of_not_recovered ended)
  | some severity =>
      cases existing with
      | none => exact .started severity alerts closed_none
      | some row =>
          by_cases ended : row.currentState = .recovered
          · simp only [if_pos ended]
            exact .started severity alerts (closed_some ended)
          · simp only [if_neg ended]
            exact .continued row severity alerts rfl (opened_of_not_recovered ended)

/-- A continued episode emits a decision exactly when its severity changed. -/
theorem continueEpisode_decision (row : AlertStateRow) (severity : AlertSeverity) :
    ((continueEpisode platform policy check canonicalScheduleId now row severity).2 = none ∧
        severity = row.severity) ∨
      (continueEpisode platform policy check canonicalScheduleId now row severity).2 =
          some (continuedDecision platform policy check canonicalScheduleId now row severity) ∧
        ((continuedKind row severity = .escalated ∧ isWorse severity row.severity = true) ∨
          (continuedKind row severity = .deescalated ∧ isWorse row.severity severity = true)) := by
  by_cases same : severity = row.severity
  · have kind : continuedKind row severity = .ongoing := if_pos same
    exact Or.inl ⟨if_pos kind, same⟩
  · by_cases worse : isWorse severity row.severity = true
    · have kind : continuedKind row severity = .escalated := by
        rw [continuedKind, if_neg same, if_pos worse]
      exact Or.inr ⟨if_neg (by rw [kind]; decide), Or.inl ⟨kind, worse⟩⟩
    · have kind : continuedKind row severity = .deescalated := by
        rw [continuedKind, if_neg same, if_neg worse]
      have better := isWorse_of_ne same (Bool.eq_false_iff.mpr worse)
      exact Or.inr ⟨if_neg (by rw [kind]; decide), Or.inr ⟨kind, better⟩⟩

/-- The recovery of an episode that just opened is announced if its opening was. -/
theorem notifiesRecovery_openEpisode (severity : AlertSeverity) :
    notifiesRecovery policy (openEpisode platform policy check canonicalScheduleId now severity).1 = true ↔
      (openEpisode platform policy check canonicalScheduleId now severity).2.notify = true := by
  by_cases announced : policyNotifies policy check.status severity = true
  · have audible := audible_of_notifies announced
    simp [notifiesRecovery, openEpisode, announced, audible]
  · rcases narrowed_of_not_notifies announced with muted | narrowed
    · simp [notifiesRecovery, openEpisode, announced, muted]
    · simp [notifiesRecovery, openEpisode, announced, narrowed]

/-- A change that is announced makes the recovery be announced; another leaves it as it was. -/
theorem notifiesRecovery_continuedRow (row : AlertStateRow) (severity : AlertSeverity) :
    notifiesRecovery policy (continuedRow policy check now row severity) = true ↔
      notifiesChange policy check row severity = true ∨ notifiesRecovery policy row = true := by
  by_cases announced : notifiesChange policy check row severity = true
  · have audible := audible_of_notifies (Bool.and_eq_true_iff.mp announced).2
    simp [notifiesRecovery, continuedRow, announced, audible]
  · simp [notifiesRecovery, continuedRow, announced]

end Reduction

/-- `reduceCheck(existing, check, canonicalScheduleId, now)`. -/
def reduceCheck (platform : Platform) (existing : Option AlertStateRow) (check : CheckResult)
    (canonicalScheduleId : JsString) (now : Int) : Option AlertStateRow × Option AlertDecision :=
  reduceUnder platform (resolvePolicy check.id) check canonicalScheduleId now existing

end KernelJson.Alerting.Reducer
