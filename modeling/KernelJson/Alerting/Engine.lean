import KernelJson.Alerting.Episodes
import KernelJson.Alerting.OutboxStores
import KernelJson.Scheduler.CivilTime

/-!
# The alert engine

One evaluation reads every row in whatever order the store lists them, reduces
each check against the row that it finds for it, and commits the next rows
together with the intents of the decisions to announce.
-/

namespace KernelJson.Alerting.Engine

open Alerting.Outbox
open Alerting.OutboxStores
open Alerting.Policy
open Alerting.Reducer
open Contracts.Platform
open Foundation
open Foundation.JsText
open Scheduler.CivilTime

/-! ## Intents -/

/-- The text that `deriveNotificationId` hashes. -/
def notificationText (fingerprint : JsString) (firstSeenAt : Int) (kind : AlertEventKind) (occurrenceCount : Nat) :
    JsString :=
  fingerprint ++ 10 :: (toISOString firstSeenAt ++ 10 :: (kind.text ++ 10 :: decimal occurrenceCount))

def deriveNotificationId (platform : Platform) (fingerprint : JsString) (firstSeenAt : Int) (kind : AlertEventKind)
    (occurrenceCount : Nat) : JsString :=
  shortHash platform (notificationText fingerprint firstSeenAt kind occurrenceCount)

/-- The intent of one decision. -/
def intentOf (platform : Platform) (now : Int) (decision : AlertDecision) : NotificationIntent where
  notificationId := deriveNotificationId platform decision.fingerprint decision.firstSeenAt decision.kind
    decision.occurrenceCount
  fingerprint := decision.fingerprint
  checkId := decision.checkId
  entityId := decision.entityId
  firstSeenAt := decision.firstSeenAt
  lastSeenAt := decision.lastSeenAt
  kind := decision.kind
  occurrenceCount := decision.occurrenceCount
  severity := decision.severity
  message := decision.message
  durationMs := decision.durationMs
  createdAt := now

def intentsFromDecisions (platform : Platform) (decisions : List AlertDecision) (now : Int) :
    List NotificationIntent :=
  (decisions.filter AlertDecision.notify).map (intentOf platform now)

/-! ## Evaluations -/

/-- The checks of every domain.  The evaluators give each check of the catalogue at most once, and its
identifiers are single lines. -/
structure HealthReport where
  checks : List CheckResult
  distinct : (checks.map CheckResult.id).Nodup
  singleLine : ∀ check ∈ checks, 10 ∉ check.id

/-- One evaluation, with the rows as the store listed them. -/
structure Attempt where
  report : HealthReport
  canonicalScheduleId : JsString
  now : Int
  listing : List AlertStateRow

section Evaluation

variable (platform : Platform) (attempt : Attempt)

/-- The key under which a check is looked up, and under which a row is entered. -/
def lookupKey (checkId : JsString) : JsString :=
  fingerprintFor platform checkId (resolveEntityId checkId attempt.canonicalScheduleId)

/-- `new Map(existingRows.map(..))`: of several rows under one key the last counts. -/
def existingByFingerprint : JsMap JsString AlertStateRow :=
  attempt.listing.foldl (fun rows row => rows.set (lookupKey platform attempt row.checkId) row) .empty

def existingFor (check : CheckResult) : Option AlertStateRow :=
  (existingByFingerprint platform attempt).get? (lookupKey platform attempt check.id)

def reduction (check : CheckResult) : Option AlertStateRow × Option AlertDecision :=
  reduceCheck platform (existingFor platform attempt check) check attempt.canonicalScheduleId attempt.now

/-- The rows to persist. -/
def nextRows : List AlertStateRow :=
  attempt.report.checks.filterMap fun check => (reduction platform attempt check).1

def decisions : List AlertDecision :=
  attempt.report.checks.filterMap fun check => (reduction platform attempt check).2

def intents : List NotificationIntent :=
  intentsFromDecisions platform (decisions platform attempt) attempt.now

end Evaluation

/-! ## The store -/

structure AlertStore where
  alertState : JsMap JsString AlertStateRow
  outbox : PgNotificationOutboxStore

def AlertStore.empty : AlertStore := ⟨.empty, .empty⟩

/-- The upsert keeps the check and the entity of a row that stands. -/
def upsertRow (rows : JsMap JsString AlertStateRow) (row : AlertStateRow) : JsMap JsString AlertStateRow :=
  rows.set row.fingerprint
    (match rows.get? row.fingerprint with
      | some old => { row with checkId := old.checkId, entityId := old.entityId }
      | none => row)

/-- `putAll(rows, intents)`: one transaction, or `none` where the database rejects it. -/
def putAll (rows : List AlertStateRow) (intents : List NotificationIntent) (store : AlertStore) : Option AlertStore :=
  (PgNotificationOutboxStore.enqueue intents store.outbox).map fun outbox =>
    ⟨rows.foldl upsertRow store.alertState, outbox⟩

/-! ## Runs -/

/-- What a delivery worker does to the outbox between evaluations. -/
inductive Delivers (before : PgNotificationOutboxStore) : PgNotificationOutboxStore → Prop where
  | claimed (id : JsString) (now : Int) : Delivers before (before.markSending id now).2
  | settled {after : PgNotificationOutboxStore} (row : NotificationOutboxRow) (eventOutcome : DeliveryOutcome)
      (errorClass : Option JsString) (attemptNumber : Nat) (now : Int) (transport : JsString) :
      before.applyOutcome row eventOutcome errorClass attemptNumber now transport = some after →
      Delivers before after

/-- The committed evaluations of a run, latest first, and the store that they leave.  An evaluation that is
aborted before its commit leaves nothing; one that is executed again is another evaluation. -/
inductive Run (platform : Platform) : List Attempt → AlertStore → Prop where
  | start : Run platform [] .empty
  | committed {past : List Attempt} {store after : AlertStore} (attempt : Attempt) : Run platform past store →
      attempt.listing.Perm store.alertState.values →
      putAll (nextRows platform attempt) (intents platform attempt) store = some after →
      Run platform (attempt :: past) after
  | aborted {past : List Attempt} {store : AlertStore} (attempt : Attempt) : Run platform past store →
      attempt.listing.Perm store.alertState.values → Run platform past store
  | delivered {past : List Attempt} {store : AlertStore} {outbox : PgNotificationOutboxStore} :
      Run platform past store → Delivers store.outbox outbox →
      Run platform past { store with outbox := outbox }

/-! ## Hashes that do not collide -/

/-- The texts that the fingerprints of a run hash. -/
def FingerprintTexts (past : List Attempt) (text : JsString) : Prop :=
  ∃ first ∈ past, ∃ check ∈ first.report.checks, ∃ second ∈ past,
    text = fingerprintText check.id second.canonicalScheduleId

/-- The texts that the notification identifiers of a run hash. -/
def NotificationTexts (platform : Platform) (past : List Attempt) (text : JsString) : Prop :=
  ∃ attempt ∈ past, ∃ decision ∈ decisions platform attempt, decision.notify = true ∧
    text = notificationText decision.fingerprint decision.firstSeenAt decision.kind decision.occurrenceCount

/-- The hash tells texts of a kind apart. -/
def Separates (platform : Platform) (texts : JsString → Prop) : Prop :=
  ∀ first second, texts first → texts second → shortHash platform first = shortHash platform second →
    first = second

theorem Separates.mono {platform : Platform} {fewer more : JsString → Prop} (separates : Separates platform more)
    (included : ∀ text, fewer text → more text) : Separates platform fewer :=
  fun first second one other same => separates first second (included first one) (included second other) same

theorem FingerprintTexts.later {past : List Attempt} {text : JsString} (attempt : Attempt)
    (occurs : FingerprintTexts past text) : FingerprintTexts (attempt :: past) text := by
  obtain ⟨first, memberFirst, check, inside, second, memberSecond, rfl⟩ := occurs
  exact ⟨first, List.mem_cons_of_mem _ memberFirst, check, inside, second, List.mem_cons_of_mem _ memberSecond, rfl⟩

theorem NotificationTexts.later {platform : Platform} {past : List Attempt} {text : JsString} (attempt : Attempt)
    (occurs : NotificationTexts platform past text) : NotificationTexts platform (attempt :: past) text := by
  obtain ⟨first, member, decision⟩ := occurs
  exact ⟨first, List.mem_cons_of_mem _ member, decision⟩

/-- A check and an entity are read off the text of their fingerprint. -/
theorem fingerprintText_injective {checkId other entityId otherEntity : JsString} (single : 10 ∉ checkId)
    (otherSingle : 10 ∉ other) (same : fingerprintText checkId entityId = fingerprintText other otherEntity) :
    checkId = other ∧ entityId = otherEntity :=
  split_at_first single otherSingle same

/-! ## Lookups -/

/-- Of the rows entered under one key the last counts. -/
theorem get?_foldl_set {key : AlertStateRow → JsString} (rows : List AlertStateRow)
    (start : JsMap JsString AlertStateRow) (wanted : JsString) :
    (rows.foldl (fun table row => table.set (key row) row) start).get? wanted =
      (rows.reverse.find? fun row => key row = wanted).or (start.get? wanted) := by
  induction rows generalizing start with
  | nil => rfl
  | cons row rest ih =>
      rw [List.foldl_cons, ih, List.reverse_cons, List.find?_append, Option.or_assoc, JsMap.get?_set]
      by_cases same : key row = wanted
      · simp [same]
      · simp [same]

theorem existingFor_eq (platform : Platform) (attempt : Attempt) (check : CheckResult) :
    existingFor platform attempt check =
      attempt.listing.reverse.find? fun row =>
        lookupKey platform attempt row.checkId = lookupKey platform attempt check.id := by
  rw [existingFor, existingByFingerprint, get?_foldl_set, JsMap.get?_empty, Option.or_none]

/-- Rows with fingerprints of their own are written as they are. -/
theorem get?_foldl_upsert {rows : List AlertStateRow} {start : JsMap JsString AlertStateRow}
    (distinct : (rows.map AlertStateRow.fingerprint).Nodup)
    (agree : ∀ row ∈ rows, ∀ old, start.get? row.fingerprint = some old →
      old.checkId = row.checkId ∧ old.entityId = row.entityId) (wanted : JsString) :
    (rows.foldl upsertRow start).get? wanted =
      (rows.find? fun row => row.fingerprint = wanted).or (start.get? wanted) := by
  induction rows generalizing start with
  | nil => rfl
  | cons row rest ih =>
      obtain ⟨fresh, others⟩ := List.nodup_cons.mp distinct
      have written : upsertRow start row = start.set row.fingerprint row := by
        unfold upsertRow
        cases stored : start.get? row.fingerprint with
        | none => rfl
        | some old =>
            obtain ⟨checkId, entityId⟩ := agree row List.mem_cons_self old stored
            simp only [checkId, entityId]
      have apart : ∀ other ∈ rest, row.fingerprint ≠ other.fingerprint := by
        intro other member same
        exact fresh (same ▸ List.mem_map_of_mem member)
      rw [List.foldl_cons, written, ih others, List.find?_cons, JsMap.get?_set]
      · by_cases same : row.fingerprint = wanted
        · have none : (rest.find? fun other => other.fingerprint = wanted) = none := by
            refine List.find?_eq_none.mpr fun other member => ?_
            simpa only [decide_eq_true_eq] using fun equal => apart other member (same.trans equal.symm)
          simp [same, none]
        · simp [same]
      · intro other member old stored
        rw [JsMap.get?_set_of_ne _ (apart other member)] at stored
        exact agree other (List.mem_cons_of_mem _ member) old stored

/-! ## The rows of a run -/

/-- A row that some evaluation of the run opened. -/
structure Valid (platform : Platform) (past : List Attempt) (row : AlertStateRow) : Prop where
  fingerprint : row.fingerprint = fingerprintFor platform row.checkId row.entityId
  single : 10 ∉ row.checkId
  occurs : ∃ first ∈ past, ∃ check ∈ first.report.checks, check.id = row.checkId
  entity : ∃ second ∈ past, second.canonicalScheduleId = row.entityId

/-- Every stored row stands under its fingerprint, and is valid. -/
def Keyed (platform : Platform) (past : List Attempt) (store : AlertStore) : Prop :=
  ∀ key row, store.alertState.get? key = some row → row.fingerprint = key ∧ Valid platform past row

theorem Valid.later {platform : Platform} {past : List Attempt} {row : AlertStateRow}
    (valid : Valid platform past row) (attempt : Attempt) : Valid platform (attempt :: past) row := by
  obtain ⟨first, memberFirst, found⟩ := valid.occurs
  obtain ⟨second, memberSecond, same⟩ := valid.entity
  exact ⟨valid.fingerprint, valid.single, ⟨first, List.mem_cons_of_mem _ memberFirst, found⟩,
    ⟨second, List.mem_cons_of_mem _ memberSecond, same⟩⟩

theorem Valid.text {platform : Platform} {past : List Attempt} {row : AlertStateRow}
    (valid : Valid platform past row) : FingerprintTexts past (fingerprintText row.checkId row.entityId) := by
  obtain ⟨first, memberFirst, check, inside, named⟩ := valid.occurs
  obtain ⟨second, memberSecond, entity⟩ := valid.entity
  exact ⟨first, memberFirst, check, inside, second, memberSecond, by rw [named, entity]⟩

/-- Valid rows of one fingerprint are about one check and one entity. -/
theorem Valid.identity {platform : Platform} {past : List Attempt} {row other : AlertStateRow}
    (separates : Separates platform (FingerprintTexts past)) (valid : Valid platform past row)
    (otherValid : Valid platform past other) (same : row.fingerprint = other.fingerprint) :
    row.checkId = other.checkId ∧ row.entityId = other.entityId := by
  rw [valid.fingerprint, otherValid.fingerprint] at same
  exact fingerprintText_injective valid.single otherValid.single (separates _ _ valid.text otherValid.text same)

section Step

variable {platform : Platform} {past : List Attempt} {store : AlertStore} {attempt : Attempt}

/-- A listed row is valid. -/
theorem valid_of_listed (keyed : Keyed platform past store) (listed : attempt.listing.Perm store.alertState.values)
    {row : AlertStateRow} (member : row ∈ attempt.listing) :
    store.alertState.get? row.fingerprint = some row ∧ Valid platform past row := by
  obtain ⟨key, stored⟩ := JsMap.mem_values.mp (listed.mem_iff.mp member)
  obtain ⟨rfl, valid⟩ := keyed key row stored
  exact ⟨stored, valid⟩

theorem listed_of_stored (listed : attempt.listing.Perm store.alertState.values) {key : JsString}
    {row : AlertStateRow} (stored : store.alertState.get? key = some row) : row ∈ attempt.listing :=
  listed.mem_iff.mpr (JsMap.mem_values.mpr ⟨key, stored⟩)

/-- A row is found for a check exactly if it is a row of the check. -/
theorem lookupKey_iff (separates : Separates platform (FingerprintTexts (attempt :: past)))
    {row : AlertStateRow} (valid : Valid platform past row) {check : CheckResult}
    (member : check ∈ attempt.report.checks) :
    lookupKey platform attempt row.checkId = lookupKey platform attempt check.id ↔ row.checkId = check.id := by
  constructor
  · intro same
    obtain ⟨first, memberFirst, other, inside, named⟩ := valid.occurs
    have rowText : FingerprintTexts (attempt :: past) (fingerprintText row.checkId attempt.canonicalScheduleId) :=
      ⟨first, List.mem_cons_of_mem _ memberFirst, other, inside, attempt, List.mem_cons_self, by rw [named]⟩
    have checkText : FingerprintTexts (attempt :: past) (fingerprintText check.id attempt.canonicalScheduleId) :=
      ⟨attempt, List.mem_cons_self, check, member, attempt, List.mem_cons_self, rfl⟩
    exact (fingerprintText_injective valid.single (attempt.report.singleLine check member)
      (separates _ _ rowText checkText same)).1
  · intro same
    rw [same]

/-- The row that a check is reduced against is a stored row of the check. -/
theorem existingFor_some (keyed : Keyed platform past store)
    (listed : attempt.listing.Perm store.alertState.values)
    (separates : Separates platform (FingerprintTexts (attempt :: past))) {check : CheckResult}
    (member : check ∈ attempt.report.checks) {row : AlertStateRow}
    (found : existingFor platform attempt check = some row) :
    row.checkId = check.id ∧ store.alertState.get? row.fingerprint = some row ∧ Valid platform past row := by
  rw [existingFor_eq] at found
  have inside := List.mem_reverse.mp (List.mem_of_find?_eq_some found)
  obtain ⟨stored, valid⟩ := valid_of_listed keyed listed inside
  have same := List.find?_some found
  simp only [decide_eq_true_eq] at same
  exact ⟨(lookupKey_iff separates valid member).mp same, stored, valid⟩

/-- A check without a row to be reduced against has no stored row. -/
theorem existingFor_none (listed : attempt.listing.Perm store.alertState.values) {check : CheckResult}
    (absent : existingFor platform attempt check = none) {key : JsString} {row : AlertStateRow}
    (stored : store.alertState.get? key = some row) : row.checkId ≠ check.id := by
  rw [existingFor_eq] at absent
  intro same
  have missed := List.find?_eq_none.mp absent row (List.mem_reverse.mpr (listed_of_stored listed stored))
  exact missed (decide_eq_true (by rw [same]))

/-- What a reduction makes of the row of its check. -/
inductive NextRow (platform : Platform) (attempt : Attempt) (check : CheckResult) :
    Option AlertStateRow → AlertStateRow → Prop where
  | kept (row : AlertStateRow) : row.currentState = .recovered → NextRow platform attempt check (some row) row
  | changed (row next : AlertStateRow) : row.currentState = .opened → next.fingerprint = row.fingerprint →
      next.checkId = row.checkId → next.entityId = row.entityId → next.firstSeenAt = row.firstSeenAt →
      row.occurrenceCount ≤ next.occurrenceCount → NextRow platform attempt check (some row) next
  | started {existing : Option AlertStateRow} (next : AlertStateRow) : Closed existing →
      (resolvePolicy check.id).severityFor check.status ≠ none → next.fingerprint = lookupKey platform attempt check.id → next.checkId = check.id →
      next.entityId = attempt.canonicalScheduleId → next.firstSeenAt = attempt.now → next.currentState = .opened →
      NextRow platform attempt check existing next

theorem nextRow_of_reduction {check : CheckResult} {next : AlertStateRow}
    (made : (reduction platform attempt check).1 = some next) :
    NextRow platform attempt check (existingFor platform attempt check) next := by
  have step := reduced platform (resolvePolicy check.id) check attempt.canonicalScheduleId attempt.now
    (existingFor platform attempt check)
  unfold reduction reduceCheck at made
  generalize reduceUnder platform (resolvePolicy check.id) check attempt.canonicalScheduleId attempt.now
    (existingFor platform attempt check) = outcome at step made
  cases step with
  | quiet healthy closed =>
      rw [show existingFor platform attempt check = some next from made] at closed ⊢
      exact .kept next (closed next rfl)
  | recovered row healthy stored opened =>
      cases made
      rw [stored]
      exact .changed row _ opened rfl rfl rfl rfl (Nat.le_refl _)
  | started severity alerts closed =>
      cases made
      have unhealthy : (resolvePolicy check.id).severityFor check.status ≠ none := by
        rw [alerts]
        exact Option.some_ne_none severity
      exact .started _ closed unhealthy rfl rfl rfl rfl rfl
  | continued row severity alerts stored opened =>
      cases made
      rw [stored]
      exact .changed row _ opened rfl rfl rfl rfl (Nat.le_succ _)

theorem valid_of_started {check : CheckResult} (member : check ∈ attempt.report.checks) {next : AlertStateRow}
    (fingerprint : next.fingerprint = lookupKey platform attempt check.id) (checkId : next.checkId = check.id)
    (entityId : next.entityId = attempt.canonicalScheduleId) : Valid platform (attempt :: past) next where
  fingerprint := by
    rw [fingerprint, checkId, entityId]
    rfl
  single := by
    rw [checkId]
    exact attempt.report.singleLine check member
  occurs := ⟨attempt, List.mem_cons_self, check, member, checkId.symm⟩
  entity := ⟨attempt, List.mem_cons_self, entityId.symm⟩

/-- The next row of a check is a valid row of the check. -/
theorem nextRow_valid (keyed : Keyed platform past store) (listed : attempt.listing.Perm store.alertState.values)
    (separates : Separates platform (FingerprintTexts (attempt :: past))) {check : CheckResult}
    (member : check ∈ attempt.report.checks) {next : AlertStateRow}
    (made : (reduction platform attempt check).1 = some next) :
    next.checkId = check.id ∧ Valid platform (attempt :: past) next := by
  have progress := nextRow_of_reduction made
  cases existing : existingFor platform attempt check with
  | none =>
      rw [existing] at progress
      cases progress with
      | started _ _ _ fingerprint checkId entityId =>
          exact ⟨checkId, valid_of_started member fingerprint checkId entityId⟩
  | some row =>
      obtain ⟨sameCheck, -, valid⟩ := existingFor_some keyed listed separates member existing
      rw [existing] at progress
      cases progress with
      | kept _ _ => exact ⟨sameCheck, valid.later attempt⟩
      | changed _ _ _ fingerprint checkId entityId =>
          have later := valid.later attempt
          refine ⟨checkId.trans sameCheck, ?_, ?_, ?_, ?_⟩
          · rw [fingerprint, checkId, entityId]
            exact later.fingerprint
          · rw [checkId]
            exact later.single
          · rw [checkId]
            exact later.occurs
          · rw [entityId]
            exact later.entity
      | started _ _ _ fingerprint checkId entityId =>
          exact ⟨checkId, valid_of_started member fingerprint checkId entityId⟩

/-- Different checks write rows with different fingerprints. -/
theorem nextRows_nodup (keyed : Keyed platform past store) (listed : attempt.listing.Perm store.alertState.values)
    (separates : Separates platform (FingerprintTexts (attempt :: past))) :
    ((nextRows platform attempt).map AlertStateRow.fingerprint).Nodup := by
  have ids : attempt.report.checks.Pairwise fun first second => first.id ≠ second.id :=
    List.pairwise_map.mp attempt.report.distinct
  refine List.pairwise_map.mpr (List.pairwise_filterMap.mpr ?_)
  refine ids.imp_of_mem ?_
  intro first second memberFirst memberSecond different row made other otherMade same
  obtain ⟨firstId, valid⟩ := nextRow_valid keyed listed separates memberFirst made
  obtain ⟨secondId, otherValid⟩ := nextRow_valid keyed listed separates memberSecond otherMade
  obtain ⟨checks, -⟩ := valid.identity separates otherValid same
  exact different (firstId.symm.trans (checks.trans secondId))

theorem mem_nextRows {row : AlertStateRow} :
    row ∈ nextRows platform attempt ↔
      ∃ check ∈ attempt.report.checks, (reduction platform attempt check).1 = some row := by
  rw [nextRows, List.mem_filterMap]

/-- A commit writes the next rows and keeps every other row. -/
theorem committed_rows (keyed : Keyed platform past store) (listed : attempt.listing.Perm store.alertState.values)
    (separates : Separates platform (FingerprintTexts (attempt :: past))) {after : AlertStore}
    (done : putAll (nextRows platform attempt) (intents platform attempt) store = some after) (key : JsString)
    (row : AlertStateRow) :
    after.alertState.get? key = some row ↔
      (row ∈ nextRows platform attempt ∧ row.fingerprint = key) ∨
        (store.alertState.get? key = some row ∧ ∀ next ∈ nextRows platform attempt, next.fingerprint ≠ key) := by
  obtain ⟨outbox, -, rfl⟩ := Option.map_eq_some_iff.mp done
  have distinct := nextRows_nodup keyed listed separates
  have written := @get?_foldl_upsert _ store.alertState distinct (by
    intro next member old stored
    obtain ⟨check, inside, made⟩ := mem_nextRows.mp member
    obtain ⟨-, valid⟩ := nextRow_valid keyed listed separates inside made
    obtain ⟨named, oldValid⟩ := keyed _ _ stored
    exact (oldValid.later attempt).identity separates valid named) key
  rw [written]
  cases found : (nextRows platform attempt).find? fun next => next.fingerprint = key with
  | none =>
      have absent : ∀ next ∈ nextRows platform attempt, next.fingerprint ≠ key := by
        intro next member
        simpa only [decide_eq_true_eq] using List.find?_eq_none.mp found next member
      rw [Option.none_or]
      constructor
      · exact fun stored => Or.inr ⟨stored, absent⟩
      · rintro (⟨member, here⟩ | ⟨stored, -⟩)
        · exact absurd here (absent row member)
        · exact stored
  | some next =>
      have member := List.mem_of_find?_eq_some found
      have here : next.fingerprint = key := by
        simpa only [decide_eq_true_eq] using List.find?_some found
      rw [Option.some_or, Option.some.injEq]
      constructor
      · rintro rfl
        exact Or.inl ⟨member, here⟩
      · rintro (⟨other, named⟩ | ⟨-, absent⟩)
        · exact List.inj_on_of_nodup_map distinct member other (here.trans named.symm)
        · exact absurd here (absent next member)

theorem keyed_committed (keyed : Keyed platform past store)
    (listed : attempt.listing.Perm store.alertState.values)
    (separates : Separates platform (FingerprintTexts (attempt :: past))) {after : AlertStore}
    (done : putAll (nextRows platform attempt) (intents platform attempt) store = some after) :
    Keyed platform (attempt :: past) after := by
  intro key row stored
  rcases (committed_rows keyed listed separates done key row).mp stored with ⟨member, named⟩ | ⟨before, -⟩
  · obtain ⟨check, inside, made⟩ := mem_nextRows.mp member
    exact ⟨named, (nextRow_valid keyed listed separates inside made).2⟩
  · obtain ⟨named, valid⟩ := keyed key row before
    exact ⟨named, valid.later attempt⟩

end Step

/-- Every row of a run is valid. -/
theorem Run.keyed {platform : Platform} {past : List Attempt} {store : AlertStore} (run : Run platform past store)
    (separates : Separates platform (FingerprintTexts past)) : Keyed platform past store := by
  induction run with
  | start => exact fun _ _ impossible => by cases impossible
  | committed attempt _ listed done ih =>
      have before := ih (separates.mono fun _ => FingerprintTexts.later attempt)
      exact keyed_committed before listed separates done
  | aborted _ _ _ ih => exact ih separates
  | delivered _ _ ih => exact ih separates

/-! ## A sample -/

/-- A platform whose hash depends on the last 64 units of a text. -/
def tailPlatform : Platform :=
  { Platform.ascii with sha256 := fun text => .ofDigits (text.reverse.map UInt16.toNat) }

/-- A report on one check. -/
def reportOf (status : HealthStatus) : HealthReport where
  checks := [⟨js "authority.bindingReleaseConsistent", status, js "bindings"⟩]
  distinct := List.nodup_singleton _
  singleLine := by
    intro check member
    rw [List.mem_singleton.mp member]
    exact (by decide +kernel : 10 ∉ js "authority.bindingReleaseConsistent")

def sampleAttempt (status : HealthStatus) (canonicalScheduleId : JsString) (now : Int)
    (listing : List AlertStateRow) : Attempt :=
  ⟨reportOf status, canonicalScheduleId, now, listing⟩

theorem sampleAttempt_listing (status : HealthStatus) (canonicalScheduleId : JsString) (now : Int)
    (listing : List AlertStateRow) : (sampleAttempt status canonicalScheduleId now listing).listing = listing := rfl

def sampleCommit (attempt : Attempt) (store : AlertStore) : Option AlertStore :=
  putAll (nextRows tailPlatform attempt) (intents tailPlatform attempt) store

theorem sampleCommit_getD {attempt : Attempt} {store : AlertStore}
    (present : (sampleCommit attempt store).isSome = true) :
    sampleCommit attempt store = some ((sampleCommit attempt store).getD .empty) := by
  obtain ⟨after, done⟩ := Option.isSome_iff_exists.mp present
  rw [done]
  rfl

/-- The texts of the sample check under the canonical schedules of a run. -/
def sampleTexts (past : List Attempt) : List JsString :=
  past.map fun attempt => fingerprintText (js "authority.bindingReleaseConsistent") attempt.canonicalScheduleId

theorem separates_fingerprints (platform : Platform) (past : List Attempt)
    (single : ∀ attempt ∈ past, ∃ status, attempt.report = reportOf status)
    (apart : ∀ first ∈ sampleTexts past, ∀ second ∈ sampleTexts past,
      shortHash platform first = shortHash platform second → first = second) :
    Separates platform (FingerprintTexts past) := by
  have listed : ∀ text, FingerprintTexts past text → text ∈ sampleTexts past := by
    rintro text ⟨attempt, member, check, inside, other, otherMember, rfl⟩
    obtain ⟨status, report⟩ := single attempt member
    rw [report] at inside
    rw [List.mem_singleton.mp inside]
    exact List.mem_map_of_mem otherMember
  exact fun first second one two same => apart first (listed first one) second (listed second two) same

end KernelJson.Alerting.Engine
