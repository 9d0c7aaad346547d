import KernelJson.Control.Signing

/-!
# Replay safety of control requests

The nonce store keeps the digest of every payload that it admitted, on the clock
of the database, and drops rows after the retention time.  A delivery takes one
statement to insert its nonce and a second one to purge or to look the nonce up;
the statements of different deliveries come in any order.  The retention time is
longer than two freshness windows, so a payload whose row was purged is stale.
-/

namespace KernelJson.Control.Replay

open Contracts.Common
open Contracts.Digest
open Contracts.Platform
open Control.Signing
open Foundation
open Foundation.JsText

/-! ## The nonce store -/

/-- A row of `kernel_private.control_assertions`; its instants are microseconds. -/
structure AssertionRow where
  keyId : JsString
  requestDigest : JsString
  issuedAt : Int
  firstSeenAt : Int
  service : JsString
  handler : JsString
  workflowKey : JsString
deriving DecidableEq

abbrev AssertionRows : Type := JsMap JsString AssertionRow

def secondUs : Int := 1000000

def nonceRetentionDays : Int := 7

def retentionUs : Int := nonceRetentionDays * 86400 * secondUs

/-- `abs(extract(epoch from now()) - issued_at) <= freshness`. -/
def Fresh (record : ReplayRecord) (now : Int) : Prop :=
  |now - record.issuedAt * secondUs| ≤ record.freshnessSeconds * secondUs

instance (record : ReplayRecord) (now : Int) : Decidable (Fresh record now) :=
  inferInstanceAs (Decidable (_ ≤ _))

/-- Texts that can be sent to the database. -/
def Bindable (record : ReplayRecord) : Prop :=
  0 ∉ record.service ∧ 0 ∉ record.handler ∧ 0 ∉ record.key

instance (record : ReplayRecord) : Decidable (Bindable record) :=
  inferInstanceAs (Decidable (_ ∧ _))

/-- `length(text) between least and most`. -/
def lengthBetween (least most : Nat) (text : JsString) : Prop :=
  least ≤ (Utf8.scalars text).length ∧ (Utf8.scalars text).length ≤ most

instance (least most : Nat) (text : JsString) : Decidable (lengthBetween least most text) :=
  inferInstanceAs (Decidable (_ ∧ _))

/-- The checks of the table. -/
def Storable (record : ReplayRecord) : Prop :=
  isNonce record.nonce = true ∧ isKeyId record.keyId = true ∧ isSha256Text record.digest = true ∧
    lengthBetween 1 80 record.service ∧ lengthBetween 1 40 record.handler ∧ lengthBetween 1 200 record.key

instance (record : ReplayRecord) : Decidable (Storable record) :=
  inferInstanceAs (Decidable (_ ∧ _))

/-- A text as the database receives it. -/
def storedText (text : JsString) : JsString :=
  Utf8.decode (Utf8.encode text)

def rowOf (record : ReplayRecord) (now : Int) : AssertionRow where
  keyId := record.keyId
  requestDigest := record.digest
  issuedAt := record.issuedAt * secondUs
  firstSeenAt := now
  service := storedText record.service
  handler := storedText record.handler
  workflowKey := storedText record.key

/-- `insert into control_assertions .. on conflict (nonce) do nothing`: the rows after an insertion, `some none` when
nothing was inserted, and `none` when the statement is rejected. -/
def insertAssertion (record : ReplayRecord) (now : Int) (rows : AssertionRows) : Option (Option AssertionRows) :=
  if ¬ Bindable record then none
  else if ¬ Fresh record now then some none
  else if ¬ Storable record then none
  else
    match rows.get? record.nonce with
    | some _ => some none
    | none => some (some (rows.set record.nonce (rowOf record now)))

/-- The verdict after nothing was inserted. -/
def lookUp (record : ReplayRecord) (rows : AssertionRows) : ReplayVerdict :=
  match rows.get? record.nonce with
  | none => .stale
  | some row => if row.requestDigest = record.digest then .replay else .conflict

/-- At most fifty rows past their retention are deleted. -/
structure Purges (now : Int) (before after : AssertionRows) : Prop where
  few : ∃ purged : List JsString, purged.length ≤ 50 ∧ ∀ nonce,
    after.get? nonce = if nonce ∈ purged then none else before.get? nonce
  old : ∀ nonce row, before.get? nonce = some row → after.get? nonce = none → row.firstSeenAt < now - retentionUs

/-! ## Deliveries -/

inductive Stage where
  | inserting (fields : CanonicalFields)
  | purging
  | selecting (fields : CanonicalFields)

inductive Event where
  /-- The nonce was inserted; the delivery reports a first sight unless the answer was lost. -/
  | recorded (fields : CanonicalFields) (reported : Bool) (now : Int)
  /-- The verdict of a delivery that found its nonce, or none. -/
  | answered (fields : CanonicalFields) (verdict : ReplayVerdict) (now : Int)
  | refused (refusal : Refusal)

structure Verifier where
  rows : AssertionRows
  clock : Int
  stages : Nat → Option Stage
  past : List Event

def Verifier.start (clock : Int) : Verifier := ⟨.empty, clock, fun _ => none, []⟩

def Verifier.at (verifier : Verifier) (delivery : Nat) (stage : Option Stage) : Verifier :=
  { verifier with stages := Function.update verifier.stages delivery stage }

variable (platform : ControlPlatform) (config : VerifierConfig)

inductive Step (before : Verifier) : Verifier → Prop where
  | tick (clock : Int) (later : before.clock ≤ clock) : Step before { before with clock := clock }
  | arrive (delivery : Nat) (headers : JsMap JsString JsString) (request : ControlRequest) (fields : CanonicalFields)
      (idle : before.stages delivery = none)
      (passed : authentic platform config headers request = .ok fields) :
      Step before (before.at delivery (some (.inserting fields)))
  | turnAway (headers : JsMap JsString JsString) (request : ControlRequest) (refusal : Refusal)
      (failed : authentic platform config headers request = .error refusal) :
      Step before { before with past := .refused refusal :: before.past }
  /-- The answer of the insertion is heard, and the purge comes next, or it is lost. -/
  | insert (delivery : Nat) (fields : CanonicalFields) (rows : AssertionRows) (heard : Bool)
      (inserting : before.stages delivery = some (.inserting fields))
      (inserted : insertAssertion (recordOf platform config fields) before.clock before.rows = some (some rows)) :
      Step before { before.at delivery (if heard then some .purging else none) with
        rows := rows, past := .recorded fields heard before.clock :: before.past }
  | leave (delivery : Nat) (fields : CanonicalFields) (inserting : before.stages delivery = some (.inserting fields))
      (left : insertAssertion (recordOf platform config fields) before.clock before.rows = some none) :
      Step before (before.at delivery (some (.selecting fields)))
  | purge (delivery : Nat) (rows : AssertionRows) (purging : before.stages delivery = some .purging)
      (purged : Purges before.clock before.rows rows) :
      Step before { before.at delivery none with rows := rows }
  | select (delivery : Nat) (fields : CanonicalFields)
      (selecting : before.stages delivery = some (.selecting fields)) :
      Step before { before.at delivery none with
        past := .answered fields (lookUp (recordOf platform config fields) before.rows) before.clock :: before.past }
  /-- A statement is rejected or does not arrive, or the process dies. -/
  | fail (delivery : Nat) : Step before (before.at delivery none)

inductive Reachable : Verifier → Prop where
  | start (clock : Int) : Reachable (.start clock)
  | step {before after : Verifier} (reached : Reachable before) (taken : Step platform config before after) :
      Reachable after

/-! ## What is guaranteed -/

/-- The payload that was last recorded under a nonce, and when. -/
def latestRecord (nonce : JsString) : List Event → Option (CanonicalFields × Int)
  | [] => none
  | .recorded fields _ now :: past => if fields.nonce = nonce then some (fields, now) else latestRecord nonce past
  | .answered _ _ _ :: past => latestRecord nonce past
  | .refused _ :: past => latestRecord nonce past

/-- The event records these fields. -/
def recordsFields (fields : CanonicalFields) : Event → Bool
  | .recorded other _ _ => other = fields
  | _ => false

/-- The fields that were recorded or looked up. -/
def Presented (past : List Event) (fields : CanonicalFields) : Prop :=
  (∃ heard now, .recorded fields heard now ∈ past) ∨ ∃ verdict now, .answered fields verdict now ∈ past

/-- The payloads of a run have different hashes. -/
def CollisionFree (past : List Event) : Prop :=
  ∀ first second, Presented past first → Presented past second →
    platform.sha256 (canonicalPayload first) = platform.sha256 (canonicalPayload second) →
      canonicalPayload first = canonicalPayload second

/-- The fields of a request that passed the checks of the verifier. -/
def Verified (fields : CanonicalFields) : Prop :=
  ∃ headers request, authentic platform config headers request = .ok fields

theorem insertAssertion_some {record : ReplayRecord} {now : Int} {rows after : AssertionRows}
    (inserted : insertAssertion record now rows = some (some after)) :
    Fresh record now ∧ rows.get? record.nonce = none ∧ after = rows.set record.nonce (rowOf record now) := by
  unfold insertAssertion at inserted
  split at inserted
  · cases inserted
  · split at inserted
    · cases inserted
    · next fresh =>
        split at inserted
        · cases inserted
        · cases found : rows.get? record.nonce with
          | some row =>
              rw [found] at inserted
              cases inserted
          | none =>
              rw [found] at inserted
              cases inserted
              exact ⟨not_not.mp fresh, rfl, rfl⟩

theorem lookUp_ne_firstSeen (record : ReplayRecord) (rows : AssertionRows) : lookUp record rows ≠ .firstSeen := by
  unfold lookUp
  cases rows.get? record.nonce with
  | none =>
      intro same
      cases same
  | some row =>
      dsimp only
      split
      · intro same
        cases same
      · intro same
        cases same

theorem lookUp_replay {record : ReplayRecord} {rows : AssertionRows} (known : lookUp record rows = .replay) :
    ∃ row, rows.get? record.nonce = some row ∧ row.requestDigest = record.digest := by
  unfold lookUp at known
  cases found : rows.get? record.nonce with
  | none =>
      rw [found] at known
      cases known
  | some row =>
      rw [found] at known
      dsimp only at known
      split at known
      · next same => exact ⟨row, rfl, same⟩
      · cases known

theorem lookUp_of_row {record : ReplayRecord} {rows : AssertionRows} {row : AssertionRow}
    (found : rows.get? record.nonce = some row) (same : row.requestDigest = record.digest) :
    lookUp record rows = .replay := by
  unfold lookUp
  rw [found]
  dsimp only
  rw [if_pos same]

theorem Purges.present {now : Int} {before after : AssertionRows} (purged : Purges now before after)
    {nonce : JsString} {row : AssertionRow} (found : after.get? nonce = some row) : before.get? nonce = some row := by
  obtain ⟨gone, -, remaining⟩ := purged.few
  rw [remaining nonce] at found
  split at found
  · cases found
  · exact found

theorem Purges.young {now : Int} {before after : AssertionRows} (purged : Purges now before after)
    {nonce : JsString} {row : AssertionRow} (found : before.get? nonce = some row)
    (young : now ≤ row.firstSeenAt + retentionUs) : after.get? nonce = some row := by
  cases left : after.get? nonce with
  | none =>
      have old := purged.old nonce row found left
      omega
  | some other =>
      have same := purged.present left
      rw [found] at same
      exact same.symm

variable {platform config}

/-- Two recordings of one payload are closer than the retention. -/
theorem fresh_twice {fields : CanonicalFields} {first second : Int}
    (freshFirst : Fresh (recordOf platform config fields) first)
    (freshSecond : Fresh (recordOf platform config fields) second) : second ≤ first + retentionUs := by
  obtain ⟨leastFirst, -⟩ := abs_le.mp freshFirst
  obtain ⟨-, mostSecond⟩ := abs_le.mp freshSecond
  have bound : (recordOf platform config fields).freshnessSeconds ≤ 3600 := config.freshness.2
  unfold retentionUs nonceRetentionDays secondUs
  unfold secondUs at leastFirst mostSecond
  omega

/-- Presented payloads with one digest are the same. -/
theorem CollisionFree.same {past : List Event} (distinct : CollisionFree platform past)
    {first second : CanonicalFields} (presentedFirst : Presented past first) (presentedSecond : Presented past second)
    (digests : (recordOf platform config first).digest = (recordOf platform config second).digest) :
    first = second :=
  canonicalPayload_injective (distinct first second presentedFirst presentedSecond (hexText_injective digests))

theorem CollisionFree.earlier {past : List Event} {event : Event}
    (distinct : CollisionFree platform (event :: past)) : CollisionFree platform past := by
  have kept : ∀ fields, Presented past fields → Presented (event :: past) fields := by
    intro fields presented
    obtain ⟨heard, now, member⟩ | ⟨verdict, now, member⟩ := presented
    · exact .inl ⟨heard, now, List.mem_cons_of_mem _ member⟩
    · exact .inr ⟨verdict, now, List.mem_cons_of_mem _ member⟩
  intro first second presentedFirst presentedSecond digests
  exact distinct first second (kept first presentedFirst) (kept second presentedSecond) digests

/-! ## Latest records -/

theorem latestRecord_mem {nonce : JsString} {past : List Event} {fields : CanonicalFields} {now : Int}
    (latest : latestRecord nonce past = some (fields, now)) :
    (∃ heard, .recorded fields heard now ∈ past) ∧ fields.nonce = nonce := by
  induction past with
  | nil => cases latest
  | cons event past ih =>
      cases event with
      | recorded other heard at_ =>
          rw [latestRecord] at latest
          split at latest
          · next same =>
              cases latest
              exact ⟨⟨heard, List.mem_cons_self ..⟩, same⟩
          · obtain ⟨⟨again, member⟩, same⟩ := ih latest
            exact ⟨⟨again, List.mem_cons_of_mem _ member⟩, same⟩
      | answered other verdict at_ =>
          obtain ⟨⟨again, member⟩, same⟩ := ih latest
          exact ⟨⟨again, List.mem_cons_of_mem _ member⟩, same⟩
      | refused refusal =>
          obtain ⟨⟨again, member⟩, same⟩ := ih latest
          exact ⟨⟨again, List.mem_cons_of_mem _ member⟩, same⟩

/-! ## The invariant -/

/-- An event is justified by what came before it. -/
inductive Justified (platform : ControlPlatform) (config : VerifierConfig) (earlier : List Event) : Event → Prop where
  | recorded (fields : CanonicalFields) (heard : Bool) (now : Int) (verified : Verified platform config fields)
      (fresh : Fresh (recordOf platform config fields) now)
      (unseen : ∀ again recordedAt, .recorded fields again recordedAt ∉ earlier)
      (renewed : ∀ other again recordedAt, .recorded other again recordedAt ∈ earlier → other.nonce = fields.nonce →
        recordedAt + retentionUs < now) :
      Justified platform config earlier (.recorded fields heard now)
  | answered (fields : CanonicalFields) (verdict : ReplayVerdict) (now : Int) (notFirst : verdict ≠ .firstSeen)
      (genuine : verdict = .replay → ∃ recordedAt, latestRecord fields.nonce earlier = some (fields, recordedAt))
      (redelivered : ∀ heard recordedAt, .recorded fields heard recordedAt ∈ earlier →
        now ≤ recordedAt + retentionUs → verdict = .replay) :
      Justified platform config earlier (.answered fields verdict now)
  | refused (refusal : Refusal) : Justified platform config earlier (.refused refusal)

/-- Every event of the past is justified. -/
inductive Lawful (platform : ControlPlatform) (config : VerifierConfig) : List Event → Prop where
  | nil : Lawful platform config []
  | cons {event : Event} {past : List Event} (justified : Justified platform config past event)
      (rest : Lawful platform config past) : Lawful platform config (event :: past)

/-- Every delivery under way passed the checks. -/
def Staged (platform : ControlPlatform) (config : VerifierConfig) (stages : Nat → Option Stage) : Prop :=
  ∀ delivery fields, stages delivery = some (.inserting fields) ∨ stages delivery = some (.selecting fields) →
    Verified platform config fields

structure Tracked (platform : ControlPlatform) (config : VerifierConfig) (verifier : Verifier) : Prop where
  staged : Staged platform config verifier.stages
  rows : ∀ nonce row, verifier.rows.get? nonce = some row → ∃ fields now,
    latestRecord nonce verifier.past = some (fields, now) ∧ row = rowOf (recordOf platform config fields) now
  kept : ∀ fields heard now, .recorded fields heard now ∈ verifier.past → verifier.clock ≤ now + retentionUs →
    verifier.rows.get? fields.nonce = some (rowOf (recordOf platform config fields) now)
  recorded : ∀ fields heard now, .recorded fields heard now ∈ verifier.past →
    now ≤ verifier.clock ∧ Fresh (recordOf platform config fields) now

theorem Staged.update {stages : Nat → Option Stage} (staged : Staged platform config stages) (delivery : Nat)
    {stage : Option Stage} (verified : ∀ fields, stage = some (.inserting fields) ∨ stage = some (.selecting fields) →
      Verified platform config fields) :
    Staged platform config (Function.update stages delivery stage) := by
  intro other fields holds
  by_cases same : other = delivery
  · rw [same, Function.update_self] at holds
    exact verified fields holds
  · rw [Function.update_of_ne same] at holds
    exact staged other fields holds

/-- A delivery leaves, or goes on to its purge. -/
theorem Staged.leave {stages : Nat → Option Stage} (staged : Staged platform config stages) (delivery : Nat)
    (heard : Bool) :
    Staged platform config (Function.update stages delivery (if heard then some .purging else none)) := by
  apply staged.update
  intro fields holds
  cases heard with
  | true => obtain holds | holds := holds <;> cases holds
  | false => obtain holds | holds := holds <;> cases holds

/-- Nothing was recorded under a nonce that has no row, but for what is past its retention. -/
theorem Tracked.forgotten {verifier : Verifier} (tracked : Tracked platform config verifier)
    {fields : CanonicalFields} (free : verifier.rows.get? fields.nonce = none) {other : CanonicalFields}
    {heard : Bool} {recordedAt : Int} (member : .recorded other heard recordedAt ∈ verifier.past)
    (same : other.nonce = fields.nonce) : recordedAt + retentionUs < verifier.clock := by
  by_contra young
  have row := tracked.kept other heard recordedAt member (not_lt.mp young)
  rw [same, free] at row
  cases row

/-- A payload that is fresh and has no row was not recorded. -/
theorem Tracked.unseen {verifier : Verifier} (tracked : Tracked platform config verifier) {fields : CanonicalFields}
    (free : verifier.rows.get? fields.nonce = none)
    (fresh : Fresh (recordOf platform config fields) verifier.clock) (heard : Bool) (recordedAt : Int) :
    .recorded fields heard recordedAt ∉ verifier.past := by
  intro member
  have old := tracked.forgotten free member rfl
  have young := fresh_twice (tracked.recorded fields heard recordedAt member).2 fresh
  omega

theorem Tracked.start (clock : Int) : Tracked platform config (.start clock) where
  staged := by
    intro delivery fields holds
    obtain holds | holds := holds <;> cases holds
  rows := by
    intro nonce row found
    cases found
  kept := by
    intro fields heard now member
    cases member
  recorded := by
    intro fields heard now member
    cases member

/-- An event other than a recording changes no row. -/
theorem Tracked.note {verifier : Verifier} (tracked : Tracked platform config verifier) {event : Event}
    {stages : Nat → Option Stage} (staged : Staged platform config stages)
    (quiet : ∀ fields heard now, event ≠ .recorded fields heard now) :
    Tracked platform config { verifier with stages := stages, past := event :: verifier.past } := by
  have latest : ∀ nonce, latestRecord nonce (event :: verifier.past) = latestRecord nonce verifier.past := by
    intro nonce
    cases event with
    | recorded fields heard now => exact absurd rfl (quiet fields heard now)
    | answered fields verdict now => rfl
    | refused refusal => rfl
  have members : ∀ {fields heard now}, .recorded fields heard now ∈ event :: verifier.past →
      .recorded fields heard now ∈ verifier.past := by
    intro fields heard now member
    exact (List.mem_cons.mp member).resolve_left fun same => quiet fields heard now same.symm
  refine ⟨staged, ?_, ?_, ?_⟩
  · intro nonce row found
    dsimp only
    rw [latest]
    exact tracked.rows nonce row found
  · intro fields heard now member young
    exact tracked.kept fields heard now (members member) young
  · intro fields heard now member
    exact tracked.recorded fields heard now (members member)

theorem Tracked.step {before after : Verifier} (tracked : Tracked platform config before)
    (taken : Step platform config before after) : Tracked platform config after := by
  cases taken with
  | tick clock later =>
      refine ⟨tracked.staged, tracked.rows, ?_, ?_⟩
      · intro fields heard now member young
        exact tracked.kept fields heard now member (le_trans later young)
      · intro fields heard now member
        obtain ⟨earlier, fresh⟩ := tracked.recorded fields heard now member
        exact ⟨le_trans earlier later, fresh⟩
  | arrive delivery headers request fields idle passed =>
      refine ⟨tracked.staged.update delivery ?_, tracked.rows, tracked.kept, tracked.recorded⟩
      intro other holds
      obtain holds | holds := holds
      · cases holds
        exact ⟨headers, request, passed⟩
      · cases holds
  | turnAway headers request refusal failed =>
      exact tracked.note tracked.staged fun _ _ _ => nofun
  | insert delivery fields rows heard inserting inserted =>
      obtain ⟨fresh, free, written⟩ := insertAssertion_some inserted
      change rows = before.rows.set fields.nonce _ at written
      refine ⟨tracked.staged.leave delivery heard, ?_, ?_, ?_⟩
      · intro nonce row found
        by_cases same : fields.nonce = nonce
        · refine ⟨fields, before.clock, ?_, ?_⟩
          · exact if_pos same
          · subst same
            change rows.get? fields.nonce = some row at found
            rw [written, JsMap.get?_set_self] at found
            exact (Option.some.inj found).symm
        · change rows.get? nonce = some row at found
          rw [written, JsMap.get?_set_of_ne _ same] at found
          obtain ⟨other, now, latest, content⟩ := tracked.rows nonce row found
          exact ⟨other, now, (if_neg same).trans latest, content⟩
      · intro other again now member young
        change rows.get? other.nonce = _
        rw [written]
        obtain same | member := List.mem_cons.mp member
        · cases same
          exact JsMap.get?_set_self ..
        · by_cases same : fields.nonce = other.nonce
          · have old := tracked.forgotten free member same.symm
            exact absurd young (not_le.mpr old)
          · rw [JsMap.get?_set_of_ne _ same]
            exact tracked.kept other again now member young
      · intro other again now member
        obtain same | member := List.mem_cons.mp member
        · cases same
          exact ⟨le_refl _, fresh⟩
        · exact tracked.recorded other again now member
  | leave delivery fields inserting left =>
      refine ⟨tracked.staged.update delivery ?_, tracked.rows, tracked.kept, tracked.recorded⟩
      intro other holds
      obtain holds | holds := holds
      · cases holds
      · cases holds
        exact tracked.staged delivery fields (.inl inserting)
  | purge delivery rows purging purged =>
      refine ⟨tracked.staged.leave delivery false, ?_, ?_, tracked.recorded⟩
      · intro nonce row found
        exact tracked.rows nonce row (purged.present found)
      · intro fields heard now member young
        exact purged.young (tracked.kept fields heard now member young) young
  | select delivery fields selecting =>
      exact tracked.note (tracked.staged.leave delivery false) fun _ _ _ => nofun
  | fail delivery =>
      exact ⟨tracked.staged.leave delivery false, tracked.rows, tracked.kept, tracked.recorded⟩

/-! ## Runs -/

theorem answered_justified {before : Verifier} (tracked : Tracked platform config before) {fields : CanonicalFields}
    (distinct : CollisionFree platform
      (.answered fields (lookUp (recordOf platform config fields) before.rows) before.clock :: before.past)) :
    Justified platform config before.past
      (.answered fields (lookUp (recordOf platform config fields) before.rows) before.clock) := by
  refine .answered _ _ _ (lookUp_ne_firstSeen _ _) ?_ ?_
  · intro known
    obtain ⟨row, found, digests⟩ := lookUp_replay known
    obtain ⟨other, now, latest, content⟩ := tracked.rows _ row found
    obtain ⟨⟨heard, member⟩, -⟩ := latestRecord_mem latest
    have same : other = fields := by
      apply distinct.same
      · exact .inl ⟨heard, now, List.mem_cons_of_mem _ member⟩
      · exact .inr ⟨_, _, List.mem_cons_self ..⟩
      · rw [← digests, content]
        rfl
    rw [same] at latest
    exact ⟨now, latest⟩
  · intro heard recordedAt member young
    exact lookUp_of_row (tracked.kept fields heard recordedAt member young) rfl

theorem Lawful.step {before after : Verifier} (tracked : Tracked platform config before)
    (lawful : Lawful platform config before.past) (taken : Step platform config before after)
    (distinct : CollisionFree platform after.past) : Lawful platform config after.past := by
  cases taken with
  | tick clock later => exact lawful
  | arrive delivery headers request fields idle passed => exact lawful
  | turnAway headers request refusal failed => exact .cons (.refused refusal) lawful
  | insert delivery fields rows heard inserting inserted =>
      obtain ⟨fresh, free, -⟩ := insertAssertion_some inserted
      refine .cons (.recorded fields heard before.clock ?_ fresh ?_ ?_) lawful
      · exact tracked.staged delivery fields (.inl inserting)
      · exact tracked.unseen free fresh
      · intro other again recordedAt member same
        exact tracked.forgotten free member same
  | leave delivery fields inserting left => exact lawful
  | purge delivery rows purging purged => exact lawful
  | select delivery fields selecting => exact .cons (answered_justified tracked distinct) lawful
  | fail delivery => exact lawful

theorem past_grows {before after : Verifier} (taken : Step platform config before after)
    (distinct : CollisionFree platform after.past) : CollisionFree platform before.past := by
  cases taken with
  | tick clock later => exact distinct
  | arrive delivery headers request fields idle passed => exact distinct
  | turnAway headers request refusal failed => exact distinct.earlier
  | insert delivery fields rows heard inserting inserted => exact distinct.earlier
  | leave delivery fields inserting left => exact distinct
  | purge delivery rows purging purged => exact distinct
  | select delivery fields selecting => exact distinct.earlier
  | fail delivery => exact distinct

theorem Reachable.tracked {verifier : Verifier} (reached : Reachable platform config verifier) :
    Tracked platform config verifier := by
  induction reached with
  | start clock => exact .start clock
  | step reached taken ih => exact ih.step taken

theorem Reachable.lawful {verifier : Verifier} (reached : Reachable platform config verifier)
    (distinct : CollisionFree platform verifier.past) : Lawful platform config verifier.past := by
  induction reached with
  | start clock => exact .nil
  | step reached taken ih => exact Lawful.step reached.tracked (ih (past_grows taken distinct)) taken distinct

theorem Lawful.split {later : List Event} {event : Event} {earlier : List Event}
    (lawful : Lawful platform config (later ++ event :: earlier)) : Justified platform config earlier event := by
  induction later with
  | nil =>
      cases lawful with
      | cons justified rest => exact justified
  | cons first later ih =>
      cases lawful with
      | cons justified rest => exact ih rest

theorem Lawful.once {past : List Event} (lawful : Lawful platform config past) (fields : CanonicalFields) :
    past.countP (recordsFields fields) ≤ 1 := by
  induction lawful with
  | nil => exact Nat.zero_le 1
  | @cons event past justified rest ih =>
      cases records : recordsFields fields event with
      | false =>
          rw [List.countP_cons_of_neg (by rw [records]; exact Bool.false_ne_true)]
          exact ih
      | true =>
          rw [List.countP_cons_of_pos records]
          have none_before : past.countP (recordsFields fields) = 0 := by
            rw [List.countP_eq_zero]
            intro other member again
            cases justified with
            | recorded mine heard now verified fresh unseen renewed =>
                cases other with
                | recorded theirs heard now =>
                    have mine_same := of_decide_eq_true records
                    have theirs_same := of_decide_eq_true again
                    rw [theirs_same, ← mine_same] at member
                    exact unseen heard now member
                | answered theirs verdict now => cases again
                | refused refusal => cases again
            | answered mine verdict now notFirst genuine redelivered => cases records
            | refused refusal => cases records
          omega

theorem Lawful.recorded {past : List Event} (lawful : Lawful platform config past) {fields : CanonicalFields}
    {heard : Bool} {now : Int} (member : .recorded fields heard now ∈ past) :
    Verified platform config fields ∧ Fresh (recordOf platform config fields) now := by
  obtain ⟨later, earlier, split⟩ := List.append_of_mem member
  rw [split] at lawful
  cases lawful.split with
  | recorded _ _ _ verified fresh unseen renewed => exact ⟨verified, fresh⟩

/-- A platform whose hashes are all zeros. -/
def samplePlatform : ControlPlatform where
  toPlatform := .ascii
  sha256Bytes := fun _ => .ofDigits []
  hmac := fun _ _ => .ofDigits []
  sha256_text := fun _ => rfl

def sampleKey : JsString := List.replicate 32 (75 : UInt16)

theorem sampleKeys_valid (keyId key : JsString) (found : (JsMap.empty.set (js "k1") sampleKey).get? keyId = some key) :
    isKeyId keyId = true ∧ minSigningKeyLength ≤ key.length := by
  by_cases same : js "k1" = keyId
  · subst same
    rw [JsMap.get?_set_self] at found
    cases found
    exact ⟨by decide, by decide⟩
  · rw [JsMap.get?_set_of_ne _ same] at found
    cases found

def sampleConfig : VerifierConfig where
  keys := JsMap.empty.set (js "k1") sampleKey
  tenantId := js "tenant"
  principalId := ⟨js "0b1c2d3e-1111-4111-8111-111111111138", by decide⟩
  freshnessSeconds := 300
  keysValid := sampleKeys_valid
  keysPresent := by decide
  freshness := by decide

def sampleFields : CanonicalFields where
  keyId := js "k1"
  service := js "KernelWorkflowV1"
  handler := js "run"
  key := js "task"
  tenantId := js "tenant"
  principalId := js "0b1c2d3e-1111-4111-8111-111111111138"
  scopeDigest := []
  decision := []
  bodySha256 := List.replicate 64 48
  issuedAt := js "1000"
  nonce := List.replicate 22 65

def sampleRequest : ControlRequest where
  service := js "KernelWorkflowV1"
  handler := js "run"
  key := js "task"
  body := .text (js "\x7b\x7d")

def sampleRow : AssertionRow :=
  rowOf (recordOf samplePlatform sampleConfig sampleFields) 1000000000

end KernelJson.Control.Replay
