import KernelJson.Alerting.Engine

/-!
# One outbox row for every announced decision

Over a run of the engine no two decisions are about the same moment of the same
episode, so their notifications have different identifiers, and the outbox holds
one row for each of them.
-/

namespace KernelJson.Alerting.Notifications

open Alerting.Engine
open Alerting.Outbox
open Alerting.OutboxStores
open Alerting.Policy
open Alerting.Reducer
open Contracts.Platform
open Foundation
open Foundation.JsText
open Scheduler.CivilTime

/-! ## Decisions of a run -/

section Histories

variable (platform : Platform)

/-- The decisions of the committed evaluations, the latest evaluation first. -/
def emitted (past : List Attempt) : List AlertDecision :=
  past.flatMap (decisions platform)

/-- The intents of the decisions to announce. -/
def announced (past : List Attempt) : List NotificationIntent :=
  past.flatMap (intents platform)

end Histories

/-- Two decisions about the same moment of an episode of a check. -/
def SameMoment (first second : AlertDecision) : Prop :=
  first.checkId = second.checkId ∧ first.firstSeenAt = second.firstSeenAt ∧ first.kind = second.kind ∧
    first.occurrenceCount = second.occurrenceCount

/-! ## One decision -/

section Step

variable {platform : Platform} {past : List Attempt} {store : AlertStore} {attempt : Attempt}

/-- What a decision says about the row that it was made of, and about the row that it leaves. -/
inductive Decided (platform : Platform) (attempt : Attempt) (check : CheckResult) (decision : AlertDecision)
    (next : AlertStateRow) : Option AlertStateRow → Prop where
  | started {existing : Option AlertStateRow} : decision.kind = .new → decision.firstSeenAt = attempt.now →
      decision.occurrenceCount = next.occurrenceCount → Decided platform attempt check decision next existing
  | recovered (row : AlertStateRow) : decision.kind = .recovered → row.currentState = .opened →
      decision.firstSeenAt = row.firstSeenAt → decision.occurrenceCount = next.occurrenceCount →
      next.currentState = .recovered → Decided platform attempt check decision next (some row)
  | changed (row : AlertStateRow) : decision.kind ≠ .recovered → decision.firstSeenAt = row.firstSeenAt →
      decision.occurrenceCount = row.occurrenceCount + 1 → decision.occurrenceCount = next.occurrenceCount →
      Decided platform attempt check decision next (some row)

/-- A decision comes with a row of the same check and the same episode. -/
theorem decided_of_reduction {check : CheckResult} {decision : AlertDecision}
    (made : (reduction platform attempt check).2 = some decision) :
    ∃ next, (reduction platform attempt check).1 = some next ∧
      decision.checkId = check.id ∧ decision.fingerprint = lookupKey platform attempt check.id ∧
      decision.firstSeenAt = next.firstSeenAt ∧
      Decided platform attempt check decision next (existingFor platform attempt check) := by
  have step := reduced platform (resolvePolicy check.id) check attempt.canonicalScheduleId attempt.now
    (existingFor platform attempt check)
  unfold reduction reduceCheck at made ⊢
  generalize reduceUnder platform (resolvePolicy check.id) check attempt.canonicalScheduleId attempt.now
    (existingFor platform attempt check) = outcome at step made
  cases step with
  | quiet healthy closed => cases made
  | recovered row healthy stored opened =>
      cases made
      rw [stored]
      exact ⟨_, rfl, rfl, rfl, rfl, .recovered row rfl opened rfl rfl rfl⟩
  | started severity alerts closed =>
      cases made
      exact ⟨_, rfl, rfl, rfl, rfl, .started rfl rfl rfl⟩
  | continued row severity alerts stored opened =>
      rw [stored]
      refine ⟨_, rfl, ?_⟩
      rcases continueEpisode_decision platform (resolvePolicy check.id) check attempt.canonicalScheduleId
        attempt.now row severity with ⟨quiet, -⟩ | ⟨here, kinds⟩
      · cases quiet.symm.trans made
      · cases here.symm.trans made
        refine ⟨rfl, rfl, rfl, .changed row ?_ rfl rfl rfl⟩
        rcases kinds with ⟨kind, -⟩ | ⟨kind, -⟩
        · exact fun impossible => by cases kind.symm.trans impossible
        · exact fun impossible => by cases kind.symm.trans impossible

theorem mem_decisions {decision : AlertDecision} :
    decision ∈ decisions platform attempt ↔
      ∃ check ∈ attempt.report.checks, (reduction platform attempt check).2 = some decision := by
  rw [decisions, List.mem_filterMap]

/-- A row that is written starts an episode now, or goes on with a stored one. -/
theorem nextRow_origin (keyed : Keyed platform past store)
    (listed : attempt.listing.Perm store.alertState.values)
    (separates : Separates platform (FingerprintTexts (attempt :: past))) {next : AlertStateRow}
    (member : next ∈ nextRows platform attempt) :
    next.firstSeenAt = attempt.now ∨
      ∃ row, store.alertState.get? next.fingerprint = some row ∧ row.checkId = next.checkId ∧
        row.firstSeenAt = next.firstSeenAt ∧ row.occurrenceCount ≤ next.occurrenceCount ∧
        (row.currentState = .recovered → next.currentState = .recovered) := by
  obtain ⟨check, inside, made⟩ := mem_nextRows.mp member
  have progress := nextRow_of_reduction made
  cases existing : existingFor platform attempt check with
  | none =>
      rw [existing] at progress
      cases progress with
      | started _ _ _ _ _ _ opening => exact Or.inl opening
  | some row =>
      obtain ⟨-, stored, -⟩ := existingFor_some keyed listed separates inside existing
      rw [existing] at progress
      cases progress with
      | kept _ _ => exact Or.inr ⟨_, stored, rfl, rfl, Nat.le_refl _, id⟩
      | changed _ _ opened fingerprint checkId _ opening occurrences =>
          refine Or.inr ⟨row, fingerprint ▸ stored, checkId.symm, opening.symm, occurrences, ?_⟩
          intro ended
          rw [opened] at ended
          cases ended
      | started _ _ _ _ _ _ opening => exact Or.inl opening

end Step

/-! ## Episodes of a run -/

/-- Stored rows tell episodes apart, and are ahead of every decision about their episode. -/
structure Ahead (platform : Platform) (past : List Attempt) (store : AlertStore) : Prop where
  opening : ∀ key row, store.alertState.get? key = some row → ∃ attempt ∈ past, row.firstSeenAt = attempt.now
  unique : ∀ key other first second, store.alertState.get? key = some first →
    store.alertState.get? other = some second → first.checkId = second.checkId →
    first.firstSeenAt = second.firstSeenAt → first = second
  decided : ∀ decision ∈ emitted platform past, ∃ attempt ∈ past, decision.firstSeenAt = attempt.now
  behind : ∀ decision ∈ emitted platform past, ∀ key row, store.alertState.get? key = some row →
    row.checkId = decision.checkId → row.firstSeenAt = decision.firstSeenAt →
      decision.occurrenceCount ≤ row.occurrenceCount ∧ (decision.kind = .recovered → row.currentState = .recovered)
  distinct : (emitted platform past).Pairwise fun first second => ¬ SameMoment first second

section Commit

variable {platform : Platform} {past : List Attempt} {store after : AlertStore} {attempt : Attempt}

/-- A stored row after a commit was written now, or stood before and was not replaced. -/
theorem Ahead.unique_committed (ahead : Ahead platform past store) (keyed : Keyed platform past store)
    (listed : attempt.listing.Perm store.alertState.values)
    (separates : Separates platform (FingerprintTexts (attempt :: past)))
    (later : ∀ earlier ∈ past, earlier.now < attempt.now)
    (done : putAll (nextRows platform attempt) (intents platform attempt) store = some after)
    {key other : JsString} {first second : AlertStateRow} (one : after.alertState.get? key = some first)
    (two : after.alertState.get? other = some second) (checks : first.checkId = second.checkId)
    (openings : first.firstSeenAt = second.firstSeenAt) : first = second := by
  have mixed : ∀ (key : JsString) {other : JsString} {next old : AlertStateRow}, next ∈ nextRows platform attempt →
      store.alertState.get? other = some old → (∀ next ∈ nextRows platform attempt, next.fingerprint ≠ other) →
      next.checkId = old.checkId → next.firstSeenAt = old.firstSeenAt → False := by
    intro key other next old member stored absent sameCheck sameOpening
    rcases nextRow_origin keyed listed separates member with now | ⟨row, here, rowCheck, rowOpening, -, -⟩
    · obtain ⟨earlier, inside, was⟩ := ahead.opening other old stored
      have before := later earlier inside
      rw [← was, ← sameOpening, now] at before
      exact absurd before (lt_irrefl _)
    · have same := ahead.unique _ _ row old here stored (rowCheck.trans sameCheck) (rowOpening.trans sameOpening)
      have named := (keyed _ _ stored).1
      have rowNamed := (keyed _ _ here).1
      rw [same, named] at rowNamed
      exact absent next member rowNamed.symm
  rcases (committed_rows keyed listed separates done key first).mp one with ⟨memberFirst, -⟩ | ⟨oldFirst, absentFirst⟩
  · rcases (committed_rows keyed listed separates done other second).mp two with
      ⟨memberSecond, -⟩ | ⟨oldSecond, absentSecond⟩
    · obtain ⟨check, inside, made⟩ := mem_nextRows.mp memberFirst
      obtain ⟨checkSecond, insideSecond, madeSecond⟩ := mem_nextRows.mp memberSecond
      have firstId := (nextRow_valid keyed listed separates inside made).1
      have secondId := (nextRow_valid keyed listed separates insideSecond madeSecond).1
      have sameCheck : check = checkSecond :=
        List.inj_on_of_nodup_map attempt.report.distinct inside insideSecond
          (firstId.symm.trans (checks.trans secondId))
      rw [sameCheck] at made
      exact Option.some.inj (made.symm.trans madeSecond)
    · exact (mixed key memberFirst oldSecond absentSecond checks openings).elim
  · rcases (committed_rows keyed listed separates done other second).mp two with
      ⟨memberSecond, -⟩ | ⟨oldSecond, -⟩
    · exact (mixed key memberSecond oldFirst absentFirst checks.symm openings.symm).elim
    · exact ahead.unique _ _ first second oldFirst oldSecond checks openings

/-- The row that a decision leaves is stored by the commit. -/
theorem stored_of_decision (keyed : Keyed platform past store)
    (listed : attempt.listing.Perm store.alertState.values)
    (separates : Separates platform (FingerprintTexts (attempt :: past)))
    (done : putAll (nextRows platform attempt) (intents platform attempt) store = some after)
    {check : CheckResult} (member : check ∈ attempt.report.checks) {next : AlertStateRow}
    (made : (reduction platform attempt check).1 = some next) :
    after.alertState.get? next.fingerprint = some next :=
  (committed_rows keyed listed separates done next.fingerprint next).mpr
    (Or.inl ⟨mem_nextRows.mpr ⟨check, member, made⟩, rfl⟩)

/-- A decision is about a later moment than every decision committed before. -/
theorem Ahead.new_moment (ahead : Ahead platform past store) (keyed : Keyed platform past store)
    (listed : attempt.listing.Perm store.alertState.values)
    (separates : Separates platform (FingerprintTexts (attempt :: past)))
    (later : ∀ earlier ∈ past, earlier.now < attempt.now) {decision earlier : AlertDecision}
    (made : decision ∈ decisions platform attempt) (before : earlier ∈ emitted platform past) :
    ¬ SameMoment decision earlier := by
  rintro ⟨checks, openings, kinds, occurrences⟩
  obtain ⟨check, member, reduced⟩ := mem_decisions.mp made
  obtain ⟨next, -, named, -, -, decided⟩ := decided_of_reduction reduced
  cases existing : existingFor platform attempt check with
  | none =>
      rw [existing] at decided
      cases decided with
      | started _ now _ =>
          obtain ⟨other, inside, was⟩ := ahead.decided earlier before
          have order := later other inside
          rw [← was, ← openings, now] at order
          exact absurd order (lt_irrefl _)
  | some row =>
      obtain ⟨rowCheck, stored, -⟩ := existingFor_some keyed listed separates member existing
      rw [existing] at decided
      cases decided with
      | started _ now _ =>
          obtain ⟨other, inside, was⟩ := ahead.decided earlier before
          have order := later other inside
          rw [← was, ← openings, now] at order
          exact absurd order (lt_irrefl _)
      | recovered _ kind opened opening _ _ =>
          have ended := (ahead.behind earlier before _ row stored (rowCheck.trans (named.symm.trans checks))
            (opening.symm.trans openings)).2 (kinds.symm.trans kind)
          rw [opened] at ended
          cases ended
      | changed _ _ opening count _ =>
          have bound := (ahead.behind earlier before _ row stored (rowCheck.trans (named.symm.trans checks))
            (opening.symm.trans openings)).1
          omega

/-- A commit keeps the stored rows ahead of every decision. -/
theorem Ahead.committed (ahead : Ahead platform past store) (keyed : Keyed platform past store)
    (listed : attempt.listing.Perm store.alertState.values)
    (separates : Separates platform (FingerprintTexts (attempt :: past)))
    (later : ∀ earlier ∈ past, earlier.now < attempt.now)
    (done : putAll (nextRows platform attempt) (intents platform attempt) store = some after) :
    Ahead platform (attempt :: past) after := by
  have split : emitted platform (attempt :: past) = decisions platform attempt ++ emitted platform past := rfl
  have openingOf : ∀ key row, after.alertState.get? key = some row →
      ∃ earlier ∈ attempt :: past, row.firstSeenAt = earlier.now := by
    intro key row stored
    rcases (committed_rows keyed listed separates done key row).mp stored with ⟨member, -⟩ | ⟨old, -⟩
    · rcases nextRow_origin keyed listed separates member with now | ⟨before, here, -, opening, -, -⟩
      · exact ⟨attempt, List.mem_cons_self, now⟩
      · obtain ⟨earlier, inside, was⟩ := ahead.opening _ before here
        exact ⟨earlier, List.mem_cons_of_mem _ inside, opening ▸ was⟩
    · obtain ⟨earlier, inside, was⟩ := ahead.opening key row old
      exact ⟨earlier, List.mem_cons_of_mem _ inside, was⟩
  have uniqueOf : ∀ key other first second, after.alertState.get? key = some first →
      after.alertState.get? other = some second → first.checkId = second.checkId →
      first.firstSeenAt = second.firstSeenAt → first = second :=
    fun _ _ _ _ one two checks openings =>
      ahead.unique_committed keyed listed separates later done one two checks openings
  refine ⟨openingOf, uniqueOf, ?_, ?_, ?_⟩
  · intro decision member
    rw [split] at member
    rcases List.mem_append.mp member with made | before
    · obtain ⟨check, inside, reduced⟩ := mem_decisions.mp made
      obtain ⟨next, nextMade, -, -, opening, -⟩ := decided_of_reduction reduced
      rw [opening]
      exact openingOf _ next (stored_of_decision keyed listed separates done inside nextMade)
    · obtain ⟨earlier, inside, was⟩ := ahead.decided decision before
      exact ⟨earlier, List.mem_cons_of_mem _ inside, was⟩
  · intro decision member key row stored checks openings
    rw [split] at member
    rcases List.mem_append.mp member with made | before
    · obtain ⟨check, inside, reduced⟩ := mem_decisions.mp made
      obtain ⟨next, nextMade, named, -, opening, decided⟩ := decided_of_reduction reduced
      have nextStored := stored_of_decision keyed listed separates done inside nextMade
      have nextCheck := (nextRow_valid keyed listed separates inside nextMade).1
      have same := uniqueOf _ _ row next stored nextStored (checks.trans (named.trans nextCheck.symm))
        (openings.trans opening)
      rw [same]
      generalize existingFor platform attempt check = existing at decided
      cases decided with
      | started kind _ count => exact ⟨count.le, fun impossible => by cases kind.symm.trans impossible⟩
      | recovered _ _ _ _ count ended => exact ⟨count.le, fun _ => ended⟩
      | changed _ kind _ _ count => exact ⟨count.le, fun impossible => absurd impossible kind⟩
    · rcases (committed_rows keyed listed separates done key row).mp stored with ⟨inside, -⟩ | ⟨old, -⟩
      · rcases nextRow_origin keyed listed separates inside with now | ⟨other, here, rowCheck, rowOpening, count, ended⟩
        · obtain ⟨earlier, among, was⟩ := ahead.decided decision before
          have order := later earlier among
          rw [← was, ← openings, now] at order
          exact absurd order (lt_irrefl _)
        · obtain ⟨bound, closed⟩ := ahead.behind decision before _ other here (rowCheck.trans checks)
            (rowOpening.trans openings)
          exact ⟨bound.trans count, fun kind => ended (closed kind)⟩
      · exact ahead.behind decision before key row old checks openings
  · rw [split]
    refine List.pairwise_append.mpr ⟨?_, ahead.distinct, ?_⟩
    · have ids : attempt.report.checks.Pairwise fun first second => first.id ≠ second.id :=
        List.pairwise_map.mp attempt.report.distinct
      refine List.pairwise_filterMap.mpr (ids.imp ?_)
      intro first second different decision made other otherMade same
      obtain ⟨-, -, named, -⟩ := decided_of_reduction made
      obtain ⟨-, -, otherNamed, -⟩ := decided_of_reduction otherMade
      exact different (named.symm.trans (same.1.trans otherNamed))
    · exact fun decision made earlier before =>
        ahead.new_moment keyed listed separates later made before

end Commit

end KernelJson.Alerting.Notifications
