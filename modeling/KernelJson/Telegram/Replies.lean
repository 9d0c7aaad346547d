import KernelJson.Telegram.DailyCap

/-!
# The reply that stands

A reply is queued once only, and before the row of its update is closed.  A
handling that is cut off between the two is done again, on what the inbox and
the ports say then.  The reply that stands tells what is recorded as long as the
later handling passes the same gates as the one that queued it.
-/

namespace KernelJson.Telegram.Replies

open Alerting.Engine
open Alerting.Outbox
open Alerting.OutboxStores
open Contracts
open Contracts.Common
open Foundation
open Foundation.JsText
open Telegram.Commands
open Telegram.DailyCap
open Telegram.Handling
open Telegram.Operator

variable {config : Config}

/-! ## The gates of a handling -/

/-- The two sights pass the same gates: the rate limit, and for a mission the daily cap and the door. -/
structure SameGates (config : Config) (command : Command) (first second : Sight) : Prop where
  limited : first.limited = second.limited
  capped : command.kind = .mission →
    (config.limits.dailyMissionCap ≤ first.used ↔ config.limits.dailyMissionCap ≤ second.used)
  door : command.kind = .mission → first.limited = false → first.used < config.limits.dailyMissionCap →
    ((∃ taskId, first.door = some (.ok taskId)) ↔ ∃ taskId, second.door = some (.ok taskId))

/-- What a door without a yes leads to. -/
theorem respond_refused (config : Config) (kind : MissionKind) (repo : Objective.RepoSlug) (findings : Option Nat)
    {sight : Sight} (limited : sight.limited = false) (room : sight.used < config.limits.dailyMissionCap)
    (refused : ¬ ∃ taskId, sight.door = some (.ok taskId)) :
    (respond config (.mission kind repo findings) sight).disposition = .admissionFailed ∧
      (respond config (.mission kind repo findings) sight).taskId = none := by
  unfold respond
  rw [limited, if_neg Bool.false_ne_true]
  dsimp only
  rw [if_neg (Nat.not_le.mpr room)]
  cases answered : sight.door with
  | none => exact ⟨rfl, rfl⟩
  | some result =>
      cases result with
      | ok taskId => exact absurd ⟨taskId, answered⟩ refused
      | failed reason => exact ⟨rfl, rfl⟩

/-- Two handlings that pass the same gates end in the same way. -/
theorem SameGates.respond {command : Command} {first second : Sight} (same : SameGates config command first second)
    (tasks : ∀ one other, first.door = some (.ok one) → second.door = some (.ok other) → one = other) :
    (respond config command first).disposition = (respond config command second).disposition ∧
      (respond config command first).taskId = (respond config command second).taskId := by
  cases limited : first.limited with
  | true =>
      have again : second.limited = true := same.limited.symm.trans limited
      simp [Operator.respond, limited, again]
  | false =>
      have again : second.limited = false := same.limited.symm.trans limited
      cases command with
      | mission kind repo findings =>
          have capped := same.capped rfl
          by_cases full : config.limits.dailyMissionCap ≤ first.used
          · have still := capped.mp full
            simp [Operator.respond, limited, again, full, still, Answer.of]
          · have room : ¬ config.limits.dailyMissionCap ≤ second.used := fun still => full (capped.mpr still)
            have door := same.door rfl limited (Nat.not_le.mp full)
            by_cases accepted : ∃ taskId, first.door = some (.ok taskId)
            · obtain ⟨taskId, yes⟩ := accepted
              obtain ⟨other, yesAgain⟩ := door.mp ⟨taskId, yes⟩
              cases tasks taskId other yes yesAgain
              simp [Operator.respond, limited, again, full, room, yes, yesAgain]
            · have refused : ¬ ∃ taskId, second.door = some (.ok taskId) := fun yes => accepted (door.mpr yes)
              have one := respond_refused config kind repo findings limited (Nat.not_le.mp full) accepted
              have other := respond_refused config kind repo findings again (Nat.not_le.mp room) refused
              exact ⟨one.1.trans other.1.symm, one.2.trans other.2.symm⟩
      | _ => simp [Operator.respond, limited, again, Answer.of, memoryAnswer]

/-! ## Convergence -/

/-- The notification is the reply of a handling of the update that ended as its row spoken. -/
def Tells (config : Config) (operator : Operator) (updateId : Nat) (command : Command) (row : InboxRow)
    (queued : NotificationOutboxRow) : Prop :=
  ∃ sight reply, .spoke updateId sight ∈ operator.past ∧
    row.disposition = some (respond config command sight).disposition ∧
    row.taskId = (respond config command sight).taskId ∧
    (respond config command sight).reply = some reply ∧ queued.message = renderReply reply

/-- The reply that stands for a command whose handling is recorded tells what is recorded. -/
def Converged (config : Config) (operator : Operator) : Prop :=
  ∀ updateId text date row, IsCommand config updateId text date → operator.inbox.rows.get? updateId = some row →
    row.state = .done → ∀ queued ∈ operator.outbox.all, queued.checkId = operatorReplyCheckId updateId →
      Tells config operator updateId (parseCommand config.platform text) row queued

/-- The sight passes the gates of every handling of the update that had a reply. -/
def Follows (config : Config) (past : List Event) (updateId : Nat) (command : Command) (sight : Sight) : Prop :=
  ∀ earlier reply, .spoke updateId earlier ∈ past → (respond config command earlier).reply = some reply →
    SameGates config command earlier sight

/-- A handling that comes to its reply passes the gates of those that came there before it. -/
def Steady (config : Config) (before after : Operator) : Prop :=
  ∀ poll handling sight replyId, before.phase = .replying poll handling sight →
    after.phase = .closing poll handling sight replyId →
    Follows config before.past handling.updateId (handling.command config) sight

inductive SteadyRun (config : Config) : Operator → Prop where
  | start (clock : Int) : SteadyRun config (.start clock)
  | step {before after : Operator} (run : SteadyRun config before) (taken : Step config before after)
      (steady : Steady config before after) : SteadyRun config after

/-! ## The invariant -/

/-- The row spoken what the handling of this sight came to. -/
structure ClosedBy (config : Config) (operator : Operator) (updateId : Nat) (command : Command) (row : InboxRow)
    (sight : Sight) : Prop where
  spoke : .spoke updateId sight ∈ operator.past
  disposition : row.disposition = some (respond config command sight).disposition
  taskId : row.taskId = (respond config command sight).taskId
  follows : Follows config operator.past updateId command sight

structure Told (config : Config) (operator : Operator) : Prop where
  inHand : ∀ handling, Phase.handling? operator.phase = some handling →
    IsCommand config handling.updateId handling.text handling.date ∧
      ∃ row, operator.inbox.rows.get? handling.updateId = some row ∧ row.state = .received
  spoken : ∀ updateId sight taskId, .spoke updateId sight ∈ operator.past → sight.door = some (.ok taskId) →
    operator.door.get? (idempotencyKeyFor updateId) = some taskId
  settled : ∀ handling sight taskId, Phase.settled? operator.phase = some (handling, sight) →
    sight.door = some (.ok taskId) → operator.door.get? (idempotencyKeyFor handling.updateId) = some taskId
  replies : ∀ id queued, operator.outbox.get? id = some queued → ∃ updateId text date sight reply,
    queued.checkId = operatorReplyCheckId updateId ∧ IsCommand config updateId text date ∧
      .spoke updateId sight ∈ operator.past ∧
      (respond config (parseCommand config.platform text) sight).reply = some reply ∧
      queued.message = renderReply reply
  closing : ∀ poll handling sight replyId, operator.phase = .closing poll handling sight replyId →
    .spoke handling.updateId sight ∈ operator.past ∧
      Follows config operator.past handling.updateId (handling.command config) sight
  closed : ∀ updateId text date row, IsCommand config updateId text date →
    operator.inbox.rows.get? updateId = some row → row.state = .done →
      ∃ sight, ClosedBy config operator updateId (parseCommand config.platform text) row sight

theorem Told.start (clock : Int) : Told config (.start clock) where
  inHand := fun _ found => nomatch found
  spoken := fun _ _ _ member => absurd member List.not_mem_nil
  settled := fun _ _ _ found => nomatch found
  replies := fun _ _ found => nomatch found
  closing := fun _ _ _ _ found => nomatch found
  closed := fun _ _ _ _ _ found => nomatch found

/-- The door keeps the task of a key. -/
theorem get?_admitTask {door : JsMap JsString Id} {updateId : Nat} {taskId : Id} {key : JsString} {held : Id}
    (found : door.get? key = some held) : (admitTask door updateId taskId).get? key = some held := by
  unfold admitTask
  split
  · exact found
  · next absent =>
      rw [JsMap.get?_set, if_neg]
      · exact found
      · intro same
        rw [same, found] at absent
        cases absent

theorem door_step {before after : Operator} (taken : Step config before after) {key : JsString} {taskId : Id}
    (found : before.door.get? key = some taskId) : after.door.get? key = some taskId := by
  cases taken with
  | doorTakes updateId other sent => exact get?_admitTask found
  | _ => exact found

/-- A step other than a reply adds no word to an update. -/
theorem spoke_step {before after : Operator} (taken : Step config before after) {updateId : Nat} {sight : Sight}
    (member : .spoke updateId sight ∈ after.past) : .spoke updateId sight ∈ before.past ∨
      ∃ poll handling, before.phase = .replying poll handling sight ∧ handling.updateId = updateId ∧
        after.phase = .closing poll handling sight (handling.replyId config sight) := by
  cases taken with
  | speak poll handling seen replies =>
      rcases List.mem_cons.mp member with same | earlier
      · cases same
        exact .inr ⟨poll, handling, replies, rfl, rfl⟩
      · exact .inl earlier
  | claim poll other rest text date now polls head new command later undone =>
      rcases List.mem_cons.mp member with same | earlier
      · cases same
      · exact .inl earlier
  | finish poll polls ended =>
      rcases List.mem_cons.mp member with same | earlier
      · cases same
      · exact .inl earlier
  | _ => exact .inl member

/-- What a sight follows, it still follows where no word was added. -/
theorem Follows.kept {past later : List Event} {updateId : Nat} {command : Command} {sight : Sight}
    (follows : Follows config past updateId command sight)
    (same : ∀ earlier, .spoke updateId earlier ∈ later → .spoke updateId earlier ∈ past) :
    Follows config later updateId command sight :=
  fun earlier reply member spoken => follows earlier reply (same earlier member) spoken

namespace Told

variable {before after : Operator}

theorem inHand_step (holds : Told config before) (taken : Step config before after) (handling : Handling)
    (inHand : Phase.handling? after.phase = some handling) :
    IsCommand config handling.updateId handling.text handling.date ∧
      ∃ row, after.inbox.rows.get? handling.updateId = some row ∧ row.state = .received := by
  cases taken with
  | claim poll updateId rest text date now polls head new command later undone =>
      cases inHand
      refine ⟨command, before.inbox.claimed updateId now, ?_, ?_⟩
      · show (before.inbox.claim updateId now).rows.get? updateId = _
        rw [Inbox.get?_claim, if_pos rfl]
      · unfold Inbox.claimed
        cases stood : before.inbox.rows.get? updateId with
        | none => rfl
        | some old => exact undone old stood
  | decide poll other read claims settles => exact holds.inHand handling (by rw [claims]; exact inHand)
  | ask poll other read claims asks => exact holds.inHand handling (by rw [claims]; exact inHand)
  | doorTakes updateId taskId sent => exact holds.inHand handling inHand
  | accept poll other sight taskId asks admitted => exact holds.inHand handling (by rw [asks]; exact inHand)
  | fail poll other sight reason asks => exact holds.inHand handling (by rw [asks]; exact inHand)
  | speak poll other sight replies => exact holds.inHand handling (by rw [replies]; exact inHand)
  | deliver outbox same => exact holds.inHand handling inHand
  | _ => cases inHand

theorem spoken_step (holds : Told config before) (taken : Step config before after) (updateId : Nat) (sight : Sight)
    (taskId : Id) (member : .spoke updateId sight ∈ after.past) (accepted : sight.door = some (.ok taskId)) :
    after.door.get? (idempotencyKeyFor updateId) = some taskId := by
  rcases spoke_step taken member with earlier | ⟨poll, handling, replies, rfl, -⟩
  · exact door_step taken (holds.spoken updateId sight taskId earlier accepted)
  · exact door_step taken (holds.settled handling sight taskId (by rw [replies]; rfl) accepted)

theorem settled_step (holds : Told config before) (taken : Step config before after) (handling : Handling)
    (sight : Sight) (taskId : Id) (settled : Phase.settled? after.phase = some (handling, sight))
    (accepted : sight.door = some (.ok taskId)) :
    after.door.get? (idempotencyKeyFor handling.updateId) = some taskId := by
  cases taken with
  | decide poll other read claims settles =>
      cases settled
      cases accepted
  | doorTakes updateId other sent => exact get?_admitTask (holds.settled handling sight taskId settled accepted)
  | accept poll other seen held asks admitted =>
      cases settled
      cases accepted
      exact admitted
  | fail poll other seen reason asks =>
      cases settled
      cases accepted
  | speak poll other seen replies =>
      cases settled
      exact holds.settled handling sight taskId (by rw [replies]; rfl) accepted
  | deliver outbox same => exact holds.settled handling sight taskId settled accepted
  | _ => cases settled

theorem past_kept (taken : Step config before after) {event : Event} (member : event ∈ before.past) :
    event ∈ after.past := by
  cases taken with
  | claim poll other rest text date now polls head new command later undone => exact .tail _ member
  | speak poll handling seen replies => exact .tail _ member
  | finish poll polls ended => exact .tail _ member
  | _ => exact member

theorem replies_step (holds : Told config before) (taken : Step config before after) (id : JsString)
    (queued : NotificationOutboxRow) (found : after.outbox.get? id = some queued) : ∃ updateId text date sight reply,
      queued.checkId = operatorReplyCheckId updateId ∧ IsCommand config updateId text date ∧
        .spoke updateId sight ∈ after.past ∧
        (respond config (parseCommand config.platform text) sight).reply = some reply ∧
        queued.message = renderReply reply := by
  have kept : before.outbox.get? id = some queued → ∃ updateId text date sight reply,
      queued.checkId = operatorReplyCheckId updateId ∧ IsCommand config updateId text date ∧
        .spoke updateId sight ∈ after.past ∧
        (respond config (parseCommand config.platform text) sight).reply = some reply ∧
        queued.message = renderReply reply := by
    intro earlier
    obtain ⟨updateId, text, date, sight, reply, check, command, spoke, rest⟩ := holds.replies id queued earlier
    exact ⟨updateId, text, date, sight, reply, check, command, past_kept taken spoke, rest⟩
  cases taken with
  | speak poll handling sight replies =>
      have command := (holds.inHand handling (by rw [replies]; rfl)).1
      change (handling.speak config sight before.outbox).get? id = some queued at found
      unfold Handling.speak at found
      split at found
      · exact kept found
      · next reply spoken =>
          rw [get?_enqueueReply] at found
          split at found
          · cases found
            exact ⟨handling.updateId, handling.text, handling.date, sight, reply, rfl, command, .head _, spoken, rfl⟩
          · exact kept found
  | deliver outbox same =>
      have intents := same id
      rw [found] at intents
      obtain ⟨old, stood, unchanged⟩ := Option.map_eq_some_iff.mp intents.symm
      obtain ⟨updateId, text, date, sight, reply, check, command, spoke, spoken, message⟩ := holds.replies id old stood
      refine ⟨updateId, text, date, sight, reply, ?_, command, spoke, spoken, ?_⟩
      · exact (congrArg (fun intent : NotificationIntent => intent.checkId) unchanged).symm.trans check
      · exact (congrArg (fun intent : NotificationIntent => intent.message) unchanged).symm.trans message
  | _ => exact kept found

theorem closing_step (holds : Told config before) (taken : Step config before after) (steady : Steady config before after)
    (poll : Poll) (handling : Handling) (sight : Sight) (replyId : Option JsString)
    (closes : after.phase = .closing poll handling sight replyId) : .spoke handling.updateId sight ∈ after.past ∧
      Follows config after.past handling.updateId (handling.command config) sight := by
  have sameGates := steady poll handling sight replyId
  cases taken with
  | speak earlier other seen replies =>
      cases closes
      refine ⟨.head _, ?_⟩
      intro early reply member spoken
      rcases List.mem_cons.mp member with same | before
      · cases same
        exact ⟨rfl, fun _ => Iff.rfl, fun _ _ _ => Iff.rfl⟩
      · exact sameGates replies rfl early reply before spoken
  | doorTakes updateId taskId sent => exact holds.closing poll handling sight replyId closes
  | deliver outbox same => exact holds.closing poll handling sight replyId closes
  | _ => cases closes

/-- A step closes no row but that of the command in hand, and spoken nothing of the update of a closed row. -/
theorem closed_step (holds : Told config before) (taken : Step config before after) (updateId : Nat) (text : JsString)
    (date : Nat) (row : InboxRow) (command : IsCommand config updateId text date)
    (found : after.inbox.rows.get? updateId = some row) (done : row.state = .done) :
    ∃ sight, ClosedBy config after updateId (parseCommand config.platform text) row sight := by
  have kept : before.inbox.rows.get? updateId = some row →
      ∃ sight, ClosedBy config after updateId (parseCommand config.platform text) row sight := by
    intro stood
    obtain ⟨sight, spoke, disposition, taskId, follows⟩ := holds.closed updateId text date row command stood done
    refine ⟨sight, past_kept taken spoke, disposition, taskId, follows.kept fun earlier member => ?_⟩
    rcases spoke_step taken member with already | ⟨poll, handling, replies, rfl, -⟩
    · exact already
    · obtain ⟨-, held, here, received⟩ := holds.inHand handling (by rw [replies]; rfl)
      cases stood.symm.trans here
      rw [done] at received
      cases received
  cases taken with
  | claim poll other rest word at_ now polls head new fresh later undone =>
      change (before.inbox.claim other now).rows.get? updateId = some row at found
      rw [Inbox.get?_claim] at found
      split at found
      · next same =>
          cases same
          cases found
          unfold Inbox.claimed at done
          cases stood : before.inbox.rows.get? updateId with
          | none =>
              rw [stood] at done
              cases done
          | some old =>
              rw [stood, Option.getD_some, undone old stood] at done
              cases done
      · exact kept found
  | close poll handling sight replyId closes =>
      change (before.inbox.complete _ _ _ _).rows.get? updateId = some row at found
      rw [Inbox.get?_complete] at found
      split at found
      · next same =>
          cases same
          obtain ⟨old, -, rfl⟩ := Option.map_eq_some_iff.mp found
          have inHand := (holds.inHand handling (by rw [closes]; rfl)).1
          cases command.symm.trans inHand
          obtain ⟨spoke, follows⟩ := holds.closing poll handling sight replyId closes
          exact ⟨sight, spoke, rfl, rfl, follows⟩
      · exact kept found
  | finish poll polls ended =>
      change (if poll.batch = [] then before.inbox else _).rows.get? updateId = some row at found
      split at found
      · exact kept found
      · exact kept found
  | _ => exact kept found

/-- What one steady step preserves. -/
theorem step (holds : Told config before) (taken : Step config before after) (steady : Steady config before after) :
    Told config after where
  inHand := holds.inHand_step taken
  spoken := holds.spoken_step taken
  settled := holds.settled_step taken
  replies := holds.replies_step taken
  closing := holds.closing_step taken steady
  closed := holds.closed_step taken

end Told

/-- What a whole steady run preserves. -/
theorem SteadyRun.told {operator : Operator} (run : SteadyRun config operator) : Told config operator := by
  induction run with
  | start clock => exact .start clock
  | step _ taken steady ih => exact ih.step taken steady

theorem Told.converged {operator : Operator} (holds : Told config operator) : Converged config operator := by
  intro updateId text date row command found done queued member check
  obtain ⟨sight, closed⟩ := holds.closed updateId text date row command found done
  obtain ⟨other, said, at_, early, reply, named, otherCommand, spoke, spoken, message⟩ :=
    holds.replies _ queued (OutboxRows.mem_all member)
  cases operatorReplyCheckId_injective (named.symm.trans check)
  cases command.symm.trans otherCommand
  have ends := (closed.follows early reply spoke spoken).respond fun one two first second => Option.some.inj
    ((holds.spoken _ early one spoke first).symm.trans (holds.spoken _ sight two closed.spoke second))
  exact ⟨early, reply, spoke, closed.disposition.trans (congrArg some ends.1.symm), closed.taskId.trans ends.2.symm,
    spoken, message⟩

/-- In a steady run the reply that stands tells what the inbox records. -/
theorem replies_converge {operator : Operator} (run : SteadyRun config operator) : Converged config operator :=
  run.told.converged

/-! ## A failure that is told and an admission that is recorded -/

/-- The inbox after a handling of the first update. -/
def sampleInbox (sight : Sight) : Inbox :=
  (Inbox.empty.claim 1 0).complete 1 ((sampleHandling 1).command missionConfig)
    ((sampleHandling 1).answer missionConfig sight) ((sampleHandling 1).replyId missionConfig sight)

/-- The failure was queued before the crash, and the row was closed by the handling after it. -/
def afterResume : Operator :=
  ⟨sampleInbox heardSight,
    (sampleHandling 1).speak missionConfig heardSight ((sampleHandling 1).speak missionConfig lostSight .empty),
    admitTask .empty 1 firstTask, [1, 1], [], 0, .polling ((Poll.begin 0 [1]).after 1 [] 0),
    [.spoke 1 heardSight, .handled 1 0, .spoke 1 lostSight, .handled 1 0]⟩

theorem afterResume_reached : Reachable missionConfig afterResume := by
  have begun : Reachable missionConfig _ := Reachable.step (.start 0) (.begin [1] rfl)
  have claimed := begun.step (.claim _ 1 [] _ _ 0 rfl (by decide +kernel) (Nat.zero_le _) (sample_command 1) (le_refl _)
    (fun _ found => nomatch found))
  have asked := claimed.step (.ask _ (sampleHandling 1) .unavailable rfl (by decide +kernel))
  have taken := asked.step (.doorTakes 1 firstTask List.mem_cons_self)
  have failed := taken.step (.fail _ (sampleHandling 1) _ .unavailable rfl)
  have spoken := failed.step (.speak _ (sampleHandling 1) _ rfl)
  have crashed := spoken.step .crash
  have again := crashed.step (.begin [1] rfl)
  have claimedAgain := again.step (.claim _ 1 [] _ _ 0 rfl (by decide +kernel) (Nat.zero_le _) (sample_command 1)
    (le_refl _) (by
      intro row found
      cases found
      rfl))
  have askedAgain := claimedAgain.step (.ask _ (sampleHandling 1) .unavailable rfl (by decide +kernel))
  have heard := askedAgain.step (.accept _ (sampleHandling 1) _ firstTask rfl (by decide +kernel))
  have spokenAgain := heard.step (.speak _ (sampleHandling 1) _ rfl)
  have closed := spokenAgain.step (.close _ (sampleHandling 1) _ _ rfl)
  exact closed

/-- The row that the resumed handling closed. -/
def resumedRow : InboxRow :=
  closedRow (Inbox.freshRow 1 0) ((sampleHandling 1).command missionConfig)
    ((sampleHandling 1).answer missionConfig heardSight) ((sampleHandling 1).replyId missionConfig heardSight)

/-- The inbox records the task, and the reply that stands says that nothing was started. -/
theorem reply_contradicts_record : Reachable missionConfig afterResume ∧ ¬ Converged missionConfig afterResume := by
  refine ⟨afterResume_reached, fun converged => ?_⟩
  let queued := (replyIntent missionConfig 1 (renderReply (.admissionFailed .unavailable)) 1700000000).row
  have stands : queued ∈ afterResume.outbox.all := by decide +kernel
  obtain ⟨sight, reply, spoke, disposition, -, spoken, message⟩ :=
    converged 1 _ _ resumedRow (sample_command 1) (by decide +kernel) rfl queued stands rfl
  have ended : (respond missionConfig (parseCommand missionConfig.platform (js "/brief a/b")) sight).disposition =
      .admitted := (Option.some.inj disposition).symm.trans (by decide +kernel)
  simp only [afterResume, List.mem_cons, List.not_mem_nil, or_false, reduceCtorEq, false_or, Event.spoke.injEq,
    true_and] at spoke
  rcases spoke with rfl | rfl
  · have text : queued.message.head? = (renderReply reply).head? := congrArg List.head? message
    have said : (respond missionConfig (parseCommand missionConfig.platform (js "/brief a/b")) heardSight).reply =
        some (.admitted .brief ⟨js "a/b", by decide +kernel⟩ none firstTask 1 1) := by decide +kernel
    rw [said] at spoken
    cases spoken
    rw [renderReply_admitted] at text
    revert text
    decide +kernel
  · revert ended
    decide +kernel

/-! ## A steady run -/

theorem afterMission_steady : SteadyRun missionConfig afterMission := by
  have begun : SteadyRun missionConfig _ := .step (.start 0) (.begin [1] rfl) fun _ _ _ _ replies => nomatch replies
  have claimed := begun.step
    (.claim _ 1 [] _ _ 0 rfl (by decide +kernel) (Nat.zero_le _) (sample_command 1) (le_refl _)
      (fun _ found => nomatch found)) fun _ _ _ _ replies => nomatch replies
  have asked := claimed.step (.ask _ (sampleHandling 1) .unavailable rfl (by decide +kernel))
    fun _ _ _ _ replies => nomatch replies
  have taken := asked.step (.doorTakes 1 firstTask List.mem_cons_self) fun _ _ _ _ replies => nomatch replies
  have heard := taken.step (.accept _ (sampleHandling 1) _ firstTask rfl (by decide +kernel))
    fun _ _ _ _ replies => nomatch replies
  have spoken := heard.step (.speak _ (sampleHandling 1) _ rfl) (by
    intro poll handling sight replyId replies closes earlier reply member
    rcases List.mem_cons.mp member with same | before
    · cases same
    · cases before)
  have closed := spoken.step (.close _ (sampleHandling 1) _ _ rfl) fun _ _ _ _ replies => nomatch replies
  exact closed

theorem afterMission_converged : SteadyRun missionConfig afterMission ∧ Converged missionConfig afterMission :=
  ⟨afterMission_steady, replies_converge afterMission_steady⟩

end KernelJson.Telegram.Replies
