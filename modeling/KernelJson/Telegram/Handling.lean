import KernelJson.Telegram.Operator

/-!
# Exactly-once handling of updates

Whatever batches arrive and wherever a poll is cut off, an update has at most one
task at the door and at most one reply in the outbox, and the offset passes an
update that a poll was given only after its handling was recorded.  An update
that no poll was given in time is passed over.
-/

namespace KernelJson.Telegram.Handling

open Alerting.Engine
open Alerting.Outbox
open Alerting.OutboxStores
open Contracts.Common
open Foundation
open Foundation.JsText
open Telegram.Commands
open Telegram.Operator

/-! ## The inbox -/

theorem Inbox.get?_claim (inbox : Inbox) (updateId : Nat) (now : Int) (other : Nat) :
    (inbox.claim updateId now).rows.get? other =
      if other = updateId then some (inbox.claimed updateId now) else inbox.rows.get? other := by
  have fresh : ∀ row, ((inbox.rows.set updateId row).get? other) =
      if other = updateId then some row else inbox.rows.get? other := by
    intro row
    rw [JsMap.get?_set]
    simp only [eq_comm]
  unfold Inbox.claim Inbox.claimed
  cases found : inbox.rows.get? updateId with
  | none => exact fresh _
  | some row =>
      by_cases same : other = updateId
      · rw [if_pos same, same]
        exact found
      · exact (if_neg same).symm

theorem Inbox.get?_complete (inbox : Inbox) (updateId : Nat) (command : Command) (answer : Answer)
    (replyId : Option JsString) (other : Nat) :
    (inbox.complete updateId command answer replyId).rows.get? other =
      if other = updateId then
        (inbox.rows.get? updateId).map fun row => closedRow row command answer replyId
      else inbox.rows.get? other := by
  unfold Inbox.complete
  cases found : inbox.rows.get? updateId with
  | none =>
      by_cases same : other = updateId
      · rw [if_pos same, same]
        exact found
      · exact (if_neg same).symm
  | some row =>
      simp only [JsMap.get?_set, Option.map_some]
      simp only [eq_comm]

theorem Inbox.next_claim (inbox : Inbox) (updateId : Nat) (now : Int) : (inbox.claim updateId now).next = inbox.next := by
  unfold Inbox.claim
  split
  · rfl
  · rfl

theorem Inbox.next_complete (inbox : Inbox) (updateId : Nat) (command : Command) (answer : Answer)
    (replyId : Option JsString) : (inbox.complete updateId command answer replyId).next = inbox.next := by
  unfold Inbox.complete
  split
  · rfl
  · rfl

/-! ## The outbox -/

variable {config : Config}

theorem enqueueReply_eq (outbox : OutboxRows) (updateId : Nat) (text : JsString) (messageDate : Nat) :
    enqueueReply config outbox updateId text messageDate =
      InMemoryNotificationOutboxStore.insertIntent outbox (replyIntent config updateId text messageDate) := rfl

theorem replyIntent_id (updateId : Nat) (text : JsString) (messageDate : Nat) :
    (replyIntent config updateId text messageDate).notificationId = replyIdOf config updateId messageDate := rfl

/-- A reply is queued once only: what stands under its identifier stays. -/
theorem get?_enqueueReply (outbox : OutboxRows) (updateId : Nat) (text : JsString) (messageDate : Nat) (id : JsString) :
    (enqueueReply config outbox updateId text messageDate).get? id =
      if id = replyIdOf config updateId messageDate ∧ outbox.get? id = none then
        some (replyIntent config updateId text messageDate).row
      else outbox.get? id := by
  rw [enqueueReply_eq, InMemoryNotificationOutboxStore.insertIntent, replyIntent_id]
  have named : (replyIntent config updateId text messageDate).row.notificationId =
      replyIdOf config updateId messageDate := rfl
  cases stands : outbox.get? (replyIdOf config updateId messageDate) with
  | some row =>
      rw [Option.isSome_some, if_pos rfl, if_neg]
      rintro ⟨rfl, absent⟩
      rw [stands] at absent
      cases absent
  | none =>
      rw [Option.isSome_none, if_neg Bool.false_ne_true, OutboxRows.get?_put, named]
      by_cases same : replyIdOf config updateId messageDate = id
      · rw [if_pos same, if_pos ⟨same.symm, same ▸ stands⟩]
      · rw [if_neg same, if_neg fun both => same both.1.symm]

/-! ## What is recorded -/

/-- The handling of an authorised update is recorded: its row is closed, or its press was handled. -/
def Recorded (config : Config) (operator : Operator) (updateId : Nat) : Prop :=
  match classified config updateId with
  | .command _ _ => ∃ row, operator.inbox.rows.get? updateId = some row ∧ row.state = .done
  | .callback _ _ _ => updateId ∈ operator.pressed
  | .ignored => True
  | .unauthorised => True

/-- What was recorded stays recorded. -/
theorem Recorded.kept {before after : Operator} {updateId : Nat} (recorded : Recorded config before updateId)
    (rows : ∀ other row, before.inbox.rows.get? other = some row → row.state = .done →
      ∃ later, after.inbox.rows.get? other = some later ∧ later.state = .done)
    (pressed : before.pressed ⊆ after.pressed) : Recorded config after updateId := by
  unfold Recorded at recorded ⊢
  cases kind : classified config updateId with
  | command text date =>
      rw [kind] at recorded
      obtain ⟨row, found, done⟩ := recorded
      exact rows updateId row found done
  | callback queryId data messageId =>
      rw [kind] at recorded
      exact pressed recorded
  | ignored => trivial
  | unauthorised => trivial

/-- A closed row stays closed over every step. -/
theorem step_rows {before after : Operator} (taken : Step config before after) (other : Nat) (row : InboxRow)
    (found : before.inbox.rows.get? other = some row) (done : row.state = .done) :
    ∃ later, after.inbox.rows.get? other = some later ∧ later.state = .done := by
  cases taken with
  | claim poll updateId rest text date now polls head new command later undone =>
      refine ⟨row, ?_, done⟩
      show (before.inbox.claim updateId now).rows.get? other = some row
      rw [Inbox.get?_claim]
      split
      · next same =>
          rw [Inbox.claimed, ← same, found]
          rfl
      · exact found
  | close poll handling sight replyId closes =>
      show ∃ later, (before.inbox.complete _ _ _ _).rows.get? other = some later ∧ _
      rw [Inbox.get?_complete]
      split
      · next same =>
          rw [← same, found]
          exact ⟨_, rfl, rfl⟩
      · exact ⟨row, found, done⟩
  | finish poll polls ended =>
      refine ⟨row, ?_, done⟩
      show (if poll.batch = [] then before.inbox else _).rows.get? other = some row
      split
      · exact found
      · exact found
  | _ => exact ⟨row, found, done⟩

theorem step_pressed {before after : Operator} (taken : Step config before after) : before.pressed ⊆ after.pressed := by
  cases taken with
  | press poll updateId rest queryId data messageId polls head new pressed => exact List.subset_cons_self _ _
  | _ => exact List.Subset.refl _

theorem Recorded.step {before after : Operator} {updateId : Nat} (recorded : Recorded config before updateId)
    (taken : Step config before after) : Recorded config after updateId :=
  recorded.kept (step_rows taken) (step_pressed taken)

/-! ## The invariant -/

namespace Phase

/-- The poll that is under way. -/
def poll? : Phase → Option Poll
  | .idle => none
  | .polling poll => some poll
  | .claimed poll _ => some poll
  | .asking poll _ _ => some poll
  | .replying poll _ _ => some poll
  | .closing poll _ _ _ => some poll

/-- The command that is being handled. -/
def handling? : Phase → Option Handling
  | .claimed _ handling => some handling
  | .asking _ handling _ => some handling
  | .replying _ handling _ => some handling
  | .closing _ handling _ _ => some handling
  | _ => none

end Phase

/-- How far a poll has come: what it has passed is recorded, but for the command in hand. -/
structure Progress (config : Config) (operator : Operator) (poll : Poll) : Prop where
  offset : poll.offset = operator.inbox.next
  passed : ∀ updateId ∈ poll.batch, poll.offset ≤ updateId → updateId ∈ poll.rest ∨
    Recorded config operator updateId ∨
      ∃ handling, Phase.handling? operator.phase = some handling ∧ handling.updateId = updateId
  rest : ∀ updateId ∈ poll.rest, updateId ∈ poll.batch
  top : ∀ updateId < poll.top, poll.offset ≤ updateId → ∃ last ∈ poll.batch, updateId ≤ last

structure Invariant (config : Config) (operator : Operator) : Prop where
  progress : ∀ poll, Phase.poll? operator.phase = some poll → Progress config operator poll
  handling : ∀ handling, Phase.handling? operator.phase = some handling →
    IsCommand config handling.updateId handling.text handling.date ∧
      (∃ row, operator.inbox.rows.get? handling.updateId = some row) ∧
      ∃ now, .handled handling.updateId now ∈ operator.past
  recorded : ∀ offset batch, .finished offset batch ∈ operator.past → ∀ updateId ∈ batch, offset ≤ updateId →
    Recorded config operator updateId
  covered : ∀ updateId < operator.inbox.next, ∃ offset batch, .finished offset batch ∈ operator.past ∧
    offset ≤ updateId ∧ ∃ last ∈ batch, updateId ≤ last
  sent : ∀ updateId ∈ operator.sent, ∃ now, .handled updateId now ∈ operator.past
  tasks : ∀ key taskId, operator.door.get? key = some taskId →
    ∃ updateId now, key = idempotencyKeyFor updateId ∧ .handled updateId now ∈ operator.past
  replies : ∀ id row, operator.outbox.get? id = some row → ∃ updateId text date,
    IsCommand config updateId text date ∧ id = replyIdOf config updateId date ∧
      row.checkId = operatorReplyCheckId updateId

theorem Invariant.start (clock : Int) : Invariant config (.start clock) where
  progress := fun _ found => nomatch found
  handling := fun _ found => nomatch found
  recorded := fun _ _ found => absurd found List.not_mem_nil
  covered := fun _ below => absurd below (Nat.not_lt_zero _)
  sent := fun _ found => absurd found List.not_mem_nil
  tasks := fun _ _ found => nomatch found
  replies := fun _ _ found => nomatch found

/-! ## Progress of a poll -/

theorem Progress.kept {before after : Operator} {poll : Poll} (progress : Progress config before poll)
    (taken : Step config before after) (next : after.inbox.next = before.inbox.next)
    (hands : ∀ handling, Phase.handling? before.phase = some handling → Phase.handling? after.phase = some handling) :
    Progress config after poll where
  offset := progress.offset.trans next.symm
  passed := fun updateId member above => by
    rcases progress.passed updateId member above with ahead | recorded | ⟨handling, inHand, same⟩
    · exact .inl ahead
    · exact .inr (.inl (recorded.step taken))
    · exact .inr (.inr ⟨handling, hands handling inHand, same⟩)
  rest := progress.rest
  top := progress.top

/-- A poll goes past an update that is recorded, or that is now in hand. -/
theorem Progress.after {before after : Operator} {poll : Poll} {updateId unauthorised : Nat} {rest : List Nat}
    (progress : Progress config before poll) (taken : Step config before after)
    (next : after.inbox.next = before.inbox.next) (polls : before.phase = .polling poll)
    (head : poll.rest = updateId :: rest)
    (done : poll.offset ≤ updateId → Recorded config after updateId ∨
      ∃ handling, Phase.handling? after.phase = some handling ∧ handling.updateId = updateId) :
    Progress config after (poll.after updateId rest unauthorised) where
  offset := progress.offset.trans next.symm
  passed := fun other member above => by
    rcases progress.passed other member above with ahead | recorded | ⟨handling, inHand, -⟩
    · rw [head] at ahead
      rcases List.mem_cons.mp ahead with rfl | later
      · exact .inr (done above)
      · exact .inl later
    · exact .inr (.inl (recorded.step taken))
    · rw [polls] at inHand
      cases inHand
  rest := fun other member => progress.rest other (head ▸ List.mem_cons_of_mem _ member)
  top := fun other below above => by
    by_cases inside : other < poll.top
    · exact progress.top other inside above
    · refine ⟨updateId, progress.rest updateId (head ▸ List.mem_cons_self), ?_⟩
      change other < max poll.top (updateId + 1) at below
      omega

theorem Progress.begin (operator : Operator) (batch : List Nat) :
    Progress config operator (.begin operator.inbox.next batch) where
  offset := rfl
  passed := fun _ member _ => .inl (List.mem_mergeSort.mpr member)
  rest := fun _ member => List.mem_mergeSort.mp member
  top := fun _ below above => absurd below (Nat.not_lt.mpr above)

/-- Closing a row records the handling of its update. -/
theorem recorded_close {before : Operator} {handling : Handling} {poll : Poll} {sight : Sight}
    {replyId : Option JsString} (command : IsCommand config handling.updateId handling.text handling.date)
    (claimed : ∃ row, before.inbox.rows.get? handling.updateId = some row) :
    Recorded config { before with
      inbox := before.inbox.complete handling.updateId (handling.command config) (handling.answer config sight)
        replyId, phase := .polling poll } handling.updateId := by
  obtain ⟨row, found⟩ := claimed
  unfold Recorded
  rw [command]
  refine ⟨closedRow row (handling.command config) (handling.answer config sight) replyId, ?_, rfl⟩
  show (before.inbox.complete _ _ _ _).rows.get? handling.updateId = _
  rw [Inbox.get?_complete, if_pos rfl, found]
  rfl

namespace Invariant

variable {before after : Operator}

theorem progress_step (holds : Invariant config before) (taken : Step config before after) (poll : Poll)
    (under : Phase.poll? after.phase = some poll) : Progress config after poll := by
  have step := taken
  cases taken with
  | begin batch idle =>
      cases under
      exact .begin _ batch
  | below earlier updateId rest polls head old =>
      cases under
      have progress := holds.progress earlier (by rw [polls]; rfl)
      exact progress.after step rfl polls head fun above => absurd old (Nat.not_lt.mpr above)
  | ignore earlier updateId rest polls head new ignored =>
      cases under
      have progress := holds.progress earlier (by rw [polls]; rfl)
      refine progress.after step rfl polls head fun _ => .inl ?_
      unfold Recorded
      rw [ignored]
      trivial
  | turnAway earlier updateId rest polls head new unauthorised =>
      cases under
      have progress := holds.progress earlier (by rw [polls]; rfl)
      refine progress.after step rfl polls head fun _ => .inl ?_
      unfold Recorded
      rw [unauthorised]
      trivial
  | press earlier updateId rest queryId data messageId polls head new pressed =>
      cases under
      have progress := holds.progress earlier (by rw [polls]; rfl)
      refine progress.after step rfl polls head fun _ => .inl ?_
      unfold Recorded
      rw [pressed]
      exact List.mem_cons_self
  | repeated earlier updateId rest text date row polls head new command found done =>
      cases under
      have progress := holds.progress earlier (by rw [polls]; rfl)
      refine progress.after step rfl polls head fun _ => .inl ?_
      unfold Recorded
      rw [command]
      exact ⟨row, found, done⟩
  | claim earlier updateId rest text date now polls head new command later undone =>
      cases under
      have progress := holds.progress earlier (by rw [polls]; rfl)
      exact progress.after step (Inbox.next_claim _ _ _) polls head fun _ => .inr ⟨_, rfl, rfl⟩
  | decide earlier handling read claims settles =>
      cases under
      have progress := holds.progress poll (by rw [claims]; rfl)
      refine progress.kept step rfl fun other inHand => ?_
      rw [claims] at inHand
      exact inHand
  | ask earlier handling read claims asks =>
      cases under
      have progress := holds.progress poll (by rw [claims]; rfl)
      refine progress.kept step rfl fun other inHand => ?_
      rw [claims] at inHand
      exact inHand
  | doorTakes updateId taskId sent => exact (holds.progress poll under).kept step rfl fun _ inHand => inHand
  | accept earlier handling sight taskId asks admitted =>
      cases under
      have progress := holds.progress poll (by rw [asks]; rfl)
      refine progress.kept step rfl fun other inHand => ?_
      rw [asks] at inHand
      exact inHand
  | fail earlier handling sight reason asks =>
      cases under
      have progress := holds.progress poll (by rw [asks]; rfl)
      refine progress.kept step rfl fun other inHand => ?_
      rw [asks] at inHand
      exact inHand
  | speak earlier handling sight replies =>
      cases under
      have progress := holds.progress poll (by rw [replies]; rfl)
      refine progress.kept step rfl fun other inHand => ?_
      rw [replies] at inHand
      exact inHand
  | close earlier handling sight replyId closes =>
      cases under
      have progress := holds.progress poll (by rw [closes]; rfl)
      obtain ⟨command, claimed, -⟩ := holds.handling handling (by rw [closes]; rfl)
      refine ⟨progress.offset.trans (Inbox.next_complete _ _ _ _ _).symm, ?_, progress.rest, progress.top⟩
      intro updateId member above
      rcases progress.passed updateId member above with ahead | recorded | ⟨other, inHand, same⟩
      · exact .inl ahead
      · exact .inr (.inl (recorded.step step))
      · rw [closes] at inHand
        cases inHand
        exact .inr (.inl (same ▸ recorded_close command claimed))
  | finish earlier polls ended => cases under
  | deliver outbox same => exact (holds.progress poll under).kept step rfl fun _ inHand => inHand
  | crash => cases under

theorem past_step (taken : Step config before after) : before.past ⊆ after.past := by
  cases taken with
  | claim poll updateId rest text date now polls head new command later undone => exact List.subset_cons_self _ _
  | speak poll handling sight replies => exact List.subset_cons_self _ _
  | finish poll polls ended => exact List.subset_cons_self _ _
  | _ => exact List.Subset.refl _

theorem row_step (taken : Step config before after) {updateId : Nat}
    (claimed : ∃ row, before.inbox.rows.get? updateId = some row) :
    ∃ row, after.inbox.rows.get? updateId = some row := by
  obtain ⟨row, found⟩ := claimed
  cases taken with
  | claim poll other rest text date now polls head new command later undone =>
      show ∃ row, (before.inbox.claim other now).rows.get? updateId = some row
      rw [Inbox.get?_claim]
      split
      · exact ⟨_, rfl⟩
      · exact ⟨row, found⟩
  | close poll handling sight replyId closes =>
      show ∃ row, (before.inbox.complete _ _ _ _).rows.get? updateId = some row
      rw [Inbox.get?_complete]
      split
      · next same =>
          rw [← same, found]
          exact ⟨_, rfl⟩
      · exact ⟨row, found⟩
  | finish poll polls ended =>
      refine ⟨row, ?_⟩
      show (if poll.batch = [] then before.inbox else _).rows.get? updateId = some row
      split
      · exact found
      · exact found
  | _ => exact ⟨row, found⟩

theorem handling_step (holds : Invariant config before) (taken : Step config before after) (handling : Handling)
    (inHand : Phase.handling? after.phase = some handling) :
    IsCommand config handling.updateId handling.text handling.date ∧
      (∃ row, after.inbox.rows.get? handling.updateId = some row) ∧
      ∃ now, .handled handling.updateId now ∈ after.past := by
  have kept : Phase.handling? before.phase = some handling →
      IsCommand config handling.updateId handling.text handling.date ∧
        (∃ row, after.inbox.rows.get? handling.updateId = some row) ∧
        ∃ now, .handled handling.updateId now ∈ after.past := by
    intro earlier
    obtain ⟨command, claimed, now, handled⟩ := holds.handling handling earlier
    exact ⟨command, row_step taken claimed, now, past_step taken handled⟩
  cases taken with
  | claim poll updateId rest text date now polls head new command later undone =>
      cases inHand
      refine ⟨command, ?_, now, List.mem_cons_self⟩
      show ∃ row, (before.inbox.claim updateId now).rows.get? updateId = some row
      rw [Inbox.get?_claim, if_pos rfl]
      exact ⟨_, rfl⟩
  | decide poll other read claims settles => exact kept (by rw [claims]; exact inHand)
  | ask poll other read claims asks => exact kept (by rw [claims]; exact inHand)
  | doorTakes updateId taskId sent => exact kept inHand
  | accept poll other sight taskId asks admitted => exact kept (by rw [asks]; exact inHand)
  | fail poll other sight reason asks => exact kept (by rw [asks]; exact inHand)
  | speak poll other sight replies => exact kept (by rw [replies]; exact inHand)
  | deliver outbox same => exact kept inHand
  | _ => cases inHand

theorem recorded_step (holds : Invariant config before) (taken : Step config before after) (offset : Nat)
    (batch : List Nat) (finished : .finished offset batch ∈ after.past) (updateId : Nat) (member : updateId ∈ batch)
    (above : offset ≤ updateId) : Recorded config after updateId := by
  have kept : .finished offset batch ∈ before.past → Recorded config after updateId := fun earlier =>
    (holds.recorded offset batch earlier updateId member above).step taken
  have step := taken
  cases taken with
  | claim poll other rest text date now polls head new command later undone =>
      rcases List.mem_cons.mp finished with same | earlier
      · cases same
      · exact kept earlier
  | speak poll handling sight replies =>
      rcases List.mem_cons.mp finished with same | earlier
      · cases same
      · exact kept earlier
  | finish poll polls ended =>
      rcases List.mem_cons.mp finished with same | earlier
      · cases same
        have progress := holds.progress poll (by rw [polls]; rfl)
        rcases progress.passed updateId member above with ahead | recorded | ⟨handling, inHand, -⟩
        · rw [ended] at ahead
          cases ahead
        · exact recorded.step step
        · rw [polls] at inHand
          cases inHand
      · exact kept earlier
  | _ => exact kept finished

theorem covered_step (holds : Invariant config before) (taken : Step config before after) (updateId : Nat)
    (below : updateId < after.inbox.next) : ∃ offset batch, .finished offset batch ∈ after.past ∧
      offset ≤ updateId ∧ ∃ last ∈ batch, updateId ≤ last := by
  have kept : updateId < before.inbox.next → ∃ offset batch, .finished offset batch ∈ after.past ∧
      offset ≤ updateId ∧ ∃ last ∈ batch, updateId ≤ last := by
    intro earlier
    obtain ⟨offset, batch, finished, rest⟩ := holds.covered updateId earlier
    exact ⟨offset, batch, past_step taken finished, rest⟩
  cases taken with
  | claim poll other rest text date now polls head new command later undone =>
      exact kept (by rwa [← Inbox.next_claim before.inbox other now])
  | close poll handling sight replyId closes =>
      refine kept ?_
      change updateId < (before.inbox.complete _ _ _ _).next at below
      rwa [Inbox.next_complete] at below
  | finish poll polls ended =>
      have progress := holds.progress poll (by rw [polls]; rfl)
      by_cases old : updateId < before.inbox.next
      · exact kept old
      · change updateId < (if poll.batch = [] then before.inbox else _).next at below
        split at below
        · exact absurd below old
        · change updateId < max before.inbox.next poll.top at below
          have reached : updateId < poll.top := by omega
          have above : poll.offset ≤ updateId := by
            rw [progress.offset]
            exact Nat.not_lt.mp old
          exact ⟨poll.offset, poll.batch, List.mem_cons_self, above, progress.top updateId reached above⟩
  | _ => exact kept below

theorem sent_step (holds : Invariant config before) (taken : Step config before after) (updateId : Nat)
    (member : updateId ∈ after.sent) : ∃ now, .handled updateId now ∈ after.past := by
  have kept : updateId ∈ before.sent → ∃ now, .handled updateId now ∈ after.past := by
    intro earlier
    obtain ⟨now, handled⟩ := holds.sent updateId earlier
    exact ⟨now, past_step taken handled⟩
  cases taken with
  | ask poll handling read claims asks =>
      rcases List.mem_cons.mp member with rfl | earlier
      · exact (holds.handling handling (by rw [claims]; rfl)).2.2
      · exact kept earlier
  | _ => exact kept member

theorem tasks_step (holds : Invariant config before) (taken : Step config before after) (key : JsString)
    (taskId : Id) (found : after.door.get? key = some taskId) :
    ∃ updateId now, key = idempotencyKeyFor updateId ∧ .handled updateId now ∈ after.past := by
  have kept : before.door.get? key = some taskId →
      ∃ updateId now, key = idempotencyKeyFor updateId ∧ .handled updateId now ∈ after.past := by
    intro earlier
    obtain ⟨updateId, now, same, handled⟩ := holds.tasks key taskId earlier
    exact ⟨updateId, now, same, past_step taken handled⟩
  cases taken with
  | doorTakes updateId other sent =>
      change (admitTask before.door updateId other).get? key = some taskId at found
      unfold admitTask at found
      split at found
      · exact kept found
      · rw [JsMap.get?_set] at found
        split at found
        · next same =>
            obtain ⟨now, handled⟩ := holds.sent updateId sent
            exact ⟨updateId, now, same.symm, handled⟩
        · exact kept found
  | _ => exact kept found

theorem replies_step (holds : Invariant config before) (taken : Step config before after) (id : JsString)
    (row : NotificationOutboxRow) (found : after.outbox.get? id = some row) : ∃ updateId text date,
      IsCommand config updateId text date ∧ id = replyIdOf config updateId date ∧
        row.checkId = operatorReplyCheckId updateId := by
  cases taken with
  | speak poll handling sight replies =>
      have command := (holds.handling handling (by rw [replies]; rfl)).1
      change (handling.speak config sight before.outbox).get? id = some row at found
      unfold Handling.speak at found
      split at found
      · exact holds.replies id row found
      · rw [get?_enqueueReply] at found
        split at found
        · next fresh =>
            cases found
            exact ⟨handling.updateId, handling.text, handling.date, command, fresh.1, rfl⟩
        · exact holds.replies id row found
  | deliver outbox same =>
      have intents := same id
      rw [found] at intents
      obtain ⟨old, stood, kept⟩ := Option.map_eq_some_iff.mp intents.symm
      obtain ⟨updateId, text, date, command, named, check⟩ := holds.replies id old stood
      refine ⟨updateId, text, date, command, named, ?_⟩
      exact (congrArg (fun intent : NotificationIntent => intent.checkId) kept).symm.trans check
  | _ => exact holds.replies id row found

/-- What one step preserves. -/
theorem step (holds : Invariant config before) (taken : Step config before after) : Invariant config after where
  progress := holds.progress_step taken
  handling := holds.handling_step taken
  recorded := holds.recorded_step taken
  covered := holds.covered_step taken
  sent := holds.sent_step taken
  tasks := holds.tasks_step taken
  replies := holds.replies_step taken

end Invariant

/-- What a whole run preserves. -/
theorem invariant_of_reachable {operator : Operator} (reached : Reachable config operator) :
    Invariant config operator := by
  induction reached with
  | start clock => exact .start clock
  | step _ taken ih => exact ih.step taken

/-! ## Exactly-once handling -/

theorem operatorReplyCheckId_injective : Function.Injective operatorReplyCheckId :=
  fun _ _ same => decimal_injective (List.append_cancel_left same)

/-- An authorised update: a command, or the press of a button. -/
def Authorised (config : Config) (updateId : Nat) : Prop :=
  (∃ text date, IsCommand config updateId text date) ∨
    ∃ queryId data messageId, classified config updateId = .callback queryId data messageId

/-- Each poll was given every authorised update from its offset up to its last one. -/
def WithoutGaps (config : Config) (past : List Event) : Prop :=
  ∀ offset batch, .finished offset batch ∈ past → ∀ updateId, offset ≤ updateId →
    (∃ last ∈ batch, updateId ≤ last) → Authorised config updateId → updateId ∈ batch

/-- What the channel guarantees of its updates. -/
structure ExactlyOnce (config : Config) (operator : Operator) : Prop where
  oneTask : ∀ updateId first second, (idempotencyKeyFor updateId, first) ∈ operator.door.entries →
    (idempotencyKeyFor updateId, second) ∈ operator.door.entries → first = second
  tasks : ∀ key taskId, operator.door.get? key = some taskId →
    ∃ updateId now, key = idempotencyKeyFor updateId ∧ .handled updateId now ∈ operator.past
  oneReply : ∀ updateId, ∀ first ∈ operator.outbox.all, ∀ second ∈ operator.outbox.all,
    first.checkId = operatorReplyCheckId updateId → second.checkId = operatorReplyCheckId updateId → first = second
  forward : ∀ later, Step config operator later → operator.inbox.next ≤ later.inbox.next
  recorded : ∀ offset batch, .finished offset batch ∈ operator.past → ∀ updateId ∈ batch, offset ≤ updateId →
    Recorded config operator updateId
  passed : ∀ updateId < operator.inbox.next, ∃ offset batch, .finished offset batch ∈ operator.past ∧
    offset ≤ updateId ∧ ∃ last ∈ batch, updateId ≤ last
  complete : WithoutGaps config operator.past → ∀ updateId < operator.inbox.next, Authorised config updateId →
    Recorded config operator updateId

theorem next_step {before after : Operator} (taken : Step config before after) :
    before.inbox.next ≤ after.inbox.next := by
  cases taken with
  | claim poll updateId rest text date now polls head new command later undone =>
      exact (Inbox.next_claim _ _ _).ge
  | close poll handling sight replyId closes => exact (Inbox.next_complete _ _ _ _ _).ge
  | finish poll polls ended =>
      show before.inbox.next ≤ (if poll.batch = [] then before.inbox else _).next
      split
      · exact le_refl _
      · exact le_max_left _ _
  | _ => exact le_refl _

/-- An update has one task and one reply at most, and the offset passes no update of a poll unrecorded. -/
theorem handled_exactly_once {operator : Operator} (reached : Reachable config operator) :
    ExactlyOnce config operator := by
  have holds := invariant_of_reachable reached
  constructor
  case oneTask =>
    intro updateId first second one two
    exact Option.some.inj ((JsMap.get?_of_mem one).symm.trans (JsMap.get?_of_mem two))
  case tasks => exact holds.tasks
  case oneReply =>
    intro updateId first memberFirst second memberSecond checkFirst checkSecond
    have foundFirst := OutboxRows.mem_all memberFirst
    have foundSecond := OutboxRows.mem_all memberSecond
    obtain ⟨one, text, date, command, named, check⟩ := holds.replies _ first foundFirst
    obtain ⟨other, otherText, otherDate, otherCommand, otherNamed, otherCheck⟩ := holds.replies _ second foundSecond
    cases operatorReplyCheckId_injective (check.symm.trans checkFirst)
    cases operatorReplyCheckId_injective (otherCheck.symm.trans checkSecond)
    cases command.symm.trans otherCommand
    rw [named] at foundFirst
    rw [otherNamed] at foundSecond
    exact Option.some.inj (foundFirst.symm.trans foundSecond)
  case forward => exact fun later taken => next_step taken
  case recorded => exact holds.recorded
  case passed => exact holds.covered
  case complete =>
    intro whole updateId below authorised
    obtain ⟨offset, batch, finished, above, last⟩ := holds.covered updateId below
    exact holds.recorded offset batch finished updateId (whole offset batch finished updateId above last authorised) above

/-! ## An update that comes late -/

/-- A message of the allowed chat, with or without a text. -/
def sampleUpdate (text : Option JsString) : RawUpdate :=
  ⟨.read ⟨1700000000, text, ⟨42, js "private"⟩, some ⟨42, false⟩, false⟩, .absent⟩

/-- Update 6 is a command, and every other one is a message without a text. -/
def sampleConfig : Config :=
  ⟨.ascii, ⟨js "42", 1, 20⟩, false, false, fun updateId => sampleUpdate (if updateId = 6 then some (js "/status") else none)⟩

def sampleAfterSeven : Operator :=
  ⟨⟨.empty, 8, 0⟩, .empty, .empty, [], [], 0, .idle, [.finished 0 [7]]⟩

def sampleAfterSix : Operator :=
  ⟨⟨.empty, 8, 0⟩, .empty, .empty, [], [], 0, .idle, [.finished 8 [6], .finished 0 [7]]⟩

theorem sampleAfterSix_reached : Reachable sampleConfig sampleAfterSix := by
  have begun : Reachable sampleConfig _ := Reachable.step (.start 0) (.begin [7] rfl)
  have passed := begun.step (.ignore _ 7 [] rfl (by decide +kernel) (Nat.zero_le 7) (by decide +kernel))
  have finished := passed.step (.finish _ rfl rfl)
  have seven : Reachable sampleConfig sampleAfterSeven := finished
  have second := seven.step (.begin [6] rfl)
  have skipped := second.step (.below _ 6 [] rfl (by decide +kernel) (by decide +kernel))
  have last := skipped.step (.finish _ rfl rfl)
  exact last

/-- Update 7 comes first, the offset passes update 6, and the command is not handled when it comes. -/
theorem late_update_is_lost : Reachable sampleConfig sampleAfterSix ∧ Authorised sampleConfig 6 ∧
    .finished 8 [6] ∈ sampleAfterSix.past ∧ 6 < sampleAfterSix.inbox.next ∧ ¬ Recorded sampleConfig sampleAfterSix 6 := by
  refine ⟨sampleAfterSix_reached, .inl ⟨js "/status", 1700000000, rfl⟩, List.mem_cons_self, by decide, ?_⟩
  rintro ⟨row, found, -⟩
  cases found

theorem sampleAfterSix_exactly_once : ExactlyOnce sampleConfig sampleAfterSix :=
  handled_exactly_once sampleAfterSix_reached

end KernelJson.Telegram.Handling
