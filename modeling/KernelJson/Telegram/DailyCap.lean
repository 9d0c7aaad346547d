import KernelJson.Telegram.Handling

/-!
# The daily cap on missions

The cap is read from the closed rows of the inbox, while the tasks stand at the
door.  The two agree as long as the handling that sends a request learns that
the door took it and closes its row, on the day on which the update was
claimed.  A request whose answer is lost is not counted.
-/

namespace KernelJson.Telegram.DailyCap

open Contracts.Common
open Foundation
open Foundation.JsText
open Telegram.Commands
open Telegram.Handling
open Telegram.Operator

/-! ## Missions of a day -/

/-- The door has a task for the update. -/
def Tasked (operator : Operator) (updateId : Nat) : Prop :=
  ∃ taskId, operator.door.get? (idempotencyKeyFor updateId) = some taskId

/-- The update was handled on this day. -/
def HandledOn (operator : Operator) (day : Int) (updateId : Nat) : Prop :=
  ∃ now, .handled updateId now ∈ operator.past ∧ dayOf now = day

/-- At most so many different tasks stand at the door for updates handled on any one day. -/
def WithinCap (config : Config) (operator : Operator) : Prop :=
  ∀ day (tasks : List Id), tasks.Nodup →
    (∀ taskId ∈ tasks, ∃ updateId, operator.door.get? (idempotencyKeyFor updateId) = some taskId ∧
      HandledOn operator day updateId) →
    tasks.length ≤ config.limits.dailyMissionCap

/-- A row that counts as a mission received on this day. -/
def isMissionOn (day : Int) (row : InboxRow) : Bool := row.mission && dayOf row.receivedAt = day

def missionsOn (inbox : Inbox) (day : Int) : Nat := inbox.rows.values.countP (isMissionOn day)

theorem countP_setEntry {K V : Type} [DecidableEq K] (accepts : V → Bool) (key : K) (value : V)
    (entries : List (K × V)) :
    ((JsMap.setEntry key value entries).map Prod.snd).countP accepts ≤
      (entries.map Prod.snd).countP accepts + if accepts value then 1 else 0 := by
  induction entries with
  | nil => simp [JsMap.setEntry, List.countP_cons]
  | cons entry rest ih =>
      obtain ⟨other, here⟩ := entry
      simp only [JsMap.setEntry]
      split
      · simp only [List.map_cons, List.countP_cons]
        omega
      · simp only [List.map_cons, List.countP_cons]
        omega

theorem missionsOn_set (inbox : Inbox) (day : Int) (updateId : Nat) (row : InboxRow) :
    missionsOn { inbox with rows := inbox.rows.set updateId row } day ≤
      missionsOn inbox day + if isMissionOn day row then 1 else 0 :=
  countP_setEntry _ _ _ _

theorem missionsOn_claim (inbox : Inbox) (updateId : Nat) (now day : Int) :
    missionsOn (inbox.claim updateId now) day ≤ missionsOn inbox day := by
  unfold Inbox.claim
  split
  · exact le_refl _
  · exact missionsOn_set inbox day updateId (Inbox.freshRow updateId now)

theorem missionsOn_complete (inbox : Inbox) (updateId : Nat) (command : Command) (answer : Answer)
    (replyId : Option JsString) (day : Int) :
    missionsOn (inbox.complete updateId command answer replyId) day ≤ missionsOn inbox day +
      if answer.mission ∧ ∃ row, inbox.rows.get? updateId = some row ∧ dayOf row.receivedAt = day then 1 else 0 := by
  unfold Inbox.complete
  cases found : inbox.rows.get? updateId with
  | none => exact Nat.le_add_right _ _
  | some row =>
      refine (missionsOn_set inbox day updateId _).trans (Nat.add_le_add_left ?_ _)
      by_cases counted : answer.mission ∧ dayOf row.receivedAt = day
      · have present : answer.mission ∧ ∃ held, some row = some held ∧ dayOf held.receivedAt = day :=
          ⟨counted.1, row, rfl, counted.2⟩
        rw [if_pos present]
        split
        · exact le_refl _
        · exact Nat.zero_le _
      · have absent : isMissionOn day (closedRow row command answer replyId) = false := by
          rw [Bool.eq_false_iff]
          intro both
          simp only [isMissionOn, closedRow, Bool.and_eq_true] at both
          exact counted ⟨both.1, of_decide_eq_true both.2⟩
        rw [absent]
        exact Nat.zero_le _

/-- The missions of a day are counted from its start, where the update itself is none of them. -/
theorem missionsOn_le_count {inbox : Inbox} {updateId : Nat} (now : Int)
    (keyed : ∀ other row, inbox.rows.get? other = some row → row.updateId = other)
    (plain : ∀ row, inbox.rows.get? updateId = some row → row.mission = false) :
    missionsOn inbox (dayOf now) ≤ inbox.countMissionsSince (dayStart now) updateId := by
  refine List.countP_mono_left fun row member counted => ?_
  obtain ⟨key, found⟩ := JsMap.mem_values.mp member
  simp only [isMissionOn, Bool.and_eq_true, decide_eq_true_eq] at counted
  have other : row.updateId ≠ updateId := by
    intro same
    rw [plain row (by rwa [← same, keyed key row found])] at counted
    exact Bool.false_ne_true counted.1
  have since : dayStart now ≤ row.receivedAt := by
    rw [dayStart, ← counted.2]
    exact Int.ediv_mul_le _ (by decide)
  simp [other, counted.1, since]

/-! ## Runs that meet the condition -/

/-- The door's answers come in time and are believed, and the rows they lead to are closed: the poll is not cut
off while the door has a task for the command in hand, no such answer is lost, the door takes no request that
nobody waits for, and it is asked on the day of the claim only. -/
structure Orderly (before after : Operator) : Prop where
  goesOn : ∀ handling, Phase.handling? before.phase = some handling → Tasked before handling.updateId →
    after.phase ≠ .idle
  believed : ∀ poll handling sight reason, before.phase = .asking poll handling sight →
    Tasked before handling.updateId → after.phase ≠ .replying poll handling { sight with door := some (.failed reason) }
  awaited : ∀ updateId, Tasked after updateId → Tasked before updateId ∨
    ∃ poll handling sight, before.phase = .asking poll handling sight ∧ handling.updateId = updateId
  sameDay : ∀ poll handling sight, before.phase = .claimed poll handling → after.phase = .asking poll handling sight →
    ∀ row, before.inbox.rows.get? handling.updateId = some row → dayOf row.receivedAt = dayOf handling.now

inductive OrderlyRun (config : Config) : Operator → Prop where
  | start (clock : Int) : OrderlyRun config (.start clock)
  | step {before after : Operator} (run : OrderlyRun config before) (taken : Step config before after)
      (orderly : Orderly before after) : OrderlyRun config after

/-! ## The invariant -/

/-- What was read before the door was asked still stands. -/
structure Asked (config : Config) (operator : Operator) (handling : Handling) (sight : Sight) : Prop where
  asks : Asks config (handling.command config) sight
  counted : missionsOn operator.inbox (dayOf handling.now) ≤ sight.used
  received : ∀ row, operator.inbox.rows.get? handling.updateId = some row →
    dayOf row.receivedAt = dayOf handling.now

namespace Phase

/-- The handling that has asked the door or goes on without it, and what it has seen. -/
def sighted? : Phase → Option (Handling × Sight)
  | .asking _ handling sight => some (handling, sight)
  | .replying _ handling sight => some (handling, sight)
  | .closing _ handling sight _ => some (handling, sight)
  | _ => none

/-- The handling that has its answer, and what it has seen. -/
def settled? : Phase → Option (Handling × Sight)
  | .replying _ handling sight => some (handling, sight)
  | .closing _ handling sight _ => some (handling, sight)
  | _ => none

end Phase

structure Capped (config : Config) (operator : Operator) : Prop where
  rows : ∀ updateId row, operator.inbox.rows.get? updateId = some row →
    row.updateId = updateId ∧ row.receivedAt ≤ operator.clock ∧ (row.state = .received → row.mission = false)
  handled : ∀ updateId now, .handled updateId now ∈ operator.past → now ≤ operator.clock ∧
    ∃ row, operator.inbox.rows.get? updateId = some row ∧ row.receivedAt ≤ now ∧
      (row.mission = true → dayOf now = dayOf row.receivedAt)
  inHand : ∀ handling, Phase.handling? operator.phase = some handling → handling.now = operator.clock ∧
    ∃ row, operator.inbox.rows.get? handling.updateId = some row ∧ row.state = .received
  asking : ∀ poll handling sight, operator.phase = .asking poll handling sight → Asked config operator handling sight
  settled : ∀ handling sight, Phase.settled? operator.phase = some (handling, sight) →
    ((handling.answer config sight).mission = true → Asked config operator handling sight) ∧
      ((handling.answer config sight).mission = false → ¬ Tasked operator handling.updateId)
  tasked : ∀ updateId, Tasked operator updateId →
    (∃ row, operator.inbox.rows.get? updateId = some row ∧ row.mission = true) ∨
      ∃ handling sight, Phase.sighted? operator.phase = some (handling, sight) ∧ handling.updateId = updateId
  within : ∀ day, missionsOn operator.inbox day ≤ config.limits.dailyMissionCap

theorem dayOf_mono {first second : Int} (ordered : first ≤ second) : dayOf first ≤ dayOf second :=
  Int.ediv_le_ediv (by decide) ordered

variable {config : Config}

/-- A handling counts as a mission where the door was asked and said yes. -/
theorem respond_mission (command : Command) (sight : Sight) :
    (respond config command sight).mission = true ↔
      Asks config command sight ∧ ∃ taskId, sight.door = some (.ok taskId) := by
  unfold respond Asks
  cases limited : sight.limited with
  | true => simp
  | false =>
      cases command with
      | mission kind repo findings =>
          simp only [Command.kind, Bool.false_eq_true, if_false, true_and]
          by_cases full : config.limits.dailyMissionCap ≤ sight.used
          · simp [full, Answer.of, Nat.not_lt.mpr full]
          · cases answered : sight.door with
            | none => simp [full, Answer.of]
            | some result =>
                cases result with
                | ok taskId => simp [full, Nat.not_le.mp full]
                | failed reason => simp [full, Answer.of]
      | _ => simp [Command.kind, Answer.of, memoryAnswer]

theorem Capped.start (clock : Int) : Capped config (.start clock) where
  rows := fun _ _ found => nomatch found
  handled := fun _ _ member => absurd member List.not_mem_nil
  inHand := fun _ found => nomatch found
  asking := fun _ _ _ found => nomatch found
  settled := fun _ _ found => nomatch found
  tasked := fun _ found => nomatch found
  within := fun _ => Nat.zero_le _

namespace Capped

variable {before after : Operator}

theorem rows_step (holds : Capped config before) (taken : Step config before after) (updateId : Nat) (row : InboxRow)
    (found : after.inbox.rows.get? updateId = some row) :
    row.updateId = updateId ∧ row.receivedAt ≤ after.clock ∧ (row.state = .received → row.mission = false) := by
  cases taken with
  | claim poll other rest text date now polls head new command later undone =>
      change (before.inbox.claim other now).rows.get? updateId = some row at found
      have kept : before.inbox.rows.get? updateId = some row →
          row.updateId = updateId ∧ row.receivedAt ≤ now ∧ (row.state = .received → row.mission = false) := by
        intro old
        obtain ⟨named, since, plain⟩ := holds.rows updateId row old
        exact ⟨named, since.trans later, plain⟩
      rw [Inbox.get?_claim] at found
      split at found
      · next same =>
          cases same
          unfold Inbox.claimed at found
          cases stood : before.inbox.rows.get? updateId with
          | none =>
              rw [stood] at found
              cases found
              exact ⟨rfl, le_refl _, fun _ => rfl⟩
          | some old =>
              rw [stood] at found
              cases found
              exact kept stood
      · exact kept found
  | close poll handling sight replyId closes =>
      change (before.inbox.complete _ _ _ _).rows.get? updateId = some row at found
      rw [Inbox.get?_complete] at found
      split at found
      · next same =>
          cases same
          obtain ⟨old, stood, rfl⟩ := Option.map_eq_some_iff.mp found
          obtain ⟨named, since, -⟩ := holds.rows _ old stood
          exact ⟨named, since, fun received => nomatch received⟩
      · exact holds.rows updateId row found
  | finish poll polls ended =>
      refine holds.rows updateId row ?_
      change (if poll.batch = [] then before.inbox else _).rows.get? updateId = some row at found
      split at found
      · exact found
      · exact found
  | _ => exact holds.rows updateId row found

/-- The row of the command in hand counts as no mission. -/
theorem inHand_plain (holds : Capped config before) (handling : Handling)
    (inHand : Phase.handling? before.phase = some handling) (row : InboxRow)
    (found : before.inbox.rows.get? handling.updateId = some row) : row.mission = false := by
  obtain ⟨-, held, here, received⟩ := holds.inHand handling inHand
  cases found.symm.trans here
  exact (holds.rows _ row found).2.2 received

theorem handled_step (holds : Capped config before) (taken : Step config before after) (updateId : Nat) (now : Int)
    (handled : .handled updateId now ∈ after.past) : now ≤ after.clock ∧
      ∃ row, after.inbox.rows.get? updateId = some row ∧ row.receivedAt ≤ now ∧
        (row.mission = true → dayOf now = dayOf row.receivedAt) := by
  cases taken with
  | claim poll other rest text date clock polls head new command later undone =>
      show now ≤ clock ∧ ∃ row, (before.inbox.claim other clock).rows.get? updateId = some row ∧ _
      rw [Inbox.get?_claim]
      rcases List.mem_cons.mp handled with same | earlier
      · cases same
        refine ⟨le_refl _, before.inbox.claimed updateId now, if_pos rfl, ?_⟩
        unfold Inbox.claimed
        cases stood : before.inbox.rows.get? updateId with
        | none => exact ⟨le_refl _, fun mission => nomatch mission⟩
        | some old =>
            obtain ⟨-, since, plain⟩ := holds.rows updateId old stood
            refine ⟨since.trans later, fun mission => ?_⟩
            rw [Option.getD_some, plain (undone old stood)] at mission
            cases mission
      · obtain ⟨bound, row, found, since, days⟩ := holds.handled updateId now earlier
        refine ⟨bound.trans later, row, ?_, since, days⟩
        split
        · next same =>
            rw [Inbox.claimed, ← same, found]
            rfl
        · exact found
  | speak poll handling sight replies =>
      rcases List.mem_cons.mp handled with same | earlier
      · cases same
      · exact holds.handled updateId now earlier
  | close poll handling sight replyId closes =>
      obtain ⟨bound, row, found, since, days⟩ := holds.handled updateId now handled
      refine ⟨bound, ?_⟩
      show ∃ row, (before.inbox.complete _ _ _ _).rows.get? updateId = some row ∧ _
      rw [Inbox.get?_complete]
      split
      · next same =>
          cases same
          rw [found]
          refine ⟨_, rfl, since, fun mission => ?_⟩
          obtain ⟨asked, -⟩ := holds.settled handling sight (by rw [closes]; rfl)
          obtain ⟨clock, -⟩ := holds.inHand handling (by rw [closes]; rfl)
          have day := (asked mission).received row found
          show dayOf now = dayOf row.receivedAt
          refine le_antisymm ?_ (dayOf_mono since)
          rw [day, clock]
          exact dayOf_mono bound
      · exact ⟨row, found, since, days⟩
  | finish poll polls ended =>
      rcases List.mem_cons.mp handled with same | earlier
      · cases same
      · obtain ⟨bound, row, found, rest⟩ := holds.handled updateId now earlier
        refine ⟨bound, row, ?_, rest⟩
        show (if poll.batch = [] then before.inbox else _).rows.get? updateId = some row
        split
        · exact found
        · exact found
  | _ => exact holds.handled updateId now handled

theorem inHand_step (holds : Capped config before) (taken : Step config before after) (handling : Handling)
    (inHand : Phase.handling? after.phase = some handling) : handling.now = after.clock ∧
      ∃ row, after.inbox.rows.get? handling.updateId = some row ∧ row.state = .received := by
  cases taken with
  | claim poll updateId rest text date now polls head new command later undone =>
      cases inHand
      refine ⟨rfl, before.inbox.claimed updateId now, ?_, ?_⟩
      · show (before.inbox.claim updateId now).rows.get? updateId = _
        rw [Inbox.get?_claim, if_pos rfl]
      · unfold Inbox.claimed
        cases stood : before.inbox.rows.get? updateId with
        | none => rfl
        | some old => exact undone old stood
  | decide poll other read claims settles => exact holds.inHand handling (by rw [claims]; exact inHand)
  | ask poll other read claims asks => exact holds.inHand handling (by rw [claims]; exact inHand)
  | doorTakes updateId taskId sent => exact holds.inHand handling inHand
  | accept poll other sight taskId asks admitted => exact holds.inHand handling (by rw [asks]; exact inHand)
  | fail poll other sight reason asks => exact holds.inHand handling (by rw [asks]; exact inHand)
  | speak poll other sight replies => exact holds.inHand handling (by rw [replies]; exact inHand)
  | deliver outbox same => exact holds.inHand handling inHand
  | _ => cases inHand

theorem asking_step (holds : Capped config before) (taken : Step config before after) (orderly : Orderly before after)
    (poll : Poll) (handling : Handling) (sight : Sight) (asks : after.phase = .asking poll handling sight) :
    Asked config after handling sight := by
  have sameDay := orderly.sameDay poll handling sight
  cases taken with
  | ask earlier other read claims goes =>
      cases asks
      refine ⟨goes, ?_, sameDay claims rfl⟩
      exact missionsOn_le_count handling.now (fun other row found => (holds.rows other row found).1)
        (holds.inHand_plain handling (by rw [claims]; rfl))
  | doorTakes updateId taskId sent =>
      have asked := holds.asking poll handling sight asks
      exact ⟨asked.asks, asked.counted, asked.received⟩
  | deliver outbox same =>
      have asked := holds.asking poll handling sight asks
      exact ⟨asked.asks, asked.counted, asked.received⟩
  | _ => cases asks

/-- The command in hand has no task before the door is asked. -/
theorem not_tasked (holds : Capped config before) {poll : Poll} {handling : Handling}
    (claims : before.phase = .claimed poll handling) : ¬ Tasked before handling.updateId := by
  intro tasked
  rcases holds.tasked handling.updateId tasked with ⟨row, found, mission⟩ | ⟨other, sight, sighted, -⟩
  · have plain := holds.inHand_plain handling (by rw [claims]; rfl) row found
    rw [plain] at mission
    cases mission
  · rw [claims] at sighted
    cases sighted

theorem settled_step (holds : Capped config before) (taken : Step config before after) (orderly : Orderly before after)
    (handling : Handling) (sight : Sight) (settled : Phase.settled? after.phase = some (handling, sight)) :
    ((handling.answer config sight).mission = true → Asked config after handling sight) ∧
      ((handling.answer config sight).mission = false → ¬ Tasked after handling.updateId) := by
  cases taken with
  | decide poll other read claims settles =>
      cases settled
      refine ⟨fun mission => ?_, fun _ => holds.not_tasked claims⟩
      exact absurd ((respond_mission _ _).mp mission).1 settles
  | doorTakes updateId taskId sent =>
      obtain ⟨asked, untasked⟩ := holds.settled handling sight settled
      refine ⟨fun mission => ?_, fun plain tasked => ?_⟩
      · have earlier := asked mission
        exact ⟨earlier.asks, earlier.counted, earlier.received⟩
      · rcases orderly.awaited handling.updateId tasked with earlier | ⟨poll, other, seen, asking, -⟩
        · exact untasked plain earlier
        · change Phase.settled? before.phase = _ at settled
          rw [asking] at settled
          cases settled
  | accept poll other seen taskId asks admitted =>
      cases settled
      have asked := holds.asking poll handling seen asks
      refine ⟨fun _ => ⟨asked.asks, asked.counted, asked.received⟩, fun plain => ?_⟩
      have mission := (@respond_mission config (handling.command config)
        { seen with door := some (.ok taskId) }).mpr ⟨asked.asks, taskId, rfl⟩
      rw [Handling.answer, mission] at plain
      cases plain
  | fail poll other seen reason asks =>
      cases settled
      refine ⟨fun mission => ?_, fun _ tasked => orderly.believed poll handling seen reason asks tasked rfl⟩
      obtain ⟨-, taskId, answered⟩ := (respond_mission _ _).mp mission
      cases answered
  | speak poll other seen replies =>
      cases settled
      obtain ⟨asked, untasked⟩ := holds.settled handling sight (by rw [replies]; rfl)
      refine ⟨fun mission => ?_, untasked⟩
      have earlier := asked mission
      exact ⟨earlier.asks, earlier.counted, earlier.received⟩
  | deliver outbox same =>
      obtain ⟨asked, untasked⟩ := holds.settled handling sight settled
      refine ⟨fun mission => ?_, untasked⟩
      have earlier := asked mission
      exact ⟨earlier.asks, earlier.counted, earlier.received⟩
  | _ => cases settled

/-- While no handling has gone on to the door, every task belongs to a closed mission. -/
theorem recorded_of_unsighted (holds : Capped config before) (unsighted : Phase.sighted? before.phase = none)
    {updateId : Nat} (tasked : Tasked before updateId) :
    ∃ row, before.inbox.rows.get? updateId = some row ∧ row.mission = true := by
  rcases holds.tasked updateId tasked with recorded | ⟨handling, sight, sighted, -⟩
  · exact recorded
  · rw [unsighted] at sighted
    cases sighted

theorem tasked_step (holds : Capped config before) (taken : Step config before after) (orderly : Orderly before after)
    (updateId : Nat) (tasked : Tasked after updateId) :
    (∃ row, after.inbox.rows.get? updateId = some row ∧ row.mission = true) ∨
      ∃ handling sight, Phase.sighted? after.phase = some (handling, sight) ∧ handling.updateId = updateId := by
  have goesOn := orderly.goesOn
  cases taken with
  | claim poll other rest text date now polls head new command later undone =>
      obtain ⟨row, found, mission⟩ := holds.recorded_of_unsighted (by rw [polls]; rfl) tasked
      refine .inl ⟨row, ?_, mission⟩
      show (before.inbox.claim other now).rows.get? updateId = some row
      rw [Inbox.get?_claim]
      split
      · next same =>
          rw [Inbox.claimed, ← same, found]
          rfl
      · exact found
  | decide poll other read claims settles =>
      exact .inl (holds.recorded_of_unsighted (by rw [claims]; rfl) tasked)
  | ask poll other read claims asks =>
      exact .inl (holds.recorded_of_unsighted (by rw [claims]; rfl) tasked)
  | doorTakes other taskId sent =>
      rcases orderly.awaited updateId tasked with earlier | ⟨poll, handling, sight, asking, same⟩
      · exact holds.tasked updateId earlier
      · exact .inr ⟨handling, sight, by rw [asking]; rfl, same⟩
  | accept poll other seen taskId asks admitted =>
      rcases holds.tasked updateId tasked with recorded | ⟨handling, sight, sighted, same⟩
      · exact .inl recorded
      · rw [asks] at sighted
        cases sighted
        exact .inr ⟨other, _, rfl, same⟩
  | fail poll other seen reason asks =>
      rcases holds.tasked updateId tasked with recorded | ⟨handling, sight, sighted, same⟩
      · exact .inl recorded
      · rw [asks] at sighted
        cases sighted
        exact .inr ⟨other, _, rfl, same⟩
  | speak poll other seen replies =>
      rcases holds.tasked updateId tasked with recorded | ⟨handling, sight, sighted, same⟩
      · exact .inl recorded
      · rw [replies] at sighted
        cases sighted
        exact .inr ⟨other, _, rfl, same⟩
  | close poll handling sight replyId closes =>
      left
      show ∃ row, (before.inbox.complete _ _ _ _).rows.get? updateId = some row ∧ _
      obtain ⟨-, held, here, -⟩ := holds.inHand handling (by rw [closes]; rfl)
      by_cases same : updateId = handling.updateId
      · subst same
        cases answered : (handling.answer config sight).mission with
        | true => exact ⟨closedRow held _ _ _, by rw [Inbox.get?_complete, if_pos rfl, here]; rfl, answered⟩
        | false =>
            have settled := holds.settled handling sight (by rw [closes]; rfl)
            exact absurd tasked (settled.2 answered)
      · rcases holds.tasked updateId tasked with ⟨row, found, mission⟩ | ⟨other, seen, sighted, named⟩
        · exact ⟨row, by rw [Inbox.get?_complete, if_neg same]; exact found, mission⟩
        · rw [closes] at sighted
          cases sighted
          exact absurd named.symm same
  | finish poll polls ended =>
      obtain ⟨row, found, mission⟩ := holds.recorded_of_unsighted (by rw [polls]; rfl) tasked
      refine .inl ⟨row, ?_, mission⟩
      show (if poll.batch = [] then before.inbox else _).rows.get? updateId = some row
      split
      · exact found
      · exact found
  | deliver outbox same => exact holds.tasked updateId tasked
  | crash =>
      rcases holds.tasked updateId tasked with recorded | ⟨handling, sight, sighted, same⟩
      · exact .inl recorded
      · have inHand : Phase.handling? before.phase = some handling := by
          cases reached : before.phase with
          | idle => rw [reached] at sighted; cases sighted
          | polling poll => rw [reached] at sighted; cases sighted
          | claimed poll held => rw [reached] at sighted; cases sighted
          | asking poll held seen => rw [reached] at sighted; cases sighted; rfl
          | replying poll held seen => rw [reached] at sighted; cases sighted; rfl
          | closing poll held seen replyId => rw [reached] at sighted; cases sighted; rfl
        exact absurd rfl (goesOn handling inHand (same ▸ tasked))
  | begin batch idle =>
      exact .inl (holds.recorded_of_unsighted (by rw [idle]; rfl) tasked)
  | below poll other rest polls head old =>
      exact .inl (holds.recorded_of_unsighted (by rw [polls]; rfl) tasked)
  | ignore poll other rest polls head new ignored =>
      exact .inl (holds.recorded_of_unsighted (by rw [polls]; rfl) tasked)
  | turnAway poll other rest polls head new unauthorised =>
      exact .inl (holds.recorded_of_unsighted (by rw [polls]; rfl) tasked)
  | press poll other rest queryId data messageId polls head new pressed =>
      exact .inl (holds.recorded_of_unsighted (by rw [polls]; rfl) tasked)
  | repeated poll other rest text date row polls head new command found done =>
      exact .inl (holds.recorded_of_unsighted (by rw [polls]; rfl) tasked)

theorem within_step (holds : Capped config before) (taken : Step config before after) (day : Int) :
    missionsOn after.inbox day ≤ config.limits.dailyMissionCap := by
  cases taken with
  | claim poll updateId rest text date now polls head new command later undone =>
      exact (missionsOn_claim _ _ _ _).trans (holds.within day)
  | close poll handling sight replyId closes =>
      refine (missionsOn_complete _ _ _ _ _ _).trans ?_
      split
      · next counted =>
          obtain ⟨mission, row, found, received⟩ := counted
          obtain ⟨asked, -⟩ := holds.settled handling sight (by rw [closes]; rfl)
          have stands := asked mission
          have count := stands.counted
          rw [← stands.received row found, received] at count
          have room := stands.asks.2.2
          omega
      · exact holds.within day
  | finish poll polls ended =>
      show missionsOn (if poll.batch = [] then before.inbox else _) day ≤ _
      split
      · exact holds.within day
      · exact holds.within day
  | _ => exact holds.within day

/-- What one orderly step preserves. -/
theorem step (holds : Capped config before) (taken : Step config before after) (orderly : Orderly before after) :
    Capped config after where
  rows := holds.rows_step taken
  handled := holds.handled_step taken
  inHand := holds.inHand_step taken
  asking := holds.asking_step taken orderly
  settled := holds.settled_step taken orderly
  tasked := holds.tasked_step taken orderly
  within := holds.within_step taken

end Capped

/-- What a whole orderly run preserves. -/
theorem OrderlyRun.capped {operator : Operator} (run : OrderlyRun config operator) : Capped config operator := by
  induction run with
  | start clock => exact .start clock
  | step _ taken orderly ih => exact ih.step taken orderly

/-! ## The cap -/

/-- A choice of different values for different keys has no more keys than there are values. -/
theorem length_le_of_chosen {α β : Type} (tasks : List α) (distinct : tasks.Nodup) (values : List β)
    (Chosen : α → β → Prop) (single : ∀ first second value, Chosen first value → Chosen second value → first = second)
    (chosen : ∀ task ∈ tasks, ∃ value ∈ values, Chosen task value) : tasks.length ≤ values.length := by
  classical
  induction tasks generalizing values with
  | nil => exact Nat.zero_le _
  | cons task rest ih =>
      obtain ⟨fresh, restDistinct⟩ := List.nodup_cons.mp distinct
      obtain ⟨value, inside, here⟩ := chosen task List.mem_cons_self
      have others : ∀ other ∈ rest, ∃ kept ∈ values.erase value, Chosen other kept := by
        intro other member
        obtain ⟨found, listed, there⟩ := chosen other (List.mem_cons_of_mem _ member)
        refine ⟨found, (List.mem_erase_of_ne ?_).mpr listed, there⟩
        rintro rfl
        exact fresh (single task other found here there ▸ member)
      have shorter := ih restDistinct (values.erase value) others
      rw [List.length_erase_of_mem inside] at shorter
      have positive := List.length_pos_of_mem inside
      rw [List.length_cons]
      omega

/-- The updates with a mission of this day in the inbox, and the one in hand. -/
def countedUpdates (operator : Operator) (day : Int) : List Nat :=
  (operator.inbox.rows.values.filter (isMissionOn day)).map InboxRow.updateId

theorem length_countedUpdates (operator : Operator) (day : Int) :
    (countedUpdates operator day).length = missionsOn operator.inbox day := by
  rw [countedUpdates, List.length_map, missionsOn, List.countP_eq_length_filter]

namespace Capped

variable {operator : Operator}

/-- A closed mission is counted on every day on which its update was handled. -/
theorem mem_countedUpdates (holds : Capped config operator) {updateId : Nat} {row : InboxRow} {day : Int}
    (found : operator.inbox.rows.get? updateId = some row) (mission : row.mission = true)
    (handled : HandledOn operator day updateId) : updateId ∈ countedUpdates operator day := by
  obtain ⟨now, event, rfl⟩ := handled
  obtain ⟨-, held, here, -, days⟩ := holds.handled updateId now event
  cases found.symm.trans here
  refine List.mem_map.mpr ⟨row, List.mem_filter.mpr ⟨JsMap.mem_values.mpr ⟨updateId, found⟩, ?_⟩,
    (holds.rows updateId row found).1⟩
  simp only [isMissionOn, mission, days mission, decide_true, Bool.and_self]

/-- A command that has gone on to the door was handled on the day of its claim only. -/
theorem day_of_asked (holds : Capped config operator) {handling : Handling} {sight : Sight}
    (inHand : Phase.handling? operator.phase = some handling) (asked : Asked config operator handling sight) {day : Int}
    (handled : HandledOn operator day handling.updateId) : day = dayOf handling.now := by
  obtain ⟨now, event, rfl⟩ := handled
  obtain ⟨bound, row, found, since, -⟩ := holds.handled _ now event
  obtain ⟨clock, -⟩ := holds.inHand handling inHand
  refine le_antisymm ?_ ?_
  · rw [clock]
    exact dayOf_mono bound
  · rw [← asked.received row found]
    exact dayOf_mono since

theorem within_cap (holds : Capped config operator) : WithinCap config operator := by
  intro day tasks distinct placed
  have single : ∀ first second updateId, operator.door.get? (idempotencyKeyFor updateId) = some first →
      operator.door.get? (idempotencyKeyFor updateId) = some second → first = second :=
    fun first second updateId one two => Option.some.inj (one.symm.trans two)
  by_cases pending : ∃ handling sight, Phase.sighted? operator.phase = some (handling, sight) ∧
      Tasked operator handling.updateId ∧ HandledOn operator day handling.updateId
  · obtain ⟨handling, sight, sighted, tasked, handled⟩ := pending
    have inHand : Phase.handling? operator.phase = some handling ∧ Asked config operator handling sight := by
      have answered : Phase.settled? operator.phase = some (handling, sight) → Asked config operator handling sight := by
        intro settled
        obtain ⟨asked, untasked⟩ := holds.settled handling sight settled
        cases mission : (handling.answer config sight).mission with
        | true => exact asked mission
        | false => exact absurd tasked (untasked mission)
      cases reached : operator.phase with
      | idle => rw [reached] at sighted; cases sighted
      | polling poll => rw [reached] at sighted; cases sighted
      | claimed poll held => rw [reached] at sighted; cases sighted
      | asking poll held seen =>
          rw [reached] at sighted
          cases sighted
          exact ⟨rfl, holds.asking poll handling sight reached⟩
      | replying poll held seen =>
          rw [reached] at sighted answered
          cases sighted
          exact ⟨rfl, answered rfl⟩
      | closing poll held seen replyId =>
          rw [reached] at sighted answered
          cases sighted
          exact ⟨rfl, answered rfl⟩
    obtain ⟨held, asked⟩ := inHand
    have today := holds.day_of_asked held asked handled
    have room := asked.asks.2.2
    have count := asked.counted
    rw [← today] at count
    have bound := length_le_of_chosen tasks distinct (handling.updateId :: countedUpdates operator day) _ single (by
      intro taskId member
      obtain ⟨updateId, found, on⟩ := placed taskId member
      refine ⟨updateId, ?_, found⟩
      rcases holds.tasked updateId ⟨taskId, found⟩ with ⟨row, stands, mission⟩ | ⟨other, seen, there, rfl⟩
      · exact List.mem_cons_of_mem _ (holds.mem_countedUpdates stands mission on)
      · rw [sighted] at there
        cases there
        exact List.mem_cons_self)
    rw [List.length_cons, length_countedUpdates] at bound
    omega
  · have bound := length_le_of_chosen tasks distinct (countedUpdates operator day) _ single (by
      intro taskId member
      obtain ⟨updateId, found, on⟩ := placed taskId member
      refine ⟨updateId, ?_, found⟩
      rcases holds.tasked updateId ⟨taskId, found⟩ with ⟨row, stands, mission⟩ | ⟨handling, sight, sighted, rfl⟩
      · exact holds.mem_countedUpdates stands mission on
      · exact absurd ⟨handling, sight, sighted, ⟨taskId, found⟩, on⟩ pending)
    rw [length_countedUpdates] at bound
    exact bound.trans (holds.within day)

end Capped

/-- In an orderly run the door never has more tasks for the updates of a day than the cap allows. -/
theorem daily_cap_kept {operator : Operator} (run : OrderlyRun config operator) : WithinCap config operator :=
  run.capped.within_cap

/-! ## A lost answer -/

/-- Every update is the same mission, and one mission a day is allowed. -/
def missionConfig : Config :=
  ⟨.ascii, ⟨js "42", 1, 20⟩, false, false, fun _ => sampleUpdate (some (js "/brief a/b"))⟩

def firstTask : Id := ⟨js "09000000-0000-4000-8000-000000000001", by decide +kernel⟩

def secondTask : Id := ⟨js "09000000-0000-4000-8000-000000000002", by decide +kernel⟩

/-- The handling of an update of the sample, at the start of the first day. -/
def sampleHandling (updateId : Nat) : Handling := ⟨updateId, js "/brief a/b", 1700000000, 0⟩

theorem sample_command (updateId : Nat) : IsCommand missionConfig updateId (js "/brief a/b") 1700000000 := rfl

/-- What the first handling has seen when the door's answer is lost. -/
def lostSight : Sight :=
  { look missionConfig (Inbox.empty.claim 1 0) 1 0 .unavailable with door := some (.failed .unavailable) }

/-- The inbox after the first handling. -/
def lostInbox : Inbox :=
  ((Inbox.empty.claim 1 0).complete 1 ((sampleHandling 1).command missionConfig)
    ((sampleHandling 1).answer missionConfig lostSight) ((sampleHandling 1).replyId missionConfig lostSight)).advanceOffset 2 0

def afterLoss : Operator :=
  ⟨lostInbox, (sampleHandling 1).speak missionConfig lostSight .empty, admitTask .empty 1 firstTask, [1], [], 0, .idle,
    [.finished 0 [1], .spoke 1 lostSight, .handled 1 0]⟩

theorem afterLoss_reached : Reachable missionConfig afterLoss := by
  have begun : Reachable missionConfig _ := Reachable.step (.start 0) (.begin [1] rfl)
  have claimed := begun.step (.claim _ 1 [] _ _ 0 rfl (by decide +kernel) (Nat.zero_le _) (sample_command 1) (le_refl _)
    (fun _ found => nomatch found))
  have asked := claimed.step (.ask _ (sampleHandling 1) .unavailable rfl (by decide +kernel))
  have taken := asked.step (.doorTakes 1 firstTask List.mem_cons_self)
  have failed := taken.step (.fail _ (sampleHandling 1) _ .unavailable rfl)
  have spoken := failed.step (.speak _ (sampleHandling 1) _ rfl)
  have closed := spoken.step (.close _ (sampleHandling 1) _ _ rfl)
  have finished := closed.step (.finish _ rfl rfl)
  exact finished

/-- The door has taken a mission of each update of the day. -/
def afterSecond : Operator :=
  { afterLoss with
    inbox := lostInbox.claim 2 0, door := admitTask afterLoss.door 2 secondTask, sent := [2, 1],
    phase := .asking ((Poll.begin 2 [2]).after 2 [] 0) (sampleHandling 2)
      (look missionConfig (lostInbox.claim 2 0) 2 0 .unavailable),
    past := .handled 2 0 :: afterLoss.past }

theorem afterSecond_reached : Reachable missionConfig afterSecond := by
  have begun : Reachable missionConfig _ := afterLoss_reached.step (.begin [2] rfl)
  have claimed := begun.step (.claim _ 2 [] _ _ 0 rfl (by decide +kernel) (by decide +kernel) (sample_command 2) (le_refl _)
    (by
      intro row found
      have absent : afterLoss.inbox.rows.get? 2 = none := by decide +kernel
      exact absurd (absent.symm.trans found) nofun))
  have asked := claimed.step (.ask _ (sampleHandling 2) .unavailable rfl (by decide +kernel))
  have taken := asked.step (.doorTakes 2 secondTask List.mem_cons_self)
  exact taken

/-- The answer to the first mission is lost, and the second one is taken as well. -/
theorem lost_answer_exceeds_cap : Reachable missionConfig afterSecond ∧ ¬ WithinCap missionConfig afterSecond := by
  refine ⟨afterSecond_reached, fun within => ?_⟩
  have distinct : [firstTask, secondTask].Nodup := by decide +kernel
  have bound := within 0 [firstTask, secondTask] distinct (by
    intro taskId member
    rcases List.mem_cons.mp member with rfl | last
    · exact ⟨1, by decide +kernel, 0, .tail _ (.tail _ (.tail _ (.head _))), by decide⟩
    · cases List.mem_singleton.mp last
      exact ⟨2, by decide +kernel, 0, .head _, by decide⟩)
  exact absurd bound (by decide)

/-! ## A mission that is counted -/

/-- A step that leaves the door alone and does not end the poll is orderly, where the door is believed and asked on
the day of the claim. -/
theorem Orderly.of_awake {before after : Operator} (awake : after.phase ≠ .idle) (same : after.door = before.door)
    (believed : ∀ poll handling sight reason, before.phase = .asking poll handling sight →
      after.phase ≠ .replying poll handling { sight with door := some (.failed reason) })
    (sameDay : ∀ poll handling sight, before.phase = .claimed poll handling → after.phase = .asking poll handling sight →
      ∀ row, before.inbox.rows.get? handling.updateId = some row → dayOf row.receivedAt = dayOf handling.now) :
    Orderly before after where
  goesOn := fun _ _ _ => awake
  believed := fun poll handling sight reason asks _ => believed poll handling sight reason asks
  awaited := fun updateId tasked => .inl (by unfold Tasked at tasked ⊢; rwa [same] at tasked)
  sameDay := sameDay

theorem idempotencyKeyFor_injective : Function.Injective idempotencyKeyFor :=
  fun _ _ same => decimal_injective (List.append_cancel_left same)

/-- What the first handling has seen when the door's answer came. -/
def heardSight : Sight :=
  { look missionConfig (Inbox.empty.claim 1 0) 1 0 .unavailable with door := some (.ok firstTask) }

/-- The first mission was taken, its reply queued and its row closed. -/
def afterMission : Operator :=
  ⟨(Inbox.empty.claim 1 0).complete 1 ((sampleHandling 1).command missionConfig)
      ((sampleHandling 1).answer missionConfig heardSight) ((sampleHandling 1).replyId missionConfig heardSight),
    (sampleHandling 1).speak missionConfig heardSight .empty, admitTask .empty 1 firstTask, [1], [], 0,
    .polling ((Poll.begin 0 [1]).after 1 [] 0), [.spoke 1 heardSight, .handled 1 0]⟩

theorem afterMission_orderly : OrderlyRun missionConfig afterMission := by
  have begun : OrderlyRun missionConfig _ := .step (.start 0) (.begin [1] rfl)
    (.of_awake nofun rfl (fun _ _ _ _ asks => nomatch asks) fun _ _ _ claims => nomatch claims)
  have claimed := begun.step
    (.claim _ 1 [] _ _ 0 rfl (by decide +kernel) (Nat.zero_le _) (sample_command 1) (le_refl _)
      (fun _ found => nomatch found))
    (.of_awake nofun rfl (fun _ _ _ _ asks => nomatch asks) fun _ _ _ claims => nomatch claims)
  have asked := claimed.step (.ask _ (sampleHandling 1) .unavailable rfl (by decide +kernel))
    (.of_awake nofun rfl (fun _ _ _ _ asks => nomatch asks) (by
      intro poll handling sight claims asks row found
      cases claims
      cases found
      rfl))
  have taken := asked.step (.doorTakes 1 firstTask List.mem_cons_self)
    (by
      refine ⟨fun _ _ _ => nofun, fun _ _ _ _ _ _ => nofun, ?_, fun _ _ _ claims => nomatch claims⟩
      rintro updateId ⟨taskId, found⟩
      refine .inr ⟨_, sampleHandling 1, _, rfl, ?_⟩
      by_contra other
      have apart : idempotencyKeyFor 1 ≠ idempotencyKeyFor updateId := fun same => other (idempotencyKeyFor_injective same)
      change (JsMap.empty.set (idempotencyKeyFor 1) firstTask).get? (idempotencyKeyFor updateId) = some taskId at found
      rw [JsMap.get?_set, if_neg apart] at found
      cases found)
  have heard := taken.step (.accept _ (sampleHandling 1) _ firstTask rfl (by decide +kernel))
    (.of_awake nofun rfl (by
      intro poll handling sight reason asks answered
      have doors : some (AdmitResult.ok firstTask) = some (.failed reason) :=
        congrArg (fun phase => (Phase.settled? phase).bind fun pair => pair.2.door) answered
      cases doors) fun _ _ _ claims => nomatch claims)
  have spoken := heard.step (.speak _ (sampleHandling 1) _ rfl)
    (.of_awake nofun rfl (fun _ _ _ _ asks => nomatch asks) fun _ _ _ claims => nomatch claims)
  have closed := spoken.step (.close _ (sampleHandling 1) _ _ rfl)
    (.of_awake nofun rfl (fun _ _ _ _ asks => nomatch asks) fun _ _ _ claims => nomatch claims)
  exact closed

theorem afterMission_within_cap : OrderlyRun missionConfig afterMission ∧
    HandledOn afterMission 0 1 ∧ WithinCap missionConfig afterMission :=
  ⟨afterMission_orderly, ⟨0, .tail _ (.head _), by decide⟩, daily_cap_kept afterMission_orderly⟩

end KernelJson.Telegram.DailyCap
