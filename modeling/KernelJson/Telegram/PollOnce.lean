import KernelJson.Telegram.Operator

/-!
# One poll of the channel

`pollOnce` and `handleCommand` as programs over the inbox, the outbox and the
ports, which may fail at any call.  What the poll does for the updates of the
configured operator does not depend on the other updates of the batch.
-/

namespace KernelJson.Telegram.PollOnce

open Alerting.OutboxStores
open Foundation
open Foundation.JsText
open Telegram.Commands
open Telegram.Operator

/-! ## The world -/

/-- An update under its identifier. -/
structure Update where
  updateId : Nat
  raw : RawUpdate

/-- What `approvals.handle` is given. -/
structure Press where
  updateId : Nat
  queryId : JsString
  data : Option JsString
  messageId : Option Int
deriving DecidableEq

/-- What the poll asks of its ports; reads of the inbox and the clock are not listed. -/
inductive Call where
  | deliverDue
  | service
  | press (press : Press)
  | read (updateId : Nat) (command : Command)
  | admitMission (updateId : Nat) (command : Command)
  | deliver (notificationIds : List JsString)
deriving DecidableEq

structure World (Env : Type) where
  inbox : Inbox
  outbox : OutboxRows
  calls : List Call
  env : Env

/-- The ports and the clock; `none` is a call that throws. -/
structure Ports (Env : Type) where
  now : Env → Int × Env
  store : Env → Bool × Env
  deliverDue : Env → Option Unit × Env
  service : Env → Option Nat × Env
  press : Press → Env → Option Bool × Env
  read : Nat → Command → Env → Option ReadAnswer × Env
  statusView : List JsString → Nat → List JsString
  admitMission : Nat → Command → Env → Option AdmitResult × Env
  deliver : List JsString → Env → Option Unit × Env

/-- A program that ends with a value or throws, and leaves a world either way. -/
abbrev Poll (Env : Type) : Type → Type := ExceptT Unit (StateM (World Env))

section Programs

variable {Env : Type} (config : Config) (ports : Ports Env)

/-! ## Calls -/

def clock : Poll Env Int := fun world =>
  (.ok (ports.now world.env).1, { world with env := (ports.now world.env).2 })

/-- A call of a store, which throws when the store is not reached. -/
def stored {α : Type} (effect : Inbox → OutboxRows → α × Inbox × OutboxRows) : Poll Env α := fun world =>
  let env := (ports.store world.env).2
  if (ports.store world.env).1 then
    let done := effect world.inbox world.outbox
    (.ok done.1, { world with inbox := done.2.1, outbox := done.2.2, env := env })
  else (.error (), { world with env := env })

/-- A call of a port. -/
def asked {α : Type} (call : Call) (port : Env → Option α × Env) : Poll Env α := fun world =>
  let after := { world with calls := world.calls ++ [call], env := (port world.env).2 }
  match (port world.env).1 with
  | none => (.error (), after)
  | some answer => (.ok answer, after)

def readInbox {α : Type} (read : Inbox → α) : Poll Env α :=
  stored ports fun inbox outbox => (read inbox, inbox, outbox)

/-! ## A command -/

/-- How the handling of an update ends. -/
inductive Outcome where
  | below
  | unauthorised
  | ignored
  | repeated
  | pressed (duplicate : Bool)
  | finished (disposition : Disposition) (replyId : Option JsString)

/-- `finish(reply, done)`. -/
def finish (updateId : Nat) (command : Command) (messageDate : Nat) (answer : Answer) : Poll Env Outcome := do
  let replyId ← match answer.reply with
    | none => pure none
    | some reply => stored ports fun inbox outbox =>
        (some (replyIdOf config updateId messageDate), inbox,
          enqueueReply config outbox updateId (renderReply reply) messageDate)
  stored ports fun inbox outbox => ((), inbox.complete updateId command answer replyId, outbox)
  pure (.finished answer.disposition replyId)

/-- What a command that is not limited reads and asks, and what it answers. -/
def answerCommand (updateId : Nat) (now : Int) (command : Command) : Poll Env Answer := do
  let unlimited := fun used read door => respond config command ⟨false, false, used, read, door⟩
  match command with
  | .malformed => pure (unlimited 0 .unavailable none)
  | .status =>
      let read ← asked (.read updateId command) (ports.read updateId command)
      let used ← readInbox ports fun inbox => inbox.countMissionsSince (dayStart now) updateId
      pure (unlimited used (match read with
        | .view lines => .view (ports.statusView lines used)
        | other => other) none)
  | .mission _ _ _ =>
      let used ← readInbox ports fun inbox => inbox.countMissionsSince (dayStart now) updateId
      if used < config.limits.dailyMissionCap then
        let admitted ← asked (.admitMission updateId command) (ports.admitMission updateId command)
        pure (unlimited used .unavailable (some admitted))
      else pure (unlimited used .unavailable none)
  | .task _ =>
      let read ← asked (.read updateId command) (ports.read updateId command)
      pure (unlimited 0 read none)
  | .remember _ | .memories | .memory _ | .forget _ =>
      if config.remembers then
        let read ← asked (.read updateId command) (ports.read updateId command)
        pure (unlimited 0 read none)
      else pure (unlimited 0 .unavailable none)

def handleCommand (updateId : Nat) (text : JsString) (messageDate : Nat) : Poll Env Outcome := do
  let now ← clock ports
  let command := parseCommand config.platform text
  let row ← stored ports fun inbox outbox => (inbox.claimed updateId now, inbox.claim updateId now, outbox)
  if row.state = .done then pure .repeated
  else
    let recent ← readInbox ports fun inbox => inbox.countRecent (now - minuteMs) updateId
    if config.limits.ratePerMinute ≤ recent then
      let told ← readInbox ports fun inbox => inbox.hasRecentRateNotice (now - minuteMs)
      finish config ports updateId command messageDate (respond config command ⟨true, told, 0, .unavailable, none⟩)
    else
      let answer ← answerCommand config ports updateId now command
      finish config ports updateId command messageDate answer

/-! ## A poll -/

/-- The body of the loop over the updates. -/
def handleUpdate (offset : Nat) (update : Update) : Poll Env Outcome :=
  if update.updateId < offset then pure .below
  else
    match classifyUpdate update.raw config.limits.chatId config.callbacks with
    | .unauthorised => pure .unauthorised
    | .ignored => pure .ignored
    | .callback queryId data messageId => do
        let press : Press := ⟨update.updateId, queryId, data, messageId⟩
        let duplicate ← asked (.press press) (ports.press press)
        pure (.pressed duplicate)
    | .command text date => handleCommand config ports update.updateId text date

structure PollSummary where
  polled : Bool
  received : Nat
  commands : Nat
  duplicates : Nat
  ignored : Nat
  unauthorised : Nat
  admitted : Nat
  answered : Nat
  refused : Nat
  callbacks : Nat
  cardsSent : Nat
  nextOffset : Nat
deriving DecidableEq

def PollSummary.start (cardsSent offset : Nat) : PollSummary :=
  ⟨true, 0, 0, 0, 0, 0, 0, 0, 0, 0, cardsSent, offset⟩

/-- The accumulators of the loop; `top` is `maxId + 1`. -/
structure Progress where
  summary : PollSummary
  top : Nat
  replyIds : List JsString
  pressed : Bool

/-- What an update adds to the summary. -/
def PollSummary.count (summary : PollSummary) : Outcome → PollSummary
  | .below => { summary with duplicates := summary.duplicates + 1 }
  | .unauthorised => { summary with unauthorised := summary.unauthorised + 1 }
  | .ignored => { summary with ignored := summary.ignored + 1 }
  | .repeated => { summary with duplicates := summary.duplicates + 1 }
  | .pressed duplicate =>
      if duplicate then { summary with duplicates := summary.duplicates + 1 }
      else { summary with callbacks := summary.callbacks + 1 }
  | .finished disposition _ =>
      let counted := { summary with commands := summary.commands + 1 }
      match disposition with
      | .admitted => { counted with admitted := counted.admitted + 1 }
      | .answered => { counted with answered := counted.answered + 1 }
      | _ => { counted with refused := counted.refused + 1 }

def Outcome.replyIds : Outcome → List JsString
  | .finished _ replyId => replyId.toList
  | _ => []

def Outcome.isPress : Outcome → Bool
  | .pressed _ => true
  | _ => false

def Progress.after (progress : Progress) (update : Update) (outcome : Outcome) : Progress where
  summary := progress.summary.count outcome
  top := max progress.top (update.updateId + 1)
  replyIds := progress.replyIds ++ outcome.replyIds
  pressed := progress.pressed || outcome.isPress

/-- The loop over the sorted updates. -/
def pollUpdates (offset : Nat) : List Update → Progress → Poll Env Progress
  | [], progress => pure progress
  | update :: rest, progress => do
      let outcome ← handleUpdate config ports offset update
      pollUpdates offset rest (progress.after update outcome)

/-- `updates.sort((a, b) => a.update_id - b.update_id)`. -/
def sortUpdates (updates : List Update) : List Update :=
  updates.insertionSort fun first second => first.updateId ≤ second.updateId

/-- `advanceOffset(maxId + 1, unauthorised, now)`, where there were updates. -/
def advance (updates : List Update) (progress : Progress) : Poll Env Nat :=
  if updates = [] then pure progress.summary.nextOffset
  else do
    let _ ← clock ports
    stored ports fun inbox outbox =>
      (progress.top, inbox.advanceOffset progress.top progress.summary.unauthorised, outbox)

/-- `if (replyIds.length > 0) await deps.deliver(replyIds)`. -/
def deliverReplies (replyIds : List JsString) : Poll Env Unit :=
  if replyIds = [] then pure () else asked (.deliver replyIds) (ports.deliver replyIds)

/-- `if (pressed && deps.approvals) await deps.approvals.service()`. -/
def serviceCards (pressed : Bool) : Poll Env Unit :=
  if pressed && config.callbacks then do
    let _ ← asked .service ports.service
    pure ()
  else pure ()

/-- What comes after the loop. -/
def finishPoll (updates : List Update) (progress : Progress) : Poll Env PollSummary := do
  let nextOffset ← advance ports updates progress
  deliverReplies ports progress.replyIds
  serviceCards config ports progress.pressed
  pure { progress.summary with nextOffset := nextOffset }

/-- `if (deps.approvals) summary.cardsSent = (await deps.approvals.service()).sent`. -/
def sendCards : Poll Env Nat := if config.callbacks then asked .service ports.service else pure 0

/-- What the poll does before it asks for updates: the cards that were sent and the offset. -/
def openPoll : Poll Env (Nat × Nat) := do
  asked .deliverDue ports.deliverDue
  let cardsSent ← sendCards config ports
  let offset ← readInbox ports Inbox.next
  pure (cardsSent, offset)

/-- The updates of an answer. -/
def pollBatch (updates : List Update) (cardsSent offset : Nat) : Poll Env PollSummary := do
  let summary := { PollSummary.start cardsSent offset with received := updates.length }
  let progress ← pollUpdates config ports offset (sortUpdates updates) ⟨summary, offset, [], false⟩
  finishPoll config ports updates progress

/-- `pollOnce(deps)`, where the source answers with these updates or fails. -/
def pollOnce (source : Option (List Update)) : Poll Env PollSummary := do
  let opened ← openPoll config ports
  match source with
  | none => pure { PollSummary.start opened.1 opened.2 with polled := false }
  | some updates => pollBatch config ports updates opened.1 opened.2

end Programs

/-! ## Updates of others -/

/-- The chat and the sender that the update names are those of the configured operator. -/
def FromOperator (chatId : JsString) (update : Update) : Prop :=
  (∃ query, update.raw.callbackQuery = .read query ∧ signedDecimal query.sender.id = chatId ∧
    ∀ message ∈ query.message, signedDecimal message.2.id = chatId) ∨
  ∃ message, update.raw.message = .read message ∧ signedDecimal message.chat.id = chatId ∧
    ∃ sender ∈ message.sender, signedDecimal sender.id = chatId

/-- An update of anyone else, of whatever shape, is turned away or ignored. -/
theorem classified_of_other {config : Config} {update : Update}
    (other : ¬ FromOperator config.limits.chatId update) :
    classifyUpdate update.raw config.limits.chatId config.callbacks = .unauthorised ∨
      classifyUpdate update.raw config.limits.chatId config.callbacks = .ignored := by
  have message : ∀ message, update.raw.message = .read message →
      classifyMessage message config.limits.chatId = .unauthorised := by
    intro message read
    refine if_neg fun allowed => other (.inr ⟨message, read, ?_⟩)
    obtain ⟨private_, sent⟩ := Bool.and_eq_true_iff.mp allowed
    obtain ⟨-, chat⟩ := Bool.and_eq_true_iff.mp private_
    cases named : message.sender with
    | none =>
        rw [named] at sent
        cases sent
    | some sender =>
        rw [named] at sent
        exact ⟨of_decide_eq_true chat, sender, rfl, of_decide_eq_true (Bool.and_eq_true_iff.mp sent).1⟩
  have callback : ∀ query, update.raw.callbackQuery = .read query →
      classifyCallback query config.limits.chatId = .unauthorised := by
    intro query read
    refine if_neg fun allowed => other (.inl ⟨query, read, ?_, fun message named => ?_⟩)
    · exact of_decide_eq_true (Bool.and_eq_true_iff.mp (Bool.and_eq_true_iff.mp allowed).1).1
    · have chat := (Bool.and_eq_true_iff.mp allowed).2
      rw [Option.mem_def.mp named] at chat
      exact of_decide_eq_true (Bool.and_eq_true_iff.mp chat).2
  have asMessage : classifyUpdate update.raw config.limits.chatId false = .unauthorised ∨
      classifyUpdate update.raw config.limits.chatId false = .ignored := by
    unfold classifyUpdate
    cases read : update.raw.message with
    | absent => exact .inr rfl
    | refused => exact .inr rfl
    | read held => exact .inl (message held read)
  cases config.callbacks with
  | false => exact asMessage
  | true =>
      unfold classifyUpdate at asMessage ⊢
      cases read : update.raw.callbackQuery with
      | absent => exact asMessage
      | refused => exact .inr rfl
      | read query => exact .inl (callback query read)

/-! ## Sorted batches -/

section Sorting

variable {α : Type} {related : α → α → Prop} [DecidableRel related]

theorem orderedInsert_of_first {value : α} {values : List α} (first : ∀ other ∈ values, related value other) :
    values.orderedInsert related value = value :: values := by
  cases values with
  | nil => rfl
  | cons other rest => exact if_pos (first other List.mem_cons_self)

theorem filter_orderedInsert (trans : ∀ one two three, related one two → related two three → related one three)
    (keeps : α → Bool) (value : α) {values : List α} (sorted : values.Pairwise related) :
    (values.orderedInsert related value).filter keeps =
      if keeps value then (values.filter keeps).orderedInsert related value else values.filter keeps := by
  induction sorted with
  | nil =>
      rw [List.orderedInsert_nil, List.filter_singleton]
      cases keeps value <;> rfl
  | @cons other rest before sorted ih =>
      by_cases here : related value other
      · have first : ∀ later ∈ (other :: rest).filter keeps, related value later := by
          intro later member
          rcases List.mem_cons.mp (List.mem_filter.mp member).1 with rfl | after
          · exact here
          · exact trans value other later here (before later after)
        rw [show (other :: rest).orderedInsert related value = value :: other :: rest from if_pos here,
          List.filter_cons, orderedInsert_of_first first]
      · rw [show (other :: rest).orderedInsert related value = other :: rest.orderedInsert related value from
          if_neg here, List.filter_cons, List.filter_cons, ih]
        cases keeps other with
        | false => rfl
        | true =>
            cases keeps value with
            | false => rfl
            | true => exact (if_neg here : ((other :: rest.filter keeps).orderedInsert related value) = _).symm

end Sorting

theorem sortUpdates_pairwise (updates : List Update) :
    (sortUpdates updates).Pairwise fun first second => first.updateId ≤ second.updateId := by
  unfold sortUpdates
  have total : Std.Total fun first second : Update => first.updateId ≤ second.updateId :=
    ⟨fun first second => Nat.le_total _ _⟩
  have trans : IsTrans Update fun first second => first.updateId ≤ second.updateId :=
    ⟨fun _ _ _ => Nat.le_trans⟩
  exact List.pairwise_insertionSort _ updates

theorem sortUpdates_filter (keeps : Update → Bool) (updates : List Update) :
    sortUpdates (updates.filter keeps) = (sortUpdates updates).filter keeps := by
  induction updates with
  | nil => rfl
  | cons update rest ih =>
      have inserted := @filter_orderedInsert Update (fun first second => first.updateId ≤ second.updateId) _
        (fun _ _ _ => Nat.le_trans) keeps update _ (sortUpdates_pairwise rest)
      rw [show sortUpdates (update :: rest) = (sortUpdates rest).orderedInsert
        (fun first second => first.updateId ≤ second.updateId) update from rfl, inserted, ← ih, List.filter_cons]
      cases keeps update <;> rfl

/-! ## Two polls -/

section Polls

variable {Env : Type} {config : Config} {ports : Ports Env}

theorem run_bind {α β : Type} (program : Poll Env α) (next : α → Poll Env β) (world : World Env) :
    (program >>= next) world = match program world with
      | (.ok value, after) => next value after
      | (.error fault, after) => (.error fault, after) := by
  cases ran : program world with
  | mk result after =>
      show (ExceptT.bind program next) world = _
      unfold ExceptT.bind ExceptT.mk
      show (StateT.bind program (ExceptT.bindCont next)) world = _
      unfold StateT.bind
      rw [ran]
      cases result <;> rfl

theorem run_pure {α : Type} (value : α) (world : World Env) :
    (pure value : Poll Env α) world = (.ok value, world) := rfl

/-- Two runs that both throw or both end with values that are related, in worlds that are related. -/
inductive Together {α : Type} (worlds : World Env → World Env → Prop) (values : α → α → Prop) :
    Except Unit α × World Env → Except Unit α × World Env → Prop where
  | failed {one two : World Env} (near : worlds one two) : Together worlds values (.error (), one) (.error (), two)
  | ended {one two : World Env} {first second : α} (near : worlds one two) (holds : values first second) :
      Together worlds values (.ok first, one) (.ok second, two)

/-- The worlds differ at most in the offset and in the total of the inbox. -/
structure Near (one two : World Env) : Prop where
  rows : one.inbox.rows = two.inbox.rows
  outbox : one.outbox = two.outbox
  calls : one.calls = two.calls
  env : one.env = two.env

theorem Together.bind {α β : Type} {early late : World Env → World Env → Prop} {values : α → α → Prop}
    {results : β → β → Prop} {one two : Poll Env α} {next after : α → Poll Env β} {here there : World Env}
    (first : Together early values (one here) (two there))
    (weaker : ∀ world world', early world world' → late world world')
    (rest : ∀ value value' world world', values value value' → early world world' →
      Together late results (next value world) (after value' world')) :
    Together late results ((one >>= next) here) ((two >>= after) there) := by
  rw [run_bind, run_bind]
  generalize one here = left at first
  generalize two there = right at first
  cases first with
  | failed near => exact .failed (weaker _ _ near)
  | ended near holds => exact rest _ _ _ _ holds near

theorem Together.self {α : Type} {program : Poll Env α} (world : World Env) :
    Together Eq Eq (program world) (program world) := by
  cases program world with
  | mk result after =>
      cases result with
      | error fault => exact .failed rfl
      | ok value => exact .ended rfl rfl

theorem Together.asked {α : Type} (call : Call) (port : Env → Option α × Env) {one two : World Env}
    (near : Near one two) : Together Near Eq (asked call port one) (asked call port two) := by
  obtain ⟨inbox, outbox, calls, env⟩ := one
  obtain ⟨inbox', outbox', calls', env'⟩ := two
  obtain ⟨rows, rfl, rfl, rfl⟩ := near
  unfold PollOnce.asked
  cases (port env).1 with
  | none => exact .failed ⟨rows, rfl, rfl, rfl⟩
  | some answer => exact .ended ⟨rows, rfl, rfl, rfl⟩ rfl

/-- The counts of what was handled are the same. -/
structure Alike (one two : PollSummary) : Prop where
  polled : one.polled = two.polled
  commands : one.commands = two.commands
  admitted : one.admitted = two.admitted
  answered : one.answered = two.answered
  refused : one.refused = two.refused
  callbacks : one.callbacks = two.callbacks
  cardsSent : one.cardsSent = two.cardsSent

/-- How many of the updates are below the offset. -/
def belowOffset (offset : Nat) (updates : List Update) : Nat :=
  updates.countP fun update => update.updateId < offset

/-- How many of the updates at or above the offset are classified as `outcome`. -/
def classifiedAs (config : Config) (offset : Nat) (updates : List Update) (outcome : Classified) : Nat :=
  updates.countP fun update => !decide (update.updateId < offset) &&
    decide (classifyUpdate update.raw config.limits.chatId config.callbacks = outcome)

/-- The first summary counts the updates besides what the second counts, and `more` received. -/
structure Beyond (config : Config) (offset more : Nat) (updates : List Update) (one two : PollSummary) : Prop where
  alike : Alike one two
  received : one.received = two.received + more
  duplicates : one.duplicates = two.duplicates + belowOffset offset updates
  ignored : one.ignored = two.ignored + classifiedAs config offset updates .ignored
  unauthorised : one.unauthorised = two.unauthorised + classifiedAs config offset updates .unauthorised

/-- Both summaries count one more outcome. -/
theorem Beyond.count {offset more : Nat} {updates : List Update} {one two : PollSummary}
    (beyond : Beyond config offset more updates one two) (outcome : Outcome) :
    Beyond config offset more updates (one.count outcome) (two.count outcome) := by
  obtain ⟨⟨polled, commands, admitted, answered, refused, callbacks, cardsSent⟩, received, duplicates, ignored,
    unauthorised⟩ := beyond
  cases outcome with
  | below | repeated =>
      refine ⟨⟨polled, commands, admitted, answered, refused, callbacks, cardsSent⟩, received, ?_, ignored,
        unauthorised⟩
      show one.duplicates + 1 = two.duplicates + 1 + _
      omega
  | unauthorised =>
      refine ⟨⟨polled, commands, admitted, answered, refused, callbacks, cardsSent⟩, received, duplicates,
        ignored, ?_⟩
      show one.unauthorised + 1 = two.unauthorised + 1 + _
      omega
  | ignored =>
      refine ⟨⟨polled, commands, admitted, answered, refused, callbacks, cardsSent⟩, received, duplicates, ?_,
        unauthorised⟩
      show one.ignored + 1 = two.ignored + 1 + _
      omega
  | pressed duplicate =>
      cases duplicate with
      | true =>
          refine ⟨⟨polled, commands, admitted, answered, refused, callbacks, cardsSent⟩, received, ?_, ignored,
            unauthorised⟩
          show one.duplicates + 1 = two.duplicates + 1 + _
          omega
      | false =>
          exact ⟨⟨polled, commands, admitted, answered, refused, congrArg (· + 1) callbacks, cardsSent⟩, received,
            duplicates, ignored, unauthorised⟩
  | finished disposition replyId =>
      have commands := congrArg (· + 1) commands
      cases disposition with
      | admitted =>
          exact ⟨⟨polled, commands, congrArg (· + 1) admitted, answered, refused, callbacks, cardsSent⟩, received,
            duplicates, ignored, unauthorised⟩
      | answered =>
          exact ⟨⟨polled, commands, admitted, congrArg (· + 1) answered, refused, callbacks, cardsSent⟩, received,
            duplicates, ignored, unauthorised⟩
      | malformed | rateLimited | capExceeded | admissionFailed =>
          exact ⟨⟨polled, commands, admitted, answered, congrArg (· + 1) refused, callbacks, cardsSent⟩, received,
            duplicates, ignored, unauthorised⟩

/-! ## An update of another -/

/-- The outcome of an update that is not handled. -/
def turnedAway (config : Config) (offset : Nat) (update : Update) : Outcome :=
  if update.updateId < offset then .below
  else if classifyUpdate update.raw config.limits.chatId config.callbacks = .unauthorised then .unauthorised
  else .ignored

/-- The update of another asks nothing of anyone. -/
theorem handleUpdate_of_other {offset : Nat} {update : Update}
    (other : ¬ FromOperator config.limits.chatId update) :
    handleUpdate config ports offset update = pure (turnedAway config offset update) := by
  unfold handleUpdate turnedAway
  split
  · rfl
  · rcases classified_of_other other with classified | classified
    · rw [classified]
      rfl
    · rw [classified]
      rfl

/-- The update of another moves the first summary ahead. -/
theorem Beyond.turnedAway {offset more : Nat} {updates : List Update} {one two : PollSummary} {update : Update}
    (beyond : Beyond config offset more updates one two) (other : ¬ FromOperator config.limits.chatId update) :
    Beyond config offset more (updates ++ [update]) (one.count (turnedAway config offset update)) two := by
  obtain ⟨⟨polled, commands, admitted, answered, refused, callbacks, cardsSent⟩, received, duplicates, ignored,
    unauthorised⟩ := beyond
  have counted : ∀ kind, classifiedAs config offset (updates ++ [update]) kind =
      classifiedAs config offset updates kind + if (!decide (update.updateId < offset) &&
        decide (classifyUpdate update.raw config.limits.chatId config.callbacks = kind)) = true then 1 else 0 := by
    intro kind
    unfold classifiedAs
    rw [List.countP_append, List.countP_singleton]
  have below : belowOffset offset (updates ++ [update]) =
      belowOffset offset updates + if decide (update.updateId < offset) = true then 1 else 0 := by
    unfold belowOffset
    rw [List.countP_append, List.countP_singleton]
  unfold PollOnce.turnedAway
  by_cases early : update.updateId < offset
  · rw [if_pos early]
    refine ⟨⟨polled, commands, admitted, answered, refused, callbacks, cardsSent⟩, received, ?_, ?_, ?_⟩
    · rw [below, if_pos (decide_eq_true early), ← Nat.add_assoc]
      exact congrArg (· + 1) duplicates
    · rw [counted, decide_eq_true early]
      exact ignored
    · rw [counted, decide_eq_true early]
      exact unauthorised
  · rw [if_neg early]
    rcases classified_of_other other with classified | classified
    · rw [if_pos classified]
      refine ⟨⟨polled, commands, admitted, answered, refused, callbacks, cardsSent⟩, received, ?_, ?_, ?_⟩
      · rw [below, decide_eq_false early]
        exact duplicates
      · rw [counted, classified, decide_eq_false early]
        exact ignored
      · rw [counted, classified, decide_eq_false early]
        exact (congrArg (· + 1) unauthorised).trans (Nat.add_assoc _ _ _)
    · rw [if_neg (by rw [classified]; intro same; cases same)]
      refine ⟨⟨polled, commands, admitted, answered, refused, callbacks, cardsSent⟩, received, ?_, ?_, ?_⟩
      · rw [below, decide_eq_false early]
        exact duplicates
      · rw [counted, classified, decide_eq_false early]
        exact (congrArg (· + 1) ignored).trans (Nat.add_assoc _ _ _)
      · rw [counted, classified, decide_eq_false early]
        exact unauthorised

/-! ## The loop -/

/-- The accumulators of two loops of which the first met other updates too. -/
structure Ahead (config : Config) (offset more : Nat) (updates : List Update) (one two : Progress) : Prop where
  summary : Beyond config offset more updates one.summary two.summary
  replyIds : one.replyIds = two.replyIds
  pressed : one.pressed = two.pressed

/-- The update of another moves the first loop ahead. -/
theorem Ahead.turnedAway {offset more : Nat} {updates : List Update} {one two : Progress} {update : Update}
    (ahead : Ahead config offset more updates one two) (other : ¬ FromOperator config.limits.chatId update) :
    Ahead config offset more (updates ++ [update]) (one.after update (turnedAway config offset update)) two := by
  have silent : (PollOnce.turnedAway config offset update).replyIds = [] ∧
      (PollOnce.turnedAway config offset update).isPress = false := by
    unfold PollOnce.turnedAway
    split
    · exact ⟨rfl, rfl⟩
    · split
      · exact ⟨rfl, rfl⟩
      · exact ⟨rfl, rfl⟩
  refine ⟨ahead.summary.turnedAway other, ?_, ?_⟩
  · show one.replyIds ++ _ = _
    rw [silent.1, List.append_nil]
    exact ahead.replyIds
  · show (one.pressed || _) = _
    rw [silent.2, Bool.or_false]
    exact ahead.pressed

/-- The loop over a batch goes as the loop over what is kept of it. -/
theorem pollUpdates_filter (ports : Ports Env) {offset more : Nat} {keeps : Update → Bool} {updates : List Update}
    (others : ∀ update ∈ updates, keeps update = false → ¬ FromOperator config.limits.chatId update) :
    ∀ (met : List Update) (one two : Progress) (world : World Env), Ahead config offset more met one two →
      Together Eq (Ahead config offset more (met ++ updates.filter fun update => !keeps update))
        (pollUpdates config ports offset updates one world)
        (pollUpdates config ports offset (updates.filter keeps) two world) := by
  induction updates with
  | nil =>
      intro met one two world ahead
      refine .ended rfl ?_
      rw [List.filter_nil, List.append_nil]
      exact ahead
  | cons update rest ih =>
      intro met one two world ahead
      have later := ih fun other member => others other (List.mem_cons_of_mem update member)
      rw [List.filter_cons, List.filter_cons]
      cases kept : keeps update with
      | false =>
          have other := others update List.mem_cons_self kept
          have step := later (met ++ [update]) _ two world (ahead.turnedAway other)
          rw [List.append_assoc] at step
          show Together _ _ ((handleUpdate config ports offset update >>= _) world) _
          rw [handleUpdate_of_other other, run_bind, run_pure]
          exact step
      | true =>
          refine Together.bind (.self world) (fun _ _ same => same) ?_
          rintro outcome _ after _ rfl rfl
          refine later met _ _ after ⟨ahead.summary.count outcome, ?_, ?_⟩
          · exact congrArg (· ++ outcome.replyIds) ahead.replyIds
          · exact congrArg (· || outcome.isPress) ahead.pressed

/-! ## After the loop -/

theorem deliverReplies_near (replyIds : List JsString) {here there : World Env} (near : Near here there) :
    Together Near Eq (deliverReplies ports replyIds here) (deliverReplies ports replyIds there) := by
  unfold deliverReplies
  split
  · exact .ended near rfl
  · exact .asked _ _ near

theorem serviceCards_near (pressed : Bool) {here there : World Env} (near : Near here there) :
    Together Near Eq (serviceCards config ports pressed here) (serviceCards config ports pressed there) := by
  unfold serviceCards
  split
  · refine (Together.asked _ _ near).bind (fun _ _ same => same) ?_
    rintro _ _ _ _ - near
    exact .ended near rfl
  · exact .ended near rfl

/-- Both batches hold updates, or neither does. -/
theorem advance_near {full part : List Update} (both : full = [] ↔ part = []) (one two : Progress)
    (world : World Env) :
    Together Near (fun _ _ => True) (advance ports full one world) (advance ports part two world) := by
  unfold advance
  by_cases empty : full = []
  · rw [if_pos empty, if_pos (both.mp empty)]
    exact .ended ⟨rfl, rfl, rfl, rfl⟩ trivial
  · rw [if_neg empty, if_neg (mt both.mpr empty)]
    refine Together.bind (.self world) (fun _ _ same => same ▸ ⟨rfl, rfl, rfl, rfl⟩) ?_
    rintro _ _ after _ rfl rfl
    unfold stored
    dsimp only
    split
    · exact .ended ⟨rfl, rfl, rfl, rfl⟩ trivial
    · exact .failed ⟨rfl, rfl, rfl, rfl⟩

theorem finishPoll_near {offset more : Nat} {met full part : List Update} (both : full = [] ↔ part = [])
    {one two : Progress} (ahead : Ahead config offset more met one two) (world : World Env) :
    Together Near (Beyond config offset more met) (finishPoll config ports full one world)
      (finishPoll config ports part two world) := by
  obtain ⟨beyond, replyIds, pressed⟩ := ahead
  unfold finishPoll
  rw [replyIds, pressed]
  refine (advance_near both one two world).bind (fun _ _ same => same) ?_
  rintro nextOffset nextOffset' here there - near
  refine (deliverReplies_near two.replyIds near).bind (fun _ _ same => same) ?_
  rintro _ _ here there - near
  refine (serviceCards_near two.pressed near).bind (fun _ _ same => same) ?_
  rintro _ _ here there - near
  obtain ⟨alike, received, duplicates, ignored, unauthorised⟩ := beyond
  exact .ended near ⟨⟨alike.polled, alike.commands, alike.admitted, alike.answered, alike.refused, alike.callbacks,
    alike.cardsSent⟩, received, duplicates, ignored, unauthorised⟩

/-- A poll that handled nothing only moves the offset. -/
theorem finishPoll_quiet (config : Config) (ports : Ports Env) (updates : List Update) {progress : Progress}
    (replyIds : progress.replyIds = []) (pressed : progress.pressed = false) (world : World Env) :
    ∃ result after, finishPoll config ports updates progress world = (result, after) ∧
      after.inbox.rows = world.inbox.rows ∧ after.outbox = world.outbox ∧ after.calls = world.calls ∧
      ∀ summary, result = .ok summary → ∃ next, summary = { progress.summary with nextOffset := next } := by
  unfold finishPoll
  rw [replyIds, pressed]
  by_cases empty : updates = []
  · refine ⟨.ok progress.summary, world, ?_, rfl, rfl, rfl, ?_⟩
    · rw [run_bind, advance, if_pos empty]
      rfl
    · rintro summary ⟨⟩
      exact ⟨_, rfl⟩
  · rw [run_bind, advance, if_neg empty, run_bind]
    by_cases reached : (ports.store (ports.now world.env).2).1
    · refine ⟨.ok { progress.summary with nextOffset := progress.top },
        { world with
          inbox := world.inbox.advanceOffset progress.top progress.summary.unauthorised
          env := (ports.store (ports.now world.env).2).2 }, ?_, rfl, rfl, rfl, ?_⟩
      · unfold clock stored
        dsimp only
        rw [if_pos reached]
        rfl
      · rintro summary ⟨⟩
        exact ⟨_, rfl⟩
    · refine ⟨.error (), { world with env := (ports.store (ports.now world.env).2).2 }, ?_, rfl, rfl, rfl,
        fun _ same => by cases same⟩
      unfold clock stored
      dsimp only
      rw [if_neg reached]

/-! ## The batch with and without the updates of others -/

/-- The poll of a batch does what the poll of the kept updates does, and counts the removed ones. -/
structure Undisturbed (config : Config) (offset : Nat) (removed kept : List Update)
    (full part : Except Unit PollSummary × World Env) : Prop where
  rows : full.2.inbox.rows = part.2.inbox.rows
  outbox : full.2.outbox = part.2.outbox
  calls : full.2.calls = part.2.calls
  ended : ∀ one, full.1 = .ok one → ∃ two, part.1 = .ok two ∧ Beyond config offset removed.length removed one two
  failed : full.1 = .error () → part.1 = .error () ∨ kept = []

theorem Undisturbed.of_together {offset : Nat} {removed kept : List Update}
    {full part : Except Unit PollSummary × World Env}
    (together : Together Near (Beyond config offset removed.length removed) full part) :
    Undisturbed config offset removed kept full part := by
  cases together with
  | failed near => exact ⟨near.rows, near.outbox, near.calls, fun _ same => (by cases same), fun _ => .inl rfl⟩
  | ended near holds =>
      refine ⟨near.rows, near.outbox, near.calls, ?_, fun same => (by cases same)⟩
      rintro one ⟨⟩
      exact ⟨_, rfl, holds⟩

theorem Beyond.perm {offset more : Nat} {updates sorted : List Update} {one two : PollSummary}
    (beyond : Beyond config offset more sorted one two) (perm : sorted.Perm updates) :
    Beyond config offset more updates one two := by
  obtain ⟨alike, received, duplicates, ignored, unauthorised⟩ := beyond
  unfold belowOffset at duplicates
  unfold classifiedAs at ignored unauthorised
  rw [perm.countP_eq] at duplicates ignored unauthorised
  exact ⟨alike, received, duplicates, ignored, unauthorised⟩

/-- The loops over the sorted batches, with and without what is removed. -/
theorem pollBatch_loops (ports : Ports Env) {keeps : Update → Bool} {updates : List Update}
    (others : ∀ update ∈ updates, keeps update = false → ¬ FromOperator config.limits.chatId update)
    (summary : PollSummary) (offset : Nat) (world : World Env) :
    let removed := updates.filter fun update => !keeps update
    Together Eq (Ahead config offset removed.length removed)
      (pollUpdates config ports offset (sortUpdates updates)
        ⟨{ summary with received := updates.length }, offset, [], false⟩ world)
      (pollUpdates config ports offset (sortUpdates (updates.filter keeps))
        ⟨{ summary with received := (updates.filter keeps).length }, offset, [], false⟩ world) := by
  intro removed
  have member : ∀ update ∈ sortUpdates updates, update ∈ updates := fun _ => (List.mem_insertionSort _).mp
  have start : Ahead config offset removed.length []
      ⟨{ summary with received := updates.length }, offset, [], false⟩
      ⟨{ summary with received := (updates.filter keeps).length }, offset, [], false⟩ := by
    refine ⟨⟨⟨rfl, rfl, rfl, rfl, rfl, rfl, rfl⟩, ?_, rfl, rfl, rfl⟩, rfl, rfl⟩
    exact List.length_eq_length_filter_add keeps
  have loops := pollUpdates_filter ports
    (fun update within => others update (member update within)) [] _ _ world start
  rw [List.nil_append, ← sortUpdates_filter, ← sortUpdates_filter] at loops
  generalize pollUpdates config ports offset (sortUpdates updates) _ world = left at loops ⊢
  generalize pollUpdates config ports offset (sortUpdates (updates.filter keeps)) _ world = right at loops ⊢
  cases loops with
  | failed same => exact .failed same
  | ended same ahead =>
      have perm : (sortUpdates removed).Perm removed := List.perm_insertionSort _ _
      exact .ended same ⟨ahead.summary.perm perm, ahead.replyIds, ahead.pressed⟩

theorem pollBatch_filter {keeps : Update → Bool} {updates : List Update}
    (others : ∀ update ∈ updates, keeps update = false → ¬ FromOperator config.limits.chatId update)
    (cardsSent offset : Nat) (world : World Env) :
    Undisturbed config offset (updates.filter fun update => !keeps update) (updates.filter keeps)
      (pollBatch config ports updates cardsSent offset world)
      (pollBatch config ports (updates.filter keeps) cardsSent offset world) := by
  have loops := pollBatch_loops ports others (PollSummary.start cardsSent offset) offset world
  by_cases both : updates = [] ↔ updates.filter keeps = []
  · refine .of_together (loops.bind (fun _ _ same => same ▸ ⟨rfl, rfl, rfl, rfl⟩) ?_)
    rintro one two after _ ahead rfl
    exact finishPoll_near both ahead after
  · have emptied : updates.filter keeps = [] := by
      by_contra left
      exact both ⟨fun empty => by rw [empty]; rfl, fun empty => absurd empty left⟩
    unfold pollBatch
    rw [run_bind, run_bind]
    rw [emptied] at loops ⊢
    change Together _ _ _ (Except.ok _, world) at loops
    generalize pollUpdates config ports offset (sortUpdates updates) _ world = left at loops ⊢
    cases loops with
    | ended same ahead =>
        subst same
        obtain ⟨result, after, ran, rows, outbox, calls, summed⟩ :=
          finishPoll_quiet config ports updates ahead.replyIds ahead.pressed _
        show Undisturbed _ _ _ _ (finishPoll config ports updates _ _) (Except.ok _, _)
        rw [ran]
        refine ⟨rows, outbox, calls, ?_, fun _ => .inr rfl⟩
        intro summary ended
        obtain ⟨next, rfl⟩ := summed summary ended
        obtain ⟨alike, received, duplicates, ignored, unauthorised⟩ := ahead.summary
        exact ⟨_, rfl, ⟨alike.polled, alike.commands, alike.admitted, alike.answered, alike.refused, alike.callbacks,
          alike.cardsSent⟩, received, duplicates, ignored, unauthorised⟩

theorem run_bind_ok {α β : Type} {program : Poll Env α} {next : α → Poll Env β} {world after : World Env}
    {result : β} (ran : (program >>= next) world = (.ok result, after)) :
    ∃ value between, program world = (.ok value, between) ∧ next value between = (.ok result, after) := by
  rw [run_bind] at ran
  cases first : program world with
  | mk done between =>
      rw [first] at ran
      cases done with
      | error fault => cases ran
      | ok value => exact ⟨value, between, rfl, ran⟩

theorem asked_inbox {α : Type} {call : Call} {port : Env → Option α × Env} {world after : World Env}
    {answer : α} (ran : asked call port world = (.ok answer, after)) : after.inbox = world.inbox := by
  unfold asked at ran
  cases answered : (port world.env).1 with
  | none =>
      rw [answered] at ran
      cases ran
  | some answer =>
      rw [answered] at ran
      cases ran
      rfl

theorem readInbox_value {α : Type} {read : Inbox → α} {world after : World Env} {value : α}
    (ran : readInbox ports read world = (.ok value, after)) : value = read world.inbox := by
  unfold readInbox stored at ran
  dsimp only at ran
  split at ran
  · cases ran
    rfl
  · cases ran

theorem sendCards_inbox {world after : World Env} {cardsSent : Nat}
    (ran : sendCards config ports world = (.ok cardsSent, after)) : after.inbox = world.inbox := by
  unfold sendCards at ran
  split at ran
  · exact asked_inbox ran
  · cases ran
    rfl

theorem openPoll_offset {world after : World Env} {opened : Nat × Nat}
    (ran : openPoll config ports world = (.ok opened, after)) : opened.2 = world.inbox.next := by
  unfold openPoll at ran
  obtain ⟨⟨⟩, delivered, first, ran⟩ := run_bind_ok ran
  obtain ⟨cardsSent, serviced, second, ran⟩ := run_bind_ok ran
  obtain ⟨offset, done, third, ran⟩ := run_bind_ok ran
  cases ran
  rw [← asked_inbox first, ← sendCards_inbox second]
  exact readInbox_value third

/-- The updates of others change no row, no reply and no call of a port. -/
theorem pollOnce_without_others (ports : Ports Env) (keeps : Update → Bool) (updates : List Update)
    (world : World Env) (others : ∀ update ∈ updates, keeps update = false → ¬ FromOperator config.limits.chatId update) :
    Undisturbed config world.inbox.next (updates.filter fun update => !keeps update) (updates.filter keeps)
      (pollOnce config ports (some updates) world) (pollOnce config ports (some (updates.filter keeps)) world) := by
  unfold pollOnce
  rw [run_bind, run_bind]
  cases ran : openPoll config ports world with
  | mk result after =>
      cases result with
      | error fault => exact ⟨rfl, rfl, rfl, fun _ same => (by cases same), fun _ => .inl rfl⟩
      | ok opened =>
          rw [← openPoll_offset ran]
          exact pollBatch_filter others opened.1 opened.2 after

end Polls

/-! ## A batch with updates of others -/

/-- The channel of the chat 42, with its callbacks. -/
def quietConfig : Config := ⟨.ascii, ⟨js "42", 5, 20⟩, true, false, fun _ => ⟨.absent, .absent⟩⟩

def quietPorts : Ports Unit where
  now _ := (0, ())
  store _ := (true, ())
  deliverDue _ := (some (), ())
  service _ := (some 0, ())
  press _ _ := (some false, ())
  read _ _ _ := (some .unavailable, ())
  statusView lines _ := lines
  admitMission _ _ _ := (some (.failed .unavailable), ())
  deliver _ _ := (some (), ())

def quietWorld : World Unit := ⟨.empty, .empty, [], ()⟩

def messageFrom (updateId : Nat) (sender : Int) : Update :=
  ⟨updateId, .read ⟨1700000000, some (js "/status"), ⟨sender, js "private"⟩, some ⟨sender, false⟩, false⟩,
    .absent⟩

def pressFrom (updateId : Nat) (sender : Int) : Update :=
  ⟨updateId, .absent, .read ⟨js "query", ⟨sender, false⟩, none, none⟩⟩

/-- An edit, of which nothing is read. -/
def editedMessage (updateId : Nat) : Update := ⟨updateId, .absent, .absent⟩

theorem messageFrom_other (updateId : Nat) {sender : Int} (other : signedDecimal sender ≠ js "42") :
    ¬ FromOperator quietConfig.limits.chatId (messageFrom updateId sender) := by
  rintro (⟨query, ⟨⟩, -⟩ | ⟨message, ⟨⟩, chat, -⟩)
  exact other chat

theorem pressFrom_other (updateId : Nat) {sender : Int} (other : signedDecimal sender ≠ js "42") :
    ¬ FromOperator quietConfig.limits.chatId (pressFrom updateId sender) := by
  rintro (⟨query, ⟨⟩, named, -⟩ | ⟨message, ⟨⟩, -⟩)
  exact other named

theorem editedMessage_other (updateId : Nat) :
    ¬ FromOperator quietConfig.limits.chatId (editedMessage updateId) := by
  rintro (⟨query, ⟨⟩, -⟩ | ⟨message, ⟨⟩, -⟩)

/-- The messages and presses of the sender 7 do not disturb the status command of the operator. -/
theorem pollOnce_quiet :
    Undisturbed quietConfig 0 [messageFrom 1 7, pressFrom 3 7, editedMessage 4] [messageFrom 2 42]
    (pollOnce quietConfig quietPorts (some [messageFrom 1 7, messageFrom 2 42, pressFrom 3 7, editedMessage 4])
      quietWorld)
    (pollOnce quietConfig quietPorts (some [messageFrom 2 42]) quietWorld) := by
  have foreign : signedDecimal 7 ≠ js "42" := by decide +kernel
  refine pollOnce_without_others quietPorts (fun update => update.updateId == 2)
    [messageFrom 1 7, messageFrom 2 42, pressFrom 3 7, editedMessage 4] quietWorld ?_
  intro update member removed
  simp only [List.mem_cons, List.not_mem_nil, or_false] at member
  rcases member with rfl | rfl | rfl | rfl
  · exact messageFrom_other 1 foreign
  · cases removed
  · exact pressFrom_other 3 foreign
  · exact editedMessage_other 4

/-- What a poll of a message of the sender 7 and an edit counts, and what a poll without them counts. -/
theorem counts_of_others : (∀ update ∈ [messageFrom 1 7, editedMessage 2],
      ¬ FromOperator quietConfig.limits.chatId update) ∧
    (∃ summary,
      (pollOnce quietConfig quietPorts (some [messageFrom 1 7, editedMessage 2]) quietWorld).1 = .ok summary ∧
      summary.received = 2 ∧ summary.ignored = 1) ∧
    ∃ summary, (pollOnce quietConfig quietPorts (some []) quietWorld).1 = .ok summary ∧
      summary.received = 0 ∧ summary.ignored = 0 := by
  refine ⟨?_, ?_, ?_⟩
  · intro update member
    simp only [List.mem_cons, List.not_mem_nil, or_false] at member
    rcases member with rfl | rfl
    · exact messageFrom_other 1 (by decide +kernel)
    · exact editedMessage_other 2
  · exact ⟨⟨true, 2, 0, 0, 1, 1, 0, 0, 0, 0, 0, 3⟩, by rfl, rfl, rfl⟩
  · exact ⟨⟨true, 0, 0, 0, 0, 0, 0, 0, 0, 0, 0, 0⟩, by rfl, rfl, rfl⟩

end KernelJson.Telegram.PollOnce
