import KernelJson.Alerting.Engine
import KernelJson.Alerting.OutboxStores
import KernelJson.Telegram.Commands

/-!
# The Telegram operator

`pollOnce` as a state machine: a poll takes a batch of updates in order, and the
handling of a command claims its inbox row, looks at the limits, asks the door
or a read-only port, queues the reply and closes the row.  A crash may come
between any two of these, and the next poll starts from what was stored.  The
door remembers one task under each idempotency key, and may take a request that
was sent at any later time.
-/

namespace KernelJson.Telegram.Operator

open Alerting.Engine
open Alerting.Outbox
open Alerting.OutboxStores
open Alerting.Reducer
open Contracts.Common
open Contracts.Platform
open Foundation
open Foundation.JsText
open Telegram.Commands

/-! ## Updates -/

/-- A field that is absent, that its schema refuses, or that was read. -/
inductive Field (α : Type) where
  | absent
  | refused
  | read (value : α)

structure Sender where
  id : Int
  isBot : Bool

structure Chat where
  id : Int
  type : JsString

structure Message where
  date : Nat
  text : Option JsString
  chat : Chat
  sender : Option Sender
  relayed : Bool

structure CallbackQuery where
  id : JsString
  sender : Sender
  message : Option (Int × Chat)
  data : Option JsString

/-- What an update holds besides its identifier. -/
structure RawUpdate where
  message : Field Message
  callbackQuery : Field CallbackQuery

inductive Classified where
  | command (text : JsString) (date : Nat)
  | callback (queryId : JsString) (data : Option JsString) (messageId : Option Int)
  | ignored
  | unauthorised
deriving DecidableEq

def Chat.isPrivate (chat : Chat) (chatId : JsString) : Bool :=
  chat.type = js "private" && signedDecimal chat.id = chatId

def Sender.isAllowed (sender : Sender) (chatId : JsString) : Bool :=
  signedDecimal sender.id = chatId && !sender.isBot

def classifyCallback (query : CallbackQuery) (chatId : JsString) : Classified :=
  if query.sender.isAllowed chatId && query.message.all (fun message => message.2.isPrivate chatId) then
    .callback query.id query.data (query.message.map Prod.fst)
  else .unauthorised

def classifyMessage (message : Message) (chatId : JsString) : Classified :=
  if message.chat.isPrivate chatId && message.sender.any (fun sender => sender.isAllowed chatId) then
    if message.relayed then .ignored
    else
      match message.text with
      | none => .ignored
      | some text => .command text message.date
  else .unauthorised

/-- `classifyUpdate(update, chatId, { callbacks })`. -/
def classifyUpdate (update : RawUpdate) (chatId : JsString) (callbacks : Bool) : Classified :=
  match callbacks, update.callbackQuery with
  | true, .refused => .ignored
  | true, .read query => classifyCallback query chatId
  | _, _ =>
      match update.message with
      | .read message => classifyMessage message chatId
      | _ => .ignored

/-! ## The inbox -/

inductive Disposition where
  | admitted
  | answered
  | malformed
  | rateLimited
  | capExceeded
  | admissionFailed
deriving DecidableEq

inductive RowState where
  | received
  | done
deriving DecidableEq

/-- A row of the inbox; its instants are milliseconds. -/
structure InboxRow where
  updateId : Nat
  state : RowState
  command : Option CommandKind
  disposition : Option Disposition
  mission : Bool
  taskId : Option Id
  replyNotificationId : Option JsString
  receivedAt : Int
deriving DecidableEq

structure Inbox where
  rows : JsMap Nat InboxRow
  next : Nat
  unauthorisedTotal : Nat

namespace Inbox

def empty : Inbox := ⟨.empty, 0, 0⟩

def freshRow (updateId : Nat) (now : Int) : InboxRow :=
  ⟨updateId, .received, none, none, false, none, none, now⟩

/-- The row that `claim` returns: the one that stands, or a new one. -/
def claimed (inbox : Inbox) (updateId : Nat) (now : Int) : InboxRow :=
  (inbox.rows.get? updateId).getD (freshRow updateId now)

def claim (inbox : Inbox) (updateId : Nat) (now : Int) : Inbox :=
  match inbox.rows.get? updateId with
  | some _ => inbox
  | none => { inbox with rows := inbox.rows.set updateId (freshRow updateId now) }

def countRecent (inbox : Inbox) (since : Int) (exclude : Nat) : Nat :=
  inbox.rows.values.countP fun row =>
    row.updateId ≠ exclude && since < row.receivedAt && row.disposition ≠ some .rateLimited

def hasRecentRateNotice (inbox : Inbox) (since : Int) : Bool :=
  inbox.rows.values.any fun row =>
    row.disposition = some .rateLimited && row.replyNotificationId.isSome && since < row.receivedAt

def countMissionsSince (inbox : Inbox) (since : Int) (exclude : Nat) : Nat :=
  inbox.rows.values.countP fun row => row.updateId ≠ exclude && row.mission && since ≤ row.receivedAt

def advanceOffset (inbox : Inbox) (next unauthorised : Nat) : Inbox :=
  { inbox with next := max inbox.next next, unauthorisedTotal := inbox.unauthorisedTotal + unauthorised }

end Inbox

/-! ## What a handling sees and does -/

structure Limits where
  chatId : JsString
  dailyMissionCap : Nat
  ratePerMinute : Nat

/-- The channel as it is wired, and the update that Telegram holds under each identifier. -/
structure Config where
  platform : Platform
  limits : Limits
  callbacks : Bool
  remembers : Bool
  feed : Nat → RawUpdate

def minuteMs : Int := 60000

def dayMs : Int := 86400000

/-- The UTC day of an instant. -/
def dayOf (now : Int) : Int := now / dayMs

def dayStart (now : Int) : Int := dayOf now * dayMs

/-- The answer of a read-only port. -/
inductive ReadAnswer where
  | view (lines : List JsString)
  | notFound
  | unavailable

inductive AdmitResult where
  | ok (taskId : Id)
  | failed (reason : AdmitFailure)

/-- What the handling of a command is given: its reads of the inbox, and the answers of the ports. -/
structure Sight where
  limited : Bool
  told : Bool
  used : Nat
  read : ReadAnswer
  door : Option AdmitResult

/-- How a handling ends. -/
structure Answer where
  reply : Option ReplyInput
  disposition : Disposition
  mission : Bool
  taskId : Option Id

def Answer.of (reply : ReplyInput) (disposition : Disposition) : Answer := ⟨some reply, disposition, false, none⟩

variable (config : Config)

def classified (updateId : Nat) : Classified :=
  classifyUpdate (config.feed updateId) config.limits.chatId config.callbacks

/-- The update is a command with this text, of this date. -/
def IsCommand (updateId : Nat) (text : JsString) (date : Nat) : Prop :=
  classified config updateId = .command text date

/-- What the handling reads of the inbox, and what a port answers. -/
def look (inbox : Inbox) (updateId : Nat) (now : Int) (read : ReadAnswer) : Sight :=
  ⟨config.limits.ratePerMinute ≤ inbox.countRecent (now - minuteMs) updateId,
    inbox.hasRecentRateNotice (now - minuteMs), inbox.countMissionsSince (dayStart now) updateId, read, none⟩

/-- The handling goes on to the door. -/
def Asks (command : Command) (sight : Sight) : Prop :=
  sight.limited = false ∧ command.kind = .mission ∧ sight.used < config.limits.dailyMissionCap

instance (command : Command) (sight : Sight) : Decidable (Asks config command sight) :=
  inferInstanceAs (Decidable (_ ∧ _ ∧ _))

/-- The reply to a read-only query. -/
def readReply (refused missing : ReplyInput) : ReadAnswer → ReplyInput
  | .view lines => .view lines
  | .notFound => missing
  | .unavailable => refused

def memoryAnswer (read : ReadAnswer) : Answer :=
  .of (if config.remembers then readReply .memoryUnavailable .memoryUnavailable read else .memoryOff) .answered

/-- What `handleCommand` decides on what it sees. -/
def respond (command : Command) (sight : Sight) : Answer :=
  if sight.limited then
    ⟨if sight.told then none else some (.rateLimited config.limits.ratePerMinute), .rateLimited, false, none⟩
  else
    match command with
    | .malformed => .of .usage .malformed
    | .status => .of (readReply .taskUnavailable .taskUnavailable sight.read) .answered
    | .task taskId => .of (readReply .taskUnavailable (.taskNotFound taskId) sight.read) .answered
    | .remember _ => memoryAnswer config sight.read
    | .memories => memoryAnswer config sight.read
    | .memory _ => memoryAnswer config sight.read
    | .forget _ => memoryAnswer config sight.read
    | .mission kind repo findings =>
        if config.limits.dailyMissionCap ≤ sight.used then
          .of (.capExceeded sight.used config.limits.dailyMissionCap) .capExceeded
        else
          match sight.door with
          | some (.ok taskId) =>
              ⟨some (.admitted kind repo findings taskId (sight.used + 1) config.limits.dailyMissionCap),
                .admitted, true, some taskId⟩
          | some (.failed reason) => .of (.admissionFailed reason) .admissionFailed
          | none => .of (.admissionFailed .unavailable) .admissionFailed

/-! ## The reply of an update -/

/-- `replyDecision(updateId, text, messageDate)`. -/
def replyDecision (updateId : Nat) (text : JsString) (messageDate : Nat) : AlertDecision where
  kind := .new
  severity := .p3
  fingerprint := fingerprintFor config.platform (operatorReplyCheckId updateId) (decimal updateId)
  checkId := operatorReplyCheckId updateId
  entityId := decimal updateId
  message := text
  notify := true
  firstSeenAt := messageDate * 1000
  lastSeenAt := messageDate * 1000
  lastNotifiedAt := none
  occurrenceCount := 1
  durationMs := none

def replyIntent (updateId : Nat) (text : JsString) (messageDate : Nat) : NotificationIntent :=
  intentOf config.platform (messageDate * 1000) (replyDecision config updateId text messageDate)

/-- The notification under which the reply to an update is queued. -/
def replyIdOf (updateId messageDate : Nat) : JsString := (replyIntent config updateId [] messageDate).notificationId

/-- `enqueueReply(outbox, updateId, text, messageDate)`. -/
def enqueueReply (outbox : OutboxRows) (updateId : Nat) (text : JsString) (messageDate : Nat) : OutboxRows :=
  (intentsFromDecisions config.platform [replyDecision config updateId text messageDate] (messageDate * 1000)).foldl
    InMemoryNotificationOutboxStore.insertIntent outbox

/-- `tg:upd:<update_id>`. -/
def idempotencyKeyFor (updateId : Nat) : JsString := js "tg:upd:" ++ decimal updateId

/-! ## States -/

structure Poll where
  offset : Nat
  batch : List Nat
  rest : List Nat
  top : Nat
  unauthorised : Nat

/-- A command that is being handled, and the clock reading of its handling. -/
structure Handling where
  updateId : Nat
  text : JsString
  date : Nat
  now : Int

inductive Phase where
  | idle
  | polling (poll : Poll)
  | claimed (poll : Poll) (handling : Handling)
  | asking (poll : Poll) (handling : Handling) (sight : Sight)
  | replying (poll : Poll) (handling : Handling) (sight : Sight)
  | closing (poll : Poll) (handling : Handling) (sight : Sight) (replyId : Option JsString)

inductive Event where
  | handled (updateId : Nat) (now : Int)
  | spoke (updateId : Nat) (sight : Sight)
  | finished (offset : Nat) (batch : List Nat)

structure Operator where
  inbox : Inbox
  outbox : OutboxRows
  door : JsMap JsString Id
  sent : List Nat
  pressed : List Nat
  clock : Int
  phase : Phase
  past : List Event

def Operator.start (clock : Int) : Operator := ⟨.empty, .empty, .empty, [], [], clock, .idle, []⟩

/-- `updates.sort((a, b) => a.update_id - b.update_id)`. -/
def Poll.begin (offset : Nat) (batch : List Nat) : Poll := ⟨offset, batch, batch.mergeSort, offset, 0⟩

/-- The poll goes on after an update. -/
def Poll.after (poll : Poll) (updateId : Nat) (rest : List Nat) (unauthorised : Nat) : Poll :=
  { poll with rest := rest, top := max poll.top (updateId + 1), unauthorised := poll.unauthorised + unauthorised }

/-- The row of an update, closed. -/
def closedRow (row : InboxRow) (command : Command) (answer : Answer) (replyId : Option JsString) : InboxRow :=
  { row with
    state := .done, command := some command.kind, disposition := some answer.disposition,
    mission := answer.mission, taskId := answer.taskId, replyNotificationId := replyId }

def Inbox.complete (inbox : Inbox) (updateId : Nat) (command : Command) (answer : Answer)
    (replyId : Option JsString) : Inbox :=
  match inbox.rows.get? updateId with
  | none => inbox
  | some row => { inbox with rows := inbox.rows.set updateId (closedRow row command answer replyId) }

def Handling.command (handling : Handling) : Command := parseCommand config.platform handling.text

/-- What the handling answers on what it has seen. -/
def Handling.answer (handling : Handling) (sight : Sight) : Answer :=
  respond config (handling.command config) sight

/-- The identifier of the reply that a handling queues, if any. -/
def Handling.replyId (handling : Handling) (sight : Sight) : Option JsString :=
  (handling.answer config sight).reply.map fun _ => replyIdOf config handling.updateId handling.date

/-- The outbox after a handling queued its reply. -/
def Handling.speak (handling : Handling) (sight : Sight) (outbox : OutboxRows) : OutboxRows :=
  match (handling.answer config sight).reply with
  | none => outbox
  | some reply => enqueueReply config outbox handling.updateId (renderReply reply) handling.date

/-- The door takes a request: the first one under a key makes the task. -/
def admitTask (door : JsMap JsString Id) (updateId : Nat) (taskId : Id) : JsMap JsString Id :=
  match door.get? (idempotencyKeyFor updateId) with
  | some _ => door
  | none => door.set (idempotencyKeyFor updateId) taskId

/-- Delivery changes what is known of the attempts on a row, and nothing of what it says. -/
def SameIntents (before after : OutboxRows) : Prop :=
  ∀ id, (after.get? id).map (·.toNotificationIntent) = (before.get? id).map (·.toNotificationIntent)

namespace Operator

def go (operator : Operator) (phase : Phase) : Operator := { operator with phase := phase }

def log (operator : Operator) (event : Event) : Operator := { operator with past := event :: operator.past }

end Operator

/-! ## Steps -/

inductive Step (before : Operator) : Operator → Prop where
  | begin (batch : List Nat) (idle : before.phase = .idle) :
      Step before (before.go (.polling (.begin before.inbox.next batch)))
  | below (poll : Poll) (updateId : Nat) (rest : List Nat) (polls : before.phase = .polling poll)
      (head : poll.rest = updateId :: rest) (old : updateId < poll.offset) :
      Step before (before.go (.polling (poll.after updateId rest 0)))
  | ignore (poll : Poll) (updateId : Nat) (rest : List Nat) (polls : before.phase = .polling poll)
      (head : poll.rest = updateId :: rest) (new : poll.offset ≤ updateId)
      (ignored : classified config updateId = .ignored) :
      Step before (before.go (.polling (poll.after updateId rest 0)))
  | turnAway (poll : Poll) (updateId : Nat) (rest : List Nat) (polls : before.phase = .polling poll)
      (head : poll.rest = updateId :: rest) (new : poll.offset ≤ updateId)
      (unauthorised : classified config updateId = .unauthorised) :
      Step before (before.go (.polling (poll.after updateId rest 1)))
  | press (poll : Poll) (updateId : Nat) (rest : List Nat) (queryId : JsString) (data : Option JsString)
      (messageId : Option Int) (polls : before.phase = .polling poll) (head : poll.rest = updateId :: rest)
      (new : poll.offset ≤ updateId) (pressed : classified config updateId = .callback queryId data messageId) :
      Step before { before with
        pressed := updateId :: before.pressed, phase := .polling (poll.after updateId rest 0) }
  | repeated (poll : Poll) (updateId : Nat) (rest : List Nat) (text : JsString) (date : Nat) (row : InboxRow)
      (polls : before.phase = .polling poll) (head : poll.rest = updateId :: rest) (new : poll.offset ≤ updateId)
      (command : IsCommand config updateId text date) (found : before.inbox.rows.get? updateId = some row)
      (done : row.state = .done) :
      Step before (before.go (.polling (poll.after updateId rest 0)))
  | claim (poll : Poll) (updateId : Nat) (rest : List Nat) (text : JsString) (date : Nat) (now : Int)
      (polls : before.phase = .polling poll) (head : poll.rest = updateId :: rest) (new : poll.offset ≤ updateId)
      (command : IsCommand config updateId text date) (later : before.clock ≤ now)
      (undone : ∀ row, before.inbox.rows.get? updateId = some row → row.state = .received) :
      Step before { before with
        inbox := before.inbox.claim updateId now, clock := now,
        phase := .claimed (poll.after updateId rest 0) ⟨updateId, text, date, now⟩,
        past := .handled updateId now :: before.past }
  | decide (poll : Poll) (handling : Handling) (read : ReadAnswer) (claims : before.phase = .claimed poll handling)
      (settles : ¬ Asks config (handling.command config)
        (look config before.inbox handling.updateId handling.now read)) :
      Step before (before.go (.replying poll handling
        (look config before.inbox handling.updateId handling.now read)))
  | ask (poll : Poll) (handling : Handling) (read : ReadAnswer) (claims : before.phase = .claimed poll handling)
      (asks : Asks config (handling.command config)
        (look config before.inbox handling.updateId handling.now read)) :
      Step before { before with
        sent := handling.updateId :: before.sent,
        phase := .asking poll handling (look config before.inbox handling.updateId handling.now read) }
  | doorTakes (updateId : Nat) (taskId : Id) (sent : updateId ∈ before.sent) :
      Step before { before with door := admitTask before.door updateId taskId }
  | accept (poll : Poll) (handling : Handling) (sight : Sight) (taskId : Id)
      (asks : before.phase = .asking poll handling sight)
      (admitted : before.door.get? (idempotencyKeyFor handling.updateId) = some taskId) :
      Step before (before.go (.replying poll handling { sight with door := some (.ok taskId) }))
  | fail (poll : Poll) (handling : Handling) (sight : Sight) (reason : AdmitFailure)
      (asks : before.phase = .asking poll handling sight) :
      Step before (before.go (.replying poll handling { sight with door := some (.failed reason) }))
  | speak (poll : Poll) (handling : Handling) (sight : Sight) (replies : before.phase = .replying poll handling sight) :
      Step before { before with
        outbox := handling.speak config sight before.outbox,
        phase := .closing poll handling sight (handling.replyId config sight),
        past := .spoke handling.updateId sight :: before.past }
  | close (poll : Poll) (handling : Handling) (sight : Sight) (replyId : Option JsString)
      (closes : before.phase = .closing poll handling sight replyId) :
      Step before { before with
        inbox := before.inbox.complete handling.updateId (handling.command config) (handling.answer config sight) replyId,
        phase := .polling poll }
  | finish (poll : Poll) (polls : before.phase = .polling poll) (ended : poll.rest = []) :
      Step before { before with
        inbox := if poll.batch = [] then before.inbox else before.inbox.advanceOffset poll.top poll.unauthorised,
        phase := .idle, past := .finished poll.offset poll.batch :: before.past }
  | deliver (outbox : OutboxRows) (same : SameIntents before.outbox outbox) :
      Step before { before with outbox := outbox }
  | crash : Step before (before.go .idle)

inductive Reachable : Operator → Prop where
  | start (clock : Int) : Reachable (.start clock)
  | step {before after : Operator} (reached : Reachable before) (taken : Step config before after) : Reachable after

end KernelJson.Telegram.Operator
