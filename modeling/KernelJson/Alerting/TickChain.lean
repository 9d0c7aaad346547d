import KernelJson.Foundation.DurablePrograms
import KernelJson.Foundation.Json

/-!
# Self-sending ticks

The Telegram poll and the alert monitor keep one sequence number in a virtual
object and arm their next tick by a delayed message to themselves.  Any message
may arrive at any time, any number of times; invocations of one object exclude
each other, and what an invocation has journaled is read back after a crash.
-/

namespace KernelJson.Alerting.TickChain

open Foundation
open Foundation.DurablePrograms
open Foundation.JsText

/-! ## Ticks -/

/-- What a tick asks of its object: the stored number, the body, and the two effects of `advance`. -/
inductive TickOp where
  | getNext
  | run (sequence : Int)
  | set (sequence : Int)
  | send (key : JsString) (sequence : Int) (delayMs : Nat)

variable {Summary : Type}

abbrev Answer (Summary : Type) : TickOp → Type
  | .getNext => Option Int
  | .run _ => Summary
  | .set _ => Unit
  | .send _ _ _ => Unit

inductive TickResult (Summary : Type) where
  | disabled
  | duplicateOrOutOfOrder
  | ran (summary : Summary)

/-- The handler's result, or the message of a terminal error. -/
abbrev Answered (Summary : Type) : Type := Except JsString (TickResult Summary)

abbrev Tick (Summary : Type) : Type := Prog TickOp (Answer Summary) (Answered Summary)

/-- What tells the two services apart. -/
structure TickService (Summary : Type) where
  key : JsString
  invalid : JsString
  enabled : Bool
  delayMs : Summary → Nat

/-- `Number.MAX_SAFE_INTEGER`. -/
def maxSafeInteger : Int := 9007199254740991

/-- The sequence of a request that names a safe one; an array is an object without the field. -/
def sequenceOf (request : Json) : Option Int :=
  ((request.field? (js "sequence")).bind Json.asInt?).filter fun sequence =>
    0 ≤ sequence ∧ sequence < maxSafeInteger

/-- `ctx.advance(next, delayMs)`. -/
def advance (service : TickService Summary) (next : Int) (summary : Summary) : Tick Summary :=
  .call (.set next) fun _ =>
    .call (.send service.key next (service.delayMs summary)) fun _ => .ret (.ok (.ran summary))

def runBody (service : TickService Summary) (sequence : Int) : Tick Summary :=
  .call (.run sequence) fun summary => advance service (sequence + 1) summary

/-- What follows once the stored number is read. -/
def compare_ (service : TickService Summary) (sequence : Int) (stored : Option Int) : Tick Summary :=
  if sequence ≠ stored.getD 0 then .ret (.ok .duplicateOrOutOfOrder) else runBody service sequence

def tick (service : TickService Summary) (key : JsString) (request : Json) : Tick Summary :=
  match sequenceOf request with
  | none => .ret (.error service.invalid)
  | some sequence =>
      if key ≠ service.key then .ret (.error service.invalid)
      else if service.enabled = false then .ret (.ok .disabled)
      else .call .getNext fun stored => compare_ service sequence stored

/-! ## The two services -/

structure Timing where
  pollIntervalMs : Nat
  errorDelayMs : Nat

/-- `TELEGRAM_OPERATOR`, whose key is `OPERATOR_KEY`; a failed poll waits longer. -/
def operatorService (isOk : Summary → Bool) (timing : Timing) : TickService Summary where
  key := js "operator"
  invalid := js "Invalid operator key or sequence"
  enabled := true
  delayMs := fun summary => if isOk summary = true then timing.pollIntervalMs else timing.errorDelayMs

/-- `operatorTick(ctx, req, timing)`. -/
def operatorTick (isOk : Summary → Bool) (timing : Timing) (key : JsString) (request : Json) : Tick Summary :=
  tick (operatorService isOk timing) key request

structure MonitorConfig where
  enabled : Bool
  cadenceMs : Nat

/-- `ALERT_MONITOR`, whose key is `MONITOR_KEY`. -/
def monitorService (config : MonitorConfig) : TickService Summary where
  key := js "production"
  invalid := js "Invalid monitor key or sequence"
  enabled := config.enabled
  delayMs := fun _ => config.cadenceMs

/-- `monitorTick(ctx, req, cfg)`. -/
def monitorTick (config : MonitorConfig) (key : JsString) (request : Json) : Tick Summary :=
  tick (monitorService config) key request

/-! ## One object and its invocations -/

abbrev Invocation (Summary : Type) : Type := Run TickOp (Answer Summary) (Answered Summary)

structure ArmedTick where
  key : JsString
  sequence : Int
  delayMs : Nat

/-- The stored number, the invocation that holds the object and the body it is executing, and what has happened:
the bodies whose result was journaled, those that were begun and those that a crash cut short, and the messages
that were sent, the latest first. -/
structure State (Summary : Type) where
  next : Option Int
  active : Option (Invocation Summary)
  running : Option Int
  completed : List Int
  begun : List Int
  interrupted : List Int
  armed : List ArmedTick

def State.initial : State Summary := ⟨none, none, none, [], [], [], []⟩

/-- One step of the object at `key`, whose ticks are given by `handler`. -/
inductive Step (handler : Json → Tick Summary) : State Summary → State Summary → Prop
  /-- Any request at all may be delivered, as soon as the object is free. -/
  | deliver {state : State Summary} (request : Json) (free : state.active = none) :
      Step handler state { state with active := some (.fresh (handler request)) }
  | getNext {state : State Summary} {run : Invocation Summary} {next : Option Int → Tick Summary}
      (held : state.active = some run) (live : run.ahead = []) (waiting : run.resume = .call .getNext next) :
      Step handler state { state with active := some (@Run.extend _ _ _ run .getNext next state.next live waiting) }
  | enter {state : State Summary} {run : Invocation Summary} {sequence : Int} {next : Summary → Tick Summary}
      (held : state.active = some run) (live : run.ahead = []) (waiting : run.resume = .call (.run sequence) next)
      (outside : state.running = none) :
      Step handler state { state with running := some sequence, begun := sequence :: state.begun }
  | journal {state : State Summary} {run : Invocation Summary} {sequence : Int} {next : Summary → Tick Summary}
      (summary : Summary) (held : state.active = some run) (live : run.ahead = [])
      (waiting : run.resume = .call (.run sequence) next) (inside : state.running = some sequence) :
      Step handler state
        { state with
          active := some (@Run.extend _ _ _ run (.run sequence) next summary live waiting)
          running := none
          completed := sequence :: state.completed }
  | set {state : State Summary} {run : Invocation Summary} {sequence : Int} {next : Unit → Tick Summary}
      (held : state.active = some run) (live : run.ahead = []) (waiting : run.resume = .call (.set sequence) next) :
      Step handler state
        { state with
          active := some (@Run.extend _ _ _ run (.set sequence) next () live waiting)
          next := some sequence }
  | send {state : State Summary} {run : Invocation Summary} {key : JsString} {sequence : Int} {delayMs : Nat}
      {next : Unit → Tick Summary} (held : state.active = some run) (live : run.ahead = [])
      (waiting : run.resume = .call (.send key sequence delayMs) next) :
      Step handler state
        { state with
          active := some (@Run.extend _ _ _ run (.send key sequence delayMs) next () live waiting)
          armed := ⟨key, sequence, delayMs⟩ :: state.armed }
  /-- The process dies, also while it executes a body. -/
  | crash {state : State Summary} {run : Invocation Summary} (held : state.active = some run) :
      Step handler state
        { state with
          active := some run.crash
          running := none
          interrupted := state.running.toList ++ state.interrupted }
  /-- The invocation, executed again, reads one journaled answer back. -/
  | replay {state : State Summary} {run later : Invocation Summary} {entry : Entry TickOp (Answer Summary)}
      (held : state.active = some run) (root : later.root = run.root) (resume : later.resume = run.resume)
      (read : run.ahead = entry :: later.ahead) (done : later.done = run.done ++ [entry]) :
      Step handler state { state with active := some later }
  | finish {state : State Summary} {run : Invocation Summary} {answered : Answered Summary}
      (held : state.active = some run) (live : run.ahead = []) (returned : run.resume = .ret answered) :
      Step handler state { state with active := none }

/-- What any deliveries, crashes and re-executions lead to. -/
abbrev Reachable (handler : Json → Tick Summary) (state : State Summary) : Prop :=
  Relation.ReflTransGen (Step handler) .initial state

/-! ## The chain -/

/-- The numbers below `count`, the greatest first. -/
def countdown : Nat → List Int
  | 0 => []
  | count + 1 => (count : Int) :: countdown count

theorem mem_countdown {count : Nat} {number : Int} : number ∈ countdown count ↔ 0 ≤ number ∧ number < count := by
  induction count with
  | zero =>
      rw [countdown]
      constructor
      · intro impossible
        cases impossible
      · intro within
        omega
  | succ count ih =>
      rw [countdown, List.mem_cons, ih]
      omega

/-- The numbers of messages that were armed after the bodies below `count`. -/
def successors (count : Nat) : List Int :=
  (countdown count).map fun sequence => sequence + 1

/-- The bodies below `count` completed, the number was advanced for those below `stored`, and successors were armed
for those below `sent`. -/
structure Counted (state : State Summary) (count stored sent : Nat) : Prop where
  completed : state.completed = countdown count
  next : state.next.getD 0 = stored
  armed : state.armed.map ArmedTick.sequence = successors sent

/-- Where the invocation stands decides what has been counted. -/
inductive Stage (service : TickService Summary) (key : JsString) (state : State Summary) :
    Option (Tick Summary) → Prop
  | free {count : Nat} (outside : state.running = none) (counted : Counted state count count count) :
      Stage service key state none
  | unread {count : Nat} (request : Json) (outside : state.running = none)
      (counted : Counted state count count count) : Stage service key state (some (tick service key request))
  | body {count : Nat} (inside : state.running = none ∨ state.running = some (count : Int))
      (counted : Counted state count count count) : Stage service key state (some (runBody service count))
  | advancing {count : Nat} (summary : Summary) (outside : state.running = none)
      (counted : Counted state (count + 1) count count) :
      Stage service key state (some (advance service ((count : Int) + 1) summary))
  | arming {count : Nat} (summary : Summary) (outside : state.running = none)
      (counted : Counted state (count + 1) (count + 1) count) :
      Stage service key state (some (.call (.send service.key ((count : Int) + 1) (service.delayMs summary))
        fun _ => .ret (.ok (.ran summary))))
  | returned {count : Nat} (answered : Answered Summary) (outside : state.running = none)
      (counted : Counted state count count count) : Stage service key state (some (.ret answered))

/-- The stage of the object, every beginning of a body accounted for, and every message sent to the object itself. -/
structure Sound (service : TickService Summary) (key : JsString) (state : State Summary) : Prop where
  stage : Stage service key state (state.active.map Run.resume)
  begun : ∀ sequence, state.begun.count sequence =
    state.interrupted.count sequence + state.completed.count sequence + state.running.toList.count sequence
  addressed : ∀ armed ∈ state.armed, armed.key = service.key

section Soundness

variable {service : TickService Summary} {key : JsString} {state later : State Summary}

theorem Sound.initial : Sound service key (State.initial : State Summary) where
  stage := .free rfl ⟨rfl, rfl, rfl⟩
  begun := fun _ => rfl
  addressed := fun _ member => by cases member

/-- A tick asks first for the stored number, or for nothing. -/
theorem tick_cases (service : TickService Summary) (key : JsString) (request : Json) :
    (∃ answered, tick service key request = .ret answered) ∨
      ∃ sequence, tick service key request = .call .getNext fun stored => compare_ service sequence stored := by
  unfold tick
  cases sequenceOf request with
  | none => exact .inl ⟨_, rfl⟩
  | some sequence =>
      dsimp only
      split
      · exact .inl ⟨_, rfl⟩
      · split
        · exact .inl ⟨_, rfl⟩
        · exact .inr ⟨sequence, rfl⟩

/-- A body is waited for at its own stage only. -/
theorem Stage.of_run {sequence : Int} {next : Summary → Tick Summary}
    (stage : Stage service key state (some (.call (.run sequence) next))) :
    ∃ count : Nat, sequence = count ∧ (state.running = none ∨ state.running = some (count : Int)) ∧
      Counted state count count count ∧ next = fun summary => advance service ((count : Int) + 1) summary := by
  generalize shape : (some (.call (.run sequence) next) : Option (Tick Summary)) = resume at stage
  cases stage with
  | free outside counted => cases shape
  | unread request outside counted =>
      rcases tick_cases service key request with ⟨answered, made⟩ | ⟨number, made⟩
      · rw [made] at shape
        cases shape
      · rw [made] at shape
        cases shape
  | body inside counted =>
      cases shape
      exact ⟨_, rfl, inside, counted, rfl⟩
  | advancing summary outside counted => cases shape
  | arming summary outside counted => cases shape
  | returned answered outside counted => cases shape

/-- A state that differs in its invocation alone is counted alike. -/
theorem Counted.of_same {count stored sent : Nat} (counted : Counted state count stored sent)
    (completed : later.completed = state.completed) (next : later.next = state.next)
    (armed : later.armed = state.armed) : Counted later count stored sent where
  completed := completed.trans counted.completed
  next := by rw [next]; exact counted.next
  armed := by rw [armed]; exact counted.armed

/-- A crash or a replay leaves the stage where the journal ends. -/
theorem Stage.kept {resume : Option (Tick Summary)} (stage : Stage service key state resume)
    (completed : later.completed = state.completed) (next : later.next = state.next)
    (armed : later.armed = state.armed) (running : later.running = none ∨ later.running = state.running) :
    Stage service key later resume := by
  have outside : state.running = none → later.running = none := by
    intro none
    rcases running with here | same
    · exact here
    · exact same.trans none
  cases stage with
  | free quiet counted => exact .free (outside quiet) (counted.of_same completed next armed)
  | unread request quiet counted => exact .unread request (outside quiet) (counted.of_same completed next armed)
  | body inside counted =>
      refine .body ?_ (counted.of_same completed next armed)
      rcases running with here | same
      · exact .inl here
      · rw [same]
        exact inside
  | advancing summary quiet counted =>
      exact .advancing summary (outside quiet) (counted.of_same completed next armed)
  | arming summary quiet counted => exact .arming summary (outside quiet) (counted.of_same completed next armed)
  | returned answered quiet counted => exact .returned answered (outside quiet) (counted.of_same completed next armed)

/-- The stored number decides between the body and a duplicate. -/
theorem Stage.compared {count : Nat} {sequence : Int} (outside : state.running = none)
    (counted : Counted state count count count) :
    Stage service key state (some (compare_ service sequence state.next)) := by
  unfold compare_
  split
  · exact .returned _ outside counted
  · next same =>
      rw [not_not.mp same, counted.next]
      exact .body (.inl outside) counted

theorem Stage.delivered (free : Stage service key state none) (request : Json) :
    Stage service key state (some (tick service key request)) := by
  cases free with
  | free outside counted => exact .unread request outside counted

/-- The answer to the stored number leads to the body or to an end. -/
theorem Stage.answered {next : Option Int → Tick Summary}
    (stage : Stage service key state (some (.call .getNext next))) :
    Stage service key state (some (next state.next)) := by
  generalize shape : (some (.call .getNext next) : Option (Tick Summary)) = resume at stage
  cases stage with
  | free outside counted => cases shape
  | unread request outside counted =>
      rcases tick_cases service key request with ⟨answered, made⟩ | ⟨sequence, made⟩
      · rw [made] at shape
        cases shape
      · rw [made] at shape
        cases shape
        exact .compared outside counted
  | body inside counted => cases shape
  | advancing summary outside counted => cases shape
  | arming summary outside counted => cases shape
  | returned answered outside counted => cases shape

/-- The number is stored for the body that completed last. -/
theorem Stage.of_set {sequence : Int} {next : Unit → Tick Summary}
    (stage : Stage service key state (some (.call (.set sequence) next))) :
    ∃ (count : Nat) (summary : Summary), sequence = (count : Int) + 1 ∧ state.running = none ∧
      Counted state (count + 1) count count ∧ next = fun _ => .call (.send service.key ((count : Int) + 1)
        (service.delayMs summary)) fun _ => .ret (.ok (.ran summary)) := by
  generalize shape : (some (.call (.set sequence) next) : Option (Tick Summary)) = resume at stage
  cases stage with
  | free outside counted => cases shape
  | unread request outside counted =>
      rcases tick_cases service key request with ⟨answered, made⟩ | ⟨number, made⟩
      · rw [made] at shape
        cases shape
      · rw [made] at shape
        cases shape
  | body inside counted => cases shape
  | advancing summary outside counted =>
      cases shape
      exact ⟨_, summary, rfl, outside, counted, rfl⟩
  | arming summary outside counted => cases shape
  | returned answered outside counted => cases shape

/-- A message is sent for the number that was stored last. -/
theorem Stage.of_send {target : JsString} {sequence : Int} {delayMs : Nat} {next : Unit → Tick Summary}
    (stage : Stage service key state (some (.call (.send target sequence delayMs) next))) :
    ∃ (count : Nat) (summary : Summary), target = service.key ∧ sequence = (count : Int) + 1 ∧
      state.running = none ∧ Counted state (count + 1) (count + 1) count ∧
      next = fun _ => .ret (.ok (.ran summary)) := by
  generalize shape : (some (.call (.send target sequence delayMs) next) : Option (Tick Summary)) = resume at stage
  cases stage with
  | free outside counted => cases shape
  | unread request outside counted =>
      rcases tick_cases service key request with ⟨answered, made⟩ | ⟨number, made⟩
      · rw [made] at shape
        cases shape
      · rw [made] at shape
        cases shape
  | body inside counted => cases shape
  | advancing summary outside counted => cases shape
  | arming summary outside counted =>
      cases shape
      exact ⟨_, summary, rfl, rfl, outside, counted, rfl⟩
  | returned answered outside counted => cases shape

/-- Only what has settled returns. -/
theorem Stage.of_ret {answered : Answered Summary} (stage : Stage service key state (some (.ret answered))) :
    Stage service key state none := by
  generalize shape : (some (.ret answered) : Option (Tick Summary)) = resume at stage
  cases stage with
  | free outside counted => cases shape
  | unread request outside counted => exact .free outside counted
  | body inside counted => cases shape
  | advancing summary outside counted => cases shape
  | arming summary outside counted => cases shape
  | returned answered outside counted => exact .free outside counted

theorem Sound.step (sound : Sound service key state) (moved : Step (tick service key) state later) :
    Sound service key later := by
  obtain ⟨stage, begun, addressed⟩ := sound
  cases moved with
  | deliver request free =>
      rw [free] at stage
      exact ⟨(stage.delivered request).kept rfl rfl rfl (.inr rfl), begun, addressed⟩
  | getNext held live waiting =>
      rw [held, Option.map_some, waiting] at stage
      exact ⟨stage.answered.kept rfl rfl rfl (.inr rfl), begun, addressed⟩
  | @enter run sequence next held live waiting outside =>
      rw [held, Option.map_some, waiting] at stage
      obtain ⟨count, rfl, -, counted, shape⟩ := stage.of_run
      refine ⟨?_, fun number => ?_, addressed⟩
      · rw [held, Option.map_some, waiting, shape]
        exact .body (.inr rfl) (counted.of_same rfl rfl rfl)
      · have before := begun number
        rw [outside] at before
        simp only [List.count_cons, Option.toList_some, List.count_nil, Option.toList_none] at before ⊢
        omega
  | @journal run sequence next summary held live waiting inside =>
      rw [held, Option.map_some, waiting] at stage
      obtain ⟨count, rfl, -, counted, rfl⟩ := stage.of_run
      refine ⟨?_, fun number => ?_, addressed⟩
      · rw [Option.map_some, Run.extend_resume]
        refine .advancing summary rfl ⟨?_, counted.next, counted.armed⟩
        rw [counted.completed]
        rfl
      · have before := begun number
        rw [inside] at before
        simp only [List.count_cons, Option.toList_some, List.count_nil, Option.toList_none] at before ⊢
        omega
  | @set run sequence next held live waiting =>
      rw [held, Option.map_some, waiting] at stage
      obtain ⟨count, summary, rfl, outside, counted, rfl⟩ := stage.of_set
      refine ⟨?_, begun, addressed⟩
      rw [Option.map_some, Run.extend_resume]
      exact .arming summary outside ⟨counted.completed, rfl, counted.armed⟩
  | @send run target sequence delayMs next held live waiting =>
      rw [held, Option.map_some, waiting] at stage
      obtain ⟨count, summary, rfl, rfl, outside, counted, rfl⟩ := stage.of_send
      refine ⟨?_, begun, ?_⟩
      · rw [Option.map_some, Run.extend_resume]
        refine .returned _ outside ⟨counted.completed, counted.next, ?_⟩
        rw [List.map_cons, counted.armed]
        rfl
      · intro armed member
        rcases List.mem_cons.mp member with rfl | older
        · rfl
        · exact addressed armed older
  | @crash run held =>
      rw [held] at stage
      refine ⟨Stage.kept stage rfl rfl rfl (.inl rfl), fun number => ?_, addressed⟩
      have before := begun number
      simp only [List.count_append, Option.toList_none, List.count_nil] at before ⊢
      omega
  | @replay run later entry held root resume read done =>
      rw [held, Option.map_some, ← resume] at stage
      exact ⟨stage.kept rfl rfl rfl (.inr rfl), begun, addressed⟩
  | finish held live returned =>
      rw [held, Option.map_some, returned] at stage
      exact ⟨stage.of_ret.kept rfl rfl rfl (.inr rfl), begun, addressed⟩

theorem sound_of_reachable (reached : Reachable (tick service key) state) : Sound service key state := by
  induction reached with
  | refl => exact .initial
  | tail _ moved ih => exact ih.step moved

end Soundness

/-! ## What the chain keeps -/

/-- The bodies completed in order and once each, what was begun more often was interrupted, and successors were armed
for every completed body, for the latest of them once its invocation is over; of all armed messages, only one may
still be executed. -/
structure Chained (service : TickService Summary) (state : State Summary) : Prop where
  once : state.completed.Nodup
  ordered : state.completed = countdown state.completed.length
  restarted : ∀ sequence, state.begun.count sequence =
    state.interrupted.count sequence + state.completed.count sequence + state.running.toList.count sequence
  armed : state.armed.map ArmedTick.sequence = successors state.completed.length ∨
    ∃ count, state.completed.length = count + 1 ∧ state.active.isSome = true ∧
      state.armed.map ArmedTick.sequence = successors count
  addressed : ∀ armed ∈ state.armed, armed.key = service.key
  single : (state.armed.filter fun armed => armed.sequence ∉ state.completed).length ≤ 1

theorem nodup_countdown (count : Nat) : (countdown count).Nodup := by
  induction count with
  | zero => exact List.nodup_nil
  | succ count ih =>
      refine List.nodup_cons.mpr ⟨fun member => ?_, ih⟩
      have bounds := mem_countdown.mp member
      omega

theorem length_countdown (count : Nat) : (countdown count).length = count := by
  induction count with
  | zero => rfl
  | succ count ih => rw [countdown, List.length_cons, ih]

/-- Of the successors armed so far, those that are completed cannot be executed again. -/
theorem pending_successors {count sent : Nat} (within : sent ≤ count) :
    ((successors sent).filter fun sequence => sequence ∉ countdown count).length ≤ 1 := by
  cases sent with
  | zero => exact Nat.zero_le 1
  | succ sent =>
      have older : (successors sent).filter (fun sequence => sequence ∉ countdown count) = [] := by
        refine List.filter_eq_nil_iff.mpr fun number member => ?_
        obtain ⟨sequence, found, rfl⟩ := List.mem_map.mp member
        have bounds := mem_countdown.mp found
        simp only [decide_eq_true_eq, not_not]
        exact mem_countdown.mpr ⟨by omega, by omega⟩
      rw [successors, countdown, List.map_cons, List.filter_cons]
      change (if _ then _ :: (successors sent).filter _ else (successors sent).filter _).length ≤ 1
      rw [older]
      split
      · exact Nat.le_refl 1
      · exact Nat.zero_le 1

theorem pending_le_one {state : State Summary} {count sent : Nat} (completed : state.completed = countdown count)
    (armed : state.armed.map ArmedTick.sequence = successors sent) (within : sent ≤ count) :
    (state.armed.filter fun armed => armed.sequence ∉ state.completed).length ≤ 1 := by
  have mapped : (state.armed.filter fun armed => armed.sequence ∉ state.completed).map ArmedTick.sequence =
      (successors sent).filter fun sequence => sequence ∉ countdown count := by
    rw [← armed, List.filter_map, completed]
    rfl
  rw [← List.length_map ArmedTick.sequence, mapped]
  exact pending_successors within

theorem Counted.chained {service : TickService Summary} {key : JsString} {state : State Summary}
    {count stored sent : Nat} (sound : Sound service key state) (counted : Counted state count stored sent)
    (stands : sent = count ∨ count = sent + 1 ∧ state.active.isSome = true) : Chained service state where
  once := by
    rw [counted.completed]
    exact nodup_countdown count
  ordered := by rw [counted.completed, length_countdown]
  restarted := sound.begun
  armed := by
    rw [counted.completed, length_countdown]
    rcases stands with rfl | ⟨more, held⟩
    · exact .inl counted.armed
    · exact .inr ⟨sent, more, held, counted.armed⟩
  addressed := sound.addressed
  single := pending_le_one counted.completed counted.armed (by omega)

theorem Sound.chained {service : TickService Summary} {key : JsString} {state : State Summary}
    (sound : Sound service key state) : Chained service state := by
  have stage := sound.stage
  generalize held : state.active.map Run.resume = resume at stage
  have active : ∀ program, resume = some program → state.active.isSome = true := by
    intro program same
    rw [same] at held
    obtain ⟨run, here, -⟩ := Option.map_eq_some_iff.mp held
    rw [here]
    rfl
  cases stage with
  | free outside counted => exact counted.chained sound (.inl rfl)
  | unread request outside counted => exact counted.chained sound (.inl rfl)
  | body inside counted => exact counted.chained sound (.inl rfl)
  | advancing summary outside counted => exact counted.chained sound (.inr ⟨rfl, active _ rfl⟩)
  | arming summary outside counted => exact counted.chained sound (.inr ⟨rfl, active _ rfl⟩)
  | returned answered outside counted => exact counted.chained sound (.inl rfl)

/-- Neither chain forks, repeats or skips a body, whatever arrives and whenever it crashes. -/
theorem chains_kept (isOk : Summary → Bool) (timing : Timing) (config : MonitorConfig) (key : JsString)
    (state : State Summary) :
    (Reachable (operatorTick isOk timing key) state → Chained (operatorService isOk timing) state) ∧
      (Reachable (monitorTick config key) state → Chained (monitorService config) state) :=
  ⟨fun reached => (sound_of_reachable reached).chained, fun reached => (sound_of_reachable reached).chained⟩

/-! ## A first tick -/

def firstRequest : Json := .obj [(js "sequence", .num 0)]

theorem sequenceOf_firstRequest : sequenceOf firstRequest = some 0 := by
  decide +kernel

/-- A tick that a crash cuts short in its body, and that completes on its second execution. -/
theorem first_tick (service : TickService Summary) (enabled : service.enabled = true) (summary : Summary) :
    ∃ state, Reachable (tick service service.key) state ∧ state.completed = [0] ∧ state.interrupted = [0] ∧
      state.active.isNone = true := by
  have opened : tick service service.key firstRequest =
      .call .getNext fun stored => compare_ service 0 stored := by
    rw [tick, sequenceOf_firstRequest]
    dsimp only
    rw [if_neg (not_not.mpr rfl), if_neg (by rw [enabled]; exact Bool.noConfusion)]
  have body : compare_ service 0 none = runBody service 0 := if_neg (not_not.mpr rfl)
  have start : Reachable (tick service service.key) (State.initial : State Summary) := .refl
  have delivered := start.tail (.deliver firstRequest rfl)
  have asked := delivered.tail (.getNext rfl rfl opened)
  have entered := asked.tail (.enter rfl rfl body rfl)
  have crashed := entered.tail (.crash rfl)
  let again : Invocation Summary :=
    @Run.extend _ _ _ (Run.fresh (tick service service.key firstRequest)) .getNext _ none rfl opened
  have replayed := crashed.tail (@Step.replay _ _ _ _ again ⟨.getNext, none⟩ rfl rfl rfl rfl rfl)
  have reentered := replayed.tail (.enter rfl rfl body rfl)
  have journaled := reentered.tail (.journal summary rfl rfl body rfl)
  have stored := journaled.tail (.set rfl rfl rfl)
  have armed := stored.tail (.send rfl rfl rfl)
  have finished := armed.tail (.finish rfl rfl rfl)
  exact ⟨_, finished, rfl, rfl, rfl⟩

/-- Both services have run a tick that was cut short once. -/
theorem first_ticks_kept :
    (∃ state, state.completed = [0] ∧ state.interrupted = [0] ∧
      Chained (operatorService (fun isOk : Bool => isOk) ⟨1000, 5000⟩) state) ∧
    ∃ state : State Unit, state.completed = [0] ∧ state.interrupted = [0] ∧
      Chained (monitorService ⟨true, 60000⟩) state := by
  obtain ⟨polled, first, completed, interrupted, -⟩ :=
    first_tick (operatorService (fun isOk : Bool => isOk) ⟨1000, 5000⟩) rfl true
  obtain ⟨monitored, second, ran, cut, -⟩ := first_tick (monitorService ⟨true, 60000⟩) rfl ()
  exact ⟨⟨polled, completed, interrupted,
      (chains_kept (fun isOk : Bool => isOk) ⟨1000, 5000⟩ ⟨true, 60000⟩ _ polled).1 first⟩,
    monitored, ran, cut,
      (chains_kept (fun _ : Unit => true) ⟨1000, 5000⟩ ⟨true, 60000⟩ _ monitored).2 second⟩

end KernelJson.Alerting.TickChain
