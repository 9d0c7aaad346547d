import Mathlib.Data.List.Pairwise

/-!
# Fixed windows

A window of a given length opens at an event, and every event before its end
falls into it; the first event after its end opens the next one.  Events are
listed latest first.  A counter that remembers only the window that was opened
last counts what fell into it, and may forget it once it has ended.
-/

namespace KernelJson.Foundation.FixedWindows

variable {Event : Type}

/-- A window with the events that fell into it, latest first. -/
structure Span (Event : Type) where
  start : Int
  members : List Event

section Spans

variable (time : Event → Int) (length : Int)

/-- The windows after one more event. -/
def extend (event : Event) : List (Span Event) → List (Span Event)
  | [] => [⟨time event, [event]⟩]
  | span :: closed =>
      if length ≤ time event - span.start then ⟨time event, [event]⟩ :: span :: closed
      else ⟨span.start, event :: span.members⟩ :: closed

/-- The windows of a list of events, latest first. -/
def spans : List Event → List (Span Event)
  | [] => []
  | event :: earlier => extend time length event (spans earlier)

/-- The window that was opened last has ended. -/
def Ended (now : Int) (open_ : List (Span Event)) : Prop :=
  ∀ span ∈ open_.head?, length ≤ now - span.start

theorem Ended.later {now then_ : Int} {open_ : List (Span Event)} (ended : Ended length now open_)
    (order : now ≤ then_) : Ended length then_ open_ := by
  intro span member
  have before := ended span member
  omega

/-- An event after the end of the last window opens one. -/
theorem extend_of_ended {event : Event} {open_ : List (Span Event)} (ended : Ended length (time event) open_) :
    extend time length event open_ = ⟨time event, [event]⟩ :: open_ := by
  cases open_ with
  | nil => rfl
  | cons span closed => exact if_pos (ended span rfl)

/-- An event before the end of the last window falls into it. -/
theorem extend_of_running {event : Event} {span : Span Event} {closed : List (Span Event)}
    (running : time event - span.start < length) :
    extend time length event (span :: closed) = ⟨span.start, event :: span.members⟩ :: closed :=
  if_neg (Int.not_le.mpr running)

/-- Each event falls into exactly one window. -/
theorem spans_members (events : List Event) : (spans time length events).flatMap Span.members = events := by
  induction events with
  | nil => rfl
  | cons event earlier ih =>
      rw [spans]
      cases open_ : spans time length earlier with
      | nil =>
          rw [open_] at ih
          simp only [extend, List.flatMap_cons, List.flatMap_nil, List.append_nil]
          rw [← ih, List.flatMap_nil]
      | cons span closed =>
          rw [open_, List.flatMap_cons] at ih
          simp only [extend]
          split
          · simp only [List.flatMap_cons, List.singleton_append, ih]
          · simp only [List.flatMap_cons, List.cons_append, ih]

/-- A window holds the event that opened it and otherwise events before its end. -/
structure Fixed (span : Span Event) : Prop where
  inside : ∀ event ∈ span.members, time event = span.start ∨
    (span.start ≤ time event ∧ time event < span.start + length)
  opened : ∃ event ∈ span.members, time event = span.start

/-- The windows of events in the order of their times are fixed, and do not overlap. -/
theorem spans_fixed {events : List Event}
    (ordered : events.Pairwise fun later earlier => time earlier ≤ time later) :
    (∀ span ∈ spans time length events, Fixed time length span) ∧
      (spans time length events).IsChain fun later earlier => earlier.start + length ≤ later.start := by
  induction events with
  | nil => exact ⟨by simp [spans], List.IsChain.nil⟩
  | cons event earlier ih =>
      obtain ⟨latest, rest⟩ := List.pairwise_cons.mp ordered
      obtain ⟨fixed, apart⟩ := ih rest
      have fresh : Fixed time length (⟨time event, [event]⟩ : Span Event) :=
        ⟨fun other member => .inl (by rw [List.mem_singleton.mp member]), event, List.mem_singleton_self _, rfl⟩
      rw [spans]
      cases open_ : spans time length earlier with
      | nil =>
          refine ⟨fun span member => ?_, List.IsChain.singleton _⟩
          rw [extend, List.mem_singleton] at member
          exact member ▸ fresh
      | cons span closed =>
          rw [open_] at fixed apart
          by_cases ended : length ≤ time event - span.start
          · rw [extend, if_pos ended]
            refine ⟨?_, List.isChain_cons_cons.mpr ⟨by simp only; omega, apart⟩⟩
            intro other member
            rcases List.mem_cons.mp member with rfl | old
            · exact fresh
            · exact fixed other old
          · rw [extend, if_neg ended]
            have running := fixed span List.mem_cons_self
            obtain ⟨first, member, start⟩ := running.opened
            have started : span.start ≤ time event := by
              rw [← start]
              apply latest
              rw [← spans_members time length earlier, open_]
              exact List.mem_append_left _ member
            constructor
            · intro other found
              rcases List.mem_cons.mp found with rfl | old
              · refine ⟨fun inner joined => ?_, first, List.mem_cons_of_mem _ member, start⟩
                rcases List.mem_cons.mp joined with rfl | before
                · exact .inr ⟨started, by simp only; omega⟩
                · exact running.inside inner before
              · exact fixed other (List.mem_cons_of_mem _ old)
            · cases closed with
              | nil => exact List.IsChain.singleton _
              | cons next others =>
                  obtain ⟨gap, tail⟩ := List.isChain_cons_cons.mp apart
                  exact List.isChain_cons_cons.mpr ⟨gap, tail⟩

end Spans

/-! ## Counters -/

section Counters

variable (time : Event → Int) (length : Int) (counted : Event → Bool) (limit : Int)

/-- The start and the count of a window. -/
structure Counter where
  start : Int
  count : Int

/-- The counter that an event is put to: the remembered one until its window ends, else a new one. -/
def current (now : Int) : Option Counter → Counter
  | some counter => if length ≤ now - counter.start then ⟨now, 0⟩ else counter
  | none => ⟨now, 0⟩

/-- The counter after an event that was counted or refused. -/
def Counter.tallied (counter : Counter) (accepted : Bool) : Counter :=
  if accepted then { counter with count := counter.count + 1 } else counter

/-- A counter stands for windows: it remembers the last one, and what it has forgotten has ended. -/
structure Stands (now : Int) (remembered : Option Counter) (open_ : List (Span Event)) : Prop where
  remembers : ∀ counter ∈ remembered, ∃ span ∈ open_.head?,
    counter.start = span.start ∧ counter.count = span.members.countP counted
  forgets : remembered = none → Ended length now open_

/-- In every window at most so many events were counted. -/
def Limited (open_ : List (Span Event)) : Prop :=
  ∀ span ∈ open_, span.members.countP counted ≤ limit.toNat

variable {time length counted limit}

theorem stands_nil (now : Int) : Stands length counted now none ([] : List (Span Event)) where
  remembers := fun _ impossible => by cases impossible
  forgets := fun _ span impossible => by cases impossible

/-- A counter may be forgotten once its window has ended. -/
theorem Stands.forgotten {now later : Int} {remembered : Option Counter} {open_ : List (Span Event)}
    (stands : Stands length counted now remembered open_) (order : now ≤ later)
    (ended : ∀ counter ∈ remembered, length ≤ later - counter.start) :
    Stands length counted later none open_ where
  remembers := fun _ impossible => by cases impossible
  forgets := by
    intro _ span member
    cases held : remembered with
    | none => exact (stands.forgets held).later length order span member
    | some counter =>
        obtain ⟨other, last, start, -⟩ := stands.remembers counter held
        rw [Option.some.inj (member.symm.trans last), ← start]
        exact ended counter held

theorem Stands.later {now later : Int} {remembered : Option Counter} {open_ : List (Span Event)}
    (stands : Stands length counted now remembered open_) (order : now ≤ later) :
    Stands length counted later remembered open_ where
  remembers := stands.remembers
  forgets := fun none => (stands.forgets none).later length order

section Extension

variable {now : Int} {remembered : Option Counter} {open_ : List (Span Event)} {event : Event}

/-- The window of an event is the new one, or the last one with the event added. -/
theorem Stands.extend_eq (stands : Stands length counted now remembered open_) (order : now ≤ time event) :
    (current length (time event) remembered = ⟨time event, 0⟩ ∧
      extend time length event open_ = ⟨time event, [event]⟩ :: open_) ∨
    ∃ span closed, open_ = span :: closed ∧ span.start = (current length (time event) remembered).start ∧
      (current length (time event) remembered).count = span.members.countP counted ∧
      extend time length event open_ = ⟨span.start, event :: span.members⟩ :: closed := by
  cases held : remembered with
  | none =>
      exact .inl ⟨rfl, extend_of_ended time length ((stands.forgets held).later length order)⟩
  | some counter =>
      obtain ⟨span, last, start, count⟩ := stands.remembers counter held
      cases windows : open_ with
      | nil =>
          rw [windows] at last
          cases last
      | cons first closed =>
          rw [windows] at last
          have same : first = span := Option.some.inj last
          subst same
          by_cases ended : length ≤ time event - counter.start
          · refine .inl ⟨if_pos ended, ?_⟩
            rw [extend, if_pos (start ▸ ended)]
          · refine .inr ⟨first, closed, rfl, ?_, ?_, ?_⟩
            · rw [current, if_neg ended, start]
            · rw [current, if_neg ended, count]
            · rw [extend, if_neg (start ▸ ended)]

/-- A counter that counts an event exactly below the limit stands for the windows with that event, and
counts at most the limit in each. -/
theorem Stands.extended (stands : Stands length counted now remembered open_) (order : now ≤ time event)
    (limited : Limited counted limit open_)
    (rule : counted event = true ↔ (current length (time event) remembered).count < limit) :
    Stands length counted (time event)
        (some ((current length (time event) remembered).tallied (counted event)))
        (extend time length event open_) ∧
      Limited counted limit (extend time length event open_) := by
  rcases stands.extend_eq order with ⟨fresh, extended⟩ | ⟨span, closed, windows, start, count, extended⟩
  · rw [fresh] at rule ⊢
    rw [extended]
    refine ⟨⟨?_, nofun⟩, ?_⟩
    · intro counter member
      cases member
      refine ⟨⟨time event, [event]⟩, rfl, ?_⟩
      cases accepted : counted event <;> simp [Counter.tallied, accepted]
    · intro span member
      rcases List.mem_cons.mp member with rfl | old
      · cases accepted : counted event with
        | false => simp [accepted]
        | true =>
            have room : 0 < limit := rule.mp accepted
            simp only [List.countP_singleton, accepted, if_true]
            omega
      · exact limited span old
  · rw [extended]
    have within := limited span (windows ▸ List.mem_cons_self)
    refine ⟨⟨?_, nofun⟩, ?_⟩
    · intro counter member
      cases member
      refine ⟨⟨span.start, event :: span.members⟩, rfl, ?_⟩
      cases accepted : counted event <;> simp [Counter.tallied, accepted, start, count]
    · intro other member
      rcases List.mem_cons.mp member with rfl | old
      · rw [List.countP_cons]
        cases accepted : counted event with
        | false => simpa using within
        | true =>
            have room := rule.mp accepted
            rw [count] at room
            simp only [if_true]
            omega
      · exact limited other (windows ▸ List.mem_cons_of_mem _ old)

end Extension

end Counters

end KernelJson.Foundation.FixedWindows
