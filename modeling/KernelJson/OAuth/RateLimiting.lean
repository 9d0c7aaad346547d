import KernelJson.Foundation.FixedWindows
import KernelJson.OAuth.Tables

/-!
# Runs of the rate limiter

One table holds the windows of three rules.  Each key of it counts its own fixed
windows, whatever else the table holds, because a sweep drops only windows that
are older than the longest rule.  That is also why a sweep may drop too little:
a window that has ended under its own rule still takes a place until the longest
window of all has passed.
-/

namespace KernelJson.OAuth.RateLimiting

open Foundation
open Foundation.FixedWindows
open Foundation.JsText
open OAuth.Tables

/-! ## Keys and their rules -/

/-- The rule whose windows a key names. -/
def ownerOf : JsString → RuleName
  | 99 :: 58 :: _ => .perClient
  | 114 :: 58 :: _ => .registerPerClient
  | _ => .everyone

def ruleNamed (limits : RateLimits) : RuleName → RateRule
  | .perClient => limits.perClient
  | .registerPerClient => limits.registerPerClient
  | .everyone => limits.everyone

def ruleOf (limits : RateLimits) (key : JsString) : RateRule :=
  ruleNamed limits (ownerOf key)

theorem clientPrefix : js "c:" = [99, 58] := by
  decide

theorem registerPrefix : js "r:" = [114, 58] := by
  decide

theorem everyoneKey : js "g" = [103] := by
  decide

theorem ruleOf_of_rules {limits : RateLimits} {client key : JsString} {registering : Bool} {name : RuleName}
    {rule : RateRule} (asked : (name, key, rule) ∈ rules limits client registering) :
    ownerOf key = name ∧ ruleOf limits key = rule := by
  rw [rules, clientPrefix, registerPrefix, everyoneKey] at asked
  simp only [List.mem_append, List.mem_singleton] at asked
  rcases asked with (same | asked) | same
  · cases same
    exact ⟨rfl, rfl⟩
  · split at asked
    · cases List.mem_singleton.mp asked
      exact ⟨rfl, rfl⟩
    · cases asked
  · cases same
    exact ⟨rfl, rfl⟩

theorem windowMs_le_longest (limits : RateLimits) (key : JsString) :
    (ruleOf limits key).windowMs ≤ longest limits := by
  unfold ruleOf longest
  cases ownerOf key with
  | perClient => exact le_max_left _ _
  | registerPerClient => exact (le_max_left _ _).trans (le_max_right _ _)
  | everyone => exact (le_max_right _ _).trans (le_max_right _ _)

/-! ## Runs -/

/-- One call of `check`, with what the clock reads in each of its takes. -/
structure Request where
  client : JsString
  registering : Bool
  clock : RuleName → Int

/-- One take: the request that it is for, the windows that it found, its answer and the windows it left. -/
structure Entry where
  request : Request
  key : JsString
  now : Int
  before : JsMap JsString Window
  answer : Option Int
  after : JsMap JsString Window

/-- The windows of a limiter, and its takes so far, latest first. -/
structure Trail where
  windows : JsMap JsString Window
  log : List Entry

def Trail.start : Trail :=
  ⟨.empty, []⟩

section Runs

variable (limits : RateLimits)

def entryOf (request : Request) (name : RuleName) (key : JsString) (rule : RateRule)
    (windows : JsMap JsString Window) : Entry where
  request := request
  key := key
  now := request.clock name
  before := windows
  answer := (take limits (request.clock name) windows key rule).1
  after := (take limits (request.clock name) windows key rule).2

/-- The takes of one request, up to the first that refuses it. -/
def asked (request : Request) : List (RuleName × JsString × RateRule) → Trail → Trail
  | [], trail => trail
  | (name, key, rule) :: rest, trail =>
      let entry := entryOf limits request name key rule trail.windows
      if entry.answer.isSome then ⟨entry.after, entry :: trail.log⟩
      else asked request rest ⟨entry.after, entry :: trail.log⟩

def served (trail : Trail) (request : Request) : Trail :=
  asked limits request (rules limits request.client request.registering) trail

def run (requests : List Request) : Trail :=
  requests.foldl (served limits) .start

/-- The limiter leaves the windows that `check` leaves, when the clock stands still during the call. -/
theorem asked_windows {request : Request} {now : Int} (still : ∀ name, request.clock name = now)
    (rules : List (RuleName × JsString × RateRule)) (trail : Trail) :
    (asked limits request rules trail).windows = (checkRules limits now rules trail.windows).2 := by
  induction rules generalizing trail with
  | nil => rfl
  | cons first rest ih =>
      obtain ⟨name, key, rule⟩ := first
      simp only [asked, entryOf, still, checkRules]
      cases answer : take limits now trail.windows key rule with
      | mk wait after =>
          cases wait with
          | none => exact ih _
          | some wait => rfl

theorem served_windows {request : Request} {now : Int} (still : ∀ name, request.clock name = now)
    (trail : Trail) :
    (served limits trail request).windows =
      (check limits now trail.windows request.client request.registering).2 :=
  asked_windows limits still _ trail

/-! ## What a limiter promises -/

/-- Whether a take let its request through. -/
def Entry.allowed (entry : Entry) : Bool :=
  entry.answer.isNone

/-- The takes that fall into the windows of a key, latest first: those after which the key has a window. -/
def takesOf (key : JsString) (log : List Entry) : List Entry :=
  log.filter fun entry => entry.key = key ∧ (entry.after.get? key).isSome

/-- The fixed windows of a key under its rule. -/
def windowsOf (key : JsString) (log : List Entry) : List (Span Entry) :=
  spans Entry.now (ruleOf limits key).windowMs (takesOf key log)

/-- The window of a key that is in effect, and has no request left. -/
def Exhausted (now : Int) (windows : JsMap JsString Window) (key : JsString) (rule : RateRule) : Prop :=
  ∃ window, windows.get? key = some window ∧ (window.start = now ∨ now - window.start < rule.windowMs) ∧
    rule.limit ≤ window.count

/-- A rule of the request is exhausted. -/
def OwnExhausted (request : Request) (now : Int) (windows : JsMap JsString Window) : Prop :=
  ∃ name key rule, (name, key, rule) ∈ rules limits request.client request.registering ∧
    Exhausted now windows key rule

/-- The tracked windows that have not ended under their own rules. -/
def live (now : Int) (windows : JsMap JsString Window) : List (JsString × Window) :=
  windows.entries.filter fun entry => now - entry.2.start < (ruleOf limits entry.1).windowMs

/-- A take may refuse because a rule of the request is exhausted, or because the table is full of windows
that are still running. -/
def Justified (entry : Entry) : Prop :=
  OwnExhausted limits entry.request entry.now entry.after ∨
    maxTracked ≤ (live limits entry.now entry.before).length

/-- What the limiter owes to the takes of a run. -/
structure Fair (log : List Entry) : Prop where
  limited : ∀ key, Limited Entry.allowed (ruleOf limits key).limit (windowsOf limits key log)
  counted : ∀ entry ∈ log, entry.answer = none → (entry.after.get? entry.key).isSome
  bounded : ∀ entry ∈ log, entry.before.entries.length ≤ maxTracked ∧ entry.after.entries.length ≤ maxTracked
  justified : ∀ entry ∈ log, entry.answer ≠ none → Justified limits entry

/-- A full table that has no window for the key makes room in a sweep, or holds running windows only, or a
rule of the request is exhausted anyway. -/
def Roomy (entry : Entry) : Prop :=
  entry.before.get? entry.key = none → maxTracked ≤ entry.before.entries.length →
    (∃ tracked ∈ entry.before.entries, longest limits ≤ entry.now - tracked.2.start) ∨
      (∀ tracked ∈ entry.before.entries, entry.now - tracked.2.start < (ruleOf limits tracked.1).windowMs) ∨
      OwnExhausted limits entry.request entry.now entry.before

/-- The readings of the clock do not decrease. -/
def Ordered (log : List Entry) : Prop :=
  log.Pairwise fun later earlier => earlier.now ≤ later.now

/-! ## One take -/

section Take

variable {limits}

def counterOf (window : Window) : Counter :=
  ⟨window.start, window.count⟩

/-- The windows that a take for an untracked key looks at. -/
def cleared (limits : RateLimits) (now : Int) (windows : JsMap JsString Window) : JsMap JsString Window :=
  if windows.entries.length ≥ maxTracked then sweep limits now windows else windows

/-- What is left of a key after a sweep. -/
def Swept (limits : RateLimits) (now : Int) (before after : JsMap JsString Window) (key : JsString) : Prop :=
  after.get? key = before.get? key ∨
    after.get? key = none ∧ ∀ window ∈ before.get? key, longest limits ≤ now - window.start

theorem swept_sweep (limits : RateLimits) (now : Int) (windows : JsMap JsString Window) (key : JsString) :
    Swept limits now windows (sweep limits now windows) key := by
  unfold Swept sweep
  rw [JsMap.get?_keepWhere]
  cases held : windows.get? key with
  | none => exact .inl rfl
  | some window =>
      by_cases young : now - window.start < longest limits
      · exact .inl (by simp [Option.filter, young])
      · refine .inr ⟨by simp [Option.filter, young], ?_⟩
        rintro other ⟨⟩
        exact Int.not_lt.mp young

theorem swept_cleared (limits : RateLimits) (now : Int) (windows : JsMap JsString Window) (key : JsString) :
    Swept limits now windows (cleared limits now windows) key := by
  unfold cleared
  split
  · exact swept_sweep limits now windows key
  · exact .inl rfl

/-- A sweep that drops nothing leaves the table as it is. -/
theorem sweep_eq_self {now : Int} {windows : JsMap JsString Window}
    (full : windows.entries.length ≤ (sweep limits now windows).entries.length) :
    sweep limits now windows = windows ∧
      ∀ tracked ∈ windows.entries, now - tracked.2.start < longest limits := by
  have kept : (sweep limits now windows).entries = windows.entries :=
    List.filter_sublist.eq_of_length_le full
  refine ⟨?_, fun tracked member => ?_⟩
  · cases windows
    simpa only [sweep, JsMap.keepWhere, JsMap.mk.injEq] using kept
  · have young := List.filter_eq_self.mp kept tracked member
    simpa only [decide_eq_true_eq] using young

/-- A sweep that makes room drops a window that is older than the longest rule. -/
theorem outlived_of_room {now : Int} {windows : JsMap JsString Window}
    (room : (sweep limits now windows).entries.length < windows.entries.length) :
    ∃ tracked ∈ windows.entries, longest limits ≤ now - tracked.2.start := by
  by_contra none
  refine absurd room (Nat.not_lt.mpr (le_of_eq ?_))
  have all : (sweep limits now windows).entries = windows.entries := by
    refine List.filter_eq_self.mpr fun tracked member => ?_
    exact decide_eq_true (Int.not_le.mp fun old => none ⟨tracked, member, old⟩)
  rw [all]

/-! ## One take -/

/-- What a take does: it puts the request to the window of its key, or finds the table full. -/
inductive Took (limits : RateLimits) (rule : RateRule) (entry : Entry) : Prop where
  | counted :
      (entry.before.get? entry.key = none → maxTracked ≤ entry.before.entries.length →
        ∃ tracked ∈ entry.before.entries, longest limits ≤ entry.now - tracked.2.start) →
      (entry.after.get? entry.key).map counterOf =
        some ((current rule.windowMs entry.now ((entry.before.get? entry.key).map counterOf)).tallied entry.allowed) →
      (entry.allowed = true ↔
        (current rule.windowMs entry.now ((entry.before.get? entry.key).map counterOf)).count < rule.limit) →
      (∀ other, other ≠ entry.key → Swept limits entry.now entry.before entry.after other) →
      Took limits rule entry
  | full : entry.before.get? entry.key = none → maxTracked ≤ entry.before.entries.length →
      (∀ tracked ∈ entry.before.entries, entry.now - tracked.2.start < longest limits) →
      entry.answer ≠ none → entry.after = entry.before → Took limits rule entry

theorem take_tracked {now : Int} {windows : JsMap JsString Window} {key : JsString} {window : Window}
    (held : windows.get? key = some window) (rule : RateRule) :
    take limits now windows key rule =
      count now windows key rule (if now - window.start ≥ rule.windowMs then ⟨now, 0⟩ else window) := by
  unfold take
  rw [held]
  simp only
  split <;> rfl

theorem take_fresh {now : Int} {windows : JsMap JsString Window} {key : JsString}
    (fresh : windows.get? key = none) (rule : RateRule) :
    take limits now windows key rule =
      if (cleared limits now windows).entries.length ≥ maxTracked then
        (some (ceilSeconds rule.windowMs), cleared limits now windows)
      else count now (cleared limits now windows) key rule ⟨now, 0⟩ := by
  unfold take
  rw [fresh]
  rfl

/-- Counting a request below the limit, and refusing it at the limit. -/
theorem count_spec (now : Int) (windows : JsMap JsString Window) (key : JsString) (rule : RateRule)
    (window : Window) :
    ((count now windows key rule window).1 = none ↔ window.count < rule.limit) ∧
      (∀ other, other ≠ key → (count now windows key rule window).2.get? other = windows.get? other) ∧
      ((count now windows key rule window).2.get? key).map counterOf =
        some ((counterOf window).tallied (count now windows key rule window).1.isNone) := by
  unfold count
  by_cases spent : window.count ≥ rule.limit
  · rw [if_pos spent]
    refine ⟨by simpa using spent, fun other different => JsMap.get?_set_of_ne _ different.symm _, ?_⟩
    rw [JsMap.get?_set_self]
    rfl
  · rw [if_neg spent]
    refine ⟨by simpa using spent, fun other different => JsMap.get?_set_of_ne _ different.symm _, ?_⟩
    rw [JsMap.get?_set_self]
    rfl

/-- A take that finds a place counts its request in the current window of the key. -/
theorem take_counted {now : Int} {windows base : JsMap JsString Window} {key : JsString} {rule : RateRule}
    {window : Window}
    (eq : take limits now windows key rule = count now base key rule window)
    (same : counterOf window = current rule.windowMs now ((windows.get? key).map counterOf))
    (kept : ∀ other, Swept limits now windows base other) :
    ((take limits now windows key rule).2.get? key).map counterOf =
        some ((current rule.windowMs now ((windows.get? key).map counterOf)).tallied
          (take limits now windows key rule).1.isNone) ∧
      ((take limits now windows key rule).1.isNone = true ↔
        (current rule.windowMs now ((windows.get? key).map counterOf)).count < rule.limit) ∧
      ∀ other, other ≠ key → Swept limits now windows (take limits now windows key rule).2 other := by
  obtain ⟨below, others, here⟩ := count_spec now base key rule window
  rw [eq, ← same]
  refine ⟨here, Option.isNone_iff_eq_none.trans below, fun other different => ?_⟩
  unfold Swept
  rw [others other different]
  exact kept other

theorem took_entryOf (request : Request) {name : RuleName} {key : JsString} {rule : RateRule}
    {windows : JsMap JsString Window} (bounded : windows.entries.length ≤ maxTracked) :
    Took limits rule (entryOf limits request name key rule windows) := by
  cases held : windows.get? key with
  | some window =>
      have found : ∀ {P : Prop}, windows.get? key = none → P := by
        intro P none
        rw [held] at none
        cases none
      have eq := @take_tracked limits (request.clock name) windows key window held rule
      have same : counterOf (if request.clock name - window.start ≥ rule.windowMs then ⟨request.clock name, 0⟩
          else window) = current rule.windowMs (request.clock name) ((windows.get? key).map counterOf) := by
        rw [held]
        simp only [Option.map_some, current, counterOf]
        split <;> rfl
      obtain ⟨here, below, others⟩ := take_counted eq same (fun other => .inl rfl)
      exact .counted (fun none => found none) here below others
  | none =>
      have eq := @take_fresh limits (request.clock name) windows key held rule
      by_cases full : (cleared limits (request.clock name) windows).entries.length ≥ maxTracked
      · rw [if_pos full] at eq
        have crowded : maxTracked ≤ windows.entries.length := by
          unfold cleared at full
          split at full
          · assumption
          · exact full
        have sweeping : cleared limits (request.clock name) windows = sweep limits (request.clock name) windows :=
          if_pos crowded
        obtain ⟨same, young⟩ := sweep_eq_self (bounded.trans (sweeping ▸ full))
        refine .full held crowded young ?_ ?_
        · simp only [entryOf, eq]
          exact Option.some_ne_none _
        · simp only [entryOf, eq]
          rw [sweeping, same]
      · rw [if_neg full] at eq
        obtain ⟨here, below, others⟩ := take_counted eq (by rw [held]; rfl) (swept_cleared limits _ windows)
        refine .counted (fun _ crowded => ?_) here below others
        have crowded_ : windows.entries.length ≥ maxTracked := crowded
        rw [cleared, if_pos crowded_] at full
        exact outlived_of_room ((Nat.not_le.mp full).trans_le crowded)

theorem count_entries (now : Int) (windows : JsMap JsString Window) (key : JsString) (rule : RateRule)
    (window : Window) :
    ∃ counted, counted.start = window.start ∧
      (count now windows key rule window).2 = windows.set key counted := by
  unfold count
  split
  · exact ⟨window, rfl, rfl⟩
  · exact ⟨{ window with count := window.count + 1 }, rfl, rfl⟩

/-- A take never lets the table grow beyond its bound. -/
theorem take_bounded {now : Int} {windows : JsMap JsString Window} {key : JsString} {rule : RateRule}
    (bounded : windows.entries.length ≤ maxTracked) :
    (take limits now windows key rule).2.entries.length ≤ maxTracked := by
  cases held : windows.get? key with
  | some window =>
      rw [take_tracked held]
      obtain ⟨counted, -, eq⟩ := count_entries now windows key rule
        (if now - window.start ≥ rule.windowMs then ⟨now, 0⟩ else window)
      rw [eq, JsMap.length_set, held]
      exact bounded
  | none =>
      rw [take_fresh held]
      split
      · unfold cleared
        split
        · exact (List.length_filter_le _ _).trans bounded
        · exact bounded
      · next room =>
          obtain ⟨counted, -, eq⟩ := count_entries now (cleared limits now windows) key rule ⟨now, 0⟩
          rw [eq, JsMap.length_set]
          split <;> omega

/-- Of a bounded table all windows are live exactly if it has no place left for another live one. -/
theorem full_live_iff {now : Int} {windows : JsMap JsString Window}
    (bounded : windows.entries.length ≤ maxTracked) (crowded : maxTracked ≤ windows.entries.length) :
    maxTracked ≤ (live limits now windows).length ↔
      ∀ tracked ∈ windows.entries, now - tracked.2.start < (ruleOf limits tracked.1).windowMs := by
  constructor
  · intro full tracked member
    have all : live limits now windows = windows.entries :=
      List.filter_sublist.eq_of_length_le (bounded.trans full)
    have inside : tracked ∈ live limits now windows := all ▸ member
    simpa only [live, decide_eq_true_eq] using (List.mem_filter.mp inside).2
  · intro running
    have all : live limits now windows = windows.entries :=
      List.filter_eq_self.mpr fun tracked member => decide_eq_true (running tracked member)
    rw [all]
    exact crowded

/-- A refused take is justified exactly if the table was roomy for it, and a take that lets its request
through found it so. -/
theorem Took.justified_iff {entry : Entry} {name : RuleName} {rule : RateRule} (took : Took limits rule entry)
    (own : (name, entry.key, rule) ∈ rules limits entry.request.client entry.request.registering)
    (bounded : entry.before.entries.length ≤ maxTracked) :
    (entry.answer ≠ none → Justified limits entry) ↔ Roomy limits entry := by
  cases took with
  | counted room here below others =>
      refine iff_of_true ?_ fun fresh crowded => .inl (room fresh crowded)
      intro refused
      refine .inl ⟨name, entry.key, rule, own, ?_⟩
      have rejected : entry.allowed = false := by
        cases answer : entry.answer with
        | none => exact absurd answer refused
        | some wait => rw [Entry.allowed, answer]; rfl
      have spent : rule.limit ≤
          (current rule.windowMs entry.now ((entry.before.get? entry.key).map counterOf)).count := by
        refine Int.not_lt.mp fun room => ?_
        rw [below.mpr room] at rejected
        cases rejected
      rw [rejected] at here
      obtain ⟨window, held, same⟩ := Option.map_eq_some_iff.mp here
      have start : window.start =
          (current rule.windowMs entry.now ((entry.before.get? entry.key).map counterOf)).start :=
        congrArg Counter.start same
      have count : window.count =
          (current rule.windowMs entry.now ((entry.before.get? entry.key).map counterOf)).count :=
        congrArg Counter.count same
      refine ⟨window, held, ?_, count ▸ spent⟩
      rw [start]
      cases (entry.before.get? entry.key).map counterOf with
      | none => exact .inl rfl
      | some counter =>
          simp only [current]
          split
          · exact .inl rfl
          · next running => exact .inr (Int.not_le.mp running)
  | full fresh crowded young refused same =>
      have live := @full_live_iff limits entry.now _ bounded crowded
      constructor
      · intro justified _ _
        rcases justified refused with own | running
        · exact .inr (.inr (same ▸ own))
        · exact .inr (.inl (live.mp running))
      · intro roomy _
        rcases roomy fresh crowded with ⟨tracked, member, old⟩ | running | own
        · exact absurd (young tracked member) (Int.not_lt.mpr old)
        · exact .inr (live.mpr running)
        · exact .inl (same.symm ▸ own)

end Take

/-! ## Runs of takes -/

/-- What a trail keeps: the counters of the table stand for the windows of the takes so far. -/
structure Kept (trail : Trail) : Prop where
  bounded : trail.windows.entries.length ≤ maxTracked
  stands : ∀ key now, (∀ entry ∈ trail.log.head?, entry.now ≤ now) →
    Stands (ruleOf limits key).windowMs Entry.allowed now ((trail.windows.get? key).map counterOf)
      (windowsOf limits key trail.log)
  limited : ∀ key, Limited Entry.allowed (ruleOf limits key).limit (windowsOf limits key trail.log)
  counted : ∀ entry ∈ trail.log, entry.answer = none → (entry.after.get? entry.key).isSome
  sizes : ∀ entry ∈ trail.log,
    entry.before.entries.length ≤ maxTracked ∧ entry.after.entries.length ≤ maxTracked
  decided : ∀ entry ∈ trail.log, (entry.answer ≠ none → Justified limits entry) ↔ Roomy limits entry

theorem kept_start : Kept limits .start where
  bounded := Nat.zero_le _
  stands := fun _ now _ => stands_nil now
  limited := fun _ _ impossible => by cases impossible
  counted := fun _ impossible => by cases impossible
  sizes := fun _ impossible => by cases impossible
  decided := fun _ impossible => by cases impossible

variable {limits}

theorem windowsOf_cons {entry : Entry} {log : List Entry} (tracked : (entry.after.get? entry.key).isSome) :
    windowsOf limits entry.key (entry :: log) =
      extend Entry.now (ruleOf limits entry.key).windowMs entry (windowsOf limits entry.key log) := by
  rw [windowsOf, takesOf, List.filter_cons_of_pos (by simpa using tracked)]
  rfl

theorem windowsOf_cons_of_other {entry : Entry} {log : List Entry} {key : JsString}
    (other : entry.key = key → entry.after.get? key = none) :
    windowsOf limits key (entry :: log) = windowsOf limits key log := by
  rw [windowsOf, takesOf, List.filter_cons_of_neg]
  · rfl
  · simp only [decide_eq_true_eq, not_and, Bool.not_eq_true, Option.isSome_eq_false_iff]
    intro same
    rw [other same]
    rfl

section Step

variable {trail : Trail} {entry : Entry}

/-- The counter of a key that the take is not for stands as before. -/
theorem Kept.stands_other (kept : Kept limits trail) {key : JsString}
    (order : ∀ earlier ∈ trail.log.head?, earlier.now ≤ entry.now) (other : entry.key = key →
      entry.after.get? key = none)
    (swept : Swept limits entry.now trail.windows entry.after key) :
    Stands (ruleOf limits key).windowMs Entry.allowed entry.now ((entry.after.get? key).map counterOf)
      (windowsOf limits key (entry :: trail.log)) := by
  have stands := kept.stands key entry.now order
  rw [windowsOf_cons_of_other other]
  rcases swept with same | ⟨gone, old⟩
  · rw [same]
    exact stands
  · rw [gone]
    refine stands.forgotten le_rfl fun counter member => ?_
    obtain ⟨window, held, rfl⟩ := Option.map_eq_some_iff.mp member
    exact (windowMs_le_longest limits key).trans (old window held)

/-- One take keeps the trail. -/
theorem Kept.step (kept : Kept limits trail) {name : RuleName} {rule : RateRule}
    (found : entry.before = trail.windows) (took : Took limits rule entry)
    (own : (name, entry.key, rule) ∈ rules limits entry.request.client entry.request.registering)
    (order : ∀ earlier ∈ trail.log.head?, earlier.now ≤ entry.now)
    (size : entry.after.entries.length ≤ maxTracked) : Kept limits ⟨entry.after, entry :: trail.log⟩ := by
  have governed := (ruleOf_of_rules own).2
  have room : entry.before.entries.length ≤ maxTracked := found ▸ kept.bounded
  have decided := took.justified_iff own room
  have step : ∀ key, Stands (ruleOf limits key).windowMs Entry.allowed entry.now
        ((entry.after.get? key).map counterOf) (windowsOf limits key (entry :: trail.log)) ∧
      Limited Entry.allowed (ruleOf limits key).limit (windowsOf limits key (entry :: trail.log)) := by
    intro key
    cases took with
    | full fresh crowded young refused same =>
        have other : entry.key = key → entry.after.get? key = none := fun eq => eq ▸ same ▸ fresh
        refine ⟨kept.stands_other order other (.inl (by rw [same, found])), ?_⟩
        rw [windowsOf_cons_of_other other]
        exact kept.limited key
    | counted room here below others =>
        by_cases same : key = entry.key
        · subst same
          have tracked : (entry.after.get? entry.key).isSome := by
            rw [← Option.isSome_map, here]
            rfl
          rw [found, ← governed] at here below
          rw [windowsOf_cons tracked, here]
          exact (kept.stands entry.key entry.now order).extended le_rfl (kept.limited entry.key) below
        · have other : entry.key = key → entry.after.get? key = none := fun eq => absurd eq.symm same
          refine ⟨kept.stands_other order other (found ▸ others key same), ?_⟩
          rw [windowsOf_cons_of_other other]
          exact kept.limited key
  constructor
  · exact size
  · intro key now latest
    exact (step key).1.later (latest entry rfl)
  · exact fun key => (step key).2
  · intro other member through
    rcases List.mem_cons.mp member with rfl | old
    · cases took with
      | full _ _ _ refused _ => exact absurd through refused
      | counted _ here _ _ =>
          rw [← Option.isSome_map, here]
          rfl
    · exact kept.counted other old through
  · intro other member
    rcases List.mem_cons.mp member with rfl | old
    · exact ⟨room, size⟩
    · exact kept.sizes other old
  · intro other member
    rcases List.mem_cons.mp member with rfl | old
    · exact decided
    · exact kept.decided other old

end Step

/-- The takes of one request keep the trail. -/
theorem kept_asked {request : Request} (list : List (RuleName × JsString × RateRule))
    (own : ∀ asked ∈ list, asked ∈ rules limits request.client request.registering) (trail : Trail)
    (kept : Ordered trail.log → Kept limits trail) (ordered : Ordered (asked limits request list trail).log) :
    Kept limits (asked limits request list trail) := by
  induction list generalizing trail with
  | nil => exact kept ordered
  | cons first rest ih =>
      obtain ⟨name, key, rule⟩ := first
      have next : Ordered (entryOf limits request name key rule trail.windows :: trail.log) →
          Kept limits ⟨(entryOf limits request name key rule trail.windows).after,
            entryOf limits request name key rule trail.windows :: trail.log⟩ := by
        intro ordered
        obtain ⟨latest, before⟩ := List.pairwise_cons.mp ordered
        have held := kept before
        refine held.step rfl (took_entryOf request held.bounded) (own _ List.mem_cons_self) ?_
          (take_bounded held.bounded)
        exact fun earlier last => latest earlier (List.mem_of_mem_head? last)
      unfold asked at ordered ⊢
      simp only at ordered ⊢
      split at ordered
      · next refused =>
          rw [if_pos refused]
          exact next ordered
      · next through =>
          rw [if_neg through]
          exact ih (fun other member => own other (List.mem_cons_of_mem _ member)) _ next ordered

theorem kept_foldl (requests : List Request) (trail : Trail) (kept : Ordered trail.log → Kept limits trail)
    (ordered : Ordered (requests.foldl (served limits) trail).log) :
    Kept limits (requests.foldl (served limits) trail) := by
  induction requests generalizing trail with
  | nil => exact kept ordered
  | cons request rest ih =>
      exact ih (served limits trail request) (kept_asked _ (fun _ member => member) trail kept) ordered

theorem kept_run {requests : List Request} (ordered : Ordered (run limits requests).log) :
    Kept limits (run limits requests) :=
  kept_foldl requests .start (fun _ => kept_start limits) ordered

/-- What the windows of a key are: each holds takes from its start to its end, and they do not overlap. -/
theorem windowsOf_fixed {log : List Entry} (ordered : Ordered log) (key : JsString) :
    (∀ span ∈ windowsOf limits key log, Fixed Entry.now (ruleOf limits key).windowMs span) ∧
      (windowsOf limits key log).IsChain fun later earlier =>
        earlier.start + (ruleOf limits key).windowMs ≤ later.start :=
  spans_fixed Entry.now _ (ordered.filter _)

/-- A run is fair exactly if in each of its takes a full table was roomy. -/
theorem run_fair_iff (requests : List Request) (ordered : Ordered (run limits requests).log) :
    Fair limits (run limits requests).log ↔ ∀ entry ∈ (run limits requests).log, Roomy limits entry := by
  have kept := kept_run ordered
  constructor
  · intro fair entry member
    exact (kept.decided entry member).mp (fair.justified entry member)
  · intro roomy
    exact ⟨kept.limited, kept.counted, kept.sizes,
      fun entry member => (kept.decided entry member).mpr (roomy entry member)⟩

end Runs

/-- A table with a place left is roomy. -/
theorem roomy_of_space {limits : RateLimits} {entry : Entry}
    (space : entry.before.entries.length < maxTracked) :
    Roomy limits entry :=
  fun _ crowded => absurd space (Nat.not_lt.mpr crowded)

/-- A request at one reading of the clock. -/
def quickRequest (now : Int) (client : JsString) : Request :=
  ⟨client, false, fun _ => now⟩

/-- One address asks twice. -/
def calmRequests : List Request :=
  [quickRequest 0 (js "::1"), quickRequest 5 (js "::1")]

theorem calm_fair : Fair defaultRateLimits (run defaultRateLimits calmRequests).log := by
  have space : ∀ entry ∈ (run defaultRateLimits calmRequests).log,
      entry.before.entries.length < maxTracked := by
    decide
  have ordered : ((run defaultRateLimits calmRequests).log.map Entry.now).Pairwise (· ≥ ·) := by
    decide
  exact (run_fair_iff calmRequests (List.pairwise_map.mp ordered)).mpr
    fun entry member => roomy_of_space (space entry member)

/-! ## A flood of addresses -/

/-- So many addresses. -/
def addresses (count : Nat) : List JsString :=
  (List.range count).map fun number => decimal (10 + number)

/-- Each address asks once, and a minute later, when every window has ended, another address asks. -/
def flood (count : Nat) : List Request :=
  (addresses count).map (quickRequest 0) ++ [quickRequest 60000 (js "::1")]

/-- What the table holds after so many addresses: a window for each, and one for everyone. -/
structure Flooded (seen : List JsString) (windows : JsMap JsString Window) : Prop where
  started : ∀ key window, windows.get? key = some window → window.start = 0
  known : ∀ client, client ∉ seen → windows.get? (js "c:" ++ client) = none
  everyone : (windows.get? (js "g")).isSome = !seen.isEmpty
  size : windows.entries.length = seen.length + if seen.isEmpty then 0 else 1

theorem clientKey_ne_everyone (client : JsString) : js "c:" ++ client ≠ js "g" := by
  rw [clientPrefix, everyoneKey]
  intro same
  cases same

theorem flooded_start : Flooded [] Trail.start.windows where
  started := fun _ _ impossible => by cases impossible
  known := fun _ _ => rfl
  everyone := rfl
  size := rfl

/-- A take at the time at which every window has started. -/
theorem take_at_start {windows : JsMap JsString Window} {key : JsString} {rule : RateRule}
    (started : ∀ window, windows.get? key = some window → window.start = 0)
    (room : windows.get? key = none → windows.entries.length < maxTracked) :
    ∃ counted, counted.start = 0 ∧ (take defaultRateLimits 0 windows key rule).2 = windows.set key counted := by
  cases held : windows.get? key with
  | some window =>
      rw [take_tracked held]
      obtain ⟨counted, start, eq⟩ := count_entries 0 windows key rule
        (if 0 - window.start ≥ rule.windowMs then ⟨0, 0⟩ else window)
      refine ⟨counted, ?_, eq⟩
      rw [start]
      split
      · rfl
      · exact started window held
  | none =>
      have space := room held
      have untouched : cleared defaultRateLimits 0 windows = windows := if_neg (Nat.not_le.mpr space)
      rw [take_fresh held, untouched, if_neg (Nat.not_le.mpr space)]
      exact count_entries 0 windows key rule ⟨0, 0⟩

theorem clientKey_injective {client other : JsString} (same : js "c:" ++ client = js "c:" ++ other) :
    client = other :=
  List.append_cancel_left same

theorem check_fresh {windows : JsMap JsString Window} {client : JsString}
    (fresh : windows.get? (js "c:" ++ client) = none) (space : windows.entries.length < maxTracked) :
    (check defaultRateLimits 0 windows client false).2 =
      (take defaultRateLimits 0 (windows.set (js "c:" ++ client) ⟨0,
        1⟩) (js "g") defaultRateLimits.everyone).2 := by
  have untouched : cleared defaultRateLimits 0 windows = windows := if_neg (Nat.not_le.mpr space)
  have first : take defaultRateLimits 0 windows (js "c:" ++ client) defaultRateLimits.perClient =
      (none, windows.set (js "c:" ++ client) ⟨0, 1⟩) := by
    rw [take_fresh fresh, untouched, if_neg (Nat.not_le.mpr space)]
    rfl
  simp only [check, rules, Bool.false_eq_true, if_false, List.append_nil, List.cons_append, List.nil_append,
    checkRules, first]
  split <;> simp_all

/-- A new address adds its window to the table. -/
theorem Flooded.served {seen : List JsString} {trail : Trail} (flooded : Flooded seen trail.windows)
    {client : JsString} (fresh : client ∉ seen) (room : seen.length + 1 < maxTracked) :
    Flooded (client :: seen) (served defaultRateLimits trail (quickRequest 0 client)).windows := by
  have space : trail.windows.entries.length < maxTracked := by
    rw [flooded.size]
    split <;> omega
  have unknown := flooded.known client fresh
  have started : ∀ key window, (trail.windows.set (js "c:" ++ client) ⟨0, 1⟩).get? key = some window →
      window.start = 0 := by
    intro key window held
    rw [JsMap.get?_set] at held
    split at held
    · cases held
      rfl
    · exact flooded.started key window held
  have grown : (trail.windows.set (js "c:" ++ client) ⟨0,
      1⟩).entries.length = trail.windows.entries.length + 1 := by
    rw [JsMap.length_set, unknown]
    rfl
  have everyone : (trail.windows.set (js "c:" ++ client) ⟨0, 1⟩).get? (js "g") = trail.windows.get? (js "g") :=
    JsMap.get?_set_of_ne _ (clientKey_ne_everyone client) _
  obtain ⟨counted, start, eq⟩ := @take_at_start (trail.windows.set (js "c:" ++ client) ⟨0, 1⟩) (js "g")
    defaultRateLimits.everyone (started _) (by
      intro none
      rw [everyone] at none
      rw [grown, flooded.size]
      have first := flooded.everyone
      rw [none] at first
      cases empty : seen.isEmpty with
      | true => simp [List.isEmpty_iff.mp empty, maxTracked]
      | false =>
          rw [empty] at first
          cases first)
  have windows : (RateLimiting.served defaultRateLimits trail (quickRequest 0 client)).windows =
      (check defaultRateLimits 0 trail.windows client false).2 :=
    served_windows _ (fun _ => rfl) trail
  rw [windows.trans (check_fresh unknown space), eq]
  constructor
  · intro key window held
    rw [JsMap.get?_set] at held
    split at held
    · cases held
      exact start
    · exact started key window held
  · intro other absent
    obtain ⟨different, absent⟩ := List.ne_and_not_mem_of_not_mem_cons absent
    rw [JsMap.get?_set_of_ne _ (clientKey_ne_everyone other).symm,
      JsMap.get?_set_of_ne _ fun same => different (clientKey_injective same).symm]
    exact flooded.known other absent
  · rw [JsMap.get?_set_self]
    rfl
  · rw [JsMap.length_set, everyone, grown, flooded.everyone, flooded.size]
    cases seen with
    | nil => rfl
    | cons first rest => rfl

/-- After the flood the table is full of windows that started together. -/
theorem flooded_foldl (clients : List JsString) {seen : List JsString} {trail : Trail}
    (flooded : Flooded seen trail.windows) (distinct : (clients ++ seen).Nodup)
    (room : (clients ++ seen).length < maxTracked) :
    Flooded (clients.reverse ++ seen) ((clients.map (quickRequest 0)).foldl (served defaultRateLimits) trail).windows := by
  induction clients generalizing seen trail with
  | nil => exact flooded
  | cons client rest ih =>
      obtain ⟨absent, others⟩ := List.nodup_cons.mp distinct
      rw [List.length_append, List.length_cons] at room
      rw [List.reverse_cons, List.append_assoc, List.map_cons, List.foldl_cons]
      refine ih (flooded.served (fun member => absent (List.mem_append_right _ member)) (by omega)) ?_ ?_
      · exact (List.perm_middle.nodup_iff).mpr (List.nodup_cons.mpr ⟨absent, others⟩)
      · simp only [List.length_append, List.length_singleton]
        omega

theorem addresses_nodup (count : Nat) : (addresses count).Nodup := by
  refine (List.nodup_range).map fun first second same => ?_
  have := decimal_injective same
  omega

theorem length_addresses (count : Nat) : (addresses count).length = count := by
  rw [addresses, List.length_map, List.length_range]

/-- The trail after the addresses of the flood. -/
def floodTrail (count : Nat) : Trail :=
  ((addresses count).map (quickRequest 0)).foldl (served defaultRateLimits) .start

theorem run_flood (count : Nat) :
    run defaultRateLimits (flood count) = served defaultRateLimits (floodTrail count) (quickRequest 60000 (js "::1")) :=
  List.foldl_append

theorem floodTrail_flooded {count : Nat} (room : count < maxTracked) :
    Flooded (addresses count).reverse (floodTrail count).windows := by
  have flooded := flooded_foldl (addresses count) flooded_start
    (by rw [List.append_nil]; exact addresses_nodup count)
    (by rw [List.append_nil, length_addresses]; exact room)
  rw [List.append_nil] at flooded
  exact flooded

/-- The takes of requests whose clocks stand still are ordered as the requests are. -/
theorem ordered_asked {limits : RateLimits} {request : Request} {now : Int}
    (still : ∀ name, request.clock name = now)
    (list : List (RuleName × JsString × RateRule)) (trail : Trail) (ordered : Ordered trail.log)
    (earlier : ∀ entry ∈ trail.log, entry.now ≤ now) :
    Ordered (asked limits request list trail).log ∧ ∀ entry ∈ (asked limits request list trail).log,
      entry.now ≤ now := by
  induction list generalizing trail with
  | nil => exact ⟨ordered, earlier⟩
  | cons first rest ih =>
      obtain ⟨name, key, rule⟩ := first
      have at_ : (entryOf limits request name key rule trail.windows).now = now := still name
      have next : Ordered (entryOf limits request name key rule trail.windows :: trail.log) := by
        refine List.pairwise_cons.mpr ⟨fun entry member => ?_, ordered⟩
        rw [at_]
        exact earlier entry member
      have latest : ∀ entry ∈ entryOf limits request name key rule trail.windows :: trail.log,
          entry.now ≤ now := by
        intro entry member
        rcases List.mem_cons.mp member with rfl | old
        · exact le_of_eq at_
        · exact earlier entry old
      simp only [asked]
      split
      · exact ⟨next, latest⟩
      · exact ih _ next latest

theorem ordered_foldl {limits : RateLimits} {now : Int} (clients : List JsString) (trail : Trail)
    (ordered : Ordered trail.log) (earlier : ∀ entry ∈ trail.log, entry.now ≤ now) :
    Ordered ((clients.map (quickRequest now)).foldl (served limits) trail).log ∧
      ∀ entry ∈ ((clients.map (quickRequest now)).foldl (served limits) trail).log, entry.now ≤ now := by
  induction clients generalizing trail with
  | nil => exact ⟨ordered, earlier⟩
  | cons client rest ih =>
      obtain ⟨next, latest⟩ := @ordered_asked limits (quickRequest now client) now (fun _ => rfl)
        (rules limits client false) trail ordered earlier
      exact ih _ next latest

theorem flood_ordered (count : Nat) : Ordered (run defaultRateLimits (flood count)).log := by
  obtain ⟨ordered, earlier⟩ := @ordered_foldl defaultRateLimits 0 (addresses count) .start List.Pairwise.nil
    (fun entry impossible => by cases impossible)
  rw [run_flood]
  exact (@ordered_asked defaultRateLimits (quickRequest 60000 (js "::1")) 60000 (fun _ => rfl) _ (floodTrail count)
    ordered fun entry member => (earlier entry member).trans (by decide)).1

/-- The take that the new address is refused by. -/
def lateEntry (count : Nat) : Entry :=
  entryOf defaultRateLimits (quickRequest 60000 (js "::1")) .perClient (js "c:" ++ js "::1")
    defaultRateLimits.perClient (floodTrail count).windows

theorem lateEntry_mem (count : Nat) : lateEntry count ∈ (run defaultRateLimits (flood count)).log := by
  have kept : ∀ (list : List (RuleName × JsString × RateRule)) (trail : Trail), lateEntry count ∈ trail.log →
      lateEntry count ∈ (asked defaultRateLimits (quickRequest 60000 (js "::1")) list trail).log := by
    intro list
    induction list with
    | nil => exact fun trail member => member
    | cons first rest ih =>
        intro trail member
        simp only [asked]
        split
        · exact List.mem_cons_of_mem _ member
        · exact ih _ (List.mem_cons_of_mem _ member)
  rw [run_flood, served, rules]
  simp only [List.cons_append, asked]
  split
  · exact List.mem_cons_self
  · exact kept _ _ List.mem_cons_self

theorem colons_not_mem (count : Nat) : js "::1" ∉ addresses count := by
  intro member
  obtain ⟨number, -, same⟩ := List.mem_map.mp member
  have digit : (58 : UInt16) ∈ decimal (10 + number) := by
    rw [same]
    decide
  have inside := isDigit_of_mem_decimal digit
  unfold IsDigitUnit at inside
  revert inside
  decide

/-- A minute after the flood no window is running, and a new address is refused for want of a place. -/
theorem lateEntry_crowded {count : Nat} (full : count + 1 = maxTracked) :
    ¬ Roomy defaultRateLimits (lateEntry count) := by
  have flooded := @floodTrail_flooded count (by omega)
  have nonempty : (addresses count).reverse.isEmpty = false := by
    rw [List.isEmpty_eq_false_iff]
    intro empty
    have length := congrArg List.length empty
    rw [List.length_reverse, length_addresses, List.length_nil] at length
    rw [length] at full
    cases full
  have fresh : (floodTrail count).windows.get? (js "c:" ++ js "::1") = none :=
    flooded.known (js "::1") fun member => colons_not_mem count (List.mem_reverse.mp member)
  have size : (floodTrail count).windows.entries.length = maxTracked := by
    rw [flooded.size, nonempty, List.length_reverse, length_addresses]
    exact full
  intro roomy
  rcases roomy fresh (le_of_eq size.symm) with ⟨tracked, member, old⟩ | running | ⟨name, key, rule,
    own, exhausted⟩
  · have start := flooded.started tracked.1 tracked.2 (JsMap.get?_of_mem member)
    rw [start] at old
    revert old
    show ¬ (longest defaultRateLimits ≤ 60000 - 0)
    decide
  · obtain ⟨window, held⟩ : ∃ window, (floodTrail count).windows.get? (js "g") = some window := by
      rw [← Option.isSome_iff_exists, flooded.everyone, nonempty]
      rfl
    have young := running (js "g", window) (JsMap.mem_of_lookupEntry held)
    rw [flooded.started _ window held] at young
    revert young
    show ¬ (60000 - 0 < (ruleOf defaultRateLimits (js "g")).windowMs)
    rw [everyoneKey]
    decide
  · obtain ⟨window, held, effect, -⟩ := exhausted
    rw [flooded.started key window held] at effect
    have minute : rule.windowMs = 60000 := by
      rw [rules] at own
      simp only [List.mem_append, List.mem_singleton] at own
      rcases own with (same | impossible) | same
      · cases same
        rfl
      · cases impossible
      · cases same
        rfl
    rw [minute] at effect
    revert effect
    show ¬ ((0 : Int) = 60000 ∨ (60000 : Int) - 0 < 60000)
    decide

/-- The flood is a run whose last take is refused without a reason. -/
theorem flood_unfair :
    ¬ ∀ (limits : RateLimits) (requests : List Request), Ordered (run limits requests).log →
      Fair limits (run limits requests).log := by
  intro always
  have fair := always defaultRateLimits (flood 9999) (flood_ordered 9999)
  have kept := kept_run (flood_ordered 9999)
  have member := lateEntry_mem 9999
  exact lateEntry_crowded (by decide) ((kept.decided _ member).mp (fair.justified _ member))

end KernelJson.OAuth.RateLimiting
