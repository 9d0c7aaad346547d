import KernelJson.Foundation.JsMap
import KernelJson.Foundation.JsText

/-!
# Bounded tables

The stores of single-use entries, which refuse a new entry when they are full
rather than drop a live one, and the fixed-window counters of the rate limiter.
An entry that was put is found until it is taken or expires, and what a table
holds is what was put into it.
-/

namespace KernelJson.OAuth.Tables

open Foundation
open Foundation.JsText

/-! ## Single-use entries -/

def maxPending : Nat :=
  1000

section OneShot

variable {V : Type} (expiresAt : V → Int)

/-- The entries that have not expired. -/
def unexpired (now : Int) (items : JsMap JsString V) : JsMap JsString V :=
  items.keepWhere fun value => decide (now < expiresAt value)

/-- `put` has room for an entry. -/
def hasRoom (now : Int) (items : JsMap JsString V) : Bool :=
  decide ((unexpired expiresAt now items).entries.length < maxPending)

/-- `OneShot.put`: the items it leaves; whether it stored the entry is `hasRoom`. -/
def put (now : Int) (items : JsMap JsString V) (key : JsString) (value : V) : JsMap JsString V :=
  if hasRoom expiresAt now items then (unexpired expiresAt now items).set key value
  else unexpired expiresAt now items

/-- The entry that `OneShot.take` returns. -/
def taken (now : Int) (items : JsMap JsString V) (key : Option JsString) : Option V :=
  match key with
  | none => none
  | some key =>
      if key = [] then none
      else (items.get? key).filter fun value => decide (now < expiresAt value)

/-- The items that `OneShot.take` leaves. -/
def afterTake (items : JsMap JsString V) (key : Option JsString) : JsMap JsString V :=
  match key with
  | none => items
  | some key => if key = [] then items else items.delete key

theorem get?_put {now : Int} {items : JsMap JsString V} {key other : JsString} {value found : V}
    (here : (put expiresAt now items key value).get? other = some found) :
    (key = other ∧ found = value ∧ hasRoom expiresAt now items = true) ∨ items.get? other = some found := by
  unfold put at here
  split at here
  · next room =>
      rw [JsMap.get?_set] at here
      split at here
      · next same => exact .inl ⟨same, (Option.some.inj here).symm, room⟩
      · exact .inr (JsMap.get?_keepWhere_eq_some.mp here).1
  · exact .inr (JsMap.get?_keepWhere_eq_some.mp here).1

theorem taken_eq_some {now : Int} {items : JsMap JsString V} {key : Option JsString} {value : V}
    (found : taken expiresAt now items key = some value) :
    ∃ name, key = some name ∧ name ≠ [] ∧ items.get? name = some value ∧ now < expiresAt value := by
  cases key with
  | none => cases found
  | some name =>
      unfold taken at found
      simp only at found
      split at found
      · cases found
      · next nonempty =>
          obtain ⟨present, live⟩ := Option.filter_eq_some_iff.mp found
          exact ⟨name, rfl, nonempty, present, of_decide_eq_true live⟩

theorem get?_afterTake {items : JsMap JsString V} {key : Option JsString} {other : JsString} {found : V}
    (here : (afterTake items key).get? other = some found) : items.get? other = some found := by
  cases key with
  | none => exact here
  | some name =>
      unfold afterTake at here
      simp only at here
      split at here
      · exact here
      · rw [JsMap.get?_delete] at here
        split at here
        · cases here
        · exact here

/-- An entry that was taken is gone. -/
theorem get?_afterTake_self {items : JsMap JsString V} {name : JsString} (nonempty : name ≠ []) :
    (afterTake items (some name)).get? name = none := by
  simp only [afterTake, if_neg nonempty, JsMap.get?_delete_self]

end OneShot

/-! ## Rate limits -/

structure RateRule where
  limit : Int
  windowMs : Int

inductive RuleName where
  | perClient
  | registerPerClient
  | everyone
deriving DecidableEq

structure RateLimits where
  perClient : RateRule
  registerPerClient : RateRule
  everyone : RateRule

/-- `DEFAULT_RATE_LIMITS`. -/
def defaultRateLimits : RateLimits :=
  { perClient := ⟨30, 60000⟩, registerPerClient := ⟨10, 3600000⟩, everyone := ⟨300, 60000⟩ }

def maxTracked : Nat :=
  10000

structure Window where
  start : Int
  count : Int

/-- `Math.ceil(ms / 1000)`. -/
def ceilSeconds (ms : Int) : Int :=
  -((-ms) / 1000)

section RateLimiter

variable (limits : RateLimits)

def longest : Int :=
  max limits.perClient.windowMs (max limits.registerPerClient.windowMs limits.everyone.windowMs)

def sweep (now : Int) (windows : JsMap JsString Window) : JsMap JsString Window :=
  windows.keepWhere fun window => decide (now - window.start < longest limits)

/-- Counts one request in the window of a key. -/
def count (now : Int) (windows : JsMap JsString Window) (key : JsString) (rule : RateRule) (window : Window) :
    Option Int × JsMap JsString Window :=
  if window.count ≥ rule.limit then
    (some (max 1 (ceilSeconds (window.start + rule.windowMs - now))), windows.set key window)
  else (none, windows.set key { window with count := window.count + 1 })

/-- `RateLimiter.take`: the seconds to wait, if the request is refused. -/
def take (now : Int) (windows : JsMap JsString Window) (key : JsString) (rule : RateRule) :
    Option Int × JsMap JsString Window :=
  match windows.get? key with
  | some window =>
      if now - window.start ≥ rule.windowMs then count now windows key rule ⟨now, 0⟩
      else count now windows key rule window
  | none =>
      let swept := if windows.entries.length ≥ maxTracked then sweep limits now windows else windows
      if swept.entries.length ≥ maxTracked then (some (ceilSeconds rule.windowMs), swept)
      else count now swept key rule ⟨now, 0⟩

/-- The rules of a request, in the order in which they are asked. -/
def rules (client : JsString) (registering : Bool) : List (RuleName × JsString × RateRule) :=
  [(.perClient, js "c:" ++ client, limits.perClient)] ++
    (if registering then [(.registerPerClient, js "r:" ++ client, limits.registerPerClient)] else []) ++
    [(.everyone, js "g", limits.everyone)]

def checkRules (now : Int) :
    List (RuleName × JsString × RateRule) → JsMap JsString Window → Option (RuleName × Int) × JsMap JsString Window
  | [], windows => (none, windows)
  | (name, key, rule) :: rest, windows =>
      match take limits now windows key rule with
      | (some wait, after) => (some (name, wait), after)
      | (none, after) => checkRules now rest after

/-- `RateLimiter.check`: the rule that refuses the request, if one does. -/
def check (now : Int) (windows : JsMap JsString Window) (client : JsString) (registering : Bool) :
    Option (RuleName × Int) × JsMap JsString Window :=
  checkRules limits now (rules limits client registering) windows

end RateLimiter

end KernelJson.OAuth.Tables
