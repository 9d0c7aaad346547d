import KernelJson.Foundation.Dependencies
import KernelJson.Foundation.JsonRoundTrip

/-!
# Canonical texts tell values apart

`JSON.parse` reads the value with its fields sorted back from a canonical text.
Two values with one canonical text are therefore the same value, up to the
order of fields.
-/

namespace KernelJson.Foundation.CanonicalTexts

open Foundation.JsText
open Foundation.Json
open Foundation.JsonRoundTrip

variable {numeral : JsString → Option Int}

theorem perm_sortByName {V : Type} (fields : List (JsString × V)) : (sortByName fields).Perm fields :=
  List.perm_insertionSort _ _

theorem names_sortFields (fields : List (JsString × Json)) :
    (sortFields fields).map Prod.fst = fields.map Prod.fst := by
  rw [sortFields_eq, List.map_map]
  rfl

theorem legibleFields_iff (fields : List (JsString × Json)) :
    LegibleFields numeral fields ↔ ∀ field ∈ fields, Legible numeral field.2 := by
  induction fields with
  | nil => exact ⟨fun _ _ member => (by cases member), fun _ => trivial⟩
  | cons field rest ih => rw [LegibleFields, ih, List.forall_mem_cons]

mutual
/-- Sorting the fields keeps a value legible. -/
theorem legible_sortKeys : ∀ value : Json, Legible numeral value → Legible numeral (sortKeys value)
  | .null, _ => trivial
  | .bool _, _ => trivial
  | .num _, legible => legible
  | .real _, legible => legible
  | .str _, _ => trivial
  | .arr items, legible => legible_sortItems items legible
  | .obj fields, legible => by
      have perm := perm_sortByName (sortFields fields)
      refine ⟨?_, (legibleFields_iff _).mpr fun field member => ?_⟩
      · rw [(perm.map Prod.fst).nodup_iff, names_sortFields]
        exact legible.1
      · exact (legibleFields_iff _).mp (legible_sortFields fields legible.2) field (perm.mem_iff.mp member)

theorem legible_sortItems : ∀ items : List Json, LegibleItems numeral items → LegibleItems numeral
    (sortItems items)
  | [], _ => trivial
  | item :: rest, legible => ⟨legible_sortKeys item legible.1, legible_sortItems rest legible.2⟩

theorem legible_sortFields : ∀ fields : List (JsString × Json), LegibleFields numeral fields →
    LegibleFields numeral (sortFields fields)
  | [], _ => trivial
  | (_, value) :: rest, legible => ⟨legible_sortKeys value legible.1, legible_sortFields rest legible.2⟩
end

/-- `JSON.parse` reads a canonical text as the value with its fields sorted. -/
theorem parse_canonical {value : Json} (legible : Legible numeral value) :
    JsonParse.parse numeral value.canonical = some (sortKeys value) := by
  rw [canonical_eq]
  exact parse_stringify_of_legible (legible_sortKeys value legible)

/-- Values with one canonical text are the same up to the order of fields. -/
theorem same_of_canonical {first second : Json} (here : Legible numeral first) (there : Legible numeral second)
    (texts : first.canonical = second.canonical) : first.SameUpToKeyOrder second := by
  have read := parse_canonical here
  rw [texts, parse_canonical there] at read
  exact (Option.some.inj read).symm

/-! ## Values without numbers -/

mutual
/-- No object repeats a name, and there is no number. -/
def numberless : Json → Bool
  | .null => true
  | .bool _ => true
  | .num _ => false
  | .real _ => false
  | .str _ => true
  | .arr items => numberlessItems items
  | .obj fields => decide (fields.map Prod.fst).Nodup && numberlessFields fields

def numberlessItems : List Json → Bool
  | [] => true
  | item :: rest => numberless item && numberlessItems rest

def numberlessFields : List (JsString × Json) → Bool
  | [] => true
  | (_, value) :: rest => numberless value && numberlessFields rest
end

mutual
/-- Whatever the platform makes of numerals, it reads a value without numbers. -/
theorem legible_numberless : ∀ value : Json, numberless value = true → Legible numeral value
  | .null, _ => trivial
  | .bool _, _ => trivial
  | .num _, without => absurd without Bool.false_ne_true
  | .real _, without => absurd without Bool.false_ne_true
  | .str _, _ => trivial
  | .arr items, without => legible_numberlessItems items without
  | .obj fields, without =>
      have parts := Bool.and_eq_true_iff.mp without
      ⟨of_decide_eq_true parts.1, legible_numberlessFields fields parts.2⟩

theorem legible_numberlessItems : ∀ items : List Json, numberlessItems items = true → LegibleItems numeral items
  | [], _ => trivial
  | item :: rest, without =>
      have parts := Bool.and_eq_true_iff.mp without
      ⟨legible_numberless item parts.1, legible_numberlessItems rest parts.2⟩

theorem legible_numberlessFields : ∀ fields : List (JsString × Json), numberlessFields fields = true →
    LegibleFields numeral fields
  | [], _ => trivial
  | (_, value) :: rest, without =>
      have parts := Bool.and_eq_true_iff.mp without
      ⟨legible_numberless value parts.1, legible_numberlessFields rest parts.2⟩
end

end KernelJson.Foundation.CanonicalTexts
