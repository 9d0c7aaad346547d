import Mathlib.Data.List.Basic
import Mathlib.Data.List.Nodup

/-!
# Insertion-ordered maps

An ECMAScript `Map` keeps its entries in the order in which their keys were
first inserted; `set` on a present key replaces the value in place.  Keys are
unique by construction, so that lookup and enumeration agree.
-/

namespace KernelJson.Foundation.JsMap

section Entries

variable {K V : Type} [DecidableEq K]

def lookupEntry (key : K) : List (K × V) → Option V
  | [] => none
  | (other, value) :: rest => if other = key then some value else lookupEntry key rest

def setEntry (key : K) (value : V) : List (K × V) → List (K × V)
  | [] => [(key, value)]
  | (other, old) :: rest =>
      if other = key then (key, value) :: rest else (other, old) :: setEntry key value rest

def deleteEntry (key : K) (entries : List (K × V)) : List (K × V) :=
  entries.filter fun entry => entry.1 ≠ key

theorem mem_keys_setEntry {key found : K} {value : V} {entries : List (K × V)}
    (member : found ∈ (setEntry key value entries).map Prod.fst) :
    found = key ∨ found ∈ entries.map Prod.fst := by
  induction entries with
  | nil => exact Or.inl (List.mem_singleton.mp member)
  | cons entry rest ih =>
      unfold setEntry at member
      split at member
      · rcases List.mem_cons.mp member with head | tail
        · exact Or.inl head
        · exact Or.inr (List.mem_cons_of_mem _ tail)
      · rcases List.mem_cons.mp member with head | tail
        · exact Or.inr (head ▸ List.mem_cons_self)
        · rcases ih tail with same | old
          · exact Or.inl same
          · exact Or.inr (List.mem_cons_of_mem _ old)

theorem setEntry_nodup {key : K} {value : V} {entries : List (K × V)}
    (nodup : (entries.map Prod.fst).Nodup) : ((setEntry key value entries).map Prod.fst).Nodup := by
  induction entries with
  | nil => exact List.nodup_singleton key
  | cons entry rest ih =>
      obtain ⟨fresh, tail⟩ := List.nodup_cons.mp nodup
      unfold setEntry
      split
      · next same => exact List.nodup_cons.mpr ⟨same ▸ fresh, tail⟩
      · next different =>
          refine List.nodup_cons.mpr ⟨fun member => ?_, ih tail⟩
          rcases mem_keys_setEntry member with same | old
          · exact different same
          · exact fresh old

theorem deleteEntry_nodup {key : K} {entries : List (K × V)}
    (nodup : (entries.map Prod.fst).Nodup) : ((deleteEntry key entries).map Prod.fst).Nodup :=
  nodup.sublist ((List.filter_sublist).map Prod.fst)

theorem lookupEntry_setEntry (key other : K) (value : V) (entries : List (K × V)) :
    lookupEntry other (setEntry key value entries) =
      if key = other then some value else lookupEntry other entries := by
  induction entries with
  | nil => rfl
  | cons entry rest ih =>
      obtain ⟨head, old⟩ := entry
      by_cases same : head = key
      · subst same
        simp only [setEntry, if_pos, lookupEntry]
        split <;> rfl
      · simp only [setEntry, if_neg same, lookupEntry, ih]
        by_cases here : head = other
        · subst here
          simp [Ne.symm same]
        · simp [here]

theorem length_setEntry (key : K) (value : V) (entries : List (K × V)) :
    (setEntry key value entries).length =
      if (lookupEntry key entries).isSome then entries.length else entries.length + 1 := by
  induction entries with
  | nil => rfl
  | cons entry rest ih =>
      obtain ⟨other, old⟩ := entry
      by_cases same : other = key
      · simp [setEntry, lookupEntry, same]
      · simp only [setEntry, lookupEntry, if_neg same, List.length_cons, ih]
        split <;> rfl

theorem lookupEntry_deleteEntry (key other : K) (entries : List (K × V)) :
    lookupEntry other (deleteEntry key entries) =
      if key = other then none else lookupEntry other entries := by
  induction entries with
  | nil => simp [deleteEntry, lookupEntry]
  | cons entry rest ih =>
      obtain ⟨head, old⟩ := entry
      unfold deleteEntry at ih ⊢
      by_cases same : head = key
      · subst same
        simp only [List.filter_cons, ne_eq, not_true_eq_false, decide_false, Bool.false_eq_true,
          if_false, ih, lookupEntry]
        split <;> rfl
      · simp only [List.filter_cons, ne_eq, same, not_false_eq_true, decide_true, if_true, lookupEntry, ih]
        by_cases here : head = other
        · subst here
          simp [Ne.symm same]
        · simp [here]

theorem mem_of_lookupEntry {key : K} {value : V} {entries : List (K × V)}
    (found : lookupEntry key entries = some value) : (key, value) ∈ entries := by
  induction entries with
  | nil => cases found
  | cons entry rest ih =>
      unfold lookupEntry at found
      split at found
      · next same =>
          cases found
          exact same ▸ List.mem_cons_self
      · exact List.mem_cons_of_mem _ (ih found)

theorem lookupEntry_of_mem {key : K} {value : V} {entries : List (K × V)}
    (nodup : (entries.map Prod.fst).Nodup) (member : (key, value) ∈ entries) :
    lookupEntry key entries = some value := by
  induction entries with
  | nil => cases member
  | cons entry rest ih =>
      obtain ⟨fresh, tail⟩ := List.nodup_cons.mp nodup
      rcases List.mem_cons.mp member with head | later
      · subst head
        simp [lookupEntry]
      · have different : entry.1 ≠ key := fun same =>
          fresh (same ▸ List.mem_map_of_mem later)
        obtain ⟨head, old⟩ := entry
        simp only [lookupEntry, if_neg different]
        exact ih tail later

theorem lookupEntry_filter (accepts : V → Bool) (key : K) {entries : List (K × V)}
    (nodup : (entries.map Prod.fst).Nodup) :
    lookupEntry key (entries.filter fun entry => accepts entry.2) = (lookupEntry key entries).filter accepts := by
  induction entries with
  | nil => rfl
  | cons entry rest ih =>
      obtain ⟨fresh, tail⟩ := List.nodup_cons.mp nodup
      obtain ⟨other, value⟩ := entry
      have later := ih tail
      by_cases accepted : accepts value = true
      · rw [List.filter_cons, if_pos accepted]
        by_cases here : other = key
        · simp [lookupEntry, here, accepted, Option.filter]
        · simp [lookupEntry, here, later]
      · rw [List.filter_cons, if_neg accepted, later]
        by_cases here : other = key
        · -- the key stands nowhere else
          have absent : lookupEntry key rest = none := by
            cases found : lookupEntry key rest with
            | none => rfl
            | some value => exact absurd (List.mem_map_of_mem (mem_of_lookupEntry found)) (here ▸ fresh)
          simp [lookupEntry, here, accepted, absent, Option.filter]
        · simp [lookupEntry, here]

end Entries

end KernelJson.Foundation.JsMap

namespace KernelJson.Foundation

open JsMap

/-- A map with unique keys in insertion order. -/
structure JsMap (K V : Type) where
  entries : List (K × V)
  nodup : (entries.map Prod.fst).Nodup

namespace JsMap

variable {K V : Type} [DecidableEq K]

def empty : JsMap K V :=
  ⟨[], List.nodup_nil⟩

def get? (map : JsMap K V) (key : K) : Option V :=
  lookupEntry key map.entries

def set (map : JsMap K V) (key : K) (value : V) : JsMap K V :=
  ⟨setEntry key value map.entries, setEntry_nodup map.nodup⟩

def delete (map : JsMap K V) (key : K) : JsMap K V :=
  ⟨deleteEntry key map.entries, deleteEntry_nodup map.nodup⟩

def values (map : JsMap K V) : List V :=
  map.entries.map Prod.snd

@[simp]
theorem get?_empty (key : K) : (empty : JsMap K V).get? key = none := rfl

theorem get?_set (map : JsMap K V) (key other : K) (value : V) :
    (map.set key value).get? other = if key = other then some value else map.get? other :=
  lookupEntry_setEntry key other value map.entries

@[simp]
theorem get?_set_self (map : JsMap K V) (key : K) (value : V) :
    (map.set key value).get? key = some value := by
  rw [get?_set, if_pos rfl]

theorem get?_set_of_ne (map : JsMap K V) {key other : K} (different : key ≠ other) (value : V) :
    (map.set key value).get? other = map.get? other := by
  rw [get?_set, if_neg different]

/-- Writing a value adds an entry for a key that was absent. -/
theorem length_set (map : JsMap K V) (key : K) (value : V) :
    (map.set key value).entries.length =
      if (map.get? key).isSome then map.entries.length else map.entries.length + 1 :=
  length_setEntry key value map.entries

/-- Writing over a key that is present adds no key. -/
theorem present_of_set {map : JsMap K V} {key other : K} {value old found : V}
    (present : map.get? key = some old) (here : (map.set key value).get? other = some found) :
    ∃ earlier, map.get? other = some earlier := by
  by_cases same : key = other
  · exact ⟨old, same ▸ present⟩
  · exact ⟨found, get?_set_of_ne map same value ▸ here⟩

theorem get?_delete (map : JsMap K V) (key other : K) :
    (map.delete key).get? other = if key = other then none else map.get? other :=
  lookupEntry_deleteEntry key other map.entries

@[simp]
theorem get?_delete_self (map : JsMap K V) (key : K) : (map.delete key).get? key = none := by
  rw [get?_delete, if_pos rfl]

/-- The entries whose values are accepted. -/
def keepWhere (accepts : V → Bool) (map : JsMap K V) : JsMap K V :=
  ⟨map.entries.filter fun entry => accepts entry.2, map.nodup.sublist ((List.filter_sublist).map Prod.fst)⟩

theorem get?_keepWhere (accepts : V → Bool) (map : JsMap K V) (key : K) :
    (map.keepWhere accepts).get? key = (map.get? key).filter accepts :=
  lookupEntry_filter accepts key map.nodup

theorem get?_keepWhere_eq_some {accepts : V → Bool} {map : JsMap K V} {key : K} {value : V} :
    (map.keepWhere accepts).get? key = some value ↔ map.get? key = some value ∧ accepts value = true := by
  rw [get?_keepWhere, Option.filter_eq_some_iff]

theorem get?_of_mem {map : JsMap K V} {entry : K × V} (member : entry ∈ map.entries) :
    map.get? entry.1 = some entry.2 :=
  lookupEntry_of_mem map.nodup member

theorem mem_values {map : JsMap K V} {value : V} :
    value ∈ map.values ↔ ∃ key, map.get? key = some value := by
  constructor
  · intro member
    obtain ⟨⟨key, found⟩, entry, rfl⟩ := List.mem_map.mp member
    exact ⟨key, get?_of_mem entry⟩
  · rintro ⟨key, found⟩
    exact List.mem_map.mpr ⟨(key, value), mem_of_lookupEntry found, rfl⟩

end JsMap

end KernelJson.Foundation
