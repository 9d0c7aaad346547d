import KernelJson.Foundation.Dependencies
import KernelJson.Foundation.Json

/-!
# Strict objects with optional fields

A strict object holds each name once, and only names that its schema knows.
Such an object is the object of its present fields, in the schema's order, up
to the order of fields.
-/

namespace KernelJson.Foundation.Json

open Foundation.Dependencies
open Foundation.JsText

/-- An object that holds each name once, and only known names. -/
def holdsOnly (known : List JsString) (value : Json) : Bool :=
  match value with
  | .obj fields => decide (fields.map Prod.fst).Nodup && value.hasOnly known
  | _ => false

theorem holdsOnly_cases {known : List JsString} {value : Json} (holds : value.holdsOnly known = true) :
    ∃ fields, value = .obj fields ∧ (fields.map Prod.fst).Nodup ∧ ∀ name ∈ fields.map Prod.fst,
      name ∈ known := by
  cases value with
  | obj fields =>
      simp only [holdsOnly, hasOnly, names?, Bool.and_eq_true, decide_eq_true_eq, List.all_eq_true] at holds
      exact ⟨fields, rfl, holds.1, fun name member => List.contains_iff_mem.mp (holds.2 name member)⟩
  | null => cases holds
  | bool value => cases holds
  | num value => cases holds
  | real literal => cases holds
  | str text => cases holds
  | arr items => cases holds

/-- The names of the sorted fields. -/
theorem perm_names_sorted (fields : List (JsString × Json)) :
    ((sortByName (sortFields fields)).map Prod.fst).Perm (fields.map Prod.fst) := by
  have same : (sortFields fields).map Prod.fst = fields.map Prod.fst := by
    rw [sortFields_eq, List.map_map]
    rfl
  exact same ▸ (List.perm_insertionSort _ (sortFields fields)).map Prod.fst

@[simp]
theorem holdsOnly_sortKeys (known : List JsString) (value : Json) :
    (sortKeys value).holdsOnly known = value.holdsOnly known := by
  cases value with
  | obj fields =>
      have distinct := (perm_names_sorted fields).nodup_iff
      have same := hasOnly_sortKeys known (.obj fields)
      simp only [sortKeys] at same
      simp only [sortKeys, holdsOnly, same, distinct]
  | null => rfl
  | bool value => rfl
  | num value => rfl
  | real literal => rfl
  | str text => rfl
  | arr items => rfl

/-- Objects with the same fields in another order are the same up to key order. -/
theorem same_of_perm {first second : List (JsString × Json)} (perm : first.Perm second)
    (distinct : (first.map Prod.fst).Nodup) : SameUpToKeyOrder (.obj first) (.obj second) := by
  have names : ((sortFields first).map Prod.fst).Nodup := by
    rw [sortFields_eq, List.map_map]
    exact distinct
  have sorted : (sortFields first).Perm (sortFields second) := by
    rw [sortFields_eq, sortFields_eq]
    exact perm.map _
  refine congrArg Json.obj (@insertionSort_eq_of_perm _
    (fun one two : JsString × Json => unitsLE one.1 two.1) _ (fun one two => unitsLE_total one.1 two.1)
    (fun before after => unitsLE_trans before after) _ _ ?_ sorted)
  intro one here two there before after
  exact List.inj_on_of_nodup_map names here there (unitsLE_antisymm before after)

/-- The known fields that an object has, in the order in which they are known. -/
def present (known : List JsString) (value : Json) : List (JsString × Json) :=
  known.filterMap fun name => (value.field? name).map (Prod.mk name)

theorem mem_present {known : List JsString} {value : Json} {field : JsString × Json} :
    field ∈ value.present known ↔ field.1 ∈ known ∧ value.field? field.1 = some field.2 := by
  simp only [present, List.mem_filterMap, Option.map_eq_some_iff]
  constructor
  · rintro ⟨name, member, found, here, rfl⟩
    exact ⟨member, here⟩
  · rintro ⟨member, here⟩
    exact ⟨field.1, member, field.2, here, rfl⟩

theorem present_names_nodup {known : List JsString} (distinct : known.Nodup) (value : Json) :
    ((value.present known).map Prod.fst).Nodup := by
  induction known with
  | nil => exact List.nodup_nil
  | cons name rest ih =>
      obtain ⟨fresh, later⟩ := List.nodup_cons.mp distinct
      unfold present
      rw [List.filterMap_cons]
      cases value.field? name with
      | none => exact ih later
      | some found =>
          refine List.nodup_cons.mpr ⟨fun member => fresh ?_, ih later⟩
          obtain ⟨field, here, rfl⟩ := List.mem_map.mp member
          exact (mem_present.mp here).1

/-- A strict object, with its fields in the order of its schema. -/
theorem present_same {known : List JsString} {value : Json} (schema : known.Nodup)
    (holds : value.holdsOnly known = true) : SameUpToKeyOrder (.obj (value.present known)) value := by
  obtain ⟨fields, rfl, distinct, all⟩ := holdsOnly_cases holds
  have names := present_names_nodup schema (.obj fields)
  refine same_of_perm ((List.perm_ext_iff_of_nodup names.of_map distinct.of_map).mpr fun field => ?_) names
  rw [mem_present]
  constructor
  · exact fun here => JsMap.mem_of_lookupEntry here.2
  · exact fun here => ⟨all field.1 (List.mem_map_of_mem here), JsMap.lookupEntry_of_mem distinct here⟩

end KernelJson.Foundation.Json
