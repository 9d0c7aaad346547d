import KernelJson.Foundation.Json

/-!
# Codecs between records and JSON values

A codec writes values of a type as JSON and reads them back.  Reading undoes
writing, and it does not see the order in which an object's fields stand, so a
record survives a store that reorders fields.  Strict objects, which refuse
unknown fields, are put together from single fields.
-/

namespace KernelJson.Foundation

open Foundation.JsText

/-- A text that a pattern accepts. -/
abbrev Matching (accepts : JsString → Bool) : Type := { text : JsString // accepts text = true }

def Matching.parse (accepts : JsString → Bool) (text : JsString) : Option (Matching accepts) :=
  if accepted : accepts text = true then some ⟨text, accepted⟩ else none

theorem Matching.parse_val {accepts : JsString → Bool} (text : Matching accepts) :
    Matching.parse accepts text.val = some text :=
  dif_pos text.property

/-- `z.string().min(shortest).max(longest)`. -/
def lengthWithin (shortest longest : Nat) (text : JsString) : Bool :=
  shortest ≤ text.length && text.length ≤ longest

abbrev BoundedText (shortest longest : Nat) : Type := Matching (lengthWithin shortest longest)

/-- An integer between two bounds. -/
abbrev Between (least greatest : Int) : Type := { number : Int // least ≤ number ∧ number ≤ greatest }

structure Codec (α : Type) where
  write : α → Json
  read : Json → Option α
  read_write : ∀ value, read (write value) = some value
  read_sortKeys : ∀ json, read (Json.sortKeys json) = read json

namespace Codec

variable {α β : Type}

/-- Fields may be reordered between writing and reading. -/
theorem read_of_same (codec : Codec α) {value : α} {stored : Json}
    (same : stored.SameUpToKeyOrder (codec.write value)) : codec.read stored = some value := by
  rw [← codec.read_sortKeys stored, same, codec.read_sortKeys, codec.read_write]

theorem write_injective (codec : Codec α) : Function.Injective codec.write := by
  intro first second same
  have reads := congrArg codec.read same
  rw [codec.read_write, codec.read_write] at reads
  exact Option.some.inj reads

/-! ## Single values -/

def bool : Codec Bool where
  write := .bool
  read := Json.asBool?
  read_write := fun _ => rfl
  read_sortKeys := Json.asBool?_sortKeys

def matching (accepts : JsString → Bool) : Codec (Matching accepts) where
  write := fun text => .str text.val
  read := fun json => json.asString?.bind (Matching.parse accepts)
  read_write := fun text => Matching.parse_val text
  read_sortKeys := fun json => by rw [Json.asString?_sortKeys]

/-- `z.number().int()` with a bound check. -/
def integer (accepts : Int → Prop) [DecidablePred accepts] : Codec { number : Int // accepts number } where
  write := fun number => .num number.val
  read := fun json => json.asInt?.bind fun number =>
    if accepted : accepts number then some ⟨number, accepted⟩ else none
  read_write := fun number => dif_pos number.property
  read_sortKeys := fun json => by rw [Json.asInt?_sortKeys]

def between (least greatest : Int) : Codec (Between least greatest) :=
  integer fun number => least ≤ number ∧ number ≤ greatest

/-- `z.literal`. -/
def literal (text : JsString) : Codec Unit where
  write := fun _ => .str text
  read := fun json => if json.asString? = some text then some () else none
  read_write := fun _ => if_pos rfl
  read_sortKeys := fun json => by rw [Json.asString?_sortKeys]

/-- `z.enum`: the values of an enumeration under their names. -/
def enum (name : α → JsString) (values : List α) (complete : ∀ value, value ∈ values)
    (distinct : (values.map name).Nodup) : Codec α where
  write := fun value => .str (name value)
  read := fun json => json.asString?.bind fun text => values.find? fun value => name value == text
  read_write := by
    intro value
    cases found : values.find? fun other => name other == name value with
    | none =>
        have absent := List.find?_eq_none.mp found value (complete value)
        exact absurd (beq_self_eq_true _) absent
    | some other =>
        have same : name other = name value := by simpa using List.find?_some found
        have values := List.inj_on_of_nodup_map distinct (complete other) (complete value) same
        exact found.trans (congrArg some values)
  read_sortKeys := fun json => by rw [Json.asString?_sortKeys]

/-- `z.nullable`. -/
def nullable (codec : Codec α) (visible : ∀ value, codec.write value ≠ .null) : Codec (Option α) where
  write := fun value => (value.map codec.write).getD .null
  read := Json.asNullable? codec.read
  read_write := by
    intro value
    cases value with
    | none => rfl
    | some value =>
        have reads := codec.read_write value
        have shown := visible value
        simp only [Option.map_some, Option.getD_some]
        cases written : codec.write value with
        | null => exact absurd written shown
        | bool _ => exact congrArg (Option.map some) (written ▸ reads)
        | num _ => exact congrArg (Option.map some) (written ▸ reads)
        | real _ => exact congrArg (Option.map some) (written ▸ reads)
        | str _ => exact congrArg (Option.map some) (written ▸ reads)
        | arr _ => exact congrArg (Option.map some) (written ▸ reads)
        | obj _ => exact congrArg (Option.map some) (written ▸ reads)
  read_sortKeys := Json.asNullable?_sortKeys codec.read_sortKeys

theorem mapM_read_write (codec : Codec α) (values : List α) :
    (values.map codec.write).mapM codec.read = some values := by
  induction values with
  | nil => rfl
  | cons value rest ih => simp [codec.read_write, ih]

theorem mapM_read_sortKeys (codec : Codec α) (items : List Json) :
    (items.map Json.sortKeys).mapM codec.read = items.mapM codec.read := by
  induction items with
  | nil => rfl
  | cons item rest ih => simp only [List.map_cons, List.mapM_cons, codec.read_sortKeys, ih]

/-- `z.array`. -/
def list (codec : Codec α) : Codec (List α) where
  write := fun values => .arr (values.map codec.write)
  read := fun json => json.asArray?.bind fun items => items.mapM codec.read
  read_write := codec.mapM_read_write
  read_sortKeys := by
    intro json
    rw [Json.asArray?_sortKeys]
    cases json.asArray? with
    | none => rfl
    | some items => exact codec.mapM_read_sortKeys items

/-- A further check on what was read. -/
def refine (codec : Codec α) (accepts : α → Prop) [DecidablePred accepts] :
    Codec { value : α // accepts value } where
  write := fun value => codec.write value.val
  read := fun json => (codec.read json).bind fun value =>
    if accepted : accepts value then some ⟨value, accepted⟩ else none
  read_write := by
    intro value
    rw [codec.read_write]
    exact dif_pos value.property
  read_sortKeys := fun json => by rw [codec.read_sortKeys]

/-- The same values under other names. -/
def transport (codec : Codec α) (into : α → β) (back : β → α) (inverse : ∀ value, into (back value) = value) :
    Codec β where
  write := fun value => codec.write (back value)
  read := fun json => (codec.read json).map into
  read_write := fun value => by rw [codec.read_write, Option.map_some, inverse]
  read_sortKeys := fun json => by rw [codec.read_sortKeys]

end Codec

/-! ## Objects -/

/-- The fields of an object: their names, and a reader that looks fields up by name. -/
structure FieldsCodec (α : Type) where
  names : List JsString
  write : α → List (JsString × Json)
  read : (JsString → Option Json) → Option α
  writes_names : ∀ value, (write value).map Prod.fst = names
  read_congr : ∀ {first second : JsString → Option Json},
    (∀ name ∈ names, first name = second name) → read first = read second
  read_write : ∀ value, read (fun name => JsMap.lookupEntry name (write value)) = some value
  read_sortKeys : ∀ lookup, read (fun name => (lookup name).map Json.sortKeys) = read lookup

namespace FieldsCodec

variable {α β : Type}

/-- An object with one field. -/
def field (name : JsString) (codec : Codec α) : FieldsCodec α where
  names := [name]
  write := fun value => [(name, codec.write value)]
  read := fun lookup => (lookup name).bind codec.read
  writes_names := fun _ => rfl
  read_congr := fun agree => by rw [agree name List.mem_cons_self]
  read_write := by
    intro value
    simp only [JsMap.lookupEntry, if_true, Option.bind_some]
    exact codec.read_write value
  read_sortKeys := by
    intro lookup
    have same : ∀ found : Option Json, (found.map Json.sortKeys).bind codec.read = found.bind codec.read := by
      intro found
      cases found with
      | none => rfl
      | some json => exact codec.read_sortKeys json
    exact same (lookup name)

theorem lookup_append_left {name : JsString} {left : List (JsString × Json)} (right : List (JsString × Json))
    (found : name ∈ left.map Prod.fst) :
    JsMap.lookupEntry name (left ++ right) = JsMap.lookupEntry name left := by
  induction left with
  | nil => cases found
  | cons entry rest ih =>
      obtain ⟨other, value⟩ := entry
      simp only [List.cons_append, JsMap.lookupEntry]
      split
      · rfl
      · next different =>
          rcases List.mem_cons.mp found with here | later
          · exact absurd here.symm different
          · exact ih later

theorem lookup_append_right {name : JsString} {left : List (JsString × Json)} (right : List (JsString × Json))
    (absent : name ∉ left.map Prod.fst) :
    JsMap.lookupEntry name (left ++ right) = JsMap.lookupEntry name right := by
  induction left with
  | nil => rfl
  | cons entry rest ih =>
      obtain ⟨other, value⟩ := entry
      simp only [List.map_cons, List.mem_cons, not_or] at absent
      simp only [List.cons_append, JsMap.lookupEntry, if_neg fun same => absent.1 (Eq.symm same)]
      exact ih absent.2

/-- The fields of one object followed by those of another. -/
def and (first : FieldsCodec α) (second : FieldsCodec β) (disjoint : ∀ name ∈ second.names, name ∉ first.names) :
    FieldsCodec (α × β) where
  names := first.names ++ second.names
  write := fun value => first.write value.1 ++ second.write value.2
  read := fun lookup => (first.read lookup).bind fun left => (second.read lookup).map (Prod.mk left)
  writes_names := fun value => by rw [List.map_append, first.writes_names, second.writes_names]
  read_congr := by
    intro lookup other agree
    rw [first.read_congr fun name found => agree name (List.mem_append_left _ found),
      second.read_congr fun name found => agree name (List.mem_append_right _ found)]
  read_write := by
    intro value
    have left := first.read_congr (fun name found =>
      lookup_append_left (second.write value.2) ((first.writes_names value.1).symm ▸ found))
    have right := second.read_congr (fun name found =>
      lookup_append_right (second.write value.2)
        (show name ∉ (first.write value.1).map Prod.fst from
          (first.writes_names value.1).symm ▸ disjoint name found))
    simp only [left, right, first.read_write, second.read_write, Option.bind_some, Option.map_some]
  read_sortKeys := fun lookup => by rw [first.read_sortKeys, second.read_sortKeys]

/-- One field before the others. -/
def cons (name : JsString) (codec : Codec α) (rest : FieldsCodec β) (fresh : name ∉ rest.names) :
    FieldsCodec (α × β) :=
  (field name codec).and rest fun _ found same => fresh (List.mem_singleton.mp same ▸ found)

/-- `z.strictObject`: exactly these fields. -/
def strict (fields : FieldsCodec α) : Codec α where
  write := fun value => .obj (fields.write value)
  read := fun json => if json.hasOnly fields.names = true then fields.read json.field? else none
  read_write := by
    intro value
    have known : (Json.obj (fields.write value)).hasOnly fields.names = true := by
      simp only [Json.hasOnly, Json.names?, fields.writes_names, List.all_eq_true]
      exact fun name found => List.contains_iff_mem.mpr found
    rw [if_pos known]
    exact fields.read_write value
  read_sortKeys := by
    intro json
    have lookups : (Json.sortKeys json).field? = fun name => (json.field? name).map Json.sortKeys :=
      funext (Json.field?_sortKeys json)
    rw [Json.hasOnly_sortKeys, lookups, fields.read_sortKeys]

theorem strict_visible (fields : FieldsCodec α) (value : α) : fields.strict.write value ≠ .null :=
  Json.noConfusion

end FieldsCodec

end KernelJson.Foundation
