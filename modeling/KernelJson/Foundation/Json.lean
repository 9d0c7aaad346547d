import KernelJson.Foundation.JsMap
import KernelJson.Foundation.JsText
import Mathlib.Data.List.Lex
import Mathlib.Data.List.Sort

/-!
# JSON values and their texts

Objects keep their fields in order, as ECMAScript objects do.  `stringify` is
`JSON.stringify`; `canonical` sorts the fields of every object first.  Values
that agree up to the order of fields, at every depth, have the same sorted
form, and with it the same canonical text and the same fields.
-/

namespace KernelJson.Foundation

open Foundation.JsText

/-- A JSON value; a number that is not an integer is kept as its literal. -/
inductive Json where
  | null
  | bool (value : Bool)
  | num (value : Int)
  | real (literal : JsString)
  | str (value : JsString)
  | arr (items : List Json)
  | obj (fields : List (JsString × Json))

namespace Json

/-! ## Texts -/

/-- The lower-case hexadecimal digit of a value below 16. -/
def hexUnit (digit : Fin 16) : UInt16 :=
  UInt16.ofNat (if digit.val < 10 then 48 + digit.val else 87 + digit.val)

def hexDigitAt (unit : UInt16) (position : Nat) : Fin 16 :=
  Fin.ofNat 16 (unit.toNat / 16 ^ position)

def unicodeEscape (unit : UInt16) : JsString :=
  js "\\u" ++ [hexUnit (hexDigitAt unit 3), hexUnit (hexDigitAt unit 2),
    hexUnit (hexDigitAt unit 1), hexUnit (hexDigitAt unit 0)]

def isHighSurrogate (unit : UInt16) : Bool :=
  0xD800 ≤ unit.toNat && unit.toNat < 0xDC00

def isLowSurrogate (unit : UInt16) : Bool :=
  0xDC00 ≤ unit.toNat && unit.toNat < 0xE000

def escapeUnit (unit : UInt16) : JsString :=
  if unit = 0x08 then js "\\b"
  else if unit = 0x09 then js "\\t"
  else if unit = 0x0A then js "\\n"
  else if unit = 0x0C then js "\\f"
  else if unit = 0x0D then js "\\r"
  else if unit = 0x22 then js "\\\""
  else if unit = 0x5C then js "\\\\"
  else if unit.toNat < 0x20 then unicodeEscape unit
  else [unit]

/-- The body of a quoted string; an unpaired surrogate is written as an escape. -/
def escape : JsString → JsString
  | [] => []
  | [unit] => if isHighSurrogate unit || isLowSurrogate unit then unicodeEscape unit else escapeUnit unit
  | unit :: next :: rest =>
      if isHighSurrogate unit && isLowSurrogate next then unit :: next :: escape rest
      else if isHighSurrogate unit || isLowSurrogate unit then unicodeEscape unit ++ escape (next :: rest)
      else escapeUnit unit ++ escape (next :: rest)

def quote (text : JsString) : JsString :=
  js "\"" ++ escape text ++ js "\""

/-- Texts joined by commas, as `Array.prototype.join(",")`. -/
def joinComma : List JsString → JsString
  | [] => []
  | [text] => text
  | text :: rest => text ++ js "," ++ joinComma rest

def fieldText (name value : JsString) : JsString :=
  quote name ++ js ":" ++ value

mutual
def stringify : Json → JsString
  | .null => js "null"
  | .bool value => if value then js "true" else js "false"
  | .num value => signedDecimal value
  | .real literal => literal
  | .str value => quote value
  | .arr items => js "[" ++ joinComma (stringifyItems items) ++ js "]"
  | .obj fields => js "\x7b" ++ joinComma (stringifyFields fields) ++ js "\x7d"

def stringifyItems : List Json → List JsString
  | [] => []
  | item :: rest => stringify item :: stringifyItems rest

def stringifyFields : List (JsString × Json) → List JsString
  | [] => []
  | (name, value) :: rest => fieldText name (stringify value) :: stringifyFields rest
end

/-! ## The order of fields -/

/-- The order in which `Array.prototype.sort` puts texts. -/
def unitsLE (first second : JsString) : Prop :=
  first.map UInt16.toNat ≤ second.map UInt16.toNat

instance (first second : JsString) : Decidable (unitsLE first second) :=
  inferInstanceAs (Decidable (_ ≤ _))

theorem unitsLE_refl (text : JsString) : unitsLE text text :=
  le_refl _

theorem unitsLE_trans {first second third : JsString} (one : unitsLE first second)
    (two : unitsLE second third) : unitsLE first third :=
  le_trans one two

theorem unitsLE_total (first second : JsString) : unitsLE first second ∨ unitsLE second first :=
  le_total _ _

theorem unitsLE_antisymm {first second : JsString} (one : unitsLE first second)
    (two : unitsLE second first) : first = second :=
  List.map_injective_iff.mpr (fun _ _ => UInt16.toNat_inj.mp) (le_antisymm one two)

/-- Fields in the order of their names. -/
def sortByName {V : Type} (fields : List (JsString × V)) : List (JsString × V) :=
  fields.insertionSort fun first second => unitsLE first.1 second.1

mutual
/-- The value with the fields of every object in the order of their names. -/
def sortKeys : Json → Json
  | .arr items => .arr (sortItems items)
  | .obj fields => .obj (sortByName (sortFields fields))
  | value => value

def sortItems : List Json → List Json
  | [] => []
  | item :: rest => sortKeys item :: sortItems rest

def sortFields : List (JsString × Json) → List (JsString × Json)
  | [] => []
  | (name, value) :: rest => (name, sortKeys value) :: sortFields rest
end

mutual
/-- The text behind `capabilityDigest`: no spaces, fields in the order of their names. -/
def canonical : Json → JsString
  | .arr items => js "[" ++ joinComma (canonicalItems items) ++ js "]"
  | .obj fields =>
      js "\x7b" ++ joinComma ((sortByName (canonicalFields fields)).map fun field =>
        fieldText field.1 field.2) ++ js "\x7d"
  | value => stringify value

def canonicalItems : List Json → List JsString
  | [] => []
  | item :: rest => canonical item :: canonicalItems rest

def canonicalFields : List (JsString × Json) → List (JsString × JsString)
  | [] => []
  | (name, value) :: rest => (name, canonical value) :: canonicalFields rest
end

/-- The same value up to the order of fields at every depth. -/
def SameUpToKeyOrder (first second : Json) : Prop :=
  sortKeys first = sortKeys second

theorem sortItems_eq (items : List Json) : sortItems items = items.map sortKeys := by
  induction items with
  | nil => rfl
  | cons item rest ih => rw [sortItems, ih, List.map_cons]

theorem sortFields_eq (fields : List (JsString × Json)) :
    sortFields fields = fields.map fun field => (field.1, sortKeys field.2) := by
  induction fields with
  | nil => rfl
  | cons field rest ih => rw [sortFields, ih, List.map_cons]

theorem stringifyItems_eq (items : List Json) : stringifyItems items = items.map stringify := by
  induction items with
  | nil => rfl
  | cons item rest ih => rw [stringifyItems, ih, List.map_cons]

theorem stringifyFields_eq (fields : List (JsString × Json)) :
    stringifyFields fields = fields.map fun field => fieldText field.1 (stringify field.2) := by
  induction fields with
  | nil => rfl
  | cons field rest ih => rw [stringifyFields, ih, List.map_cons]

/-- Sorting by name does not look at the values. -/
theorem sortByName_map {V W : Type} (value : V → W) (fields : List (JsString × V)) :
    sortByName (fields.map fun field => (field.1, value field.2)) =
      (sortByName fields).map fun field => (field.1, value field.2) := by
  unfold sortByName
  induction fields with
  | nil => rfl
  | cons field rest ih =>
      simp only [List.map_cons, List.insertionSort_cons, ih]
      generalize rest.insertionSort (fun first second => unitsLE first.1 second.1) = sorted
      induction sorted with
      | nil => rfl
      | cons head tail inner =>
          simp only [List.map_cons, List.orderedInsert_cons]
          split
          · rfl
          · rw [inner, List.map_cons]

mutual
/-- The canonical text is the text of the sorted value. -/
theorem canonical_eq : ∀ value : Json, canonical value = stringify (sortKeys value)
  | .null => rfl
  | .bool _ => rfl
  | .num _ => rfl
  | .real _ => rfl
  | .str _ => rfl
  | .arr items => by
      rw [canonical, sortKeys, stringify, canonicalItems_eq items]
  | .obj fields => by
      rw [canonical, sortKeys, stringify, canonicalFields_eq fields, stringifyFields_eq,
        sortByName_map stringify, List.map_map]
      rfl

theorem canonicalItems_eq : ∀ items : List Json, canonicalItems items = stringifyItems (sortItems items)
  | [] => rfl
  | item :: rest => by
      rw [canonicalItems, sortItems, stringifyItems, canonical_eq item, canonicalItems_eq rest]

theorem canonicalFields_eq : ∀ fields : List (JsString × Json),
    canonicalFields fields = (sortFields fields).map fun field => (field.1, stringify field.2)
  | [] => rfl
  | (name, value) :: rest => by
      rw [canonicalFields, sortFields, List.map_cons, canonical_eq value, canonicalFields_eq rest]
end

theorem canonical_of_same {first second : Json} (same : SameUpToKeyOrder first second) :
    canonical first = canonical second := by
  rw [canonical_eq, canonical_eq, same]

/-! ## Reading objects -/

/-- The field of an object; other values have none. -/
def field? (value : Json) (name : JsString) : Option Json :=
  match value with
  | .obj fields => JsMap.lookupEntry name fields
  | _ => none

/-- The names of an object's fields. -/
def names? : Json → Option (List JsString)
  | .obj fields => some (fields.map Prod.fst)
  | _ => none

/-- An object all of whose fields have one of these names. -/
def hasOnly (known : List JsString) (value : Json) : Bool :=
  match names? value with
  | some names => names.all known.contains
  | none => false

def asString? : Json → Option JsString
  | .str text => some text
  | _ => none

def asBool? : Json → Option Bool
  | .bool value => some value
  | _ => none

def asInt? : Json → Option Int
  | .num value => some value
  | _ => none

def asArray? : Json → Option (List Json)
  | .arr items => some items
  | _ => none

/-- `null`, or a value that the given reader accepts. -/
def asNullable? {α : Type} (read : Json → Option α) : Json → Option (Option α)
  | .null => some none
  | value => (read value).map some

theorem lookupEntry_map {V W : Type} (value : V → W) (name : JsString) (fields : List (JsString × V)) :
    JsMap.lookupEntry name (fields.map fun field => (field.1, value field.2)) =
      (JsMap.lookupEntry name fields).map value := by
  induction fields with
  | nil => rfl
  | cons field rest ih =>
      obtain ⟨other, here⟩ := field
      simp only [List.map_cons, JsMap.lookupEntry]
      split
      · rfl
      · exact ih

theorem lookupEntry_orderedInsert {V : Type} (name : JsString) (field : JsString × V)
    (sorted : List (JsString × V)) :
    JsMap.lookupEntry name (sorted.orderedInsert (fun first second => unitsLE first.1 second.1) field) =
      if field.1 = name then some field.2 else JsMap.lookupEntry name sorted := by
  induction sorted with
  | nil => rfl
  | cons head tail ih =>
      rw [List.orderedInsert_cons]
      split
      · rfl
      · next later =>
          -- a field before the insertion point has another name
          have different : head.1 ≠ field.1 := fun same => later (same ▸ unitsLE_refl _)
          obtain ⟨other, value⟩ := head
          simp only [JsMap.lookupEntry, ih]
          split
          · next here =>
              rw [if_neg fun same => different (here.trans same.symm)]
          · rfl

/-- Sorting keeps the first field of each name. -/
theorem lookupEntry_sortByName {V : Type} (name : JsString) (fields : List (JsString × V)) :
    JsMap.lookupEntry name (sortByName fields) = JsMap.lookupEntry name fields := by
  unfold sortByName
  induction fields with
  | nil => rfl
  | cons field rest ih =>
      rw [List.insertionSort_cons, lookupEntry_orderedInsert, ih]
      obtain ⟨other, value⟩ := field
      rfl

@[simp]
theorem field?_sortKeys (value : Json) (name : JsString) :
    (sortKeys value).field? name = (value.field? name).map sortKeys := by
  cases value with
  | obj fields => simp only [sortKeys, field?, lookupEntry_sortByName, sortFields_eq, lookupEntry_map]
  | null => rfl
  | bool value => rfl
  | num value => rfl
  | real literal => rfl
  | str text => rfl
  | arr items => rfl

/-- A field of a reordered object. -/
theorem SameUpToKeyOrder.field {stored written value : Json} (name : JsString)
    (same : stored.SameUpToKeyOrder written) (found : written.field? name = some value) :
    ∃ other, stored.field? name = some other ∧ other.SameUpToKeyOrder value := by
  have sorted := congrArg (fun json : Json => json.field? name) same
  simp only [field?_sortKeys, found, Option.map_some, Option.map_eq_some_iff] at sorted
  exact sorted

theorem SameUpToKeyOrder.str {stored : Json} {text : JsString} (same : stored.SameUpToKeyOrder (.str text)) :
    stored = .str text := by
  cases stored with
  | str other => exact same
  | null => cases same
  | bool value => cases same
  | num value => cases same
  | real literal => cases same
  | arr items => cases same
  | obj fields => cases same

@[simp]
theorem hasOnly_sortKeys (known : List JsString) (value : Json) :
    (sortKeys value).hasOnly known = value.hasOnly known := by
  cases value with
  | obj fields =>
      simp only [sortKeys, hasOnly, names?]
      have perm : ((sortByName (sortFields fields)).map Prod.fst).Perm (fields.map Prod.fst) := by
        have same : (sortFields fields).map Prod.fst = fields.map Prod.fst := by
          rw [sortFields_eq, List.map_map]
          rfl
        exact same ▸ (List.perm_insertionSort _ (sortFields fields)).map Prod.fst
      exact Bool.eq_iff_iff.mpr (by simp only [List.all_eq_true, perm.mem_iff])
  | null => rfl
  | bool value => rfl
  | num value => rfl
  | real literal => rfl
  | str text => rfl
  | arr items => rfl

theorem isSome_names?_sortKeys (value : Json) : (sortKeys value).names?.isSome = value.names?.isSome := by
  cases value <;> rfl

@[simp]
theorem asString?_sortKeys (value : Json) : (sortKeys value).asString? = value.asString? := by
  cases value <;> rfl

@[simp]
theorem asBool?_sortKeys (value : Json) : (sortKeys value).asBool? = value.asBool? := by
  cases value <;> rfl

@[simp]
theorem asInt?_sortKeys (value : Json) : (sortKeys value).asInt? = value.asInt? := by
  cases value <;> rfl

@[simp]
theorem asArray?_sortKeys (value : Json) :
    (sortKeys value).asArray? = value.asArray?.map (List.map sortKeys) := by
  cases value with
  | arr items => simp only [sortKeys, asArray?, sortItems_eq, Option.map_some]
  | null => rfl
  | bool value => rfl
  | num value => rfl
  | real literal => rfl
  | str text => rfl
  | obj fields => rfl

theorem asNullable?_sortKeys {α : Type} {read : Json → Option α}
    (stable : ∀ value, read (sortKeys value) = read value) (value : Json) :
    asNullable? read (sortKeys value) = asNullable? read value := by
  cases value with
  | null => rfl
  | bool value => rfl
  | num value => rfl
  | real literal => rfl
  | str text => rfl
  | arr items => exact congrArg (Option.map some) (stable (.arr items))
  | obj fields => exact congrArg (Option.map some) (stable (.obj fields))

end Json

end KernelJson.Foundation
