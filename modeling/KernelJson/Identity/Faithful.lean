import KernelJson.Foundation.CanonicalTexts
import KernelJson.Identity.Twins

/-!
# What a canonical text stands for

Two documents that the worker accepts have one canonical text exactly when they
are equal up to the order of keys, and `JSON.parse` reads such a document back
from its text.  A document that would not be read back is refused.
-/

namespace KernelJson.Identity.Faithful

open Foundation
open Foundation.CanonicalTexts
open Foundation.Json
open Foundation.JsText
open Foundation.JsonRoundTrip
open Identity.Canonical
open Identity.Twins

/-! ## Equality up to the order of keys -/

mutual
/-- Equal values: objects have the same keys, and equal values under each of them. -/
def EqualValues : Json → Json → Prop
  | .arr items, second => ∃ others, second = .arr others ∧ EqualItems items others
  | .obj fields, second => ∃ others, second = .obj others ∧
      (∀ name, name ∈ fields.map Prod.fst ↔ name ∈ others.map Prod.fst) ∧ EqualFields fields others
  | value, second => value = second

def EqualItems : List Json → List Json → Prop
  | [], others => others = []
  | item :: rest, others => ∃ other more, others = other :: more ∧ EqualValues item other ∧ EqualItems rest more

def EqualFields : List (JsString × Json) → List (JsString × Json) → Prop
  | [], _ => True
  | (name, item) :: rest, others =>
      (∃ other, JsMap.lookupEntry name others = some other ∧ EqualValues item other) ∧ EqualFields rest others
end

/-- Objects with distinct keys have the same fields exactly when they look up the same values. -/
theorem perm_iff_lookup {V : Type} {fields others : List (JsString × V)} (distinct : (fields.map Prod.fst).Nodup)
    (distinctOthers : (others.map Prod.fst).Nodup) :
    fields.Perm others ↔ (∀ name, name ∈ fields.map Prod.fst ↔ name ∈ others.map Prod.fst) ∧
      ∀ field ∈ fields, JsMap.lookupEntry field.1 others = some field.2 := by
  constructor
  · intro same
    refine ⟨fun name => (same.map Prod.fst).mem_iff, fun field member => ?_⟩
    exact JsMap.lookupEntry_of_mem distinctOthers (same.mem_iff.mp member)
  · rintro ⟨names, found⟩
    refine (List.perm_ext_iff_of_nodup distinct.of_map distinctOthers.of_map).mpr fun field =>
      ⟨fun member => ?_, fun member => ?_⟩
    · exact JsMap.mem_of_lookupEntry (found field member)
    · obtain ⟨name, value⟩ := field
      obtain ⟨⟨other, kept⟩, inside, same⟩ := List.mem_map.mp ((names name).mpr (List.mem_map_of_mem member))
      cases same
      have twice := found _ inside
      rw [JsMap.lookupEntry_of_mem distinctOthers member] at twice
      cases twice
      exact inside

/-- Sorting by the key forgets exactly the order. -/
theorem sortByName_eq_iff {V : Type} {fields others : List (JsString × V)} (distinct : (fields.map Prod.fst).Nodup) :
    sortByName fields = sortByName others ↔ fields.Perm others := by
  constructor
  · intro same
    exact ((perm_sortByName fields).symm.trans (List.Perm.of_eq same)).trans (perm_sortByName others)
  · intro same
    refine @Dependencies.insertionSort_eq_of_perm _ (fun one two : JsString × V => unitsLE one.1 two.1) _
      (fun one two => unitsLE_total one.1 two.1) (fun before after => unitsLE_trans before after) _ _
      (fun one here two there before after => ?_) same
    exact List.inj_on_of_nodup_map distinct here there (unitsLE_antisymm before after)

theorem lookupEntry_sortFields (name : JsString) (fields : List (JsString × Json)) :
    JsMap.lookupEntry name (sortFields fields) = (JsMap.lookupEntry name fields).map sortKeys := by
  rw [sortFields_eq, lookupEntry_map]

theorem document_of_mem {fields : List (JsString × Json)} (documents : DocumentFields fields) {field : JsString × Json}
    (member : field ∈ fields) : Document field.2 := by
  induction fields with
  | nil => cases member
  | cons first rest ih =>
      rcases List.mem_cons.mp member with rfl | later
      · exact documents.1
      · exact ih documents.2 later

theorem leaf_iff {value second : Json} (arrays : ∀ items, value ≠ .arr items) (objects : ∀ fields, value ≠ .obj fields) :
    value = sortKeys second ↔ value = second := by
  cases second with
  | arr items => exact iff_of_false (arrays _) (arrays _)
  | obj fields => exact iff_of_false (objects _) (objects _)
  | _ => exact Iff.rfl

mutual
/-- Two documents are equal exactly when they are the same with their keys sorted. -/
theorem same_iff_equal : ∀ first second, Document first → Document second →
    (first.SameUpToKeyOrder second ↔ EqualValues first second)
  | .null, _, _, _ => leaf_iff (fun _ same => by cases same) (fun _ same => by cases same)
  | .bool value, _, _, _ => leaf_iff (fun _ same => by cases same) (fun _ same => by cases same)
  | .num value, _, _, _ => leaf_iff (fun _ same => by cases same) (fun _ same => by cases same)
  | .real value, _, _, _ => leaf_iff (fun _ same => by cases same) (fun _ same => by cases same)
  | .str value, _, _, _ => leaf_iff (fun _ same => by cases same) (fun _ same => by cases same)
  | .arr items, second, documents, others => by
      rw [SameUpToKeyOrder, EqualValues]
      cases second with
      | arr rest =>
          rw [sortKeys, sortKeys, Json.arr.injEq, same_items items rest documents others]
          exact ⟨fun equal => ⟨rest, rfl, equal⟩, by
            rintro ⟨_, here, equal⟩
            cases here
            exact equal⟩
      | _ => exact ⟨fun same => (by cases same), fun equal => (by obtain ⟨_, here, _⟩ := equal; cases here)⟩
  | .obj fields, second, documents, others => by
      rw [SameUpToKeyOrder, EqualValues]
      cases second with
      | obj rest =>
          have distinct : ((sortFields fields).map Prod.fst).Nodup := by
            rw [names_sortFields]
            exact documents.1
          have distinctOthers : ((sortFields rest).map Prod.fst).Nodup := by
            rw [names_sortFields]
            exact others.1
          rw [sortKeys, sortKeys, Json.obj.injEq, sortByName_eq_iff distinct, perm_iff_lookup distinct distinctOthers,
            names_sortFields, names_sortFields, same_fields fields rest documents.2 others.2]
          exact ⟨fun equal => ⟨rest, rfl, equal⟩, by
            rintro ⟨_, here, equal⟩
            cases here
            exact equal⟩
      | _ => exact ⟨fun same => (by cases same), fun equal => (by obtain ⟨_, here, _⟩ := equal; cases here)⟩

theorem same_items : ∀ items others, DocumentItems items → DocumentItems others →
    (sortItems items = sortItems others ↔ EqualItems items others)
  | [], others, _, _ => by
      rw [EqualItems]
      cases others with
      | nil => exact ⟨fun _ => rfl, fun _ => rfl⟩
      | cons other more => exact ⟨fun same => (by cases same), fun same => (by cases same)⟩
  | item :: rest, others, documents, documentOthers => by
      rw [EqualItems]
      cases others with
      | nil => exact ⟨fun same => (by cases same), fun equal => (by obtain ⟨_, _, here, _⟩ := equal; cases here)⟩
      | cons other more =>
          have first := same_iff_equal item other documents.1 documentOthers.1
          have later := same_items rest more documents.2 documentOthers.2
          rw [SameUpToKeyOrder] at first
          rw [sortItems, sortItems, List.cons.injEq, later, first]
          exact ⟨fun equal => ⟨other, more, rfl, equal⟩, by
            rintro ⟨_, _, here, equal⟩
            cases here
            exact equal⟩

theorem same_fields : ∀ fields others, DocumentFields fields → DocumentFields others →
    ((∀ field ∈ sortFields fields, JsMap.lookupEntry field.1 (sortFields others) = some field.2) ↔
      EqualFields fields others)
  | [], others, _, _ => ⟨fun _ => trivial, fun _ _ member => by cases member⟩
  | (name, item) :: rest, others, documents, documentOthers => by
      have later := same_fields rest others documents.2 documentOthers
      rw [sortFields, List.forall_mem_cons, later, EqualFields, lookupEntry_sortFields]
      refine and_congr_left fun _ => ?_
      rw [Option.map_eq_some_iff]
      constructor
      · rintro ⟨other, found, same⟩
        have document := document_of_mem documentOthers (JsMap.mem_of_lookupEntry found)
        exact ⟨other, found, (same_iff_equal item other documents.1 document).mp same.symm⟩
      · rintro ⟨other, found, equal⟩
        have document := document_of_mem documentOthers (JsMap.mem_of_lookupEntry found)
        exact ⟨other, found, ((same_iff_equal item other documents.1 document).mpr equal).symm⟩
end

/-! ## The serialiser -/

mutual
/-- `canonicalStringify(value)`: the keys are sorted, and each is looked up. -/
def canonicalStringify : Json → JsString
  | .arr items => js "[" ++ joinComma (itemTexts items) ++ js "]"
  | .obj fields =>
      js "\x7b" ++ joinComma (((fields.map Prod.fst).insertionSort unitsLE).map fun key =>
        fieldText key ((JsMap.lookupEntry key (valueTexts fields)).getD [])) ++ js "\x7d"
  | value => stringify value

def itemTexts : List Json → List JsString
  | [] => []
  | item :: rest => canonicalStringify item :: itemTexts rest

def valueTexts : List (JsString × Json) → List (JsString × JsString)
  | [] => []
  | (name, value) :: rest => (name, canonicalStringify value) :: valueTexts rest
end

/-- Looking the sorted keys up is sorting the fields. -/
theorem sorted_lookups {V W : Type} {fields : List (JsString × V)} (distinct : (fields.map Prod.fst).Nodup)
    (text : JsString → V → W) (missing : V) :
    ((fields.map Prod.fst).insertionSort unitsLE).map
        (fun key => text key ((JsMap.lookupEntry key fields).getD missing)) =
      (sortByName fields).map fun field => text field.1 field.2 := by
  have names : (fields.map Prod.fst).insertionSort unitsLE = (sortByName fields).map Prod.fst :=
    (List.map_insertionSort _ _ Prod.fst fields fun _ _ _ _ => Iff.rfl).symm
  rw [names, List.map_map]
  refine List.map_congr_left fun field member => ?_
  have inside := (perm_sortByName fields).mem_iff.mp member
  show text field.1 ((JsMap.lookupEntry field.1 fields).getD missing) = _
  rw [JsMap.lookupEntry_of_mem distinct inside]
  rfl

mutual
/-- Both canonical forms of the code write a document alike. -/
theorem canonicalStringify_eq : ∀ value, Document value → canonicalStringify value = value.canonical
  | .null, _ => rfl
  | .bool _, _ => rfl
  | .num _, _ => rfl
  | .real _, _ => rfl
  | .str _, _ => rfl
  | .arr items, documents => by
      rw [canonicalStringify, canonical, itemTexts_eq items documents]
  | .obj fields, documents => by
      have distinct : ((canonicalFields fields).map Prod.fst).Nodup := by
        rw [canonicalFields_names]
        exact documents.1
      rw [canonicalStringify, canonical, valueTexts_eq fields documents.2, ← canonicalFields_names,
        sorted_lookups distinct fieldText]

theorem itemTexts_eq : ∀ items, DocumentItems items → itemTexts items = canonicalItems items
  | [], _ => rfl
  | item :: rest, documents => by
      rw [itemTexts, canonicalItems, canonicalStringify_eq item documents.1, itemTexts_eq rest documents.2]

theorem valueTexts_eq : ∀ fields, DocumentFields fields → valueTexts fields = canonicalFields fields
  | [], _ => rfl
  | (name, item) :: rest, documents => by
      rw [valueTexts, canonicalFields, canonicalStringify_eq item documents.1, valueTexts_eq rest documents.2]
end

/-! ## Reading a text back -/

/-- The platform reads every safe integer as it is written. -/
def ReadsSafeIntegers (numeral : JsString → Option Int) : Prop :=
  ∀ number, isSafeInteger number = true → numeral (signedDecimal number) = some number

section Reading

variable {numeral : JsString → Option Int}

mutual
/-- What is accepted is legible. -/
theorem legible_of_canonical (reads : ReadsSafeIntegers numeral) : ∀ value, Canonical value → Document value →
    Legible numeral value
  | .null, _, _ => trivial
  | .bool _, _, _ => trivial
  | .num number, accepted, _ => reads number accepted
  | .real _, accepted, _ => accepted.elim
  | .str _, _, _ => trivial
  | .arr items, accepted, documents => legible_of_items reads items accepted documents
  | .obj fields, accepted, documents => ⟨documents.1, legible_of_fields reads fields accepted documents.2⟩

theorem legible_of_items (reads : ReadsSafeIntegers numeral) : ∀ items, CanonicalItems items → DocumentItems items →
    LegibleItems numeral items
  | [], _, _ => trivial
  | item :: rest, accepted, documents =>
      ⟨legible_of_canonical reads item accepted.1 documents.1, legible_of_items reads rest accepted.2 documents.2⟩

theorem legible_of_fields (reads : ReadsSafeIntegers numeral) : ∀ fields, CanonicalFields fields →
    DocumentFields fields → LegibleFields numeral fields
  | [], _, _ => trivial
  | (_, item) :: rest, accepted, documents =>
      ⟨legible_of_canonical reads item accepted.2.1 documents.1, legible_of_fields reads rest accepted.2.2 documents.2⟩
end

/-- `JSON.parse` reads an accepted document from its canonical text, with its keys sorted. -/
theorem parse_canonical (reads : ReadsSafeIntegers numeral) {value : Json} (accepted : Canonical value)
    (document : Document value) : JsonParse.parse numeral value.canonical = some (sortKeys value) :=
  CanonicalTexts.parse_canonical (legible_of_canonical reads value accepted document)

end Reading

theorem equalFields_iff {fields others : List (JsString × Json)} :
    EqualFields fields others ↔
      ∀ field ∈ fields, ∃ other, JsMap.lookupEntry field.1 others = some other ∧ EqualValues field.2 other := by
  induction fields with
  | nil => exact ⟨fun _ _ member => (by cases member), fun _ => trivial⟩
  | cons field rest ih => rw [EqualFields, ih, List.forall_mem_cons]

mutual
/-- A document is equal to itself with its keys sorted. -/
theorem equal_sortKeys : ∀ value, Document value → EqualValues value (sortKeys value)
  | .null, _ => rfl
  | .bool _, _ => rfl
  | .num _, _ => rfl
  | .real _, _ => rfl
  | .str _, _ => rfl
  | .arr items, documents => ⟨_, rfl, equal_sortItems items documents⟩
  | .obj fields, documents => by
      have perm := perm_sortByName (sortFields fields)
      refine ⟨_, rfl, fun name => ?_, equalFields_iff.mpr fun field member => ?_⟩
      · rw [(perm.map Prod.fst).mem_iff, names_sortFields]
      · rw [lookupEntry_sortByName, lookupEntry_sortFields, JsMap.lookupEntry_of_mem documents.1 member]
        exact ⟨_, rfl, equal_sortFields fields documents.2 field member⟩

theorem equal_sortItems : ∀ items, DocumentItems items → EqualItems items (sortItems items)
  | [], _ => rfl
  | item :: rest, documents =>
      ⟨_, _, rfl, equal_sortKeys item documents.1, equal_sortItems rest documents.2⟩

theorem equal_sortFields : ∀ fields, DocumentFields fields → ∀ field ∈ fields, EqualValues field.2 (sortKeys field.2)
  | [], _, _, member => by cases member
  | (_, item) :: rest, documents, field, member => by
      rcases List.mem_cons.mp member with rfl | later
      · exact equal_sortKeys item documents.1
      · exact equal_sortFields rest documents.2 field later
end

/-! ## The canonical form -/

section Form

variable {numeral : JsString → Option Int} {first second value : Json}

/-- What is accepted is read back. -/
theorem read_back (reads : ReadsSafeIntegers numeral) {text : JsString} (document : Document value)
    (written : identityCoreCanonicalV1 value = .ok text) :
    (∃ back, JsonParse.parse numeral text = some back ∧ EqualValues value back) ∧ text = canonicalStringify value := by
  obtain ⟨accepted, rfl⟩ := identityCoreCanonicalV1_ok.mp written
  exact ⟨⟨_, parse_canonical reads accepted document, equal_sortKeys value document⟩,
    (canonicalStringify_eq value document).symm⟩

theorem texts_equal_iff (reads : ReadsSafeIntegers numeral) {one two : JsString} (here : Document first)
    (there : Document second) (wrote : identityCoreCanonicalV1 first = .ok one)
    (written : identityCoreCanonicalV1 second = .ok two) : one = two ↔ EqualValues first second := by
  obtain ⟨left, rfl⟩ := identityCoreCanonicalV1_ok.mp wrote
  obtain ⟨right, rfl⟩ := identityCoreCanonicalV1_ok.mp written
  rw [← same_iff_equal first second here there]
  constructor
  · intro same
    exact same_of_canonical (legible_of_canonical reads first left here)
      (legible_of_canonical reads second right there) same
  · exact canonical_of_same

/-- The canonical form is canonical: equal texts are equal documents, a text is read back, the plain serialiser writes
the same text, and a document whose text would not be read back is refused. -/
theorem canonical_form (reads : ReadsSafeIntegers numeral) :
    (∀ first second one two, Document first → Document second → identityCoreCanonicalV1 first = .ok one →
      identityCoreCanonicalV1 second = .ok two → (one = two ↔ EqualValues first second)) ∧
    (∀ value text, Document value → identityCoreCanonicalV1 value = .ok text →
      (∃ back, JsonParse.parse numeral text = some back ∧ EqualValues value back) ∧ text = canonicalStringify value) ∧
    ∀ value, Document value →
      (¬ ∃ back, JsonParse.parse numeral (canonicalStringify value) = some back ∧ EqualValues value back) →
        ∃ refusal, identityCoreCanonicalV1 value = .error refusal := by
  refine ⟨?_, ?_, ?_⟩
  · intro first second one two here there wrote written
    exact texts_equal_iff reads here there wrote written
  · intro value text document written
    exact read_back reads document written
  · intro value document lost
    cases written : identityCoreCanonicalV1 value with
    | error refusal => exact ⟨refusal, rfl⟩
    | ok text =>
        obtain ⟨read, same⟩ := read_back reads document written
        rw [same] at read
        exact absurd read lost

end Form

/-! ### A name and its version -/

/-- The integers of texts that are written as integers. -/
def integerNumeral : JsString → Option Int
  | 45 :: digits => some (-(readDigits digits : Int))
  | digits => some (readDigits digits)

theorem integerNumeral_reads : ReadsSafeIntegers integerNumeral := by
  intro number _
  cases number with
  | ofNat magnitude =>
      obtain ⟨digit, rest, written⟩ := List.exists_cons_of_ne_nil (decimal_ne_nil magnitude)
      have first := isDigit_of_mem_decimal (written ▸ List.mem_cons_self : digit ∈ decimal magnitude)
      have plain : digit ≠ 45 := by
        rintro rfl
        exact absurd first.1 (by decide)
      have value := readDigits_decimal magnitude
      rw [written] at value
      show integerNumeral (decimal magnitude) = _
      rw [written, integerNumeral, value]
      · rfl
      · intro digits same
        exact plain (List.cons.inj same).1
  | negSucc magnitude =>
      show some (-(readDigits (decimal (magnitude + 1)) : Int)) = _
      rw [readDigits_decimal]
      rfl

def versionedName : Json :=
  .obj [(js "version", .num (-7)), (js "name", .str (js "a"))]

theorem versionedName_read_back : ∃ text, identityCoreCanonicalV1 versionedName = .ok text ∧
    ∃ back, JsonParse.parse integerNumeral text = some back ∧ EqualValues versionedName back := by
  have document : Document versionedName := ⟨by decide, trivial, trivial, trivial⟩
  have accepted : Canonical versionedName := by
    have name : isUnstorable (js "a") = false := by decide
    have version : isSafeInteger (-7) = true := by decide
    refine ⟨?_, version, ?_, name, trivial⟩ <;> decide
  have written := identityCoreCanonicalV1_ok.mpr ⟨accepted, rfl⟩
  exact ⟨_, written, ((canonical_form integerNumeral_reads).2.1 _ _ document written).1⟩

end KernelJson.Identity.Faithful
