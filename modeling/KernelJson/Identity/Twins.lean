import KernelJson.Contracts.Digest
import KernelJson.Foundation.JsonParse
import KernelJson.Identity.Canonical

/-!
# The canonical text in the database

`kernel_private.identity_core_canonical_v1` reads a document as `jsonb`: texts
are code points, numbers are numerics with a scale, and the fields of an object
stand in the order in which `jsonb` keeps them.  On every document of the worker
it accepts and writes what the worker does.
-/

namespace KernelJson.Identity.Twins

open Contracts.Digest
open Foundation
open Foundation.Json
open Foundation.JsText
open Identity.Canonical

/-! ## Values of the database -/

/-- A text of the database, as code points. -/
abbrev SqlText : Type := List Nat

/-- A text literal. -/
def sql (literal : String) : SqlText := literal.toList.map Char.toNat

/-- The units of a text of the database. -/
def units (text : SqlText) : JsString := text.flatMap Utf8.scalarUnits

/-- `numeric`: the value is `unscaled / 10 ^ scale`. -/
structure Numeric where
  unscaled : Int
  scale : Nat
deriving DecidableEq

inductive Jsonb where
  | null
  | bool (value : Bool)
  | number (value : Numeric)
  | string (value : SqlText)
  | array (items : List Jsonb)
  | object (fields : List (SqlText × Jsonb))

def sqlBytes (text : SqlText) : List UInt8 := text.flatMap Utf8.scalarBytes

/-! ## The image of a document -/

/-- The text that is stored for a text, when it can be stored. -/
def storedText (text : JsString) : Option SqlText :=
  if units (Utf8.scalars text) = text ∧ 0 ∉ Utf8.scalars text then some (Utf8.scalars text) else none

def exponentValue (text : JsString) : Int :=
  match text with
  | 45 :: digits => -(readDigits digits : Int)
  | 43 :: digits => readDigits digits
  | digits => readDigits digits

/-- The numeric that a JSON numeral is read as. -/
def numericIn (literal : JsString) : Option Numeric := do
  let (minus, unsigned) := JsonParse.signPart (js "-") literal
  let (whole, rest) ← JsonParse.integerPart unsigned
  let (fraction, rest) ← JsonParse.fractionPart rest
  let (exponent, rest) ← JsonParse.exponentPart rest
  if rest = [] then
    let power := exponentValue exponent.tail - (fraction.tail.length : Int)
    let magnitude : Int := (readDigits (whole ++ fraction.tail) * 10 ^ power.toNat : Nat)
    some ⟨if minus = [] then magnitude else -magnitude, (-power).toNat⟩
  else none

/-- The order in which `jsonb` keeps keys: by their lengths, and then by their bytes. -/
def storedLE (first second : SqlText × Jsonb) : Prop :=
  (sqlBytes first.1).length < (sqlBytes second.1).length ∨
    (sqlBytes first.1).length = (sqlBytes second.1).length ∧
      (sqlBytes first.1).map UInt8.toNat ≤ (sqlBytes second.1).map UInt8.toNat

instance (first second : SqlText × Jsonb) : Decidable (storedLE first second) :=
  inferInstanceAs (Decidable (_ ∨ _))

mutual
/-- The `jsonb` value that is stored for a document, or `none` when it is refused. -/
def image : Json → Option Jsonb
  | .null => some .null
  | .bool value => some (.bool value)
  | .num number => some (.number ⟨number, 0⟩)
  | .real literal => (numericIn literal).map .number
  | .str text => (storedText text).map .string
  | .arr items => (imageItems items).map .array
  | .obj fields => (imageFields fields).map fun stored => .object (stored.insertionSort storedLE)

def imageItems : List Json → Option (List Jsonb)
  | [] => some []
  | item :: rest => do
      let stored ← image item
      let others ← imageItems rest
      some (stored :: others)

def imageFields : List (JsString × Json) → Option (List (SqlText × Jsonb))
  | [] => some []
  | (key, item) :: rest => do
      let name ← storedText key
      let stored ← image item
      let others ← imageFields rest
      some ((name, stored) :: others)
end

/-! ## `identity_core_canonical_v1` -/

/-- `replace(text, found, written)` for one character. -/
def replace (text : SqlText) (found : Nat) (written : SqlText) : SqlText :=
  text.flatMap fun point => if point = found then written else [point]

def toHex (number : Nat) : SqlText := (Nat.toDigits 16 number).map Char.toNat

/-- `lpad(text, width, '0')`. -/
def lpadZero (text : SqlText) (width : Nat) : SqlText :=
  (List.replicate (width - text.length) 48 ++ text).take width

/-- The replacements, in the order in which they are made. -/
def replacements : List (Nat × SqlText) :=
  [(92, sql "\\\\"), (34, sql "\\\""), (8, sql "\\b"), (9, sql "\\t"), (10, sql "\\n"), (12, sql "\\f"),
    (13, sql "\\r")] ++
  ((List.range' 1 31).filter fun control => !([8, 9, 10, 12, 13].contains control)).map fun control =>
    (control, sql "\\u" ++ lpadZero (toHex control) 4)

/-- `identity_json_string_v1(s)`. -/
def identityJsonStringV1 (text : SqlText) : SqlText :=
  sql "\"" ++ (replacements.foldl (fun written rule => replace written rule.1 rule.2) text) ++ sql "\""

inductive SqlException where
  | nonAsciiKey
  | nonInteger
deriving DecidableEq

def decimalText (number : Nat) : SqlText := (decimalDigits number).map (48 + ·)

/-- `doc::text` of a number. -/
def numericText (number : Numeric) : SqlText :=
  let whole := number.unscaled.natAbs / 10 ^ number.scale
  let fraction := decimalText (number.unscaled.natAbs % 10 ^ number.scale)
  (if number.unscaled < 0 then sql "-" else []) ++ decimalText whole ++
    if number.scale = 0 then []
    else sql "." ++ List.replicate (number.scale - fraction.length) 48 ++ fraction

def isDigitPoint (point : Nat) : Bool := 48 ≤ point && point ≤ 57

/-- `^-?(0|[1-9][0-9]{0,15})$`. -/
def isIntegerText (text : SqlText) : Bool :=
  let unsigned := if text.head? = some 45 then text.tail else text
  unsigned == [48] ||
    (unsigned.head?.any (fun point => 49 ≤ point && point ≤ 57) && unsigned.length ≤ 16 &&
      unsigned.all isDigitPoint)

def canonicalNumber (number : Numeric) : Except SqlException SqlText :=
  if isIntegerText (numericText number) = false ∨
      9007199254740991 * 10 ^ number.scale < number.unscaled.natAbs then .error .nonInteger
  else .ok (numericText number)

/-- `k ~ '[^\x01-\x7f]'`. -/
def isForeignName (name : SqlText) : Bool :=
  name.any fun point => !(1 ≤ point && point ≤ 0x7F)

def joinComma : List SqlText → SqlText
  | [] => []
  | [text] => text
  | text :: rest => text ++ sql "," ++ joinComma rest

/-- The rows of `jsonb_each(doc) order by key collate "C"`, each with the text of its value. -/
def sortByKey (rows : List (SqlText × Except SqlException SqlText)) :
    List (SqlText × Except SqlException SqlText) :=
  rows.insertionSort fun first second =>
    (sqlBytes first.1).map UInt8.toNat ≤ (sqlBytes second.1).map UInt8.toNat

/-- The loop over the rows. -/
def rowTexts : List (SqlText × Except SqlException SqlText) → Except SqlException (List SqlText)
  | [] => .ok []
  | (name, value) :: rest =>
      if isForeignName name then .error .nonAsciiKey
      else do
        let text ← value
        let others ← rowTexts rest
        .ok ((identityJsonStringV1 name ++ sql ":" ++ text) :: others)

mutual
/-- `identity_core_canonical_v1(doc)`. -/
def identityCoreCanonicalSql : Jsonb → Except SqlException SqlText
  | .null => .ok (sql "null")
  | .bool value => .ok (if value then sql "true" else sql "false")
  | .number value => canonicalNumber value
  | .string value => .ok (identityJsonStringV1 value)
  | .array items => do
      let texts ← sqlItems items
      .ok (sql "[" ++ joinComma texts ++ sql "]")
  | .object fields => do
      let texts ← rowTexts (sortByKey (sqlRows fields))
      .ok (sql "\x7b" ++ joinComma texts ++ sql "\x7d")

def sqlItems : List Jsonb → Except SqlException (List SqlText)
  | [] => .ok []
  | item :: rest => do
      let text ← identityCoreCanonicalSql item
      let others ← sqlItems rest
      .ok (text :: others)

def sqlRows : List (SqlText × Jsonb) → List (SqlText × Except SqlException SqlText)
  | [] => []
  | (name, value) :: rest => (name, identityCoreCanonicalSql value) :: sqlRows rest
end

/-- `identity_core_digest_v1(doc)`. -/
def identityCoreDigestSql {Digest : Type} (sha256 : List UInt8 → Digest) (document : Jsonb) :
    Except SqlException Digest := do
  let text ← identityCoreCanonicalSql document
  .ok (sha256 (sqlBytes text))

/-! ## Documents -/

mutual
/-- No name comes twice in an object, at any depth. -/
def Document : Json → Prop
  | .arr items => DocumentItems items
  | .obj fields => (fields.map Prod.fst).Nodup ∧ DocumentFields fields
  | _ => True

def DocumentItems : List Json → Prop
  | [] => True
  | item :: rest => Document item ∧ DocumentItems rest

def DocumentFields : List (JsString × Json) → Prop
  | [] => True
  | (_, item) :: rest => Document item ∧ DocumentFields rest
end

section Reading

variable (numeral : JsString → Option Int)

mutual
/-- The value that `JSON.parse` gives for a document whose numbers are still numerals. -/
def readNumbers : Json → Json
  | .real literal => JsonParse.numberOf numeral literal
  | .arr items => .arr (readItems items)
  | .obj fields => .obj (readFields fields)
  | value => value

def readItems : List Json → List Json
  | [] => []
  | item :: rest => readNumbers item :: readItems rest

def readFields : List (JsString × Json) → List (JsString × Json)
  | [] => []
  | (key, item) :: rest => (key, readNumbers item) :: readFields rest
end

/-- A numeral of a safe integer is read as that integer. -/
def ReadsIntegers : Prop :=
  ∀ literal number, numericIn literal = some ⟨number, 0⟩ → isSafeInteger number = true →
    numeral literal = some number

end Reading

/-! ## Texts on both sides -/

/-- A text of the database has these units, and its code points are scalar values. -/
structure Spells (text : SqlText) (spelled : JsString) : Prop where
  same : units text = spelled
  scalar : ∀ point ∈ text, Utf8.IsScalar point

theorem Spells.nil : Spells [] [] := ⟨rfl, nofun⟩

theorem Spells.append {first second : SqlText} {left right : JsString} (spellsFirst : Spells first left)
    (spellsSecond : Spells second right) : Spells (first ++ second) (left ++ right) where
  same := by
    rw [units, List.flatMap_append]
    exact congrArg₂ _ spellsFirst.same spellsSecond.same
  scalar := by
    intro point member
    obtain here | there := List.mem_append.mp member
    · exact spellsFirst.scalar point here
    · exact spellsSecond.scalar point there

theorem Spells.scalars {text : JsString} (wellFormed : Utf8.WellFormed text) : Spells (Utf8.scalars text) text :=
  ⟨Utf8.flatMap_scalars wellFormed, Utf8.isScalar_scalars text⟩

/-- Both sides hash the same bytes. -/
theorem Spells.bytes {text : SqlText} {spelled : JsString} (spells : Spells text spelled) :
    sqlBytes text = Utf8.encode spelled := by
  rw [← spells.same, Utf8.encode, units, Utf8.scalars_flatMap spells.scalar]
  rfl

theorem spells_char (scalar : Char) : Spells [scalar.toNat] (codeUnits scalar) where
  same := by
    rw [units, List.flatMap_singleton]
    rfl
  scalar := by
    intro point member
    rw [List.mem_singleton] at member
    rw [member]
    obtain low | high := scalar.valid
    · exact .inl low
    · exact .inr ⟨by have := high.1; change 0xE000 ≤ scalar.val.toNat; omega, high.2⟩

theorem spells_literal (literal : String) : Spells (sql literal) (js literal) := by
  unfold sql js
  induction literal.toList with
  | nil => exact .nil
  | cons scalar rest ih =>
      rw [List.map_cons, List.flatMap_cons]
      exact (spells_char scalar).append ih

theorem spells_joinComma {texts : List SqlText} {spelled : List JsString} (spells : List.Forall₂ Spells texts spelled) :
    Spells (joinComma texts) (Json.joinComma spelled) := by
  induction spells with
  | nil => exact .nil
  | @cons text written texts spelled first rest ih =>
      cases rest with
      | nil => exact first
      | cons next more => exact (first.append (spells_literal ",")).append ih

/-! ## Escapes -/

/-- What the first rule for a code point writes for it. -/
def escapeOf (rules : List (Nat × SqlText)) (point : Nat) : SqlText :=
  match rules.find? fun rule => rule.1 = point with
  | some rule => rule.2
  | none => [point]

/-- No replacement writes what a later one replaces. -/
def Settled (rules : List (Nat × SqlText)) : Prop :=
  rules.Pairwise fun earlier later => later.1 ∉ earlier.2

theorem flatMap_fixed {rules : List (Nat × SqlText)} {text : SqlText} (absent : ∀ rule ∈ rules, rule.1 ∉ text) :
    text.flatMap (escapeOf rules) = text := by
  induction text with
  | nil => rfl
  | cons point rest ih =>
      have unruled : rules.find? (fun rule => rule.1 = point) = none := by
        rw [List.find?_eq_none]
        intro rule member
        rw [decide_eq_true_eq]
        intro same
        exact absent rule member (same ▸ List.mem_cons_self)
      have tail := ih fun rule member inside => absent rule member (List.mem_cons_of_mem _ inside)
      rw [List.flatMap_cons, tail, escapeOf, unruled]
      rfl

/-- Replacements made one after another are one pass over the text. -/
theorem foldl_replace {rules : List (Nat × SqlText)} (settled : Settled rules) (text : SqlText) :
    rules.foldl (fun written rule => replace written rule.1 rule.2) text = text.flatMap (escapeOf rules) := by
  induction rules generalizing text with
  | nil => exact (flatMap_fixed fun _ member => absurd member List.not_mem_nil).symm
  | cons rule rules ih =>
      obtain ⟨apart, rest⟩ := List.pairwise_cons.mp settled
      rw [List.foldl_cons, ih rest, replace, List.flatMap_assoc]
      congr 1
      funext point
      by_cases same : point = rule.1
      · have found : (rule :: rules).find? (fun other => other.1 = point) = some rule :=
          List.find?_cons_of_pos (decide_eq_true same.symm)
        rw [if_pos same, flatMap_fixed apart, escapeOf, found]
      · have later : (rule :: rules).find? (fun other => other.1 = point) = rules.find? fun other => other.1 = point :=
          List.find?_cons_of_neg (by rw [decide_eq_true_eq]; exact fun equal => same equal.symm)
        rw [if_neg same, List.flatMap_singleton, escapeOf, escapeOf, later]

instance (rules : List (Nat × SqlText)) : Decidable (Settled rules) :=
  inferInstanceAs (Decidable (List.Pairwise _ _))

theorem replacements_settled : Settled replacements := by
  decide +kernel

theorem escapeOf_ascii : ∀ unit : Fin 128, unit.val ≠ 0 →
    (units (escapeOf replacements unit.val) = escapeUnit (UInt16.ofNat unit.val) ∧
      (escapeOf replacements unit.val).all (· < 128) = true) := by
  decide +kernel

theorem replacements_ascii : replacements.all (fun rule => rule.1 < 128) = true := by
  decide +kernel

theorem escapeOf_beyond {point : Nat} (beyond : 128 ≤ point) : escapeOf replacements point = [point] := by
  have unruled : replacements.find? (fun rule => rule.1 = point) = none := by
    rw [List.find?_eq_none]
    intro rule member
    have small := of_decide_eq_true (List.all_eq_true.mp replacements_ascii rule member)
    rw [decide_eq_true_eq]
    omega
  rw [escapeOf, unruled]

theorem escapeUnit_beyond {unit : UInt16} (beyond : 128 ≤ unit.toNat) : escapeUnit unit = [unit] := by
  have other : ∀ low : UInt16, low.toNat < 128 → unit ≠ low := by
    intro low small same
    rw [same] at beyond
    omega
  unfold escapeUnit
  rw [if_neg (other 0x08 (by decide)), if_neg (other 0x09 (by decide)), if_neg (other 0x0A (by decide)),
    if_neg (other 0x0C (by decide)), if_neg (other 0x0D (by decide)), if_neg (other 0x22 (by decide)),
    if_neg (other 0x5C (by decide)), if_neg (by omega)]

theorem spells_escape_unit {unit : UInt16} (plain : (isHighSurrogate unit || isLowSurrogate unit) = false)
    (nonzero : unit ≠ 0) : Spells (escapeOf replacements unit.toNat) (escapeUnit unit) := by
  by_cases small : unit.toNat < 128
  · have positive : unit.toNat ≠ 0 := fun zero => nonzero (UInt16.toNat_inj.mp zero)
    obtain ⟨same, ascii⟩ := escapeOf_ascii ⟨unit.toNat, small⟩ positive
    rw [UInt16.ofNat_toNat] at same
    refine ⟨same, ?_⟩
    intro point member
    have bound := of_decide_eq_true (List.all_eq_true.mp ascii point member)
    exact .inl (by omega)
  · rw [escapeOf_beyond (by omega), escapeUnit_beyond (by omega)]
    refine ⟨?_, ?_⟩
    · rw [units, List.flatMap_singleton, Utf8.scalarUnits_unit]
    · intro point member
      rw [List.mem_singleton] at member
      exact member ▸ Utf8.isScalar_unit plain

theorem escape_plain {unit : UInt16} (plain : (isHighSurrogate unit || isLowSurrogate unit) = false)
    (rest : JsString) : escape (unit :: rest) = escapeUnit unit ++ escape rest := by
  obtain ⟨notHigh, notLow⟩ := Bool.or_eq_false_iff.mp plain
  cases rest with
  | nil => simp [escape, notHigh, notLow]
  | cons next rest => simp [escape, notHigh, notLow]

theorem spells_escape {text : JsString} (wellFormed : Utf8.WellFormed text) (nonzero : 0 ∉ text) :
    Spells ((Utf8.scalars text).flatMap (escapeOf replacements)) (escape text) := by
  induction wellFormed with
  | nil => exact .nil
  | unit plain tail ih =>
      rw [Utf8.scalars_unit plain, List.flatMap_cons, escape_plain plain]
      obtain ⟨first, rest⟩ := not_or.mp (List.mem_cons.not.mp nonzero)
      exact (spells_escape_unit plain (Ne.symm first)).append (ih rest)
  | @pair high low rest first second tail ih =>
      have beyond : 128 ≤ Utf8.pairValue high low := by
        unfold Utf8.pairValue
        omega
      have pair : Spells [Utf8.pairValue high low] [high, low] := by
        refine ⟨?_, ?_⟩
        · rw [units, List.flatMap_singleton, Utf8.scalarUnits_pair first second]
        · intro point member
          rw [List.mem_singleton] at member
          exact member ▸ Utf8.isScalar_pair first second
      rw [Utf8.scalars_pair first second, List.flatMap_cons, escapeOf_beyond beyond]
      have written : escape (high :: low :: rest) = [high, low] ++ escape rest := by
        simp [escape, first, second]
      rw [written]
      refine pair.append (ih ?_)
      intro member
      exact nonzero (List.mem_cons_of_mem _ (List.mem_cons_of_mem _ member))

/-- A string is quoted alike. -/
theorem spells_string {text : JsString} (wellFormed : Utf8.WellFormed text) (nonzero : 0 ∉ text) :
    Spells (identityJsonStringV1 (Utf8.scalars text)) (quote text) := by
  unfold identityJsonStringV1 quote
  rw [foldl_replace replacements_settled]
  exact ((spells_literal "\"").append (spells_escape wellFormed nonzero)).append (spells_literal "\"")

/-! ## Numbers -/

theorem spells_decimal (number : Nat) : Spells (decimalText number) (decimal number) := by
  have small : ∀ digit ∈ decimalDigits number, digit < 10 := fun _ member => decimalDigits_small member
  unfold decimalText decimal
  generalize decimalDigits number = digits at small
  induction digits with
  | nil => exact .nil
  | cons digit rest ih =>
      have bound := small digit List.mem_cons_self
      have first : Spells [48 + digit] [digitUnit digit] := by
        refine ⟨?_, ?_⟩
        · rw [units, List.flatMap_singleton, Utf8.scalarUnits, if_pos (by omega), digitUnit]
        · intro point member
          rw [List.mem_singleton] at member
          exact .inl (by omega)
      exact first.append (ih fun other member => small other (List.mem_cons_of_mem _ member))

theorem numericText_integer (number : Int) :
    numericText ⟨number, 0⟩ = (if number < 0 then sql "-" else []) ++ decimalText number.natAbs := by
  unfold numericText
  dsimp only
  rw [pow_zero, Nat.div_one, if_pos rfl, List.append_nil]

theorem spells_number (number : Int) : Spells (numericText ⟨number, 0⟩) (signedDecimal number) := by
  rw [numericText_integer]
  cases number with
  | ofNat magnitude =>
      have nonnegative : ¬ Int.ofNat magnitude < 0 := (Int.natCast_nonneg magnitude).not_gt
      rw [if_neg nonnegative]
      exact spells_decimal magnitude
  | negSucc magnitude =>
      rw [if_pos (Int.negSucc_lt_zero magnitude)]
      exact (spells_literal "-").append (spells_decimal (magnitude + 1))

theorem decimalText_digits (number : Nat) : (decimalText number).all isDigitPoint = true := by
  rw [List.all_eq_true]
  intro point member
  obtain ⟨digit, inside, rfl⟩ := List.mem_map.mp member
  have small := decimalDigits_small inside
  rw [isDigitPoint, Bool.and_eq_true, decide_eq_true_eq, decide_eq_true_eq]
  omega

/-- The digits of a positive number below 10 ^ 16. -/
theorem decimalText_head {number : Nat} (positive : number ≠ 0) :
    (decimalText number).head?.any (fun point => 49 ≤ point && point ≤ 57) = true := by
  have digits : decimalDigits number = (Nat.digits 10 number).reverse := if_neg positive
  have nonempty : Nat.digits 10 number ≠ [] := Nat.digits_ne_nil_iff_ne_zero.mpr positive
  have last := Nat.getLast_digit_ne_zero 10 positive
  have small : (Nat.digits 10 number).getLast nonempty < 10 :=
    Nat.digits_lt_base (by decide) (List.getLast_mem nonempty)
  rw [decimalText, digits, List.head?_map, List.head?_reverse, List.getLast?_eq_some_getLast nonempty]
  simp only [Option.map_some, Option.any_some, Bool.and_eq_true, decide_eq_true_eq]
  omega

theorem length_decimalText {number : Nat} (small : number ≤ 9007199254740991) : (decimalText number).length ≤ 16 := by
  rw [decimalText, List.length_map, decimalDigits]
  split
  · exact Nat.le_add_left 1 15
  · rw [List.length_reverse, Nat.digits_length_le_iff (by decide)]
    omega

theorem isIntegerText_decimal {number : Nat} (small : number ≤ 9007199254740991) (negative : Bool) :
    isIntegerText ((if negative then sql "-" else []) ++ decimalText number) = true := by
  have unsigned : (if ((if negative then sql "-" else []) ++ decimalText number).head? = some 45 then
      ((if negative then sql "-" else []) ++ decimalText number).tail
      else (if negative then sql "-" else []) ++ decimalText number) = decimalText number := by
    cases negative with
    | true => rfl
    | false =>
        have other : (decimalText number).head? ≠ some 45 := by
          intro head
          have member := List.mem_of_mem_head? head
          have digit := List.all_eq_true.mp (decimalText_digits number) 45 member
          revert digit
          decide
        exact if_neg other
  unfold isIntegerText
  rw [unsigned]
  dsimp only
  by_cases zero : number = 0
  · rw [zero]
    decide
  · rw [decimalText_head zero, decimalText_digits number, decide_eq_true (length_decimalText small)]
    exact Bool.or_true _

theorem canonicalNumber_safe {number : Int} (safe : isSafeInteger number = true) :
    canonicalNumber ⟨number, 0⟩ = .ok (numericText ⟨number, 0⟩) := by
  simp only [isSafeInteger, Bool.and_eq_true, decide_eq_true_eq] at safe
  have text : isIntegerText (numericText ⟨number, 0⟩) = true := by
    have signs : (if number < 0 then sql "-" else []) = if decide (number < 0) then sql "-" else [] := by
      simp only [decide_eq_true_eq]
    rw [numericText_integer, signs]
    exact isIntegerText_decimal (by omega) _
  unfold canonicalNumber
  rw [if_neg]
  rw [text, pow_zero]
  simp only [Bool.true_eq_false, false_or]
  omega

/-- A text that is read as an integer has no point. -/
theorem no_point_of_integer {text : SqlText} (integer : isIntegerText text = true) : 46 ∉ text := by
  intro member
  have inside : 46 ∈ if text.head? = some 45 then text.tail else text := by
    split
    · next head =>
        cases text with
        | nil => cases member
        | cons first rest =>
            obtain here | later := List.mem_cons.mp member
            · rw [← here] at head
              cases head
            · exact later
    · exact member
  unfold isIntegerText at integer
  dsimp only at integer
  obtain zero | digits := Bool.or_eq_true_iff.mp integer
  · rw [beq_iff_eq] at zero
    rw [zero] at inside
    revert inside
    decide
  · have digit := List.all_eq_true.mp (Bool.and_eq_true_iff.mp digits).2 46 inside
    revert digit
    decide

/-- The database writes safe integers only. -/
theorem canonicalNumber_ok {number : Numeric} {text : SqlText} (written : canonicalNumber number = .ok text) :
    number.scale = 0 ∧ isSafeInteger number.unscaled = true := by
  unfold canonicalNumber at written
  split at written
  · cases written
  · next accepted =>
      obtain ⟨integer, bounded⟩ := not_or.mp accepted
      have whole : number.scale = 0 := by
        by_contra scaled
        refine no_point_of_integer ((Bool.not_eq_false _).mp integer) ?_
        unfold numericText
        dsimp only
        rw [if_neg scaled]
        refine List.mem_append_right _ (List.mem_append_left _ (List.mem_append_left _ ?_))
        decide
      rw [whole, pow_zero] at bounded
      simp only [isSafeInteger, Bool.and_eq_true, decide_eq_true_eq]
      exact ⟨whole, by omega, by omega⟩

/-! ## Objects -/

theorem wellFormed_units {text : SqlText} (scalar : ∀ point ∈ text, Utf8.IsScalar point) :
    Utf8.WellFormed (units text) := by
  induction text with
  | nil => exact .nil
  | cons point rest ih =>
      have tail := ih fun other member => scalar other (List.mem_cons_of_mem _ member)
      have here := scalar point List.mem_cons_self
      rw [units, List.flatMap_cons, Utf8.scalarUnits]
      split
      · next small => exact .unit (Utf8.plain_of_scalar here small) tail
      · next large =>
          have bound : point < 0x110000 := by
            unfold Utf8.IsScalar at here
            omega
          refine .pair ?_ ?_ tail
          · have same : (UInt16.ofNat (0xD800 + (point - 0x10000) / 0x400)).toNat =
                0xD800 + (point - 0x10000) / 0x400 :=
              UInt16.toNat_ofNat_of_lt' (show 0xD800 + (point - 0x10000) / 0x400 < 0x10000 by omega)
            simp only [isHighSurrogate, same, Bool.and_eq_true, decide_eq_true_eq]
            omega
          · have same : (UInt16.ofNat (0xDC00 + (point - 0x10000) % 0x400)).toNat =
                0xDC00 + (point - 0x10000) % 0x400 :=
              UInt16.toNat_ofNat_of_lt' (show 0xDC00 + (point - 0x10000) % 0x400 < 0x10000 by omega)
            simp only [isLowSurrogate, same, Bool.and_eq_true, decide_eq_true_eq]
            omega

/-- A text has a NUL when its code points have one. -/
theorem zero_mem_scalars {text : JsString} (wellFormed : Utf8.WellFormed text) :
    0 ∈ Utf8.scalars text ↔ 0 ∈ text := by
  induction wellFormed with
  | nil => exact ⟨nofun, nofun⟩
  | @unit unit rest plain tail ih =>
      have head : 0 = unit.toNat ↔ 0 = unit := by
        rw [eq_comm, ← UInt16.toNat_zero, UInt16.toNat_inj, eq_comm]
      rw [Utf8.scalars_unit plain, List.mem_cons, List.mem_cons, ih, head]
  | @pair high low rest first second tail ih =>
      have beyond : 0 ≠ Utf8.pairValue high low := by
        unfold Utf8.pairValue
        omega
      have highNonzero : 0 ≠ high := by
        intro zero
        rw [← zero] at first
        cases first
      have lowNonzero : 0 ≠ low := by
        intro zero
        rw [← zero] at second
        cases second
      rw [Utf8.scalars_pair first second, List.mem_cons, List.mem_cons, List.mem_cons, ih]
      constructor
      · rintro (zero | later)
        · exact absurd zero beyond
        · exact .inr (.inr later)
      · rintro (zero | zero | later)
        · exact absurd zero highNonzero
        · exact absurd zero lowNonzero
        · exact .inr later

/-- What the database stores of a text that the worker accepts. -/
theorem storedText_of_storable {text : JsString} (storable : isUnstorable text = false) :
    storedText text = some (Utf8.scalars text) := by
  have wellFormed := wellFormed_of_storable storable
  unfold storedText
  rw [if_pos]
  refine ⟨Utf8.flatMap_scalars wellFormed, ?_⟩
  rw [zero_mem_scalars wellFormed]
  exact zero_notMem_of_storable storable

theorem storedText_some {text : JsString} {stored : SqlText} (kept : storedText text = some stored) :
    isUnstorable text = false ∧ stored = Utf8.scalars text := by
  unfold storedText at kept
  split at kept
  · next storable =>
      cases kept
      obtain ⟨spelled, nonzero⟩ := storable
      have wellFormed : Utf8.WellFormed text := by
        rw [← spelled]
        exact wellFormed_units (Utf8.isScalar_scalars text)
      rw [zero_mem_scalars wellFormed] at nonzero
      refine ⟨?_, rfl⟩
      rw [isUnstorable, Bool.or_eq_false_iff, List.contains_eq_mem, decide_eq_false_iff_not]
      exact ⟨loneSurrogateAfter_of_wellFormed wellFormed, nonzero⟩
  · cases kept

theorem native_unit {name : JsString} (native : isForeignKey name = false) :
    ∀ unit ∈ name, 1 ≤ unit.toNat ∧ unit.toNat ≤ 0x7F := by
  intro unit member
  have holds := List.any_eq_false.mp native unit member
  simp only [Bool.or_eq_true, beq_iff_eq, decide_eq_true_eq, not_or, not_lt] at holds
  omega

theorem scalars_of_small {name : JsString} (small : ∀ unit ∈ name, unit.toNat < 0xD800) :
    Utf8.scalars name = name.map UInt16.toNat := by
  induction name with
  | nil => rfl
  | cons unit rest ih =>
      have here := small unit List.mem_cons_self
      have plain : (isHighSurrogate unit || isLowSurrogate unit) = false := by
        simp only [isHighSurrogate, isLowSurrogate, Bool.or_eq_false_iff, Bool.and_eq_false_iff,
          decide_eq_false_iff_not]
        omega
      rw [Utf8.scalars_unit plain, List.map_cons, ih fun other member => small other (List.mem_cons_of_mem _ member)]

theorem sqlBytes_ascii {text : SqlText} (ascii : ∀ point ∈ text, point < 0x80) :
    (sqlBytes text).map UInt8.toNat = text := by
  induction text with
  | nil => rfl
  | cons point rest ih =>
      have here := ascii point List.mem_cons_self
      have byte : (UInt8.ofNat point).toNat = point := UInt8.toNat_ofNat_of_lt' (show point < 256 by omega)
      have tail := ih fun other member => ascii other (List.mem_cons_of_mem _ member)
      rw [sqlBytes, List.flatMap_cons, Utf8.scalarBytes, if_pos here, List.singleton_append, List.map_cons, byte]
      exact congrArg (point :: ·) tail

/-- A name that the worker accepts: what is stored of it, and the bytes by which it is ordered. -/
structure Native (name : JsString) : Prop where
  storable : isUnstorable name = false
  accepted : isForeignName (Utf8.scalars name) = false
  bytes : (sqlBytes (Utf8.scalars name)).map UInt8.toNat = name.map UInt16.toNat

theorem Native.of_key {name : JsString} (native : isForeignKey name = false) : Native name := by
  have ascii := native_unit native
  have spelled : Utf8.scalars name = name.map UInt16.toNat :=
    scalars_of_small fun unit member => by have := ascii unit member; omega
  have points : ∀ point ∈ Utf8.scalars name, 1 ≤ point ∧ point ≤ 0x7F := by
    intro point member
    rw [spelled] at member
    obtain ⟨unit, inside, rfl⟩ := List.mem_map.mp member
    exact ascii unit inside
  refine ⟨?_, ?_, ?_⟩
  · rw [isUnstorable, Bool.or_eq_false_iff, List.contains_eq_mem, decide_eq_false_iff_not]
    refine ⟨loneSurrogateAfter_of_wellFormed (.of_plain ?_), ?_⟩
    · intro unit member
      have := ascii unit member
      omega
    · intro zero
      have positive := (ascii 0 zero).1
      cases positive
  · rw [isForeignName, List.any_eq_false]
    intro point member
    have bounds := points point member
    simp only [Bool.not_eq_true', Bool.and_eq_false_iff, decide_eq_false_iff_not, not_or, not_not]
    exact bounds
  · rw [sqlBytes_ascii fun point member => by have := points point member; omega, spelled]

/-- A stored name that the database accepts is one that the worker accepts. -/
theorem native_of_scalars {name : JsString} (wellFormed : Utf8.WellFormed name)
    (native : isForeignName (Utf8.scalars name) = false) : isForeignKey name = false := by
  have points : ∀ point ∈ Utf8.scalars name, 1 ≤ point ∧ point ≤ 0x7F := by
    intro point member
    have holds := List.any_eq_false.mp native point member
    simpa only [Bool.not_eq_true', Bool.and_eq_false_iff, decide_eq_false_iff_not, not_or, not_not] using holds
  rw [isForeignKey, List.any_eq_false]
  clear native
  induction wellFormed with
  | nil =>
      intro unit member
      cases member
  | @unit unit rest plain tail ih =>
      rw [Utf8.scalars_unit plain] at points
      intro other member
      obtain same | later := List.mem_cons.mp member
      · have bounds := points unit.toNat List.mem_cons_self
        subst same
        simp only [Bool.or_eq_true, beq_iff_eq, decide_eq_true_eq, not_or, not_lt]
        omega
      · exact ih (fun point inside => points point (List.mem_cons_of_mem _ inside)) other later
  | @pair high low rest first second tail ih =>
      rw [Utf8.scalars_pair first second] at points
      have bounds := points _ List.mem_cons_self
      unfold Utf8.pairValue at bounds
      omega

/-! ## The order of fields -/

theorem identityCoreCanonicalSql_object {fields : List (SqlText × Jsonb)} {text : SqlText}
    (written : identityCoreCanonicalSql (.object fields) = .ok text) :
    ∃ texts, rowTexts (sortByKey (sqlRows fields)) = .ok texts ∧
      text = sql "\x7b" ++ joinComma texts ++ sql "\x7d" := by
  rw [identityCoreCanonicalSql] at written
  cases rows : rowTexts (sortByKey (sqlRows fields)) with
  | error refusal =>
      rw [rows] at written
      cases written
  | ok texts =>
      rw [rows] at written
      cases written
      exact ⟨texts, rfl, rfl⟩

theorem sqlRows_eq (fields : List (SqlText × Jsonb)) :
    sqlRows fields = fields.map fun field => (field.1, identityCoreCanonicalSql field.2) := by
  induction fields with
  | nil => rfl
  | cons field rest ih => rw [sqlRows, ih, List.map_cons]

/-- Every row of a loop that ends has a name and a value that were accepted. -/
theorem rowTexts_ok {rows : List (SqlText × Except SqlException SqlText)} {texts : List SqlText}
    (written : rowTexts rows = .ok texts) :
    ∀ row ∈ rows, isForeignName row.1 = false ∧ ∃ text, row.2 = .ok text := by
  induction rows generalizing texts with
  | nil =>
      intro row member
      cases member
  | cons row rest ih =>
      obtain ⟨name, value⟩ := row
      rw [rowTexts] at written
      split at written
      · cases written
      · next native =>
          cases evaluated : value with
          | error refusal =>
              rw [evaluated] at written
              cases written
          | ok text =>
              cases others : rowTexts rest with
              | error refusal =>
                  rw [evaluated, others] at written
                  cases written
              | ok more =>
                  intro other member
                  obtain same | later := List.mem_cons.mp member
                  · rw [same]
                    exact ⟨(Bool.not_eq_true _).mp native, text, rfl⟩
                  · exact ih others other later

/-- Rows with accepted names and values are written one after another. -/
theorem rowTexts_map {A : Type} {entries : List A} {name text : A → SqlText}
    (native : ∀ entry ∈ entries, isForeignName (name entry) = false) :
    rowTexts (entries.map fun entry => (name entry, .ok (text entry))) =
      .ok (entries.map fun entry => identityJsonStringV1 (name entry) ++ sql ":" ++ text entry) := by
  induction entries with
  | nil => rfl
  | cons entry rest ih =>
      rw [List.map_cons, rowTexts, native entry List.mem_cons_self,
        ih fun other member => native other (List.mem_cons_of_mem _ member)]
      rfl

theorem pairwise_sorted {A : Type} (key : A → List Nat) (entries : List A) :
    (entries.insertionSort fun first second => key first ≤ key second).Pairwise
      fun first second => key first ≤ key second := by
  have total : Std.Total fun first second : A => key first ≤ key second := ⟨fun _ _ => le_total _ _⟩
  have trans : IsTrans A fun first second => key first ≤ key second := ⟨fun _ _ _ => le_trans⟩
  exact List.pairwise_insertionSort _ entries

/-- An entry of an object that was written: its name, and the text of its value. -/
abbrev Entry : Type := JsString × SqlText

def Entry.text (entry : Entry) : SqlText := identityJsonStringV1 (Utf8.scalars entry.1) ++ sql ":" ++ entry.2

def Entry.row (entry : Entry) : SqlText × Except SqlException SqlText := (Utf8.scalars entry.1, .ok entry.2)

/-- The database sorts the rows of an object as the worker sorts its fields, in whatever order it keeps them. -/
theorem sortByKey_rows {rows : List (SqlText × Except SqlException SqlText)} {entries : List Entry}
    (same : rows.Perm (entries.map Entry.row)) (native : ∀ entry ∈ entries, Native entry.1)
    (distinct : (entries.map Prod.fst).Nodup) : sortByKey rows = (sortByName entries).map Entry.row := by
  have order : ∀ entry ∈ sortByName entries, Native entry.1 := by
    intro entry member
    exact native entry ((List.perm_insertionSort _ entries).subset member)
  have perm : (sortByKey rows).Perm ((sortByName entries).map Entry.row) :=
    ((List.perm_insertionSort _ rows).trans same).trans ((List.perm_insertionSort _ entries).map _).symm
  refine perm.eq_of_pairwise ?_
    (pairwise_sorted (fun row : SqlText × Except SqlException SqlText => (sqlBytes row.1).map UInt8.toNat) rows) ?_
  · intro left right inLeft inRight before after
    obtain ⟨first, firstIn, rfl⟩ := List.mem_map.mp (same.subset ((List.perm_insertionSort _ rows).subset inLeft))
    obtain ⟨second, secondIn, rfl⟩ := List.mem_map.mp inRight
    have bytes := le_antisymm before after
    change (sqlBytes (Utf8.scalars first.1)).map UInt8.toNat = (sqlBytes (Utf8.scalars second.1)).map UInt8.toNat
      at bytes
    rw [(native first firstIn).bytes, (order second secondIn).bytes] at bytes
    have names : first.1 = second.1 := List.map_injective_iff.mpr (fun _ _ => UInt16.toNat_inj.mp) bytes
    rw [List.inj_on_of_nodup_map distinct firstIn ((List.perm_insertionSort _ entries).subset secondIn) names]
  · rw [List.pairwise_map]
    refine (pairwise_sorted (fun entry : Entry => entry.1.map UInt16.toNat) entries).imp_of_mem ?_
    intro first second firstIn secondIn before
    change (sqlBytes (Utf8.scalars first.1)).map UInt8.toNat ≤ (sqlBytes (Utf8.scalars second.1)).map UInt8.toNat
    rw [(order first firstIn).bytes, (order second secondIn).bytes]
    exact before

/-! ## From the worker to the database -/

theorem canonicalFields_names (fields : List (JsString × Json)) :
    (canonicalFields fields).map Prod.fst = fields.map Prod.fst := by
  induction fields with
  | nil => rfl
  | cons field rest ih => rw [canonicalFields, List.map_cons, List.map_cons, ih]

theorem entry_names {fields : List (JsString × Json)} {entries : List Entry}
    (texts : canonicalFields fields = entries.map fun entry => (entry.1, units entry.2)) :
    entries.map Prod.fst = fields.map Prod.fst := by
  rw [← canonicalFields_names, texts, List.map_map]
  rfl

mutual
/-- What the worker accepts is stored, and the database writes the same text. -/
theorem database_writes : ∀ value, Canonical value → Document value →
    ∃ stored, image value = some stored ∧ ∃ text, identityCoreCanonicalSql stored = .ok text ∧
      Spells text value.canonical
  | .null, _, _ => ⟨.null, rfl, _, rfl, spells_literal "null"⟩
  | .bool true, _, _ => ⟨.bool true, rfl, _, rfl, spells_literal "true"⟩
  | .bool false, _, _ => ⟨.bool false, rfl, _, rfl, spells_literal "false"⟩
  | .num number, accepted, _ => ⟨.number ⟨number, 0⟩, rfl, _, canonicalNumber_safe accepted, spells_number number⟩
  | .real _, accepted, _ => accepted.elim
  | .str text, accepted, _ => by
      refine ⟨.string (Utf8.scalars text), ?_, _, rfl, ?_⟩
      · rw [image, storedText_of_storable accepted]
        rfl
      · exact spells_string (wellFormed_of_storable accepted) (zero_notMem_of_storable accepted)
  | .arr items, accepted, document => by
      rw [Canonical] at accepted
      rw [Document] at document
      obtain ⟨stored, kept, texts, written, spells⟩ := database_writes_items items accepted document
      refine ⟨.array stored, ?_, sql "[" ++ joinComma texts ++ sql "]", ?_, ?_⟩
      · rw [image, kept]
        rfl
      · rw [identityCoreCanonicalSql, written]
        rfl
      · rw [canonical]
        exact ((spells_literal "[").append (spells_joinComma spells)).append (spells_literal "]")
  | .obj fields, accepted, document => by
      rw [Canonical] at accepted
      rw [Document] at document
      obtain ⟨stored, kept, entries, rows, texts, native, scalar⟩ :=
        database_writes_fields fields accepted document.2
      have distinct : (entries.map Prod.fst).Nodup := by
        rw [entry_names texts]
        exact document.1
      have sorted : sortByKey (sqlRows (stored.insertionSort storedLE)) = (sortByName entries).map Entry.row := by
        refine sortByKey_rows ?_ native distinct
        rw [← rows, sqlRows_eq, sqlRows_eq]
        exact (List.perm_insertionSort _ stored).map _
      have ordered : ∀ entry ∈ sortByName entries, entry ∈ entries :=
        fun entry member => (List.perm_insertionSort _ entries).subset member
      have written : rowTexts ((sortByName entries).map Entry.row) = .ok ((sortByName entries).map Entry.text) :=
        @rowTexts_map Entry (sortByName entries) (fun entry => Utf8.scalars entry.1) Prod.snd
          fun entry member => (native entry (ordered entry member)).accepted
      refine ⟨.object (stored.insertionSort storedLE), ?_,
        sql "\x7b" ++ joinComma ((sortByName entries).map Entry.text) ++ sql "\x7d", ?_, ?_⟩
      · rw [image, kept]
        rfl
      · rw [identityCoreCanonicalSql, sorted, written]
        rfl
      · rw [canonical, texts, sortByName_map, List.map_map]
        refine ((spells_literal "\x7b").append (spells_joinComma ?_)).append (spells_literal "\x7d")
        rw [List.forall₂_map_left_iff, List.forall₂_map_right_iff, List.forall₂_same]
        intro entry member
        have inside := ordered entry member
        have storable := (native entry inside).storable
        have name := spells_string (wellFormed_of_storable storable) (zero_notMem_of_storable storable)
        exact (name.append (spells_literal ":")).append ⟨rfl, scalar entry inside⟩

theorem database_writes_items : ∀ items, CanonicalItems items → DocumentItems items →
    ∃ stored, imageItems items = some stored ∧ ∃ texts, sqlItems stored = .ok texts ∧
      List.Forall₂ Spells texts (canonicalItems items)
  | [], _, _ => ⟨[], rfl, [], rfl, .nil⟩
  | item :: rest, accepted, document => by
      rw [CanonicalItems] at accepted
      rw [DocumentItems] at document
      obtain ⟨stored, kept, text, written, spells⟩ := database_writes item accepted.1 document.1
      obtain ⟨others, keptOthers, texts, writtenOthers, spellsOthers⟩ :=
        database_writes_items rest accepted.2 document.2
      refine ⟨stored :: others, ?_, text :: texts, ?_, .cons spells spellsOthers⟩
      · rw [imageItems, kept, keptOthers]
        rfl
      · rw [sqlItems, written, writtenOthers]
        rfl

theorem database_writes_fields : ∀ fields, CanonicalFields fields → DocumentFields fields →
    ∃ stored, imageFields fields = some stored ∧ ∃ entries : List Entry,
      sqlRows stored = entries.map Entry.row ∧
        canonicalFields fields = entries.map (fun entry => (entry.1, units entry.2)) ∧
          (∀ entry ∈ entries, Native entry.1) ∧ ∀ entry ∈ entries, ∀ point ∈ entry.2, Utf8.IsScalar point
  | [], _, _ => ⟨[], rfl, [], rfl, rfl, nofun, nofun⟩
  | (key, item) :: rest, accepted, document => by
      rw [CanonicalFields] at accepted
      rw [DocumentFields] at document
      have native := Native.of_key accepted.1
      obtain ⟨stored, kept, text, written, spells⟩ := database_writes item accepted.2.1 document.1
      obtain ⟨others, keptOthers, entries, rows, texts, natives, scalars⟩ :=
        database_writes_fields rest accepted.2.2 document.2
      refine ⟨(Utf8.scalars key, stored) :: others, ?_, (key, text) :: entries, ?_, ?_, ?_, ?_⟩
      · rw [imageFields, storedText_of_storable native.storable, kept, keptOthers]
        rfl
      · rw [sqlRows, written, rows]
        rfl
      · rw [canonicalFields, texts, List.map_cons, spells.same]
      · exact List.forall_mem_cons.mpr ⟨native, natives⟩
      · exact List.forall_mem_cons.mpr ⟨spells.scalar, scalars⟩
end

/-! ## From the database to the worker -/

theorem imageItems_cons {item : Json} {rest : List Json} {stored : List Jsonb}
    (kept : imageItems (item :: rest) = some stored) :
    ∃ first others, image item = some first ∧ imageItems rest = some others ∧ stored = first :: others := by
  simp only [imageItems, Option.bind_eq_bind, Option.bind_eq_some_iff, Option.some.injEq] at kept
  obtain ⟨first, here, others, there, rfl⟩ := kept
  exact ⟨first, others, here, there, rfl⟩

theorem imageFields_cons {key : JsString} {item : Json} {rest : List (JsString × Json)}
    {stored : List (SqlText × Jsonb)} (kept : imageFields ((key, item) :: rest) = some stored) :
    ∃ name first others, storedText key = some name ∧ image item = some first ∧ imageFields rest = some others ∧
      stored = (name, first) :: others := by
  simp only [imageFields, Option.bind_eq_bind, Option.bind_eq_some_iff, Option.some.injEq] at kept
  obtain ⟨name, named, first, here, others, there, rfl⟩ := kept
  exact ⟨name, first, others, named, here, there, rfl⟩

theorem sqlItems_cons {item : Jsonb} {rest : List Jsonb} {texts : List SqlText}
    (written : sqlItems (item :: rest) = .ok texts) :
    (∃ text, identityCoreCanonicalSql item = .ok text) ∧ ∃ others, sqlItems rest = .ok others := by
  rw [sqlItems] at written
  cases first : identityCoreCanonicalSql item with
  | error refusal =>
      rw [first] at written
      cases written
  | ok text =>
      cases others : sqlItems rest with
      | error refusal =>
          rw [first, others] at written
          cases written
      | ok more => exact ⟨⟨text, rfl⟩, more, rfl⟩

section Reading

variable {numeral : JsString → Option Int}

mutual
/-- What the database accepts is a document that the worker accepts, stored as it is. -/
theorem worker_accepts (reads : ReadsIntegers numeral) : ∀ source stored text, image source = some stored →
    identityCoreCanonicalSql stored = .ok text →
      Canonical (readNumbers numeral source) ∧ image (readNumbers numeral source) = some stored
  | .null, stored, _, kept, _ => ⟨trivial, kept⟩
  | .bool _, stored, _, kept, _ => ⟨trivial, kept⟩
  | .num number, stored, text, kept, written => by
      cases kept
      exact ⟨(canonicalNumber_ok written).2, rfl⟩
  | .real literal, stored, text, kept, written => by
      rw [image, Option.map_eq_some_iff] at kept
      obtain ⟨number, parsed, rfl⟩ := kept
      obtain ⟨whole, safe⟩ := canonicalNumber_ok written
      obtain ⟨unscaled, scale⟩ := number
      cases whole
      have read : readNumbers numeral (.real literal) = .num unscaled := by
        rw [readNumbers, JsonParse.numberOf, reads literal unscaled parsed safe]
      rw [read]
      exact ⟨safe, rfl⟩
  | .str value, stored, _, kept, _ => by
      have storedImage := kept
      rw [image, Option.map_eq_some_iff] at kept
      obtain ⟨text, stores, -⟩ := kept
      exact ⟨(storedText_some stores).1, storedImage⟩
  | .arr items, stored, text, kept, written => by
      rw [image, Option.map_eq_some_iff] at kept
      obtain ⟨others, keptItems, rfl⟩ := kept
      have inner : ∃ texts, sqlItems others = .ok texts := by
        rw [identityCoreCanonicalSql] at written
        cases texts : sqlItems others with
        | error refusal =>
            rw [texts] at written
            cases written
        | ok found => exact ⟨found, rfl⟩
      obtain ⟨texts, writtenItems⟩ := inner
      obtain ⟨accepted, same⟩ := worker_accepts_items reads items others texts keptItems writtenItems
      rw [readNumbers, Canonical, image, same]
      exact ⟨accepted, rfl⟩
  | .obj fields, stored, text, kept, written => by
      rw [image, Option.map_eq_some_iff] at kept
      obtain ⟨others, keptFields, rfl⟩ := kept
      obtain ⟨texts, rows, -⟩ := identityCoreCanonicalSql_object written
      have each : ∀ field ∈ others, isForeignName field.1 = false ∧
          ∃ text, identityCoreCanonicalSql field.2 = .ok text := by
        intro field member
        refine rowTexts_ok rows (field.1, identityCoreCanonicalSql field.2) ?_
        refine (List.perm_insertionSort _ _).symm.subset ?_
        rw [sqlRows_eq]
        exact List.mem_map_of_mem ((List.perm_insertionSort _ others).symm.subset member)
      obtain ⟨accepted, same⟩ := worker_accepts_fields reads fields others keptFields each
      rw [readNumbers, Canonical, image, same]
      exact ⟨accepted, rfl⟩

theorem worker_accepts_items (reads : ReadsIntegers numeral) : ∀ items stored texts,
    imageItems items = some stored → sqlItems stored = .ok texts →
      CanonicalItems (readItems numeral items) ∧ imageItems (readItems numeral items) = some stored
  | [], stored, _, kept, _ => ⟨trivial, kept⟩
  | item :: rest, stored, texts, kept, written => by
      obtain ⟨first, others, keptItem, keptRest, rfl⟩ := imageItems_cons kept
      obtain ⟨⟨text, writtenItem⟩, more, writtenRest⟩ := sqlItems_cons written
      obtain ⟨acceptedItem, sameItem⟩ := worker_accepts reads item first text keptItem writtenItem
      obtain ⟨acceptedRest, sameRest⟩ := worker_accepts_items reads rest others more keptRest writtenRest
      rw [readItems, CanonicalItems, imageItems, sameItem, sameRest]
      exact ⟨⟨acceptedItem, acceptedRest⟩, rfl⟩

theorem worker_accepts_fields (reads : ReadsIntegers numeral) : ∀ fields stored,
    imageFields fields = some stored →
      (∀ field ∈ stored, isForeignName field.1 = false ∧ ∃ text, identityCoreCanonicalSql field.2 = .ok text) →
        CanonicalFields (readFields numeral fields) ∧ imageFields (readFields numeral fields) = some stored
  | [], stored, kept, _ => ⟨trivial, kept⟩
  | (key, item) :: rest, stored, kept, each => by
      obtain ⟨name, first, others, named, keptItem, keptRest, rfl⟩ := imageFields_cons kept
      obtain ⟨⟨native, text, writtenItem⟩, eachRest⟩ := List.forall_mem_cons.mp each
      obtain ⟨storable, spelled⟩ := storedText_some named
      have foreign : isForeignKey key = false := by
        apply native_of_scalars (wellFormed_of_storable storable)
        rw [← spelled]
        exact native
      obtain ⟨acceptedItem, sameItem⟩ := worker_accepts reads item first text keptItem writtenItem
      obtain ⟨acceptedRest, sameRest⟩ := worker_accepts_fields reads rest others keptRest eachRest
      rw [readFields, CanonicalFields, imageFields, named, sameItem, sameRest]
      exact ⟨⟨foreign, acceptedItem, acceptedRest⟩, rfl⟩
end

theorem readFields_names (fields : List (JsString × Json)) :
    (readFields numeral fields).map Prod.fst = fields.map Prod.fst := by
  induction fields with
  | nil => rfl
  | cons field rest ih => rw [readFields, List.map_cons, List.map_cons, ih]

mutual
theorem document_readNumbers : ∀ source, Document source → Document (readNumbers numeral source)
  | .null, document => document
  | .bool _, document => document
  | .num _, document => document
  | .real literal, _ => by
      rw [readNumbers, JsonParse.numberOf]
      cases numeral literal with
      | none => trivial
      | some number => trivial
  | .str _, document => document
  | .arr items, document => by
      rw [Document] at document
      rw [readNumbers, Document]
      exact document_readItems items document
  | .obj fields, document => by
      rw [Document] at document
      rw [readNumbers, Document, readFields_names]
      exact ⟨document.1, document_readFields fields document.2⟩

theorem document_readItems : ∀ items, DocumentItems items → DocumentItems (readItems numeral items)
  | [], _ => trivial
  | item :: rest, document => by
      rw [DocumentItems] at document
      rw [readItems, DocumentItems]
      exact ⟨document_readNumbers item document.1, document_readItems rest document.2⟩

theorem document_readFields : ∀ fields, DocumentFields fields → DocumentFields (readFields numeral fields)
  | [], _ => trivial
  | (key, item) :: rest, document => by
      rw [DocumentFields] at document
      rw [readFields, DocumentFields]
      exact ⟨document_readNumbers item document.1, document_readFields rest document.2⟩
end

/-! ## The twins -/

/-- Both sides write the same text for a document and its image, and hash it alike. -/
structure Agree (value : Json) (stored : Jsonb) : Prop where
  texts : ∃ written, identityCoreCanonicalSql stored = .ok written ∧
    identityCoreCanonicalV1 value = .ok (units written)
  digests : ∀ sha256 : List UInt8 → HexDigest, ∃ digest, identityCoreDigestSql sha256 stored = .ok digest ∧
    identityCoreDigestV1 sha256 value = .ok digest

theorem Agree.of_spells {value : Json} {stored : Jsonb} {text : SqlText} (accepted : Canonical value)
    (written : identityCoreCanonicalSql stored = .ok text) (spells : Spells text value.canonical) :
    Agree value stored := by
  have worker : identityCoreCanonicalV1 value = .ok value.canonical := identityCoreCanonicalV1_ok.mpr ⟨accepted, rfl⟩
  refine ⟨⟨text, written, ?_⟩, ?_⟩
  · rw [spells.same]
    exact worker
  · intro sha256
    refine ⟨sha256 (sqlBytes text), ?_, ?_⟩
    · rw [identityCoreDigestSql, written]
      rfl
    · rw [identityCoreDigestV1, worker, spells.bytes]
      rfl

/-- What one side accepts, the other side accepts and writes alike. -/
theorem twins_agree (reads : ReadsIntegers numeral) :
    (∀ value text, Document value → identityCoreCanonicalV1 value = .ok text →
      ∃ stored, image value = some stored ∧ Agree value stored) ∧
    ∀ source stored text, Document source → image source = some stored →
      identityCoreCanonicalSql stored = .ok text → Agree (readNumbers numeral source) stored := by
  refine ⟨?_, ?_⟩
  · intro value text document accepted
    obtain ⟨canonical, -⟩ := identityCoreCanonicalV1_ok.mp accepted
    obtain ⟨stored, kept, written, writes, spells⟩ := database_writes value canonical document
    exact ⟨stored, kept, .of_spells canonical writes spells⟩
  · intro source stored text document kept written
    obtain ⟨canonical, same⟩ := worker_accepts reads source stored text kept written
    obtain ⟨again, keptAgain, other, writes, spells⟩ :=
      database_writes _ canonical (document_readNumbers source document)
    rw [same] at keptAgain
    cases keptAgain
    exact .of_spells canonical writes spells

end Reading

/-- Numerals read as the integers that the database reads. -/
def sampleNumeral (literal : JsString) : Option Int :=
  (numericIn literal).bind fun number => if number.scale = 0 then some number.unscaled else none

theorem sampleNumeral_reads : ReadsIntegers sampleNumeral := by
  intro literal number parsed _
  rw [sampleNumeral, parsed]
  rfl

def sampleSource : Json :=
  .obj [(js "version", .real (js "12e1")), (js "name", .str (js "A \"quoted\" name")), (js "values", .arr [.null])]

theorem sampleSource_document : Document sampleSource :=
  ⟨by decide, trivial, trivial, ⟨trivial, trivial⟩, trivial⟩

theorem sampleSource_text : identityCoreCanonicalV1 (readNumbers sampleNumeral sampleSource) =
    .ok (js "\x7b\"name\":\"A \\\"quoted\\\" name\",\"values\":[null],\"version\":120\x7d") := by
  decide +kernel

theorem sample_twins_agree : ∃ stored, image (readNumbers sampleNumeral sampleSource) = some stored ∧
    Agree (readNumbers sampleNumeral sampleSource) stored :=
  (twins_agree sampleNumeral_reads).1 _ _ (document_readNumbers _ sampleSource_document) sampleSource_text

end KernelJson.Identity.Twins
