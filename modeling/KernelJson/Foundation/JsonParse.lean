import KernelJson.Foundation.Json

/-!
# Parsing JSON texts

`JSON.parse` over code units.  The grammar is followed here; the value of a
numeral is the platform's, given as the integer that the numeral denotes, if
it denotes one.  Nesting is bounded by the length of the text.
-/

namespace KernelJson.Foundation.JsonParse

open Foundation.JsText

/-! ## Tokens -/

def isJsonSpace (unit : UInt16) : Bool :=
  unit == 32 || unit == 9 || unit == 10 || unit == 13

def skipSpace (text : JsString) : JsString :=
  text.dropWhile isJsonSpace

def hexValue (unit : UInt16) : Option Nat :=
  if isDigitUnit unit then some (unit.toNat - 48)
  else if 97 ≤ unit.toNat && unit.toNat ≤ 102 then some (unit.toNat - 87)
  else if 65 ≤ unit.toNat && unit.toNat ≤ 70 then some (unit.toNat - 55)
  else none

/-- The unit that a one-letter escape stands for. -/
def simpleEscape (unit : UInt16) : Option UInt16 :=
  if unit = 34 then some 34
  else if unit = 92 then some 92
  else if unit = 47 then some 47
  else if unit = 98 then some 8
  else if unit = 102 then some 12
  else if unit = 110 then some 10
  else if unit = 114 then some 13
  else if unit = 116 then some 9
  else none

def hexUnitOf (first second third fourth : UInt16) : Option UInt16 := do
  let high ← hexValue first
  let next ← hexValue second
  let lower ← hexValue third
  let last ← hexValue fourth
  some (UInt16.ofNat (((high * 16 + next) * 16 + lower) * 16 + last))

def consUnit (unit : UInt16) (found : JsString × JsString) : JsString × JsString :=
  (unit :: found.1, found.2)

/-- The body of a string after its opening quote, and what follows the closing one. -/
def parseString : JsString → Option (JsString × JsString)
  | [] => none
  | unit :: rest =>
      if unit = 34 then some ([], rest)
      else if unit = 92 then
        match rest with
        | [] => none
        | letter :: rest =>
            if letter = 117 then
              match rest with
              | first :: second :: third :: fourth :: rest => do
                  let unit ← hexUnitOf first second third fourth
                  (parseString rest).map (consUnit unit)
              | _ => none
            else do
              let unit ← simpleEscape letter
              (parseString rest).map (consUnit unit)
      else if unit.toNat < 0x20 then none
      else (parseString rest).map (consUnit unit)

def digits (text : JsString) : JsString × JsString :=
  (text.takeWhile isDigitUnit, text.dropWhile isDigitUnit)

/-- A nonempty run of digits. -/
def someDigits (text : JsString) : Option (JsString × JsString) :=
  if (digits text).1 = [] then none else some (digits text)

/-- The integer part of a numeral: one digit, or digits that start with no zero. -/
def integerPart (text : JsString) : Option (JsString × JsString) := do
  let (body, rest) ← someDigits text
  if body.head? = some 48 ∧ body.length ≠ 1 then none else some (body, rest)

def fractionPart (text : JsString) : Option (JsString × JsString) :=
  if text.head? = some 46 then
    (someDigits text.tail).map (consUnit 46)
  else some ([], text)

/-- A sign from the given ones, if there is one. -/
def signPart (signs : JsString) (text : JsString) : JsString × JsString :=
  match text with
  | unit :: rest => if signs.contains unit then ([unit], rest) else ([], text)
  | [] => ([], [])

def exponentPart (text : JsString) : Option (JsString × JsString) :=
  match text with
  | mark :: rest =>
      if mark = 101 || mark = 69 then
        let (sign, unsigned) := signPart (js "+-") rest
        (someDigits unsigned).map fun found => (mark :: sign ++ found.1, found.2)
      else some ([], text)
  | [] => some ([], [])

/-- The longest numeral at the start of a text. -/
def parseNumeral (text : JsString) : Option (JsString × JsString) := do
  let (minus, unsigned) := signPart (js "-") text
  let (whole, rest) ← integerPart unsigned
  let (fraction, rest) ← fractionPart rest
  let (exponent, rest) ← exponentPart rest
  some (minus ++ whole ++ fraction ++ exponent, rest)

def parseWord (word : JsString) (value : Json) (text : JsString) : Option (Json × JsString) :=
  if word.isPrefixOf text then some (value, text.drop word.length) else none

/-! ## Values -/

section Values

variable (numeral : JsString → Option Int)

def numberOf (literal : JsString) : Json :=
  match numeral literal with
  | some value => .num value
  | none => .real literal

/-- The text after white space and the given unit, if that unit is there. -/
def afterUnit (unit : UInt16) (text : JsString) : Option JsString :=
  match skipSpace text with
  | head :: rest => if head = unit then some rest else none
  | [] => none

mutual
/-- A value at the start of a text without leading white space. -/
def parseValue : Nat → JsString → Option (Json × JsString)
  | 0, _ => none
  | fuel + 1, text =>
      match text with
      | [] => none
      | head :: rest =>
          if head = 123 then
            match afterUnit 125 rest with
            | some remaining => some (.obj [], remaining)
            | none => (parseFields fuel rest []).map fun found => (.obj found.1, found.2)
          else if head = 91 then
            match afterUnit 93 rest with
            | some remaining => some (.arr [], remaining)
            | none => (parseItems fuel rest).map fun found => (.arr found.1, found.2)
          else if head = 34 then (parseString rest).map fun found => (.str found.1, found.2)
          else if head = 116 then parseWord (js "true") (.bool true) text
          else if head = 102 then parseWord (js "false") (.bool false) text
          else if head = 110 then parseWord (js "null") .null text
          else (parseNumeral text).map fun found => (numberOf numeral found.1, found.2)

/-- The items of an array, up to its closing bracket. -/
def parseItems : Nat → JsString → Option (List Json × JsString)
  | 0, _ => none
  | fuel + 1, text => do
      let (item, rest) ← parseValue fuel (skipSpace text)
      match afterUnit 93 rest with
      | some remaining => some ([item], remaining)
      | none =>
          let more ← afterUnit 44 rest
          let (items, remaining) ← parseItems fuel more
          some (item :: items, remaining)

/-- The fields of an object, up to its closing brace; a repeated name takes its last value. -/
def parseFields : Nat → JsString → List (JsString × Json) → Option (List (JsString × Json) × JsString)
  | 0, _, _ => none
  | fuel + 1, text, seen => do
      let named ← afterUnit 34 text
      let (name, rest) ← parseString named
      let valued ← afterUnit 58 rest
      let (value, rest) ← parseValue fuel (skipSpace valued)
      match afterUnit 125 rest with
      | some remaining => some (JsMap.setEntry name value seen, remaining)
      | none =>
          let more ← afterUnit 44 rest
          parseFields fuel more (JsMap.setEntry name value seen)
end

/-- `JSON.parse(text)`, or `none` when it throws. -/
def parse (text : JsString) : Option Json := do
  let (value, rest) ← parseValue numeral (2 * text.length + 2) (skipSpace text)
  if skipSpace rest = [] then some value else none

end Values

/-- A text with a nested object, an array, an escape and a repeated name. -/
example :
    (parse (fun _ => some 7) (js " \x7b\"a\": [10], \"b\": \"x\\u0041\", \"a\": \x7b\x7d\x7d ")).map Json.stringify =
      some (js "\x7b\"a\":\x7b\x7d,\"b\":\"xA\"\x7d") := by
  decide +kernel

end KernelJson.Foundation.JsonParse
