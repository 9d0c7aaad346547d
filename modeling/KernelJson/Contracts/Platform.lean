import KernelJson.Contracts.Digest

/-!
# The platform

Functions that the ECMAScript platform supplies: hashing, the case tables of
Unicode and the values of numerals.
-/

namespace KernelJson.Contracts.Platform

open Contracts.Digest
open Foundation
open Foundation.JsText

def IsAscii (text : JsString) : Prop :=
  ∀ unit ∈ text, unit.toNat < 128

structure Platform where
  sha256 : JsString → HexDigest
  toLowerCase : JsString → JsString
  toUpperCase : JsString → JsString
  numeral : JsString → Option Int
  lowerAscii : ∀ text, IsAscii text → toLowerCase text = text.map asciiLower
  upperAscii : ∀ text, IsAscii text → toUpperCase text = text.map asciiUpper

/-- A platform that knows the case of ASCII letters only, and hashes every text to zeros. -/
def Platform.ascii : Platform where
  sha256 := fun _ => .ofDigits []
  toLowerCase := List.map asciiLower
  toUpperCase := List.map asciiUpper
  numeral := fun _ => none
  lowerAscii := fun _ _ => rfl
  upperAscii := fun _ _ => rfl

variable (platform : Platform)

/-- `capabilityDigest(value)`: the hash of the canonical text, as hexadecimal text. -/
def capabilityDigest (value : Json) : JsString :=
  hexText (platform.sha256 value.canonical)

/-- `sha256Text(text)`. -/
def sha256Text (text : JsString) : JsString :=
  hexText (platform.sha256 text)

theorem capabilityDigest_of_same {first second : Json} (same : first.SameUpToKeyOrder second) :
    capabilityDigest platform first = capabilityDigest platform second := by
  unfold capabilityDigest
  rw [Json.canonical_of_same same]

theorem length_hexText (digest : HexDigest) : (hexText digest).length = 64 :=
  List.length_ofFn

/-- `/^[a-f0-9]{64}$/`. -/
def isSha256Text (text : JsString) : Bool :=
  text.length == 64 && text.all fun unit => isDigitUnit unit || (97 ≤ unit.toNat && unit.toNat ≤ 102)

theorem isSha256Text_hexText (digest : HexDigest) : isSha256Text (hexText digest) = true := by
  have units : ∀ digit : Fin 16, (isDigitUnit (Json.hexUnit digit) ||
      (97 ≤ (Json.hexUnit digit).toNat && (Json.hexUnit digit).toNat ≤ 102)) = true := by
    decide
  simp only [isSha256Text, length_hexText, beq_self_eq_true, Bool.true_and, List.all_eq_true]
  intro unit member
  obtain ⟨position, rfl⟩ := List.mem_ofFn.mp member
  exact units _

end KernelJson.Contracts.Platform
