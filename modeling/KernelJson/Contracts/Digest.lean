import KernelJson.Contracts.Common
import KernelJson.Foundation.Json

/-!
# Digests and content-derived identifiers

The hash function belongs to the platform and is a parameter here: it takes a
text to its 64 lower-case hexadecimal digits.
-/

namespace KernelJson.Contracts.Digest

open Contracts.Common
open Foundation
open Foundation.JsText
open Foundation.Json

/-- The hexadecimal digits of a SHA-256 value. -/
abbrev HexDigest : Type := Fin 64 → Fin 16

/-- The digest with these digits, and zeros after them. -/
def HexDigest.ofDigits (digits : List Nat) : HexDigest := fun position =>
  ⟨digits.getD position 0 % 16, Nat.mod_lt _ (Nat.succ_pos 15)⟩

def hexText (digest : HexDigest) : JsString :=
  List.ofFn fun position => hexUnit (digest position)

/-- `digest(value)`: the hash of `JSON.stringify(value)`. -/
def digest (sha256 : JsString → HexDigest) (value : Json) : HexDigest :=
  sha256 (stringify value)

/-- `h.slice(from, from + count)` of the digest text. -/
def hexSlice (digest : HexDigest) (start : Nat) (count : Nat) (inside : start + count ≤ 64) : JsString :=
  List.ofFn fun position : Fin count => hexUnit (digest ⟨start + position.val, by omega⟩)

/-- The text of a content-derived UUID in the kernel's namespace. -/
def stableIdText (hash : HexDigest) : JsString :=
  hexSlice hash 0 8 (by decide) ++ js "-" ++ hexSlice hash 8 4 (by decide) ++ js "-8"
    ++ hexSlice hash 13 3 (by decide) ++ js "-a" ++ hexSlice hash 17 3 (by decide) ++ js "-"
    ++ hexSlice hash 20 12 (by decide)

theorem isHexUnit_hexUnit (digit : Fin 16) : isHexUnit (hexUnit digit) = true := by
  revert digit
  decide

theorem isUuid_stableIdText (hash : HexDigest) : isUuid (stableIdText hash) = true := by
  have version : isVersionUnit 56 = true := by decide
  have variant : isVariantUnit 97 = true := by decide
  have hyphen : isHyphen 45 = true := by decide
  have seven : js "-8" = [45, 56] := by decide
  have ten : js "-a" = [45, 97] := by decide
  have dash : js "-" = [45] := by decide
  have fits : fitsShape uuidShape (stableIdText hash) = true := by
    simp [stableIdText, uuidShape, hexSlice, List.ofFn_succ, List.replicate_succ, fitsShape,
      isHexUnit_hexUnit, version, variant, hyphen, seven, ten, dash]
  simp [isUuid, fits]

/-- `stableId(value)`. -/
def stableId (sha256 : JsString → HexDigest) (value : Json) : Id :=
  ⟨stableIdText (digest sha256 (.arr [.str (js "kerneljson:phase4:v1"), value])),
    isUuid_stableIdText _⟩

end KernelJson.Contracts.Digest
