import KernelJson.Foundation.Utf8

/-!
# Base64url

`buffer.toString("base64url")` writes six bits to a unit and no padding.
`Buffer.from(text, "base64url")` reads both alphabets and skips every other
unit.  Bytes survive, and no text of the encoder holds a full stop.
-/

namespace KernelJson.Foundation.Base64Url

open Foundation.JsText

/-! ## Units -/

def sextetUnit (sextet : Nat) : UInt16 :=
  UInt16.ofNat (if sextet < 26 then 65 + sextet
    else if sextet < 52 then 71 + sextet
    else if sextet < 62 then sextet - 4
    else if sextet = 62 then 45
    else 95)

/-- The six bits of a unit of either alphabet. -/
def sextetOf (unit : UInt16) : Option Nat :=
  if isUpperUnit unit then some (unit.toNat - 65)
  else if isLowerUnit unit then some (unit.toNat - 71)
  else if isDigitUnit unit then some (unit.toNat + 4)
  else if unit = 45 ∨ unit = 43 then some 62
  else if unit = 95 ∨ unit = 47 then some 63
  else none

theorem sextetOf_sextetUnit {sextet : Nat} (small : sextet < 64) : sextetOf (sextetUnit sextet) = some sextet := by
  have all : ∀ sextet : Fin 64, sextetOf (sextetUnit sextet.val) = some sextet.val := by decide
  exact all ⟨sextet, small⟩

/-! ## Bytes -/

/-- `buffer.toString("base64url")`. -/
def encode : List UInt8 → JsString
  | [] => []
  | [first] => [sextetUnit (first.toNat / 4), sextetUnit (first.toNat % 4 * 16)]
  | [first, second] =>
      [sextetUnit (first.toNat / 4), sextetUnit (first.toNat % 4 * 16 + second.toNat / 16),
        sextetUnit (second.toNat % 16 * 4)]
  | first :: second :: third :: rest =>
      sextetUnit (first.toNat / 4) :: sextetUnit (first.toNat % 4 * 16 + second.toNat / 16) ::
        sextetUnit (second.toNat % 16 * 4 + third.toNat / 64) :: sextetUnit (third.toNat % 64) :: encode rest

/-- Bits that do not fill a byte are dropped. -/
def bytesOf : List Nat → List UInt8
  | first :: second :: third :: fourth :: rest =>
      UInt8.ofNat (first * 4 + second / 16) :: UInt8.ofNat (second % 16 * 16 + third / 4) ::
        UInt8.ofNat (third % 4 * 64 + fourth) :: bytesOf rest
  | [first, second, third] => [UInt8.ofNat (first * 4 + second / 16), UInt8.ofNat (second % 16 * 16 + third / 4)]
  | [first, second] => [UInt8.ofNat (first * 4 + second / 16)]
  | _ => []

/-- `Buffer.from(text, "base64url")`. -/
def decode (text : JsString) : List UInt8 :=
  bytesOf (text.filterMap sextetOf)

theorem filterMap_cons_sextet {sextet : Nat} (small : sextet < 64) (rest : JsString) :
    (sextetUnit sextet :: rest).filterMap sextetOf = sextet :: rest.filterMap sextetOf :=
  List.filterMap_cons_some (sextetOf_sextetUnit small)

/-- Bytes survive their text. -/
theorem decode_encode (bytes : List UInt8) : decode (encode bytes) = bytes := by
  unfold decode
  induction bytes using encode.induct with
  | case1 => rfl
  | case2 first =>
      have bound := UInt8.toNat_lt first
      have total : first.toNat / 4 * 4 + first.toNat % 4 * 16 / 16 = first.toNat := by omega
      rw [encode, filterMap_cons_sextet (by omega), filterMap_cons_sextet (by omega), List.filterMap_nil, bytesOf,
        total, UInt8.ofNat_toNat]
  | case3 first second =>
      have bound := UInt8.toNat_lt first
      have bound' := UInt8.toNat_lt second
      have total : first.toNat / 4 * 4 + (first.toNat % 4 * 16 + second.toNat / 16) / 16 = first.toNat := by omega
      have total' : (first.toNat % 4 * 16 + second.toNat / 16) % 16 * 16 + second.toNat % 16 * 4 / 4 =
          second.toNat := by omega
      rw [encode, filterMap_cons_sextet (by omega), filterMap_cons_sextet (by omega),
        filterMap_cons_sextet (by omega), List.filterMap_nil, bytesOf, total, total', UInt8.ofNat_toNat,
        UInt8.ofNat_toNat]
  | case4 first second third rest ih =>
      have bound := UInt8.toNat_lt first
      have bound' := UInt8.toNat_lt second
      have bound'' := UInt8.toNat_lt third
      have total : first.toNat / 4 * 4 + (first.toNat % 4 * 16 + second.toNat / 16) / 16 = first.toNat := by omega
      have total' : (first.toNat % 4 * 16 + second.toNat / 16) % 16 * 16 +
          (second.toNat % 16 * 4 + third.toNat / 64) / 4 = second.toNat := by omega
      have total'' : (second.toNat % 16 * 4 + third.toNat / 64) % 4 * 64 + third.toNat % 64 = third.toNat := by
        omega
      rw [encode, filterMap_cons_sextet (by omega), filterMap_cons_sextet (by omega),
        filterMap_cons_sextet (by omega), filterMap_cons_sextet (by omega), bytesOf, total, total', total'', ih,
        UInt8.ofNat_toNat, UInt8.ofNat_toNat, UInt8.ofNat_toNat]

/-! ## The units of the encoder -/

theorem sextetUnit_range (sextet : Nat) : (sextetUnit sextet).toNat < 128 ∧ sextetUnit sextet ≠ 46 := by
  by_cases small : sextet < 64
  · have all : ∀ sextet : Fin 64, (sextetUnit sextet.val).toNat < 128 ∧ sextetUnit sextet.val ≠ 46 := by decide
    exact all ⟨sextet, small⟩
  · have last : sextetUnit sextet = UInt16.ofNat 95 := by
      rw [sextetUnit, if_neg (by omega), if_neg (by omega), if_neg (by omega), if_neg (by omega)]
    rw [last]
    decide

theorem unit_of_mem_encode {bytes : List UInt8} {unit : UInt16} (member : unit ∈ encode bytes) :
    ∃ sextet, unit = sextetUnit sextet := by
  induction bytes using encode.induct with
  | case1 => cases member
  | case2 first =>
      simp only [encode, List.mem_cons, List.not_mem_nil, or_false] at member
      rcases member with rfl | rfl
      · exact ⟨_, rfl⟩
      · exact ⟨_, rfl⟩
  | case3 first second =>
      simp only [encode, List.mem_cons, List.not_mem_nil, or_false] at member
      rcases member with rfl | rfl | rfl
      · exact ⟨_, rfl⟩
      · exact ⟨_, rfl⟩
      · exact ⟨_, rfl⟩
  | case4 first second third rest ih =>
      simp only [encode, List.mem_cons] at member
      rcases member with rfl | rfl | rfl | rfl | later
      · exact ⟨_, rfl⟩
      · exact ⟨_, rfl⟩
      · exact ⟨_, rfl⟩
      · exact ⟨_, rfl⟩
      · exact ih later

theorem isAscii_of_mem_encode {bytes : List UInt8} {unit : UInt16} (member : unit ∈ encode bytes) :
    unit.toNat < 128 := by
  obtain ⟨sextet, rfl⟩ := unit_of_mem_encode member
  exact (sextetUnit_range sextet).1

/-! ## Texts -/

/-- `Buffer.from(text).toString("base64url")`. -/
def ofText (text : JsString) : JsString :=
  encode (Utf8.encode text)

/-- `Buffer.from(text, "base64url").toString("utf8")`. -/
def toText (text : JsString) : JsString :=
  Utf8.decode (decode text)

theorem toText_ofText {text : JsString} (wellFormed : Utf8.WellFormed text) : toText (ofText text) = text := by
  rw [toText, ofText, decode_encode, Utf8.decode_encode wellFormed]

/-- Two bytes and an umlaut. -/
example : ofText (js "aä") = js "YcOk" ∧ toText (js "YcOk") = js "aä" := by decide +kernel

end KernelJson.Foundation.Base64Url
