import KernelJson.Foundation.Json

/-!
# Texts as UTF-8 bytes

`Buffer.from(text)` and `bytes.toString("utf8")`.  The encoder writes the
replacement character for an unpaired surrogate, and the decoder is the state
machine of the Encoding Standard, which writes one for every maximal part of
a sequence that is broken off.  A text without unpaired surrogates survives.
-/

namespace KernelJson.Foundation.Utf8

open Foundation.JsText
open Foundation.Json

/-! ## Scalar values -/

/-- A text in which every surrogate is half of a pair. -/
inductive WellFormed : JsString → Prop where
  | nil : WellFormed []
  | unit {unit : UInt16} {rest : JsString} (plain : (isHighSurrogate unit || isLowSurrogate unit) = false)
      (tail : WellFormed rest) : WellFormed (unit :: rest)
  | pair {high low : UInt16} {rest : JsString} (first : isHighSurrogate high = true)
      (second : isLowSurrogate low = true) (tail : WellFormed rest) : WellFormed (high :: low :: rest)

theorem WellFormed.append {first second : JsString} (left : WellFormed first) (right : WellFormed second) :
    WellFormed (first ++ second) := by
  induction left with
  | nil => exact right
  | unit plain tail ih => exact .unit plain ih
  | pair high low tail ih => exact .pair high low ih

/-- Units below the surrogates form no pairs. -/
theorem WellFormed.of_plain {text : JsString} (plain : ∀ unit ∈ text, unit.toNat < 0xD800) : WellFormed text := by
  induction text with
  | nil => exact .nil
  | cons unit rest ih =>
      have low := plain unit List.mem_cons_self
      refine .unit ?_ (ih fun other member => plain other (List.mem_cons_of_mem _ member))
      simp only [isHighSurrogate, isLowSurrogate, Bool.or_eq_false_iff, Bool.and_eq_false_iff,
        decide_eq_false_iff_not]
      omega

def pairValue (high low : UInt16) : Nat :=
  0x10000 + (high.toNat - 0xD800) * 0x400 + (low.toNat - 0xDC00)

/-- The scalar values of a text; an unpaired surrogate counts as the replacement character. -/
def scalars : JsString → List Nat
  | [] => []
  | [unit] => [if isHighSurrogate unit || isLowSurrogate unit then 0xFFFD else unit.toNat]
  | unit :: next :: rest =>
      if isHighSurrogate unit && isLowSurrogate next then pairValue unit next :: scalars rest
      else (if isHighSurrogate unit || isLowSurrogate unit then 0xFFFD else unit.toNat) :: scalars (next :: rest)

/-- The code units of a scalar value. -/
def scalarUnits (value : Nat) : JsString :=
  if value < 0x10000 then [UInt16.ofNat value]
  else [UInt16.ofNat (0xD800 + (value - 0x10000) / 0x400), UInt16.ofNat (0xDC00 + (value - 0x10000) % 0x400)]

def IsScalar (value : Nat) : Prop :=
  value < 0xD800 ∨ 0xE000 ≤ value ∧ value < 0x110000

theorem scalars_unit {unit : UInt16} (plain : (isHighSurrogate unit || isLowSurrogate unit) = false)
    (rest : JsString) : scalars (unit :: rest) = unit.toNat :: scalars rest := by
  obtain ⟨notHigh, notLow⟩ := Bool.or_eq_false_iff.mp plain
  cases rest with
  | nil => simp [scalars, notHigh, notLow]
  | cons next rest => simp [scalars, notHigh, notLow]

theorem scalars_pair {high low : UInt16} (first : isHighSurrogate high = true) (second : isLowSurrogate low = true)
    (rest : JsString) : scalars (high :: low :: rest) = pairValue high low :: scalars rest := by
  simp [scalars, first, second]

theorem isScalar_unit {unit : UInt16} (plain : (isHighSurrogate unit || isLowSurrogate unit) = false) :
    IsScalar unit.toNat := by
  have bound := UInt16.toNat_lt unit
  simp only [isHighSurrogate, isLowSurrogate, Bool.or_eq_false_iff, Bool.and_eq_false_iff,
    decide_eq_false_iff_not] at plain
  unfold IsScalar
  omega

theorem isScalar_pair {high low : UInt16} (first : isHighSurrogate high = true)
    (second : isLowSurrogate low = true) : IsScalar (pairValue high low) := by
  simp only [isHighSurrogate, isLowSurrogate, Bool.and_eq_true, decide_eq_true_eq] at first second
  unfold IsScalar pairValue
  omega

theorem scalarUnits_unit (unit : UInt16) : scalarUnits unit.toNat = [unit] := by
  have bound := UInt16.toNat_lt unit
  rw [scalarUnits, if_pos bound, UInt16.ofNat_toNat]

theorem scalarUnits_pair {high low : UInt16} (first : isHighSurrogate high = true)
    (second : isLowSurrogate low = true) : scalarUnits (pairValue high low) = [high, low] := by
  simp only [isHighSurrogate, isLowSurrogate, Bool.and_eq_true, decide_eq_true_eq] at first second
  have upper : 0xD800 + (pairValue high low - 0x10000) / 0x400 = high.toNat := by
    unfold pairValue
    omega
  have lower : 0xDC00 + (pairValue high low - 0x10000) % 0x400 = low.toNat := by
    unfold pairValue
    omega
  have large : ¬ pairValue high low < 0x10000 := by
    unfold pairValue
    omega
  rw [scalarUnits, if_neg large, upper, lower, UInt16.ofNat_toNat, UInt16.ofNat_toNat]

theorem isScalar_of_mem {text : JsString} (wellFormed : WellFormed text) :
    ∀ value ∈ scalars text, IsScalar value := by
  induction wellFormed with
  | nil =>
      intro value member
      cases member
  | unit plain tail ih =>
      rw [scalars_unit plain]
      intro value member
      rcases List.mem_cons.mp member with here | later
      · exact here ▸ isScalar_unit plain
      · exact ih value later
  | pair first second tail ih =>
      rw [scalars_pair first second]
      intro value member
      rcases List.mem_cons.mp member with here | later
      · exact here ▸ isScalar_pair first second
      · exact ih value later

/-- The scalar values of a well-formed text spell it. -/
theorem flatMap_scalars {text : JsString} (wellFormed : WellFormed text) :
    (scalars text).flatMap scalarUnits = text := by
  induction wellFormed with
  | nil => rfl
  | unit plain tail ih => rw [scalars_unit plain, List.flatMap_cons, ih, scalarUnits_unit, List.singleton_append]
  | pair first second tail ih =>
      rw [scalars_pair first second, List.flatMap_cons, ih, scalarUnits_pair first second]
      rfl

theorem plain_of_scalar {value : Nat} (isScalar : IsScalar value) (small : value < 0x10000) :
    (isHighSurrogate (UInt16.ofNat value) || isLowSurrogate (UInt16.ofNat value)) = false := by
  have same : (UInt16.ofNat value).toNat = value := UInt16.toNat_ofNat_of_lt' small
  unfold IsScalar at isScalar
  simp only [isHighSurrogate, isLowSurrogate, same, Bool.or_eq_false_iff, Bool.and_eq_false_iff,
    decide_eq_false_iff_not]
  omega

/-- The units of a scalar value are read as that value. -/
theorem scalars_scalarUnits {value : Nat} (isScalar : IsScalar value) (rest : JsString) :
    scalars (scalarUnits value ++ rest) = value :: scalars rest := by
  unfold scalarUnits
  split
  · next small =>
      rw [List.singleton_append, scalars_unit (plain_of_scalar isScalar small),
        UInt16.toNat_ofNat_of_lt' small]
  · next large =>
      have bound : value < 0x110000 := by
        unfold IsScalar at isScalar
        omega
      have upper : (UInt16.ofNat (0xD800 + (value - 0x10000) / 0x400)).toNat = 0xD800 + (value - 0x10000) / 0x400 :=
        UInt16.toNat_ofNat_of_lt' (show 0xD800 + (value - 0x10000) / 0x400 < 0x10000 by omega)
      have lower : (UInt16.ofNat (0xDC00 + (value - 0x10000) % 0x400)).toNat = 0xDC00 + (value - 0x10000) % 0x400 :=
        UInt16.toNat_ofNat_of_lt' (show 0xDC00 + (value - 0x10000) % 0x400 < 0x10000 by omega)
      have total : pairValue (UInt16.ofNat (0xD800 + (value - 0x10000) / 0x400))
          (UInt16.ofNat (0xDC00 + (value - 0x10000) % 0x400)) = value := by
        unfold pairValue
        rw [upper, lower]
        omega
      rw [List.cons_append, List.singleton_append, scalars_pair, total]
      · simp only [isHighSurrogate, upper, Bool.and_eq_true, decide_eq_true_eq]
        omega
      · simp only [isLowSurrogate, lower, Bool.and_eq_true, decide_eq_true_eq]
        omega

theorem scalars_flatMap {values : List Nat} (areScalars : ∀ value ∈ values, IsScalar value) :
    scalars (values.flatMap scalarUnits) = values := by
  induction values with
  | nil => rfl
  | cons value rest ih =>
      rw [List.flatMap_cons, scalars_scalarUnits (areScalars value List.mem_cons_self),
        ih fun other member => areScalars other (List.mem_cons_of_mem _ member)]

/-- The scalar values of any text are scalar values. -/
theorem isScalar_scalars (text : JsString) : ∀ value ∈ scalars text, IsScalar value := by
  have single : ∀ unit : UInt16,
      IsScalar (if isHighSurrogate unit || isLowSurrogate unit then 0xFFFD else unit.toNat) := by
    intro unit
    split
    · exact .inr ⟨by decide, by decide⟩
    · next plain => exact isScalar_unit ((Bool.not_eq_true _).mp plain)
  induction text using scalars.induct with
  | case1 =>
      intro value member
      cases member
  | case2 unit =>
      intro value member
      rw [scalars, List.mem_singleton] at member
      exact member ▸ single unit
  | case3 unit next rest paired ih =>
      obtain ⟨first, second⟩ := Bool.and_eq_true_iff.mp paired
      intro value member
      rw [scalars_pair first second] at member
      obtain here | later := List.mem_cons.mp member
      · exact here ▸ isScalar_pair first second
      · exact ih value later
  | case4 unit next rest unpaired ih =>
      intro value member
      rw [scalars, if_neg unpaired] at member
      obtain here | later := List.mem_cons.mp member
      · exact here ▸ single unit
      · exact ih value later

/-! ## Bytes -/

def scalarBytes (value : Nat) : List UInt8 :=
  if value < 0x80 then [UInt8.ofNat value]
  else if value < 0x800 then [UInt8.ofNat (0xC0 + value / 0x40), UInt8.ofNat (0x80 + value % 0x40)]
  else if value < 0x10000 then
    [UInt8.ofNat (0xE0 + value / 0x1000), UInt8.ofNat (0x80 + value / 0x40 % 0x40),
      UInt8.ofNat (0x80 + value % 0x40)]
  else
    [UInt8.ofNat (0xF0 + value / 0x40000), UInt8.ofNat (0x80 + value / 0x1000 % 0x40),
      UInt8.ofNat (0x80 + value / 0x40 % 0x40), UInt8.ofNat (0x80 + value % 0x40)]

/-- `Buffer.from(text)`. -/
def encode (text : JsString) : List UInt8 :=
  (scalars text).flatMap scalarBytes

/-- A sequence that has begun: its bits so far, the bytes it needs, and the bounds of the next one. -/
structure Begun where
  value : Nat
  needed : Nat
  lower : Nat
  upper : Nat

def lead (byte : Nat) : List Nat × Option Begun :=
  if byte < 0x80 then ([byte], none)
  else if 0xC2 ≤ byte ∧ byte ≤ 0xDF then ([], some ⟨byte - 0xC0, 0, 0x80, 0xBF⟩)
  else if 0xE0 ≤ byte ∧ byte ≤ 0xEF then
    ([], some ⟨byte - 0xE0, 1, if byte = 0xE0 then 0xA0 else 0x80, if byte = 0xED then 0x9F else 0xBF⟩)
  else if 0xF0 ≤ byte ∧ byte ≤ 0xF4 then
    ([], some ⟨byte - 0xF0, 2, if byte = 0xF0 then 0x90 else 0x80, if byte = 0xF4 then 0x8F else 0xBF⟩)
  else ([0xFFFD], none)

/-- One byte: the scalar values it completes, and the sequence it leaves open. -/
def step : Option Begun → Nat → List Nat × Option Begun
  | none, byte => lead byte
  | some begun, byte =>
      if begun.lower ≤ byte ∧ byte ≤ begun.upper then
        match begun.needed with
        | 0 => ([begun.value * 0x40 + byte % 0x40], none)
        | needed + 1 => ([], some ⟨begun.value * 0x40 + byte % 0x40, needed, 0x80, 0xBF⟩)
      else (0xFFFD :: (lead byte).1, (lead byte).2)

def decodeFrom : Option Begun → List UInt8 → List Nat
  | none, [] => []
  | some _, [] => [0xFFFD]
  | state, byte :: rest => (step state byte.toNat).1 ++ decodeFrom (step state byte.toNat).2 rest

/-- `bytes.toString("utf8")`. -/
def decode (bytes : List UInt8) : JsString :=
  (decodeFrom none bytes).flatMap scalarUnits

theorem decodeFrom_cons (state : Option Begun) {byte : Nat} (small : byte < 256) (rest : List UInt8) :
    decodeFrom state (UInt8.ofNat byte :: rest) =
      (step state byte).1 ++ decodeFrom (step state byte).2 rest := by
  have value : (UInt8.ofNat byte).toNat = byte := UInt8.toNat_ofNat_of_lt' small
  cases state with
  | none => rw [decodeFrom, value]
  | some begun => rw [decodeFrom, value]

theorem step_last {begun : Begun} {byte : Nat} (last : begun.needed = 0)
    (within : begun.lower ≤ byte ∧ byte ≤ begun.upper) :
    step (some begun) byte = ([begun.value * 0x40 + byte % 0x40], none) := by
  simp only [step, if_pos within, last]

theorem step_more {begun : Begun} {byte needed : Nat} (more : begun.needed = needed + 1)
    (within : begun.lower ≤ byte ∧ byte ≤ begun.upper) :
    step (some begun) byte = ([], some ⟨begun.value * 0x40 + byte % 0x40, needed, 0x80, 0xBF⟩) := by
  simp only [step, if_pos within, more]

private theorem decodeFrom_two {value : Nat} (lower : ¬ value < 0x80) (upper : value < 0x800)
    (rest : List UInt8) : decodeFrom none (scalarBytes value ++ rest) = value :: decodeFrom none rest := by
  have first : step none (0xC0 + value / 0x40) = ([], some ⟨value / 0x40, 0, 0x80, 0xBF⟩) := by
    rw [step, lead, if_neg (by omega), if_pos (by omega), Nat.add_sub_cancel_left]
  have second := @step_last ⟨value / 0x40, 0, 0x80, 0xBF⟩ (0x80 + value % 0x40) rfl (by
    constructor <;> simp only <;> omega)
  have total : value / 0x40 * 0x40 + (0x80 + value % 0x40) % 0x40 = value := by omega
  rw [scalarBytes, if_neg lower, if_pos upper, List.cons_append, List.singleton_append,
    decodeFrom_cons none (by omega), first, decodeFrom_cons _ (by omega), second, total]
  rfl

private theorem decodeFrom_three {value : Nat} (lower : ¬ value < 0x800) (upper : value < 0x10000)
    (isScalar : IsScalar value) (rest : List UInt8) :
    decodeFrom none (scalarBytes value ++ rest) = value :: decodeFrom none rest := by
  unfold IsScalar at isScalar
  have first : step none (0xE0 + value / 0x1000) = ([], some ⟨value / 0x1000, 1,
      if 0xE0 + value / 0x1000 = 0xE0 then 0xA0 else 0x80,
      if 0xE0 + value / 0x1000 = 0xED then 0x9F else 0xBF⟩) := by
    rw [step, lead, if_neg (by omega), if_neg (by omega), if_pos (by omega), Nat.add_sub_cancel_left]
  have second := @step_more ⟨value / 0x1000, 1, if 0xE0 + value / 0x1000 = 0xE0 then 0xA0 else 0x80,
      if 0xE0 + value / 0x1000 = 0xED then 0x9F else 0xBF⟩ (0x80 + value / 0x40 % 0x40) 0 rfl (by
    constructor
    · simp only
      split <;> omega
    · simp only
      split <;> omega)
  have third := @step_last ⟨value / 0x1000 * 0x40 + (0x80 + value / 0x40 % 0x40) % 0x40, 0, 0x80, 0xBF⟩
    (0x80 + value % 0x40) rfl (by constructor <;> simp only <;> omega)
  have total : (value / 0x1000 * 0x40 + (0x80 + value / 0x40 % 0x40) % 0x40) * 0x40 +
      (0x80 + value % 0x40) % 0x40 = value := by omega
  rw [scalarBytes, if_neg (by omega), if_neg lower, if_pos upper, List.cons_append, List.cons_append,
    List.singleton_append, decodeFrom_cons none (by omega), first, decodeFrom_cons _ (by omega), second,
    decodeFrom_cons _ (by omega), third, total]
  rfl

private theorem decodeFrom_four {value : Nat} (lower : ¬ value < 0x10000) (upper : value < 0x110000)
    (rest : List UInt8) : decodeFrom none (scalarBytes value ++ rest) = value :: decodeFrom none rest := by
  have first : step none (0xF0 + value / 0x40000) = ([], some ⟨value / 0x40000, 2,
      if 0xF0 + value / 0x40000 = 0xF0 then 0x90 else 0x80,
      if 0xF0 + value / 0x40000 = 0xF4 then 0x8F else 0xBF⟩) := by
    rw [step, lead, if_neg (by omega), if_neg (by omega), if_neg (by omega), if_pos (by omega),
      Nat.add_sub_cancel_left]
  have second := @step_more ⟨value / 0x40000, 2, if 0xF0 + value / 0x40000 = 0xF0 then 0x90 else 0x80,
      if 0xF0 + value / 0x40000 = 0xF4 then 0x8F else 0xBF⟩ (0x80 + value / 0x1000 % 0x40) 1 rfl (by
    constructor
    · simp only
      split <;> omega
    · simp only
      split <;> omega)
  have third := @step_more ⟨value / 0x40000 * 0x40 + (0x80 + value / 0x1000 % 0x40) % 0x40, 1, 0x80, 0xBF⟩
    (0x80 + value / 0x40 % 0x40) 0 rfl (by constructor <;> simp only <;> omega)
  have fourth := @step_last ⟨(value / 0x40000 * 0x40 + (0x80 + value / 0x1000 % 0x40) % 0x40) * 0x40 +
    (0x80 + value / 0x40 % 0x40) % 0x40, 0, 0x80, 0xBF⟩ (0x80 + value % 0x40) rfl (by
      constructor <;> simp only <;> omega)
  have total : ((value / 0x40000 * 0x40 + (0x80 + value / 0x1000 % 0x40) % 0x40) * 0x40 +
      (0x80 + value / 0x40 % 0x40) % 0x40) * 0x40 + (0x80 + value % 0x40) % 0x40 = value := by omega
  rw [scalarBytes, if_neg (by omega), if_neg (by omega), if_neg lower, List.cons_append, List.cons_append,
    List.cons_append, List.singleton_append, decodeFrom_cons none (by omega), first,
    decodeFrom_cons _ (by omega), second, decodeFrom_cons _ (by omega), third, decodeFrom_cons _ (by omega),
    fourth, total]
  rfl

/-- The bytes of a scalar value are read back as that value. -/
theorem decodeFrom_scalarBytes {value : Nat} (isScalar : IsScalar value) (rest : List UInt8) :
    decodeFrom none (scalarBytes value ++ rest) = value :: decodeFrom none rest := by
  have bound : value < 0x110000 := by
    unfold IsScalar at isScalar
    omega
  by_cases one : value < 0x80
  · have ascii : step none value = ([value], none) := by rw [step, lead, if_pos one]
    rw [scalarBytes, if_pos one, List.singleton_append, decodeFrom_cons none (by omega), ascii]
    rfl
  · by_cases two : value < 0x800
    · exact decodeFrom_two one two rest
    · by_cases three : value < 0x10000
      · exact decodeFrom_three two three isScalar rest
      · exact decodeFrom_four three bound rest

theorem decodeFrom_flatMap {values : List Nat} (areScalars : ∀ value ∈ values, IsScalar value) :
    decodeFrom none (values.flatMap scalarBytes) = values := by
  induction values with
  | nil => rfl
  | cons value rest ih =>
      rw [List.flatMap_cons, decodeFrom_scalarBytes (areScalars value List.mem_cons_self),
        ih fun other member => areScalars other (List.mem_cons_of_mem _ member)]

/-- A well-formed text survives its bytes. -/
theorem decode_encode {text : JsString} (wellFormed : WellFormed text) : decode (encode text) = text := by
  rw [decode, encode, decodeFrom_flatMap (isScalar_of_mem wellFormed), flatMap_scalars wellFormed]

end KernelJson.Foundation.Utf8
