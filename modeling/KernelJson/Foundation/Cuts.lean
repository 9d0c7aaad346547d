import KernelJson.Foundation.Utf8

/-!
# Texts that are cut

A cut at a number of code units keeps a text well formed unless it falls
between the two halves of a pair.  Cutting at a plain unit is always safe, and
so is what a decoder of UTF-8 writes, whatever its bytes are.
-/

namespace KernelJson.Foundation.Cuts

open Foundation.Json
open Foundation.JsText
open Foundation.Utf8

/-! ## A cut at a length -/

/-- A cut after `length` units parts a pair of surrogates. -/
def cutsPair (length : Nat) (text : JsString) : Bool :=
  (text.take length).getLast?.any isHighSurrogate && (text.drop length).head?.any isLowSurrogate

theorem cutsPair_of_short {length : Nat} {text : JsString} (short : text.length ≤ length) :
    cutsPair length text = false := by
  rw [cutsPair, List.drop_eq_nil_of_le short, List.head?_nil]
  exact Bool.and_false _

theorem not_wellFormed_high {high : UInt16} (first : isHighSurrogate high = true) : ¬ WellFormed [high] := by
  intro wellFormed
  cases wellFormed with
  | unit plain tail =>
      rw [first, Bool.true_or] at plain
      cases plain

theorem wellFormed_unit_iff {unit : UInt16} (plain : (isHighSurrogate unit || isLowSurrogate unit) = false)
    {rest : JsString} : WellFormed (unit :: rest) ↔ WellFormed rest := by
  refine ⟨fun wellFormed => ?_, .unit plain⟩
  cases wellFormed with
  | unit _ tail => exact tail
  | pair first second tail =>
      rw [first, Bool.true_or] at plain
      cases plain

theorem wellFormed_pair_iff {high low : UInt16} (first : isHighSurrogate high = true)
    (second : isLowSurrogate low = true) {rest : JsString} :
    WellFormed (high :: low :: rest) ↔ WellFormed rest := by
  refine ⟨fun wellFormed => ?_, .pair first second⟩
  cases wellFormed with
  | unit plain tail =>
      rw [first, Bool.true_or] at plain
      cases plain
  | pair _ _ tail => exact tail

/-- The unit before a later cut is the same without the unit in front. -/
theorem cutsPair_cons {unit : UInt16} (other : isHighSurrogate unit = false) (length : Nat) (rest : JsString) :
    cutsPair (length + 1) (unit :: rest) = cutsPair length rest := by
  unfold cutsPair
  rw [List.take_succ_cons, List.drop_succ_cons]
  cases kept : rest.take length with
  | nil =>
      show (isHighSurrogate unit && _) = (false && _)
      rw [other]
  | cons next more => rw [List.getLast?_cons_cons]

/-- A cut keeps a well-formed text so unless it parts a pair. -/
theorem wellFormed_take_iff {text : JsString} (wellFormed : WellFormed text) (length : Nat) :
    WellFormed (text.take length) ↔ cutsPair length text = false := by
  induction wellFormed generalizing length with
  | nil =>
      rw [List.take_nil]
      exact ⟨fun _ => cutsPair_of_short (Nat.zero_le _), fun _ => .nil⟩
  | @unit unit rest plain tail ih =>
      cases length with
      | zero => exact ⟨fun _ => rfl, fun _ => .nil⟩
      | succ length =>
          have other := (Bool.or_eq_false_iff.mp plain).1
          rw [List.take_succ_cons, wellFormed_unit_iff plain, ih, cutsPair_cons other]
  | @pair high low rest first second tail ih =>
      have notHigh : isHighSurrogate low = false := by
        simp only [isHighSurrogate, isLowSurrogate, Bool.and_eq_true, decide_eq_true_eq, Bool.and_eq_false_iff,
          decide_eq_false_iff_not] at second ⊢
        omega
      cases length with
      | zero => exact ⟨fun _ => rfl, fun _ => .nil⟩
      | succ length =>
          cases length with
          | zero =>
              have cut : cutsPair 1 (high :: low :: rest) = true := by
                show (isHighSurrogate high && isLowSurrogate low) = true
                rw [first, second]
                rfl
              rw [cut]
              exact ⟨fun whole => absurd whole (not_wellFormed_high first), fun none => by cases none⟩
          | succ length =>
              have same :
                  cutsPair (length + 2) (high :: low :: rest) = cutsPair (length + 1) (low :: rest) := by
                unfold cutsPair
                rw [List.take_succ_cons, List.take_succ_cons, List.getLast?_cons_cons, List.drop_succ_cons]
              rw [List.take_succ_cons, List.take_succ_cons, wellFormed_pair_iff first second, ih, same,
                cutsPair_cons notHigh]

/-! ## A cut at a unit -/

/-- What stands before a plain unit is well formed. -/
theorem wellFormed_takeWhile {text : JsString} (wellFormed : WellFormed text) {stop : UInt16}
    (plain : (isHighSurrogate stop || isLowSurrogate stop) = false) :
    WellFormed (text.takeWhile fun other => other != stop) := by
  have differs : ∀ {unit : UInt16}, (isHighSurrogate unit || isLowSurrogate unit) = true →
      (unit != stop) = true := by
    intro unit surrogate
    rw [bne_iff_ne]
    rintro rfl
    rw [plain] at surrogate
    cases surrogate
  induction wellFormed with
  | nil => exact .nil
  | @unit unit rest ordinary tail ih =>
      rw [List.takeWhile_cons]
      split
      · exact .unit ordinary ih
      · exact .nil
  | @pair high low rest first second tail ih =>
      have left : (high != stop) = true := differs (by rw [first]; rfl)
      have right : (low != stop) = true := differs (by rw [second]; exact Bool.or_true _)
      rw [List.takeWhile_cons, if_pos left, List.takeWhile_cons, if_pos right]
      exact .pair first second ih

/-! ## Decoded bytes -/

/-- The scalar values from `least` to `most` and no surrogates. -/
def Between (least most : Nat) : Prop :=
  most < 0xD800 ∨ 0xE000 ≤ least ∧ most < 0x110000

theorem Between.isScalar {least most value : Nat} (between : Between least most) (lower : least ≤ value)
    (upper : value ≤ most) : IsScalar value := by
  unfold Between at between
  unfold IsScalar
  omega

/-- Whatever bytes follow within their bounds, the value is scalar. -/
def Sound (begun : Begun) : Prop :=
  0x80 ≤ begun.lower ∧ begun.upper ≤ 0xBF ∧
    match begun.needed with
    | 0 => Between (begun.value * 0x40 + begun.lower % 0x40) (begun.value * 0x40 + begun.upper % 0x40)
    | 1 => Between ((begun.value * 0x40 + begun.lower % 0x40) * 0x40)
        ((begun.value * 0x40 + begun.upper % 0x40) * 0x40 + 0x3F)
    | 2 => Between ((begun.value * 0x40 + begun.lower % 0x40) * 0x1000)
        ((begun.value * 0x40 + begun.upper % 0x40) * 0x1000 + 0xFFF)
    | _ => False

theorem lead_sound (byte : Nat) :
    (∀ value ∈ (lead byte).1, IsScalar value) ∧ ∀ begun ∈ (lead byte).2, Sound begun := by
  unfold lead
  split
  · next ascii =>
      refine ⟨fun value member => ?_, fun begun member => by cases member⟩
      rw [List.mem_singleton.mp member]
      exact .inl (by omega)
  · split
    · next two =>
        refine ⟨fun value member => (by cases member), fun begun member => ?_⟩
        rw [← Option.some.inj member]
        refine ⟨Nat.le_refl _, Nat.le_refl _, ?_⟩
        show Between ((byte - 0xC0) * 0x40 + 0x80 % 0x40) ((byte - 0xC0) * 0x40 + 0xBF % 0x40)
        unfold Between
        omega
    · split
      · next three =>
          refine ⟨fun value member => (by cases member), fun begun member => ?_⟩
          rw [← Option.some.inj member]
          refine ⟨?_, ?_, ?_⟩
          · dsimp only
            split <;> decide
          · dsimp only
            split <;> decide
          · show Between (((byte - 0xE0) * 0x40 + (if byte = 0xE0 then 0xA0 else 0x80) % 0x40) * 0x40)
              (((byte - 0xE0) * 0x40 + (if byte = 0xED then 0x9F else 0xBF) % 0x40) * 0x40 + 0x3F)
            unfold Between
            split <;> split <;> omega
      · split
        · next four =>
            refine ⟨fun value member => (by cases member), fun begun member => ?_⟩
            rw [← Option.some.inj member]
            refine ⟨?_, ?_, ?_⟩
            · dsimp only
              split <;> decide
            · dsimp only
              split <;> decide
            · show Between (((byte - 0xF0) * 0x40 + (if byte = 0xF0 then 0x90 else 0x80) % 0x40) * 0x1000)
                (((byte - 0xF0) * 0x40 + (if byte = 0xF4 then 0x8F else 0xBF) % 0x40) * 0x1000 + 0xFFF)
              unfold Between
              split <;> split <;> omega
        · refine ⟨fun value member => ?_, fun begun member => by cases member⟩
          rw [List.mem_singleton.mp member]
          exact .inr (by decide)

theorem step_sound {state : Option Begun} (sound : ∀ begun ∈ state, Sound begun) (byte : Nat) :
    (∀ value ∈ (step state byte).1, IsScalar value) ∧ ∀ begun ∈ (step state byte).2, Sound begun := by
  obtain ⟨scalars, begins⟩ := lead_sound byte
  cases state with
  | none => exact ⟨scalars, begins⟩
  | some begun =>
      obtain ⟨lower, upper, range⟩ := sound begun rfl
      obtain ⟨value, needed, least, most⟩ := begun
      dsimp only at lower upper range
      unfold step
      dsimp only
      split
      · next within =>
          cases needed with
          | zero =>
              dsimp only at range ⊢
              refine ⟨fun found member => ?_, fun begun member => by cases member⟩
              rw [List.mem_singleton.mp member]
              exact range.isScalar (by omega) (by omega)
          | succ needed =>
              refine ⟨fun found member => (by cases member), fun begun member => ?_⟩
              rw [← Option.some.inj member]
              refine ⟨Nat.le_refl _, Nat.le_refl _, ?_⟩
              cases needed with
              | zero =>
                  have range : Between ((value * 0x40 + least % 0x40) * 0x40)
                    ((value * 0x40 + most % 0x40) * 0x40 + 0x3F) := range
                  show Between ((value * 0x40 + byte % 0x40) * 0x40 + 0x80 % 0x40)
                    ((value * 0x40 + byte % 0x40) * 0x40 + 0xBF % 0x40)
                  unfold Between at range ⊢
                  omega
              | succ needed =>
                  cases needed with
                  | zero =>
                      have range : Between ((value * 0x40 + least % 0x40) * 0x1000)
                        ((value * 0x40 + most % 0x40) * 0x1000 + 0xFFF) := range
                      show Between (((value * 0x40 + byte % 0x40) * 0x40 + 0x80 % 0x40) * 0x40)
                        (((value * 0x40 + byte % 0x40) * 0x40 + 0xBF % 0x40) * 0x40 + 0x3F)
                      unfold Between at range ⊢
                      omega
                  | succ needed => exact range.elim
      · refine ⟨fun found member => ?_, begins⟩
        rcases List.mem_cons.mp member with rfl | later
        · exact .inr (by decide)
        · exact scalars found later

/-- A decoder writes scalar values only. -/
theorem decodeFrom_isScalar {state : Option Begun} (sound : ∀ begun ∈ state, Sound begun) (bytes : List UInt8) :
    ∀ value ∈ decodeFrom state bytes, IsScalar value := by
  induction bytes generalizing state with
  | nil =>
      cases state with
      | none =>
          intro value member
          cases member
      | some begun =>
          intro value member
          rw [List.mem_singleton.mp member]
          exact .inr (by decide)
  | cons byte rest ih =>
      obtain ⟨scalars, begins⟩ := step_sound sound byte.toNat
      intro value member
      have parts : decodeFrom state (byte :: rest) =
          (step state byte.toNat).1 ++ decodeFrom (step state byte.toNat).2 rest := by
        cases state <;> rfl
      rw [parts, List.mem_append] at member
      rcases member with here | later
      · exact scalars value here
      · exact ih begins value later

theorem wellFormed_scalarUnits {value : Nat} (scalar : IsScalar value) : WellFormed (scalarUnits value) := by
  unfold IsScalar at scalar
  unfold scalarUnits
  split
  · next small =>
      refine .unit ?_ .nil
      simp only [isHighSurrogate, isLowSurrogate, UInt16.toNat_ofNat', Bool.or_eq_false_iff,
        Bool.and_eq_false_iff, decide_eq_false_iff_not]
      omega
  · next large =>
      refine .pair ?_ ?_ .nil
      · simp only [isHighSurrogate, UInt16.toNat_ofNat', Bool.and_eq_true, decide_eq_true_eq]
        omega
      · simp only [isLowSurrogate, UInt16.toNat_ofNat', Bool.and_eq_true, decide_eq_true_eq]
        omega

/-- Decoded bytes are well formed, whatever they are. -/
theorem wellFormed_decode (bytes : List UInt8) : WellFormed (decode bytes) := by
  have scalar := @decodeFrom_isScalar none (fun _ member => by cases member) bytes
  unfold decode
  generalize decodeFrom none bytes = values at scalar
  induction values with
  | nil => exact .nil
  | cons value rest ih =>
      rw [List.flatMap_cons]
      exact (wellFormed_scalarUnits (scalar value List.mem_cons_self)).append
        (ih fun other member => scalar other (List.mem_cons_of_mem _ member))

end KernelJson.Foundation.Cuts
