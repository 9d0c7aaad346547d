import KernelJson.Foundation.JsText

/-!
# Identifiers and timestamps

Values that the contract schemas accept are carried together with the fact that
the schema accepted them.
-/

namespace KernelJson.Contracts.Common

open Foundation.JsText

/-! ## `Id = z.uuid()` -/

def isHexUnit (unit : UInt16) : Bool :=
  (48 ≤ unit.toNat && unit.toNat ≤ 57) || (65 ≤ unit.toNat && unit.toNat ≤ 70)
    || (97 ≤ unit.toNat && unit.toNat ≤ 102)

def isHyphen (unit : UInt16) : Bool := unit == 45

/-- The version digit of a UUID, `[1-8]`. -/
def isVersionUnit (unit : UInt16) : Bool :=
  49 ≤ unit.toNat && unit.toNat ≤ 56

/-- The variant digit of a UUID, `[89abAB]`. -/
def isVariantUnit (unit : UInt16) : Bool :=
  (js "89abAB").contains unit

def uuidShape : List (UInt16 → Bool) :=
  List.replicate 8 isHexUnit ++ [isHyphen] ++ List.replicate 4 isHexUnit ++ [isHyphen]
    ++ [isVersionUnit] ++ List.replicate 3 isHexUnit ++ [isHyphen]
    ++ [isVariantUnit] ++ List.replicate 3 isHexUnit ++ [isHyphen] ++ List.replicate 12 isHexUnit

def fitsShape : List (UInt16 → Bool) → JsString → Bool
  | [], [] => true
  | accepts :: shape, unit :: text => accepts unit && fitsShape shape text
  | _, _ => false

def nilUuid : JsString := js "00000000-0000-0000-0000-000000000000"

def maxUuid : JsString := js "ffffffff-ffff-ffff-ffff-ffffffffffff"

def isUuid (text : JsString) : Bool :=
  fitsShape uuidShape text || text == nilUuid || text == maxUuid

structure Id where
  text : JsString
  wellFormed : isUuid text = true
deriving DecidableEq

theorem Id.ext {first second : Id} (same : first.text = second.text) : first = second := by
  cases first
  cases second
  cases same
  rfl

theorem fitsShape_mem {shape : List (UInt16 → Bool)} {text : JsString} {unit : UInt16}
    (fits : fitsShape shape text = true) (found : unit ∈ text) :
    ∃ accepts ∈ shape, accepts unit = true := by
  induction shape generalizing text with
  | nil =>
      cases text with
      | nil => cases found
      | cons head tail => cases fits
  | cons accepts shape ih =>
      cases text with
      | nil => cases found
      | cons head tail =>
          simp only [fitsShape, Bool.and_eq_true] at fits
          rcases List.mem_cons.mp found with here | later
          · exact ⟨accepts, List.mem_cons_self, here ▸ fits.1⟩
          · obtain ⟨other, member, accepted⟩ := ih fits.2 later
            exact ⟨other, List.mem_cons_of_mem _ member, accepted⟩

theorem length_of_fitsShape {shape : List (UInt16 → Bool)} {text : JsString} (fits : fitsShape shape text = true) :
    text.length = shape.length := by
  induction shape generalizing text with
  | nil =>
      cases text with
      | nil => rfl
      | cons unit rest => cases fits
  | cons accepts shape ih =>
      cases text with
      | nil => cases fits
      | cons unit rest =>
          simp only [fitsShape, Bool.and_eq_true] at fits
          exact congrArg (· + 1) (ih fits.2)

theorem Id.length (identifier : Id) : identifier.text.length = 36 := by
  have wellFormed := identifier.wellFormed
  simp only [isUuid, Bool.or_eq_true, beq_iff_eq] at wellFormed
  rcases wellFormed with (fits | isNil) | isMax
  · rw [length_of_fitsShape fits]
    rfl
  · rw [isNil, nilUuid, js_ofList]
    rfl
  · rw [isMax, maxUuid, js_ofList]
    rfl

/-- The separator of composite keys, `|`. -/
def bar : UInt16 := 124

theorem uuidShape_classes {accepts : UInt16 → Bool} (found : accepts ∈ uuidShape) :
    accepts = isHexUnit ∨ accepts = isHyphen ∨ accepts = isVersionUnit ∨ accepts = isVariantUnit := by
  simp only [uuidShape, List.mem_append, List.mem_replicate, List.mem_singleton] at found
  tauto

theorem bar_not_mem_shape {accepts : UInt16 → Bool} (found : accepts ∈ uuidShape) :
    accepts bar = false := by
  rcases uuidShape_classes found with rfl | rfl | rfl | rfl <;> decide

/-- No UUID contains the separator of composite keys. -/
theorem Id.bar_not_mem (identifier : Id) : bar ∉ identifier.text := by
  intro found
  have wellFormed := identifier.wellFormed
  simp only [isUuid, Bool.or_eq_true, beq_iff_eq] at wellFormed
  rcases wellFormed with (fits | isNil) | isMax
  · obtain ⟨accepts, member, accepted⟩ := fitsShape_mem fits found
    rw [bar_not_mem_shape member] at accepted
    cases accepted
  · rw [isNil] at found
    exact absurd found (by decide)
  · rw [isMax] at found
    exact absurd found (by decide)

/-! ### The text of a `uuid` column -/

theorem asciiLower_of_not_upper {unit : UInt16} (kept : isUpperUnit unit = false) : asciiLower unit = unit := by
  rw [asciiLower, kept, if_neg Bool.false_ne_true]

theorem asciiLower_toNat {unit : UInt16} (upper : isUpperUnit unit = true) :
    (asciiLower unit).toNat = unit.toNat + 32 := by
  rw [asciiLower, if_pos upper, UInt16.toNat_add]
  simp only [isUpperUnit, Bool.and_eq_true, decide_eq_true_eq] at upper
  have small : unit.toNat + 32 < 2 ^ 16 := by omega
  exact Nat.mod_eq_of_lt small

theorem isHexUnit_asciiLower {unit : UInt16} (hex : isHexUnit unit = true) :
    isHexUnit (asciiLower unit) = true := by
  cases upper : isUpperUnit unit with
  | false => rwa [asciiLower_of_not_upper upper]
  | true =>
      have shifted := asciiLower_toNat upper
      simp only [isHexUnit, isUpperUnit, Bool.or_eq_true, Bool.and_eq_true, decide_eq_true_eq] at hex upper ⊢
      omega

theorem shape_asciiLower {accepts : UInt16 → Bool} (found : accepts ∈ uuidShape) {unit : UInt16}
    (accepted : accepts unit = true) : accepts (asciiLower unit) = true := by
  rcases uuidShape_classes found with rfl | rfl | rfl | rfl
  · exact isHexUnit_asciiLower accepted
  · rw [isHyphen, beq_iff_eq] at accepted
    cases accepted
    rfl
  · have digit : isUpperUnit unit = false := by
      simp only [isVersionUnit, isUpperUnit, Bool.and_eq_true, decide_eq_true_eq, Bool.and_eq_false_iff,
        decide_eq_false_iff_not] at accepted ⊢
      omega
    rwa [asciiLower_of_not_upper digit]
  · have lowered : (js "89abAB").all (fun listed => isVariantUnit (asciiLower listed)) = true := by decide
    exact List.all_eq_true.mp lowered unit (List.contains_iff_mem.mp accepted)

theorem fitsShape_asciiLower {shape : List (UInt16 → Bool)} {text : JsString}
    (closed : ∀ accepts ∈ shape, ∀ unit, accepts unit = true → accepts (asciiLower unit) = true)
    (fits : fitsShape shape text = true) : fitsShape shape (text.map asciiLower) = true := by
  induction shape generalizing text with
  | nil =>
      cases text with
      | nil => rfl
      | cons head tail => cases fits
  | cons accepts shape ih =>
      cases text with
      | nil => cases fits
      | cons head tail =>
          simp only [fitsShape, List.map_cons, Bool.and_eq_true] at fits ⊢
          exact ⟨closed accepts List.mem_cons_self head fits.1,
            ih (fun other member => closed other (List.mem_cons_of_mem _ member)) fits.2⟩

theorem isUuid_asciiLower {text : JsString} (wellFormed : isUuid text = true) :
    isUuid (text.map asciiLower) = true := by
  simp only [isUuid, Bool.or_eq_true, beq_iff_eq] at wellFormed ⊢
  rcases wellFormed with (fits | rfl) | rfl
  · exact .inl (.inl (fitsShape_asciiLower (fun _ member _ accepted => shape_asciiLower member accepted) fits))
  · exact .inl (.inr (by decide))
  · exact .inr (by decide)

/-- The identifier that a `uuid` column holds after it was given this one. -/
def Id.column (identifier : Id) : Id :=
  ⟨identifier.text.map asciiLower, isUuid_asciiLower identifier.wellFormed⟩

theorem asciiLower_again (unit : UInt16) : asciiLower (asciiLower unit) = asciiLower unit := by
  cases upper : isUpperUnit unit with
  | false => rw [asciiLower_of_not_upper upper, asciiLower_of_not_upper upper]
  | true =>
      have shifted := asciiLower_toNat upper
      refine asciiLower_of_not_upper ?_
      simp only [isUpperUnit, Bool.and_eq_true, decide_eq_true_eq, Bool.and_eq_false_iff,
        decide_eq_false_iff_not] at upper ⊢
      omega

/-- A column reads back what it holds. -/
@[simp]
theorem Id.column_column (identifier : Id) : identifier.column.column = identifier.column := by
  refine Id.ext ?_
  simp only [Id.column, List.map_map]
  exact List.map_congr_left fun unit _ => asciiLower_again unit

/-! ## `Timestamp = z.iso.datetime` -/

/-- Milliseconds of 0000-01-01T00:00:00.000Z. -/
def earliestTimestamp : Int := -62167219200000

/-- Milliseconds of 9999-12-31T23:59:59.999Z. -/
def latestTimestamp : Int := 253402300799999

/-- An instant, in milliseconds, that a four-digit ISO year can express. -/
structure Timestamp where
  ms : Int
  inRange : earliestTimestamp ≤ ms ∧ ms ≤ latestTimestamp
deriving DecidableEq

/-- The instant that `new Date(0)` denotes. -/
def Timestamp.epoch : Timestamp := ⟨0, by decide⟩

def Timestamp.parse (ms : Int) : Option Timestamp :=
  if inRange : earliestTimestamp ≤ ms ∧ ms ≤ latestTimestamp then some ⟨ms, inRange⟩ else none

theorem Timestamp.parse_ms {ms : Int} {timestamp : Timestamp} (parsed : Timestamp.parse ms = some timestamp) :
    timestamp.ms = ms := by
  unfold Timestamp.parse at parsed
  split at parsed
  · cases parsed
    rfl
  · cases parsed

/-! ## Principals and tenants -/

inductive PrincipalKind where
  | human
  | service
deriving DecidableEq

structure PrincipalRef where
  id : Id
  kind : PrincipalKind
deriving DecidableEq

structure TenantRef where
  id : Id
deriving DecidableEq

end KernelJson.Contracts.Common
