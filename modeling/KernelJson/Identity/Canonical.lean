import KernelJson.Foundation.Utf8

/-!
# The canonical text of an identity document

`kerneljson:identity-core/v1` on the side of the worker: a document is refused
when the database could not hold it or would write it differently, and is
otherwise written with the fields of every object in the order of their names.
-/

namespace KernelJson.Identity.Canonical

open Foundation
open Foundation.Json
open Foundation.JsText

/-- `LONE_SURROGATE.test`, after a unit that is, or is not, a high surrogate. -/
def loneSurrogateAfter (high : Bool) : JsString → Bool
  | [] => false
  | unit :: rest =>
      (isHighSurrogate unit && !(rest.head?.any isLowSurrogate)) || (isLowSurrogate unit && !high) ||
        loneSurrogateAfter (isHighSurrogate unit) rest

def hasLoneSurrogate (text : JsString) : Bool := loneSurrogateAfter false text

/-- `Number.isSafeInteger` on an integer. -/
def isSafeInteger (number : Int) : Bool :=
  -9007199254740991 ≤ number && number ≤ 9007199254740991

/-- A text that the database cannot store. -/
def isUnstorable (text : JsString) : Bool :=
  hasLoneSurrogate text || text.contains 0

/-- A key with a character outside ASCII, or NUL; a pair of surrogates is told by its first half. -/
def isForeignKey (key : JsString) : Bool :=
  key.any fun unit => unit.toNat == 0 || 0x7F < unit.toNat

mutual
/-- `assertCanonicalV1(value, path)`, with the message of the refusal that it throws. -/
def assertCanonicalV1 (path : JsString) : Json → Except JsString Unit
  | .null => .ok ()
  | .bool _ => .ok ()
  | .str text => if isUnstorable text then .error (js "IDENTITY_CANONICAL_STRING at " ++ path) else .ok ()
  | .num number => if isSafeInteger number then .ok () else .error (js "IDENTITY_CANONICAL_NON_INTEGER at " ++ path)
  | .real _ => .error (js "IDENTITY_CANONICAL_NON_INTEGER at " ++ path)
  | .arr items => assertItems path 0 items
  | .obj fields => assertFields path fields

def assertItems (path : JsString) (position : Nat) : List Json → Except JsString Unit
  | [] => .ok ()
  | item :: rest => do
      assertCanonicalV1 (path ++ js "[" ++ decimal position ++ js "]") item
      assertItems path (position + 1) rest

def assertFields (path : JsString) : List (JsString × Json) → Except JsString Unit
  | [] => .ok ()
  | (key, item) :: rest =>
      if isForeignKey key then .error (js "IDENTITY_CANONICAL_NON_ASCII_KEY at " ++ path)
      else do
        assertCanonicalV1 (path ++ js "." ++ key) item
        assertFields path rest
end

/-- `identityCoreCanonicalV1(value)`; `canonicalStringify` is the canonical text of a value. -/
def identityCoreCanonicalV1 (value : Json) : Except JsString JsString := do
  assertCanonicalV1 (js "$") value
  .ok value.canonical

/-- `identityCoreDigestV1(value)`. -/
def identityCoreDigestV1 {Digest : Type} (sha256 : List UInt8 → Digest) (value : Json) : Except JsString Digest := do
  let text ← identityCoreCanonicalV1 value
  .ok (sha256 (Utf8.encode text))

/-! ## What is accepted -/

mutual
/-- The documents that are accepted. -/
def Canonical : Json → Prop
  | .null => True
  | .bool _ => True
  | .str text => isUnstorable text = false
  | .num number => isSafeInteger number = true
  | .real _ => False
  | .arr items => CanonicalItems items
  | .obj fields => CanonicalFields fields

def CanonicalItems : List Json → Prop
  | [] => True
  | item :: rest => Canonical item ∧ CanonicalItems rest

def CanonicalFields : List (JsString × Json) → Prop
  | [] => True
  | (key, item) :: rest => isForeignKey key = false ∧ Canonical item ∧ CanonicalFields rest
end

theorem bind_unit_ok {E : Type} {first second : Except E Unit} :
    (do first; second) = .ok () ↔ first = .ok () ∧ second = .ok () := by
  cases first with
  | error refusal => exact ⟨nofun, nofun⟩
  | ok done => exact ⟨fun holds => ⟨rfl, holds⟩, fun holds => holds.2⟩

mutual
/-- Whether a document is accepted does not depend on the path that is reported. -/
theorem assertCanonicalV1_ok (path : JsString) :
    ∀ value, assertCanonicalV1 path value = .ok () ↔ Canonical value
  | .null => ⟨fun _ => trivial, fun _ => rfl⟩
  | .bool _ => ⟨fun _ => trivial, fun _ => rfl⟩
  | .str text => by
      rw [assertCanonicalV1, Canonical]
      cases isUnstorable text with
      | true => exact ⟨nofun, nofun⟩
      | false => exact ⟨fun _ => rfl, fun _ => rfl⟩
  | .num number => by
      rw [assertCanonicalV1, Canonical]
      cases isSafeInteger number with
      | true => exact ⟨fun _ => rfl, fun _ => rfl⟩
      | false => exact ⟨nofun, nofun⟩
  | .real _ => ⟨nofun, nofun⟩
  | .arr items => by
      rw [assertCanonicalV1, Canonical]
      exact assertItems_ok path 0 items
  | .obj fields => by
      rw [assertCanonicalV1, Canonical]
      exact assertFields_ok path fields

theorem assertItems_ok (path : JsString) (position : Nat) :
    ∀ items, assertItems path position items = .ok () ↔ CanonicalItems items
  | [] => ⟨fun _ => trivial, fun _ => rfl⟩
  | item :: rest => by
      rw [assertItems, CanonicalItems, bind_unit_ok, assertCanonicalV1_ok _ item, assertItems_ok path _ rest]

theorem assertFields_ok (path : JsString) :
    ∀ fields, assertFields path fields = .ok () ↔ CanonicalFields fields
  | [] => ⟨fun _ => trivial, fun _ => rfl⟩
  | (key, item) :: rest => by
      rw [assertFields, CanonicalFields]
      cases isForeignKey key with
      | true => exact ⟨nofun, nofun⟩
      | false =>
          rw [if_neg Bool.false_ne_true, bind_unit_ok, assertCanonicalV1_ok _ item, assertFields_ok path rest]
          exact ⟨fun holds => ⟨rfl, holds⟩, fun holds => holds.2⟩
end

theorem identityCoreCanonicalV1_ok {value : Json} {text : JsString} :
    identityCoreCanonicalV1 value = .ok text ↔ Canonical value ∧ text = value.canonical := by
  unfold identityCoreCanonicalV1
  rw [← assertCanonicalV1_ok (js "$") value]
  cases assertCanonicalV1 (js "$") value with
  | error refusal => exact ⟨nofun, nofun⟩
  | ok done => exact ⟨fun holds => ⟨rfl, (Except.ok.inj holds).symm⟩, fun holds => congrArg Except.ok holds.2.symm⟩

/-! ## Texts without lone surrogates -/

theorem not_both (unit : UInt16) : ¬ (isHighSurrogate unit = true ∧ isLowSurrogate unit = true) := by
  simp only [isHighSurrogate, isLowSurrogate, Bool.and_eq_true, decide_eq_true_eq]
  omega

theorem wellFormed_of_paired {text : JsString} :
    (loneSurrogateAfter false text = false → Utf8.WellFormed text) ∧
      (∀ high, isHighSurrogate high = true → text.head?.any isLowSurrogate = true →
        loneSurrogateAfter true text = false → Utf8.WellFormed (high :: text)) := by
  induction text with
  | nil =>
      refine ⟨fun _ => .nil, ?_⟩
      intro high _ follows
      cases follows
  | cons unit rest ih =>
      have tail : loneSurrogateAfter (isHighSurrogate unit) rest = false →
          (isHighSurrogate unit && !(rest.head?.any isLowSurrogate)) = false →
            isLowSurrogate unit = false → Utf8.WellFormed (unit :: rest) := by
        intro clean paired notLow
        cases surrogate : isHighSurrogate unit with
        | false =>
            rw [surrogate] at clean
            exact .unit (by rw [surrogate, notLow]; rfl) (ih.1 clean)
        | true =>
            rw [surrogate] at clean paired
            rw [Bool.true_and, Bool.not_eq_false'] at paired
            exact ih.2 unit surrogate paired clean
      refine ⟨?_, ?_⟩
      · intro clean
        rw [loneSurrogateAfter] at clean
        obtain ⟨first, later⟩ := Bool.or_eq_false_iff.mp clean
        obtain ⟨paired, unpreceded⟩ := Bool.or_eq_false_iff.mp first
        rw [Bool.not_false, Bool.and_true] at unpreceded
        exact tail later paired unpreceded
      · intro high isHigh follows clean
        rw [loneSurrogateAfter] at clean
        obtain ⟨first, later⟩ := Bool.or_eq_false_iff.mp clean
        have low : isLowSurrogate unit = true := follows
        have notHigh : isHighSurrogate unit = false := by
          by_contra both
          exact not_both unit ⟨(Bool.not_eq_false _).mp both, low⟩
        rw [notHigh] at later
        exact .pair isHigh low (ih.1 later)

theorem wellFormed_of_storable {text : JsString} (storable : isUnstorable text = false) : Utf8.WellFormed text :=
  wellFormed_of_paired.1 (Bool.or_eq_false_iff.mp storable).1

theorem zero_notMem_of_storable {text : JsString} (storable : isUnstorable text = false) : 0 ∉ text := by
  have absent := (Bool.or_eq_false_iff.mp storable).2
  rw [List.contains_eq_mem, decide_eq_false_iff_not] at absent
  exact absent

theorem loneSurrogateAfter_of_wellFormed {text : JsString} (wellFormed : Utf8.WellFormed text) :
    loneSurrogateAfter false text = false := by
  have plain_step : ∀ {unit : UInt16} {rest : JsString}, (isHighSurrogate unit || isLowSurrogate unit) = false →
      loneSurrogateAfter false (unit :: rest) = loneSurrogateAfter false rest := by
    intro unit rest plain
    obtain ⟨notHigh, notLow⟩ := Bool.or_eq_false_iff.mp plain
    rw [loneSurrogateAfter, notHigh, notLow]
    rfl
  induction wellFormed with
  | nil => rfl
  | unit plain tail ih => rw [plain_step plain, ih]
  | @pair high low rest first second tail ih =>
      have notLow : isLowSurrogate high = false := by
        by_contra both
        exact not_both high ⟨first, (Bool.not_eq_false _).mp both⟩
      have notHigh : isHighSurrogate low = false := by
        by_contra both
        exact not_both low ⟨(Bool.not_eq_false _).mp both, second⟩
      have follows : (low :: rest).head?.any isLowSurrogate = true := second
      rw [loneSurrogateAfter, first, notLow, follows, loneSurrogateAfter, notHigh, second, ih]
      rfl

end KernelJson.Identity.Canonical
