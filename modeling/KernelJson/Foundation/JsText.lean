import Mathlib.Data.List.Basic
import Mathlib.Data.List.DropRight
import Mathlib.Data.List.TakeWhile
import Mathlib.Data.Nat.Digits.Lemmas

/-!
# Text as UTF-16 code units

An ECMAScript string is a finite sequence of 16-bit code units, and its length,
slices and comparisons count units rather than characters.  This module fixes
that carrier, the decimal renderings that template literals produce, white space
and its removal, and the separator lemmas from which composite keys are shown to
be injective.
-/

namespace KernelJson.Foundation.JsText

abbrev JsString := List UInt16

instance decidableMem (text : JsString) (texts : List JsString) : Decidable (text ∈ texts) :=
  List.instDecidableMemOfLawfulBEq text texts

/-- The UTF-16 encoding of one scalar value: one unit, or a surrogate pair. -/
def codeUnits (scalar : Char) : JsString :=
  if scalar.toNat < 0x10000 then [UInt16.ofNat scalar.toNat]
  else
    let offset := scalar.toNat - 0x10000
    [UInt16.ofNat (0xD800 + offset / 0x400), UInt16.ofNat (0xDC00 + offset % 0x400)]

/-- The code units of a source literal. -/
def js (literal : String) : JsString :=
  literal.toList.flatMap codeUnits

/-- A literal is rewritten by this into units that the kernel computes character by character. -/
theorem js_ofList (chars : List Char) : js (String.ofList chars) = chars.flatMap codeUnits := by
  rw [js, String.toList_ofList]

theorem length_codeUnits_le (scalar : Char) : (codeUnits scalar).length ≤ 2 := by
  unfold codeUnits
  split
  · exact Nat.le_succ 1
  · exact le_refl 2

/-- A literal has at most two units for each of its characters. -/
theorem length_js_ofList_le (chars : List Char) {most : Nat} (short : 2 * chars.length ≤ most) :
    (js (String.ofList chars)).length ≤ most := by
  have each : (chars.flatMap codeUnits).length ≤ 2 * chars.length := by
    induction chars with
    | nil => exact Nat.zero_le _
    | cons first rest ih =>
        have here := length_codeUnits_le first
        have more := ih (by rw [List.length_cons] at short; omega)
        rw [List.flatMap_cons, List.length_append, List.length_cons]
        omega
  rw [js_ofList]
  exact each.trans short

/-! ## Decimal renderings -/

def digitUnit (digit : Nat) : UInt16 :=
  UInt16.ofNat (48 + digit)

/-- Decimal digits, most significant first; zero has the single digit `0`. -/
def decimalDigits (number : Nat) : List Nat :=
  if number = 0 then [0] else (Nat.digits 10 number).reverse

/-- `String(n)` for a natural number. -/
def decimal (number : Nat) : JsString :=
  (decimalDigits number).map digitUnit

/-- `String(n)` for an integer. -/
def signedDecimal (number : Int) : JsString :=
  match number with
  | .ofNat magnitude => decimal magnitude
  | .negSucc magnitude => 45 :: decimal (magnitude + 1)

/-- `text.padStart(width, "0")`. -/
def padStartZero (width : Nat) (text : JsString) : JsString :=
  List.replicate (width - text.length) (digitUnit 0) ++ text

def IsDigitUnit (unit : UInt16) : Prop :=
  48 ≤ unit.toNat ∧ unit.toNat ≤ 57

theorem digitUnit_toNat {digit : Nat} (small : digit < 10) :
    (digitUnit digit).toNat = 48 + digit := by
  simp only [digitUnit, UInt16.toNat_ofNat']
  omega

theorem digitUnit_isDigit {digit : Nat} (small : digit < 10) :
    IsDigitUnit (digitUnit digit) := by
  unfold IsDigitUnit
  rw [digitUnit_toNat small]
  omega

theorem digitUnit_inj {first second : Nat} (firstSmall : first < 10) (secondSmall : second < 10)
    (same : digitUnit first = digitUnit second) : first = second := by
  have units := congrArg UInt16.toNat same
  rw [digitUnit_toNat firstSmall, digitUnit_toNat secondSmall] at units
  omega

theorem decimalDigits_small {number digit : Nat} (found : digit ∈ decimalDigits number) :
    digit < 10 := by
  unfold decimalDigits at found
  split at found
  · rw [List.mem_singleton] at found
    omega
  · exact Nat.digits_lt_base (by decide) (List.mem_reverse.mp found)

/-- The digits determine the number they were taken from. -/
theorem ofDigits_decimalDigits (number : Nat) :
    Nat.ofDigits 10 (decimalDigits number).reverse = number := by
  unfold decimalDigits
  split
  · next zero => simp [zero]
  · rw [List.reverse_reverse, Nat.ofDigits_digits]

theorem isDigit_of_mem_decimal {number : Nat} {unit : UInt16} (found : unit ∈ decimal number) :
    IsDigitUnit unit := by
  obtain ⟨digit, member, rfl⟩ := List.mem_map.mp found
  exact digitUnit_isDigit (decimalDigits_small member)

/-- How many digits a number takes. -/
theorem length_decimal_le_iff {number count : Nat} (some_ : 1 ≤ count) :
    (decimal number).length ≤ count ↔ number < 10 ^ count := by
  rw [decimal, List.length_map, decimalDigits]
  split
  · next zero =>
      subst zero
      simp only [List.length_singleton]
      exact ⟨fun _ => by positivity, fun _ => some_⟩
  · rw [List.length_reverse]
    exact Nat.digits_length_le_iff (by decide) number

theorem length_decimal_le {number count : Nat} (some_ : 1 ≤ count) (small : number < 10 ^ count) :
    (decimal number).length ≤ count :=
  (length_decimal_le_iff some_).mpr small

theorem decimal_ne_nil (number : Nat) : decimal number ≠ [] := by
  unfold decimal decimalDigits
  split
  · simp
  · next positive =>
      simpa [Nat.digits_eq_nil_iff_eq_zero] using positive

private theorem map_digitUnit_inj {first second : List Nat}
    (firstSmall : ∀ digit ∈ first, digit < 10) (secondSmall : ∀ digit ∈ second, digit < 10)
    (same : first.map digitUnit = second.map digitUnit) : first = second := by
  induction first generalizing second with
  | nil => simpa using same.symm
  | cons head tail ih =>
      cases second with
      | nil => simp at same
      | cons other rest =>
          obtain ⟨heads, tails⟩ := List.cons.inj same
          have headSame : head = other :=
            digitUnit_inj (firstSmall head List.mem_cons_self) (secondSmall other List.mem_cons_self) heads
          have tailSame : tail = rest :=
            ih (fun digit member => firstSmall digit (List.mem_cons_of_mem _ member))
              (fun digit member => secondSmall digit (List.mem_cons_of_mem _ member)) tails
          rw [headSame, tailSame]

theorem decimal_injective : Function.Injective decimal := by
  intro first second same
  have digits : decimalDigits first = decimalDigits second :=
    map_digitUnit_inj (fun _ found => decimalDigits_small found)
      (fun _ found => decimalDigits_small found) same
  rw [← ofDigits_decimalDigits first, digits, ofDigits_decimalDigits]

/-- Every unit of a signed rendering is a digit or the minus sign. -/
theorem mem_signedDecimal {number : Int} {unit : UInt16} (found : unit ∈ signedDecimal number) :
    unit = 45 ∨ IsDigitUnit unit := by
  cases number with
  | ofNat magnitude => exact Or.inr (isDigit_of_mem_decimal found)
  | negSucc magnitude =>
      rcases List.mem_cons.mp found with minus | digit
      · exact Or.inl minus
      · exact Or.inr (isDigit_of_mem_decimal digit)

theorem signedDecimal_ne_nil (number : Int) : signedDecimal number ≠ [] := by
  cases number with
  | ofNat magnitude => exact decimal_ne_nil magnitude
  | negSucc magnitude => exact List.cons_ne_nil _ _

theorem isDigit_of_mem_padStartZero {width number : Nat} {unit : UInt16}
    (found : unit ∈ padStartZero width (decimal number)) : IsDigitUnit unit := by
  rcases List.mem_append.mp found with padding | digit
  · rw [(List.mem_replicate.mp padding).2]
    exact digitUnit_isDigit (by decide)
  · exact isDigit_of_mem_decimal digit

/-- The number that a text of digits denotes. -/
def readDigits (text : JsString) : Nat :=
  text.foldl (fun total unit => total * 10 + (unit.toNat - 48)) 0

theorem readDigits_zeros (count : Nat) (text : JsString) :
    readDigits (List.replicate count (digitUnit 0) ++ text) = readDigits text := by
  induction count with
  | zero => rfl
  | succ count ih =>
      rw [List.replicate_succ, List.cons_append, readDigits, List.foldl_cons]
      exact ih

theorem readDigits_decimal (number : Nat) : readDigits (decimal number) = number := by
  have digits : ∀ found ∈ decimalDigits number, found < 10 := fun _ member => decimalDigits_small member
  have folded : ∀ (left : List Nat) (start : Nat), (∀ found ∈ left, found < 10) →
      (left.map digitUnit).foldl (fun total unit => total * 10 + (unit.toNat - 48)) start =
        left.foldl (fun total digit => total * 10 + digit) start := by
    intro left
    induction left with
    | nil => exact fun _ _ => rfl
    | cons digit rest ih =>
        intro start small
        have here : (digitUnit digit).toNat - 48 = digit := by
          rw [digitUnit_toNat (small digit List.mem_cons_self)]
          omega
        rw [List.map_cons, List.foldl_cons, List.foldl_cons, here]
        exact ih _ fun found member => small found (List.mem_cons_of_mem _ member)
  rw [readDigits, decimal, folded _ _ digits]
  have value := ofDigits_decimalDigits number
  rw [Nat.ofDigits_eq_foldr, List.foldr_reverse] at value
  simpa [Nat.mul_comm, Nat.add_comm] using value

theorem readDigits_padStartZero (width number : Nat) :
    readDigits (padStartZero width (decimal number)) = number := by
  rw [padStartZero, readDigits_zeros, readDigits_decimal]

/-! ## Separators -/

/-- A separator absent from both left parts determines where each text splits. -/
theorem split_at_first {α : Type} {separator : α} {left left' right right' : List α}
    (absent : separator ∉ left) (absent' : separator ∉ left')
    (same : left ++ separator :: right = left' ++ separator :: right') :
    left = left' ∧ right = right' := by
  induction left generalizing left' with
  | nil =>
      cases left' with
      | nil => exact ⟨rfl, (List.cons.inj same).2⟩
      | cons head tail =>
          have heads := (List.cons.inj same).1
          exact absurd (heads ▸ List.mem_cons_self) absent'
  | cons head tail ih =>
      cases left' with
      | nil =>
          have heads := (List.cons.inj same).1
          exact absurd (heads ▸ List.mem_cons_self) absent
      | cons other rest =>
          obtain ⟨heads, tails⟩ := List.cons.inj same
          obtain ⟨lefts, rights⟩ :=
            ih (fun member => absent (List.mem_cons_of_mem _ member))
              (fun member => absent' (List.mem_cons_of_mem _ member)) tails
          exact ⟨by rw [heads, lefts], rights⟩

/-- A separator absent from both right parts determines the last split. -/
theorem split_at_last {α : Type} {separator : α} {left left' right right' : List α}
    (absent : separator ∉ right) (absent' : separator ∉ right')
    (same : left ++ separator :: right = left' ++ separator :: right') :
    left = left' ∧ right = right' := by
  have reversed := congrArg List.reverse same
  simp only [List.reverse_append, List.reverse_cons, List.append_assoc, List.singleton_append] at reversed
  obtain ⟨rights, lefts⟩ :=
    split_at_first (fun member => absent (List.mem_reverse.mp member))
      (fun member => absent' (List.mem_reverse.mp member)) reversed
  exact ⟨List.reverse_injective lefts, List.reverse_injective rights⟩

/-! ## White space and letters -/

/-- The units that `trim` removes and `\s` matches. -/
def isSpace (unit : UInt16) : Bool :=
  [9, 10, 11, 12, 13, 32, 0xA0, 0x1680, 0x2028, 0x2029, 0x202F, 0x205F, 0x3000, 0xFEFF].contains unit.toNat
    || (0x2000 ≤ unit.toNat && unit.toNat ≤ 0x200A)

/-- `text.trim()`. -/
def trim (text : JsString) : JsString :=
  (text.dropWhile isSpace).rdropWhile isSpace

theorem trim_last {text : JsString} {last : UInt16} (found : (trim text).getLast? = some last) :
    isSpace last = false := by
  have nonempty : trim text ≠ [] := by
    intro empty
    rw [empty] at found
    cases found
  rw [List.getLast?_eq_some_getLast nonempty] at found
  have kept := List.rdropWhile_last_not isSpace (text.dropWhile isSpace) nonempty
  exact Option.some.inj found ▸ Bool.eq_false_iff.mpr kept

theorem trim_trim (text : JsString) : trim (trim text) = trim text := by
  have start : (trim text).dropWhile isSpace = trim text := by
    rw [List.dropWhile_eq_self_iff]
    intro nonempty
    have shorter := (List.rdropWhile_prefix isSpace (text.dropWhile isSpace)).length_le
    have present : 0 < (text.dropWhile isSpace).length := lt_of_lt_of_le nonempty shorter
    have visible := List.dropWhile_get_zero_not isSpace text present
    have first : (trim text)[0] = (text.dropWhile isSpace)[0] :=
      (List.rdropWhile_prefix isSpace (text.dropWhile isSpace)).getElem nonempty
    rw [first]
    exact visible
  calc
    trim (trim text) = (trim text).rdropWhile isSpace := by rw [trim, start]
    _ = trim text := List.rdropWhile_idempotent isSpace (text.dropWhile isSpace)

/-- A text that starts with a visible unit is trimmed as it stands unless it ends in white space. -/
theorem trim_eq_self_iff {first : UInt16} {rest : JsString} (visible : isSpace first = false) :
    trim (first :: rest) = first :: rest ↔ isSpace ((first :: rest).getLast (List.cons_ne_nil _ _)) = false := by
  have start : (first :: rest).dropWhile isSpace = first :: rest := by
    rw [List.dropWhile_cons_of_neg (Bool.eq_false_iff.mp visible)]
  rw [trim, start, List.rdropWhile_eq_self_iff]
  exact ⟨fun kept => Bool.eq_false_iff.mpr (kept _), fun kept _ => Bool.eq_false_iff.mp kept⟩

def isDigitUnit (unit : UInt16) : Bool :=
  48 ≤ unit.toNat && unit.toNat ≤ 57

def isUpperUnit (unit : UInt16) : Bool :=
  65 ≤ unit.toNat && unit.toNat ≤ 90

def isLowerUnit (unit : UInt16) : Bool :=
  97 ≤ unit.toNat && unit.toNat ≤ 122

def isAlphanumericUnit (unit : UInt16) : Bool :=
  isDigitUnit unit || isUpperUnit unit || isLowerUnit unit

/-- The lower-case form of an ASCII letter; other units stay. -/
def asciiLower (unit : UInt16) : UInt16 :=
  if isUpperUnit unit then unit + 32 else unit

/-- The upper-case form of an ASCII letter; other units stay. -/
def asciiUpper (unit : UInt16) : UInt16 :=
  if isLowerUnit unit then unit - 32 else unit

end KernelJson.Foundation.JsText
