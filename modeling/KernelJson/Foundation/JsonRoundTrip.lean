import KernelJson.Foundation.JsonParse
import KernelJson.Foundation.Utf8

/-!
# JSON texts are read back

`JSON.parse(JSON.stringify(value))` is the value again, when no object of it
repeats a name and the platform reads every integer of it as it was written.
The text has no unpaired surrogate, since those are written as escapes.
-/

namespace KernelJson.Foundation.JsonRoundTrip

open Foundation.JsText
open Foundation.Json
open Foundation.JsonParse
open Foundation.Utf8

/-! ## Strings -/

theorem hexValue_hexUnit (digit : Fin 16) : hexValue (hexUnit digit) = some digit.val := by
  have all : ∀ digit : Fin 16, hexValue (hexUnit digit) = some digit.val := by decide
  exact all digit

theorem hexUnitOf_digits (unit : UInt16) :
    hexUnitOf (hexUnit (hexDigitAt unit 3)) (hexUnit (hexDigitAt unit 2)) (hexUnit (hexDigitAt unit 1))
      (hexUnit (hexDigitAt unit 0)) = some unit := by
  have bound := UInt16.toNat_lt unit
  have total : (((hexDigitAt unit 3).val * 16 + (hexDigitAt unit 2).val) * 16 + (hexDigitAt unit 1).val) * 16 +
      (hexDigitAt unit 0).val = unit.toNat := by
    simp only [hexDigitAt, Fin.ofNat]
    omega
  simp only [hexUnitOf, hexValue_hexUnit, Option.bind_eq_bind, Option.bind_some, total, UInt16.ofNat_toNat]

/-- An escape by four hexadecimal digits is read back as the unit. -/
theorem parseString_unicodeEscape (unit : UInt16) (text : JsString) :
    parseString (unicodeEscape unit ++ text) = (parseString text).map (consUnit unit) := by
  have shape : unicodeEscape unit ++ text = 92 :: 117 :: hexUnit (hexDigitAt unit 3) ::
      hexUnit (hexDigitAt unit 2) :: hexUnit (hexDigitAt unit 1) :: hexUnit (hexDigitAt unit 0) :: text := rfl
  rw [shape, parseString.eq_def]
  simp only [if_neg (show (92 : UInt16) ≠ 34 by decide), if_true, hexUnitOf_digits, Option.bind_eq_bind,
    Option.bind_some]

theorem parseString_letter {letter unit : UInt16} (simple : simpleEscape letter = some unit)
    (notUnicode : letter ≠ 117) (text : JsString) :
    parseString (92 :: letter :: text) = (parseString text).map (consUnit unit) := by
  rw [parseString.eq_def]
  simp only [if_neg (show (92 : UInt16) ≠ 34 by decide), if_true, if_neg notUnicode, simple, Option.bind_eq_bind,
    Option.bind_some]

theorem parseString_plain {unit : UInt16} (notQuote : unit ≠ 34) (notBackslash : unit ≠ 92)
    (printable : ¬ unit.toNat < 0x20) (text : JsString) :
    parseString (unit :: text) = (parseString text).map (consUnit unit) := by
  rw [parseString.eq_def]
  simp only [if_neg notQuote, if_neg notBackslash, if_neg printable]

theorem parseString_escapeUnit (unit : UInt16) (text : JsString) :
    parseString (escapeUnit unit ++ text) = (parseString text).map (consUnit unit) := by
  unfold escapeUnit
  split
  · next backspace => exact backspace ▸ parseString_letter rfl (by decide) text
  split
  · next tab => exact tab ▸ parseString_letter rfl (by decide) text
  split
  · next newline => exact newline ▸ parseString_letter rfl (by decide) text
  split
  · next formFeed => exact formFeed ▸ parseString_letter rfl (by decide) text
  split
  · next carriageReturn => exact carriageReturn ▸ parseString_letter rfl (by decide) text
  split
  · next quotation => exact quotation ▸ parseString_letter rfl (by decide) text
  split
  · next backslash => exact backslash ▸ parseString_letter rfl (by decide) text
  split
  · exact parseString_unicodeEscape unit text
  · next notQuote notBackslash printable => exact parseString_plain notQuote notBackslash printable text

theorem parseString_quote (rest : JsString) : parseString (34 :: rest) = some ([], rest) := by
  rw [parseString.eq_def]
  simp only [if_true]

theorem parseString_surrogate {unit : UInt16} (surrogate : (isHighSurrogate unit || isLowSurrogate unit) = true)
    (text : JsString) : parseString (unit :: text) = (parseString text).map (consUnit unit) := by
  have large : 0xD800 ≤ unit.toNat := by
    simp only [isHighSurrogate, isLowSurrogate, Bool.or_eq_true, Bool.and_eq_true, decide_eq_true_eq] at surrogate
    omega
  refine parseString_plain ?_ ?_ (by omega) text
  · rintro rfl
    exact absurd large (by decide)
  · rintro rfl
    exact absurd large (by decide)

/-- The body of a quoted text is read back up to the closing quote. -/
theorem parseString_escape (text rest : JsString) :
    parseString (escape text ++ 34 :: rest) = some (text, rest) := by
  induction text using escape.induct with
  | case1 => exact parseString_quote rest
  | case2 unit surrogate =>
      rw [escape, if_pos surrogate, parseString_unicodeEscape, parseString_quote]
      rfl
  | case3 unit plain =>
      rw [escape, if_neg plain, parseString_escapeUnit, parseString_quote]
      rfl
  | case4 high low tail paired ih =>
      obtain ⟨first, second⟩ := Bool.and_eq_true_iff.mp paired
      rw [escape, if_pos paired, List.cons_append, List.cons_append,
        parseString_surrogate (Bool.or_eq_true_iff.mpr (.inl first)),
        parseString_surrogate (Bool.or_eq_true_iff.mpr (.inr second)), ih]
      rfl
  | case5 unit next tail unpaired surrogate ih =>
      rw [escape, if_neg unpaired, if_pos surrogate, List.append_assoc, parseString_unicodeEscape, ih]
      rfl
  | case6 unit next tail unpaired plain ih =>
      rw [escape, if_neg unpaired, if_neg plain, List.append_assoc, parseString_escapeUnit, ih]
      rfl

/-! ## Numerals -/

/-- What may follow a value: nothing of which a numeral could go on. -/
def Ends (text : JsString) : Prop :=
  ∀ unit, text.head? = some unit → isDigitUnit unit = false ∧ unit ≠ 46 ∧ unit ≠ 101 ∧ unit ≠ 69

theorem ends_cons {unit : UInt16} (stops : isDigitUnit unit = false ∧ unit ≠ 46 ∧ unit ≠ 101 ∧ unit ≠ 69)
    (rest : JsString) : Ends (unit :: rest) := by
  intro other here
  cases here
  exact stops

theorem ends_nil : Ends [] := by
  intro unit here
  cases here

theorem isDigitUnit_of_mem_decimal {number : Nat} {unit : UInt16} (member : unit ∈ decimal number) :
    isDigitUnit unit = true := by
  obtain ⟨lower, upper⟩ := isDigit_of_mem_decimal member
  simp only [isDigitUnit, Bool.and_eq_true, decide_eq_true_eq]
  exact ⟨lower, upper⟩

theorem digits_decimal (number : Nat) {rest : JsString} (ends : Ends rest) :
    digits (decimal number ++ rest) = (decimal number, rest) := by
  have all : ∀ unit ∈ decimal number, isDigitUnit unit = true := fun _ member => isDigitUnit_of_mem_decimal member
  have stopped : rest.takeWhile isDigitUnit = [] ∧ rest.dropWhile isDigitUnit = rest := by
    cases rest with
    | nil => exact ⟨rfl, rfl⟩
    | cons unit rest =>
        have stop := Bool.eq_false_iff.mp (ends unit rfl).1
        exact ⟨List.takeWhile_cons_of_neg stop, List.dropWhile_cons_of_neg stop⟩
  rw [digits, List.takeWhile_append_of_pos all, List.dropWhile_append_of_pos all, stopped.1, stopped.2,
    List.append_nil]

/-- A decimal rendering starts with no zero, unless it is the numeral of zero. -/
theorem decimal_head (number : Nat) : ¬ ((decimal number).head? = some 48 ∧ (decimal number).length ≠ 1) := by
  rintro ⟨zero, long⟩
  unfold decimal decimalDigits at zero long
  split at zero
  · next isZero =>
      rw [if_pos isZero] at long
      exact long rfl
  · next positive =>
      rw [List.head?_map, List.head?_reverse] at zero
      obtain ⟨digit, last, unit⟩ := Option.map_eq_some_iff.mp zero
      have nonempty : Nat.digits 10 number ≠ [] := Nat.digits_ne_nil_iff_ne_zero.mpr positive
      rw [List.getLast?_eq_some_getLast nonempty] at last
      have small := Nat.digits_lt_base (by decide) (List.getLast_mem nonempty)
      have nonzero := Nat.getLast_digit_ne_zero 10 positive
      rw [Option.some.inj last] at small nonzero
      have isZero : digit = 0 := digitUnit_inj small (by decide) unit
      exact nonzero isZero

theorem integerPart_decimal (number : Nat) {rest : JsString} (ends : Ends rest) :
    integerPart (decimal number ++ rest) = some (decimal number, rest) := by
  have present : someDigits (decimal number ++ rest) = some (decimal number, rest) := by
    rw [someDigits, digits_decimal number ends, if_neg (decimal_ne_nil number)]
  rw [integerPart, present]
  exact if_neg (decimal_head number)

theorem fractionPart_ends {rest : JsString} (ends : Ends rest) : fractionPart rest = some ([], rest) := by
  rw [fractionPart, if_neg]
  intro stop
  exact (ends 46 stop).2.1 rfl

theorem exponentPart_ends {rest : JsString} (ends : Ends rest) : exponentPart rest = some ([], rest) := by
  cases rest with
  | nil => rfl
  | cons unit rest =>
      obtain ⟨-, -, lower, upper⟩ := ends unit rfl
      simp [exponentPart, lower, upper]

/-- An integer is read up to the end of its rendering. -/
theorem parseNumeral_signedDecimal (number : Int) {rest : JsString} (ends : Ends rest) :
    parseNumeral (signedDecimal number ++ rest) = some (signedDecimal number, rest) := by
  cases number with
  | ofNat magnitude =>
      have sign : signPart (js "-") (decimal magnitude ++ rest) = ([], decimal magnitude ++ rest) := by
        cases written : decimal magnitude with
        | nil => exact absurd written (decimal_ne_nil magnitude)
        | cons unit tail =>
            have digit : isDigitUnit unit = true :=
              isDigitUnit_of_mem_decimal (written ▸ List.mem_cons_self)
            rw [List.cons_append, signPart, if_neg]
            intro minus
            have same : unit = 45 := by simpa [js, codeUnits] using minus
            rw [same] at digit
            exact absurd digit (by decide)
      simp only [signedDecimal, parseNumeral, sign, integerPart_decimal magnitude ends, fractionPart_ends ends,
        exponentPart_ends ends, Option.bind_eq_bind, Option.bind_some, List.append_nil, List.nil_append]
  | negSucc magnitude =>
      have sign : signPart (js "-") (45 :: decimal (magnitude + 1) ++ rest) =
          ([45], decimal (magnitude + 1) ++ rest) := rfl
      simp only [signedDecimal, parseNumeral, sign, integerPart_decimal (magnitude + 1) ends, fractionPart_ends ends,
        exponentPart_ends ends, Option.bind_eq_bind, Option.bind_some, List.append_nil, List.singleton_append]

/-- Digits are read up to the same place when more follows them. -/
theorem digits_append (text : JsString) {rest : JsString} (ends : Ends rest) :
    digits (text ++ rest) = ((digits text).1, (digits text).2 ++ rest) := by
  induction text with
  | nil =>
      cases rest with
      | nil => rfl
      | cons unit rest =>
          have stop := Bool.eq_false_iff.mp (ends unit rfl).1
          exact Prod.ext (List.takeWhile_cons_of_neg stop) (List.dropWhile_cons_of_neg stop)
  | cons unit text ih =>
      obtain ⟨taken, dropped⟩ := Prod.mk.inj ih
      by_cases digit : isDigitUnit unit = true
      · simp only [digits, List.cons_append, List.takeWhile_cons_of_pos digit, List.dropWhile_cons_of_pos digit,
          taken, dropped]
      · simp only [digits, List.cons_append, List.takeWhile_cons_of_neg digit, List.dropWhile_cons_of_neg digit]

theorem someDigits_append {text body remaining rest : JsString} (ends : Ends rest)
    (read : someDigits text = some (body, remaining)) : someDigits (text ++ rest) = some (body, remaining ++ rest) := by
  unfold someDigits at read ⊢
  rw [digits_append text ends]
  split at read
  · cases read
  · next present =>
      cases read
      exact if_neg present

theorem integerPart_append {text body remaining rest : JsString} (ends : Ends rest)
    (read : integerPart text = some (body, remaining)) :
    integerPart (text ++ rest) = some (body, remaining ++ rest) := by
  obtain ⟨⟨found, left⟩, run, checked⟩ := Option.bind_eq_some_iff.mp read
  unfold integerPart
  rw [someDigits_append ends run]
  simp only at checked
  split at checked
  · cases checked
  · next plain =>
      cases checked
      exact if_neg plain

theorem fractionPart_append {text body remaining rest : JsString} (ends : Ends rest)
    (read : fractionPart text = some (body, remaining)) :
    fractionPart (text ++ rest) = some (body, remaining ++ rest) := by
  cases text with
  | nil =>
      cases read
      exact fractionPart_ends ends
  | cons unit text =>
      unfold fractionPart at read ⊢
      split at read
      · next point =>
          obtain ⟨⟨found, left⟩, run, same⟩ := Option.map_eq_some_iff.mp read
          cases same
          have longer : someDigits (text ++ rest) = some (found, left ++ rest) := someDigits_append ends run
          rw [if_pos (show ((unit :: text) ++ rest).head? = some 46 from point), List.cons_append, List.tail_cons,
            longer]
          rfl
      · next other =>
          cases read
          exact if_neg other

theorem signPart_append {signs text rest : JsString} (nonempty : text ≠ []) :
    signPart signs (text ++ rest) = ((signPart signs text).1, (signPart signs text).2 ++ rest) := by
  cases text with
  | nil => exact absurd rfl nonempty
  | cons unit text =>
      simp only [signPart, List.cons_append]
      split
      · rfl
      · rfl

theorem exponentPart_append {text body remaining rest : JsString} (ends : Ends rest)
    (read : exponentPart text = some (body, remaining)) :
    exponentPart (text ++ rest) = some (body, remaining ++ rest) := by
  cases text with
  | nil =>
      cases read
      exact exponentPart_ends ends
  | cons mark text =>
      simp only [exponentPart, List.cons_append] at read ⊢
      split at read
      · next marked =>
          obtain ⟨⟨found, left⟩, run, same⟩ := Option.map_eq_some_iff.mp read
          cases same
          have nonempty : text ≠ [] := by
            rintro rfl
            cases run
          rw [if_pos marked, signPart_append nonempty]
          simp only [someDigits_append ends run, Option.map_some]
      · next other =>
          cases read
          exact if_neg other

/-- A numeral is read up to the same place when nothing follows of which it could go on. -/
theorem parseNumeral_append {text literal remaining rest : JsString} (ends : Ends rest)
    (read : parseNumeral text = some (literal, remaining)) :
    parseNumeral (text ++ rest) = some (literal, remaining ++ rest) := by
  simp only [parseNumeral, Option.bind_eq_bind, Option.bind_eq_some_iff, Prod.exists] at read
  obtain ⟨whole, afterWhole, first, fraction, afterFraction, second, exponent, afterExponent, third, same⟩ := read
  cases same
  have nonempty : text ≠ [] := by
    rintro rfl
    cases first
  simp only [parseNumeral, signPart_append nonempty, integerPart_append ends first, fractionPart_append ends second,
    exponentPart_append ends third, Option.bind_eq_bind, Option.bind_some]

/-- A numeral starts with a minus or a digit. -/
theorem starts_numeral {literal remaining : JsString} {text : JsString}
    (read : parseNumeral text = some (literal, remaining)) :
    ∃ head tail, text = head :: tail ∧ (head = 45 ∨ isDigitUnit head = true) := by
  cases text with
  | nil => cases read
  | cons head tail =>
      refine ⟨head, tail, rfl, ?_⟩
      by_cases minus : head = 45
      · exact .inl minus
      · refine .inr ?_
        have sign : signPart (js "-") (head :: tail) = ([], head :: tail) := by
          rw [signPart, if_neg]
          intro found
          exact minus (by simpa [js, codeUnits] using found)
        by_contra letter
        have nothing : integerPart (head :: tail) = none := by
          simp only [integerPart, someDigits, digits, List.takeWhile_cons_of_neg letter, if_true,
            Option.bind_eq_bind, Option.bind_none]
        simp only [parseNumeral, sign, nothing, Option.bind_eq_bind, Option.bind_none] at read
        cases read

/-! ## Values -/

variable {numeral : JsString → Option Int}

mutual
/-- No object repeats a name, and the platform reads every integer as it is written. -/
def Readable (numeral : JsString → Option Int) : Json → Prop
  | .null => True
  | .bool _ => True
  | .num value => numeral (signedDecimal value) = some value
  | .real _ => False
  | .str _ => True
  | .arr items => ReadableItems numeral items
  | .obj fields => (fields.map Prod.fst).Nodup ∧ ReadableFields numeral fields

def ReadableItems (numeral : JsString → Option Int) : List Json → Prop
  | [] => True
  | item :: rest => Readable numeral item ∧ ReadableItems numeral rest

def ReadableFields (numeral : JsString → Option Int) : List (JsString × Json) → Prop
  | [] => True
  | (_, value) :: rest => Readable numeral value ∧ ReadableFields numeral rest
end

mutual
/-- No object repeats a name, and the platform reads every number as it is written. -/
def Legible (numeral : JsString → Option Int) : Json → Prop
  | .null => True
  | .bool _ => True
  | .num value => numeral (signedDecimal value) = some value
  | .real literal => parseNumeral literal = some (literal, []) ∧ numeral literal = none
  | .str _ => True
  | .arr items => LegibleItems numeral items
  | .obj fields => (fields.map Prod.fst).Nodup ∧ LegibleFields numeral fields

def LegibleItems (numeral : JsString → Option Int) : List Json → Prop
  | [] => True
  | item :: rest => Legible numeral item ∧ LegibleItems numeral rest

def LegibleFields (numeral : JsString → Option Int) : List (JsString × Json) → Prop
  | [] => True
  | (_, value) :: rest => Legible numeral value ∧ LegibleFields numeral rest
end

mutual
theorem Readable.legible : ∀ value : Json, Readable numeral value → Legible numeral value
  | .null, _ => trivial
  | .bool _, _ => trivial
  | .num _, readable => readable
  | .real _, readable => absurd readable id
  | .str _, _ => trivial
  | .arr items, readable => ReadableItems.legible items readable
  | .obj fields, readable => ⟨readable.1, ReadableFields.legible fields readable.2⟩

theorem ReadableItems.legible : ∀ items : List Json, ReadableItems numeral items → LegibleItems numeral items
  | [], _ => trivial
  | item :: rest, readable => ⟨Readable.legible item readable.1, ReadableItems.legible rest readable.2⟩

theorem ReadableFields.legible : ∀ fields : List (JsString × Json), ReadableFields numeral fields →
    LegibleFields numeral fields
  | [], _ => trivial
  | (_, value) :: rest, readable => ⟨Readable.legible value readable.1, ReadableFields.legible rest readable.2⟩
end

/-- How the text of a value starts: with no white space, and with nothing that closes a list. -/
def Starts (text : JsString) : Prop :=
  ∃ head tail, text = head :: tail ∧ isJsonSpace head = false ∧ head ≠ 93

theorem Starts.append {text : JsString} (starts : Starts text) (rest : JsString) : Starts (text ++ rest) := by
  obtain ⟨head, tail, rfl, visible, opens⟩ := starts
  exact ⟨head, tail ++ rest, rfl, visible, opens⟩

theorem Starts.skipSpace {text : JsString} (starts : Starts text) : skipSpace text = text := by
  obtain ⟨head, tail, rfl, visible, -⟩ := starts
  exact List.dropWhile_cons_of_neg (Bool.eq_false_iff.mp visible)

theorem starts_signedDecimal (number : Int) :
    ∃ head tail, signedDecimal number = head :: tail ∧ (head = 45 ∨ isDigitUnit head = true) := by
  cases number with
  | ofNat magnitude =>
      cases written : decimal magnitude with
      | nil => exact absurd written (decimal_ne_nil magnitude)
      | cons unit tail =>
          exact ⟨unit, tail, written, .inr (isDigitUnit_of_mem_decimal (written ▸ List.mem_cons_self))⟩
  | negSucc magnitude => exact ⟨45, _, rfl, .inl rfl⟩

/-- What starts a numeral is visible, and closes no list. -/
theorem starts_of_numeral {text tail : JsString} {head : UInt16} (written : text = head :: tail)
    (shape : head = 45 ∨ isDigitUnit head = true) : Starts text := by
  refine ⟨head, tail, written, ?_, ?_⟩
  · rcases shape with rfl | digit
    · rfl
    · simp only [isDigitUnit, Bool.and_eq_true, decide_eq_true_eq] at digit
      simp only [isJsonSpace, Bool.or_eq_false_iff, beq_eq_false_iff_ne]
      refine ⟨⟨⟨?_, ?_⟩, ?_⟩, ?_⟩ <;> (rintro rfl; exact absurd digit.1 (by decide))
  · rcases shape with rfl | digit
    · decide
    · rintro rfl
      exact absurd digit (by decide)

theorem starts_stringify {value : Json} (legible : Legible numeral value) : Starts (stringify value) := by
  cases value with
  | null => exact ⟨_, _, rfl, rfl, by decide⟩
  | bool value =>
      cases value with
      | false => exact ⟨_, _, rfl, rfl, by decide⟩
      | true => exact ⟨_, _, rfl, rfl, by decide⟩
  | num number =>
      obtain ⟨head, tail, written, shape⟩ := starts_signedDecimal number
      exact starts_of_numeral written shape
  | real literal =>
      obtain ⟨head, tail, written, shape⟩ := starts_numeral legible.1
      exact starts_of_numeral written shape
  | str text => exact ⟨_, _, rfl, rfl, by decide⟩
  | arr items => exact ⟨_, _, rfl, rfl, by decide⟩
  | obj fields => exact ⟨_, _, rfl, rfl, by decide⟩

theorem afterUnit_here (unit : UInt16) (visible : isJsonSpace unit = false) (rest : JsString) :
    afterUnit unit (unit :: rest) = some rest := by
  have skipped : skipSpace (unit :: rest) = unit :: rest :=
    List.dropWhile_cons_of_neg (Bool.eq_false_iff.mp visible)
  rw [afterUnit, skipped]
  exact if_pos rfl

theorem afterUnit_other {unit other : UInt16} (visible : isJsonSpace other = false) (different : other ≠ unit)
    (rest : JsString) : afterUnit unit (other :: rest) = none := by
  have skipped : skipSpace (other :: rest) = other :: rest :=
    List.dropWhile_cons_of_neg (Bool.eq_false_iff.mp visible)
  rw [afterUnit, skipped]
  exact if_neg different

theorem setEntry_fresh {name : JsString} {value : Json} {seen : List (JsString × Json)}
    (fresh : name ∉ seen.map Prod.fst) : JsMap.setEntry name value seen = seen ++ [(name, value)] := by
  induction seen with
  | nil => rfl
  | cons entry rest ih =>
      simp only [List.map_cons, List.mem_cons, not_or] at fresh
      rw [JsMap.setEntry, if_neg fun same => fresh.1 same.symm, ih fresh.2, List.cons_append]

theorem fresh_of_nodup {name : JsString} {value : Json} {seen rest : List (JsString × Json)}
    (distinct : ((seen ++ (name, value) :: rest).map Prod.fst).Nodup) : name ∉ seen.map Prod.fst := by
  rw [List.map_append, List.map_cons] at distinct
  intro member
  exact (List.nodup_append.mp distinct).2.2 name member name List.mem_cons_self rfl

theorem parseValue_cons (fuel : Nat) (head : UInt16) (rest : JsString) :
    parseValue numeral (fuel + 1) (head :: rest) =
      if head = 123 then
        match afterUnit 125 rest with
        | some remaining => some (.obj [], remaining)
        | none => (parseFields numeral fuel rest []).map fun found => (.obj found.1, found.2)
      else if head = 91 then
        match afterUnit 93 rest with
        | some remaining => some (.arr [], remaining)
        | none => (parseItems numeral fuel rest).map fun found => (.arr found.1, found.2)
      else if head = 34 then (parseString rest).map fun found => (.str found.1, found.2)
      else if head = 116 then parseWord (js "true") (.bool true) (head :: rest)
      else if head = 102 then parseWord (js "false") (.bool false) (head :: rest)
      else if head = 110 then parseWord (js "null") .null (head :: rest)
      else (parseNumeral (head :: rest)).map fun found => (numberOf numeral found.1, found.2) := by
  unfold parseValue
  rfl

theorem joinComma_more (first next : JsString) (more : List JsString) :
    joinComma (first :: next :: more) = first ++ js "," ++ joinComma (next :: more) := rfl

theorem joinComma_cons (first : JsString) (rest : List JsString) :
    ∃ tail, joinComma (first :: rest) = first ++ tail := by
  cases rest with
  | nil => exact ⟨[], (List.append_nil _).symm⟩
  | cons next more => exact ⟨js "," ++ joinComma (next :: more), by rw [joinComma_more, List.append_assoc]⟩

theorem starts_items {item : Json} {more : List Json} (legible : LegibleItems numeral (item :: more)) :
    Starts (joinComma (stringifyItems (item :: more))) := by
  obtain ⟨tail, written⟩ := joinComma_cons (stringify item) (stringifyItems more)
  rw [stringifyItems, written]
  exact (starts_stringify legible.1).append tail

theorem starts_fields (field : JsString × Json) (more : List (JsString × Json)) :
    ∃ tail, joinComma (stringifyFields (field :: more)) = 34 :: tail := by
  obtain ⟨name, value⟩ := field
  obtain ⟨tail, written⟩ := joinComma_cons (fieldText name (stringify value)) (stringifyFields more)
  rw [stringifyFields, written]
  exact ⟨_, rfl⟩

/-- The text of a field: its quoted name, a colon and its value. -/
theorem fieldText_append (name value rest : JsString) :
    fieldText name value ++ rest = 34 :: (escape name ++ 34 :: 58 :: (value ++ rest)) := by
  simp only [fieldText, quote, List.append_assoc]
  rfl

theorem length_fieldText (name value : JsString) :
    (fieldText name value).length = (escape name).length + value.length + 3 := by
  have lengths : (js "\"").length = 1 ∧ (js ":").length = 1 := ⟨rfl, rfl⟩
  simp only [fieldText, quote, List.length_append]
  omega

theorem parseValue_numeral {literal tail rest : JsString} {head : UInt16} (starts : literal = head :: tail)
    (shape : head = 45 ∨ isDigitUnit head = true) (parsed : parseNumeral (literal ++ rest) = some (literal, rest))
    (fuel : Nat) : parseValue numeral (fuel + 1) (literal ++ rest) = some (numberOf numeral literal, rest) := by
  subst starts
  have other : ∀ unit : UInt16, unit ≠ 45 → isDigitUnit unit = false → head ≠ unit := by
    rintro unit minus digit rfl
    rcases shape with same | isDigit
    · exact minus same
    · rw [digit] at isDigit
      cases isDigit
  rw [List.cons_append] at parsed ⊢
  rw [parseValue_cons, if_neg (other 123 (by decide) rfl), if_neg (other 91 (by decide) rfl),
    if_neg (other 34 (by decide) rfl), if_neg (other 116 (by decide) rfl), if_neg (other 102 (by decide) rfl),
    if_neg (other 110 (by decide) rfl), parsed, Option.map_some]

theorem parseValue_number {number : Int} (read : numeral (signedDecimal number) = some number) (fuel : Nat)
    {rest : JsString} (ends : Ends rest) :
    parseValue numeral (fuel + 1) (signedDecimal number ++ rest) = some (.num number, rest) := by
  obtain ⟨head, tail, written, shape⟩ := starts_signedDecimal number
  rw [parseValue_numeral written shape (parseNumeral_signedDecimal number ends), numberOf, read]

theorem parseValue_real {literal : JsString} (legible : Legible numeral (.real literal)) (fuel : Nat)
    {rest : JsString} (ends : Ends rest) :
    parseValue numeral (fuel + 1) (literal ++ rest) = some (.real literal, rest) := by
  obtain ⟨head, tail, written, shape⟩ := starts_numeral legible.1
  rw [parseValue_numeral written shape (parseNumeral_append ends legible.1), numberOf, legible.2]

theorem ends_closing (unit : UInt16) (closing : unit = 44 ∨ unit = 93 ∨ unit = 125) (rest : JsString) :
    Ends (unit :: rest) := by
  refine ends_cons ?_ rest
  rcases closing with rfl | rfl | rfl
  · decide
  · decide
  · decide

theorem length_pos_of_starts {text : JsString} (starts : Starts text) : 0 < text.length := by
  obtain ⟨head, tail, rfl, -⟩ := starts
  exact Nat.succ_pos _

mutual
/-- The text of a value is read up to its end. -/
theorem parseValue_stringify : ∀ (value : Json), Legible numeral value → ∀ (fuel : Nat),
    (stringify value).length ≤ fuel → ∀ rest, Ends rest →
      parseValue numeral fuel (stringify value ++ rest) = some (value, rest)
  | .null, _, fuel, enough, rest, _ => by
      cases fuel with
      | zero => cases enough
      | succ fuel => exact parseValue_cons fuel 110 _
  | .bool value, _, fuel, enough, rest, _ => by
      cases fuel with
      | zero => cases value <;> cases enough
      | succ fuel =>
          cases value with
          | false => exact parseValue_cons fuel 102 _
          | true => exact parseValue_cons fuel 116 _
  | .num number, legible, fuel, enough, rest, ends => by
      cases fuel with
      | zero => exact absurd (length_pos_of_starts (starts_stringify legible)) (by omega)
      | succ fuel => exact parseValue_number legible fuel ends
  | .real literal, legible, fuel, enough, rest, ends => by
      cases fuel with
      | zero => exact absurd (length_pos_of_starts (starts_stringify legible)) (by omega)
      | succ fuel => exact parseValue_real legible fuel ends
  | .str text, _, fuel, enough, rest, _ => by
      cases fuel with
      | zero => cases enough
      | succ fuel =>
          have shape : stringify (.str text) ++ rest = 34 :: (escape text ++ 34 :: rest) := by
            rw [stringify, quote, List.append_assoc, List.append_assoc]
            rfl
          rw [shape, parseValue_cons, if_neg (by decide), if_neg (by decide), if_pos rfl, parseString_escape]
          rfl
  | .arr items, legible, fuel, enough, rest, _ => by
      cases fuel with
      | zero => cases enough
      | succ fuel =>
          have shape : stringify (.arr items) ++ rest = 91 :: (joinComma (stringifyItems items) ++ 93 :: rest) := by
            rw [stringify, List.append_assoc, List.append_assoc]
            rfl
          have long : (joinComma (stringifyItems items)).length + 1 ≤ fuel := by
            simp only [stringify, List.length_append] at enough
            have brackets : (js "[").length = 1 ∧ (js "]").length = 1 := ⟨rfl, rfl⟩
            omega
          rw [shape, parseValue_cons, if_neg (by decide), if_pos rfl]
          cases items with
          | nil => rfl
          | cons item more =>
              obtain ⟨head, tail, start, visible, opens⟩ := starts_items legible
              rw [parseItems_stringify (item :: more) legible (List.cons_ne_nil _ _) fuel long rest, start,
                List.cons_append, afterUnit_other visible opens]
              rfl
  | .obj fields, legible, fuel, enough, rest, _ => by
      cases fuel with
      | zero => cases enough
      | succ fuel =>
          have shape : stringify (.obj fields) ++ rest =
              123 :: (joinComma (stringifyFields fields) ++ 125 :: rest) := by
            rw [stringify, List.append_assoc, List.append_assoc]
            rfl
          have long : (joinComma (stringifyFields fields)).length + 1 ≤ fuel := by
            simp only [stringify, List.length_append] at enough
            have brackets : (js "\x7b").length = 1 ∧ (js "\x7d").length = 1 := ⟨rfl, rfl⟩
            omega
          rw [shape, parseValue_cons, if_pos rfl]
          cases fields with
          | nil => rfl
          | cons field more =>
              obtain ⟨tail, start⟩ := starts_fields field more
              rw [parseFields_stringify (field :: more) legible.2 (List.cons_ne_nil _ _) fuel long rest []
                (by simpa only [List.nil_append] using legible.1), start, List.cons_append,
                afterUnit_other (by decide) (by decide)]
              rfl

theorem parseItems_stringify : ∀ (items : List Json), LegibleItems numeral items → items ≠ [] → ∀ (fuel : Nat),
    (joinComma (stringifyItems items)).length + 1 ≤ fuel → ∀ rest,
      parseItems numeral fuel (joinComma (stringifyItems items) ++ 93 :: rest) = some (items, rest)
  | [], _, nonempty, _, _, _ => absurd rfl nonempty
  | [item], legible, _, fuel, enough, rest => by
      cases fuel with
      | zero => cases enough
      | succ fuel =>
          have starts := (starts_stringify legible.1).append (93 :: rest)
          have parsed := parseValue_stringify item legible.1 fuel (Nat.le_of_succ_le_succ enough) (93 :: rest)
            (ends_closing 93 (.inr (.inl rfl)) rest)
          rw [stringifyItems, stringifyItems, joinComma, parseItems, starts.skipSpace, parsed]
          simp only [Option.bind_eq_bind, Option.bind_some, afterUnit_here 93 rfl]
  | item :: next :: more, legible, _, fuel, enough, rest => by
      cases fuel with
      | zero => cases enough
      | succ fuel =>
          have shape : joinComma (stringifyItems (item :: next :: more)) ++ 93 :: rest =
              stringify item ++ 44 :: (joinComma (stringifyItems (next :: more)) ++ 93 :: rest) := by
            rw [stringifyItems, stringifyItems, joinComma_more, List.append_assoc, List.append_assoc]
            rfl
          have long : (stringify item).length + (joinComma (stringifyItems (next :: more))).length + 1 ≤ fuel := by
            have comma : (js ",").length = 1 := rfl
            simp only [stringifyItems, joinComma, List.length_append] at enough ⊢
            omega
          have starts := (starts_stringify legible.1).append
            (44 :: (joinComma (stringifyItems (next :: more)) ++ 93 :: rest))
          have first := parseValue_stringify item legible.1 fuel (by omega)
            (44 :: (joinComma (stringifyItems (next :: more)) ++ 93 :: rest)) (ends_closing 44 (.inl rfl) _)
          have others := parseItems_stringify (next :: more) legible.2 (List.cons_ne_nil _ _) fuel (by omega) rest
          rw [shape, parseItems, starts.skipSpace, first]
          simp only [Option.bind_eq_bind, Option.bind_some,
            @afterUnit_other 93 44 rfl (by decide), afterUnit_here 44 rfl, others]

theorem parseFields_stringify : ∀ (fields : List (JsString × Json)), LegibleFields numeral fields → fields ≠ [] →
    ∀ (fuel : Nat), (joinComma (stringifyFields fields)).length + 1 ≤ fuel → ∀ rest seen,
      ((seen ++ fields).map Prod.fst).Nodup →
        parseFields numeral fuel (joinComma (stringifyFields fields) ++ 125 :: rest) seen = some (seen ++ fields, rest)
  | [], _, nonempty, _, _, _, _, _ => absurd rfl nonempty
  | [(name, value)], legible, _, fuel, enough, rest, seen, distinct => by
      cases fuel with
      | zero => cases enough
      | succ fuel =>
          have fresh : name ∉ seen.map Prod.fst := fresh_of_nodup distinct
          have long : (stringify value).length ≤ fuel := by
            simp only [stringifyFields, joinComma, length_fieldText] at enough
            omega
          have starts := (starts_stringify legible.1).append (125 :: rest)
          have parsed := parseValue_stringify value legible.1 fuel long (125 :: rest)
            (ends_closing 125 (.inr (.inr rfl)) rest)
          rw [stringifyFields, stringifyFields, joinComma, fieldText_append, parseFields,
            afterUnit_here 34 rfl]
          simp only [Option.bind_eq_bind, Option.bind_some, parseString_escape, afterUnit_here 58 rfl,
            starts.skipSpace, parsed, afterUnit_here 125 rfl, setEntry_fresh fresh]
  | (name, value) :: next :: more, legible, _, fuel, enough, rest, seen, distinct => by
      cases fuel with
      | zero => cases enough
      | succ fuel =>
          have fresh : name ∉ seen.map Prod.fst := fresh_of_nodup distinct
          have shape : joinComma (stringifyFields ((name, value) :: next :: more)) ++ 125 :: rest =
              fieldText name (stringify value) ++
                44 :: (joinComma (stringifyFields (next :: more)) ++ 125 :: rest) := by
            obtain ⟨other, second⟩ := next
            rw [stringifyFields, stringifyFields, joinComma_more, List.append_assoc, List.append_assoc]
            rfl
          have long : (stringify value).length + (joinComma (stringifyFields (next :: more))).length + 1 ≤ fuel := by
            obtain ⟨other, second⟩ := next
            have comma : (js ",").length = 1 := rfl
            simp only [stringifyFields, joinComma, List.length_append, length_fieldText name] at enough ⊢
            omega
          have starts := (starts_stringify legible.1).append
            (44 :: (joinComma (stringifyFields (next :: more)) ++ 125 :: rest))
          have first := parseValue_stringify value legible.1 fuel (by omega)
            (44 :: (joinComma (stringifyFields (next :: more)) ++ 125 :: rest)) (ends_closing 44 (.inl rfl) _)
          have others := parseFields_stringify (next :: more) legible.2 (List.cons_ne_nil _ _) fuel (by omega) rest
            (seen ++ [(name, value)]) (by simpa only [List.append_assoc, List.singleton_append] using distinct)
          rw [shape, fieldText_append, parseFields, afterUnit_here 34 rfl]
          simp only [Option.bind_eq_bind, Option.bind_some, parseString_escape, afterUnit_here 58 rfl,
            starts.skipSpace, first, @afterUnit_other 125 44 rfl (by decide),
            afterUnit_here 44 rfl, setEntry_fresh fresh, others, List.append_assoc, List.singleton_append]
end

/-- `JSON.parse` reads a value back from its text. -/
theorem parse_stringify_of_legible {value : Json} (legible : Legible numeral value) :
    parse numeral (stringify value) = some value := by
  have starts := starts_stringify legible
  have parsed := parseValue_stringify value legible (2 * (stringify value).length + 2) (by omega) [] ends_nil
  rw [List.append_nil] at parsed
  rw [parse, starts.skipSpace, parsed]
  rfl

theorem parse_stringify {value : Json} (readable : Readable numeral value) :
    parse numeral (stringify value) = some value :=
  parse_stringify_of_legible (Readable.legible value readable)

/-! ## Surrogates -/

theorem wellFormed_unicodeEscape (unit : UInt16) : WellFormed (unicodeEscape unit) := by
  have hexadecimal : ∀ digit : Fin 16, (hexUnit digit).toNat < 0xD800 := by decide
  refine .of_plain fun other member => ?_
  have shape : unicodeEscape unit = [92, 117, hexUnit (hexDigitAt unit 3), hexUnit (hexDigitAt unit 2),
      hexUnit (hexDigitAt unit 1), hexUnit (hexDigitAt unit 0)] := rfl
  rw [shape] at member
  simp only [List.mem_cons, List.not_mem_nil, or_false] at member
  rcases member with rfl | rfl | rfl | rfl | rfl | rfl
  · decide
  · decide
  · exact hexadecimal _
  · exact hexadecimal _
  · exact hexadecimal _
  · exact hexadecimal _

theorem wellFormed_escapeUnit {unit : UInt16} (plain : ¬ (isHighSurrogate unit || isLowSurrogate unit) = true) :
    WellFormed (escapeUnit unit) := by
  have ascii : ∀ first second : UInt16, first.toNat < 0xD800 → second.toNat < 0xD800 →
      WellFormed [first, second] := by
    intro first second small small'
    refine .of_plain fun other member => ?_
    rcases List.mem_cons.mp member with rfl | later
    · exact small
    · exact List.mem_singleton.mp later ▸ small'
  unfold escapeUnit
  repeat' split
  · exact ascii 92 98 (by decide) (by decide)
  · exact ascii 92 116 (by decide) (by decide)
  · exact ascii 92 110 (by decide) (by decide)
  · exact ascii 92 102 (by decide) (by decide)
  · exact ascii 92 114 (by decide) (by decide)
  · exact ascii 92 34 (by decide) (by decide)
  · exact ascii 92 92 (by decide) (by decide)
  · exact wellFormed_unicodeEscape unit
  · exact .unit (Bool.eq_false_iff.mpr plain) .nil

theorem wellFormed_escape (text : JsString) : WellFormed (escape text) := by
  induction text using escape.induct with
  | case1 => exact .nil
  | case2 unit surrogate =>
      rw [escape, if_pos surrogate]
      exact wellFormed_unicodeEscape unit
  | case3 unit plain =>
      rw [escape, if_neg plain]
      exact wellFormed_escapeUnit plain
  | case4 high low tail paired ih =>
      obtain ⟨first, second⟩ := Bool.and_eq_true_iff.mp paired
      rw [escape, if_pos paired]
      exact .pair first second ih
  | case5 unit next tail unpaired surrogate ih =>
      rw [escape, if_neg unpaired, if_pos surrogate]
      exact (wellFormed_unicodeEscape unit).append ih
  | case6 unit next tail unpaired plain ih =>
      rw [escape, if_neg unpaired, if_neg plain]
      exact (wellFormed_escapeUnit plain).append ih

theorem wellFormed_unit {unit : UInt16} (small : unit.toNat < 0xD800) {rest : JsString} (tail : WellFormed rest) :
    WellFormed (unit :: rest) := by
  refine .unit ?_ tail
  simp only [isHighSurrogate, isLowSurrogate, Bool.or_eq_false_iff, Bool.and_eq_false_iff,
    decide_eq_false_iff_not]
  omega

theorem wellFormed_quote (text : JsString) : WellFormed (quote text) :=
  wellFormed_unit (by decide) ((wellFormed_escape text).append (wellFormed_unit (by decide) .nil))

theorem wellFormed_joinComma {texts : List JsString} (parts : ∀ text ∈ texts, WellFormed text) :
    WellFormed (joinComma texts) := by
  induction texts with
  | nil => exact .nil
  | cons first rest ih =>
      have head := parts first List.mem_cons_self
      have tail := ih fun text member => parts text (List.mem_cons_of_mem _ member)
      cases rest with
      | nil => exact head
      | cons next more =>
          rw [joinComma_more, List.append_assoc]
          exact head.append (wellFormed_unit (by decide) tail)

theorem wellFormed_signedDecimal (number : Int) : WellFormed (signedDecimal number) := by
  refine .of_plain fun unit member => ?_
  rcases mem_signedDecimal member with rfl | digit
  · decide
  · have upper := digit.2
    omega

mutual
/-- The text of a value has no unpaired surrogate. -/
theorem wellFormed_stringify : ∀ value : Json, Readable numeral value → WellFormed (stringify value)
  | .null, _ => wellFormed_unit (by decide) (wellFormed_unit (by decide) (wellFormed_unit (by decide)
      (wellFormed_unit (by decide) .nil)))
  | .bool true, _ => wellFormed_unit (by decide) (wellFormed_unit (by decide) (wellFormed_unit (by decide)
      (wellFormed_unit (by decide) .nil)))
  | .bool false, _ => wellFormed_unit (by decide) (wellFormed_unit (by decide) (wellFormed_unit (by decide)
      (wellFormed_unit (by decide) (wellFormed_unit (by decide) .nil))))
  | .num number, _ => wellFormed_signedDecimal number
  | .real _, readable => absurd readable id
  | .str text, _ => wellFormed_quote text
  | .arr items, readable => by
      rw [stringify]
      exact wellFormed_unit (by decide) ((wellFormed_joinComma (wellFormed_stringifyItems items readable)).append
        (wellFormed_unit (by decide) .nil))
  | .obj fields, readable => by
      rw [stringify]
      exact wellFormed_unit (by decide) ((wellFormed_joinComma (wellFormed_stringifyFields fields readable.2)).append
        (wellFormed_unit (by decide) .nil))

theorem wellFormed_stringifyItems : ∀ items : List Json, ReadableItems numeral items →
    ∀ text ∈ stringifyItems items, WellFormed text
  | [], _, _, member => absurd member List.not_mem_nil
  | item :: rest, readable, text, member => by
      rw [stringifyItems] at member
      rcases List.mem_cons.mp member with rfl | later
      · exact wellFormed_stringify item readable.1
      · exact wellFormed_stringifyItems rest readable.2 text later

theorem wellFormed_stringifyFields : ∀ fields : List (JsString × Json), ReadableFields numeral fields →
    ∀ text ∈ stringifyFields fields, WellFormed text
  | [], _, _, member => absurd member List.not_mem_nil
  | (name, value) :: rest, readable, text, member => by
      rw [stringifyFields] at member
      rcases List.mem_cons.mp member with rfl | later
      · rw [fieldText, List.append_assoc]
        exact (wellFormed_quote name).append
          (wellFormed_unit (by decide) (wellFormed_stringify value readable.1))
      · exact wellFormed_stringifyFields rest readable.2 text later
end

end KernelJson.Foundation.JsonRoundTrip
