import KernelJson.Foundation.JsonParse
import KernelJson.Foundation.Utf8

/-!
# Texts that differ in surrogates

A text that went through its UTF-8 bytes has lost its unpaired surrogates, and
is otherwise the same.  The grammar of JSON tells no two units from `0xD800` on
apart, so that both texts are parsed alike: the same names and the same strings
are found in them, but for such units.
-/

namespace KernelJson.Foundation.JsonSurrogates

open Foundation.JsText
open Foundation.Json
open Foundation.JsonParse

/-! ## Units and texts -/

/-- The same unit, or two units from the surrogates on. -/
def Alike (first second : UInt16) : Prop :=
  first = second ∨ 0xD800 ≤ first.toNat ∧ 0xD800 ≤ second.toNat

def TextAlike : JsString → JsString → Prop := List.Forall₂ Alike

theorem TextAlike.refl (text : JsString) : TextAlike text text :=
  List.forall₂_same.mpr fun _ _ => .inl rfl

/-- What tells no two of the upper units apart tells no alike units apart. -/
theorem Alike.congr {α : Type} {first second : UInt16} (alike : Alike first second) (read : UInt16 → α) (other : α)
    (upper : ∀ unit : UInt16, 0xD800 ≤ unit.toNat → read unit = other) : read first = read second := by
  rcases alike with rfl | ⟨high, alsoHigh⟩
  · rfl
  · rw [upper first high, upper second alsoHigh]

theorem Alike.eq_iff {first second unit : UInt16} (alike : Alike first second) (plain : unit.toNat < 0xD800) :
    first = unit ↔ second = unit := by
  rcases alike with rfl | ⟨high, alsoHigh⟩
  · exact Iff.rfl
  · constructor
    · rintro rfl
      omega
    · rintro rfl
      omega

theorem Alike.lt_iff {first second : UInt16} (alike : Alike first second) {bound : Nat} (plain : bound ≤ 0xD800) :
    first.toNat < bound ↔ second.toNat < bound := by
  rcases alike with rfl | ⟨high, alsoHigh⟩
  · exact Iff.rfl
  · omega

/-- A text without upper units. -/
def Plain (text : JsString) : Prop := ∀ unit ∈ text, unit.toNat < 0xD800

theorem plain_of_all {text : JsString} (low : (text.all fun unit => unit.toNat < 0xD800) = true) : Plain text :=
  fun unit member => of_decide_eq_true (List.all_eq_true.mp low unit member)

/-- A plain text is alike to itself alone. -/
theorem TextAlike.eq_of_plain {first second : JsString} (alike : TextAlike first second)
    (plain : Plain first) : first = second := by
  induction alike with
  | nil => rfl
  | @cons unit other rest tail here _ ih =>
      have low := plain unit List.mem_cons_self
      rcases here with rfl | ⟨high, -⟩
      · rw [ih fun one member => plain one (List.mem_cons_of_mem _ member)]
      · omega

theorem TextAlike.symm {first second : JsString} (alike : TextAlike first second) : TextAlike second first := by
  induction alike with
  | nil => exact .nil
  | cons here _ ih =>
      refine .cons ?_ ih
      rcases here with rfl | ⟨high, alsoHigh⟩
      · exact .inl rfl
      · exact .inr ⟨alsoHigh, high⟩

/-- Two texts, alike, of which one is a given plain text. -/
theorem TextAlike.eq_iff {first second text : JsString} (alike : TextAlike first second)
    (plain : Plain text) : first = text ↔ second = text := by
  constructor
  · rintro rfl
    exact (alike.eq_of_plain plain).symm
  · rintro rfl
    exact (alike.symm.eq_of_plain plain).symm

/-! ## A text and the text of its bytes -/

/-- The text of the bytes of a text is alike to it. -/
theorem alike_decode_encode (text : JsString) : TextAlike text (Utf8.decode (Utf8.encode text)) := by
  have lone : ∀ unit : UInt16, Alike unit (UInt16.ofNat
      (if isHighSurrogate unit || isLowSurrogate unit then 0xFFFD else unit.toNat)) := by
    intro unit
    split
    · next surrogate =>
        refine .inr ⟨?_, by decide⟩
        simp only [isHighSurrogate, isLowSurrogate, Bool.or_eq_true, Bool.and_eq_true, decide_eq_true_eq]
          at surrogate
        omega
    · exact .inl (UInt16.ofNat_toNat).symm
  have small : ∀ unit : UInt16,
      (if isHighSurrogate unit || isLowSurrogate unit then 0xFFFD else unit.toNat) < 0x10000 := by
    intro unit
    split
    · decide
    · exact UInt16.toNat_lt unit
  rw [Utf8.decode, Utf8.encode, Utf8.decodeFrom_flatMap (Utf8.isScalar_scalars text)]
  induction text using Utf8.scalars.induct with
  | case1 => exact .nil
  | case2 unit =>
      rw [Utf8.scalars, List.flatMap_singleton, Utf8.scalarUnits, if_pos (small unit)]
      exact .cons (lone unit) .nil
  | case3 unit next rest paired ih =>
      obtain ⟨high, low⟩ := Bool.and_eq_true_iff.mp paired
      rw [Utf8.scalars_pair high low, List.flatMap_cons, Utf8.scalarUnits_pair high low]
      exact .cons (.inl rfl) (.cons (.inl rfl) ih)
  | case4 unit next rest unpaired ih =>
      rw [Utf8.scalars, if_neg unpaired, List.flatMap_cons, Utf8.scalarUnits, if_pos (small unit)]
      exact .cons (lone unit) ih

/-! ## Tokens -/

/-- Both nothing, or both something and related. -/
abbrev Both {α : Type} (related : α → α → Prop) : Option α → Option α → Prop := Option.Rel related

theorem Both.map {α β : Type} {related : α → α → Prop} {onward : β → β → Prop} {first second : Option α}
    (both : Both related first second) {left right : α → β}
    (keeps : ∀ one other, related one other → onward (left one) (right other)) :
    Both onward (first.map left) (second.map right) := by
  cases both with
  | none => exact .none
  | some holds => exact .some (keeps _ _ holds)

theorem Both.bind {α β : Type} {related : α → α → Prop} {onward : β → β → Prop} {first second : Option α}
    (both : Both related first second) {left right : α → Option β}
    (keeps : ∀ one other, related one other → Both onward (left one) (right other)) :
    Both onward (first.bind left) (second.bind right) := by
  cases both with
  | none => exact .none
  | some holds => exact keeps _ _ holds

/-- What was found in two texts is alike, and so is what follows. -/
def PairAlike (first second : JsString × JsString) : Prop :=
  TextAlike first.1 second.1 ∧ TextAlike first.2 second.2

/-- The same literal was found in two texts, and what follows is alike. -/
def LiteralAlike (first second : JsString × JsString) : Prop :=
  first.1 = second.1 ∧ TextAlike first.2 second.2

theorem isJsonSpace_alike {first second : UInt16} (alike : Alike first second) :
    isJsonSpace first = isJsonSpace second := by
  refine alike.congr isJsonSpace false fun unit high => ?_
  have apart : ∀ plain : UInt16, plain.toNat < 0xD800 → (unit == plain) = false := by
    intro plain low
    rw [beq_eq_false_iff_ne]
    rintro rfl
    omega
  rw [isJsonSpace, apart 32 (by decide), apart 9 (by decide), apart 10 (by decide), apart 13 (by decide)]
  rfl

theorem isDigitUnit_upper {unit : UInt16} (high : 0xD800 ≤ unit.toNat) : isDigitUnit unit = false := by
  simp only [isDigitUnit, Bool.and_eq_false_iff, decide_eq_false_iff_not]
  omega

theorem isDigitUnit_alike {first second : UInt16} (alike : Alike first second) :
    isDigitUnit first = isDigitUnit second :=
  alike.congr isDigitUnit false fun _ high => isDigitUnit_upper high

theorem hexValue_alike {first second : UInt16} (alike : Alike first second) : hexValue first = hexValue second := by
  refine alike.congr hexValue none fun unit high => ?_
  rw [hexValue, isDigitUnit_upper high, if_neg Bool.false_ne_true, if_neg, if_neg]
  · simp only [Bool.and_eq_true, decide_eq_true_eq]
    omega
  · simp only [Bool.and_eq_true, decide_eq_true_eq]
    omega

theorem hexUnitOf_alike {first second third fourth one two three four : UInt16} (here : Alike first one)
    (next : Alike second two) (more : Alike third three) (last : Alike fourth four) :
    hexUnitOf first second third fourth = hexUnitOf one two three four := by
  rw [hexUnitOf, hexUnitOf, hexValue_alike here, hexValue_alike next, hexValue_alike more, hexValue_alike last]

theorem simpleEscape_alike {first second : UInt16} (alike : Alike first second) :
    simpleEscape first = simpleEscape second := by
  refine alike.congr simpleEscape none fun unit high => ?_
  have apart : ∀ plain : UInt16, plain.toNat < 0xD800 → unit ≠ plain := by
    rintro plain low rfl
    omega
  rw [simpleEscape, if_neg (apart 34 (by decide)), if_neg (apart 92 (by decide)), if_neg (apart 47 (by decide)),
    if_neg (apart 98 (by decide)), if_neg (apart 102 (by decide)), if_neg (apart 110 (by decide)),
    if_neg (apart 114 (by decide)), if_neg (apart 116 (by decide))]

theorem dropWhile_alike {accepts : UInt16 → Bool} (same : ∀ one other, Alike one other → accepts one = accepts other)
    {first second : JsString} (alike : TextAlike first second) :
    TextAlike (first.dropWhile accepts) (second.dropWhile accepts) := by
  induction alike with
  | nil => exact .nil
  | @cons unit other rest tail here later ih =>
      rw [List.dropWhile_cons, List.dropWhile_cons, same unit other here]
      split
      · exact ih
      · exact .cons here later

theorem skipSpace_alike {first second : JsString} (alike : TextAlike first second) :
    TextAlike (skipSpace first) (skipSpace second) :=
  dropWhile_alike (fun _ _ => isJsonSpace_alike) alike

/-- Digits are the same in alike texts. -/
theorem digits_alike {first second : JsString} (alike : TextAlike first second) :
    LiteralAlike (digits first) (digits second) := by
  refine ⟨?_, dropWhile_alike (fun _ _ => isDigitUnit_alike) alike⟩
  show first.takeWhile isDigitUnit = second.takeWhile isDigitUnit
  induction alike with
  | nil => rfl
  | @cons unit other rest tail here _ ih =>
      rw [List.takeWhile_cons, List.takeWhile_cons, ← isDigitUnit_alike here, ih]
      rcases here with rfl | ⟨high, -⟩
      · rfl
      · rw [isDigitUnit_upper high]
        rfl

theorem afterUnit_alike {unit : UInt16} (plain : unit.toNat < 0xD800) {first second : JsString}
    (alike : TextAlike first second) : Both TextAlike (afterUnit unit first) (afterUnit unit second) := by
  have skipped := skipSpace_alike alike
  unfold afterUnit
  generalize skipSpace first = left at skipped
  generalize skipSpace second = right at skipped
  cases skipped with
  | nil => exact .none
  | @cons head other rest tail here later =>
      by_cases found : head = unit
      · simp only [if_pos found, if_pos ((here.eq_iff plain).mp found)]
        exact .some later
      · simp only [if_neg found, if_neg fun same => found ((here.eq_iff plain).mpr same)]
        exact .none

theorem consUnit_alike {unit other : UInt16} (here : Alike unit other) {first second : JsString × JsString}
    (alike : PairAlike first second) : PairAlike (consUnit unit first) (consUnit other second) :=
  ⟨.cons here alike.1, alike.2⟩

/-- An escape of four digits, or none of them where the text is too short. -/
theorem parseString_short {rest : JsString} (short : rest.length < 4) :
    parseString (92 :: 117 :: rest) = none := by
  match rest, short with
  | [], _ => rfl
  | [_], _ => rfl
  | [_, _], _ => rfl
  | [_, _, _], _ => rfl

theorem parseString_close (rest : JsString) : parseString (34 :: rest) = some ([], rest) := by
  rw [parseString.eq_def]
  exact if_pos rfl

theorem parseString_escape {letter : UInt16} (other : ¬ letter = 117) (rest : JsString) :
    parseString (92 :: letter :: rest) =
      (simpleEscape letter).bind fun unit => (parseString rest).map (consUnit unit) := by
  rw [parseString.eq_def]
  simp only [if_neg other, if_neg (show ¬ (92 : UInt16) = 34 by decide), if_true, Option.bind_eq_bind]

theorem parseString_unit {unit : UInt16} (quote : ¬ unit = 34) (escape : ¬ unit = 92) (rest : JsString) :
    parseString (unit :: rest) =
      if unit.toNat < 32 then none else (parseString rest).map (consUnit unit) := by
  rw [parseString.eq_def]
  simp only [if_neg quote, if_neg escape]

theorem parseString_alike {first second : JsString} (alike : TextAlike first second) :
    Both PairAlike (parseString first) (parseString second) := by
  induction first using parseString.induct generalizing second with
  | case1 =>
      cases alike
      exact .none
  | case2 rest =>
      cases alike with
      | cons here later =>
          cases (here.eq_iff (by decide)).mp rfl
          rw [parseString_close, parseString_close]
          exact .some ⟨.nil, later⟩
  | case3 =>
      cases alike with
      | cons here later =>
          cases (here.eq_iff (by decide)).mp rfl
          cases later
          exact .none
  | case4 one two three four rest _ ih =>
      cases alike with
      | cons here later =>
      cases later with
      | cons letter later =>
      cases later with
      | cons first' later =>
      cases later with
      | cons second' later =>
      cases later with
      | cons third' later =>
      cases later with
      | cons fourth' later =>
          cases (here.eq_iff (by decide)).mp rfl
          cases (letter.eq_iff (by decide)).mp rfl
          simp only [parseString, if_neg (show ¬ (92 : UInt16) = 34 by decide), if_true,
            hexUnitOf_alike first' second' third' fourth', Option.bind_eq_bind]
          generalize hexUnitOf _ _ _ _ = found
          cases found with
          | none => exact .none
          | some unit => exact (ih later).map fun _ _ both => consUnit_alike (.inl rfl) both
  | case5 rest short _ =>
      cases alike with
      | cons here later =>
      cases later with
      | @cons _ letter _ tail there later =>
          cases (here.eq_iff (by decide)).mp rfl
          cases (there.eq_iff (by decide)).mp rfl
          have few : rest.length < 4 := by
            match rest, short with
            | [], _ => simp
            | [_], _ => simp
            | [_, _], _ => simp
            | [_, _, _], _ => simp
            | one :: two :: three :: four :: rest, short => exact (short one two three four rest rfl).elim
          rw [parseString_short few, parseString_short (later.length_eq ▸ few)]
          exact .none
  | case6 letter rest other _ ih =>
      cases alike with
      | cons here later =>
      cases later with
      | @cons _ mark _ tail there later =>
          cases (here.eq_iff (by decide)).mp rfl
          have apart : ¬ mark = 117 := fun same => other ((there.eq_iff (by decide)).mpr same)
          rw [parseString_escape other, parseString_escape apart, simpleEscape_alike there]
          generalize simpleEscape mark = found
          cases found with
          | none => exact .none
          | some unit => exact (ih later).map fun _ _ both => consUnit_alike (.inl rfl) both
  | case7 unit rest quote escape control =>
      cases alike with
      | @cons _ other _ tail here later =>
          have notQuote : ¬ other = 34 := fun same => quote ((here.eq_iff (by decide)).mpr same)
          have notEscape : ¬ other = 92 := fun same => escape ((here.eq_iff (by decide)).mpr same)
          rw [parseString_unit quote escape, parseString_unit notQuote notEscape, if_pos control,
            if_pos ((here.lt_iff (by decide)).mp control)]
          exact .none
  | case8 unit rest quote escape control ih =>
      cases alike with
      | @cons _ other _ tail here later =>
          have notQuote : ¬ other = 34 := fun same => quote ((here.eq_iff (by decide)).mpr same)
          have notEscape : ¬ other = 92 := fun same => escape ((here.eq_iff (by decide)).mpr same)
          rw [parseString_unit quote escape, parseString_unit notQuote notEscape, if_neg control,
            if_neg fun same => control ((here.lt_iff (by decide)).mpr same)]
          exact (ih later).map fun _ _ both => consUnit_alike here both

/-! ## Numerals and words -/

theorem someDigits_alike {first second : JsString} (alike : TextAlike first second) :
    Both LiteralAlike (someDigits first) (someDigits second) := by
  have both := digits_alike alike
  unfold someDigits
  rw [both.1]
  split
  · exact .none
  · exact .some both

theorem integerPart_alike {first second : JsString} (alike : TextAlike first second) :
    Both LiteralAlike (integerPart first) (integerPart second) := by
  refine (someDigits_alike alike).bind ?_
  rintro ⟨body, rest⟩ ⟨other, tail⟩ ⟨same, later⟩
  cases same
  show Both LiteralAlike (if _ then _ else _) (if _ then _ else _)
  split
  · exact .none
  · exact .some ⟨rfl, later⟩

theorem signPart_alike {signs : JsString} (plain : Plain signs) {first second : JsString}
    (alike : TextAlike first second) : LiteralAlike (signPart signs first) (signPart signs second) := by
  cases alike with
  | nil => exact ⟨rfl, .nil⟩
  | @cons unit other rest tail here later =>
      have same : signs.contains unit = signs.contains other := by
        rw [Bool.eq_iff_iff, List.contains_iff_mem, List.contains_iff_mem]
        constructor
        · intro member
          exact ((here.eq_iff (plain unit member)).mp rfl) ▸ member
        · intro member
          exact ((here.eq_iff (plain other member)).mpr rfl) ▸ member
      simp only [signPart, ← same]
      split
      · next member =>
          rw [List.contains_iff_mem] at member
          rw [(here.eq_iff (plain unit member)).mp rfl]
          exact ⟨rfl, later⟩
      · exact ⟨rfl, .cons here later⟩

theorem fractionPart_alike {first second : JsString} (alike : TextAlike first second) :
    Both LiteralAlike (fractionPart first) (fractionPart second) := by
  cases alike with
  | nil => exact .some ⟨rfl, .nil⟩
  | @cons unit other rest tail here later =>
      have same : unit = 46 ↔ other = 46 := here.eq_iff (by decide)
      simp only [fractionPart, List.head?_cons, Option.some.injEq, List.tail_cons, same]
      split
      · exact (someDigits_alike later).map fun _ _ both => ⟨congrArg (46 :: ·) both.1, both.2⟩
      · exact .some ⟨rfl, .cons here later⟩

theorem exponentPart_alike {first second : JsString} (alike : TextAlike first second) :
    Both LiteralAlike (exponentPart first) (exponentPart second) := by
  cases alike with
  | nil => exact .some ⟨rfl, .nil⟩
  | @cons mark other rest tail here later =>
      by_cases marked : mark = 101 ∨ mark = 69
      · have same : mark = other := by
          rcases marked with rfl | rfl
          · exact ((here.eq_iff (by decide)).mp rfl).symm
          · exact ((here.eq_iff (by decide)).mp rfl).symm
        subst same
        have decided : (decide (mark = 101) || decide (mark = 69)) = true := by simpa using marked
        have signs : Plain (js "+-") := plain_of_all (by decide)
        obtain ⟨sign, unsigned⟩ := signPart_alike signs later
        simp only [exponentPart, decided, if_true, sign]
        refine (someDigits_alike unsigned).map fun one other both => ⟨?_, both.2⟩
        rw [both.1]
      · have apart : ¬ (other = 101 ∨ other = 69) := by
          rw [← here.eq_iff (by decide), ← here.eq_iff (by decide)]
          exact marked
        have left : (decide (mark = 101) || decide (mark = 69)) = false := by simpa using marked
        have right : (decide (other = 101) || decide (other = 69)) = false := by simpa using apart
        simp only [exponentPart, left, right, Bool.false_eq_true, if_false]
        exact .some ⟨rfl, .cons here later⟩

theorem parseNumeral_alike {first second : JsString} (alike : TextAlike first second) :
    Both LiteralAlike (parseNumeral first) (parseNumeral second) := by
  have signs : Plain (js "-") := plain_of_all (by decide)
  obtain ⟨minus, unsigned⟩ := signPart_alike signs alike
  unfold parseNumeral
  generalize signPart (js "-") first = left at minus unsigned
  generalize signPart (js "-") second = right at minus unsigned
  obtain ⟨minus, rest⟩ := left
  obtain ⟨other, tail⟩ := right
  cases minus
  refine (integerPart_alike unsigned).bind ?_
  rintro ⟨whole, rest⟩ ⟨other, tail⟩ ⟨same, later⟩
  cases same
  refine (fractionPart_alike later).bind ?_
  rintro ⟨fraction, rest⟩ ⟨other, tail⟩ ⟨same, later⟩
  cases same
  refine (exponentPart_alike later).bind ?_
  rintro ⟨exponent, rest⟩ ⟨other, tail⟩ ⟨same, later⟩
  cases same
  exact .some ⟨rfl, later⟩

/-! ## Values -/

/-- Two texts that are alike, or two values that are no texts. -/
def StringAlike (first second : Json) : Prop := Both TextAlike first.asString? second.asString?

/-- A reader that accepts plain texts only reads alike values alike. -/
theorem StringAlike.bind {α : Type} {first second : Json} (alike : StringAlike first second)
    (read : JsString → Option α) (plain : ∀ text value, read text = some value → Plain text) :
    first.asString?.bind read = second.asString?.bind read := by
  unfold StringAlike at alike
  generalize first.asString? = left at alike
  generalize second.asString? = right at alike
  cases alike with
  | none => rfl
  | @some text other here =>
      show read text = read other
      cases found : read text with
      | some value =>
          rw [here.eq_of_plain (plain text value found)] at found
          exact found.symm
      | none =>
          cases there : read other with
          | none => rfl
          | some value =>
              rw [here.symm.eq_of_plain (plain other value there), found] at there
              cases there

/-- What plain names find in two objects, and whether all their names are among plain ones. -/
structure FieldsAlike (first second : List (JsString × Json)) : Prop where
  lookups : ∀ name, Plain name →
    Both StringAlike (JsMap.lookupEntry name first) (JsMap.lookupEntry name second)
  names : ∀ known : List JsString, (∀ name ∈ known, Plain name) →
    (first.map Prod.fst).all known.contains = (second.map Prod.fst).all known.contains

def fields? : Json → Option (List (JsString × Json))
  | .obj fields => some fields
  | _ => none

structure ValueAlike (first second : Json) : Prop where
  text : StringAlike first second
  fields : Both FieldsAlike (fields? first) (fields? second)

theorem ValueAlike.hasOnly {first second : Json} (alike : ValueAlike first second) {known : List JsString}
    (plain : ∀ name ∈ known, Plain name) : first.hasOnly known = second.hasOnly known := by
  have fields := alike.fields
  have shape : ∀ value : Json, value.hasOnly known =
      match fields? value with
      | some fields => (fields.map Prod.fst).all known.contains
      | none => false := by
    intro value
    cases value <;> rfl
  rw [shape first, shape second]
  generalize fields? first = left at fields
  generalize fields? second = right at fields
  cases fields with
  | none => rfl
  | some both => exact both.names known plain

/-- A reader of texts reads a plainly named field of alike values alike. -/
theorem ValueAlike.field {α : Type} {first second : Json} (alike : ValueAlike first second) {name : JsString}
    (plain : Plain name) (read : Json → Option α)
    (reads : ∀ one other, StringAlike one other → read one = read other) :
    (first.field? name).bind read = (second.field? name).bind read := by
  have fields := alike.fields
  have shape : ∀ value : Json, value.field? name = (fields? value).bind (JsMap.lookupEntry name) := by
    intro value
    cases value <;> rfl
  rw [shape first, shape second]
  generalize fields? first = left at fields
  generalize fields? second = right at fields
  cases fields with
  | none => rfl
  | @some one other both =>
      have found := both.lookups name plain
      show (JsMap.lookupEntry name one).bind read = (JsMap.lookupEntry name other).bind read
      generalize JsMap.lookupEntry name one = left at found
      generalize JsMap.lookupEntry name other = right at found
      cases found with
      | none => rfl
      | some here => exact reads _ _ here

/-- Values that are neither texts nor objects are not told apart. -/
theorem ValueAlike.other {first second : Json} (left : first.asString? = none ∧ fields? first = none)
    (right : second.asString? = none ∧ fields? second = none) : ValueAlike first second := by
  constructor
  · rw [StringAlike, left.1, right.1]
    exact .none
  · rw [left.2, right.2]
    exact .none

theorem FieldsAlike.nil : FieldsAlike [] [] :=
  ⟨fun _ _ => .none, fun _ _ => rfl⟩

theorem all_setEntry (accepts : JsString → Bool) (name : JsString) (value : Json) (fields : List (JsString × Json)) :
    ((JsMap.setEntry name value fields).map Prod.fst).all accepts =
      (accepts name && (fields.map Prod.fst).all accepts) := by
  induction fields with
  | nil => rfl
  | cons field rest ih =>
      obtain ⟨other, old⟩ := field
      unfold JsMap.setEntry
      split
      · next same =>
          subst same
          simp only [List.map_cons, List.all_cons, ← Bool.and_assoc, Bool.and_self]
      · simp only [List.map_cons, List.all_cons, ih, Bool.and_left_comm]

theorem contains_alike {known : List JsString} (plain : ∀ name ∈ known, Plain name) {first second : JsString}
    (alike : TextAlike first second) : known.contains first = known.contains second := by
  rw [Bool.eq_iff_iff, List.contains_iff_mem, List.contains_iff_mem]
  constructor
  · intro member
    exact (alike.eq_iff (plain first member)).mp rfl ▸ member
  · intro member
    exact (alike.eq_iff (plain second member)).mpr rfl ▸ member

theorem FieldsAlike.set {first second : List (JsString × Json)} (alike : FieldsAlike first second)
    {name other : JsString} (named : TextAlike name other) {value read : Json} (valued : StringAlike value read) :
    FieldsAlike (JsMap.setEntry name value first) (JsMap.setEntry other read second) where
  lookups := by
    intro found plain
    rw [JsMap.lookupEntry_setEntry, JsMap.lookupEntry_setEntry]
    by_cases here : name = found
    · rw [if_pos here, if_pos ((named.eq_iff plain).mp here)]
      exact .some valued
    · rw [if_neg here, if_neg fun same => here ((named.eq_iff plain).mpr same)]
      exact alike.lookups found plain
  names := by
    intro known plain
    rw [all_setEntry, all_setEntry, alike.names known plain, contains_alike plain named]

/-- A value, and what follows it. -/
def ResultAlike (first second : Json × JsString) : Prop :=
  ValueAlike first.1 second.1 ∧ TextAlike first.2 second.2

theorem isPrefixOf_alike {word : JsString} (plain : Plain word) {first second : JsString}
    (alike : TextAlike first second) : word.isPrefixOf first = word.isPrefixOf second := by
  induction word generalizing first second with
  | nil => rfl
  | cons unit rest ih =>
      cases alike with
      | nil => rfl
      | @cons head other tail more here later =>
          have same : (unit == head) = (unit == other) := by
            rw [Bool.eq_iff_iff, beq_iff_eq, beq_iff_eq, eq_comm, here.eq_iff (plain unit List.mem_cons_self), eq_comm]
          rw [List.isPrefixOf_cons_cons, List.isPrefixOf_cons_cons, same,
            ih (fun one member => plain one (List.mem_cons_of_mem _ member)) later]

theorem parseWord_alike {word : JsString} (plain : Plain word) {value : Json}
    (other : value.asString? = none ∧ fields? value = none) {first second : JsString}
    (alike : TextAlike first second) : Both ResultAlike (parseWord word value first) (parseWord word value second) := by
  rw [parseWord, parseWord, isPrefixOf_alike plain alike]
  split
  · exact .some ⟨.other other other, List.forall₂_drop _ alike⟩
  · exact .none

section Values

variable (numeral : JsString → Option Int)

theorem numberOf_other (literal : JsString) :
    (numberOf numeral literal).asString? = none ∧ fields? (numberOf numeral literal) = none := by
  unfold numberOf
  split <;> exact ⟨rfl, rfl⟩

/-- The three readers at one depth. -/
structure ReadersAlike (fuel : Nat) : Prop where
  value : ∀ first second, TextAlike first second →
    Both ResultAlike (parseValue numeral fuel first) (parseValue numeral fuel second)
  items : ∀ first second, TextAlike first second →
    Both (fun left right => TextAlike left.2 right.2) (parseItems numeral fuel first) (parseItems numeral fuel second)
  fields : ∀ first second seen other, TextAlike first second → FieldsAlike seen other →
    Both (fun left right => FieldsAlike left.1 right.1 ∧ TextAlike left.2 right.2)
      (parseFields numeral fuel first seen) (parseFields numeral fuel second other)

variable {numeral}

theorem ReadersAlike.value_succ {fuel : Nat} (readers : ReadersAlike numeral fuel) {first second : JsString}
    (alike : TextAlike first second) :
    Both ResultAlike (parseValue numeral (fuel + 1) first) (parseValue numeral (fuel + 1) second) := by
  have whole := alike
  cases alike with
  | nil => exact .none
  | @cons head other rest tail here later =>
      have same : ∀ {unit : UInt16}, unit.toNat < 0xD800 → (head = unit ↔ other = unit) := here.eq_iff
      unfold parseValue
      simp only [@same 123 (by decide), @same 91 (by decide), @same 34 (by decide), @same 116 (by decide),
        @same 102 (by decide), @same 110 (by decide)]
      split
      · have closed := @afterUnit_alike 125 (by decide) rest tail later
        generalize afterUnit 125 rest = left at closed
        generalize afterUnit 125 tail = right at closed
        cases closed with
        | some remaining => exact .some ⟨⟨.none, .some .nil⟩, remaining⟩
        | none =>
            exact (readers.fields _ _ _ _ later .nil).map fun _ _ both => ⟨⟨.none, .some both.1⟩, both.2⟩
      · split
        · have closed := @afterUnit_alike 93 (by decide) rest tail later
          generalize afterUnit 93 rest = left at closed
          generalize afterUnit 93 tail = right at closed
          cases closed with
          | some remaining => exact .some ⟨⟨.none, .none⟩, remaining⟩
          | none => exact (readers.items _ _ later).map fun _ _ both => ⟨⟨.none, .none⟩, both⟩
        · split
          · exact (parseString_alike later).map fun _ _ both => ⟨⟨.some both.1, .none⟩, both.2⟩
          · split
            · exact parseWord_alike (plain_of_all (by decide)) ⟨rfl, rfl⟩ whole
            · split
              · exact parseWord_alike (plain_of_all (by decide)) ⟨rfl, rfl⟩ whole
              · split
                · exact parseWord_alike (plain_of_all (by decide)) ⟨rfl, rfl⟩ whole
                · refine (parseNumeral_alike whole).map ?_
                  rintro ⟨literal, rest⟩ ⟨other, tail⟩ ⟨same, remaining⟩
                  cases same
                  exact ⟨.other (numberOf_other numeral literal) (numberOf_other numeral literal), remaining⟩

theorem ReadersAlike.items_succ {fuel : Nat} (readers : ReadersAlike numeral fuel) {first second : JsString}
    (alike : TextAlike first second) :
    Both (fun left right => TextAlike left.2 right.2) (parseItems numeral (fuel + 1) first)
      (parseItems numeral (fuel + 1) second) := by
  unfold parseItems
  refine (readers.value _ _ (skipSpace_alike alike)).bind ?_
  rintro ⟨item, rest⟩ ⟨other, tail⟩ ⟨-, later⟩
  have closed := @afterUnit_alike 93 (by decide) rest tail later
  dsimp only
  generalize afterUnit 93 rest = left at closed
  generalize afterUnit 93 tail = right at closed
  cases closed with
  | some remaining => exact .some remaining
  | none =>
      refine (@afterUnit_alike 44 (by decide) rest tail later).bind ?_
      intro more others separated
      refine (readers.items _ _ separated).bind ?_
      intro one two remaining
      exact .some remaining

theorem ReadersAlike.fields_succ {fuel : Nat} (readers : ReadersAlike numeral fuel) {first second : JsString}
    {seen other : List (JsString × Json)} (alike : TextAlike first second) (before : FieldsAlike seen other) :
    Both (fun left right => FieldsAlike left.1 right.1 ∧ TextAlike left.2 right.2)
      (parseFields numeral (fuel + 1) first seen) (parseFields numeral (fuel + 1) second other) := by
  unfold parseFields
  refine (afterUnit_alike (by decide) alike).bind ?_
  intro named others quoted
  refine (parseString_alike quoted).bind ?_
  rintro ⟨name, rest⟩ ⟨called, tail⟩ ⟨names, later⟩
  refine (afterUnit_alike (by decide) later).bind ?_
  intro valued others separated
  refine (readers.value _ _ (skipSpace_alike separated)).bind ?_
  rintro ⟨value, rest⟩ ⟨read, tail⟩ ⟨values, later⟩
  have fields := before.set names values.text
  have closed := @afterUnit_alike 125 (by decide) rest tail later
  dsimp only
  generalize afterUnit 125 rest = left at closed
  generalize afterUnit 125 tail = right at closed
  cases closed with
  | some remaining => exact .some ⟨fields, remaining⟩
  | none =>
      refine (@afterUnit_alike 44 (by decide) rest tail later).bind ?_
      intro more others again
      exact readers.fields _ _ _ _ again fields

/-- The readers find alike values in alike texts, at every depth. -/
theorem readersAlike (fuel : Nat) : ReadersAlike numeral fuel := by
  induction fuel with
  | zero => exact ⟨fun _ _ _ => .none, fun _ _ _ => .none, fun _ _ _ _ _ _ => .none⟩
  | succ fuel ih =>
      constructor
      case value => exact fun _ _ alike => ih.value_succ alike
      case items => exact fun _ _ alike => ih.items_succ alike
      case fields => exact fun _ _ _ _ alike before => ih.fields_succ alike before

/-- Alike texts are parsed to alike values. -/
theorem parse_alike {first second : JsString} (alike : TextAlike first second) :
    Both ValueAlike (parse numeral first) (parse numeral second) := by
  unfold parse
  rw [alike.length_eq]
  refine ((readersAlike _).value _ _ (skipSpace_alike alike)).bind ?_
  rintro ⟨value, rest⟩ ⟨read, tail⟩ ⟨values, later⟩
  have skipped := skipSpace_alike later
  have ends : skipSpace rest = [] ↔ skipSpace tail = [] := by
    generalize skipSpace rest = left at skipped
    generalize skipSpace tail = right at skipped
    cases skipped with
    | nil => exact Iff.rfl
    | cons here there => simp
  simp only [ends]
  split
  · exact .some values
  · exact .none

end Values

end KernelJson.Foundation.JsonSurrogates
