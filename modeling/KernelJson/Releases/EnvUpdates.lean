import KernelJson.Releases.EnvReadings

/-!
# The updates of a merge

What a merge accepts as updates: keys of the two lists, in capitals, and values
without an end of a line in them, but for a newline at the end of a public one.
-/

namespace KernelJson.Releases.RuntimeEnv

open Foundation
open Foundation.TextLines

/-! ## Characters that end lines -/

def boundaries : List Char :=
  [0x0A, 0x0B, 0x0C, 0x0D, 0x1C, 0x1D, 0x1E, 0x85, 0x2028, 0x2029].map Char.ofNat

theorem mem_boundaries {char : Char} (boundary : isBoundary char = true) : char ∈ boundaries := by
  refine List.mem_map.mpr ⟨char.toNat, ?_, Char.ofNat_toNat char⟩
  simpa [isBoundary] using boundary

/-- No character that ends a line is accepted. -/
def Piece.isSolid (piece : Piece) : Bool :=
  boundaries.all fun char => !piece.accepts char

def Shape.isSolid (shape : Shape) : Bool :=
  shape.all fun pieces => pieces.all Piece.isSolid

theorem publicKeys_solid : publicKeys.all (fun entry => entry.2.isSolid) = true := by
  decide

section Secrets

variable {isDecimal : Char → Bool}

theorem secretKeys_solid (digits : ∀ char, isDecimal char = true → isSpace char = false) :
    (secretKeys isDecimal).all (fun entry => entry.2.isSolid) = true := by
  have decimal : ∀ least most, (Piece.mk isDecimal least most).isSolid = true := by
    intro least most
    have space : boundaries.all isSpace = true := by decide
    refine List.all_eq_true.mpr ?_
    intro char member
    by_contra wrong
    have solid := digits char (by simpa using wrong)
    rw [List.all_eq_true.mp space char member] at solid
    cases solid
  have token : Shape.isSolid [[⟨isDecimal, 6, 12⟩, one ':', ⟨urlSafe, 35, 35⟩]] = true := by
    rw [Shape.isSolid, List.all_cons, List.all_cons, decimal]
    decide
  have chat : Shape.isSolid [[⟨(· == '-'), 0, 1⟩, ⟨isDecimal, 5, 20⟩]] = true := by
    rw [Shape.isSolid, List.all_cons, List.all_cons, List.all_cons, decimal]
    decide
  rw [secretKeys, List.all_cons, List.all_cons, token, chat]
  decide

/-- A text that is a sequence of pieces has only what the pieces accept. -/
theorem accepted_of_isSequence {pieces : List Piece} {text : Text} (fits : isSequence pieces text = true) :
    ∀ char ∈ text, ∃ piece ∈ pieces, piece.accepts char = true := by
  induction pieces generalizing text with
  | nil =>
      rw [isSequence, List.isEmpty_iff] at fits
      simp [fits]
  | cons piece rest ih =>
      obtain ⟨count, -, parts⟩ := List.any_eq_true.mp fits
      simp only [Bool.and_eq_true, List.all_eq_true] at parts
      obtain ⟨⟨-, here⟩, later⟩ := parts
      intro char member
      rw [← List.take_append_drop count text] at member
      rcases List.mem_append.mp member with early | late
      · exact ⟨piece, List.mem_cons_self, here char early⟩
      · obtain ⟨other, inside, accepts⟩ := ih later char late
        exact ⟨other, List.mem_cons_of_mem _ inside, accepts⟩

theorem Shape.inner_of_solid {shape : Shape} (solid : shape.isSolid = true) {value : Text}
    (fits : shape.fits value = true) : ∀ char ∈ value, isBoundary char = false := by
  obtain ⟨pieces, listed, sequence⟩ := List.any_eq_true.mp fits
  intro char member
  obtain ⟨piece, inside, accepts⟩ := accepted_of_isSequence sequence char member
  by_contra boundary
  have pieceSolid := List.all_eq_true.mp (List.all_eq_true.mp solid pieces listed) piece inside
  have refused := List.all_eq_true.mp pieceSolid char (mem_boundaries (by simpa using boundary))
  rw [accepts] at refused
  cases refused

/-- A value that a pattern matches has no end of a line in it, unless it ends in a newline. -/
theorem Shape.plain_of_solid {shape : Shape} (solid : shape.isSolid = true) {value : Text}
    (found : shape.matches value = true)
    (unended : value.getLast? ≠ some '\n') : ∀ char ∈ value, isBoundary char = false := by
  unfold Shape.matches at found
  simp only [unended, decide_false, Bool.false_and, Bool.or_false] at found
  exact inner_of_solid solid found

/-! ## Keys -/

def isKeyChar (char : Char) : Bool :=
  char.isUpper || char.isDigit || char == '_'

/-- A key that can be set. -/
structure SettableKey (key : Text) : Prop where
  present : key ≠ []
  capitals : ∀ char ∈ key, isKeyChar char = true
  otherKey : key ≠ "DATABASE_URL".toList

instance (key : Text) : Decidable (SettableKey key) :=
  decidable_of_iff (key ≠ [] ∧ key.all isKeyChar = true ∧ key ≠ "DATABASE_URL".toList)
    ⟨fun parts => ⟨parts.1, List.all_eq_true.mp parts.2.1, parts.2.2⟩,
      fun key => ⟨key.present, List.all_eq_true.mpr key.capitals, key.otherKey⟩⟩

theorem publicKeys_settable : ∀ entry ∈ publicKeys, SettableKey entry.1.toList := by
  decide

theorem secretKeys_settable : ∀ entry ∈ secretKeys isDecimal, SettableKey entry.1.toList := by
  have names : ∀ name ∈ (secretKeys Char.isDigit).map Prod.fst, SettableKey name.toList := by decide
  have same : (secretKeys isDecimal).map Prod.fst = (secretKeys Char.isDigit).map Prod.fst := rfl
  intro entry member
  refine names entry.1 ?_
  rw [← same]
  exact List.mem_map_of_mem member

theorem SettableKey.head {key : Text} (settable : SettableKey key) :
    ∃ first rest, key = first :: rest ∧ isKeyChar first = true := by
  cases key with
  | nil => exact absurd rfl settable.present
  | cons first rest => exact ⟨first, rest, rfl, settable.capitals first List.mem_cons_self⟩

theorem SettableKey.not_mem {key : Text} (settable : SettableKey key) {char : Char}
    (other : isKeyChar char = false) :
    char ∉ key := by
  intro member
  rw [settable.capitals char member] at other
  cases other

def blanks : List Char :=
  [0x09, 0x1F, 0x20, 0xA0, 0x1680, 0x2000, 0x2001, 0x2002, 0x2003, 0x2004, 0x2005, 0x2006, 0x2007,
    0x2008, 0x2009,
    0x200A, 0x202F, 0x205F, 0x3000].map Char.ofNat

theorem mem_blanks {char : Char} (space : isSpace char = true) : char ∈ boundaries ++ blanks := by
  rcases Bool.or_eq_true_iff.mp space with boundary | blank
  · exact List.mem_append_left _ (mem_boundaries boundary)
  · refine List.mem_append_right _ (List.mem_map.mpr ⟨char.toNat, ?_, Char.ofNat_toNat char⟩)
    simpa using blank

theorem isSpace_of_isKeyChar {char : Char} (known : isKeyChar char = true) : isSpace char = false := by
  have apart : (boundaries ++ blanks).all (fun char => !isKeyChar char) = true := by decide
  by_contra space
  have other := List.all_eq_true.mp apart char (mem_blanks (by simpa using space))
  rw [known] at other
  cases other

theorem mem_of_shapeOf {keys : List (String × Shape)} {key : Text} {shape : Shape}
    (found : shapeOf keys key = some shape) : ∃ entry ∈ keys, entry.1.toList = key ∧ entry.2 = shape := by
  obtain ⟨entry, first, rfl⟩ := Option.map_eq_some_iff.mp found
  exact ⟨entry, List.mem_of_find?_eq_some first, by simpa using List.find?_some first, rfl⟩

/-! ## Accepted updates -/

/-- Updates of settable keys, with values of the shapes of these keys. -/
structure Settable (updates : JsMap Text Text) : Prop where
  keys : ∀ key value, updates.get? key = some value → SettableKey key
  values : ∀ key value, updates.get? key = some value → value.getLast? ≠ some '\n' →
    ∀ char ∈ value, isBoundary char = false

theorem settable_empty : Settable .empty where
  keys := fun _ _ impossible => by cases impossible
  values := fun _ _ impossible => by cases impossible

theorem Settable.set {updates : JsMap Text Text} (settable : Settable updates) {key value : Text}
    (known : SettableKey key)
    (plain : value.getLast? ≠ some '\n' → ∀ char ∈ value, isBoundary char = false) :
    Settable (updates.set key value) := by
  constructor
  · intro other found stored
    rw [JsMap.get?_set] at stored
    split at stored
    · next same => exact same ▸ known
    · exact settable.keys other found stored
  · intro other found stored
    rw [JsMap.get?_set] at stored
    split at stored
    · cases stored
      exact plain
    · exact settable.values other found stored

theorem Settable.public {updates after : JsMap Text Text} (settable : Settable updates) {spec : Text}
    (done : setPublicKey isDecimal updates spec = .ok after) : Settable after := by
  unfold setPublicKey at done
  simp only at done
  split at done
  · cases done
  · split at done
    · cases done
    · next shape found =>
        split at done
        · next matched =>
            cases done
            obtain ⟨entry, member, same, rfl⟩ := mem_of_shapeOf found
            refine settable.set (same ▸ publicKeys_settable entry member) ?_
            exact Shape.plain_of_solid (List.all_eq_true.mp publicKeys_solid entry member) matched
        · cases done

theorem Settable.secret (digits : ∀ char, isDecimal char = true → isSpace char = false)
    {files : Text → Except Text Text} {updates after : JsMap Text Text} (settable : Settable updates) {spec : Text}
    (done : setSecretKey isDecimal files updates spec = .ok after) : Settable after := by
  unfold setSecretKey at done
  simp only at done
  split at done
  · cases done
  · next shape found =>
      cases read : files (TextLines.after '=' spec) with
      | error refused =>
          rw [read] at done
          cases done
      | ok text =>
          rw [read] at done
          simp only [Except.bind] at done
          split at done
          · next matched =>
              cases done
              obtain ⟨entry, member, same, rfl⟩ := mem_of_shapeOf found
              refine settable.set (same ▸ secretKeys_settable entry member) ?_
              exact Shape.plain_of_solid (List.all_eq_true.mp (secretKeys_solid digits) entry member) matched
          · cases done

/-- A fold that may be refused keeps what its steps keep. -/
theorem foldlM_keeps {State Input Refusal : Type} {step : State → Input → Except Refusal State}
    {Keeps : State → Prop}
    (steps : ∀ before input after, Keeps before → step before input = .ok after →
      Keeps after) {inputs : List Input}
    {before after : State} (start : Keeps before) (done : inputs.foldlM step before = .ok after) : Keeps after := by
  induction inputs generalizing before with
  | nil =>
      cases done
      exact start
  | cons input rest ih =>
      rw [List.foldlM_cons] at done
      cases one : step before input with
      | error refused =>
          rw [one] at done
          cases done
      | ok middle =>
          rw [one] at done
          exact ih (steps before input middle start one) done

/-- What a merge accepts. -/
structure Accepted (base : Text) (lines : List Text) (values updates : JsMap Text Text) : Prop where
  parsed : parse base = .ok (lines, values)
  database : ∃ value, values.get? "DATABASE_URL".toList = some value
  settable : Settable updates
  present : updates.entries ≠ []

theorem accepted_of_accept (digits : ∀ char, isDecimal char = true → isSpace char = false)
    {files : Text → Except Text Text} {base : Text} {request : Request} {lines : List Text}
    {values updates : JsMap Text Text} (done : accept isDecimal files base request = .ok (lines,
      values, updates)) :
    Accepted base lines values updates := by
  unfold accept at done
  cases parsed : parse base with
  | error refused =>
      rw [parsed] at done
      cases done
  | ok found =>
      obtain ⟨baseLines, read⟩ := found
      rw [parsed] at done
      simp only [bind, Except.bind] at done
      split at done
      · cases done
      · split at done
        · cases done
        · next database =>
            split at done
            · cases done
            · next settled first =>
                split at done
                · cases done
                · next updated second =>
                    split at done
                    · cases done
                    · next present =>
                        cases done
                        have middle : Settable settled := foldlM_keeps
                          (fun _ _ _ kept step => Settable.public kept step) settable_empty first
                        have last : Settable updates := foldlM_keeps
                          (fun _ _ _ kept step => Settable.secret digits kept step) middle second
                        have stored : values.get? "DATABASE_URL".toList ≠ none := by simpa using database
                        refine ⟨parsed, Option.ne_none_iff_exists'.mp stored, last, ?_⟩
                        simpa using present

end Secrets

end KernelJson.Releases.RuntimeEnv
