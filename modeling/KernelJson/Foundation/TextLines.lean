import Mathlib.Data.List.DropRight
import Mathlib.Data.List.Basic

/-!
# Lines of a text

A text is split at the characters of a set, and each line keeps the characters
that end it.  A carriage return and a newline after it end one line together.
The last line may be unfinished.
-/

namespace KernelJson.Foundation.TextLines

abbrev Text := List Char

/-! ## Splitting -/

/-- The lines of a text, with their ends. -/
def splitLines (ends : Char → Bool) : Text → List Text
  | [] => []
  | '\r' :: '\n' :: rest => ['\r', '\n'] :: splitLines ends rest
  | first :: rest =>
      if ends first then [first] :: splitLines ends rest
      else
        match splitLines ends rest with
        | [] => [[first]]
        | line :: others => (first :: line) :: others

/-- What ends a line. -/
inductive Mark (ends : Char → Bool) : Text → Prop where
  | single (last : Char) : ends last = true → Mark ends [last]
  | both : Mark ends ['\r', '\n']

/-- A text and its lines. -/
inductive SplitsInto (ends : Char → Bool) : Text → List Text → Prop where
  | nil : SplitsInto ends [] []
  | unfinished (body : Text) : body ≠ [] → (∀ char ∈ body, ends char = false) → SplitsInto ends body [body]
  | line (body mark rest : Text) {lines : List Text} : (∀ char ∈ body, ends char = false) → Mark ends mark →
      (mark = ['\r'] → rest.head? ≠ some '\n') → SplitsInto ends rest lines →
      SplitsInto ends (body ++ (mark ++ rest)) ((body ++ mark) :: lines)

section Splitting

variable {ends : Char → Bool}

theorem splitLines_single {first : Char} {rest : Text} (apart : first = '\r' → rest.head? ≠ some '\n') :
    splitLines ends (first :: rest) =
      if ends first then [first] :: splitLines ends rest
      else
        match splitLines ends rest with
        | [] => [[first]]
        | line :: others => (first :: line) :: others := by
  rw [splitLines.eq_def]
  split
  · contradiction
  · next same =>
      cases same
      exact absurd rfl (apart rfl)
  · next same =>
      cases same
      rfl

/-- A finished line is split off. -/
theorem splitLines_line (newline : ends '\n' = true) {body mark rest : Text}
    (inner : ∀ char ∈ body, ends char = false) (marked : Mark ends mark)
    (apart : mark = ['\r'] → rest.head? ≠ some '\n') :
    splitLines ends (body ++ (mark ++ rest)) = (body ++ mark) :: splitLines ends rest := by
  induction body with
  | nil =>
      cases marked with
      | both => rfl
      | single last isEnd =>
          have single : last = '\r' → rest.head? ≠ some '\n' := by
            rintro rfl
            exact apart rfl
          rw [List.nil_append, List.nil_append, List.singleton_append, splitLines_single single, if_pos isEnd]
  | cons first others ih =>
      have keep := inner first List.mem_cons_self
      have split := ih fun char member => inner char (List.mem_cons_of_mem _ member)
      by_cases crlf : first = '\r' ∧ (others ++ (mark ++ rest)).head? = some '\n'
      · obtain ⟨rfl, next⟩ := crlf
        cases others with
        | cons second more =>
            cases Option.some.inj next
            have excluded := inner '\n' (List.mem_cons_of_mem _ List.mem_cons_self)
            rw [newline] at excluded
            cases excluded
        | nil =>
            cases marked with
            | both => cases Option.some.inj next
            | single last isEnd =>
                cases Option.some.inj next
                rfl
      · have single : first = '\r' → (others ++ (mark ++ rest)).head? ≠ some '\n' :=
          fun same next => crlf ⟨same, next⟩
        rw [List.cons_append, splitLines_single single, keep, split]
        rfl

/-- A text without ends is one line. -/
theorem splitLines_unfinished (newline : ends '\n' = true) {body : Text} (present : body ≠ [])
    (inner : ∀ char ∈ body, ends char = false) : splitLines ends body = [body] := by
  induction body with
  | nil => exact absurd rfl present
  | cons first others ih =>
      have keep := inner first List.mem_cons_self
      have rest : ∀ char ∈ others, ends char = false :=
          fun char member => inner char (List.mem_cons_of_mem _ member)
      have single : first = '\r' → others.head? ≠ some '\n' := by
        intro _ next
        rw [rest '\n' (List.mem_of_mem_head? next)] at newline
        cases newline
      rw [splitLines_single single, keep]
      cases others with
      | nil => rfl
      | cons second more => rw [ih (List.cons_ne_nil _ _) rest]; rfl

/-- A text splits into its lines in one way. -/
theorem SplitsInto.lines_eq (newline : ends '\n' = true) {text : Text} {lines : List Text}
    (splits : SplitsInto ends text lines) : lines = splitLines ends text := by
  induction splits with
  | nil => rfl
  | unfinished body present inner => exact (splitLines_unfinished newline present inner).symm
  | line body mark rest inner marked apart _ ih => rw [splitLines_line newline inner marked apart, ih]

/-- Every text splits into its lines. -/
theorem splitsInto (text : Text) : SplitsInto ends text (splitLines ends text) := by
  fun_induction splitLines ends text with
  | case1 => exact .nil
  | case2 rest ih => exact .line [] _ rest (by simp) .both (by simp) ih
  | case3 first rest crlf isEnd ih =>
      refine .line [] [first] rest (by simp) (.single first isEnd) ?_ ih
      intro same next
      obtain ⟨more, rfl⟩ := List.head?_eq_some_iff.mp next
      exact crlf more (List.singleton_inj.mp same) rfl
  | case4 first rest _ inner none ih =>
      rw [none] at ih
      cases ih
      refine .unfinished [first] (List.cons_ne_nil _ _) ?_
      simpa using inner
  | case5 first rest _ inner line others found ih =>
      rw [found] at ih
      have here : ends first = false := by simpa using inner
      cases ih with
      | unfinished _ _ body =>
          exact .unfinished _ (List.cons_ne_nil _ _) (List.forall_mem_cons.mpr ⟨here, body⟩)
      | line body mark more outside marked apart rest =>
          exact .line (first :: body) mark more (List.forall_mem_cons.mpr ⟨here, outside⟩) marked apart rest

theorem splitsInto_iff (newline : ends '\n' = true) {text : Text} {lines : List Text} :
    SplitsInto ends text lines ↔ splitLines ends text = lines := by
  constructor
  · exact fun splits => (splits.lines_eq newline).symm
  · rintro rfl
    exact splitsInto text

/-- The lines of a text make up the text. -/
theorem SplitsInto.flatten {text : Text} {lines : List Text} (splits : SplitsInto ends text lines) :
    lines.flatten = text := by
  induction splits with
  | nil => rfl
  | unfinished body _ _ => exact List.flatten_singleton
  | line body mark rest _ _ _ _ ih => rw [List.flatten_cons, ih, List.append_assoc]

theorem SplitsInto.ne_nil {text : Text} {lines : List Text} (splits : SplitsInto ends text lines) :
    ∀ line ∈ lines, line ≠ [] := by
  induction splits with
  | nil => exact fun _ impossible => by cases impossible
  | unfinished body present _ =>
      intro line member
      rw [List.mem_singleton.mp member]
      exact present
  | line body mark rest _ marked _ _ ih =>
      intro line member
      rcases List.mem_cons.mp member with rfl | later
      · cases marked <;> simp
      · exact ih line later

/-- Finished lines are the lines of what they make up. -/
theorem splitLines_flatten (newline : ends '\n' = true) {lines : List Text}
    (finished : ∀ line ∈ lines, ∃ body mark, line = body ++ mark ∧ (∀ char ∈ body, ends char = false) ∧
      Mark ends mark ∧ mark ≠ ['\r']) : splitLines ends lines.flatten = lines := by
  induction lines with
  | nil => rfl
  | cons line rest ih =>
      obtain ⟨body, mark, rfl, inner, marked, apart⟩ := finished line List.mem_cons_self
      rw [List.flatten_cons, List.append_assoc, splitLines_line newline inner marked (absurd · apart)]
      exact congrArg _ (ih fun other member => finished other (List.mem_cons_of_mem _ member))

end Splitting

/-! ## Ends of lines removed -/

/-- Without the newline at its end, and without the carriage return before that. -/
def chomp (line : Text) : Text :=
  match line.reverse with
  | '\n' :: '\r' :: rest => rest.reverse
  | '\n' :: rest => rest.reverse
  | _ => line

theorem chomp_crlf (body : Text) : chomp (body ++ ['\r', '\n']) = body := by
  simp [chomp]

theorem chomp_newline {body : Text} (plain : body.getLast? ≠ some '\r') : chomp (body ++ ['\n']) = body := by
  have head : body.reverse.head? ≠ some '\r' := by rwa [List.head?_reverse]
  unfold chomp
  rw [List.reverse_append, List.reverse_singleton, List.singleton_append]
  split
  · next rest same =>
      rw [(List.cons.inj same).2] at head
      exact absurd rfl head
  · next rest _ same =>
      rw [← (List.cons.inj same).2, List.reverse_reverse]
  · next other => exact absurd rfl (other _)

theorem chomp_unfinished {body : Text} (plain : '\n' ∉ body) : chomp body = body := by
  unfold chomp
  split
  · next rest same =>
      exact absurd (List.mem_reverse.mp (same ▸ List.mem_cons_self)) plain
  · next rest _ same =>
      exact absurd (List.mem_reverse.mp (same ▸ List.mem_cons_self)) plain
  · rfl

theorem chomp_split (line : Text) :
    ∃ mark, line = chomp line ++ mark ∧ (mark = [] ∨ mark = ['\n'] ∨ mark = ['\r', '\n']) := by
  unfold chomp
  split
  · next rest same =>
      refine ⟨['\r', '\n'], ?_, Or.inr (Or.inr rfl)⟩
      rw [← List.reverse_reverse line, same]
      simp
  · next rest _ same =>
      refine ⟨['\n'], ?_, Or.inr (Or.inl rfl)⟩
      rw [← List.reverse_reverse line, same]
      simp
  · exact ⟨[], (List.append_nil line).symm, Or.inl rfl⟩

/-! ## Parts of a line -/

/-- What stands before the first occurrence of a character. -/
def before (char : Char) (text : Text) : Text :=
  text.takeWhile (· != char)

/-- What stands after the first occurrence of a character. -/
def after (char : Char) (text : Text) : Text :=
  (text.dropWhile (· != char)).tail

theorem before_append {char : Char} {key rest : Text} (absent : char ∉ key) :
    before char (key ++ char :: rest) = key := by
  unfold before
  rw [List.takeWhile_append_of_pos]
  · simp
  · intro other member
    have different : other ≠ char := fun same => absent (same ▸ member)
    simpa using different

theorem after_append {char : Char} {key rest : Text} (absent : char ∉ key) :
    after char (key ++ char :: rest) = rest := by
  unfold after
  rw [List.dropWhile_append_of_pos]
  · simp
  · intro other member
    have different : other ≠ char := fun same => absent (same ▸ member)
    simpa using different

/-- A text is cut at the first occurrence of a character. -/
theorem before_after {char : Char} {text : Text} (present : char ∈ text) :
    before char text ++ char :: after char text = text ∧ char ∉ before char text := by
  constructor
  · induction text with
    | nil => cases present
    | cons first rest ih =>
        by_cases same : first = char
        · simp [before, after, same]
        · have inside := (List.mem_cons.mp present).resolve_left (Ne.symm same)
          have split := ih inside
          simp only [before, after] at split
          simp [before, after, same, split]
  · intro inside
    have kept := List.mem_takeWhile_imp inside
    simp at kept

end KernelJson.Foundation.TextLines
