import KernelJson.Releases.RuntimeEnv

/-!
# Readings of an env file

The tool reads the lines of `splitlines`; the deployment reads lines that end in
newlines, and drops some blanks before a key.  On tidy texts the two agree.  Of
any text that the tool accepts there are two more with the same assignments for
the tool: one that the deployment reads as one comment, and one in which it finds
every assignment that the tool finds.
-/

namespace KernelJson.Releases.RuntimeEnv

open Foundation
open Foundation.TextLines

/-! ## Trimming -/

theorem isBoundary_newline : isBoundary '\n' = true := by decide

theorem isBoundary_return : isBoundary '\r' = true := by decide

theorem isSpace_of_isBoundary {char : Char} (boundary : isBoundary char = true) : isSpace char = true := by
  rw [isSpace, boundary, Bool.true_or]

/-- Characters that are dropped at the end of a text do not matter to what is dropped there. -/
theorem rdropWhile_append {drops : Char → Bool} {text tail : Text} (all : ∀ char ∈ tail, drops char = true) :
    (text ++ tail).rdropWhile drops = text.rdropWhile drops := by
  induction tail using List.reverseRecOn with
  | nil => rw [List.append_nil]
  | append_singleton rest last ih =>
      rw [← List.append_assoc, List.rdropWhile_concat_pos _ _ _ (all last (by simp))]
      exact ih fun char member => all char (List.mem_append_left _ member)

theorem rdropWhile_append_split (drops : Char → Bool) (text : Text) :
    ∃ tail, text = text.rdropWhile drops ++ tail ∧ ∀ char ∈ tail, drops char = true := by
  induction text using List.reverseRecOn with
  | nil => exact ⟨[], rfl, by simp⟩
  | append_singleton rest last ih =>
      by_cases dropped : drops last = true
      · obtain ⟨tail, same, all⟩ := ih
        refine ⟨tail ++ [last], ?_, ?_⟩
        · rw [List.rdropWhile_concat_pos _ _ _ dropped, ← List.append_assoc, ← same]
        · intro char member
          rcases List.mem_append.mp member with inside | here
          · exact all char inside
          · rw [List.mem_singleton.mp here]
            exact dropped
      · refine ⟨[], ?_, by simp⟩
        rw [List.rdropWhile_concat_neg _ _ _ dropped, List.append_nil]

/-- Spaces at the end do not matter to `strip`. -/
theorem strip_append {text tail : Text} (spaces : ∀ char ∈ tail, isSpace char = true) :
    strip (text ++ tail) = strip text := by
  unfold strip
  rw [List.dropWhile_append]
  split
  · next empty =>
      rw [List.isEmpty_iff.mp empty, List.dropWhile_eq_nil_iff.mpr spaces]
  · exact rdropWhile_append spaces

/-- A character that is no space is kept by `strip`. -/
theorem mem_strip {text : Text} {char : Char} (solid : isSpace char = false) :
    char ∈ strip text ↔ char ∈ text := by
  obtain ⟨tail, same, all⟩ := rdropWhile_append_split isSpace (text.dropWhile isSpace)
  constructor
  · intro inside
    have later : char ∈ text.dropWhile isSpace := by
      rw [same]
      exact List.mem_append_left _ inside
    exact (List.dropWhile_sublist _).subset later
  · intro inside
    rw [← @List.takeWhile_append_dropWhile _ isSpace text] at inside
    rcases List.mem_append.mp inside with early | late
    · rw [List.mem_takeWhile_imp early] at solid
      cases solid
    · rw [same] at late
      rcases List.mem_append.mp late with kept | dropped
      · exact kept
      · rw [all char dropped] at solid
        cases solid

/-- A text that starts with no space starts the same way when it is stripped. -/
theorem head?_strip {text : Text} {first : Char} (starts : text.head? = some first)
    (solid : isSpace first = false) :
    (strip text).head? = some first := by
  obtain ⟨rest, rfl⟩ := List.head?_eq_some_iff.mp starts
  have kept : (first :: rest).dropWhile isSpace = first :: rest := by
    rw [List.dropWhile_cons, solid]
    rfl
  have present : first ∈ strip (first :: rest) := (mem_strip solid).mpr List.mem_cons_self
  obtain ⟨tail, same, -⟩ := rdropWhile_append_split isSpace (first :: rest)
  unfold strip at present ⊢
  rw [kept] at present ⊢
  cases stripped : (first :: rest).rdropWhile isSpace with
  | nil =>
      rw [stripped] at present
      cases present
  | cons head others =>
      rw [stripped] at same
      exact congrArg some (List.cons.inj same).1.symm

theorem rstripNewline_append {line tail : Text} (newlines : ∀ char ∈ tail, char = '\r' ∨ char = '\n') :
    rstripNewline (line ++ tail) = rstripNewline line := by
  refine rdropWhile_append ?_
  intro char member
  rcases newlines char member with rfl | rfl <;> rfl

theorem rstripNewline_split (line : Text) :
    ∃ tail, line = rstripNewline line ++ tail ∧ ∀ char ∈ tail, char = '\r' ∨ char = '\n' := by
  obtain ⟨tail, same, all⟩ := rdropWhile_append_split (fun char => char == '\r' || char == '\n') line
  refine ⟨tail, same, ?_⟩
  intro char member
  simpa using all char member

theorem rstripNewline_self {line : Text} (plain : ∀ char ∈ line, isBoundary char = false) :
    rstripNewline line = line := by
  refine List.rdropWhile_eq_self_iff.mpr ?_
  intro present drops
  have inner := plain _ (List.getLast_mem present)
  simp only [Bool.or_eq_true, beq_iff_eq] at drops
  rcases drops with same | same
  · rw [same, isBoundary_return] at inner
    cases inner
  · rw [same, isBoundary_newline] at inner
    cases inner

/-! ## Assignments -/

/-- The assignments that the tool reads in lines. -/
def assignments (lines : List Text) : List (Text × Text) :=
  lines.filterMap assignment

theorem assignments_cons (line : Text) (rest : List Text) :
    assignments (line :: rest) = (assignment line).toList ++ assignments rest := by
  unfold assignments
  cases found : assignment line with
  | none => rw [List.filterMap_cons_none found]; rfl
  | some entry => rw [List.filterMap_cons_some found]; rfl

/-- The end of a line does not matter to what it assigns. -/
theorem assignment_append {line tail : Text} (newlines : ∀ char ∈ tail, char = '\r' ∨ char = '\n') :
    assignment (line ++ tail) = assignment line := by
  have spaces : ∀ char ∈ tail, isSpace char = true := by
    intro char member
    rcases newlines char member with rfl | rfl <;> rfl
  unfold assignment
  rw [strip_append spaces, rstripNewline_append newlines]

theorem assignment_eq_some {line key value : Text} (found : assignment line = some (key, value)) :
    rstripNewline line = key ++ '=' :: value ∧ '=' ∉ key := by
  unfold assignment at found
  simp only at found
  split at found
  · cases found
  · next assigns =>
      have listed : '=' ∈ strip line := by
        by_contra absent
        simp [absent] at assigns
      have inside := (mem_strip (by decide)).mp listed
      obtain ⟨tail, same, newlines⟩ := rstripNewline_split line
      have present : '=' ∈ rstripNewline line := by
        rw [same] at inside
        rcases List.mem_append.mp inside with here | there
        · exact here
        · rcases newlines '=' there with wrong | wrong <;> exact absurd wrong (by decide)
      obtain ⟨joined, absent⟩ := before_after present
      cases found
      exact ⟨joined.symm, absent⟩

/-- The rewriting loop sees the key that is read. -/
theorem lineKey_eq (line : Text) : lineKey line = (assignment line).map Prod.fst := by
  cases found : assignment line with
  | none =>
      unfold assignment at found
      unfold lineKey
      simp only at found ⊢
      split at found
      · next skipped => rw [if_pos skipped]; rfl
      · cases found
  | some entry =>
      obtain ⟨key, value⟩ := entry
      obtain ⟨joined, absent⟩ := assignment_eq_some found
      obtain ⟨tail, same, -⟩ := rstripNewline_split line
      have before : before '=' line = key := by
        rw [same, joined, List.append_assoc, List.cons_append]
        exact before_append absent
      unfold assignment at found
      unfold lineKey
      simp only at found ⊢
      split at found
      · cases found
      · next assigns => rw [if_neg assigns, before]; rfl

/-! ## What is accepted -/

theorem collect_ok {lines : List Text} {start values : JsMap Text Text}
    (done : collect lines start = .ok values) :
    ((assignments lines).map Prod.fst).Nodup ∧ (∀ key ∈ (assignments lines).map Prod.fst,
      start.get? key = none) ∧
      ∀ key value, values.get? key = some value ↔ start.get? key = some value ∨ (key,
        value) ∈ assignments lines := by
  induction lines generalizing start with
  | nil =>
      cases done
      simp [assignments]
  | cons line rest ih =>
      rw [assignments_cons]
      unfold collect at done
      cases found : assignment line with
      | none =>
          rw [found] at done
          exact ih done
      | some entry =>
          obtain ⟨key, value⟩ := entry
          rw [found] at done
          simp only at done
          split at done
          · cases done
          · next fresh =>
              have absent : start.get? key = none := by simpa using fresh
              obtain ⟨nodup, unset, reading⟩ := ih done
              simp only [Option.toList_some, List.singleton_append, List.map_cons]
              refine ⟨List.nodup_cons.mpr ⟨?_, nodup⟩, ?_, ?_⟩
              · intro again
                have impossible := unset key again
                rw [JsMap.get?_set_self] at impossible
                cases impossible
              · intro other member
                rcases List.mem_cons.mp member with rfl | later
                · exact absent
                · have missing := unset other later
                  rw [JsMap.get?_set] at missing
                  split at missing
                  · cases missing
                  · exact missing
              · intro other found
                rw [reading, JsMap.get?_set, List.mem_cons]
                by_cases same : key = other
                · subst same
                  rw [if_pos rfl, absent]
                  constructor
                  · rintro (here | later)
                    · cases here
                      exact Or.inr (Or.inl rfl)
                    · exact Or.inr (Or.inr later)
                  · rintro (impossible | here | later)
                    · cases impossible
                    · cases here
                      exact Or.inl rfl
                    · exact Or.inr later
                · rw [if_neg same]
                  constructor
                  · rintro (earlier | later)
                    · exact Or.inl earlier
                    · exact Or.inr (Or.inr later)
                  · rintro (earlier | here | later)
                    · exact Or.inl earlier
                    · cases here
                      exact absurd rfl same
                    · exact Or.inr later

theorem collect_of {lines : List Text} {start : JsMap Text Text}
    (nodup : ((assignments lines).map Prod.fst).Nodup)
    (unset : ∀ key ∈ (assignments lines).map Prod.fst, start.get? key = none) :
    ∃ values, collect lines start = .ok values := by
  induction lines generalizing start with
  | nil => exact ⟨start, rfl⟩
  | cons line rest ih =>
      rw [assignments_cons] at nodup unset
      unfold collect
      cases found : assignment line with
      | none =>
          rw [found] at nodup unset
          exact ih nodup unset
      | some entry =>
          obtain ⟨key, value⟩ := entry
          rw [found] at nodup unset
          simp only [Option.toList_some, List.singleton_append, List.map_cons] at nodup unset
          obtain ⟨fresh, others⟩ := List.nodup_cons.mp nodup
          simp only [unset key List.mem_cons_self, Option.isSome_none, Bool.false_eq_true, if_false]
          refine ih others ?_
          intro other member
          have different : key ≠ other := fun same => fresh (same ▸ member)
          rw [JsMap.get?_set_of_ne _ different]
          exact unset other (List.mem_cons_of_mem _ member)

/-- A file that is accepted. -/
structure Parsed (text : Text) (values : JsMap Text Text) : Prop where
  unmarked : text.head? ≠ some byteOrderMark
  distinct : ((assignments (splitlines text)).map Prod.fst).Nodup
  reading : ∀ key value, values.get? key = some value ↔ (key, value) ∈ assignments (splitlines text)

theorem parsed_of_parse {text : Text} {lines : List Text} {values : JsMap Text Text}
    (accepted : parse text = .ok (lines, values)) : lines = splitlines text ∧ Parsed text values := by
  unfold parse at accepted
  split at accepted
  · cases accepted
  · next unmarked =>
      cases done : collect (splitlines text) .empty with
      | error refused =>
          rw [done] at accepted
          cases accepted
      | ok found =>
          rw [done] at accepted
          cases accepted
          obtain ⟨distinct, -, reading⟩ := collect_ok done
          exact ⟨rfl, unmarked, distinct, fun key value => by simpa using reading key value⟩

theorem parse_of {text : Text} (unmarked : text.head? ≠ some byteOrderMark)
    (distinct : ((assignments (splitlines text)).map Prod.fst).Nodup) :
    ∃ values, parse text = .ok (splitlines text, values) := by
  obtain ⟨values, done⟩ := @collect_of (splitlines text) .empty distinct fun _ _ => rfl
  refine ⟨values, ?_⟩
  rw [parse, if_neg unmarked, done]
  rfl

theorem mem_keysOf {values : JsMap Text Text} {key : Text} : key ∈ keysOf values ↔ ∃ value,
    values.get? key = some value := by
  constructor
  · intro member
    obtain ⟨entry, inside, rfl⟩ := List.mem_map.mp member
    exact ⟨entry.2, JsMap.get?_of_mem inside⟩
  · rintro ⟨value, found⟩
    exact List.mem_map_of_mem (JsMap.mem_of_lookupEntry found)

theorem mem_sorted {texts : List Text} {text : Text} : text ∈ sorted texts ↔ text ∈ texts :=
  List.mem_mergeSort

/-- Nothing is wrong exactly if what differs is allowed, and still there. -/
theorem problems_eq_nil {base new : JsMap Text Text} {allowed : List Text} :
    problems base new allowed = [] ↔
      ∀ key, new.get? key = base.get? key ∨ key ∈ allowed ∧ (new.get? key).isSome = true := by
  unfold problems
  rw [List.append_eq_nil_iff, List.filterMap_eq_nil_iff, List.filterMap_eq_nil_iff]
  simp only [mem_sorted, List.mem_filter, mem_keysOf]
  constructor
  · rintro ⟨kept, fresh⟩ key
    cases old : base.get? key with
    | none =>
        cases now : new.get? key with
        | none => exact Or.inl rfl
        | some value =>
            have quiet := fresh key ⟨⟨value, now⟩, by rw [old]; rfl⟩
            unfold addedProblem at quiet
            split at quiet
            · next listed => exact Or.inr ⟨listed, rfl⟩
            · cases quiet
    | some value =>
        have quiet := kept key ⟨value, old⟩
        unfold keptProblem at quiet
        split at quiet
        · cases quiet
        · next found now =>
            rw [now]
            split at quiet
            · cases quiet
            · next settled =>
                rw [old] at settled
                by_cases same : some value = some found
                · exact Or.inl same.symm
                · refine Or.inr ⟨?_, rfl⟩
                  by_contra unlisted
                  exact settled ⟨same, unlisted⟩
  · intro settled
    constructor
    · rintro key ⟨value, old⟩
      unfold keptProblem
      rcases settled key with same | ⟨listed, present⟩
      · rw [same, old]
        simp
      · obtain ⟨found, now⟩ := Option.isSome_iff_exists.mp present
        rw [now]
        simp [listed]
    · rintro key ⟨⟨value, now⟩, absent⟩
      unfold addedProblem
      rcases settled key with same | ⟨listed, -⟩
      · rw [← same, now] at absent
        cases absent
      · rw [if_pos listed]

theorem cmdVerify_eq {base new changed : Text} {baseLines newLines : List Text} {before after : JsMap Text Text}
    (one : parse base = .ok (baseLines, before)) (two : parse new = .ok (newLines, after)) :
    cmdVerify base new changed = .ok (problems before after (names changed)) := by
  unfold cmdVerify
  rw [one, two]
  rfl

/-! ## The reading of the deployment -/

section Deployment

variable (blank : Char → Bool)

/-- The lines of the deployment: they end in newlines. -/
def newlineLines (text : Text) : List Text :=
  splitLines (· == '\n') text

/-- The key and the value of a line, where `blank` characters before a key do not belong to it. -/
def envAssignment (line : Text) : Option (Text × Text) :=
  let body := (chomp line).dropWhile blank
  if body.head? == some '#' || !body.contains '=' then none else some (before '=' body, after '=' body)

def envAssignments (text : Text) : List (Text × Text) :=
  (newlineLines text).filterMap (envAssignment blank)

end Deployment

/-! ## Texts that read the same for the tool -/

/-- The lines with another character at the end of each. -/
def relined (separator : Char) (lines : List Text) : Text :=
  lines.flatMap fun line => rstripNewline line ++ [separator]

/-- Without its newline a line is its body, or keeps another character that ends it. -/
theorem rstripNewline_line {body mark : Text} (inner : ∀ char ∈ body, isBoundary char = false)
    (marked : Mark isBoundary mark) :
    ((∀ char ∈ mark, char = '\r' ∨ char = '\n') ∧ rstripNewline (body ++ mark) = body) ∨
      ∃ last, mark = [last] ∧ isBoundary last = true ∧ last ≠ '\r' ∧ last ≠ '\n' ∧
        rstripNewline (body ++ mark) = body ++ [last] := by
  cases marked with
  | both =>
      have newlines : ∀ char ∈ ['\r', '\n'], char = '\r' ∨ char = '\n' := by simp
      exact Or.inl ⟨newlines, by rw [rstripNewline_append newlines, rstripNewline_self inner]⟩
  | single last isEnd =>
      by_cases newline : last = '\r' ∨ last = '\n'
      · have newlines : ∀ char ∈ [last], char = '\r' ∨ char = '\n' := by simpa using newline
        exact Or.inl ⟨newlines, by rw [rstripNewline_append newlines, rstripNewline_self inner]⟩
      · obtain ⟨noReturn, noNewline⟩ := not_or.mp newline
        refine Or.inr ⟨last, rfl, isEnd, noReturn, noNewline, ?_⟩
        exact List.rdropWhile_concat_neg _ _ _ (by simp [noReturn, noNewline])

theorem newline_not_mem {body : Text} (inner : ∀ char ∈ body, isBoundary char = false) : '\n' ∉ body := by
  intro member
  have impossible := inner '\n' member
  rw [isBoundary_newline] at impossible
  cases impossible

theorem newline_not_mem_rstrip {body mark : Text} (inner : ∀ char ∈ body, isBoundary char = false)
    (marked : Mark isBoundary mark) : '\n' ∉ rstripNewline (body ++ mark) := by
  rcases rstripNewline_line inner marked with ⟨-, same⟩ | ⟨last, -, -, -, noNewline, same⟩
  · rw [same]
    exact newline_not_mem inner
  · rw [same, List.mem_append, List.mem_singleton]
    exact not_or.mpr ⟨newline_not_mem inner, Ne.symm noNewline⟩

theorem relined_cons (separator : Char) (line : Text) (rest : List Text) :
    relined separator (line :: rest) = rstripNewline line ++ ([separator] ++ relined separator rest) := by
  rw [relined, List.flatMap_cons, List.append_assoc]
  rfl

/-- With carriage returns at the ends of its lines a text has no newline. -/
theorem newline_not_mem_relined {text : Text} {lines : List Text} (splits : SplitsInto isBoundary text lines) :
    '\n' ∉ relined '\r' lines := by
  induction splits with
  | nil => exact List.not_mem_nil
  | unfinished body _ inner =>
      rw [relined_cons, rstripNewline_self inner]
      simpa [relined] using newline_not_mem inner
  | line body mark rest inner marked _ _ ih =>
      rw [relined_cons]
      simpa using ⟨newline_not_mem_rstrip inner marked, ih⟩

/-- With newlines, or with carriage returns, at the ends of its lines a text assigns what it did. -/
theorem relined_assigns {separator : Char} (known : separator = '\r' ∨ separator = '\n') {text : Text}
    {lines : List Text} (splits : SplitsInto isBoundary text lines) :
    assignments (splitlines (relined separator lines)) = assignments lines := by
  have newlines : ∀ char ∈ [separator], char = '\r' ∨ char = '\n' := by simpa using known
  have marked : Mark isBoundary [separator] := by
    rcases known with rfl | rfl
    · exact .single _ isBoundary_return
    · exact .single _ isBoundary_newline
  induction splits with
  | nil => rfl
  | unfinished body _ inner =>
      have split := @splitLines_line isBoundary isBoundary_newline body [separator] [] inner marked (by simp)
      rw [relined_cons, rstripNewline_self inner, splitlines, show relined separator [] = [] from rfl, split,
        assignments_cons, assignments_cons, assignment_append newlines]
      rfl
  | @line body mark rest lines inner lineMarked _ splits ih =>
      have apart : [separator] = ['\r'] → (relined separator lines).head? ≠ some '\n' := by
        rintro same next
        cases same
        exact newline_not_mem_relined splits (List.mem_of_mem_head? next)
      rw [relined_cons]
      rcases rstripNewline_line inner lineMarked with ⟨ends, same⟩ | ⟨last, rfl, isEnd, noReturn, -, same⟩
      · rw [same, splitlines, splitLines_line isBoundary_newline inner marked apart, assignments_cons,
        assignments_cons,
          assignment_append newlines, assignment_append ends]
        exact congrArg _ ih
      · have single := @splitLines_line isBoundary isBoundary_newline [] [separator] (relined separator lines) (by simp)
          marked apart
        have foreign : [last] = ['\r'] → ([separator] ++ relined separator lines).head? ≠ some '\n' := by
          intro wrong
          exact absurd (List.singleton_inj.mp wrong) noReturn
        have blank : assignment ([] ++ [separator]) = none := by
          rw [assignment_append newlines]
          rfl
        rw [same, List.append_assoc, splitlines,
          splitLines_line isBoundary_newline inner (.single last isEnd) foreign,
            ← List.nil_append ([separator] ++ _),
          single, assignments_cons, assignments_cons, assignments_cons, blank]
        exact congrArg _ ih

/-- A file with the same assignments for the tool is accepted with the same values. -/
theorem Parsed.same {text other : Text} {values : JsMap Text Text} (parsed : Parsed text values)
    (unmarked : other.head? ≠ some byteOrderMark)
    (same : assignments (splitlines other) = assignments (splitlines text)) :
    ∃ found, parse other = .ok (splitlines other, found) ∧ ∀ key, found.get? key = values.get? key := by
  obtain ⟨found, accepted⟩ := parse_of unmarked (by rw [same]; exact parsed.distinct)
  refine ⟨found, accepted, ?_⟩
  intro key
  refine Option.ext fun value => ?_
  rw [(parsed_of_parse accepted).2.reading, parsed.reading, same]

section Deployment

variable {blank : Char → Bool}

theorem dropBlanks (spaces : ∀ char, blank char = true → isSpace char = true) {text : Text} {first : Char}
    (starts : text.head? = some first) (solid : isSpace first = false) : text.dropWhile blank = text := by
  obtain ⟨rest, rfl⟩ := List.head?_eq_some_iff.mp starts
  have kept : blank first = false := by
    by_contra dropped
    rw [spaces first (by simpa using dropped)] at solid
    cases solid
  rw [List.dropWhile_cons, kept]
  rfl

/-- Of every accepted text there is another one with the same values for the tool, in which the deployment
reads a comment and nothing else. -/
theorem Parsed.hidden (spaces : ∀ char, blank char = true → isSpace char = true) {text : Text}
    {values : JsMap Text Text} (parsed : Parsed text values) :
    ∃ other lines found, parse other = .ok (lines, found) ∧ (∀ key, found.get? key = values.get? key) ∧
      envAssignments blank other = [] := by
  have clean : '\n' ∉ relined '\r' (splitlines text) := newline_not_mem_relined (splitsInto text)
  have split := @splitLines_line isBoundary isBoundary_newline ['#'] ['\r']
    (relined '\r' (splitlines text)) (List.forall_mem_singleton.mpr rfl) (.single _ isBoundary_return)
    fun _ next => clean (List.mem_of_mem_head? next)
  have same : assignments (splitlines (['#'] ++ (['\r'] ++ relined '\r' (splitlines text)))) =
      assignments (splitlines text) := by
    rw [splitlines, split, assignments_cons, show assignment (['#'] ++ ['\r']) = none by decide]
    exact relined_assigns (Or.inl rfl) (splitsInto text)
  have unmarked : (['#'] ++ (['\r'] ++ relined '\r' (splitlines text))).head? ≠ some byteOrderMark := by
    rw [List.singleton_append, List.head?_cons]
    decide
  obtain ⟨found, accepted, equal⟩ := parsed.same unmarked same
  refine ⟨_, _, found, accepted, equal, ?_⟩
  have outside : '\n' ∉ ['#'] ++ (['\r'] ++ relined '\r' (splitlines text)) := by simpa using clean
  have single : newlineLines (['#'] ++ (['\r'] ++ relined '\r' (splitlines text))) =
      [['#'] ++ (['\r'] ++ relined '\r' (splitlines text))] := by
    refine splitLines_unfinished (by decide) (by simp) ?_
    intro char member
    simpa using fun wrong : char = '\n' => outside (wrong ▸ member)
  rw [envAssignments, single, List.filterMap_cons_none, List.filterMap_nil]
  unfold envAssignment
  rw [chomp_unfinished outside, dropBlanks spaces rfl (by decide)]
  rfl

theorem newline_not_mem_line {text line : Text} (member : line ∈ splitlines text) :
    '\n' ∉ rstripNewline line := by
  intro inside
  refine newline_not_mem_relined (splitsInto text) (List.mem_flatMap.mpr ⟨line, member, ?_⟩)
  exact List.mem_append_left _ inside

/-- With newlines at their ends, lines are read one by one. -/
theorem newlineLines_relined (text : Text) :
    newlineLines (relined '\n' (splitlines text)) =
      (splitlines text).map fun line => rstripNewline line ++ ['\n'] := by
  rw [relined, List.flatMap_def]
  refine splitLines_flatten (by decide) ?_
  intro piece listed
  obtain ⟨line, member, rfl⟩ := List.mem_map.mp listed
  refine ⟨rstripNewline line, ['\n'], rfl, ?_, .single _ (by decide), by decide⟩
  intro char inside
  have different : char ≠ '\n' := fun same => newline_not_mem_line member (same ▸ inside)
  simpa using different

theorem getLast?_rstripNewline (line : Text) : (rstripNewline line).getLast? ≠ some '\r' := by
  intro last
  have present : rstripNewline line ≠ [] := by
    intro empty
    rw [empty] at last
    cases last
  have same := Option.some.inj ((List.getLast?_eq_some_getLast present).symm.trans last)
  have kept := List.rdropWhile_last_not _ line present
  unfold rstripNewline at same
  rw [same] at kept
  exact kept rfl

/-- Of every accepted text there is another one with the same values for the tool, in which the deployment
finds an assignment that the tool finds. -/
theorem Parsed.shown (spaces : ∀ char, blank char = true → isSpace char = true) {text : Text}
    {values : JsMap Text Text} (parsed : Parsed text values) {key value : Text}
    (stored : values.get? key = some value) {first : Char} (starts : key.head? = some first)
    (solid : isSpace first = false) (noComment : first ≠ '#') :
    ∃ other lines found, parse other = .ok (lines, found) ∧ (∀ name, found.get? name = values.get? name) ∧
      (key, value) ∈ envAssignments blank other := by
  have split := @splitLines_line isBoundary isBoundary_newline [] ['\n'] (relined '\n' (splitlines text)) (by simp)
    (.single _ isBoundary_newline) (by simp)
  have same : assignments (splitlines ([] ++ (['\n'] ++ relined '\n' (splitlines text)))) =
      assignments (splitlines text) := by
    rw [splitlines, split, assignments_cons, show assignment ([] ++ ['\n']) = none by decide]
    exact relined_assigns (Or.inr rfl) (splitsInto text)
  have unmarked : ([] ++ (['\n'] ++ relined '\n' (splitlines text))).head? ≠ some byteOrderMark := by
    rw [List.nil_append, List.singleton_append, List.head?_cons]
    decide
  obtain ⟨found, accepted, equal⟩ := parsed.same unmarked same
  refine ⟨_, _, found, accepted, equal, ?_⟩
  obtain ⟨line, member, assigns⟩ := List.mem_filterMap.mp ((parsed.reading key value).mp stored)
  obtain ⟨joined, absent⟩ := assignment_eq_some assigns
  have lines := @splitLines_line (· == '\n') (by decide) [] ['\n'] (relined '\n' (splitlines text)) (by simp)
    (.single _ (by decide)) (by simp)
  have listed : rstripNewline line ++ ['\n'] ∈ newlineLines ([] ++ (['\n'] ++ relined '\n' (splitlines text))) := by
    rw [newlineLines, lines, ← newlineLines, newlineLines_relined]
    exact List.mem_cons_of_mem _ (List.mem_map_of_mem member)
  refine List.mem_filterMap.mpr ⟨_, listed, ?_⟩
  obtain ⟨rest, rfl⟩ := List.head?_eq_some_iff.mp starts
  unfold envAssignment
  rw [chomp_newline (getLast?_rstripNewline line), joined,
    dropBlanks spaces (by rw [List.cons_append]; rfl) solid]
  simp only
  rw [before_append absent, after_append absent]
  simp [noComment]

end Deployment

/-! ## Tidy texts -/

/-- Nothing but a newline or both characters at its end ends a line, and no space stands before an assignment.
-/
structure TidyLine (line : Text) : Prop where
  inner : ∀ char ∈ chomp line, isBoundary char = false
  flush : '=' ∈ line → ∀ first, line.head? = some first → isSpace first = false

instance (line : Text) : Decidable (TidyLine line) :=
  decidable_of_iff ((chomp line).all (fun char => !isBoundary char) = true ∧
      ('=' ∈ line → line.head?.all (fun first => !isSpace first) = true))
    ⟨fun parts => ⟨by simpa using parts.1, fun assigns first starts => by simpa [starts] using parts.2 assigns⟩,
      fun tidy => ⟨by simpa using tidy.inner, fun assigns => by
        cases starts : line.head? with
        | none => rfl
        | some first => simp [tidy.flush assigns first starts]⟩⟩

def Tidy (text : Text) : Prop :=
  ∀ line ∈ newlineLines text, TidyLine line

instance (text : Text) : Decidable (Tidy text) :=
  inferInstanceAs (Decidable (∀ line ∈ newlineLines text, TidyLine line))

theorem TidyLine.split {line : Text} (tidy : TidyLine line) :
    ∃ mark, line = chomp line ++ mark ∧ (∀ char ∈ mark, char = '\r' ∨ char = '\n') ∧
      rstripNewline line = chomp line := by
  obtain ⟨mark, same, known⟩ := chomp_split line
  have newlines : ∀ char ∈ mark, char = '\r' ∨ char = '\n' := by
    rcases known with rfl | rfl | rfl <;> simp
  refine ⟨mark, same, newlines, ?_⟩
  conv => lhs; rw [same]
  rw [rstripNewline_append newlines, rstripNewline_self tidy.inner]

/-- The deployment and the tool read the same in a tidy line. -/
theorem TidyLine.reading {blank : Char → Bool} (spaces : ∀ char, blank char = true → isSpace char = true)
    {line : Text} (tidy : TidyLine line) : envAssignment blank line = assignment line := by
  obtain ⟨mark, same, newlines, stripped⟩ := tidy.split
  by_cases assigns : '=' ∈ line
  · have inside : '=' ∈ chomp line := by
      rw [same] at assigns
      rcases List.mem_append.mp assigns with here | there
      · exact here
      · rcases newlines '=' there with wrong | wrong <;> exact absurd wrong (by decide)
    cases body : chomp line with
    | nil =>
        rw [body] at inside
        cases inside
    | cons first rest =>
        have starts : line.head? = some first := by
          rw [same, body]
          rfl
        have solid := tidy.flush assigns first starts
        have listed := (mem_strip (by decide)).mpr assigns
        simp only [envAssignment, assignment]
        rw [stripped, head?_strip starts solid, body, dropBlanks spaces rfl solid]
        rw [body] at inside
        have present : strip line ≠ [] := List.ne_nil_of_mem listed
        simp [inside, listed, present]
  · have outside : '=' ∉ (chomp line).dropWhile blank := by
      intro inside
      rw [same] at assigns
      exact assigns (List.mem_append_left _ ((List.dropWhile_sublist _).subset inside))
    have unlisted : '=' ∉ strip line := fun inside => assigns ((mem_strip (by decide)).mp inside)
    unfold envAssignment assignment
    simp [outside, unlisted]

/-- The lines of a tidy text are its lines for the tool. -/
theorem splitsInto_of_tidy {text : Text} {lines : List Text} (splits : SplitsInto (· == '\n') text lines)
    (tidy : ∀ line ∈ lines, TidyLine line) : SplitsInto isBoundary text lines := by
  induction splits with
  | nil => exact .nil
  | unfinished body present inner =>
      have here := (tidy body List.mem_cons_self).inner
      rw [chomp_unfinished (fun inside => by simpa using inner _ inside)] at here
      exact .unfinished body present here
  | line body mark rest inner marked apart splits ih =>
      have here := (tidy _ List.mem_cons_self).inner
      have later := ih fun line member => tidy line (List.mem_cons_of_mem _ member)
      cases marked with
      | both =>
          rw [chomp_crlf] at here
          exact .line body _ rest here .both apart later
      | single last isEnd =>
          obtain rfl := beq_iff_eq.mp isEnd
          by_cases carriage : body.getLast? = some '\r'
          · obtain ⟨start, rfl⟩ := List.getLast?_eq_some_iff.mp carriage
            rw [List.append_assoc, List.singleton_append, chomp_crlf] at here
            have joined := SplitsInto.line start ['\r', '\n'] rest here .both (by simp) later
            simpa using joined
          · rw [chomp_newline carriage] at here
            exact .line body _ rest here (.single _ isBoundary_newline) (by simp) later

/-- A tidy text is split in one way by the deployment and by the tool. -/
theorem splitlines_of_tidy {text : Text} (tidy : Tidy text) : splitlines text = newlineLines text :=
  (splitsInto_iff isBoundary_newline).mp (splitsInto_of_tidy (splitsInto text) tidy)

/-- The deployment and the tool read the same assignments in a tidy text. -/
theorem envAssignments_of_tidy {blank : Char → Bool} (spaces : ∀ char, blank char = true → isSpace char = true)
    {text : Text} (tidy : Tidy text) : envAssignments blank text = assignments (splitlines text) := by
  rw [splitlines_of_tidy tidy]
  exact List.filterMap_congr fun line member => (tidy line member).reading spaces

end KernelJson.Releases.RuntimeEnv
