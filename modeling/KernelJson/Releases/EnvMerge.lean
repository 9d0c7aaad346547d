import KernelJson.Releases.EnvUpdates

/-!
# Conservative merges

A merge writes the lines of the base with new values for the updated keys.  For
tidy files the deployment finds what the base had, and the updates; the check
finds nothing wrong there, and something in every tidy file that differs
elsewhere.  Files that are not tidy can hide a difference from the check.
-/

namespace KernelJson.Releases.RuntimeEnv

open Foundation
open Foundation.TextLines

/-! ## Rewritten lines -/

section Rewriting

variable {updates : JsMap Text Text}

/-- Updates without an end of a line in a value. -/
structure Plain (updates : JsMap Text Text) : Prop where
  keys : ∀ key value, updates.get? key = some value → SettableKey key
  values : ∀ key value, updates.get? key = some value → ∀ char ∈ value, isBoundary char = false

theorem SettableKey.plain {key : Text} (settable : SettableKey key) :
    ∀ char ∈ key, isBoundary char = false := by
  intro char member
  by_contra boundary
  have space := isSpace_of_isBoundary (by simpa using boundary)
  rw [isSpace_of_isKeyChar (settable.capitals char member)] at space
  cases space

theorem assigned_plain {key value : Text} (settable : SettableKey key)
    (plain : ∀ char ∈ value, isBoundary char = false) : ∀ char ∈ assigned key value,
      isBoundary char = false := by
  intro char member
  rcases List.mem_append.mp member with inside | rest
  · exact settable.plain char inside
  · rcases List.mem_cons.mp rest with rfl | inside
    · decide
    · exact plain char inside

/-- A written line assigns what it was written for. -/
theorem assignment_assigned {key value tail : Text} (settable : SettableKey key)
    (plain : ∀ char ∈ value, isBoundary char = false) (newlines : ∀ char ∈ tail, char = '\r' ∨ char = '\n') :
    assignment (assigned key value ++ tail) = some (key, value) := by
  obtain ⟨first, rest, rfl, capital⟩ := settable.head
  have solid := isSpace_of_isKeyChar capital
  have absent : '=' ∉ first :: rest := settable.not_mem (by decide)
  have listed : '=' ∈ strip (assigned (first :: rest) value) := (mem_strip (by decide)).mpr (by simp [assigned])
  have starts : (strip (assigned (first :: rest) value)).head? = some first := head?_strip rfl solid
  have present : strip (assigned (first :: rest) value) ≠ [] := List.ne_nil_of_mem listed
  have noComment : first ≠ '#' := by
    rintro rfl
    exact absurd capital (by decide)
  rw [assignment_append newlines]
  simp only [assignment]
  rw [rstripNewline_self (assigned_plain settable plain), starts, assigned, before_append absent,
    after_append absent]
  simp only [assigned, List.cons_append] at listed present
  simp [listed, present, noComment]

/-- What an update makes of an assignment. -/
def override (updates : JsMap Text Text) (entry : Text × Text) : Text × Text :=
  (entry.1, (updates.get? entry.1).getD entry.2)

theorem updateOf_eq (line : Text) :
    updateOf updates line =
      (assignment line).bind fun entry => (updates.get? entry.1).map (Prod.mk entry.1) := by
  rw [updateOf, lineKey_eq]
  cases assignment line <;> rfl

/-- A line is as it was, or was written for an updated key that it assigned. -/
inductive Rewritten (updates : JsMap Text Text) (line : Text) : Text → Prop where
  | kept : (∀ key old, assignment line = some (key, old) → updates.get? key = none) →
    Rewritten updates line line
  | updated (key old value mark : Text) : assignment line = some (key, old) → updates.get? key = some value →
      mark = ['\r', '\n'] ∨ mark = ['\n'] → Rewritten updates line (assigned key value ++ mark)

theorem rewritten (line : Text) : Rewritten updates line (rewrite updates line) := by
  unfold rewrite
  rw [updateOf_eq]
  cases found : assignment line with
  | none => exact .kept fun _ _ impossible => by rw [found] at impossible; cases impossible
  | some entry =>
      obtain ⟨key, old⟩ := entry
      simp only [Option.bind_some]
      cases stored : updates.get? key with
      | none =>
          refine .kept ?_
          intro other _ same
          rw [found] at same
          cases same
          exact stored
      | some value =>
          refine .updated key old value _ found stored ?_
          split
          · exact Or.inl rfl
          · exact Or.inr rfl

/-- A rewritten line assigns the same key. -/
theorem assignment_rewrite (plain : Plain updates) (line : Text) :
    assignment (rewrite updates line) = (assignment line).map (override updates) := by
  have made := @rewritten updates line
  generalize rewrite updates line = after at made ⊢
  cases made with
  | kept absent =>
      cases found : assignment line with
      | none => rfl
      | some entry => rw [Option.map_some, override, absent entry.1 entry.2 found]; rfl
  | updated key old value mark found stored known =>
      have newlines : ∀ char ∈ mark, char = '\r' ∨ char = '\n' := by
        rcases known with rfl | rfl <;> simp
      rw [assignment_assigned (plain.keys key value stored) (plain.values key value stored) newlines, found,
        Option.map_some, override, stored]
      rfl

/-- A rewritten line starts as it did. -/
theorem head?_rewrite (plain : Plain updates) (line : Text) : (rewrite updates line).head? = line.head? := by
  have made := @rewritten updates line
  generalize rewrite updates line = after at made ⊢
  cases made with
  | kept => rfl
  | updated key old value mark found stored known =>
      obtain ⟨first, rest, rfl, -⟩ := (plain.keys key value stored).head
      obtain ⟨joined, -⟩ := assignment_eq_some found
      obtain ⟨tail, same, -⟩ := rstripNewline_split line
      rw [same, joined]
      rfl

/-! ## Lines that are ended -/

/-- A tidy line with a newline at its end. -/
structure Ended (line : Text) : Prop where
  split : ∃ body mark, line = body ++ mark ∧ (∀ char ∈ body, isBoundary char = false) ∧
    (mark = ['\r', '\n'] ∨ mark = ['\n'])
  flush : '=' ∈ line → ∀ first, line.head? = some first → isSpace first = false

theorem carriage_not_last {body : Text} (inner : ∀ char ∈ body, isBoundary char = false) :
    body.getLast? ≠ some '\r' := by
  intro last
  have impossible := inner '\r' (List.mem_of_getLast? last)
  rw [isBoundary_return] at impossible
  cases impossible

theorem Ended.tidy {line : Text} (ended : Ended line) : TidyLine line := by
  obtain ⟨body, mark, rfl, inner, known⟩ := ended.split
  refine ⟨?_, ended.flush⟩
  rcases known with rfl | rfl
  · rw [chomp_crlf]
    exact inner
  · rw [chomp_newline (carriage_not_last inner)]
    exact inner

theorem Ended.last {line : Text} (ended : Ended line) : line.getLast? = some '\n' := by
  obtain ⟨body, mark, rfl, -, known⟩ := ended.split
  rcases known with rfl | rfl <;> simp

theorem TidyLine.ended {line : Text} (tidy : TidyLine line) (last : line.getLast? = some '\n') :
    Ended line := by
  obtain ⟨mark, same, known⟩ := chomp_split line
  refine ⟨⟨chomp line, mark, same, tidy.inner, ?_⟩, tidy.flush⟩
  rcases known with rfl | rfl | rfl
  · rw [List.append_nil] at same
    have impossible := tidy.inner '\n' (same ▸ List.mem_of_getLast? last)
    rw [isBoundary_newline] at impossible
    cases impossible
  · exact Or.inr rfl
  · exact Or.inl rfl

/-- An unfinished line is ended by a newline. -/
theorem ended_of_unfinished {body : Text} (inner : ∀ char ∈ body, isBoundary char = false)
    (flush : '=' ∈ body → ∀ first, body.head? = some first → isSpace first = false) (present : body ≠ []) :
    Ended (body ++ ['\n']) := by
  refine ⟨⟨body, ['\n'], rfl, inner, Or.inr rfl⟩, ?_⟩
  intro assigns first starts
  obtain ⟨start, rest, rfl⟩ := List.exists_cons_of_ne_nil present
  refine flush ?_ first starts
  simpa using assigns

theorem ended_assigned {key value mark : Text} (settable : SettableKey key)
    (plain : ∀ char ∈ value, isBoundary char = false) (known : mark = ['\r', '\n'] ∨ mark = ['\n']) :
    Ended (assigned key value ++ mark) := by
  refine ⟨⟨assigned key value, mark, rfl, assigned_plain settable plain, known⟩, ?_⟩
  intro _ first starts
  obtain ⟨start, rest, rfl, capital⟩ := settable.head
  cases Option.some.inj starts
  exact isSpace_of_isKeyChar capital

/-- Ended lines are the lines of what they make up, for the tool and for the deployment. -/
theorem lines_of_ended {lines : List Text} (ended : ∀ line ∈ lines, Ended line) :
    splitlines lines.flatten = lines ∧ newlineLines lines.flatten = lines := by
  constructor
  · refine splitLines_flatten isBoundary_newline ?_
    intro line member
    obtain ⟨body, mark, same, inner, known⟩ := (ended line member).split
    refine ⟨body, mark, same, inner, ?_⟩
    rcases known with rfl | rfl
    · exact ⟨.both, by decide⟩
    · exact ⟨.single _ isBoundary_newline, by decide⟩
  · refine splitLines_flatten (by decide) ?_
    intro line member
    obtain ⟨body, mark, same, inner, known⟩ := (ended line member).split
    have plain : ∀ char ∈ body, (char == '\n') = false := by
      intro char inside
      have different : char ≠ '\n' := fun wrong => newline_not_mem inner (wrong ▸ inside)
      simpa using different
    refine ⟨body, mark, same, plain, ?_⟩
    rcases known with rfl | rfl
    · exact ⟨.both, by decide⟩
    · exact ⟨.single _ (by decide), by decide⟩

/-! ## The lines that are written -/

theorem finish_cons_cons (line next : Text) (others : List Text) :
    finish (line :: next :: others) = line :: finish (next :: others) := rfl

theorem finish_cons {line : Text} (rest : List Text) (last : line.getLast? = some '\n') :
    finish (line :: rest) = line :: finish rest := by
  cases rest with
  | nil => simp only [finish, last, if_true]
  | cons next others => rfl

theorem assignments_finish (lines : List Text) : assignments (finish lines) = assignments lines := by
  induction lines with
  | nil => rfl
  | cons line rest ih =>
      cases rest with
      | nil =>
          rw [finish]
          split
          · rfl
          · rw [assignments_cons, assignments_cons, assignment_append (by simp)]
      | cons next others => rw [finish_cons_cons, assignments_cons, ih, ← assignments_cons]

/-- The lines of the base, rewritten, are ended. -/
theorem ended_written (plain : Plain updates) {text : Text} {lines : List Text}
    (splits : SplitsInto (· == '\n') text lines) (tidy : ∀ line ∈ lines, TidyLine line) :
    ∀ line ∈ finish (lines.map (rewrite updates)), Ended line := by
  have rewrites : ∀ {line : Text}, Ended line → Ended (rewrite updates line) := by
    intro line ended
    have made := @rewritten updates line
    generalize rewrite updates line = after at made ⊢
    cases made with
    | kept => exact ended
    | updated key old value mark _ stored known =>
        exact ended_assigned (plain.keys key value stored) (plain.values key value stored) known
  induction splits with
  | nil => exact fun _ impossible => by cases impossible
  | unfinished body present inner =>
      have here := tidy body List.mem_cons_self
      have outside : '\n' ∉ body := fun inside => by simpa using inner _ inside
      have solid := here.inner
      rw [chomp_unfinished outside] at solid
      have made := @rewritten updates body
      rw [List.map_cons, List.map_nil]
      generalize rewrite updates body = after at made ⊢
      intro line member
      cases made with
      | kept _ =>
          have unended : body.getLast? ≠ some '\n' := fun last => outside (List.mem_of_getLast? last)
          rw [finish, if_neg unended] at member
          rw [List.mem_singleton.mp member]
          exact ended_of_unfinished solid here.flush present
      | updated key old value mark _ stored known =>
          have ended := ended_assigned (plain.keys key value stored) (plain.values key value stored) known
          rw [finish, if_pos ended.last] at member
          rw [List.mem_singleton.mp member]
          exact ended
  | line body mark rest inner marked apart splits ih =>
      have last : (body ++ mark).getLast? = some '\n' := by
        cases marked with
        | both => simp
        | single final isEnd => rw [beq_iff_eq.mp isEnd]; simp
      have ended := rewrites ((tidy _ List.mem_cons_self).ended last)
      rw [List.map_cons, finish_cons _ ended.last]
      intro line member
      rcases List.mem_cons.mp member with rfl | later
      · exact ended
      · exact ih (fun other inside => tidy other (List.mem_cons_of_mem _ inside)) line later

/-- Whether a line assigns no updated key. -/
def unaffected (updates : JsMap Text Text) (line : Text) : Bool :=
  (assignment line).all fun entry => (updates.get? entry.1).isNone

theorem unaffected_append (line : Text) : unaffected updates (line ++ ['\n']) = unaffected updates line := by
  rw [unaffected, assignment_append (by simp), unaffected]

theorem rewrite_of_unaffected {line : Text} (free : unaffected updates line = true) :
    rewrite updates line = line := by
  have made := @rewritten updates line
  generalize rewrite updates line = after at made ⊢
  cases made with
  | kept => rfl
  | updated key old value mark found stored =>
      rw [unaffected, found, Option.all_some, stored] at free
      cases free

/-- The lines that assign no updated key stand as they were, in their order. -/
theorem kept_sublist (updates : JsMap Text Text) (lines : List Text) :
    ((finish lines).filter (unaffected updates)).Sublist (finish (lines.map (rewrite updates))) := by
  induction lines with
  | nil => exact List.Sublist.refl []
  | cons line rest ih =>
      cases rest with
      | nil =>
          have same : unaffected updates (if line.getLast? = some '\n' then line else line ++ ['\n']) =
              unaffected updates line := by
            split
            · rfl
            · exact unaffected_append line
          rw [List.map_cons, List.map_nil, finish, finish, List.filter_cons, same]
          split
          · next free =>
              rw [rewrite_of_unaffected free]
              exact List.Sublist.refl _
          · exact List.nil_sublist _
      | cons next others =>
          rw [finish_cons_cons, List.filter_cons, List.map_cons, List.map_cons, finish_cons_cons,
            ← List.map_cons]
          split
          · next free =>
              rw [rewrite_of_unaffected free]
              exact ih.cons_cons line
          · exact ih.cons _

/-! ## The added lines -/

theorem mem_done {lines : List Text} {key : Text} :
    key ∈ (lines.filterMap (updateOf updates)).map Prod.fst ↔
      (updates.get? key).isSome = true ∧ key ∈ (assignments lines).map Prod.fst := by
  constructor
  · intro member
    obtain ⟨entry, listed, rfl⟩ := List.mem_map.mp member
    obtain ⟨line, inside, found⟩ := List.mem_filterMap.mp listed
    rw [updateOf_eq] at found
    obtain ⟨read, assigns, stored⟩ := Option.bind_eq_some_iff.mp found
    obtain ⟨value, update, rfl⟩ := Option.map_eq_some_iff.mp stored
    exact ⟨Option.isSome_iff_exists.mpr ⟨value, update⟩,
      List.mem_map.mpr ⟨read, List.mem_filterMap.mpr ⟨line, inside, assigns⟩, rfl⟩⟩
  · rintro ⟨stored, member⟩
    obtain ⟨value, update⟩ := Option.isSome_iff_exists.mp stored
    obtain ⟨entry, listed, rfl⟩ := List.mem_map.mp member
    obtain ⟨line, inside, assigns⟩ := List.mem_filterMap.mp listed
    refine List.mem_map.mpr ⟨(entry.1, value), List.mem_filterMap.mpr ⟨line, inside, ?_⟩, rfl⟩
    rw [updateOf_eq, assigns, Option.bind_some, update]
    rfl

theorem assignments_added (plain : Plain updates) (lines : List Text) :
    assignments (added lines updates) =
      updates.entries.filter fun entry => !((lines.filterMap (updateOf updates)).map Prod.fst).contains entry.1 := by
  rw [assignments, added, List.filterMap_map]
  refine (List.filterMap_congr ?_).trans List.filterMap_some
  intro entry listed
  have stored := JsMap.get?_of_mem (List.mem_of_mem_filter listed)
  exact assignment_assigned (plain.keys _ _ stored) (plain.values _ _ stored) (by simp)

/-- The added lines assign the updated keys that the base does not assign. -/
theorem mem_assignments_added (plain : Plain updates) {lines : List Text} {entry : Text × Text} :
    entry ∈ assignments (added lines updates) ↔
      updates.get? entry.1 = some entry.2 ∧ entry.1 ∉ (assignments lines).map Prod.fst := by
  rw [assignments_added plain, List.mem_filter]
  simp only [Bool.not_eq_true', List.contains_eq_mem, decide_eq_false_iff_not, mem_done]
  constructor
  · rintro ⟨listed, fresh⟩
    have stored := JsMap.get?_of_mem listed
    refine ⟨stored, fun member => fresh ⟨?_, member⟩⟩
    rw [stored]
    rfl
  · rintro ⟨stored, fresh⟩
    exact ⟨JsMap.mem_of_lookupEntry stored, fun member => fresh member.2⟩

theorem added_distinct (plain : Plain updates) (lines : List Text) :
    ((assignments (added lines updates)).map Prod.fst).Nodup := by
  rw [assignments_added plain]
  exact updates.nodup.sublist (List.filter_sublist.map Prod.fst)

theorem ended_added (plain : Plain updates) (lines : List Text) : ∀ line ∈ added lines updates, Ended line := by
  intro line member
  obtain ⟨entry, listed, rfl⟩ := List.mem_map.mp member
  have stored := JsMap.get?_of_mem (List.mem_of_mem_filter listed)
  exact ended_assigned (plain.keys _ _ stored) (plain.values _ _ stored) (Or.inr rfl)

/-! ## The text that is written -/

theorem assignments_append (first second : List Text) :
    assignments (first ++ second) = assignments first ++ assignments second :=
  List.filterMap_append

/-- What the written lines assign. -/
theorem assignments_outLines (plain : Plain updates) (lines : List Text) :
    assignments (outLines lines updates) =
      (assignments lines).map (override updates) ++ assignments (added lines updates) := by
  rw [outLines, assignments_append, assignments_finish]
  congr 1
  rw [assignments, assignments, List.filterMap_map, List.map_filterMap]
  exact List.filterMap_congr fun line _ => assignment_rewrite plain line

theorem map_override (entries : List (Text × Text)) :
    (entries.map (override updates)).map Prod.fst = entries.map Prod.fst := by
  rw [List.map_map]
  rfl

theorem outLines_distinct (plain : Plain updates) {lines : List Text}
    (distinct : ((assignments lines).map Prod.fst).Nodup) :
    ((assignments (outLines lines updates)).map Prod.fst).Nodup := by
  rw [assignments_outLines plain, List.map_append, map_override]
  refine List.Nodup.append distinct (added_distinct plain lines) ?_
  intro key old new
  obtain ⟨entry, listed, rfl⟩ := List.mem_map.mp new
  exact ((mem_assignments_added plain).mp listed).2 old

/-- The written lines assign what the base assigned, with the updates over it. -/
theorem mem_assignments_outLines (plain : Plain updates) {lines : List Text} {key value : Text} :
    (key, value) ∈ assignments (outLines lines updates) ↔
      updates.get? key = some value ∨ updates.get? key = none ∧ (key, value) ∈ assignments lines := by
  rw [assignments_outLines plain, List.mem_append, mem_assignments_added plain]
  constructor
  · rintro (old | ⟨stored, -⟩)
    · obtain ⟨entry, listed, same⟩ := List.mem_map.mp old
      cases same
      cases stored : updates.get? entry.1 with
      | none => exact Or.inr ⟨rfl, by simpa [stored] using listed⟩
      | some value => exact Or.inl rfl
    · exact Or.inl stored
  · rintro (stored | ⟨absent, listed⟩)
    · by_cases known : key ∈ (assignments lines).map Prod.fst
      · obtain ⟨entry, listed, rfl⟩ := List.mem_map.mp known
        refine Or.inl (List.mem_map.mpr ⟨entry, listed, ?_⟩)
        rw [override, stored]
        rfl
      · exact Or.inr ⟨stored, known⟩
    · refine Or.inl (List.mem_map.mpr ⟨(key, value), listed, ?_⟩)
      rw [override, absent]
      rfl

theorem head?_finish {line : Text} (present : line ≠ []) (rest : List Text) :
    (finish (line :: rest)).flatten.head? = line.head? := by
  obtain ⟨first, others, rfl⟩ := List.exists_cons_of_ne_nil present
  cases rest with
  | nil =>
      rw [finish]
      split <;> rfl
  | cons next more => rfl

/-- The written text starts as the base does. -/
theorem head?_outLines (plain : Plain updates) {line : Text} (present : line ≠ []) (rest : List Text) :
    (outLines (line :: rest) updates).flatten.head? = line.head? := by
  obtain ⟨first, others, rfl⟩ := List.exists_cons_of_ne_nil present
  have same := head?_rewrite plain (first :: others)
  have written : rewrite updates (first :: others) ≠ [] := by
    intro empty
    rw [empty] at same
    cases same
  have head := head?_finish written (rest.map (rewrite updates))
  rw [same] at head
  rw [outLines, List.flatten_append, List.map_cons, List.head?_append, head]
  rfl

end Rewriting

/-! ## The names of the updated keys -/

theorem names_join {keys : List Text} (listed : keys ≠ []) (known : ∀ key ∈ keys, SettableKey key) :
    names (join ',' keys) = keys := by
  have split := List.splitOn_intercalate ',' (fun key member => (known key member).not_mem (by decide)) listed
  unfold names join
  rw [split, List.filter_eq_self]
  intro key member
  obtain ⟨first, rest, rfl, -⟩ := (known key member).head
  rfl

/-! ## Merges -/

section Claim

variable (blank : Char → Bool)

/-- Whether the deployment reads no updated key in a line. -/
def spares (updates : JsMap Text Text) (line : Text) : Bool :=
  (envAssignment blank line).all fun entry => (updates.get? entry.1).isNone

/-- What is expected of the text of a merge. -/
structure Merges (base : Text) (updates : JsMap Text Text) (merged : Text) : Prop where
  overrides : ∀ key value, (key, value) ∈ envAssignments blank merged ↔
    updates.get? key = some value ∨ updates.get? key = none ∧ (key, value) ∈ envAssignments blank base
  lines : ∃ kept, (kept = newlineLines base ∨ kept = finish (newlineLines base)) ∧
    (kept.filter (spares blank updates)).Sublist (newlineLines merged)
  verified : cmdVerify base merged (join ',' (keysOf updates)) = .ok []

/-- A new file that assigns another key differently is reported. -/
def Detects (base : Text) (updates : JsMap Text Text) (new : Text) : Prop :=
  (∃ key value, updates.get? key = none ∧
    ¬ ((key, value) ∈ envAssignments blank base ↔ (key, value) ∈ envAssignments blank new)) →
    cmdVerify base new (join ',' (keysOf updates)) ≠ .ok []

/-- A merge that keeps what it does not update, and that can be checked. -/
def Conservative (isDecimal : Char → Bool) (files : Text → Except Text Text) (base : Text) (request : Request)
    (updates : JsMap Text Text) : Prop :=
  ∃ merged, cmdMerge isDecimal files base request = .ok merged ∧ Merges blank base updates merged ∧
    ∀ new, Detects blank base updates new

end Claim

section Accepted

variable {blank : Char → Bool} {base : Text} {lines : List Text} {values updates : JsMap Text Text}

theorem Accepted.names_eq (accepted : Accepted base lines values updates) :
    names (join ',' (keysOf updates)) = keysOf updates := by
  refine names_join ?_ ?_
  · simpa [keysOf] using accepted.present
  · intro key member
    obtain ⟨value, stored⟩ := mem_keysOf.mp member
    exact accepted.settable.keys key value stored

/-- What the check says of a new file. -/
theorem Accepted.verify (accepted : Accepted base lines values updates) {new : Text} {newLines : List Text}
    {after : JsMap Text Text} (parsed : parse new = .ok (newLines, after)) :
    cmdVerify base new (join ',' (keysOf updates)) = .ok [] ↔
      ∀ key, after.get? key = values.get? key ∨
        (updates.get? key).isSome = true ∧ (after.get? key).isSome = true := by
  rw [cmdVerify_eq accepted.parsed parsed, Except.ok.injEq, problems_eq_nil, accepted.names_eq]
  simp only [mem_keysOf, Option.isSome_iff_exists]

/-- The tool sees every difference of what it reads itself. -/
theorem Accepted.differs (accepted : Accepted base lines values updates) {new : Text} {newLines : List Text}
    {after : JsMap Text Text} (parsed : parse new = .ok (newLines, after)) {key : Text}
    (other : updates.get? key = none) (different : after.get? key ≠ values.get? key) :
    cmdVerify base new (join ',' (keysOf updates)) ≠ .ok [] := by
  intro clean
  rcases (accepted.verify parsed).mp clean key with same | ⟨updated, -⟩
  · exact different same
  · rw [other] at updated
    cases updated

/-- Not every new file that differs for the deployment is reported. -/
theorem Accepted.undetected (accepted : Accepted base lines values updates)
    (spaces : ∀ char, blank char = true → isSpace char = true) : ¬ ∀ new, Detects blank base updates new := by
  intro detects
  obtain ⟨value, stored⟩ := accepted.database
  have free : updates.get? "DATABASE_URL".toList = none := by
    cases found : updates.get? "DATABASE_URL".toList with
    | none => rfl
    | some update => exact absurd rfl (accepted.settable.keys _ _ found).otherKey
  have parsed := (parsed_of_parse accepted.parsed).2
  have quiet : ∀ {new : Text} {newLines : List Text} {after : JsMap Text Text},
      parse new = .ok (newLines, after) →
      (∀ key, after.get? key = values.get? key) →
      (("DATABASE_URL".toList, value) ∈ envAssignments blank base ↔
        ("DATABASE_URL".toList, value) ∈ envAssignments blank new) := by
    intro new newLines after read same
    by_contra differs
    refine detects new ⟨_, value, free, differs⟩ ?_
    exact (accepted.verify read).mpr fun key => Or.inl (same key)
  obtain ⟨hiddenFile, _, _, hiddenRead, hiddenSame, nothing⟩ := @Parsed.hidden blank spaces _ _ parsed
  obtain ⟨shownFile, _, _, shownRead, shownSame, found⟩ :=
    parsed.shown spaces stored rfl (by decide) (by decide)
  have absent := quiet hiddenRead hiddenSame
  have present := quiet shownRead shownSame
  rw [nothing] at absent
  exact List.not_mem_nil (absent.mp (present.mpr found))

/-- Among tidy files every difference for the deployment is reported. -/
theorem Accepted.detects (accepted : Accepted base lines values updates)
    (spaces : ∀ char, blank char = true →
      isSpace char = true) (tidy : Tidy base) {new : Text} (newTidy : Tidy new) :
    Detects blank base updates new := by
  rintro ⟨key, value, free, differs⟩
  cases read : parse new with
  | error refused =>
      unfold cmdVerify
      rw [accepted.parsed, read]
      exact fun impossible => by cases impossible
  | ok found =>
      obtain ⟨newLines, after⟩ := found
      refine accepted.differs read free ?_
      intro same
      refine differs ?_
      rw [envAssignments_of_tidy spaces tidy, envAssignments_of_tidy spaces newTidy,
        ← (parsed_of_parse accepted.parsed).2.reading, ← (parsed_of_parse read).2.reading, same]

theorem plain_empty : Plain .empty where
  keys := fun _ _ impossible => by cases impossible
  values := fun _ _ impossible => by cases impossible

theorem rewrite_empty (line : Text) : rewrite .empty line = line := by
  refine rewrite_of_unaffected ?_
  cases found : assignment line <;> simp [unaffected, found]

/-- The lines of a tidy text, with a newline at the end of the last. -/
theorem ended_finish (tidy : Tidy base) : ∀ line ∈ finish (newlineLines base), Ended line := by
  have ended := ended_written plain_empty (splitsInto base) tidy
  rwa [List.map_congr_left (fun line _ => rewrite_empty line), List.map_id'] at ended

theorem spares_eq (spaces : ∀ char, blank char = true → isSpace char = true) {line : Text}
    (tidy : TidyLine line) :
    spares blank updates line = unaffected updates line := by
  rw [spares, tidy.reading spaces, unaffected]

/-- The lines that are written are ended, and they are the lines of the text for both readers. -/
theorem ended_outLines (accepted : Accepted base lines values updates) (tidy : Tidy base)
    (plain : Plain updates) :
    ∀ line ∈ outLines lines updates, Ended line := by
  intro line member
  rcases List.mem_append.mp member with written | more
  · rw [(parsed_of_parse accepted.parsed).1, splitlines_of_tidy tidy] at written
    exact ended_written plain (splitsInto base) tidy line written
  · exact ended_added plain lines line more

/-- The text that is written is accepted. -/
theorem parse_outLines (accepted : Accepted base lines values updates) (tidy : Tidy base)
    (plain : Plain updates) :
    ∃ after, parse (outLines lines updates).flatten = .ok (outLines lines updates, after) ∧
      ∀ key value, after.get? key = some value ↔
        updates.get? key = some value ∨ updates.get? key = none ∧ values.get? key = some value := by
  obtain ⟨split, parsed⟩ := parsed_of_parse accepted.parsed
  have same := (lines_of_ended (ended_outLines accepted tidy plain)).1
  have unmarked : (outLines lines updates).flatten.head? ≠ some byteOrderMark := by
    cases first : lines with
    | nil =>
        obtain ⟨value, stored⟩ := accepted.database
        have listed := (parsed.reading _ _).mp stored
        rw [← split, first] at listed
        cases listed
    | cons line rest =>
        have splits := @splitsInto isBoundary base
        rw [← splitlines, ← split, first] at splits
        have present := splits.ne_nil line List.mem_cons_self
        rw [head?_outLines plain present]
        have starts := parsed.unmarked
        rw [← splits.flatten, List.flatten_cons] at starts
        obtain ⟨char, others, rfl⟩ := List.exists_cons_of_ne_nil present
        exact starts
  have distinct : ((assignments (splitlines (outLines lines updates).flatten)).map Prod.fst).Nodup := by
    rw [same]
    exact outLines_distinct plain (split ▸ parsed.distinct)
  obtain ⟨after, read⟩ := parse_of unmarked distinct
  rw [same] at read
  refine ⟨after, read, ?_⟩
  intro key value
  rw [(parsed_of_parse read).2.reading, same, mem_assignments_outLines plain, parsed.reading, split]

/-- The merge of a tidy file is what is expected. -/
theorem Accepted.merges (accepted : Accepted base lines values updates)
    (spaces : ∀ char, blank char = true → isSpace char = true) (tidy : Tidy base) (plain : Plain updates) :
    Merges blank base updates (outLines lines updates).flatten := by
  obtain ⟨split, parsed⟩ := parsed_of_parse accepted.parsed
  have ended := ended_outLines accepted tidy plain
  obtain ⟨toolLines, deploymentLines⟩ := lines_of_ended ended
  have newTidy : Tidy (outLines lines updates).flatten := by
    intro line member
    rw [deploymentLines] at member
    exact (ended line member).tidy
  refine ⟨?_, ?_, ?_⟩
  · intro key value
    rw [envAssignments_of_tidy spaces newTidy, envAssignments_of_tidy spaces tidy, toolLines, ← split]
    exact mem_assignments_outLines plain
  · refine ⟨finish (newlineLines base), Or.inr rfl, ?_⟩
    rw [deploymentLines, List.filter_congr fun line member =>
      spares_eq spaces (ended_finish tidy line member).tidy, ← splitlines_of_tidy tidy, ← split]
    exact (kept_sublist updates lines).trans (List.sublist_append_left _ _)
  · obtain ⟨after, read, reading⟩ := parse_outLines accepted tidy plain
    refine (accepted.verify read).mpr ?_
    intro key
    cases stored : updates.get? key with
    | none =>
        refine Or.inl (Option.ext fun value => ?_)
        rw [reading, stored]
        simp
    | some value =>
        refine Or.inr ⟨rfl, ?_⟩
        rw [(reading key value).mpr (Or.inl stored)]
        rfl

/-- A merge that loses no key is written. -/
theorem cmdMerge_of {isDecimal : Char → Bool} {files : Text → Except Text Text} {request : Request}
    (done : accept isDecimal files base request = .ok (lines, values, updates)) {newLines : List Text}
    {after : JsMap Text Text} (read : parse (outLines lines updates).flatten = .ok (newLines, after))
    (kept : ∀ key ∈ keysOf values, ∃ found, after.get? key = some found) :
    cmdMerge isDecimal files base request = .ok (outLines lines updates).flatten := by
  have nothing : ((sorted (keysOf values)).filter fun key => (after.get? key).isNone) = [] := by
    refine List.filter_eq_nil_iff.mpr ?_
    intro key member
    obtain ⟨found, here⟩ := kept key (mem_sorted.mp member)
    rw [here]
    exact Bool.false_ne_true
  unfold cmdMerge
  simp only [done, bind, Except.bind, read, nothing]
  rfl

/-- The merge of a tidy file is written. -/
theorem Accepted.written {isDecimal : Char → Bool} {files : Text → Except Text Text} {request : Request}
    (accepted : Accepted base lines values updates)
    (done : accept isDecimal files base request = .ok (lines, values, updates)) (tidy : Tidy base)
    (plain : Plain updates) : cmdMerge isDecimal files base request = .ok (outLines lines updates).flatten := by
  obtain ⟨after, read, reading⟩ := parse_outLines accepted tidy plain
  refine cmdMerge_of done read ?_
  intro key member
  obtain ⟨value, stored⟩ := mem_keysOf.mp member
  cases update : updates.get? key with
  | none => exact ⟨value, (reading key value).mpr (Or.inr ⟨update, stored⟩)⟩
  | some found => exact ⟨found, (reading key found).mpr (Or.inl update)⟩

/-- What holds of an accepted merge. -/
structure Outcome (blank isDecimal : Char → Bool) (files : Text → Except Text Text) (base : Text)
    (request : Request)
    (values updates : JsMap Text Text) : Prop where
  /-- Some new file that differs for the deployment is not reported. -/
  never : ¬ Conservative blank isDecimal files base request updates
  /-- The merge of a tidy base is right, when no value ends in a newline. -/
  merged : Tidy base → (∀ key value, updates.get? key = some value → value.getLast? ≠ some '\n') →
    ∃ text, cmdMerge isDecimal files base request = .ok text ∧ Merges blank base updates text
  /-- Tidy new files that differ are reported. -/
  detected : Tidy base → ∀ new, Tidy new → Detects blank base updates new
  /-- New files that differ for the tool are reported. -/
  ownReading : ∀ new newLines after key, parse new = .ok (newLines, after) → updates.get? key = none →
    after.get? key ≠ values.get? key → cmdVerify base new (join ',' (keysOf updates)) ≠ .ok []

/-- A merge is never conservative for every new file, and it is for tidy files. -/
theorem merge_conservative {isDecimal : Char → Bool} {files : Text → Except Text Text} {request : Request}
    (digits : ∀ char, isDecimal char = true → isSpace char = false)
    (spaces : ∀ char, blank char = true → isSpace char = true)
    (done : accept isDecimal files base request = .ok (lines, values, updates)) :
    Outcome blank isDecimal files base request values updates := by
  have accepted := accepted_of_accept digits done
  refine ⟨?_, ?_, ?_, ?_⟩
  · rintro ⟨_, _, _, detects⟩
    exact accepted.undetected spaces detects
  · intro tidy unended
    have plain : Plain updates := ⟨accepted.settable.keys, fun key value stored =>
      accepted.settable.values key value stored (unended key value stored)⟩
    exact ⟨_, accepted.written done tidy plain, accepted.merges spaces tidy plain⟩
  · exact fun tidy _ newTidy => accepted.detects spaces tidy newTidy
  · exact fun _ _ _ _ read free different => accepted.differs read free different

end Accepted

/-! ## Samples -/

def noFiles : Text → Except Text Text :=
  fun _ => .error "file error (errno 2)".toList

/-- `--set-public ALERT_TRANSPORT=telegram`. -/
def sampleRequest : Request :=
  ⟨[], ["ALERT_TRANSPORT=telegram".toList], []⟩

def sampleUpdates : JsMap Text Text :=
  .set .empty "ALERT_TRANSPORT".toList "telegram".toList

def sampleBase : Text :=
  "DATABASE_URL=x\nALERT_TRANSPORT=console\n".toList

def sampleValues : JsMap Text Text :=
  .set (.set .empty "DATABASE_URL".toList "x".toList) "ALERT_TRANSPORT".toList "console".toList

theorem isDigit_solid (char : Char) (digit : char.isDigit = true) : isSpace char = false :=
  isSpace_of_isKeyChar (by simp [isKeyChar, digit])

/-- A tidy base. -/
theorem sample_merge_conservative :
    Tidy sampleBase ∧ Outcome (· == ' ') Char.isDigit noFiles sampleBase sampleRequest sampleValues sampleUpdates := by
  have accepted : accept Char.isDigit noFiles sampleBase sampleRequest =
      .ok (splitlines sampleBase, sampleValues, sampleUpdates) := rfl
  refine ⟨by decide, merge_conservative isDigit_solid ?_ accepted⟩
  intro char blank
  rw [beq_iff_eq.mp blank]
  rfl

/-- A line separator that only the tool ends a line at. -/
def separatedBase : Text :=
  "DATABASE_URL=x\nNOTE=a\u2028ALERT_TRANSPORT=console\n".toList

def separatedNote : Text × Text :=
  ("NOTE".toList, "a\u2028ALERT_TRANSPORT=console".toList)

def separatedValues (transport : String) : JsMap Text Text :=
  .set (.set (.set .empty "DATABASE_URL".toList "x".toList) "NOTE".toList "a\u2028".toList) "ALERT_TRANSPORT".toList
    transport.toList

def separatedMerge : Text :=
  "DATABASE_URL=x\nNOTE=a\u2028ALERT_TRANSPORT=telegram\n".toList

/-- The merge changes a line that assigns another key, and the updated key is assigned nowhere. -/
theorem separated_not_conservative :
    accept Char.isDigit noFiles separatedBase sampleRequest =
        .ok (splitlines separatedBase, separatedValues "console", sampleUpdates) ∧
      cmdMerge Char.isDigit noFiles separatedBase sampleRequest = .ok separatedMerge ∧
      separatedNote ∈ envAssignments (· == ' ') separatedBase ∧
      separatedNote ∉ envAssignments (· == ' ') separatedMerge ∧
      (∀ entry ∈ envAssignments (· == ' ') separatedMerge, entry.1 ≠ "ALERT_TRANSPORT".toList) ∧
      ¬ Conservative (· == ' ') Char.isDigit noFiles separatedBase sampleRequest sampleUpdates := by
  have accepted : accept Char.isDigit noFiles separatedBase sampleRequest =
      .ok (splitlines separatedBase, separatedValues "console", sampleUpdates) := rfl
  have read : parse (outLines (splitlines separatedBase) sampleUpdates).flatten =
      .ok (splitlines separatedMerge, separatedValues "telegram") := rfl
  have made : cmdMerge Char.isDigit noFiles separatedBase sampleRequest = .ok separatedMerge := by
    refine cmdMerge_of accepted read ?_
    intro key member
    have kept : ∀ key ∈ keysOf (separatedValues "console"),
        ((separatedValues "telegram").get? key).isSome = true := by
      decide
    exact Option.isSome_iff_exists.mp (kept key member)
  have old : separatedNote ∈ envAssignments (· == ' ') separatedBase := by decide
  have lost : separatedNote ∉ envAssignments (· == ' ') separatedMerge := by decide
  refine ⟨accepted, made, old, lost, by decide, ?_⟩
  rintro ⟨merged, written, merges, -⟩
  cases made.symm.trans written
  exact lost ((merges.overrides _ _).mpr (Or.inr ⟨rfl, old⟩))

end KernelJson.Releases.RuntimeEnv
