import KernelJson.Foundation.JsText
import Mathlib.Data.List.Infix

/-!
# Regular patterns over code units

Patterns built from bounded runs of a class of units, sequences and
alternatives, and a search that tries every way of matching them.  The search
finds a pattern exactly where a factor of the text belongs to its language.
-/

namespace KernelJson.Foundation.Patterns

open Foundation.JsText

/-! ## Patterns and their languages -/

/-- `run accepts least most` is a class repeated from `least` to `most` times, or without a bound. -/
inductive Pattern where
  | run (accepts : UInt16 → Bool) (least : Nat) (most : Option Nat)
  | seq (first second : Pattern)
  | alt (first second : Pattern)

namespace Pattern

def Matches : Pattern → JsString → Prop
  | run accepts least most, found =>
      (∀ unit ∈ found, accepts unit = true) ∧ least ≤ found.length ∧ ∀ bound ∈ most, found.length ≤ bound
  | seq first second, found => ∃ left right, found = left ++ right ∧ first.Matches left ∧ second.Matches right
  | alt first second, found => first.Matches found ∨ second.Matches found

/-- One unit of a class. -/
def unit (accepts : UInt16 → Bool) : Pattern := run accepts 1 (some 1)

/-- Any number of units of a class, but at least so many. -/
def atLeast (least : Nat) (accepts : UInt16 → Bool) : Pattern := run accepts least none

/-- The empty text. -/
def empty : Pattern := run (fun _ => false) 0 (some 0)

/-- The units of a text, compared one by one. -/
def text (same : UInt16 → UInt16 → Bool) : JsString → Pattern
  | [] => empty
  | first :: rest => seq (unit (same first)) (text same rest)

def sequence : List Pattern → Pattern
  | [] => empty
  | [last] => last
  | first :: rest => seq first (sequence rest)

/-! ## Search -/

/-- What remains of a text after each run that it may begin with. -/
def runRests (accepts : UInt16 → Bool) : Nat → Option Nat → JsString → List JsString
  | least, _, [] => if least = 0 then [[]] else []
  | least, most, first :: rest =>
      (if least = 0 then [first :: rest] else []) ++
        if accepts first && most != some 0 then runRests accepts (least - 1) (most.map (· - 1)) rest else []

def rests : Pattern → JsString → List JsString
  | run accepts least most, subject => runRests accepts least most subject
  | seq first second, subject => (first.rests subject).flatMap second.rests
  | alt first second, subject => first.rests subject ++ second.rests subject

/-- `RegExp.prototype.test`: some factor of the text matches. -/
def test (pattern : Pattern) (subject : JsString) : Bool :=
  subject.tails.any fun tail => !(pattern.rests tail).isEmpty

/-! ## The search is the language -/

theorem matches_run_nil {accepts : UInt16 → Bool} {least : Nat} {most : Option Nat} :
    (run accepts least most).Matches [] ↔ least = 0 := by
  constructor
  · intro matched
    exact Nat.le_zero.mp matched.2.1
  · intro optional
    exact ⟨fun unit inside => absurd inside List.not_mem_nil, optional.le, fun bound _ => Nat.zero_le bound⟩

theorem mem_runRests {accepts : UInt16 → Bool} {least : Nat} {most : Option Nat} {subject rest : JsString} :
    rest ∈ runRests accepts least most subject ↔
      ∃ found, subject = found ++ rest ∧ (run accepts least most).Matches found := by
  induction subject generalizing least most with
  | nil =>
      constructor
      · intro member
        unfold runRests at member
        split at member
        · next optional =>
            cases List.mem_singleton.mp member
            exact ⟨[], rfl, matches_run_nil.mpr optional⟩
        · cases member
      · rintro ⟨found, same, matched⟩
        obtain ⟨rfl, rfl⟩ := List.append_eq_nil_iff.mp same.symm
        rw [runRests, if_pos (matches_run_nil.mp matched)]
        exact List.mem_singleton.mpr rfl
  | cons first tail ih =>
      rw [runRests, List.mem_append]
      constructor
      · rintro (member | member)
        · split at member
          · next optional =>
              cases List.mem_singleton.mp member
              exact ⟨[], rfl, matches_run_nil.mpr optional⟩
          · cases member
        · split at member
          · next taken =>
              obtain ⟨accepted, more⟩ := Bool.and_eq_true_iff.mp taken
              obtain ⟨found, rfl, units, enough, bounded⟩ := ih.mp member
              refine ⟨first :: found, rfl, ?_, ?_, ?_⟩
              · intro unit inside
                cases inside with
                | head => exact accepted
                | tail _ later => exact units unit later
              · rw [List.length_cons]
                omega
              · intro bound given
                have positive : bound ≠ 0 := by
                  rintro rfl
                  rw [given] at more
                  cases more
                have below := bounded (bound - 1) (by rw [given]; rfl)
                rw [List.length_cons]
                omega
          · cases member
      · rintro ⟨found, same, units, enough, bounded⟩
        cases found with
        | nil =>
            left
            cases same
            rw [if_pos (Nat.le_zero.mp enough)]
            exact List.mem_singleton.mpr rfl
        | cons unit found =>
            right
            obtain ⟨rfl, rfl⟩ := List.cons.inj same
            rw [List.length_cons] at enough
            have accepted := units first List.mem_cons_self
            have more : (most != some 0) = true := by
              rw [bne_iff_ne]
              intro given
              exact absurd (bounded 0 given) (Nat.not_succ_le_zero _)
            rw [if_pos (Bool.and_eq_true_iff.mpr ⟨accepted, more⟩)]
            refine ih.mpr ⟨found, rfl, fun unit inside => units unit (List.mem_cons_of_mem _ inside),
              by omega, ?_⟩
            intro bound given
            obtain ⟨outer, there, rfl⟩ := Option.map_eq_some_iff.mp given
            have below := bounded outer there
            rw [List.length_cons] at below
            exact Nat.le_sub_one_of_lt below

theorem mem_rests {pattern : Pattern} {subject rest : JsString} :
    rest ∈ pattern.rests subject ↔ ∃ found, subject = found ++ rest ∧ pattern.Matches found := by
  induction pattern generalizing subject rest with
  | run accepts least most => exact mem_runRests
  | seq first second firstIH secondIH =>
      rw [rests, List.mem_flatMap]
      constructor
      · rintro ⟨middle, here, there⟩
        obtain ⟨left, rfl, leftMatches⟩ := firstIH.mp here
        obtain ⟨right, rfl, rightMatches⟩ := secondIH.mp there
        exact ⟨left ++ right, (List.append_assoc ..).symm, left, right, rfl, leftMatches, rightMatches⟩
      · rintro ⟨found, rfl, left, right, rfl, leftMatches, rightMatches⟩
        exact ⟨right ++ rest, firstIH.mpr ⟨left, List.append_assoc .., leftMatches⟩,
          secondIH.mpr ⟨right, rfl, rightMatches⟩⟩
  | alt first second firstIH secondIH =>
      rw [rests, List.mem_append, firstIH, secondIH]
      constructor
      · rintro (⟨found, same, matched⟩ | ⟨found, same, matched⟩)
        · exact ⟨found, same, .inl matched⟩
        · exact ⟨found, same, .inr matched⟩
      · rintro ⟨found, same, matched | matched⟩
        · exact .inl ⟨found, same, matched⟩
        · exact .inr ⟨found, same, matched⟩

/-- The search finds a pattern exactly when a factor of the text matches it. -/
theorem test_iff {pattern : Pattern} {subject : JsString} :
    pattern.test subject = true ↔
      ∃ before found after, subject = before ++ found ++ after ∧ pattern.Matches found := by
  rw [test, List.any_eq_true]
  constructor
  · rintro ⟨tail, inside, remaining⟩
    obtain ⟨before, rfl⟩ := (List.mem_tails _ _).mp inside
    obtain ⟨rest, member⟩ := List.isEmpty_eq_false_iff_exists_mem.mp (Bool.not_eq_true' _ ▸ remaining)
    obtain ⟨found, rfl, matched⟩ := mem_rests.mp member
    exact ⟨before, found, rest, (List.append_assoc ..).symm, matched⟩
  · rintro ⟨before, found, after, rfl, matched⟩
    refine ⟨found ++ after, (List.mem_tails _ _).mpr ⟨before, (List.append_assoc ..).symm⟩, ?_⟩
    rw [Bool.not_eq_true']
    exact List.isEmpty_eq_false_iff_exists_mem.mpr ⟨after, mem_rests.mpr ⟨found, rfl, matched⟩⟩

/-- A text that holds a found factor is found too. -/
theorem test_of_infix {pattern : Pattern} {inner outer : JsString} (inside : inner <:+: outer)
    (found : pattern.test inner = true) : pattern.test outer = true := by
  obtain ⟨before, factor, after, rfl, matched⟩ := test_iff.mp found
  obtain ⟨left, right, rfl⟩ := inside
  exact test_iff.mpr ⟨left ++ before, factor, after ++ right, by simp only [List.append_assoc], matched⟩

end Pattern

end KernelJson.Foundation.Patterns
