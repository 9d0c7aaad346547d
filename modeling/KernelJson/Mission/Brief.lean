import KernelJson.Contracts.Brief
import KernelJson.Foundation.CivilCalendar
import KernelJson.Mission.Reconcile

/-!
# Reconciling a morning brief

The kernel's own judgement of a brief and its review, from the captured facts
and the memories that the analyst was given.  Every line of evidence carries a
reference; every item of a brief must cite references that the evidence has.
-/

namespace KernelJson.Mission.Brief

open Contracts.Brief
open Contracts.Github
open Contracts.Objective
open Contracts.Platform
open Contracts.Reports
open Foundation
open Foundation.CivilCalendar
open Foundation.JsText
open Mission.Reconcile

/-! ## Instants of timestamps -/

/-- Seconds, and milliseconds from the first three digits of a fraction. -/
def readSeconds (text : JsString) : Option (Nat × Nat × JsString) :=
  match dropUnit 58 text with
  | none => some (0, 0, text)
  | some rest => do
      let (second, rest) ← fixedDigits 2 rest
      match dropUnit 46 rest with
      | none => some (second, 0, rest)
      | some fraction => do
          let digits := fraction.takeWhile isDigitUnit
          let (millisecond, _) ← fixedDigits 3 ((digits ++ js "00").take 3)
          some (second, millisecond, fraction.dropWhile isDigitUnit)

/-- Minutes east of Greenwich. -/
def readZone (text : JsString) : Option Int :=
  if text = js "Z" then some 0
  else do
    let (hour, rest) ← fixedDigits 2 text.tail
    let (minute, _) ← fixedDigits 2 (← dropUnit 58 rest)
    some (if text.head? = some 45 then -(hour * 60 + minute : Int) else hour * 60 + minute)

/-- `Date.parse(text)` of a timestamp. -/
def dateParse (text : JsString) : Option Int := do
  let (year, rest) ← fixedDigits 4 text
  let (month, rest) ← fixedDigits 2 (← dropUnit 45 rest)
  let (day, rest) ← fixedDigits 2 (← dropUnit 45 rest)
  let (hour, rest) ← fixedDigits 2 (← dropUnit 84 rest)
  let (minute, rest) ← fixedDigits 2 (← dropUnit 58 rest)
  let (second, millisecond, rest) ← readSeconds rest
  let offset ← readZone rest
  some ((((daysOfCivil ⟨year, month, day⟩ * 24 + hour) * 60 + minute - offset) * 60 + second) * 1000 + millisecond)

example : dateParse (js "2024-02-29T23:59:59.5+05:30") = dateParse (js "2024-02-29T18:29:59.500Z") := by
  decide +kernel

/-! ## References -/

def short (sha : JsString) : JsString :=
  sha.take 12

/-- `normaliseRef(ref)`: the reference inside one pair of square brackets. -/
def normaliseRef (ref : JsString) : JsString :=
  let text := trim ref
  let inner := (text.drop 1).dropLast
  if text = 91 :: (inner ++ [93]) ∧ inner ≠ [] ∧ (91 : UInt16) ∉ inner ∧ (93 : UInt16) ∉ inner then trim inner
  else trim text

def repositoryRefs (repo : BriefActiveRepo) : List JsString :=
  (js "repo:" ++ repo.repo.val) ::
    (repo.commits.val.map fun commit => js "commit:" ++ repo.repo.val ++ js "@" ++ short commit.sha.val) ++
    (((repo.openPulls.map fun pulls => pulls.val).getD []).map fun pull =>
      js "pr:" ++ repo.repo.val ++ js "#" ++ signedDecimal pull.number.val) ++
    (if repo.ci.isSome then [js "ci:" ++ repo.repo.val] else [])

/-- `briefRefs(facts, memoryIds)`: every reference that the evidence supports. -/
def briefRefs (facts : BriefFacts) (memoryIds : List JsString) : List JsString :=
  [js "scan", js "kj:tasks"] ++ (if facts.kernel.lastCanary.isSome then [js "kj:canary"] else []) ++
    facts.github.active.val.flatMap repositoryRefs ++ memoryIds.map fun id => js "memory:" ++ id.take 8

/-! ## The judgement -/

structure BriefReconcileInput where
  facts : BriefFacts
  memoryIds : List JsString
  analysisText : JsString
  analystModel : JsString
  analystProvider : JsString
  reviewText : JsString
  reviewerModel : JsString
  reviewerProvider : JsString

section Judgement

variable (platform : Platform)

def parseBrief (text : JsString) : Option BriefAnalysis :=
  (parseRuntimeJson platform text).bind BriefAnalysis.codec.read

/-- Who ran; the schema bounds the lengths of the names. -/
def independenceOf (analystProvider reviewerProvider analystModel reviewerModel : JsString) :
    Option Independence := do
  let analystProvider ← Matching.parse (lengthWithin 1 64) analystProvider
  let reviewerProvider ← Matching.parse (lengthWithin 1 64) reviewerProvider
  let analystFamily ← Matching.parse (lengthWithin 0 64) (modelFamily platform analystModel)
  let reviewerFamily ← Matching.parse (lengthWithin 0 64) (modelFamily platform reviewerModel)
  some
    { analystProvider, reviewerProvider, analystFamily, reviewerFamily
      crossProvider := analystProvider.val != reviewerProvider.val
      crossFamily := analystFamily.val != reviewerFamily.val }

namespace BriefReconcileInput

variable (input : BriefReconcileInput)

def brief : Option BriefAnalysis :=
  parseBrief platform input.analysisText

def review : Option MissionReview :=
  parseReview platform input.reviewText

def items : List BriefItem :=
  ((input.brief platform).map fun brief => brief.items.val).getD []

def analysisDigest : Sha256Text :=
  ⟨sha256Text platform input.analysisText, isSha256Text_hexText _⟩

def flagged : List (Between 0 11) :=
  ((input.review platform).map fun review => review.unsupportedFindings.val).getD []

def passed : BriefCheck → Bool
  | .briefSchemaValid => (input.brief platform).isSome
  | .briefWindowMatchesEvidence =>
      (input.brief platform).any fun brief =>
        (dateParse brief.windowEnd.val).isSome &&
          dateParse brief.windowEnd.val == dateParse input.facts.github.windowEnd.val
  | .briefItemsCited =>
      (input.brief platform).isSome && (input.items platform).all fun item => !item.refs.val.isEmpty
  | .briefRefsExistInEvidence =>
      (input.brief platform).isSome && (input.items platform).all fun item =>
        item.refs.val.all fun ref => (briefRefs input.facts input.memoryIds).contains (normaliseRef ref.val)
  | .reviewSchemaValid => (input.review platform).isSome
  | .reviewBindsToAnalysis =>
      (input.review platform).any fun review =>
        review.reviewedAnalysisSha256.val == (input.analysisDigest platform).val
  | .analystRuntimeAllowed => runtimeAllowed platform input.analystModel
  | .reviewerRuntimeAllowed => runtimeAllowed platform input.reviewerModel
  | .reviewerIsIndependent => !sameModel platform input.analystModel input.reviewerModel
  | .reviewVerdictAcceptable => (input.review platform).any fun review => review.verdict != .reject
  | .reviewLeavesSupportedItems =>
      (input.review platform).isSome && (input.brief platform).isSome &&
        ((input.flagged platform).all fun position => position.val < (input.items platform).length) &&
        (List.range (input.items platform).length).any fun position =>
          !((input.flagged platform).map Subtype.val).contains (position : Int)

theorem length_items (input : BriefReconcileInput) : (input.items platform).length ≤ 12 := by
  unfold items
  cases input.brief platform with
  | none => exact Nat.zero_le _
  | some brief => exact brief.items.property.2

theorem length_flagged (input : BriefReconcileInput) : (input.flagged platform).length ≤ 12 := by
  unfold flagged
  cases input.review platform with
  | none => exact Nat.zero_le _
  | some review => exact review.unsupportedFindings.property

/-- The flagged positions in their order, each once. -/
def withheldItems : WithheldItems :=
  ⟨(input.flagged platform).dedup.insertionSort fun first second => first.val ≤ second.val, by
    rw [List.length_insertionSort]
    exact ((input.flagged platform).dedup_sublist.length_le).trans (input.length_flagged platform)⟩

def checks : List (BriefCheck × Bool) :=
  briefReconcileChecks.map fun check => (check, input.passed platform check)

def decision : Decision :=
  if (input.checks platform).all Prod.snd then .accepted else .rejected

theorem decision_iff (input : BriefReconcileInput) :
    input.decision platform = .accepted ↔ ∀ check ∈ input.checks platform, check.2 = true := by
  unfold decision
  rw [← List.all_eq_true]
  split
  · next all => exact iff_of_true rfl all
  · next some => exact iff_of_false (fun impossible => by cases impossible) some

end BriefReconcileInput

/-- `reconcileBrief(input)`, or `none` where the schema of the result refuses it. -/
def reconcileBrief (input : BriefReconcileInput) : Option BriefReconciliation := do
  let analystModel ← Matching.parse (lengthWithin 0 256) input.analystModel
  let reviewerModel ← Matching.parse (lengthWithin 0 256) input.reviewerModel
  let independence ←
    independenceOf platform input.analystProvider input.reviewerProvider input.analystModel input.reviewerModel
  some
    { decision := input.decision platform
      checks := input.checks platform
      itemCount := ⟨(input.items platform).length, Int.natCast_nonneg _, Int.ofNat_le.mpr (input.length_items platform)⟩
      withheldItems := input.withheldItems platform
      factsDigest := ⟨capabilityDigest platform (BriefFacts.codec.write input.facts), isSha256Text_hexText _⟩
      analysisDigest := input.analysisDigest platform
      reviewDigest := ⟨sha256Text platform input.reviewText, isSha256Text_hexText _⟩
      analystModel, reviewerModel, independence
      inOrder := by simp only [BriefReconcileInput.checks, List.map_map, Function.comp_def, List.map_id']
      decides := input.decision_iff platform }

/-- A judgement carries the decision, the checks and the withheld items of its input. -/
theorem reconcileBrief_fields {input : BriefReconcileInput} {record : BriefReconciliation}
    (reconciled : reconcileBrief platform input = some record) :
    record.decision = input.decision platform ∧ record.checks = input.checks platform ∧
      record.withheldItems = input.withheldItems platform := by
  simp only [reconcileBrief, Option.bind_eq_bind, Option.bind_eq_some_iff, Option.some.injEq] at reconciled
  obtain ⟨analystModel, -, reviewerModel, -, independence, -, rfl⟩ := reconciled
  exact ⟨rfl, rfl, rfl⟩

/-- What passed every check passed each of them. -/
theorem passed_of_accepted {input : BriefReconcileInput} {record : BriefReconciliation}
    (reconciled : reconcileBrief platform input = some record) (accepted : record.decision = .accepted)
    (check : BriefCheck) : input.passed platform check = true := by
  obtain ⟨decision, -⟩ := reconcileBrief_fields platform reconciled
  have all := (input.decision_iff platform).mp (decision ▸ accepted)
  have member : check ∈ briefReconcileChecks := by cases check <;> decide
  exact all (check, input.passed platform check) (List.mem_map_of_mem member)

/-- The schema of a judgement requires both providers to be named. -/
theorem providers_of_reconciled {input : BriefReconcileInput} {record : BriefReconciliation}
    (reconciled : reconcileBrief platform input = some record) :
    input.analystProvider ≠ [] ∧ input.reviewerProvider ≠ [] := by
  simp only [reconcileBrief, independenceOf, Option.bind_eq_bind, Option.bind_eq_some_iff] at reconciled
  obtain ⟨_, -, _, -, _, ⟨_, analyst, _, reviewer, -⟩, -⟩ := reconciled
  exact ⟨nonempty_of_parse analyst, nonempty_of_parse reviewer⟩

theorem brief_of_accepted {input : BriefReconcileInput} {record : BriefReconciliation}
    (reconciled : reconcileBrief platform input = some record) (accepted : record.decision = .accepted) :
    ∃ brief, parseBrief platform input.analysisText = some brief :=
  Option.isSome_iff_exists.mp (passed_of_accepted platform reconciled accepted .briefSchemaValid)

end Judgement

/-! ## Texts for the outcome -/

/-- `briefHeadline(brief, withheldItems)`: a fixed sentence once any item is withheld. -/
def briefHeadline (brief : BriefAnalysis) (withheldItems : WithheldItems) : JsString :=
  let withheld := withheldItems.val.dedup.length
  if withheld = 0 then brief.headline.text
  else
    signedDecimal ((brief.items.val.length : Int) - withheld) ++ js " of " ++
      decimal brief.items.val.length ++ js " items passed review; the model's headline is not shown because " ++
      (if withheld = 1 then js "an item was" else js "items were") ++ js " withheld."

/-- `briefSummary(brief, withheldItems)`. -/
def briefSummary (brief : BriefAnalysis) (withheldItems : WithheldItems) : JsString :=
  (js "Brief accepted: " ++ briefHeadline brief withheldItems).take 500

/-- `briefFailedChecks(rec)`. -/
def briefFailedChecks (record : BriefReconciliation) : List JsString :=
  (record.checks.filter fun check => !check.2).map fun check => check.1.text

/-- A reference in brackets, and one with brackets inside. -/
example : normaliseRef (js " [scan] ") = js "scan" ∧ normaliseRef (js "[[scan]]") = js "[[scan]]" ∧
    normaliseRef (js "[]") = js "[]" := by
  decide +kernel

end KernelJson.Mission.Brief
