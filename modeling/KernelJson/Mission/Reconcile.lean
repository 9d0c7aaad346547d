import KernelJson.Contracts.Reports
import KernelJson.Foundation.JsonParse

/-!
# Reconciling a mission

The kernel's own judgement of the two runtimes' texts, from the captured facts
and the models that the receipts report.  It is a pure function: the workflow
and the completion boundary both evaluate it.
-/

namespace KernelJson.Mission.Reconcile

open Contracts.Github
open Contracts.Objective
open Contracts.Platform
open Contracts.Reports
open Foundation
open Foundation.JsText

/-! ## Texts of the runtimes -/

def fence : JsString := js "```"

/-- The body of a block whose closing fence stands on the last line. -/
def closedBody (text : JsString) : Option JsString :=
  if ((10 :: fence).isSuffixOf text) = true then some (text.take (text.length - 4)) else none

/-- The body of a single fenced block: the opening line takes as much white space as still
leaves a closing line. -/
def fencedBody (text : JsString) : Option JsString :=
  if fence.isPrefixOf text = true then
    let opened := text.drop 3
    let opened := if (js "json").isPrefixOf opened then opened.drop 4 else opened
    (List.range (opened.takeWhile isSpace).length).reverse.findSome? fun position =>
      if opened[position]? = some 10 then closedBody (opened.drop (position + 1)) else none
  else none

section Judgement

variable (platform : Platform)

/-- `parseRuntimeJson(text)`. -/
def parseRuntimeJson (text : JsString) : Option Json :=
  JsonParse.parse platform.numeral ((fencedBody (trim text)).getD (trim text))

def parseAnalysis (text : JsString) : Option MissionAnalysis :=
  (parseRuntimeJson platform text).bind MissionAnalysis.codec.read

def parseReview (text : JsString) : Option MissionReview :=
  (parseRuntimeJson platform text).bind MissionReview.codec.read

def runtimeAllowed (model : JsString) : Bool :=
  missionRuntimeFamilies.contains (modelFamily platform model)

/-! ## Citations -/

/-- The captured tree as a map; of two entries for one path the later counts. -/
def treeMap (facts : GithubFacts) : List (JsString × JsString) :=
  facts.tree.val.foldl (fun tree entry => JsMap.setEntry entry.path.val entry.sha.val tree) []

/-- The object id that the tree holds for a cited path, if the citation binds to it. -/
def bind (tree : List (JsString × JsString)) (item : FindingEvidence) : Option JsString :=
  (JsMap.lookupEntry item.path.val tree).filter fun full => item.blobSha.val.isPrefixOf full

/-- The cited paths with their object ids, in the order of the paths. -/
def boundPaths (tree : List (JsString × JsString)) (finding : Finding) : List (JsString × JsString) :=
  Json.sortByName
    (finding.evidence.val.foldl
      (fun seen item => JsMap.setEntry item.path.val ((bind tree item).getD []) seen) [])

def findingDigest (facts : GithubFacts) (tree : List (JsString × JsString)) (finding : Finding) : Sha256Text :=
  ⟨capabilityDigest platform (.obj
      [(js "headSha", .str facts.headSha.val),
        (js "evidence", .arr ((boundPaths tree finding).map fun cited =>
          .obj [(js "path", .str cited.1), (js "sha", .str cited.2)]))]),
    isSha256Text_hexText _⟩

/-! ## The judgement -/

structure ReconcileInput where
  facts : GithubFacts
  contract : MissionContract
  analysisText : JsString
  analystModel : JsString
  analystProvider : JsString
  reviewText : JsString
  reviewerModel : JsString
  reviewerProvider : JsString

namespace ReconcileInput

variable (input : ReconcileInput)

def analysis : Option MissionAnalysis :=
  parseAnalysis platform input.analysisText

def review : Option MissionReview :=
  parseReview platform input.reviewText

def findings : List Finding :=
  ((input.analysis platform).map fun analysis => analysis.findings.val).getD []

def cited : List FindingEvidence :=
  (input.findings platform).flatMap fun finding => finding.evidence.val

def analysisDigest : Sha256Text :=
  ⟨sha256Text platform input.analysisText, isSha256Text_hexText _⟩

def headMatches : Bool :=
  (input.analysis platform).any fun analysis => analysis.headSha.val == input.facts.headSha.val

def allCited : Bool :=
  (input.analysis platform).isSome && (input.findings platform).all fun finding => !finding.evidence.val.isEmpty

def pathsExist : Bool :=
  (input.analysis platform).isSome &&
    (input.cited platform).all fun item => (JsMap.lookupEntry item.path.val (treeMap input.facts)).isSome

/-- Every citation of a captured path carries the object id that the tree holds for it. -/
def bound : Bool :=
  input.headMatches platform &&
    (input.cited platform).all fun item =>
      (JsMap.lookupEntry item.path.val (treeMap input.facts)).isNone ||
        (bind (treeMap input.facts) item).isSome

def grounded : Bool :=
  input.allCited platform && input.pathsExist platform && input.bound platform

def passed : ReconcileCheck → Bool
  | .analysisSchemaValid => (input.analysis platform).isSome
  | .analysisHeadShaMatchesEvidence => input.headMatches platform
  | .analysisFindingCountWithinContract =>
      (input.analysis platform).isSome &&
        input.contract.minFindings.val ≤ (input.findings platform).length &&
        (input.findings platform).length ≤ input.contract.maxFindings.val
  | .analysisFindingsCited => input.allCited platform
  | .analysisPathsExistInEvidence => input.pathsExist platform
  | .analysisEvidenceBindsToCommit => input.bound platform
  | .reviewSchemaValid => (input.review platform).isSome
  | .reviewBindsToAnalysis =>
      (input.review platform).any fun review =>
        review.reviewedAnalysisSha256.val == (input.analysisDigest platform).val
  | .analystRuntimeAllowed => runtimeAllowed platform input.analystModel
  | .reviewerRuntimeAllowed => runtimeAllowed platform input.reviewerModel
  | .reviewerIsIndependent => !sameModel platform input.analystModel input.reviewerModel
  | .reviewVerdictAcceptable => (input.review platform).any fun review => review.verdict != .reject
  | .reviewFlagsNoUnsupportedFindings =>
      (input.review platform).any fun review => review.unsupportedFindings.val.isEmpty

theorem length_findings (input : ReconcileInput) : (input.findings platform).length ≤ 12 := by
  unfold findings
  cases input.analysis platform with
  | none => exact Nat.zero_le _
  | some analysis => exact analysis.findings.property.2

/-- One digest for each finding, issued for a fully grounded analysis only. -/
def findingDigests : { digests : List Sha256Text // digests.length ≤ 12 } :=
  if input.grounded platform then
    ⟨(input.findings platform).map (findingDigest platform input.facts (treeMap input.facts)), by
      rw [List.length_map]
      exact input.length_findings platform⟩
  else ⟨[], Nat.zero_le _⟩

def checks : List (ReconcileCheck × Bool) :=
  reconcileChecks.map fun check => (check, input.passed platform check)

def decision : Decision :=
  if (input.checks platform).all Prod.snd then .accepted else .rejected

theorem decision_iff (input : ReconcileInput) :
    input.decision platform = .accepted ↔ ∀ check ∈ input.checks platform, check.2 = true := by
  unfold decision
  rw [← List.all_eq_true]
  split
  · next all => exact iff_of_true rfl all
  · next some => exact iff_of_false (fun impossible => by cases impossible) some

/-- Who ran; the schema bounds the lengths of the names. -/
def independence : Option Independence := do
  let analystProvider ← Matching.parse (lengthWithin 1 64) input.analystProvider
  let reviewerProvider ← Matching.parse (lengthWithin 1 64) input.reviewerProvider
  let analystFamily ← Matching.parse (lengthWithin 0 64) (modelFamily platform input.analystModel)
  let reviewerFamily ← Matching.parse (lengthWithin 0 64) (modelFamily platform input.reviewerModel)
  some
    { analystProvider, reviewerProvider, analystFamily, reviewerFamily
      crossProvider := analystProvider.val != reviewerProvider.val
      crossFamily := analystFamily.val != reviewerFamily.val }

end ReconcileInput

/-- `reconcileMission(input)`, or `none` where the schema of the result refuses it. -/
def reconcileMission (input : ReconcileInput) : Option MissionReconciliation := do
  let analystModel ← Matching.parse (lengthWithin 0 256) input.analystModel
  let reviewerModel ← Matching.parse (lengthWithin 0 256) input.reviewerModel
  let independence ← input.independence platform
  some
    { decision := input.decision platform
      checks := input.checks platform
      contract := input.contract
      findingCount := ⟨(input.findings platform).length, Int.natCast_nonneg _,
        Int.ofNat_le.mpr (input.length_findings platform)⟩
      findingEvidenceDigests := input.findingDigests platform
      githubDigest := ⟨capabilityDigest platform (GithubFacts.codec.write input.facts), isSha256Text_hexText _⟩
      analysisDigest := input.analysisDigest platform
      reviewDigest := ⟨sha256Text platform input.reviewText, isSha256Text_hexText _⟩
      analystModel, reviewerModel, independence
      inOrder := by simp only [ReconcileInput.checks, List.map_map, Function.comp_def, List.map_id']
      decides := input.decision_iff platform }

/-- A judgement decides by its checks, all of them over the same input. -/
theorem reconcileMission_decision {input : ReconcileInput} {record : MissionReconciliation}
    (reconciled : reconcileMission platform input = some record) :
    record.decision = input.decision platform ∧ record.checks = input.checks platform := by
  simp only [reconcileMission, Option.bind_eq_bind, Option.bind_eq_some_iff, Option.some.injEq] at reconciled
  obtain ⟨analystModel, -, reviewerModel, -, independence, -, rfl⟩ := reconciled
  exact ⟨rfl, rfl⟩

/-- What passed every check passed each of them. -/
theorem passed_of_accepted {input : ReconcileInput} {record : MissionReconciliation}
    (reconciled : reconcileMission platform input = some record) (accepted : record.decision = .accepted)
    (check : ReconcileCheck) : input.passed platform check = true := by
  obtain ⟨decision, -⟩ := reconcileMission_decision platform reconciled
  have all := (input.decision_iff platform).mp (decision ▸ accepted)
  have member : check ∈ reconcileChecks := by cases check <;> decide
  exact all (check, input.passed platform check) (List.mem_map_of_mem member)

theorem nonempty_of_parse {text : JsString} {bounded : BoundedText 1 64}
    (parsed : Matching.parse (lengthWithin 1 64) text = some bounded) : text ≠ [] := by
  rintro rfl
  cases parsed

/-- The schema of a judgement requires both providers to be named. -/
theorem providers_of_reconciled {input : ReconcileInput} {record : MissionReconciliation}
    (reconciled : reconcileMission platform input = some record) :
    input.analystProvider ≠ [] ∧ input.reviewerProvider ≠ [] := by
  simp only [reconcileMission, ReconcileInput.independence, Option.bind_eq_bind, Option.bind_eq_some_iff]
    at reconciled
  obtain ⟨_, -, _, -, _, ⟨_, analyst, _, reviewer, -⟩, -⟩ := reconciled
  exact ⟨nonempty_of_parse analyst, nonempty_of_parse reviewer⟩

theorem analysis_of_accepted {input : ReconcileInput} {record : MissionReconciliation}
    (reconciled : reconcileMission platform input = some record) (accepted : record.decision = .accepted) :
    ∃ analysis, parseAnalysis platform input.analysisText = some analysis :=
  Option.isSome_iff_exists.mp (passed_of_accepted platform reconciled accepted .analysisSchemaValid)

end Judgement

/-! ## Texts for the outcome -/

/-- `missionSummary(analysis)`. -/
def missionSummary (analysis : MissionAnalysis) : JsString :=
  (js "Accepted: " ++ analysis.summary.text).take 500

/-- `failedCheckNames(rec)`. -/
def failedCheckNames (record : MissionReconciliation) : List JsString :=
  (record.checks.filter fun check => !check.2).map fun check => check.1.text

/-- The unit of the analyst's summary on which a long outcome summary ends is white space. -/
def EndsInSpace (analysis : MissionAnalysis) : Prop :=
  ∃ unit, analysis.summary.text[489]? = some unit ∧ isSpace unit = true

theorem accepted_eq : js "Accepted: " = [65, 99, 99, 101, 112, 116, 101, 100, 58, 32] := by
  decide +kernel

/-- The outcome summary ends where the analyst's ends, or at its 490th unit. -/
theorem getLast?_missionSummary (analysis : MissionAnalysis) :
    (missionSummary analysis).getLast? =
      (analysis.summary.text[489]?).or analysis.summary.text.getLast? := by
  have nonempty : analysis.summary.text ≠ [] := by
    intro empty
    have bounded := analysis.summary.bounded
    rw [empty] at bounded
    exact absurd bounded (by decide)
  have cut : (js "Accepted: " ++ analysis.summary.text)[499]? = analysis.summary.text[489]? := by
    rw [accepted_eq]
    exact List.getElem?_append_right (by decide : 10 ≤ 499)
  have whole : (js "Accepted: " ++ analysis.summary.text).getLast? = analysis.summary.text.getLast? := by
    rw [List.getLast?_append, List.getLast?_eq_some_getLast nonempty]
    rfl
  rw [missionSummary, List.getLast?_take, if_neg (by decide), cut, whole]

theorem missionSummary_starts (analysis : MissionAnalysis) :
    ∃ rest, missionSummary analysis = 65 :: rest := by
  refine ⟨([99, 99, 101, 112, 116, 101, 100, 58, 32] ++ analysis.summary.text).take 499, ?_⟩
  rw [missionSummary, accepted_eq]
  rfl

/-- The summary is trimmed as it stands unless it is cut after white space. -/
theorem trim_missionSummary_iff (analysis : MissionAnalysis) :
    trim (missionSummary analysis) = missionSummary analysis ↔ ¬ EndsInSpace analysis := by
  obtain ⟨rest, starts⟩ := missionSummary_starts analysis
  have last := getLast?_missionSummary analysis
  rw [starts, List.getLast?_eq_some_getLast (List.cons_ne_nil _ _)] at last
  rw [starts, trim_eq_self_iff (by decide : isSpace 65 = false)]
  cases cut : analysis.summary.text[489]? with
  | some unit =>
      rw [cut, Option.some_or] at last
      rw [Option.some.inj last]
      constructor
      · rintro visible ⟨other, found, space⟩
        cases cut.symm.trans found
        rw [visible] at space
        cases space
      · intro kept
        exact Bool.eq_false_iff.mpr fun space => kept ⟨unit, cut, space⟩
  | none =>
      rw [cut, Option.none_or] at last
      have visible : isSpace ((65 :: rest).getLast (List.cons_ne_nil _ _)) = false := by
        apply @trim_last analysis.summary.text
        rw [analysis.summary.trimmed, ← last]
      refine iff_of_true visible ?_
      rintro ⟨unit, found, -⟩
      cases cut.symm.trans found

/-- A fenced block, and a block with an empty body. -/
example : fencedBody (js "```json\n {}\n```") = some (js " {}") ∧ fencedBody (js "```\n\n```") = some [] ∧
    fencedBody (js "``` {}\n```") = none := by
  decide +kernel

end KernelJson.Mission.Reconcile
