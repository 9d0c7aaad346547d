import KernelJson.Mission.Evidence
import KernelJson.Mission.Reconcile
import KernelJson.Planner.Plan

/-!
# Verifying a completed mission

The check that the ledger makes inside the transaction that commits a
completion.  It reads the persisted facts and texts back, judges them again,
and requires the persisted judgement, the steps and the outcome to agree.
-/

namespace KernelJson.Mission.Verify

open Contracts.Common
open Contracts.Github
open Contracts.Objective
open Contracts.Outcome
open Contracts.Platform
open Contracts.Reports
open Contracts.Task
open Foundation
open Foundation.JsText
open Mission.Evidence
open Mission.Reconcile
open Planner.Plan

/-- A value, or the message of the error that the check throws. -/
abbrev Checked (α : Type) : Type := Except String α

def fail {α : Type} (why : String) : Checked α :=
  .error ("Mission completion rejected: " ++ why)

def require (holds : Prop) [Decidable holds] (why : String) : Checked Unit :=
  if holds then .ok () else fail why

/-- The value, or the error that its parser throws. -/
def orThrow {α : Type} (value : Option α) (message : String) : Checked α :=
  match value with
  | some value => .ok value
  | none => .error message

@[simp]
theorem ok_bind {α β : Type} (value : α) (next : α → Checked β) : (Except.ok value >>= next) = next value := rfl

@[simp]
theorem require_true {holds : Prop} [Decidable holds] {why : String} (given : holds) :
    require holds why = .ok () :=
  if_pos given

theorem orThrow_ok {α : Type} {value : Option α} {message : String} {found : α}
    (given : orThrow value message = .ok found) : value = some found := by
  cases value with
  | none => cases given
  | some other =>
      cases given
      rfl

/-! ## Reading the evidence -/

/-- The only evidence of a step, a type and a source. -/
def one (evidence : List Evidence) (stepId : Id) (type : EvidenceType) (source : JsString) (label : String) :
    Checked Evidence :=
  match evidence.filter fun found => found.stepId = some stepId ∧ found.type = type ∧ found.source = source with
  | [found] => .ok found
  | _ => fail ("expected exactly one " ++ label ++ " evidence")

/-- A text field of the metadata. -/
def textField (evidence : Evidence) (name : String) : Option JsString :=
  (evidence.metadata.field? (js name)).bind Json.asString?

section Verification

variable (platform : Platform)

/-- The persisted facts, which must hash to the recorded digest and be about the admitted repository. -/
def readFactsEvidence (task : Task) (evidence : Evidence) : Checked GithubFacts := do
  let facts ← orThrow ((evidence.metadata.field? (js "facts")).bind GithubFacts.codec.read) "Invalid facts"
  let factsDigest := capabilityDigest platform (GithubFacts.codec.write facts)
  require (evidence.digest = some factsDigest ∧ textField evidence "content_sha256" = some factsDigest)
    "github digest mismatch"
  require (textField evidence "head_sha" = some facts.headSha.val) "github head sha mismatch"
  let objective ← (parseMissionObjective task.objective).mapError ObjectiveError.message
  require (platform.toLowerCase facts.repo.val = platform.toLowerCase objective.repo.val)
    "evidence is for a different repository"
  .ok facts

/-- The persisted text of a runtime, which must hash to the recorded digest. -/
def readText (evidence : Evidence) : Checked JsString :=
  match textField evidence "text" with
  | none => fail "runtime text does not match its digest"
  | some text =>
      if evidence.digest = some (sha256Text platform text) then .ok text
      else fail "runtime text does not match its digest"

def responseModel (evidence : Evidence) : Checked JsString :=
  match textField evidence "response_model" with
  | some model => .ok model
  | none => fail "missing response model"

def provider (evidence : Evidence) : Checked JsString :=
  match textField evidence "provider" with
  | some provider => if provider ≠ [] then .ok provider else fail "missing provider"
  | none => fail "missing provider"

/-- The judgement computed again, which the persisted one must match. -/
def readJudgement (task : Task) (facts : GithubFacts) (analysisText reviewText : JsString)
    (analyst reviewer reconcile : Evidence) : Checked MissionReconciliation := do
  let objective ← (parseMissionObjective task.objective).mapError ObjectiveError.message
  let analystModel ← responseModel analyst
  let analystProvider ← provider analyst
  let reviewerModel ← responseModel reviewer
  let reviewerProvider ← provider reviewer
  let recomputed ← orThrow
    (reconcileMission platform
      { facts, contract := objective.contract, analysisText, analystModel, analystProvider, reviewText,
        reviewerModel, reviewerProvider })
    "Invalid reconciliation"
  let persisted ← orThrow (MissionReconciliation.codec.read reconcile.metadata) "Invalid reconciliation"
  let digest := capabilityDigest platform (MissionReconciliation.codec.write recomputed)
  require (capabilityDigest platform (MissionReconciliation.codec.write persisted) = digest ∧
      reconcile.digest = some digest)
    "persisted reconciliation does not match the recomputed one"
  require (recomputed.decision = .accepted) "reconciliation did not accept the mission"
  .ok recomputed

/-- A persisted step, completed with the output that the evidence implies. -/
def checkStep (steps : List TaskStep) (node : PlanStep) (output : Json) : Checked Unit := do
  let planned ← orThrow (projectStep node) "Invalid step"
  match steps.find? fun step => step.id = node.id with
  | none => fail "a planned step is missing or not completed"
  | some stored =>
      require (stored.status = .completed ∧ stored.kind = planned.kind)
        "a planned step is missing or not completed"
      require (capabilityDigest platform (stored.output.getD .null) = capabilityDigest platform output)
        "step output does not match evidence"

def sortedTexts (ids : List Id) : List JsString :=
  (ids.map Id.text).insertionSort Json.unitsLE

/-- The outcome says what the analysis says, and cites the four pieces of evidence. -/
def checkOutcome (task : Task) (outcome : Outcome) (analysisText : JsString) (verified : List Evidence) :
    Checked Unit := do
  require ((parseAnalysis platform analysisText).any (fun analysis => outcome.summary == missionSummary analysis) = true)
    "outcome summary is not the verified one"
  require (sortedTexts outcome.evidenceRefs = sortedTexts (verified.map Evidence.id)) "outcome evidence set mismatch"
  require (CompletesFrom task outcome verified) "completion"

/-- `verifyMissionCompletion(task, outcome, plan, steps, records)`. -/
def verifyMissionCompletion (task : Task) (outcome : Outcome) (plan : ExecutionPlan) (steps : List TaskStep)
    (records : List Evidence) : Checked Unit := do
  require (plan.recipe = .mission) "wrong recipe"
  let nodes ← orThrow (orderedSteps plan) "Invalid plan"
  match nodes with
  | [github, analyst, reviewer, reconcile] =>
      let evidence ← orThrow (records.mapM Evidence.parse) "Invalid evidence"
      let e1 ← one evidence github.id .toolReceipt Sources.github "kerneljson:github-read/v1"
      let e2 ← one evidence analyst.id .artifact (Sources.runtime .analyst) "kerneljson:runtime/analyst"
      let e3 ← one evidence reviewer.id .artifact (Sources.runtime .reviewer) "kerneljson:runtime/reviewer"
      let e4 ← one evidence reconcile.id .deterministicResult Sources.reconcile "kerneljson:mission-reconcile/v1"
      let facts ← readFactsEvidence platform task e1
      let factsDigest := capabilityDigest platform (GithubFacts.codec.write facts)
      let analysisText ← readText platform e2
      let reviewText ← readText platform e3
      require (textField e2 "role" = some (js "analyst") ∧ textField e2 "subject_digest" = some factsDigest)
        "analyst evidence is not bound to the github evidence"
      require (textField e3 "role" = some (js "reviewer") ∧ textField e3 "subject_digest" = e2.digest)
        "reviewer evidence is not bound to the analysis"
      let recomputed ← readJudgement platform task facts analysisText reviewText e2 e3 e4
      checkStep platform steps github (StepOutputs.github facts factsDigest)
      checkStep platform steps analyst (StepOutputs.runtime (e2.digest.getD []))
      checkStep platform steps reviewer (StepOutputs.runtime (e3.digest.getD []))
      checkStep platform steps reconcile (StepOutputs.reconcile recomputed)
      checkOutcome platform task outcome analysisText [e1, e2, e3, e4]
  | _ => fail "unexpected plan shape"

end Verification

end KernelJson.Mission.Verify
