import KernelJson.Mission.BriefRun
import KernelJson.Mission.Verify

/-!
# Verifying a completed brief

The check that the ledger makes inside the transaction that commits the
completion of a brief.  The memory that a brief may cite is read back from the
analyst's own evidence.
-/

namespace KernelJson.Mission.BriefVerify

open Contracts.Brief
open Contracts.Common
open Contracts.Outcome
open Contracts.Platform
open Contracts.Task
open Foundation
open Foundation.JsText
open Mission.Brief
open Mission.BriefRun
open Mission.Evidence
open Mission.Reconcile
open Mission.Verify (Checked orThrow sortedTexts textField)
open Planner.Plan

def fail {α : Type} (why : String) : Checked α :=
  .error ("Brief completion rejected: " ++ why)

def require (holds : Prop) [Decidable holds] (why : String) : Checked Unit :=
  if holds then .ok () else fail why

@[simp]
theorem require_true {holds : Prop} [Decidable holds] {why : String} (given : holds) :
    require holds why = .ok () :=
  if_pos given

/-! ## Reading the evidence -/

/-- The only evidence of a step, a type and a source. -/
def one (evidence : List Evidence) (stepId : Id) (type : EvidenceType) (source : JsString) (label : String) :
    Checked Evidence :=
  match evidence.filter fun found => found.stepId = some stepId ∧ found.type = type ∧ found.source = source with
  | [found] => .ok found
  | _ => fail ("expected exactly one " ++ label ++ " evidence")

/-- The memory identifiers among the entries of a context; reading a field of null throws. -/
def entryIds : List Json → Checked (List JsString)
  | [] => .ok []
  | entry :: rest =>
      if entry matches .null then .error "Cannot read properties of null"
      else do
        let ids ← entryIds rest
        .ok (((entry.field? (js "memory_id")).bind Json.asString?).toList ++ ids)

/-- `briefMemoryIds(analystEvidence)`: the only memory that a brief may cite. -/
def briefMemoryIds (analyst : Evidence) : Checked (List JsString) :=
  match (analyst.metadata.field? (js "memory_context")).bind fun context => context.field? (js "memories") with
  | none => .ok []
  | some .null => .ok []
  | some (.arr entries) => entryIds entries
  | some _ => .error "map is not a function"

section Verification

variable (platform : Platform)

/-- The persisted facts, which must hash to the recorded digest and carry the digest of their activity. -/
def readFactsEvidence (evidence : Evidence) : Checked BriefFacts := do
  let facts ← orThrow ((evidence.metadata.field? (js "facts")).bind BriefFacts.codec.read) "Invalid facts"
  let factsDigest := capabilityDigest platform (BriefFacts.codec.write facts)
  require (evidence.digest = some factsDigest ∧ textField evidence "content_sha256" = some factsDigest)
    "facts digest mismatch"
  require (capabilityDigest platform (GithubActivity.codec.write facts.github) = facts.githubDigest.val)
    "github activity digest mismatch"
  .ok facts

/-- The persisted text of a runtime, which must hash to the recorded digest. -/
def readText (evidence : Evidence) : Checked JsString :=
  match textField evidence "text" with
  | none => fail "runtime text does not match its digest"
  | some text =>
      if evidence.digest = some (sha256Text platform text) then .ok text
      else fail "runtime text does not match its digest"

/-- A text of the metadata that must not be empty. -/
def str (evidence : Evidence) (key : String) : Checked JsString :=
  match textField evidence key with
  | some text => if text ≠ [] then .ok text else fail ("missing " ++ key)
  | none => fail ("missing " ++ key)

/-- The judgement computed again, which the persisted one must match. -/
def readJudgement (facts : BriefFacts) (analysisText reviewText : JsString)
    (analyst reviewer reconcile : Evidence) :
    Checked BriefReconciliation := do
  let memoryIds ← briefMemoryIds analyst
  let analystModel ← str analyst "response_model"
  let analystProvider ← str analyst "provider"
  let reviewerModel ← str reviewer "response_model"
  let reviewerProvider ← str reviewer "provider"
  let recomputed ← orThrow
    (reconcileBrief platform
      { facts, memoryIds, analysisText, analystModel, analystProvider, reviewText, reviewerModel,
        reviewerProvider })
    "Invalid reconciliation"
  let persisted ← orThrow (BriefReconciliation.codec.read reconcile.metadata) "Invalid reconciliation"
  let digest := capabilityDigest platform (BriefReconciliation.codec.write recomputed)
  require (capabilityDigest platform (BriefReconciliation.codec.write persisted) = digest ∧
      reconcile.digest = some digest)
    "persisted reconciliation does not match the recomputed one"
  require (recomputed.decision = .accepted) "reconciliation did not accept the brief"
  .ok recomputed

/-- A persisted step, completed with the output that the evidence implies. -/
def checkStep (steps : List TaskStep) (node : PlanStep) (output : Json) : Checked Unit := do
  let planned ← orThrow (projectStep node) "Invalid step"
  match steps.find? fun step => step.id = node.id with
  | none => fail "a planned step is missing or not completed"
  | some stored =>
      require (stored.status = .completed ∧ stored.kind = planned.kind)
        "a planned step is missing or not completed"
      require (capabilityDigest platform (stored.output.getD .null) = capabilityDigest platform output)
        "step output does not match evidence"

/-- The outcome says what the brief says, and cites the four pieces of evidence. -/
def checkOutcome (task : Task) (outcome : Outcome) (analysisText : JsString) (withheldItems : WithheldItems)
    (verified : List Evidence) : Checked Unit := do
  require ((parseBrief platform analysisText).any (fun brief => outcome.summary == briefSummary brief withheldItems) =
    true) "outcome summary is not the verified one"
  require (sortedTexts outcome.evidenceRefs = sortedTexts (verified.map Evidence.id)) "outcome evidence set mismatch"
  if CompletesFrom task outcome verified then .ok () else .error "completion"

/-- `verifyBriefCompletion(task, outcome, plan, steps, records)`. -/
def verifyBriefCompletion (task : Task) (outcome : Outcome) (plan : ExecutionPlan) (steps : List TaskStep)
    (records : List Evidence) : Checked Unit := do
  require (plan.recipe = .brief) "wrong recipe"
  let ordered ← orThrow (orderedSteps plan) "Invalid plan"
  match BriefNodes.of ordered with
  | some nodes =>
      let evidence ← orThrow (records.mapM Evidence.parse) "Invalid evidence"
      let found := fun stage label =>
        one evidence (nodes stage).id stage.evidenceType stage.source label
      let e1 ← found .gather "kerneljson:github-activity/v1"
      let e2 ← found .analyst "kerneljson:runtime/analyst"
      let e3 ← found .reviewer "kerneljson:runtime/reviewer"
      let e4 ← found .reconcile "kerneljson:brief-reconcile/v1"
      let facts ← readFactsEvidence platform e1
      let factsDigest := capabilityDigest platform (BriefFacts.codec.write facts)
      let analysisText ← readText platform e2
      let reviewText ← readText platform e3
      require (textField e2 "role" = some (js "analyst") ∧ textField e2 "subject_digest" = some factsDigest)
        "analyst evidence is not bound to the facts"
      require (textField e3 "role" = some (js "reviewer") ∧ textField e3 "subject_digest" = e2.digest)
        "reviewer evidence is not bound to the brief"
      let recomputed ← readJudgement platform facts analysisText reviewText e2 e3 e4
      checkStep platform steps (nodes .gather) (BriefStepOutputs.facts factsDigest)
      checkStep platform steps (nodes .analyst) (StepOutputs.runtime (e2.digest.getD []))
      checkStep platform steps (nodes .reviewer) (StepOutputs.runtime (e3.digest.getD []))
      checkStep platform steps (nodes .reconcile) (BriefStepOutputs.reconcile recomputed)
      checkOutcome platform task outcome analysisText recomputed.withheldItems [e1, e2, e3, e4]
  | none => fail "unexpected plan shape"

end Verification

end KernelJson.Mission.BriefVerify
