import KernelJson.Mission.Brief
import KernelJson.Mission.Run

/-!
# The morning brief

The sequence that the kernel drives: gather the activity and the kernel's own
state, let one runtime write the brief and another review it, and judge both
texts.  Memory never blocks a brief; what the analyst was given of it is kept
with the analyst's evidence.
-/

namespace KernelJson.Mission.BriefRun

open Contracts.Brief
open Contracts.Common
open Contracts.Outcome
open Contracts.Platform
open Contracts.Task
open Executor.Operations
open Foundation
open Foundation.DurablePrograms
open Foundation.JsText
open Mission.Brief
open Mission.Evidence
open Mission.Run
open Planner.Plan

/-! ## Steps, sources and outputs -/

inductive Stage where
  | gather
  | analyst
  | reviewer
  | reconcile
deriving DecidableEq

def Stage.all : List Stage := [.gather, .analyst, .reviewer, .reconcile]

/-- One value for each stage. -/
def Stage.pick {α : Type} (gather analyst reviewer reconcile : α) : Stage → α
  | .gather => gather
  | .analyst => analyst
  | .reviewer => reviewer
  | .reconcile => reconcile

/-- The four steps of a brief. -/
abbrev BriefNodes : Type := Stage → PlanStep

def BriefNodes.of : List PlanStep → Option BriefNodes
  | [gather, analyst, reviewer, reconcile] => some (Stage.pick gather analyst reviewer reconcile)
  | _ => none

/-- `BRIEF_SOURCES`. -/
def Stage.source : Stage → JsString
  | .gather => js "kerneljson:github-activity/v1"
  | .analyst => js "kerneljson:runtime/analyst"
  | .reviewer => js "kerneljson:runtime/reviewer"
  | .reconcile => js "kerneljson:brief-reconcile/v1"

def Stage.ofRole : RuntimeRole → Stage
  | .analyst => .analyst
  | .reviewer => .reviewer

/-- The type under which a step's evidence is recorded. -/
def Stage.evidenceType : Stage → EvidenceType
  | .gather => .toolReceipt
  | .analyst => .artifact
  | .reviewer => .artifact
  | .reconcile => .deterministicResult

namespace BriefStepOutputs

def facts (factsDigest : JsString) : Json :=
  .obj [(js "facts_digest", .str factsDigest)]

def reconcile (record : BriefReconciliation) : Json :=
  .obj [(js "decision", .str record.decision.text)]

end BriefStepOutputs

/-! ## Evidence -/

def briefFactsMetadata (facts : BriefFacts) (factsDigest : JsString) : Json :=
  .obj
    [(js "capability", .str (js "github.activity")), (js "content_sha256", .str factsDigest),
      (js "github_digest", .str facts.githubDigest.val), (js "active_repos",
        .num facts.github.active.val.length),
      (js "facts", BriefFacts.codec.write facts)]

def briefFactsEvidence (base : Base) (facts : BriefFacts) (factsDigest : JsString) : Option Evidence :=
  base.evidence .toolReceipt (Stage.source .gather) factsDigest (briefFactsMetadata facts factsDigest)

structure BriefDeps where
  task : Task
  plan : ExecutionPlan
  memory : Bool

section Brief

variable (platform : Platform)

def briefReconcileEvidence (base : Base) (record : BriefReconciliation) : Option Evidence :=
  base.evidence .deterministicResult (Stage.source .reconcile)
    (capabilityDigest platform (BriefReconciliation.codec.write record)) (BriefReconciliation.codec.write record)

/-! ## Facts -/

/-- The code under which a failed read is reported. -/
def readError (message : Option JsString) : JsString :=
  (message.filter isErrorCode).getD (js "READ_FAILED")

/-- The activity in an answer of the capability service, with its digest. -/
def readActivity (answer : Except (Option JsString) (Json × JsString)) :
    Except JsString (GithubActivity × JsString) :=
  match answer with
  | .error message => .error (readError message)
  | .ok (raw, digest) =>
      match GithubActivity.codec.read raw with
      | none => .error (js "READ_FAILED")
      | some github =>
          if capabilityDigest platform (GithubActivity.codec.write github) = digest then .ok (github, digest)
          else .error (readError (some (js "DIGEST_MISMATCH")))

/-- The facts of a brief, once the kernel's own state is read. -/
def readFacts (github : GithubActivity) (digest : JsString) (answer : Except (Option JsString) Json) :
    Except JsString BriefFacts :=
  match answer with
  | .error message => .error (readError message)
  | .ok raw =>
      match KernelState.codec.read raw, Matching.parse isSha256Text digest with
      | some kernel, some githubDigest => .ok { github, githubDigest, kernel }
      | _, _ => .error (js "READ_FAILED")

def abortGather (deps : BriefDeps) (node : PlanStep) (code : JsString) : KernelProg Ended :=
  abort platform deps.task "brief" node [] (Stage.source .gather) (.obj [(js "error", .str code)])
    (js "GITHUB_" ++ code)

/-- Read the activity of the window that ends now, and the kernel's own state in that window. -/
def gatherFacts (deps : BriefDeps) (node : PlanStep) (next : BriefFacts → KernelProg Ended) : KernelProg Ended :=
  begin_ node <|
    .call .now fun windowEnd =>
      .call (.githubActivity windowEnd) fun answer =>
        match readActivity platform answer with
        | .error code => abortGather platform deps node code
        | .ok (github, digest) =>
            .call (.kernelState deps.task.tenant.id github.windowStart.val deps.task.id) fun answer =>
              match readFacts github digest answer with
              | .error code => abortGather platform deps node code
              | .ok facts => next facts

/-! ## The runtimes -/

/-- The memory for the analyst; where the port fails there is none. -/
def assembleBriefMemory (deps : BriefDeps) (node : PlanStep) (callId : Id)
    (next : Option MissionMemoryContext → KernelProg Ended) : KernelProg Ended :=
  if deps.memory then
    .call (.briefMemory node.id callId) fun answer => next (some (answer.getD unavailableMemory))
  else next none

/-- The reviewer's call is named when its request is built; the analyst's was named before. -/
def nameCall (role : RuntimeRole) (next : KernelProg Ended) : KernelProg Ended :=
  match role with
  | .analyst => next
  | .reviewer => .call .uuid fun _ => next

/-- Run one runtime on its step; a request that cannot be built or a failed call ends the brief. -/
def runBriefRuntime (task : Task) (node : PlanStep) (role : RuntimeRole) (evidenceIds : List Id)
    (next : RuntimeReport → KernelProg Ended) : KernelProg Ended :=
  begin_ node <| nameCall role <|
    .call (.buildRequest role) fun built =>
      match built with
      | .error _ =>
          abort platform task "brief" node evidenceIds (Stage.ofRole role).source
            (.obj [(js "role", .str role.text), (js "error", .str (js "PROMPT_TOO_LARGE"))])
            (role.upper ++ js "_PROMPT_TOO_LARGE")
      | .ok _ =>
          .call (.callModel role) fun answer =>
            match answer with
            | .contractBroken => .ret (.error ⟨"ModelPort failed its result contract", 500⟩)
            | .failed receipt =>
                abort platform task "brief" node evidenceIds (Stage.ofRole role).source
                  (failureMetadata role receipt none) (role.upper ++ js "_" ++ receipt.error.code)
            | .succeeded text receipt => next ⟨text, receipt⟩

/-! ## The sequence -/

def memoryIds (memory : Option MissionMemoryContext) : List JsString :=
  (memory.map fun context => context.memories.map MissionMemory.memoryId).getD []

def briefInput (facts : BriefFacts) (memory : Option MissionMemoryContext) (analysis review : RuntimeReport) :
    BriefReconcileInput where
  facts := facts
  memoryIds := memoryIds memory
  analysisText := analysis.text
  analystModel := analysis.receipt.responseModel
  analystProvider := analysis.receipt.provider
  reviewText := review.text
  reviewerModel := review.receipt.responseModel
  reviewerProvider := review.receipt.provider

/-- The last step: judge both texts from the evidence alone. -/
def judgeBrief (deps : BriefDeps) (nodes : BriefNodes) (facts : BriefFacts)
    (memory : Option MissionMemoryContext)
    (analysis review : RuntimeReport) (evidenceIds : List Id) : KernelProg Ended :=
  begin_ (nodes .reconcile) <|
    orRetry (reconcileBrief platform (briefInput facts memory analysis review)) fun record =>
      .call .uuid fun id =>
        .call .now fun capturedAt =>
          orRetry (briefReconcileEvidence platform ⟨id, deps.task.id, (nodes .reconcile).id, capturedAt⟩ record)
            fun evidence =>
              complete (nodes .reconcile) (BriefStepOutputs.reconcile record) evidence <|
                if record.decision = .accepted then
                  orRetry (parseBrief platform analysis.text) fun brief =>
                    requestCompletion deps.task (evidenceIds ++ [id]) (briefSummary brief record.withheldItems)
                else
                  finishFailed deps.task (evidenceIds ++ [id])
                    (js "brief REJECTED: " ++ joinComma (briefFailedChecks record))

/-- The review, and then the judgement. -/
def reviewBrief (deps : BriefDeps) (nodes : BriefNodes) (facts : BriefFacts)
    (memory : Option MissionMemoryContext)
    (analysis : RuntimeReport) (evidenceIds : List Id) : KernelProg Ended :=
  runBriefRuntime platform deps.task (nodes .reviewer) .reviewer evidenceIds fun review =>
    recordReport platform deps.task (nodes .reviewer) .reviewer review (sha256Text platform analysis.text)
      ⟨none, none, none⟩ fun id =>
        judgeBrief platform deps nodes facts memory analysis review (evidenceIds ++ [id])

/-- The brief as the analyst writes it, and then the review. -/
def writeBrief (deps : BriefDeps) (nodes : BriefNodes) (facts : BriefFacts) (factsDigest : JsString)
    (evidenceIds : List Id) : KernelProg Ended :=
  .call .uuid fun callId =>
    assembleBriefMemory deps (nodes .analyst) callId fun memory =>
      runBriefRuntime platform deps.task (nodes .analyst) .analyst evidenceIds fun analysis =>
        recordReport platform deps.task (nodes .analyst) .analyst analysis factsDigest
          ⟨memory.map memoryEvidence, none, none⟩ fun id =>
            reviewBrief platform deps nodes facts memory analysis (evidenceIds ++ [id])

/-- The facts as evidence, and then the brief. -/
def recordFacts (deps : BriefDeps) (nodes : BriefNodes) (facts : BriefFacts) : KernelProg Ended :=
  let factsDigest := capabilityDigest platform (BriefFacts.codec.write facts)
  .call .uuid fun id =>
    .call .now fun capturedAt =>
      orRetry (briefFactsEvidence ⟨id, deps.task.id, (nodes .gather).id,
        capturedAt⟩ facts factsDigest) fun evidence =>
        complete (nodes .gather) (BriefStepOutputs.facts factsDigest) evidence <|
          writeBrief platform deps nodes facts factsDigest [id]

/-- `runMorningBriefMission(deps)`. -/
def runMorningBriefMission (deps : BriefDeps) : KernelProg Ended :=
  orRetry ((orderedSteps deps.plan).bind BriefNodes.of) fun nodes =>
    gatherFacts platform deps (nodes .gather) (recordFacts platform deps nodes)

end Brief

end KernelJson.Mission.BriefRun
