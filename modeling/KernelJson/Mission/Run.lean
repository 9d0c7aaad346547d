import KernelJson.Executor.Operations
import KernelJson.Mission.Reconcile

/-!
# The repository-analysis mission

The sequence that the kernel drives: capture the facts, let one runtime analyse
and another review, and judge both texts.  Each stage records evidence and
hands on to the next, or ends the mission as failed.
-/

namespace KernelJson.Mission.Run

open Contracts.Common
open Contracts.Github
open Contracts.Objective
open Contracts.Outcome
open Contracts.Platform
open Contracts.Task
open Executor.Operations
open Foundation
open Foundation.DurablePrograms
open Foundation.JsText
open Mission.Evidence
open Mission.Reconcile
open Planner.Plan

structure MissionDeps where
  task : Task
  plan : ExecutionPlan
  memory : Bool
  faculties : Bool
  identity : Bool

/-- The four steps of a mission, in their order. -/
structure MissionNodes where
  github : PlanStep
  analyst : PlanStep
  reviewer : PlanStep
  reconcile : PlanStep

def MissionNodes.of : List PlanStep → Option MissionNodes
  | [github, analyst, reviewer, reconcile] => some ⟨github, analyst, reviewer, reconcile⟩
  | _ => none

def MissionNodes.runtime (nodes : MissionNodes) : RuntimeRole → PlanStep
  | .analyst => nodes.analyst
  | .reviewer => nodes.reviewer

/-! ## Steps -/

def startEmission (node : PlanStep) (step : TaskStep) : Emission :=
  { key := stepKey node "start", type := .stepStarted, status := .running, step := some step }

def completeEmission (node : PlanStep) (step : TaskStep) (evidence : Evidence) : Emission :=
  { key := stepKey node "complete", type := .stepCompleted, status := .running, step := some step,
    evidence := some evidence }

def verifyEmission : Emission :=
  { key := js "verify", type := .taskVerifying, status := .verifying }

def completionEmission (candidate : Outcome) : Emission :=
  { key := js "complete", type := .taskCompleted, status := .completed, outcome := some candidate }

def begin_ (node : PlanStep) (next : KernelProg Ended) : KernelProg Ended :=
  orRetry (patchedStep node .running node.input.toJson none) fun step =>
    .call (.emit (startEmission node step)) fun _ => next

def complete (node : PlanStep) (output : Json) (evidence : Evidence) (next : KernelProg Ended) :
    KernelProg Ended :=
  orRetry (patchedStep node .completed node.input.toJson (some output)) fun step =>
    .call (.emit (completeEmission node step evidence)) fun _ => next

/-- An outcome that accepts nothing. -/
def failedOutcome (task : Task) (evidenceIds : List Id) (summary : JsString) (at_ : Timestamp) : Outcome where
  taskId := task.id
  status := .failed
  acceptanceResults := task.acceptanceCriteria.map fun criterion => ⟨criterion, false, []⟩
  evidenceRefs := evidenceIds
  summary := summary
  completedAt := at_

/-- An outcome that accepts every criterion from the given evidence. -/
def completedOutcome (task : Task) (evidenceIds : List Id) (summary : JsString) (at_ : Timestamp) : Outcome where
  taskId := task.id
  status := .completed
  acceptanceResults := task.acceptanceCriteria.map fun criterion => ⟨criterion, true, evidenceIds⟩
  evidenceRefs := evidenceIds
  summary := summary
  completedAt := at_

/-- Record the failed outcome and tell the operator. -/
def finishFailed (task : Task) (evidenceIds : List Id) (summary : JsString) : KernelProg Ended :=
  .call .now fun at_ =>
    orRetry (failedOutcome task evidenceIds summary at_).parse fun outcome =>
      .call (.emit { key := js "fail", type := .taskFailed, status := .failed, outcome := some outcome }) fun _ =>
        .call (.notify .failed at_) fun _ => .ret (.ok outcome)

section Mission

variable (platform : Platform)

/-- End the mission as failed, with evidence of the failed step. -/
def abort (task : Task) (label : String) (node : PlanStep) (evidenceIds : List Id) (source : JsString)
    (metadata : Json) (reason : JsString) : KernelProg Ended :=
  .call .uuid fun id =>
    .call .now fun capturedAt =>
      orRetry (failureEvidence platform ⟨id, task.id, node.id, capturedAt⟩ source metadata) fun evidence =>
        orRetry (patchedStep node .failed node.input.toJson (some (.obj [(js "failure", .str reason)]))) fun step =>
          .call (.emit
            { key := stepKey node "failed", type := .stepCompleted, status := .running, step := some step,
              evidence := some evidence }) fun _ =>
            finishFailed task (evidenceIds ++ [id]) (js label ++ js " FAILED: " ++ reason)

/-! ## The judgement -/

/-- A runtime's text with its receipt. -/
structure RuntimeReport where
  text : JsString
  receipt : SuccessReceipt

def reconcileInput (facts : GithubFacts) (contract : MissionContract) (analysis review : RuntimeReport) :
    ReconcileInput where
  facts := facts
  contract := contract
  analysisText := analysis.text
  analystModel := analysis.receipt.responseModel
  analystProvider := analysis.receipt.provider
  reviewText := review.text
  reviewerModel := review.receipt.responseModel
  reviewerProvider := review.receipt.provider

/-- Request completion; the ledger verifies it again and may fail the task instead. -/
def requestCompletion (task : Task) (evidenceIds : List Id) (summary : JsString) : KernelProg Ended :=
  .call (.emit verifyEmission) fun _ =>
    .call .now fun at_ =>
      orRetry (completedOutcome task evidenceIds summary at_).parse fun candidate =>
        .call (.emit (completionEmission candidate)) fun answer =>
          let finished := answer.getD candidate
          .call (.notify (if finished.status = .completed then .completed else .failed) finished.completedAt) fun _ =>
            .ret (.ok finished)

def joinComma : List JsString → JsString := Json.joinComma

/-- The last step: judge both texts from the evidence alone. -/
def judge (deps : MissionDeps) (nodes : MissionNodes) (facts : GithubFacts) (contract : MissionContract)
    (analysis review : RuntimeReport) (evidenceIds : List Id) : KernelProg Ended :=
  begin_ nodes.reconcile <|
    orRetry (reconcileMission platform (reconcileInput facts contract analysis review)) fun record =>
      .call .uuid fun id =>
        .call .now fun capturedAt =>
          orRetry (reconcileEvidence platform ⟨id, deps.task.id, nodes.reconcile.id, capturedAt⟩ record) fun evidence =>
            complete nodes.reconcile (StepOutputs.reconcile record) evidence <|
              if record.decision = .accepted then
                orRetry (parseAnalysis platform analysis.text) fun parsed =>
                  requestCompletion deps.task (evidenceIds ++ [id]) (missionSummary parsed)
              else
                finishFailed deps.task (evidenceIds ++ [id])
                  (js "mission REJECTED: " ++ joinComma (failedCheckNames record))

/-! ## The runtimes -/

def facultyField (pin : Option Json) : List (JsString × Json) :=
  (pin.map fun evidence => [(js "faculty", evidence)]).getD []

/-- The evidence of a failed model call. -/
def failureMetadata (role : RuntimeRole) (receipt : FailedReceipt) (pin : Option Json) : Json :=
  .obj
    ([(js "role", .str role.text), (js "provider", .str receipt.provider), (js "model", .str receipt.model),
      (js "call_id", .str receipt.callId.text), (js "request_digest", .str receipt.requestDigest),
      (js "error", .str receipt.error.code), (js "retryable", .bool receipt.error.retryable),
      (js "may_have_run", .bool receipt.error.mayHaveRun),
      (js "http_status", (receipt.error.httpStatus.map fun status => Json.num status).getD .null)] ++
      facultyField pin)

/-- Run one runtime on its step; a refusal or a failed call ends the mission. -/
def runRuntime (task : Task) (label : String) (node : PlanStep) (role : RuntimeRole) (evidenceIds : List Id)
    (pin : Option Json) (next : Assembly → RuntimeReport → KernelProg Ended) : KernelProg Ended :=
  begin_ node <|
    .call (.buildRequest role) fun built =>
      match built with
      | .error code =>
          abort platform task label node evidenceIds (Sources.runtime role)
            (.obj ([(js "role", .str role.text), (js "error", .str code)] ++ facultyField pin))
            (role.upper ++ js "_" ++ code)
      | .ok assembly =>
          .call (.callModel role) fun answer =>
            match answer with
            | .contractBroken => .ret (.error ⟨"ModelPort failed its result contract", 500⟩)
            | .failed receipt =>
                abort platform task label node evidenceIds (Sources.runtime role)
                  (failureMetadata role receipt pin) (role.upper ++ js "_" ++ receipt.error.code)
            | .succeeded text receipt => next assembly ⟨text, receipt⟩

/-- Record a runtime's report as evidence. -/
def recordReport (task : Task) (node : PlanStep) (role : RuntimeRole) (report : RuntimeReport)
    (subjectDigest : JsString) (extras : RuntimeExtras) (next : Id → KernelProg Ended) : KernelProg Ended :=
  .call .uuid fun id =>
    .call .now fun capturedAt =>
      orRetry (runtimeEvidence platform ⟨id, task.id, node.id, capturedAt⟩ role report.text report.receipt
        subjectDigest extras) fun evidence =>
        complete node (StepOutputs.runtime (sha256Text platform report.text)) evidence (next id)

/-! ## Pins, latch and memory -/

/-- The pinned faculty of a step, as its evidence. -/
def pinFaculty (deps : MissionDeps) (node : PlanStep) (role : RuntimeRole) (evidenceIds : List Id)
    (next : Option Json → KernelProg Ended) : KernelProg Ended :=
  if deps.faculties then
    .call (.pinFaculty node.id) fun pinned =>
      match pinned with
      | .ok pin => next (some pin)
      | .error code =>
          begin_ node <|
            abort platform deps.task "mission" node evidenceIds (Sources.runtime role)
              (.obj [(js "role", .str role.text), (js "error", .str code)]) code
  else next none

def latchIdentity (deps : MissionDeps) (node : PlanStep) (evidenceIds : List Id)
    (next : CognitionState → KernelProg Ended) : KernelProg Ended :=
  if deps.identity then
    .call (.latchIdentity node.id) fun latched =>
      match latched with
      | .ok state => next state
      | .error code =>
          begin_ node <|
            abort platform deps.task "mission" node evidenceIds (Sources.runtime .analyst)
              (.obj [(js "role", .str (js "analyst")), (js "error", .str code)]) code
  else next .legacy

/-- The memory context; a pinned faculty may forbid memory, which the answer then says. -/
def assembleMemory (deps : MissionDeps) (node : PlanStep) (next : Option Json → KernelProg Ended) :
    KernelProg Ended :=
  if deps.memory then
    .call (.assembleMemory node.id) fun context => next (if context matches .null then none else some context)
  else next none

def analystCognition (state : CognitionState) (assembly : Assembly) : Option CognitionFields :=
  match state with
  | .legacy => none
  | .contract identity required =>
      some (.analyst (if required then identity else .null) required assembly.assemblyDigest
        assembly.continuityDigest)

def reviewerCognition : CognitionState → Option CognitionFields
  | .legacy => none
  | .contract _ _ => some .reviewer

/-! ## The sequence -/

/-- The review, and then the judgement. -/
def reviewStage (deps : MissionDeps) (nodes : MissionNodes) (facts : GithubFacts) (contract : MissionContract)
    (pin : Option Json) (state : CognitionState) (analysis : RuntimeReport) (evidenceIds : List Id) :
    KernelProg Ended :=
  runRuntime platform deps.task "mission" nodes.reviewer .reviewer evidenceIds pin fun _ review =>
    recordReport platform deps.task nodes.reviewer .reviewer review (sha256Text platform analysis.text)
      ⟨none, pin, reviewerCognition state⟩ fun id =>
        judge platform deps nodes facts contract analysis review (evidenceIds ++ [id])

/-- The analysis, and then the review. -/
def analysisStage (deps : MissionDeps) (nodes : MissionNodes) (facts : GithubFacts) (factsDigest : JsString)
    (contract : MissionContract) (evidenceIds : List Id) : KernelProg Ended :=
  pinFaculty platform deps nodes.analyst .analyst evidenceIds fun analystPin =>
    pinFaculty platform deps nodes.reviewer .reviewer evidenceIds fun reviewerPin =>
      latchIdentity platform deps nodes.analyst evidenceIds fun state =>
        assembleMemory deps nodes.analyst fun memory =>
          runRuntime platform deps.task "mission" nodes.analyst .analyst evidenceIds analystPin
            fun assembly analysis =>
              recordReport platform deps.task nodes.analyst .analyst analysis factsDigest
                ⟨memory, analystPin, analystCognition state assembly⟩ fun id =>
                  reviewStage platform deps nodes facts contract reviewerPin state analysis (evidenceIds ++ [id])

/-- `/^[A-Z_]{3,40}$/`. -/
def isErrorCode (text : JsString) : Bool :=
  lengthWithin 3 40 text && text.all fun unit => isUpperUnit unit || unit == 95

/-- The facts in an answer of the capability service, or the code of the failed read. -/
def readFacts (answer : Except (Option JsString) (Json × JsString)) : Except JsString GithubFacts :=
  match answer with
  | .error message => .error ((message.filter isErrorCode).getD (js "READ_FAILED"))
  | .ok (raw, digest) =>
      match GithubFacts.codec.read raw with
      | none => .error (js "READ_FAILED")
      | some facts =>
          if capabilityDigest platform (GithubFacts.codec.write facts) = digest then .ok facts
          else .error (js "READ_FAILED")

/-- The facts, and then the analysis. -/
def captureStage (deps : MissionDeps) (nodes : MissionNodes) (objective : MissionObjective) : KernelProg Ended :=
  begin_ nodes.github <|
    .call (.githubRead objective.repo.val) fun answer =>
      match readFacts platform answer with
      | .error code =>
          abort platform deps.task "mission" nodes.github [] Sources.github
            (.obj [(js "repo", .str objective.repo.val), (js "error", .str code)]) (js "GITHUB_" ++ code)
      | .ok facts =>
          let factsDigest := capabilityDigest platform (GithubFacts.codec.write facts)
          .call .uuid fun id =>
            .call .now fun capturedAt =>
              orRetry (githubEvidence ⟨id, deps.task.id, nodes.github.id, capturedAt⟩ facts factsDigest) fun evidence =>
                complete nodes.github (StepOutputs.github facts factsDigest) evidence <|
                  analysisStage platform deps nodes facts factsDigest objective.contract [id]

/-- `runRepoAnalysisMission(deps)`. -/
def runRepoAnalysisMission (deps : MissionDeps) : KernelProg Ended :=
  match parseMissionObjective deps.task.objective with
  | .error _ => .call .retryForever Empty.elim
  | .ok objective =>
      orRetry ((orderedSteps deps.plan).bind MissionNodes.of) fun nodes =>
        captureStage platform deps nodes objective

end Mission

end KernelJson.Mission.Run
