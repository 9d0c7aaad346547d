import KernelJson.Mission.BriefRun
import KernelJson.Mission.RunRecords

/-!
# What a brief has written

The journal of a brief's run determines what the run has written.  A run that
requests completion has gathered facts, run both runtimes and accepted their
texts; of each stage it has recorded the evidence and completed the step.
-/

namespace KernelJson.Mission.BriefRecords

open Contracts.Brief
open Contracts.Common
open Contracts.Outcome
open Contracts.Platform
open Contracts.Task
open Executor.Operations
open Foundation
open Foundation.JsText
open Mission.Brief
open Mission.BriefRun
open Mission.Evidence
open Mission.Run
open Mission.RunRecords
open Planner.Plan

/-! ## What a run has recorded -/

/-- What a run that requests completion has recorded on the way. -/
structure CompletedBrief where
  facts : BriefFacts
  memory : Option MissionMemoryContext
  analysis : RuntimeReport
  review : RuntimeReport
  record : BriefReconciliation
  brief : BriefAnalysis
  base : Stage → Base
  evidence : Stage → Evidence
  started : Stage → TaskStep
  finished : Stage → TaskStep
  requestedAt : Timestamp
  candidate : Outcome

namespace CompletedBrief

variable (platform : Platform) (run : CompletedBrief)

def factsDigest : JsString :=
  capabilityDigest platform (BriefFacts.codec.write run.facts)

def evidenceIds : List Id :=
  Stage.all.map fun stage => (run.base stage).id

/-- The digest under which the evidence of a stage is recorded. -/
def digest : Stage → JsString
  | .gather => run.factsDigest platform
  | .analyst => sha256Text platform run.analysis.text
  | .reviewer => sha256Text platform run.review.text
  | .reconcile => capabilityDigest platform (BriefReconciliation.codec.write run.record)

/-- What the evidence of a stage says. -/
def metadata : Stage → Json
  | .gather => briefFactsMetadata run.facts (run.factsDigest platform)
  | .analyst =>
      runtimeMetadata .analyst run.analysis.text run.analysis.receipt (run.factsDigest platform)
        ⟨run.memory.map memoryEvidence, none, none⟩
  | .reviewer =>
      runtimeMetadata .reviewer run.review.text run.review.receipt (sha256Text platform run.analysis.text)
        ⟨none, none, none⟩
  | .reconcile => BriefReconciliation.codec.write run.record

/-- The output with which the step of a stage is completed. -/
def output : Stage → Json
  | .gather => BriefStepOutputs.facts (run.factsDigest platform)
  | .analyst => StepOutputs.runtime (sha256Text platform run.analysis.text)
  | .reviewer => StepOutputs.runtime (sha256Text platform run.review.text)
  | .reconcile => BriefStepOutputs.reconcile run.record

/-- One stage was recorded: its step was started and completed, and its evidence names both. -/
structure StageRecorded (task : Task) (node : PlanStep) (stage : Stage) : Prop where
  taskId : (run.base stage).taskId = task.id
  stepId : (run.base stage).stepId = node.id
  evidence : (run.base stage).evidence stage.evidenceType stage.source (run.digest platform stage)
    (run.metadata platform stage) = some (run.evidence stage)
  started : patchedStep node .running node.input.toJson none = some (run.started stage)
  finished : patchedStep node .completed node.input.toJson (some (run.output platform stage)) =
    some (run.finished stage)

/-- The records are what the workflow computes. -/
structure Recorded (task : Task) (nodes : BriefNodes) : Prop where
  stage : ∀ stage, run.StageRecorded platform task (nodes stage) stage
  activity : capabilityDigest platform (GithubActivity.codec.write run.facts.github) = run.facts.githubDigest.val
  judged : reconcileBrief platform (briefInput run.facts run.memory run.analysis run.review) = some run.record
  accepted : run.record.decision = .accepted
  brief : parseBrief platform run.analysis.text = some run.brief
  candidate : (completedOutcome task run.evidenceIds (briefSummary run.brief run.record.withheldItems)
    run.requestedAt).parse = some run.candidate

/-- The two writes of a stage. -/
def stageWrites (nodes : BriefNodes) (stage : Stage) : List Emission :=
  [startEmission (nodes stage) (run.started stage),
    completeEmission (nodes stage) (run.finished stage) (run.evidence stage)]

/-- Everything that is written before the completion. -/
def writes (nodes : BriefNodes) : List Emission :=
  Stage.all.flatMap (run.stageWrites nodes) ++ [verifyEmission]

end CompletedBrief

/-! ## What a journal has written -/

/-- The writes of a journal, in order. -/
def written (journal : Journal) : List Emission :=
  (observed journal).filterMap Observed.emission?

theorem written_of_wrote {journal tail : Journal} {emission : Emission}
    (seen : observed journal = .wrote emission :: observed tail) : written journal = emission :: written tail := by
  unfold written
  rw [seen]
  rfl

theorem written_of_quiet {journal tail : Journal} (seen : observed journal = observed tail) :
    written journal = written tail :=
  congrArg (List.filterMap Observed.emission?) seen

section Stages

variable {platform : Platform} {deps : BriefDeps} {nodes : BriefNodes} {node : PlanStep} {journal : Journal}
  {emission : Emission}

/-! ## The facts -/

theorem readActivity_ok {answer : Except (Option JsString) (Json × JsString)} {github : GithubActivity}
    {digest : JsString} (read : readActivity platform answer = .ok (github, digest)) :
    capabilityDigest platform (GithubActivity.codec.write github) = digest := by
  unfold readActivity at read
  split at read
  · cases read
  · split at read
    · cases read
    · split at read
      · next same =>
          cases read
          exact same
      · cases read

theorem readFacts_ok {github : GithubActivity} {digest : JsString} {answer : Except (Option JsString) Json}
    {facts : BriefFacts} (read : BriefRun.readFacts github digest answer = .ok facts) :
    facts.github = github ∧ facts.githubDigest.val = digest := by
  unfold BriefRun.readFacts at read
  split at read
  · cases read
  · split at read
    · next parsed =>
        cases read
        refine ⟨rfl, ?_⟩
        unfold Matching.parse at parsed
        split at parsed
        · cases parsed
          rfl
        · cases parsed
    · cases read

/-- A run that goes on has gathered facts whose digest is the digest of their activity. -/
theorem Requests.gathered {next : BriefFacts → KernelProg Ended}
    (requests : Requests (gatherFacts platform deps node next) journal emission) :
    ∃ start facts tail, patchedStep node .running node.input.toJson none = some start ∧
      written journal = startEmission node start :: written tail ∧
      capabilityDigest platform (GithubActivity.codec.write facts.github) = facts.githubDigest.val ∧
      Requests (next facts) tail emission := by
  obtain ⟨start, tail₁, started, seen₁, begun⟩ := requests.begun
  obtain ⟨windowEnd, tail₂, seen₂, reading⟩ := begun.quiet (by simp) fun _ => rfl
  obtain ⟨answer, tail₃, seen₃, read⟩ := reading.quiet (by simp) fun _ => rfl
  split at read
  · exact read.not_aborted.elim
  · next github digest activityRead =>
      obtain ⟨answer, tail₄, seen₄, state⟩ := read.quiet (by simp) fun _ => rfl
      split at state
      · exact state.not_aborted.elim
      · next facts factsRead =>
          obtain ⟨same, named⟩ := readFacts_ok factsRead
          refine ⟨start, facts, tail₄, started, ?_, ?_, state⟩
          · rw [written_of_wrote seen₁, written_of_quiet seen₂, written_of_quiet seen₃, written_of_quiet seen₄]
          · rw [same, named]
            exact readActivity_ok activityRead

/-! ## The runtimes -/

theorem Requests.named {role : RuntimeRole} {next : KernelProg Ended}
    (requests : Requests (nameCall role next) journal emission) :
    ∃ tail, observed journal = observed tail ∧ Requests next tail emission := by
  cases role with
  | analyst => exact ⟨journal, rfl, requests⟩
  | reviewer =>
      obtain ⟨_, tail, seen, later⟩ := Requests.quiet requests (by simp) fun _ => rfl
      exact ⟨tail, seen, later⟩

theorem Requests.briefRemembered {callId : Id} {next : Option MissionMemoryContext → KernelProg Ended}
    (requests : Requests (assembleBriefMemory deps node callId next) journal emission) :
    ∃ memory tail, observed journal = observed tail ∧ Requests (next memory) tail emission := by
  unfold assembleBriefMemory at requests
  split at requests
  · obtain ⟨answer, tail, seen, later⟩ := requests.quiet (by simp) fun _ => rfl
    exact ⟨_, tail, seen, later⟩
  · exact ⟨none, journal, rfl, requests⟩

/-- What a runtime's stage has written before it hands on. -/
theorem Requests.briefReported {task : Task} {role : RuntimeRole} {evidenceIds : List Id}
    {subjectDigest : JsString} {extras : RuntimeExtras} {next : RuntimeReport → Id → KernelProg Ended}
    (requests : Requests
      (runBriefRuntime platform task node role evidenceIds fun report =>
        recordReport platform task node role report subjectDigest extras (next report)) journal emission) :
    ∃ (report : RuntimeReport) (base : Base) (evidence : Evidence) (start finish : TaskStep) (tail : Journal),
      written journal = startEmission node start :: completeEmission node finish evidence :: written tail ∧
      base.taskId = task.id ∧ base.stepId = node.id ∧
      runtimeEvidence platform base role report.text report.receipt subjectDigest extras = some evidence ∧
      Stepped node (StepOutputs.runtime (sha256Text platform report.text)) start finish ∧
      Requests (next report base.id) tail emission := by
  obtain ⟨start, tail, started, seen, begun⟩ := requests.begun
  obtain ⟨tail₁, seen₁, named⟩ := Requests.named begun
  obtain ⟨built, tail₂, seen₂, building⟩ := named.quiet (by simp) fun _ => rfl
  cases built with
  | error code => exact building.not_aborted.elim
  | ok assembly =>
      obtain ⟨answer, tail₃, rfl, calling⟩ := Requests.call building (by simp)
      cases answer with
      | contractBroken => exact calling.not_returned.elim
      | failed receipt => exact calling.not_aborted.elim
      | succeeded text receipt =>
          obtain ⟨id, tail₄, seen₄, clock⟩ := Requests.quiet calling (by simp) fun _ => rfl
          obtain ⟨capturedAt, tail₅, seen₅, recording⟩ := clock.quiet (by simp) fun _ => rfl
          obtain ⟨evidence, recorded, completing⟩ := recording.value
          obtain ⟨finish, tail₆, finished, seen₆, later⟩ := completing.completed
          refine ⟨⟨text, receipt⟩, ⟨id, task.id, node.id, capturedAt⟩, evidence, start, finish, tail₆,
            ?_, rfl, rfl,
            recorded, ⟨started, finished⟩, later⟩
          have called : written (⟨.callModel role, .succeeded text receipt⟩ :: tail₃) = written tail₃ := by
            cases role <;> rfl
          rw [written_of_wrote seen, written_of_quiet seen₁, written_of_quiet seen₂, called,
            written_of_quiet seen₄,
            written_of_quiet seen₅, written_of_wrote seen₆]

/-! ## The judgement -/

theorem Requests.briefJudged {facts : BriefFacts} {memory : Option MissionMemoryContext}
    {analysis review : RuntimeReport} {evidenceIds : List Id}
    (requests : Requests (judgeBrief platform deps nodes facts memory analysis review evidenceIds) journal emission) :
    ∃ (record : BriefReconciliation) (base : Base) (evidence : Evidence) (start finish : TaskStep)
      (brief : BriefAnalysis) (at_ : Timestamp) (candidate : Outcome),
      written journal = [startEmission (nodes .reconcile) start,
        completeEmission (nodes .reconcile) finish evidence, verifyEmission] ∧
      emission = completionEmission candidate ∧
      reconcileBrief platform (briefInput facts memory analysis review) = some record ∧
      record.decision = .accepted ∧ base.taskId = deps.task.id ∧ base.stepId = (nodes .reconcile).id ∧
      briefReconcileEvidence platform base record = some evidence ∧
      Stepped (nodes .reconcile) (BriefStepOutputs.reconcile record) start finish ∧
      parseBrief platform analysis.text = some brief ∧
      (completedOutcome deps.task (evidenceIds ++ [base.id]) (briefSummary brief record.withheldItems) at_).parse =
        some candidate := by
  obtain ⟨start, tail, started, seen, begun⟩ := requests.begun
  obtain ⟨record, judged, identified⟩ := begun.value
  obtain ⟨id, tail₁, seen₁, clock⟩ := identified.quiet (by simp) fun _ => rfl
  obtain ⟨capturedAt, tail₂, seen₂, built⟩ := clock.quiet (by simp) fun _ => rfl
  obtain ⟨evidence, recorded, completing⟩ := built.value
  obtain ⟨finish, tail₃, finished, seen₃, decided⟩ := completing.completed
  split at decided
  · next accepted =>
      obtain ⟨brief, parses, requested⟩ := decided.value
      obtain ⟨at_, candidate, seen₄, same, outcome⟩ := requested.requestedCompletion
      refine ⟨record, ⟨id, deps.task.id, (nodes .reconcile).id, capturedAt⟩, evidence, start, finish, brief, at_,
        candidate, ?_, same, judged, accepted, rfl, rfl, recorded, ⟨started, finished⟩, parses, outcome⟩
      have last : written tail₃ = [verifyEmission] := congrArg (List.filterMap Observed.emission?) seen₄
      rw [written_of_wrote seen, written_of_quiet seen₁, written_of_quiet seen₂, written_of_wrote seen₃, last]
  · exact decided.not_failed.elim

/-! ## A whole run -/

/-- A run that requests completion has recorded a brief. -/
theorem Requests.completedBrief (planned : (orderedSteps deps.plan).bind BriefNodes.of = some nodes)
    (requests : Requests (runMorningBriefMission platform deps) journal emission) :
    ∃ run : CompletedBrief, run.Recorded platform deps.task nodes ∧
      emission = completionEmission run.candidate ∧ written journal = run.writes nodes := by
  obtain ⟨found, same, gathering⟩ := Requests.value requests
  cases same.symm.trans planned
  obtain ⟨gatherStart, facts, tail₁, gatherStarted, seen₁, activity, recording⟩ := Requests.gathered gathering
  obtain ⟨id, tail₂, seen₂, clock⟩ := Requests.quiet recording (by simp) fun _ => rfl
  obtain ⟨capturedAt, tail₃, seen₃, built⟩ := clock.quiet (by simp) fun _ => rfl
  obtain ⟨gather, gatherBuilt, completing⟩ := built.value
  obtain ⟨gatherStep, tail₄, gatherFinished, seen₄, writing⟩ := completing.completed
  obtain ⟨callId, tail₅, seen₅, remembering⟩ := Requests.quiet writing (by simp) fun _ => rfl
  obtain ⟨memory, tail₆, seen₆, remembered⟩ := Requests.briefRemembered remembering
  obtain ⟨analysis, analystBase, analyst, analystStart, analystStep, tail₇, seen₇, analystTask, analystNode,
    analystBuilt, analystStepped, reviewing⟩ := Requests.briefReported remembered
  obtain ⟨review, reviewerBase, reviewer, reviewerStart, reviewerStep, tail₈, seen₈, reviewerTask, reviewerNode,
    reviewerBuilt, reviewerStepped, judging⟩ := Requests.briefReported reviewing
  obtain ⟨record, base, reconcile, start, finish, brief, at_, candidate, seen₉, same, judged, accepted, baseTask,
    baseNode, reconcileBuilt, stepped, parses, outcome⟩ := Requests.briefJudged judging
  let run : CompletedBrief :=
    { facts, memory, analysis, review, record, brief
      base := Stage.pick ⟨id, deps.task.id, (nodes .gather).id, capturedAt⟩ analystBase reviewerBase base
      evidence := Stage.pick gather analyst reviewer reconcile
      started := Stage.pick gatherStart analystStart reviewerStart start
      finished := Stage.pick gatherStep analystStep reviewerStep finish
      requestedAt := at_, candidate }
  refine ⟨run, ⟨fun stage => ?_, activity, judged, accepted, parses, outcome⟩, same, ?_⟩
  · cases stage with
    | gather => exact ⟨rfl, rfl, gatherBuilt, gatherStarted, gatherFinished⟩
    | analyst => exact ⟨analystTask, analystNode, analystBuilt, analystStepped.started, analystStepped.finished⟩
    | reviewer =>
        exact ⟨reviewerTask, reviewerNode, reviewerBuilt, reviewerStepped.started, reviewerStepped.finished⟩
    | reconcile => exact ⟨baseTask, baseNode, reconcileBuilt, stepped.started, stepped.finished⟩
  · rw [seen₁, written_of_quiet seen₂, written_of_quiet seen₃, written_of_wrote seen₄, written_of_quiet seen₅,
      written_of_quiet seen₆, seen₇, seen₈, seen₉]
    rfl

end Stages

end KernelJson.Mission.BriefRecords
