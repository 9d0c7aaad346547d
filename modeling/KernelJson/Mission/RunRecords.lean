import KernelJson.Mission.Run

/-!
# What a mission has written

The journal of a mission's run determines what the run has written.  A run that
requests completion has recorded four pieces of evidence and completed four
steps, from one answer of each runtime.
-/

namespace KernelJson.Mission.RunRecords

open Contracts.Common
open Contracts.Github
open Contracts.Objective
open Contracts.Outcome
open Contracts.Platform
open Contracts.Reports
open Contracts.Task
open Executor.Operations
open Foundation
open Foundation.DurablePrograms
open Foundation.JsText
open Mission.Evidence
open Mission.Reconcile
open Mission.Run
open Planner.Plan

/-! ## What a run has written -/

/-- What a run that requests completion has recorded on the way. -/
structure CompletedRun where
  objective : MissionObjective
  facts : GithubFacts
  analysis : RuntimeReport
  review : RuntimeReport
  record : MissionReconciliation
  parsed : MissionAnalysis
  analystExtras : RuntimeExtras
  reviewerExtras : RuntimeExtras
  githubBase : Base
  analystBase : Base
  reviewerBase : Base
  reconcileBase : Base
  github : Evidence
  analyst : Evidence
  reviewer : Evidence
  reconcile : Evidence
  githubStep : TaskStep
  analystStep : TaskStep
  reviewerStep : TaskStep
  reconcileStep : TaskStep
  requestedAt : Timestamp
  candidate : Outcome

namespace CompletedRun

def factsDigest (platform : Platform) (run : CompletedRun) : JsString :=
  capabilityDigest platform (GithubFacts.codec.write run.facts)

def evidence (run : CompletedRun) : List Evidence :=
  [run.github, run.analyst, run.reviewer, run.reconcile]

def evidenceIds (run : CompletedRun) : List Id :=
  [run.githubBase.id, run.analystBase.id, run.reviewerBase.id, run.reconcileBase.id]

/-- The bases name the task and the steps. -/
structure Based (task : Task) (nodes : MissionNodes) (run : CompletedRun) : Prop where
  github : run.githubBase.taskId = task.id ∧ run.githubBase.stepId = nodes.github.id
  analyst : run.analystBase.taskId = task.id ∧ run.analystBase.stepId = nodes.analyst.id
  reviewer : run.reviewerBase.taskId = task.id ∧ run.reviewerBase.stepId = nodes.reviewer.id
  reconcile : run.reconcileBase.taskId = task.id ∧ run.reconcileBase.stepId = nodes.reconcile.id

/-- The records are what the workflow computes. -/
structure Recorded (platform : Platform) (task : Task) (nodes : MissionNodes) (run : CompletedRun) : Prop where
  objective : parseMissionObjective task.objective = .ok run.objective
  based : Based task nodes run
  github : githubEvidence run.githubBase run.facts (run.factsDigest platform) = some run.github
  analyst : runtimeEvidence platform run.analystBase .analyst run.analysis.text run.analysis.receipt
    (run.factsDigest platform) run.analystExtras = some run.analyst
  reviewer : runtimeEvidence platform run.reviewerBase .reviewer run.review.text run.review.receipt
    (sha256Text platform run.analysis.text) run.reviewerExtras = some run.reviewer
  judged : reconcileMission platform (reconcileInput run.facts run.objective.contract run.analysis run.review) =
    some run.record
  accepted : run.record.decision = .accepted
  reconcile : reconcileEvidence platform run.reconcileBase run.record = some run.reconcile
  githubStep : patchedStep nodes.github .completed nodes.github.input.toJson
    (some (StepOutputs.github run.facts (run.factsDigest platform))) = some run.githubStep
  analystStep : patchedStep nodes.analyst .completed nodes.analyst.input.toJson
    (some (StepOutputs.runtime (sha256Text platform run.analysis.text))) = some run.analystStep
  reviewerStep : patchedStep nodes.reviewer .completed nodes.reviewer.input.toJson
    (some (StepOutputs.runtime (sha256Text platform run.review.text))) = some run.reviewerStep
  reconcileStep : patchedStep nodes.reconcile .completed nodes.reconcile.input.toJson
    (some (StepOutputs.reconcile run.record)) = some run.reconcileStep
  parsed : parseAnalysis platform run.analysis.text = some run.parsed
  candidate : (completedOutcome task run.evidenceIds (missionSummary run.parsed) run.requestedAt).parse =
    some run.candidate

end CompletedRun

/-! ## Observations of a journal -/

abbrev Journal : Type := List (Entry KernelOp KernelAns)

/-- What matters of a journaled answer: what was written, read and analysed. -/
inductive Observed where
  | wrote (emission : Emission)
  | read (answer : Except (Option JsString) (Json × JsString))
  | analysed (answer : ModelAnswer)

def observe : Entry KernelOp KernelAns → Option Observed
  | ⟨.emit emission, _⟩ => some (.wrote emission)
  | ⟨.githubRead _, answer⟩ => some (.read answer)
  | ⟨.callModel .analyst, answer⟩ => some (.analysed answer)
  | _ => none

def observed (journal : Journal) : List Observed :=
  journal.filterMap observe

def Observed.emission? : Observed → Option Emission
  | .wrote emission => some emission
  | _ => none

/-- The evidence that a run has written, in order. -/
def writtenEvidence (journal : Journal) : List Evidence :=
  ((observed journal).filterMap Observed.emission?).filterMap Emission.evidence

/-- The steps that a run has written, in order. -/
def writtenSteps (journal : Journal) : List TaskStep :=
  ((observed journal).filterMap Observed.emission?).filterMap Emission.step

theorem mem_of_analysed {journal : Journal} {answer : ModelAnswer}
    (member : .analysed answer ∈ observed journal) : ⟨.callModel .analyst, answer⟩ ∈ journal := by
  obtain ⟨⟨op, given⟩, inside, same⟩ := List.mem_filterMap.mp member
  unfold observe at same
  split at same
  · cases same
  · cases same
  · next found =>
      cases found
      cases same
      exact inside
  · cases same

theorem mem_of_read {journal : Journal} {answer : Except (Option JsString) (Json × JsString)}
    (member : .read answer ∈ observed journal) : ∃ repo, ⟨.githubRead repo, answer⟩ ∈ journal := by
  obtain ⟨⟨op, given⟩, inside, same⟩ := List.mem_filterMap.mp member
  unfold observe at same
  split at same
  · cases same
  · next repo _ found =>
      cases found
      cases same
      exact ⟨repo, inside⟩
  · cases same
  · cases same

/-- The run stands at a write that completes the task. -/
def Requests (program : KernelProg Ended) (journal : Journal) (emission : Emission) : Prop :=
  emission.status = .completed ∧ ∃ next, Replays program journal (.call (.emit emission) next)

section Inversion

variable {journal : Journal} {emission : Emission}

/-- Any other operation has been answered. -/
theorem Requests.call {op : KernelOp} {next : KernelAns op → KernelProg Ended}
    (requests : Requests (.call op next) journal emission)
    (other : ∀ write, op = .emit write → write.status ≠ .completed) :
    ∃ answer tail, journal = ⟨op, answer⟩ :: tail ∧ Requests (next answer) tail emission := by
  obtain ⟨completed, rest, replays⟩ := requests
  rcases replays.call_cases with ⟨-, same⟩ | ⟨answer, tail, rfl, later⟩
  · cases same
    exact absurd completed (other emission rfl)
  · exact ⟨answer, tail, rfl, completed, rest, later⟩

theorem Requests.quiet {op : KernelOp} {next : KernelAns op → KernelProg Ended}
    (requests : Requests (.call op next) journal emission) (silent : ∀ write, op ≠ .emit write)
    (unseen : ∀ answer, observe ⟨op, answer⟩ = none) :
    ∃ answer tail, observed journal = observed tail ∧ Requests (next answer) tail emission := by
  obtain ⟨answer, tail, rfl, later⟩ := requests.call fun write same => absurd same (silent write)
  refine ⟨answer, tail, ?_, later⟩
  rw [observed, List.filterMap_cons_none (unseen answer), observed]

theorem Requests.write {write : Emission} {next : Option Outcome → KernelProg Ended}
    (requests : Requests (.call (.emit write) next) journal emission) (open_ : write.status ≠ .completed) :
    ∃ answer tail, observed journal = .wrote write :: observed tail ∧ Requests (next answer) tail emission := by
  obtain ⟨answer, tail, rfl, later⟩ := requests.call fun other same => by
    cases same
    exact open_
  exact ⟨answer, tail, rfl, later⟩

theorem Requests.value {β : Type} {value : Option β} {next : β → KernelProg Ended}
    (requests : Requests (orRetry value next) journal emission) :
    ∃ found, value = some found ∧ Requests (next found) journal emission := by
  cases value with
  | some found => exact ⟨found, rfl, requests⟩
  | none =>
      obtain ⟨answer, -, -, -⟩ := Requests.call requests fun write same => by cases same
      exact answer.elim

theorem Requests.not_returned {value : Ended} (requests : Requests (.ret value) journal emission) : False := by
  obtain ⟨-, rest, replays⟩ := requests
  cases replays.ret_inv.2

theorem Requests.begun {node : PlanStep} {next : KernelProg Ended}
    (requests : Requests (begin_ node next) journal emission) :
    ∃ step tail, patchedStep node .running node.input.toJson none = some step ∧
      observed journal = .wrote (startEmission node step) :: observed tail ∧ Requests next tail emission := by
  obtain ⟨step, patched, written⟩ := Requests.value requests
  obtain ⟨-, tail, seen, later⟩ := written.write (by simp [startEmission])
  exact ⟨step, tail, patched, seen, later⟩

theorem Requests.completed {node : PlanStep} {output : Json} {evidence : Evidence} {next : KernelProg Ended}
    (requests : Requests (complete node output evidence next) journal emission) :
    ∃ step tail, patchedStep node .completed node.input.toJson (some output) = some step ∧
      observed journal = .wrote (completeEmission node step evidence) :: observed tail ∧
      Requests next tail emission := by
  obtain ⟨step, patched, written⟩ := Requests.value requests
  obtain ⟨-, tail, seen, later⟩ := written.write (by simp [completeEmission])
  exact ⟨step, tail, patched, seen, later⟩

/-- A mission that fails does not request completion. -/
theorem Requests.not_failed {task : Task} {evidenceIds : List Id} {summary : JsString}
    (requests : Requests (finishFailed task evidenceIds summary) journal emission) : False := by
  obtain ⟨at_, tail, -, parsed⟩ := requests.quiet (by simp) fun _ => rfl
  obtain ⟨outcome, -, written⟩ := parsed.value
  obtain ⟨-, tail, -, noticed⟩ := written.write (by simp)
  obtain ⟨-, tail, -, returned⟩ := noticed.quiet (by simp) fun _ => rfl
  exact returned.not_returned

theorem Requests.not_aborted {platform : Platform} {task : Task} {label : String} {node : PlanStep}
    {evidenceIds : List Id} {source reason : JsString} {metadata : Json}
    (requests : Requests (abort platform task label node evidenceIds source metadata reason) journal emission) :
    False := by
  obtain ⟨id, tail, -, clock⟩ := requests.quiet (by simp) fun _ => rfl
  obtain ⟨capturedAt, tail, -, built⟩ := clock.quiet (by simp) fun _ => rfl
  obtain ⟨evidence, -, patched⟩ := built.value
  obtain ⟨step, -, written⟩ := patched.value
  obtain ⟨-, tail, -, failed⟩ := written.write (by simp)
  exact failed.not_failed

end Inversion

/-! ## Stages -/

section Stages

variable {platform : Platform} {deps : MissionDeps} {nodes : MissionNodes} {journal : Journal}
  {emission : Emission}

/-- A step was started and then completed. -/
structure Stepped (node : PlanStep) (output : Json) (start finish : TaskStep) : Prop where
  started : patchedStep node .running node.input.toJson none = some start
  finished : patchedStep node .completed node.input.toJson (some output) = some finish

/-- The two writes of a step. -/
def stepWrites (node : PlanStep) (start finish : TaskStep) (evidence : Evidence) : List Observed :=
  [.wrote (startEmission node start), .wrote (completeEmission node finish evidence)]

theorem Requests.requestedCompletion {task : Task} {evidenceIds : List Id} {summary : JsString}
    (requests : Requests (requestCompletion task evidenceIds summary) journal emission) :
    ∃ at_ candidate, observed journal = [.wrote verifyEmission] ∧ emission = completionEmission candidate ∧
      (completedOutcome task evidenceIds summary at_).parse = some candidate := by
  obtain ⟨-, tail, seen, clock⟩ := requests.write (by simp [verifyEmission])
  obtain ⟨at_, rest, seenClock, built⟩ := clock.quiet (by simp) fun _ => rfl
  obtain ⟨candidate, parsed, -, next, replays⟩ := built.value
  rcases replays.call_cases with ⟨empty, same⟩ | ⟨answer, later, -, noticed⟩
  · cases same
    refine ⟨at_, candidate, ?_, rfl, parsed⟩
    rw [seen, seenClock, empty]
    rfl
  · -- after the completion only the notice and the return remain
    rcases noticed.call_cases with ⟨-, same⟩ | ⟨_, _, _, returned⟩
    · cases same
    · cases returned.ret_inv.2

theorem Requests.judged {facts : GithubFacts} {contract : MissionContract} {analysis review : RuntimeReport}
    {evidenceIds : List Id}
    (requests : Requests (judge platform deps nodes facts contract analysis review evidenceIds) journal emission) :
    ∃ (record : MissionReconciliation) (base : Base) (evidence : Evidence) (start finish : TaskStep)
      (parsed : MissionAnalysis) (at_ : Timestamp) (candidate : Outcome),
      observed journal = stepWrites nodes.reconcile start finish evidence ++ [.wrote verifyEmission] ∧
      emission = completionEmission candidate ∧
      reconcileMission platform (reconcileInput facts contract analysis review) = some record ∧
      record.decision = .accepted ∧ base.taskId = deps.task.id ∧ base.stepId = nodes.reconcile.id ∧
      reconcileEvidence platform base record = some evidence ∧
      Stepped nodes.reconcile (StepOutputs.reconcile record) start finish ∧
      parseAnalysis platform analysis.text = some parsed ∧
      (completedOutcome deps.task (evidenceIds ++ [base.id]) (missionSummary parsed) at_).parse =
        some candidate := by
  obtain ⟨start, tail, started, seen, begun⟩ := requests.begun
  obtain ⟨record, judged, identified⟩ := begun.value
  obtain ⟨id, tail₁, seen₁, clock⟩ := identified.quiet (by simp) fun _ => rfl
  obtain ⟨capturedAt, tail₂, seen₂, built⟩ := clock.quiet (by simp) fun _ => rfl
  obtain ⟨evidence, recorded, completing⟩ := built.value
  obtain ⟨finish, tail₃, finished, seen₃, decided⟩ := completing.completed
  split at decided
  · next accepted =>
      obtain ⟨parsed, parses, requested⟩ := decided.value
      obtain ⟨at_, candidate, seen₄, same, outcome⟩ := requested.requestedCompletion
      refine ⟨record, ⟨id, deps.task.id, nodes.reconcile.id, capturedAt⟩, evidence, start, finish, parsed, at_,
        candidate, ?_, same, judged, accepted, rfl, rfl, recorded, ⟨started, finished⟩, parses, outcome⟩
      rw [seen, seen₁, seen₂, seen₃, seen₄]
      rfl
  · exact decided.not_failed.elim

/-- What a runtime's stage has written before it hands on. -/
theorem Requests.reported {role : RuntimeRole} {node : PlanStep} {evidenceIds : List Id} {pin : Option Json}
    {subjectDigest : JsString} {extras : Assembly → RuntimeExtras}
    {next : Assembly → RuntimeReport → Id → KernelProg Ended}
    (requests : Requests
      (runRuntime platform deps.task "mission" node role evidenceIds pin fun assembly report =>
        recordReport platform deps.task node role report subjectDigest (extras assembly) (next assembly report))
      journal emission) :
    ∃ (assembly : Assembly) (report : RuntimeReport) (base : Base) (evidence : Evidence)
      (start finish : TaskStep) (tail : Journal),
      observed journal = .wrote (startEmission node start) ::
        ((observe ⟨.callModel role, .succeeded report.text report.receipt⟩).toList ++
          (.wrote (completeEmission node finish evidence) :: observed tail)) ∧
      base.taskId = deps.task.id ∧ base.stepId = node.id ∧
      runtimeEvidence platform base role report.text report.receipt subjectDigest (extras assembly) =
        some evidence ∧
      Stepped node (StepOutputs.runtime (sha256Text platform report.text)) start finish ∧
      Requests (next assembly report base.id) tail emission := by
  obtain ⟨start, tail, started, seen, begun⟩ := requests.begun
  obtain ⟨built, tail₁, seen₁, building⟩ := begun.quiet (by simp) fun _ => rfl
  cases built with
  | error code => exact building.not_aborted.elim
  | ok assembly =>
      obtain ⟨answer, tail₂, rfl, calling⟩ := Requests.call building (by simp)
      cases answer with
      | contractBroken => exact calling.not_returned.elim
      | failed receipt => exact calling.not_aborted.elim
      | succeeded text receipt =>
          obtain ⟨id, tail₃, seen₃, clock⟩ := Requests.quiet calling (by simp) fun _ => rfl
          obtain ⟨capturedAt, tail₄, seen₄, recording⟩ := clock.quiet (by simp) fun _ => rfl
          obtain ⟨evidence, recorded, completing⟩ := recording.value
          obtain ⟨finish, tail₅, finished, seen₅, later⟩ := completing.completed
          refine ⟨assembly, ⟨text, receipt⟩, ⟨id, deps.task.id, node.id, capturedAt⟩, evidence, start, finish,
            tail₅, ?_, rfl, rfl, recorded, ⟨started, finished⟩, later⟩
          rw [seen, seen₁, ← seen₅, ← seen₄, ← seen₃]
          cases role <;> rfl

theorem Requests.pinned {role : RuntimeRole} {node : PlanStep} {evidenceIds : List Id}
    {next : Option Json → KernelProg Ended}
    (requests : Requests (pinFaculty platform deps node role evidenceIds next) journal emission) :
    ∃ pin tail, observed journal = observed tail ∧ Requests (next pin) tail emission := by
  unfold pinFaculty at requests
  split at requests
  · obtain ⟨answer, tail, seen, later⟩ := requests.quiet (by simp) fun _ => rfl
    cases answer with
    | ok pin => exact ⟨some pin, tail, seen, later⟩
    | error code =>
        obtain ⟨_, _, _, _, aborted⟩ := Requests.begun later
        exact aborted.not_aborted.elim
  · exact ⟨none, journal, rfl, requests⟩

theorem Requests.latched {node : PlanStep} {evidenceIds : List Id} {next : CognitionState → KernelProg Ended}
    (requests : Requests (latchIdentity platform deps node evidenceIds next) journal emission) :
    ∃ state tail, observed journal = observed tail ∧ Requests (next state) tail emission := by
  unfold latchIdentity at requests
  split at requests
  · obtain ⟨answer, tail, seen, later⟩ := requests.quiet (by simp) fun _ => rfl
    cases answer with
    | ok state => exact ⟨state, tail, seen, later⟩
    | error code =>
        obtain ⟨_, _, _, _, aborted⟩ := Requests.begun later
        exact aborted.not_aborted.elim
  · exact ⟨.legacy, journal, rfl, requests⟩

theorem Requests.remembered {node : PlanStep} {next : Option Json → KernelProg Ended}
    (requests : Requests (assembleMemory deps node next) journal emission) :
    ∃ memory tail, observed journal = observed tail ∧ Requests (next memory) tail emission := by
  unfold assembleMemory at requests
  split at requests
  · obtain ⟨answer, tail, seen, later⟩ := requests.quiet (by simp) fun _ => rfl
    exact ⟨_, tail, seen, later⟩
  · exact ⟨none, journal, rfl, requests⟩

/-- The observations of a run that requests completion. -/
def CompletedRun.observations (nodes : MissionNodes) (run : CompletedRun)
    (answer : Except (Option JsString) (Json × JsString)) (githubStart analystStart reviewerStart reconcileStart : TaskStep) :
    List Observed :=
  [.wrote (startEmission nodes.github githubStart), .read answer,
    .wrote (completeEmission nodes.github run.githubStep run.github),
    .wrote (startEmission nodes.analyst analystStart),
    .analysed (.succeeded run.analysis.text run.analysis.receipt),
    .wrote (completeEmission nodes.analyst run.analystStep run.analyst),
    .wrote (startEmission nodes.reviewer reviewerStart),
    .wrote (completeEmission nodes.reviewer run.reviewerStep run.reviewer),
    .wrote (startEmission nodes.reconcile reconcileStart),
    .wrote (completeEmission nodes.reconcile run.reconcileStep run.reconcile), .wrote verifyEmission]

/-- The steps that a run has started. -/
structure Starts (nodes : MissionNodes) (githubStart analystStart reviewerStart reconcileStart : TaskStep) :
    Prop where
  github : patchedStep nodes.github .running nodes.github.input.toJson none = some githubStart
  analyst : patchedStep nodes.analyst .running nodes.analyst.input.toJson none = some analystStart
  reviewer : patchedStep nodes.reviewer .running nodes.reviewer.input.toJson none = some reviewerStart
  reconcile : patchedStep nodes.reconcile .running nodes.reconcile.input.toJson none = some reconcileStart

/-- A run that requests completion has recorded a mission. -/
theorem Requests.completedRun (planned : orderedSteps deps.plan =
      some [nodes.github, nodes.analyst, nodes.reviewer, nodes.reconcile])
    (requests : Requests (runRepoAnalysisMission platform deps) journal emission) :
    ∃ (run : CompletedRun) (answer : Except (Option JsString) (Json × JsString))
      (githubStart analystStart reviewerStart reconcileStart : TaskStep),
      run.Recorded platform deps.task nodes ∧ emission = completionEmission run.candidate ∧
      readFacts platform answer = .ok run.facts ∧
      observed journal = run.observations nodes answer githubStart analystStart reviewerStart reconcileStart ∧
      Starts nodes githubStart analystStart reviewerStart reconcileStart := by
  unfold runRepoAnalysisMission at requests
  split at requests
  · next refused =>
      obtain ⟨answer, _, _, _⟩ := Requests.call requests (by simp)
      exact answer.elim
  · next objective objectiveRead =>
      obtain ⟨found, same, captured⟩ := requests.value
      rw [planned, Option.bind_some] at same
      cases same
      obtain ⟨githubStart, tail₁, githubStarted, seen₁, begun⟩ := captured.begun
      obtain ⟨answer, tail₂, rfl, reading⟩ := Requests.call begun (by simp)
      split at reading
      · exact reading.not_aborted.elim
      · next facts factsRead =>
          obtain ⟨id, tail₃, seen₃, clock⟩ := reading.quiet (by simp) fun _ => rfl
          obtain ⟨capturedAt, tail₄, seen₄, built⟩ := clock.quiet (by simp) fun _ => rfl
          obtain ⟨github, githubBuilt, completing⟩ := built.value
          obtain ⟨githubStep, tail₅, githubFinished, seen₅, analysing⟩ := completing.completed
          obtain ⟨analystPin, tail₆, seen₆, pinned⟩ := Requests.pinned analysing
          obtain ⟨reviewerPin, tail₇, seen₇, pinned⟩ := pinned.pinned
          obtain ⟨state, tail₈, seen₈, latched⟩ := pinned.latched
          obtain ⟨memory, tail₉, seen₉, remembered⟩ := latched.remembered
          obtain ⟨assembly, analysis, analystBase, analyst, analystStart, analystStep, tail₁₀, seen₁₀, analystTask,
            analystNode, analystBuilt, analystStepped, reviewing⟩ := remembered.reported
          obtain ⟨_, review, reviewerBase, reviewer, reviewerStart, reviewerStep, tail₁₁, seen₁₁, reviewerTask,
            reviewerNode, reviewerBuilt, reviewerStepped, judging⟩ := Requests.reported reviewing
          obtain ⟨record, base, reconcile, start, finish, parsed, at_, candidate, seen₁₂, same, judged, accepted,
            baseTask, baseNode, reconcileBuilt, stepped, parses, outcome⟩ := judging.judged
          let run : CompletedRun :=
            { objective, facts, analysis, review, record, parsed
              analystExtras := ⟨memory, analystPin, analystCognition state assembly⟩
              reviewerExtras := ⟨none, reviewerPin, reviewerCognition state⟩
              githubBase := ⟨id, deps.task.id, nodes.github.id, capturedAt⟩
              analystBase, reviewerBase, reconcileBase := base
              github, analyst, reviewer, reconcile, githubStep, analystStep, reviewerStep
              reconcileStep := finish, requestedAt := at_, candidate }
          refine ⟨run, answer, githubStart, analystStart, reviewerStart, start, ?_, same, factsRead, ?_, ?_⟩
          · exact
              { objective := objectiveRead
                based := ⟨⟨rfl, rfl⟩, ⟨analystTask, analystNode⟩, ⟨reviewerTask, reviewerNode⟩, ⟨baseTask, baseNode⟩⟩
                github := githubBuilt, analyst := analystBuilt, reviewer := reviewerBuilt, judged, accepted
                reconcile := reconcileBuilt, githubStep := githubFinished
                analystStep := analystStepped.finished, reviewerStep := reviewerStepped.finished
                reconcileStep := stepped.finished, parsed := parses
                candidate := by simpa [CompletedRun.evidenceIds, run] using outcome }
          · have read : observed (⟨.githubRead objective.repo.val, answer⟩ :: tail₂) =
                .read answer :: observed tail₂ := rfl
            rw [seen₁, read, seen₃, seen₄, seen₅, seen₆, seen₇, seen₈, seen₉, seen₁₀, seen₁₁, seen₁₂]
            rfl
          · exact ⟨githubStarted, analystStepped.started, reviewerStepped.started, stepped.started⟩

end Stages

/-! ## Runs with given answers -/

/-- The answers to the operations of a run, by their positions. -/
abbrev Answers : Type := Nat → (op : KernelOp) → Option (KernelAns op)

/-- Run a program with given answers until it requests completion or an answer is missing. -/
def pursue (answers : Answers) : Nat → KernelProg Ended → Journal × KernelProg Ended
  | _, .ret value => ([], .ret value)
  | position, .call op next =>
      match answers position op with
      | none => ([], .call op next)
      | some answer =>
          let rest := pursue answers (position + 1) (next answer)
          (⟨op, answer⟩ :: rest.1, rest.2)

/-- The outcome with which a program stands at its completion. -/
def requestedOutcome : KernelProg Ended → Option Outcome
  | .call (.emit emission) _ =>
      if emission.key = js "complete" ∧ emission.type = .taskCompleted ∧ emission.status = .completed ∧
          emission.step.isNone = true ∧ emission.steps.isEmpty = true ∧ emission.evidence.isNone = true then
        emission.outcome
      else none
  | _ => none

theorem replays_pursue (answers : Answers) (position : Nat) (program : KernelProg Ended) :
    Replays program (pursue answers position program).1 (pursue answers position program).2 := by
  induction program generalizing position with
  | ret value => exact .done _
  | call op next ih =>
      unfold pursue
      split
      · exact .done _
      · next answer _ => exact .read (ih answer _)

/-- Every journaled answer was given. -/
theorem answered_of_mem {answers : Answers} {position : Nat} {program : KernelProg Ended}
    {op : KernelOp} {answer : KernelAns op} (member : ⟨op, answer⟩ ∈ (pursue answers position program).1) :
    ∃ at_, answers at_ op = some answer := by
  induction program generalizing position with
  | ret value => cases member
  | call other next ih =>
      unfold pursue at member
      split at member
      · cases member
      · next given found =>
          rcases List.mem_cons.mp member with here | later
          · cases here
            exact ⟨position, found⟩
          · exact ih given later

theorem requests_pursue {answers : Answers} {position : Nat} {program : KernelProg Ended}
    {candidate : Outcome} (stands : requestedOutcome (pursue answers position program).2 = some candidate) :
    Requests program (pursue answers position program).1 (completionEmission candidate) := by
  have replays := replays_pursue answers position program
  unfold requestedOutcome at stands
  split at stands
  · next emission next same =>
      rw [same] at replays
      split at stands
      · next shape =>
          obtain ⟨key, type, status, step, steps, evidence⟩ := shape
          have completes : emission = completionEmission candidate := by
            obtain ⟨_, _, _, _, _, _, _⟩ := emission
            simp only [Option.isNone_iff_eq_none, List.isEmpty_iff] at key type status step steps evidence stands
            simp only [key, type, status, step, steps, evidence, stands, completionEmission]
          exact ⟨rfl, next, completes ▸ replays⟩
      · cases stands
  · cases stands

/-- With these answers the program comes to request completion. -/
def Pursues (answers : Answers) (position : Nat) (program : KernelProg Ended) : Prop :=
  ∃ candidate, requestedOutcome (pursue answers position program).2 = some candidate

section Pursuit

variable {answers : Answers} {position : Nat}

theorem Pursues.call {op : KernelOp} {next : KernelAns op → KernelProg Ended} {answer : KernelAns op}
    (given : answers position op = some answer) (rest : Pursues answers (position + 1) (next answer)) :
    Pursues answers position (.call op next) := by
  obtain ⟨candidate, stands⟩ := rest
  refine ⟨candidate, ?_⟩
  rw [pursue, given]
  exact stands

theorem Pursues.value {β : Type} {value : Option β} {next : β → KernelProg Ended} {found : β}
    (known : value = some found) (rest : Pursues answers position (next found)) :
    Pursues answers position (orRetry value next) := by
  rw [known]
  exact rest

/-- A program that waits for its completion to be answered requests it. -/
theorem Pursues.stands {candidate : Outcome} {next : Option Outcome → KernelProg Ended}
    (waits : answers position (.emit (completionEmission candidate)) = none) :
    Pursues answers position (.call (.emit (completionEmission candidate)) next) := by
  refine ⟨candidate, ?_⟩
  rw [pursue, waits]
  rfl

end Pursuit

/-- A candidate with a visible summary is never refused by the schema of outcomes. -/
theorem candidate_of_visible {task : Task} {criterion summary : JsString} {ids : List Id} (at_ : Timestamp)
    (criteria : task.acceptanceCriteria = [criterion]) (trimmed : parseText criterion = some criterion)
    (cited : ids ≠ []) (visible : trim summary ≠ []) :
    ∃ candidate, (completedOutcome task ids summary at_).parse = some candidate := by
  have read : (AcceptanceResult.mk criterion true ids).parse = some ⟨criterion, true, ids⟩ := by
    simp only [AcceptanceResult.parse, trimmed, Option.bind_eq_bind, Option.bind_some]
  have kept : parseText summary = some (trim summary) := if_neg visible
  refine ⟨⟨task.id, .completed, [⟨criterion, true, ids⟩], ids, trim summary, at_⟩, ?_⟩
  have refined : Outcome.Refined ⟨task.id, .completed, [⟨criterion, true, ids⟩], ids, trim summary, at_⟩ := by
    simp [Outcome.Refined, cited]
  simp [Outcome.parse, completedOutcome, criteria, read, kept, refined]

/-- A mission's candidate is never refused by the schema of outcomes. -/
theorem candidate_exists {task : Task} {criterion : JsString} {ids : List Id} (parsed : MissionAnalysis)
    (at_ : Timestamp) (criteria : task.acceptanceCriteria = [criterion])
    (trimmed : parseText criterion = some criterion) (cited : ids ≠ []) :
    ∃ candidate, (completedOutcome task ids (missionSummary parsed) at_).parse = some candidate := by
  refine candidate_of_visible at_ criteria trimmed cited ?_
  obtain ⟨rest, starts⟩ := missionSummary_starts parsed
  intro empty
  have start : (missionSummary parsed).dropWhile isSpace = missionSummary parsed := by
    rw [starts, List.dropWhile_cons_of_neg (by decide)]
  rw [trim, start, List.rdropWhile_eq_nil_iff] at empty
  have space := empty 65 (starts ▸ List.mem_cons_self)
  exact absurd space (by decide)

/-- Answers with which a mission goes through up to its completion. -/
structure Cooperates (platform : Platform) (answers : Answers) (facts : GithubFacts)
    (reports : RuntimeRole → RuntimeReport) : Prop where
  emit : ∀ position (emission : Emission), emission.status ≠ .completed →
    ∃ answer, answers position (.emit emission) = some answer
  completion : ∀ position candidate, answers position (.emit (completionEmission candidate)) = none
  now : ∀ position, ∃ at_, answers position .now = some at_
  uuid : ∀ position, ∃ id, answers position .uuid = some id
  read : ∀ position repo, answers position (.githubRead repo) =
    some (.ok (GithubFacts.codec.write facts, capabilityDigest platform (GithubFacts.codec.write facts)))
  build : ∀ position role, ∃ assembly, answers position (.buildRequest role) = some (.ok assembly)
  report : ∀ position role, answers position (.callModel role) =
    some (.succeeded (reports role).text (reports role).receipt)

section Cooperation

variable {platform : Platform} {answers : Answers} {facts : GithubFacts} {reports : RuntimeRole → RuntimeReport}

theorem Pursues.begun (cooperates : Cooperates platform answers facts reports) {node : PlanStep} {step : TaskStep}
    {next : KernelProg Ended} {position : Nat}
    (patched : patchedStep node .running node.input.toJson none = some step)
    (rest : ∀ position, Pursues answers position next) : Pursues answers position (begin_ node next) := by
  obtain ⟨answer, given⟩ := cooperates.emit position (startEmission node step) (by simp [startEmission])
  exact .value patched (.call given (rest _))

theorem Pursues.completed (cooperates : Cooperates platform answers facts reports) {node : PlanStep}
    {step : TaskStep} {output : Json} {evidence : Evidence} {next : KernelProg Ended} {position : Nat}
    (patched : patchedStep node .completed node.input.toJson (some output) = some step)
    (rest : ∀ position, Pursues answers position next) :
    Pursues answers position (complete node output evidence next) := by
  obtain ⟨answer, given⟩ := cooperates.emit position (completeEmission node step evidence)
    (by simp [completeEmission])
  exact .value patched (.call given (rest _))

/-- Name a piece of evidence, read the clock and record the evidence. -/
theorem Pursues.recorded (cooperates : Cooperates platform answers facts reports) {position : Nat}
    {build : Id → Timestamp → Option Evidence} {next : Id → Evidence → KernelProg Ended}
    (built : ∀ id at_, ∃ evidence, build id at_ = some evidence)
    (rest : ∀ position id evidence, Pursues answers position (next id evidence)) :
    Pursues answers position
      (.call .uuid fun id => .call .now fun at_ => orRetry (build id at_) (next id)) := by
  obtain ⟨id, named⟩ := cooperates.uuid position
  obtain ⟨at_, clock⟩ := cooperates.now (position + 1)
  obtain ⟨evidence, found⟩ := built id at_
  exact .call named (.call clock (.value found (rest _ _ _)))

/-- Every step can be patched. -/
def Patchable (node : PlanStep) : Prop :=
  ∀ status output, ∃ step, patchedStep node status node.input.toJson output = some step

theorem sources_nonempty : Sources.github ≠ [] ∧ (∀ role, Sources.runtime role ≠ []) ∧ Sources.reconcile ≠ [] := by
  refine ⟨by decide, fun role => ?_, by decide⟩
  cases role <;> decide

theorem Pursues.reported (cooperates : Cooperates platform answers facts reports) {task : Task} {label : String}
    {node : PlanStep} {role : RuntimeRole} {evidenceIds : List Id} {pin : Option Json} {subjectDigest : JsString}
    {extras : Assembly → RuntimeExtras} {next : Assembly → RuntimeReport → Id → KernelProg Ended}
    (patchable : Patchable node)
    (rest : ∀ position assembly id, Pursues answers position (next assembly (reports role) id)) (position : Nat) :
    Pursues answers position
      (runRuntime platform task label node role evidenceIds pin fun assembly report =>
        recordReport platform task node role report subjectDigest (extras assembly) (next assembly report)) := by
  obtain ⟨start, started⟩ := patchable .running none
  obtain ⟨finish, finished⟩ := patchable .completed
    (some (StepOutputs.runtime (sha256Text platform (reports role).text)))
  refine Pursues.begun cooperates started fun position => ?_
  obtain ⟨assembly, built⟩ := cooperates.build position role
  refine .call built (.call (cooperates.report _ role) ?_)
  refine Pursues.recorded cooperates (fun id at_ => ⟨_, Base.evidence_some _ _ _ (trim_source_runtime role)
    (sources_nonempty.2.1 role) rfl⟩) fun position id evidence => ?_
  exact Pursues.completed cooperates finished fun position => rest position assembly id

/-- A mission whose texts are accepted goes on to request completion. -/
theorem Cooperates.pursues (cooperates : Cooperates platform answers facts reports) {deps : MissionDeps}
    {nodes : MissionNodes} {objective : MissionObjective} {record : MissionReconciliation} {criterion : JsString}
    (plain : deps.memory = false ∧ deps.faculties = false ∧ deps.identity = false)
    (parsed : parseMissionObjective deps.task.objective = .ok objective)
    (ordered : (orderedSteps deps.plan).bind MissionNodes.of = some nodes)
    (patchable : Patchable nodes.github ∧ Patchable nodes.analyst ∧ Patchable nodes.reviewer ∧
      Patchable nodes.reconcile)
    (criteria : deps.task.acceptanceCriteria = [criterion]) (trimmed : parseText criterion = some criterion)
    (judged : reconcileMission platform
      (reconcileInput facts objective.contract (reports .analyst) (reports .reviewer)) = some record)
    (accepted : record.decision = .accepted) :
    Pursues answers 0 (runRepoAnalysisMission platform deps) := by
  obtain ⟨memory, faculties, identity⟩ := plain
  obtain ⟨githubPatch, analystPatch, reviewerPatch, reconcilePatch⟩ := patchable
  obtain ⟨githubStart, githubStarted⟩ := githubPatch .running none
  obtain ⟨githubFinish, githubFinished⟩ := githubPatch .completed
    (some (StepOutputs.github facts (capabilityDigest platform (GithubFacts.codec.write facts))))
  obtain ⟨reconcileStart, reconcileStarted⟩ := reconcilePatch .running none
  obtain ⟨reconcileFinish, reconcileFinished⟩ := reconcilePatch .completed (some (StepOutputs.reconcile record))
  obtain ⟨analysis, parses⟩ := analysis_of_accepted platform judged accepted
  have read : readFacts platform (.ok (GithubFacts.codec.write facts,
      capabilityDigest platform (GithubFacts.codec.write facts))) = .ok facts := by
    simp only [readFacts, GithubFacts.codec.read_write, if_true]
  simp only [runRepoAnalysisMission, parsed]
  refine .value ordered (Pursues.begun cooperates githubStarted fun position => ?_)
  refine .call (cooperates.read _ _) ?_
  simp only [read]
  refine Pursues.recorded cooperates (fun id at_ => ⟨_, Base.evidence_some _ _ _ trim_source_github
    sources_nonempty.1 rfl⟩) fun position id evidence => ?_
  refine Pursues.completed cooperates githubFinished fun position => ?_
  simp only [analysisStage, pinFaculty, latchIdentity, assembleMemory, memory, faculties, identity,
    Bool.false_eq_true, if_false]
  refine Pursues.reported cooperates analystPatch (fun position assembly id => ?_) position
  refine Pursues.reported cooperates reviewerPatch (fun position assembly id => ?_) position
  refine Pursues.begun cooperates reconcileStarted fun position => .value judged ?_
  refine Pursues.recorded cooperates (fun id at_ => ⟨_, Base.evidence_some _ _ _ trim_source_reconcile
    sources_nonempty.2.2 rfl⟩) fun position id evidence => ?_
  refine Pursues.completed cooperates reconcileFinished fun position => ?_
  rw [if_pos accepted]
  obtain ⟨answer, verifying⟩ := cooperates.emit position verifyEmission (by simp [verifyEmission])
  obtain ⟨at_, clock⟩ := cooperates.now (position + 1)
  obtain ⟨candidate, built⟩ := candidate_exists analysis at_ criteria trimmed (List.append_ne_nil_of_right_ne_nil _
    (List.cons_ne_nil id []))
  exact .value parses (.call verifying (.call clock (.value built (.stands (cooperates.completion _ _)))))

end Cooperation

end KernelJson.Mission.RunRecords
