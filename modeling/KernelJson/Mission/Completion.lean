import KernelJson.Mission.RunRecords
import KernelJson.Mission.Verify

/-!
# Accepted missions complete

What a run that requests completion has written, and when the verifier accepts
it.  The verifier recomputes every value that the run computed; it differs only
in the summary, which the schema of outcomes trims after it was cut.
-/

namespace KernelJson.Mission.Completion

open Contracts.Common
open Contracts.Digest
open Contracts.Github
open Contracts.Objective
open Contracts.Outcome
open Contracts.Platform
open Contracts.Reports
open Contracts.Task
open Executor.Operations
open Foundation
open Foundation.JsText
open Mission.Evidence
open Mission.Reconcile
open Mission.Run
open Mission.RunRecords
open Mission.Verify
open Planner.Plan

/-! ## Faithful persistence -/

/-- A stored row of evidence: the same columns, with metadata whose fields may be reordered. -/
structure SameEvidence (written stored : Evidence) : Prop where
  columns : stored = { written with metadata := stored.metadata }
  metadata : stored.metadata.SameUpToKeyOrder written.metadata

/-- A stored step: the same columns, with an input and an output whose fields may be reordered. -/
structure SameStep (written stored : TaskStep) : Prop where
  columns : stored = { written with input := stored.input, output := stored.output }
  input : stored.input.SameUpToKeyOrder written.input
  output : stored.output.map Json.sortKeys = written.output.map Json.sortKeys

/-- The rows that stand for the written evidence, in any order. -/
def FaithfulRecords (written records : List Evidence) : Prop :=
  ∃ rows, List.Forall₂ SameEvidence written rows ∧ records.Perm rows

/-- Every step that was written stands as it was written last. -/
def FaithfulSteps (written steps : List TaskStep) : Prop :=
  ∀ id step, (written.reverse.find? fun step => step.id = id) = some step →
    ∃ row, (steps.find? fun step => step.id = id) = some row ∧ SameStep step row

theorem SameEvidence.refl (written : Evidence) : SameEvidence written written :=
  ⟨rfl, rfl⟩

/-- A store that changes nothing is faithful. -/
theorem FaithfulRecords.refl (written : List Evidence) : FaithfulRecords written written :=
  ⟨written, List.forall₂_same.mpr fun evidence _ => SameEvidence.refl evidence, List.Perm.refl _⟩

theorem FaithfulSteps.latest (written : List TaskStep) : FaithfulSteps written written.reverse :=
  fun _ step found => ⟨step, found, ⟨rfl, rfl, rfl⟩⟩

/-! ## The verifier reads the records back -/

section Reading

variable {platform : Platform}

/-- What a store makes of built evidence parses as itself. -/
theorem stored_shape {base : Base} {type : EvidenceType} {source digest : JsString} {metadata : Json}
    {written stored : Evidence} (trimmed : trim source = source)
    (built : base.evidence type source digest metadata = some written) (same : SameEvidence written stored) :
    ∃ kept : Json, kept.SameUpToKeyOrder metadata ∧ stored = base.record type source digest kept ∧
      stored.parse = some stored := by
  have shape := Base.evidence_inv trimmed built
  have kept : stored.metadata.SameUpToKeyOrder metadata := by
    have kept := same.metadata
    rwa [shape] at kept
  have columns : stored = base.record type source digest stored.metadata := by
    have columns := same.columns
    rwa [shape] at columns
  refine ⟨stored.metadata, kept, columns, ?_⟩
  have parsed := Base.evidence_stored trimmed kept built
  rwa [← columns] at parsed

theorem mapM_parse_self {records : List Evidence} (each : ∀ record ∈ records, record.parse = some record) :
    records.mapM Evidence.parse = some records := by
  induction records with
  | nil => rfl
  | cons record rest ih =>
      have here := each record List.mem_cons_self
      have later := ih fun other member => each other (List.mem_cons_of_mem _ member)
      simp [here, later]

/-- Evidence that is alone among the rows is found whatever their order. -/
theorem one_eq {records rows : List Evidence} {stepId : Id} {type : EvidenceType} {source : JsString}
    {found : Evidence} (label : String) (perm : records.Perm rows)
    (only : (rows.filter fun found => found.stepId = some stepId ∧ found.type = type ∧ found.source = source) =
      [found]) : one records stepId type source label = .ok found := by
  have filtered := perm.filter fun found => found.stepId = some stepId ∧ found.type = type ∧ found.source = source
  rw [only] at filtered
  rw [one, List.perm_singleton.mp filtered]

theorem textField_of_same {evidence : Evidence} {metadata : Json} {text : JsString} (name : String)
    (same : evidence.metadata.SameUpToKeyOrder metadata) (found : metadata.field? (js name) = some (.str text)) :
    textField evidence name = some text := by
  obtain ⟨other, here, kept⟩ := same.field _ found
  rw [textField, here, kept.str]
  rfl

/-- The facts are read back and found to match. -/
theorem readFactsEvidence_eq {task : Task} {objective : MissionObjective} {facts : GithubFacts}
    {evidence : Evidence} (parsed : parseMissionObjective task.objective = .ok objective)
    (admitted : platform.toLowerCase facts.repo.val = platform.toLowerCase objective.repo.val)
    (digest : evidence.digest = some (capabilityDigest platform (GithubFacts.codec.write facts)))
    (same : evidence.metadata.SameUpToKeyOrder
      (githubMetadata facts (capabilityDigest platform (GithubFacts.codec.write facts)))) :
    readFactsEvidence platform task evidence = .ok facts := by
  obtain ⟨stored, here, kept⟩ := same.field (js "facts") rfl
  have content := textField_of_same "content_sha256" same rfl
  have head := textField_of_same "head_sha" same rfl
  have reads : (evidence.metadata.field? (js "facts")).bind GithubFacts.codec.read = some facts := by
    rw [here, Option.bind_some, GithubFacts.codec.read_of_same kept]
  simp [readFactsEvidence, reads, orThrow, digest, content, head, parsed, admitted, Except.mapError]

theorem readText_eq {evidence : Evidence} {text : JsString} (found : textField evidence "text" = some text)
    (digest : evidence.digest = some (sha256Text platform text)) : readText platform evidence = .ok text := by
  simp only [readText, found]
  exact if_pos digest

theorem responseModel_eq {evidence : Evidence} {model : JsString}
    (found : textField evidence "response_model" = some model) : responseModel evidence = .ok model := by
  simp only [responseModel, found]

theorem provider_eq {evidence : Evidence} {name : JsString} (found : textField evidence "provider" = some name)
    (nonempty : name ≠ []) : provider evidence = .ok name := by
  simp only [provider, found]
  exact if_pos nonempty

/-- A step that was completed with an output stands so. -/
theorem storedStep {node : PlanStep} {output : Json} {step : TaskStep} {written steps : List TaskStep}
    (patched : patchedStep node .completed node.input.toJson (some output) = some step)
    (last : (written.reverse.find? fun step => step.id = node.id) = some step)
    (faithful : FaithfulSteps written steps) :
    ∃ planned row, projectStep node = some planned ∧ (steps.find? fun step => step.id = node.id) = some row ∧
      row.status = .completed ∧ row.kind = planned.kind ∧ (row.output.getD .null).SameUpToKeyOrder output := by
  obtain ⟨planned, projected, parsed⟩ := Option.bind_eq_some_iff.mp patched
  obtain ⟨requiredCapabilities, idempotencyKey, shape⟩ := TaskStep.parse_shape parsed
  obtain ⟨row, found, same⟩ := faithful node.id step last
  have columns := same.columns
  have status : row.status = .completed := by rw [columns, shape]
  have kind : row.kind = planned.kind := by rw [columns, shape]
  have outputs : (row.output.getD .null).SameUpToKeyOrder output := by
    have kept := same.output
    rw [shape, Option.map_some, Option.map_eq_some_iff] at kept
    obtain ⟨other, here, kept⟩ := kept
    rw [here]
    exact kept
  exact ⟨planned, row, projected, found, status, kind, outputs⟩

/-- A step that was completed with an output passes its check. -/
theorem checkStep_eq {node : PlanStep} {output : Json} {step : TaskStep} {written steps : List TaskStep}
    (patched : patchedStep node .completed node.input.toJson (some output) = some step)
    (last : (written.reverse.find? fun step => step.id = node.id) = some step)
    (faithful : FaithfulSteps written steps) : checkStep platform steps node output = .ok () := by
  obtain ⟨planned, row, projected, found, status, kind, outputs⟩ := storedStep patched last faithful
  simp [checkStep, projected, orThrow, found, status, kind, capabilityDigest_of_same platform outputs]

/-- A task with the mission's single criterion, as it stands when its completion is verified. -/
structure Verifying (task held : Task) : Prop where
  id : held.id = task.id
  objective : held.objective = task.objective
  acceptanceCriteria : held.acceptanceCriteria = task.acceptanceCriteria
  status : held.status = .verifying

/-- The candidate says what the workflow computed, trimmed. -/
theorem candidate_shape {task : Task} {criterion summary : JsString} {ids : List Id} {at_ : Timestamp}
    {candidate : Outcome} (criteria : task.acceptanceCriteria = [criterion])
    (trimmed : parseText criterion = some criterion)
    (built : (completedOutcome task ids summary at_).parse = some candidate) :
    candidate = { taskId := task.id, status := .completed, acceptanceResults := [⟨criterion, true, ids⟩],
                  evidenceRefs := ids, summary := trim summary, completedAt := at_ } := by
  obtain ⟨results, parsed, shape, -, -⟩ := Outcome.parse_cases built
  have same : results = [⟨criterion, true, ids⟩] := by
    have read : (AcceptanceResult.mk criterion true ids).parse = some ⟨criterion, true, ids⟩ := by
      simp only [AcceptanceResult.parse, trimmed, Option.bind_eq_bind, Option.bind_some]
    simpa [completedOutcome, criteria, read] using parsed.symm
  rw [shape, same]
  rfl

/-- A candidate that cites evidence of its task completes it. -/
theorem candidate_completes {task held : Task} {criterion summary : JsString} {at_ : Timestamp}
    {candidate : Outcome} {verified : List Evidence}
    (criteria : task.acceptanceCriteria = [criterion]) (trimmed : parseText criterion = some criterion)
    (verifying : Verifying task held) (ofTask : ∀ evidence ∈ verified, evidence.taskId = task.id)
    (built : (completedOutcome task (verified.map Evidence.id) summary at_).parse = some candidate) :
    candidate.summary = trim summary ∧ candidate.evidenceRefs = verified.map Evidence.id ∧
      CompletesFrom held candidate verified := by
  have shape := candidate_shape criteria trimmed built
  have summary : candidate.summary = trim summary := by rw [shape]
  have refs : candidate.evidenceRefs = verified.map Evidence.id := by rw [shape]
  have completes : CompletesFrom held candidate verified := by
    refine ⟨?_, ?_, ?_, ?_, ?_, ?_, ?_⟩
    · rw [Outcome.parse_again built]
      rfl
    · rw [verifying.status]
      decide
    · rw [shape, verifying.id]
    · rw [shape]
    · rw [shape, verifying.acceptanceCriteria, criteria]
      rfl
    · intro found member
      rw [verifying.acceptanceCriteria, criteria, List.mem_singleton] at member
      simp [shape, member]
    · intro id member
      rw [refs] at member
      obtain ⟨evidence, inside, rfl⟩ := List.mem_map.mp member
      exact ⟨evidence, inside, rfl, (ofTask evidence inside).trans verifying.id.symm⟩
  exact ⟨summary, refs, completes⟩

/-- The outcome passes its check unless its summary was cut after white space. -/
theorem checkOutcome_iff {task held : Task} {criterion analysisText : JsString} {parsed : MissionAnalysis}
    {at_ : Timestamp} {candidate : Outcome} {verified : List Evidence}
    (criteria : task.acceptanceCriteria = [criterion]) (trimmed : parseText criterion = some criterion)
    (verifying : Verifying task held) (parses : parseAnalysis platform analysisText = some parsed)
    (ofTask : ∀ evidence ∈ verified, evidence.taskId = task.id)
    (built : (completedOutcome task (verified.map Evidence.id) (missionSummary parsed) at_).parse =
      some candidate) :
    checkOutcome platform held candidate analysisText verified = .ok () ↔ ¬ EndsInSpace parsed := by
  obtain ⟨summary, refs, completes⟩ := candidate_completes criteria trimmed verifying ofTask built
  rw [← trim_missionSummary_iff]
  by_cases kept : trim (missionSummary parsed) = missionSummary parsed
  · refine iff_of_true ?_ kept
    simp [checkOutcome, parses, summary, kept, refs, completes]
  · refine iff_of_false ?_ kept
    simp [checkOutcome, parses, summary, kept, require, fail]
    exact fun impossible => by cases impossible

theorem sources_distinct :
    Sources.github ≠ Sources.runtime .analyst ∧ Sources.github ≠ Sources.runtime .reviewer ∧
      Sources.github ≠ Sources.reconcile ∧ Sources.runtime .analyst ≠ Sources.runtime .reviewer ∧
      Sources.runtime .analyst ≠ Sources.reconcile ∧ Sources.runtime .reviewer ≠ Sources.reconcile := by
  decide +kernel

end Reading

/-! ## Acceptance -/

section Acceptance

variable {platform : Platform} {task held : Task} {nodes : MissionNodes} {run : CompletedRun}

/-- The last write of each step of a run. -/
structure LastSteps (nodes : MissionNodes) (run : CompletedRun) (written : List TaskStep) : Prop where
  github : (written.reverse.find? fun step => step.id = nodes.github.id) = some run.githubStep
  analyst : (written.reverse.find? fun step => step.id = nodes.analyst.id) = some run.analystStep
  reviewer : (written.reverse.find? fun step => step.id = nodes.reviewer.id) = some run.reviewerStep
  reconcile : (written.reverse.find? fun step => step.id = nodes.reconcile.id) = some run.reconcileStep

/-- The stored rows of a run, under the columns that the workflow wrote. -/
structure StoredRows (platform : Platform) (task : Task) (nodes : MissionNodes) (run : CompletedRun)
    (records : List Evidence) where
  github : Json
  analyst : Json
  reviewer : Json
  reconcile : Json
  sameGithub : github.SameUpToKeyOrder (githubMetadata run.facts (run.factsDigest platform))
  sameAnalyst : analyst.SameUpToKeyOrder (runtimeMetadata .analyst run.analysis.text run.analysis.receipt
    (run.factsDigest platform) run.analystExtras)
  sameReviewer : reviewer.SameUpToKeyOrder (runtimeMetadata .reviewer run.review.text run.review.receipt
    (sha256Text platform run.analysis.text) run.reviewerExtras)
  sameReconcile : reconcile.SameUpToKeyOrder (MissionReconciliation.codec.write run.record)

namespace StoredRows

variable {records : List Evidence} (rows : StoredRows platform task nodes run records)

def githubRow : Evidence :=
  run.githubBase.record .toolReceipt Sources.github (run.factsDigest platform) rows.github

def analystRow : Evidence :=
  run.analystBase.record .artifact (Sources.runtime .analyst) (sha256Text platform run.analysis.text) rows.analyst

def reviewerRow : Evidence :=
  run.reviewerBase.record .artifact (Sources.runtime .reviewer) (sha256Text platform run.review.text) rows.reviewer

def reconcileRow : Evidence :=
  run.reconcileBase.record .deterministicResult Sources.reconcile
    (capabilityDigest platform (MissionReconciliation.codec.write run.record)) rows.reconcile

def all : List Evidence :=
  [rows.githubRow, rows.analystRow, rows.reviewerRow, rows.reconcileRow]

end StoredRows

/-- What faithful rows look like, and that each of them parses as itself. -/
theorem storedRows_of_faithful (recorded : run.Recorded platform task nodes) {records : List Evidence}
    (faithful : FaithfulRecords run.evidence records) :
    ∃ rows : StoredRows platform task nodes run records, records.Perm rows.all ∧
      ∀ record ∈ records, record.parse = some record := by
  obtain ⟨rows, same, perm⟩ := faithful
  simp only [CompletedRun.evidence, List.forall₂_cons_left_iff, List.forall₂_nil_left_iff] at same
  obtain ⟨first, -, sameFirst, ⟨second, -, sameSecond, ⟨third, -, sameThird, ⟨fourth, -, sameFourth, rfl, rfl⟩,
    rfl⟩, rfl⟩, rfl⟩ := same
  obtain ⟨github, keptGithub, rfl, parsedGithub⟩ :=
    stored_shape trim_source_github recorded.github sameFirst
  obtain ⟨analyst, keptAnalyst, rfl, parsedAnalyst⟩ :=
    stored_shape (trim_source_runtime .analyst) recorded.analyst sameSecond
  obtain ⟨reviewer, keptReviewer, rfl, parsedReviewer⟩ :=
    stored_shape (trim_source_runtime .reviewer) recorded.reviewer sameThird
  obtain ⟨reconcile, keptReconcile, rfl, parsedReconcile⟩ :=
    stored_shape trim_source_reconcile recorded.reconcile sameFourth
  refine ⟨⟨github, analyst, reviewer, reconcile, keptGithub, keptAnalyst, keptReviewer, keptReconcile⟩,
    perm, ?_⟩
  intro record member
  have inside := perm.mem_iff.mp member
  simp only [List.mem_cons, List.not_mem_nil, or_false] at inside
  rcases inside with rfl | rfl | rfl | rfl
  · exact parsedGithub
  · exact parsedAnalyst
  · exact parsedReviewer
  · exact parsedReconcile

/-- Each row is the only one of its step, type and source. -/
theorem rows_found (recorded : run.Recorded platform task nodes) {records : List Evidence}
    (rows : StoredRows platform task nodes run records) (perm : records.Perm rows.all) :
    (∀ label, one records nodes.github.id .toolReceipt Sources.github label = .ok rows.githubRow) ∧
      (∀ label, one records nodes.analyst.id .artifact (Sources.runtime .analyst) label = .ok rows.analystRow) ∧
      (∀ label, one records nodes.reviewer.id .artifact (Sources.runtime .reviewer) label =
        .ok rows.reviewerRow) ∧
      ∀ label, one records nodes.reconcile.id .deterministicResult Sources.reconcile label =
        .ok rows.reconcileRow := by
  obtain ⟨githubAnalyst, githubReviewer, githubReconcile, analystReviewer, analystReconcile, reviewerReconcile⟩ :=
    sources_distinct
  have based := recorded.based
  refine ⟨fun label => one_eq label perm ?_, fun label => one_eq label perm ?_,
    fun label => one_eq label perm ?_, fun label => one_eq label perm ?_⟩
  · simp [StoredRows.all, StoredRows.githubRow, StoredRows.analystRow, StoredRows.reviewerRow,
      StoredRows.reconcileRow, Base.record, based.github.2]
  · simp [StoredRows.all, StoredRows.githubRow, StoredRows.analystRow, StoredRows.reviewerRow,
      StoredRows.reconcileRow, Base.record, based.analyst.2, analystReviewer.symm]
  · simp [StoredRows.all, StoredRows.githubRow, StoredRows.analystRow, StoredRows.reviewerRow,
      StoredRows.reconcileRow, Base.record, based.reviewer.2, analystReviewer]
  · simp [StoredRows.all, StoredRows.githubRow, StoredRows.analystRow, StoredRows.reviewerRow,
      StoredRows.reconcileRow, Base.record, based.reconcile.2]

/-- The verifier computes the judgement of the run again, and finds it persisted. -/
theorem readJudgement_eq (recorded : run.Recorded platform task nodes) (verifying : Verifying task held)
    {records : List Evidence} (rows : StoredRows platform task nodes run records) :
    readJudgement platform held run.facts run.analysis.text run.review.text rows.analystRow rows.reviewerRow
      rows.reconcileRow = .ok run.record := by
  have analystModel : responseModel rows.analystRow = .ok run.analysis.receipt.responseModel :=
    responseModel_eq (textField_of_same "response_model" rows.sameAnalyst rfl)
  have reviewerModel : responseModel rows.reviewerRow = .ok run.review.receipt.responseModel :=
    responseModel_eq (textField_of_same "response_model" rows.sameReviewer rfl)
  obtain ⟨analystNamed, reviewerNamed⟩ := providers_of_reconciled platform recorded.judged
  have analystProvider : provider rows.analystRow = .ok run.analysis.receipt.provider :=
    provider_eq (textField_of_same "provider" rows.sameAnalyst rfl) analystNamed
  have reviewerProvider : provider rows.reviewerRow = .ok run.review.receipt.provider :=
    provider_eq (textField_of_same "provider" rows.sameReviewer rfl) reviewerNamed
  have objective : parseMissionObjective held.objective = .ok run.objective := by
    rw [verifying.objective, recorded.objective]
  have judged := recorded.judged
  have persisted : MissionReconciliation.codec.read rows.reconcileRow.metadata = some run.record :=
    MissionReconciliation.codec.read_of_same rows.sameReconcile
  have digest : rows.reconcileRow.digest =
      some (capabilityDigest platform (MissionReconciliation.codec.write run.record)) := rfl
  unfold reconcileInput at judged
  simp only [readJudgement, objective, Except.mapError, ok_bind, analystModel, analystProvider, reviewerModel,
    reviewerProvider, judged, orThrow, persisted, digest]
  rw [require_true (And.intro trivial trivial), require_true recorded.accepted]
  rfl

/-- The verifier accepts what a run wrote unless the summary was cut after white space. -/
theorem verified_iff {plan : ExecutionPlan} {criterion : JsString} {written steps : List TaskStep}
    {records : List Evidence} (recorded : run.Recorded platform task nodes) (recipe : plan.recipe = .mission)
    (ordered : orderedSteps plan = some [nodes.github, nodes.analyst, nodes.reviewer, nodes.reconcile])
    (criteria : task.acceptanceCriteria = [criterion]) (trimmed : parseText criterion = some criterion)
    (verifying : Verifying task held)
    (admitted : platform.toLowerCase run.facts.repo.val = platform.toLowerCase run.objective.repo.val)
    (last : LastSteps nodes run written) (faithfulSteps : FaithfulSteps written steps)
    (faithfulRecords : FaithfulRecords run.evidence records) :
    verifyMissionCompletion platform held run.candidate plan steps records = .ok () ↔
      ¬ EndsInSpace run.parsed := by
  obtain ⟨rows, perm, parsed⟩ := storedRows_of_faithful recorded faithfulRecords
  obtain ⟨foundGithub, foundAnalyst, foundReviewer, foundReconcile⟩ := rows_found recorded rows perm
  have objective : parseMissionObjective held.objective = .ok run.objective := by
    rw [verifying.objective, recorded.objective]
  have facts : readFactsEvidence platform held rows.githubRow = .ok run.facts :=
    readFactsEvidence_eq objective admitted rfl rows.sameGithub
  have analysisText : readText platform rows.analystRow = .ok run.analysis.text :=
    readText_eq (textField_of_same "text" rows.sameAnalyst rfl) rfl
  have reviewText : readText platform rows.reviewerRow = .ok run.review.text :=
    readText_eq (textField_of_same "text" rows.sameReviewer rfl) rfl
  have analystBound : textField rows.analystRow "role" = some (js "analyst") ∧
      textField rows.analystRow "subject_digest" =
        some (capabilityDigest platform (GithubFacts.codec.write run.facts)) :=
    ⟨textField_of_same "role" rows.sameAnalyst rfl, textField_of_same "subject_digest" rows.sameAnalyst rfl⟩
  have reviewerBound : textField rows.reviewerRow "role" = some (js "reviewer") ∧
      textField rows.reviewerRow "subject_digest" = rows.analystRow.digest :=
    ⟨textField_of_same "role" rows.sameReviewer rfl, textField_of_same "subject_digest" rows.sameReviewer rfl⟩
  have judgement := readJudgement_eq recorded verifying rows
  have githubChecked : checkStep platform steps nodes.github (StepOutputs.github run.facts (run.factsDigest platform)) =
      .ok () := checkStep_eq recorded.githubStep last.github faithfulSteps
  have analystChecked : checkStep platform steps nodes.analyst (StepOutputs.runtime (sha256Text platform run.analysis.text)) =
      .ok () := checkStep_eq recorded.analystStep last.analyst faithfulSteps
  have reviewerChecked : checkStep platform steps nodes.reviewer (StepOutputs.runtime (sha256Text platform run.review.text)) =
      .ok () := checkStep_eq recorded.reviewerStep last.reviewer faithfulSteps
  have reconcileChecked : checkStep platform steps nodes.reconcile (StepOutputs.reconcile run.record) =
      .ok () := checkStep_eq recorded.reconcileStep last.reconcile faithfulSteps
  have checked : verifyMissionCompletion platform held run.candidate plan steps records =
      checkOutcome platform held run.candidate run.analysis.text rows.all := by
    simp only [verifyMissionCompletion, ordered, orThrow, mapM_parse_self parsed, foundGithub, foundAnalyst,
      foundReviewer, foundReconcile, facts, analysisText, reviewText, ok_bind, judgement]
    rw [require_true recipe, require_true analystBound, require_true reviewerBound]
    have analystDigest : rows.analystRow.digest.getD [] = sha256Text platform run.analysis.text := rfl
    have reviewerDigest : rows.reviewerRow.digest.getD [] = sha256Text platform run.review.text := rfl
    unfold CompletedRun.factsDigest at githubChecked
    simp only [ok_bind, githubChecked, analystDigest, analystChecked, reviewerDigest, reviewerChecked,
      reconcileChecked]
    rfl
  rw [checked]
  have based := recorded.based
  refine checkOutcome_iff criteria trimmed verifying recorded.parsed ?_ recorded.candidate
  intro evidence member
  simp only [StoredRows.all, List.mem_cons, List.not_mem_nil, or_false] at member
  rcases member with rfl | rfl | rfl | rfl
  · exact based.github.1
  · exact based.analyst.1
  · exact based.reviewer.1
  · exact based.reconcile.1

end Acceptance

/-! ## Every run -/

/-- The analyst's summary is cut after white space. -/
def CutAfterSpace (platform : Platform) (journal : Journal) : Prop :=
  ∃ text receipt analysis, .analysed (.succeeded text receipt) ∈ observed journal ∧
    parseAnalysis platform text = some analysis ∧ EndsInSpace analysis

/-- The captured facts are about the repository that the objective names. -/
def OfRepository (platform : Platform) (task : Task) (journal : Journal) : Prop :=
  ∀ answer facts objective, .read answer ∈ observed journal → readFacts platform answer = .ok facts →
    parseMissionObjective task.objective = .ok objective →
    platform.toLowerCase facts.repo.val = platform.toLowerCase objective.repo.val

theorem patchedStep_id {node : PlanStep} {status : TaskStatus} {input : Json} {output : Option Json}
    {step : TaskStep} (patched : patchedStep node status input output = some step) : step.id = node.id := by
  obtain ⟨planned, projected, parsed⟩ := Option.bind_eq_some_iff.mp patched
  obtain ⟨_, _, shape⟩ := TaskStep.parse_shape parsed
  obtain ⟨_, _, base⟩ := TaskStep.parse_shape projected
  rw [shape, base]

theorem trimmed_criterion :
    parseText (Planner.Plan.criteria .mission) = some (Planner.Plan.criteria .mission) := by
  rw [Planner.Plan.criteria, js_ofList]
  decide +kernel

/-- The nodes of a planned mission, with distinct identifiers. -/
theorem missionNodes_of_planTask {platform : Platform} {task : Task} {plan : ExecutionPlan}
    (planned : planTask platform task .mission = some plan) :
    ∃ nodes : MissionNodes,
      orderedSteps plan = some [nodes.github, nodes.analyst, nodes.reviewer, nodes.reconcile] ∧
      [nodes.github.id, nodes.analyst.id, nodes.reviewer.id, nodes.reconcile.id].Nodup := by
  obtain ⟨parsed, -, -, -, -, steps⟩ := planTask_cases planned
  have ordered := orderedSteps_planTask planned
  have distinct := plan.wellFormed.distinct
  rw [steps] at ordered distinct
  exact ⟨⟨planStep platform parsed.id .mission 0 .githubEvidence,
    planStep platform parsed.id .mission 1 .runtimeAnalyse, planStep platform parsed.id .mission 2 .runtimeReview,
    planStep platform parsed.id .mission 3 .reconcile⟩, ordered, distinct⟩

/-- The last write of each step completes it. -/
theorem lastSteps_of_observations {platform : Platform} {task : Task} {nodes : MissionNodes} {run : CompletedRun}
    {journal : Journal} {answer : Except (Option JsString) (Json × JsString)}
    {githubStart analystStart reviewerStart reconcileStart : TaskStep}
    (recorded : run.Recorded platform task nodes)
    (distinct : [nodes.github.id, nodes.analyst.id, nodes.reviewer.id, nodes.reconcile.id].Nodup)
    (starts : Starts nodes githubStart analystStart reviewerStart reconcileStart)
    (seen : observed journal =
      run.observations nodes answer githubStart analystStart reviewerStart reconcileStart) :
    LastSteps nodes run (writtenSteps journal) := by
  have written : writtenSteps journal = [githubStart, run.githubStep, analystStart, run.analystStep, reviewerStart,
      run.reviewerStep, reconcileStart, run.reconcileStep] := by
    rw [writtenSteps, seen]
    rfl
  simp only [List.nodup_cons, List.mem_cons, List.not_mem_nil, or_false, not_or] at distinct
  obtain ⟨⟨githubAnalyst, githubReviewer, githubReconcile⟩, ⟨analystReviewer, analystReconcile⟩,
    reviewerReconcile, -⟩ := distinct
  have github := patchedStep_id recorded.githubStep
  have analyst := patchedStep_id recorded.analystStep
  have reviewer := patchedStep_id recorded.reviewerStep
  have reconcile := patchedStep_id recorded.reconcileStep
  have analystStarted := patchedStep_id starts.analyst
  have reviewerStarted := patchedStep_id starts.reviewer
  have reconcileStarted := patchedStep_id starts.reconcile
  refine ⟨?_, ?_, ?_, ?_⟩
  · simp [written, github, analyst, reviewer, reconcile, analystStarted, reviewerStarted, reconcileStarted,
      Ne.symm githubAnalyst, Ne.symm githubReviewer, Ne.symm githubReconcile]
  · simp [written, analyst, reviewer, reconcile, reviewerStarted, reconcileStarted, Ne.symm analystReviewer,
      Ne.symm analystReconcile]
  · simp [written, reviewer, reconcile, reconcileStarted, Ne.symm reviewerReconcile]
  · simp [written, reconcile]

/-- What the verifier says of a run that requests completion: there is one analysis, and it decides. -/
theorem verified_of_requests {platform : Platform} {submitted held : Task} {deps : MissionDeps}
    {journal : Journal} {candidate : Outcome} {steps : List TaskStep} {records : List Evidence}
    (admitted : submitted.parse = some deps.task)
    (planned : planTask platform deps.task .mission = some deps.plan)
    (requests : Requests (runRepoAnalysisMission platform deps) journal (completionEmission candidate))
    (ofRepository : OfRepository platform deps.task journal) (verifying : Verifying deps.task held)
    (faithfulSteps : FaithfulSteps (writtenSteps journal) steps)
    (faithfulRecords : FaithfulRecords (writtenEvidence journal) records) :
    ∃ report analysis,
      (∀ text receipt, .analysed (.succeeded text receipt) ∈ observed journal ↔ RuntimeReport.mk text receipt = report) ∧
      parseAnalysis platform report.text = some analysis ∧
      (verifyMissionCompletion platform held candidate deps.plan steps records = .ok () ↔
        ¬ EndsInSpace analysis) := by
  obtain ⟨nodes, ordered, distinct⟩ := missionNodes_of_planTask planned
  obtain ⟨run, answer, githubStart, analystStart, reviewerStart, reconcileStart, recorded, same, factsRead, seen,
    starts⟩ := Requests.completedRun ordered requests
  obtain ⟨parsed, admittedAgain, criteria, -, recipe, -⟩ := planTask_cases planned
  cases (Task.parse_again admitted).symm.trans admittedAgain
  have candidates : candidate = run.candidate := by
    have outcomes := congrArg Emission.outcome same
    exact Option.some.inj outcomes
  have evidence : writtenEvidence journal = run.evidence := by
    rw [writtenEvidence, seen]
    rfl
  have reads : Observed.read answer ∈ observed journal := by
    rw [seen]
    simp only [CompletedRun.observations, List.mem_cons, true_or, or_true]
  refine ⟨run.analysis, run.parsed, fun text receipt => ?_, recorded.parsed, ?_⟩
  · have one : .analysed (.succeeded text receipt) ∈ observed journal ↔
        text = run.analysis.text ∧ receipt = run.analysis.receipt := by
      rw [seen]
      simp [CompletedRun.observations]
    rw [one]
    constructor
    · rintro ⟨rfl, rfl⟩
      rfl
    · intro same
      rw [← same]
      exact ⟨rfl, rfl⟩
  · rw [candidates]
    exact verified_iff recorded recipe ordered criteria trimmed_criterion verifying
      (ofRepository answer run.facts run.objective reads factsRead recorded.objective)
      (lastSteps_of_observations recorded distinct starts seen) faithfulSteps (evidence ▸ faithfulRecords)

/-- A mission that requests completion is verified unless its summary was cut after white space. -/
theorem accepted_mission_verified_iff {platform : Platform} {submitted held : Task} {deps : MissionDeps}
    {journal : Journal} {candidate : Outcome} {steps : List TaskStep} {records : List Evidence}
    (admitted : submitted.parse = some deps.task)
    (planned : planTask platform deps.task .mission = some deps.plan)
    (requests : Requests (runRepoAnalysisMission platform deps) journal (completionEmission candidate))
    (ofRepository : OfRepository platform deps.task journal) (verifying : Verifying deps.task held)
    (faithfulSteps : FaithfulSteps (writtenSteps journal) steps)
    (faithfulRecords : FaithfulRecords (writtenEvidence journal) records) :
    verifyMissionCompletion platform held candidate deps.plan steps records = .ok () ↔
      ¬ CutAfterSpace platform journal := by
  obtain ⟨report, analysis, only, parses, verified⟩ :=
    verified_of_requests admitted planned requests ofRepository verifying faithfulSteps faithfulRecords
  have cut : CutAfterSpace platform journal ↔ EndsInSpace analysis := by
    constructor
    · rintro ⟨text, receipt, other, analysed, otherParses, ends⟩
      rw [← (only text receipt).mp analysed] at parses
      exact Option.some.inj (otherParses.symm.trans parses) ▸ ends
    · intro ends
      exact ⟨report.text, report.receipt, analysis, (only _ _).mpr rfl, parses, ends⟩
  rw [verified, cut]

/-! ## A mission whose facts are a single file -/

/-- A platform whose hash is the sum of a text's units, as one digit. -/
def samplePlatform : Platform :=
  { Platform.ascii with sha256 := fun text => .ofDigits [(text.map UInt16.toNat).sum] }

def sampleTask : Task where
  id := ⟨js "5a000000-0000-4000-8000-000000000001", by decide +kernel⟩
  parentTaskId := none
  principal := ⟨⟨js "5a000000-0000-4000-8000-000000000002", by decide +kernel⟩, .human⟩
  tenant := ⟨⟨js "5a000000-0000-4000-8000-000000000003", by decide +kernel⟩⟩
  objective := js "acme/rockets"
  acceptanceCriteria := [Planner.Plan.criteria .mission]
  constraints := []
  riskClass := .low
  budget := none
  deadline := none
  status := .received
  traceId := ⟨js "5a000000-0000-4000-8000-000000000004", by decide +kernel⟩
  createdAt := .epoch
  startedAt := none
  completedAt := none

def sampleSha : Sha40 := ⟨List.replicate 40 48, by decide +kernel⟩

def sampleFacts : GithubFacts where
  repo := ⟨js "acme/rockets", by decide +kernel⟩
  isPrivate := false
  defaultBranch := ⟨js "main", by decide +kernel⟩
  headSha := sampleSha
  headCommitDate := ⟨js "2026-01-01T00:00:00Z", by decide +kernel⟩
  headCommitMessage := ⟨[], by decide +kernel⟩
  language := none
  sizeKb := ⟨1, by decide⟩
  pushedAt := none
  openIssues := ⟨0, by decide⟩
  tree := ⟨[⟨⟨js "a", by decide +kernel⟩, .blob, sampleSha⟩], by decide⟩
  treeTruncated := false
  readme := none

/-- The analyst's text, with the given summary. -/
def sampleAnalysis (summary : JsString) : JsString :=
  js "\x7b\"headSha\":\"" ++ sampleSha.val ++ js "\",\"summary\":\"" ++ summary ++
    js "\",\"findings\":[\x7b\"title\":\"Title\",\"detail\":\"Some detail\",\"evidence\":[\x7b\"path\":\"a\",\"blobSha\":\"" ++
    sampleSha.val ++ js "\"\x7d]\x7d]\x7d"

/-- The reviewer's text, which approves the analysis. -/
def sampleReview (summary : JsString) : JsString :=
  js "\x7b\"reviewedAnalysisSha256\":\"" ++ sha256Text samplePlatform (sampleAnalysis summary) ++
    js "\",\"verdict\":\"approve\",\"unsupportedFindings\":[],\"notes\":[]\x7d"

def sampleReceipt (provider model : String) : SuccessReceipt where
  callId := sampleTask.traceId
  provider := js provider
  model := js model
  requestDigest := []
  providerRequestId := js "r"
  responseModel := js model
  usage := ⟨1, 1, 2⟩
  outputDigest := []

def sampleGithubId : Id := ⟨js "5b000000-0000-4000-8000-000000000001", by decide +kernel⟩

def sampleAnalystId : Id := ⟨js "5b000000-0000-4000-8000-000000000002", by decide +kernel⟩

def sampleReviewerId : Id := ⟨js "5b000000-0000-4000-8000-000000000003", by decide +kernel⟩

def sampleReconcileId : Id := ⟨js "5b000000-0000-4000-8000-000000000004", by decide +kernel⟩

/-- The four pieces of evidence are named at positions 2, 8, 14 and 18 of the run. -/
def sampleId (position : Nat) : Id :=
  if position ≤ 2 then sampleGithubId
  else if position ≤ 8 then sampleAnalystId
  else if position ≤ 14 then sampleReviewerId
  else sampleReconcileId

def sampleAnswers (summary : JsString) : Answers
  | _, .emit emission => if emission.status = .completed then none else some none
  | _, .now => some .epoch
  | position, .uuid => some (sampleId position)
  | _, .githubRead _ =>
      some (.ok (GithubFacts.codec.write sampleFacts,
        capabilityDigest samplePlatform (GithubFacts.codec.write sampleFacts)))
  | _, .buildRequest _ => some (.ok ⟨.null, .null⟩)
  | _, .callModel .analyst => some (.succeeded (sampleAnalysis summary) (sampleReceipt "anthropic" "anthropic/a"))
  | _, .callModel .reviewer => some (.succeeded (sampleReview summary) (sampleReceipt "x-ai" "x-ai/b"))
  | _, _ => none

/-- A summary of one letter, repeated. -/
def shortSummary : JsString := List.replicate 20 97

/-- A summary whose 490th unit is a space. -/
def longSummary : JsString := List.replicate 489 97 ++ [32, 97]

/-- The steps that planning computes for the sample task. -/
def sampleSteps : List PlanStep :=
  let github : Id := ⟨js "e0000000-0000-8000-a000-000000000000", by decide +kernel⟩
  let analyst : Id := ⟨js "f0000000-0000-8000-a000-000000000000", by decide +kernel⟩
  let reviewer : Id := ⟨js "00000000-0000-8000-a000-000000000000", by decide +kernel⟩
  let reconcile : Id := ⟨js "10000000-0000-8000-a000-000000000000", by decide +kernel⟩
  [⟨github, sampleTask.id, .githubEvidence, [], .taskObjective⟩,
    ⟨analyst, sampleTask.id, .runtimeAnalyse, [github], .stepOutput github⟩,
    ⟨reviewer, sampleTask.id, .runtimeReview, [analyst], .stepOutput analyst⟩,
    ⟨reconcile, sampleTask.id, .reconcile, [reviewer], .stepOutput reviewer⟩]

def samplePlan : ExecutionPlan where
  taskId := sampleTask.id
  recipe := .mission
  steps := sampleSteps
  resultStepId := ⟨js "10000000-0000-8000-a000-000000000000", by decide +kernel⟩
  wellFormed := by decide +kernel

def sampleDeps : MissionDeps := ⟨sampleTask, samplePlan, false, false, false⟩

def samplePursuit (summary : JsString) : Journal × KernelProg Ended :=
  pursue (sampleAnswers summary) 0 (runRepoAnalysisMission samplePlatform sampleDeps)

def sampleJournal (summary : JsString) : Journal := (samplePursuit summary).1

def sampleHeld : Task := { sampleTask with status := .verifying, startedAt := some .epoch }

theorem sample_admitted : sampleTask.parse = some sampleTask := by
  decide +kernel

theorem sample_planned : planTask samplePlatform sampleTask .mission = some samplePlan :=
  planTask_eq sample_admitted (by decide +kernel) (by decide +kernel) (by decide +kernel) samplePlan.wellFormed

theorem sample_verifying : Verifying sampleTask sampleHeld :=
  ⟨rfl, rfl, rfl, rfl⟩

def sampleNodes : MissionNodes where
  github := sampleSteps.getD 0 ⟨sampleGithubId, sampleTask.id, .reconcile, [], .taskObjective⟩
  analyst := sampleSteps.getD 1 ⟨sampleGithubId, sampleTask.id, .reconcile, [], .taskObjective⟩
  reviewer := sampleSteps.getD 2 ⟨sampleGithubId, sampleTask.id, .reconcile, [], .taskObjective⟩
  reconcile := sampleSteps.getD 3 ⟨sampleGithubId, sampleTask.id, .reconcile, [], .taskObjective⟩

def sampleObjective : MissionObjective where
  repo := sampleFacts.repo
  question := defaultMissionQuestion
  contract := .ofDirectives none none

def sampleInput (summary : JsString) : ReconcileInput :=
  reconcileInput sampleFacts sampleObjective.contract
    ⟨sampleAnalysis summary, sampleReceipt "anthropic" "anthropic/a"⟩
    ⟨sampleReview summary, sampleReceipt "x-ai" "x-ai/b"⟩

theorem sample_objective : parseMissionObjective sampleTask.objective = .ok sampleObjective := by
  rfl

/-- A step of the sample is patched whatever its output. -/
theorem sample_patched {node : PlanStep} (member : node ∈ sampleSteps) (status : TaskStatus)
    (output : Option Json) : ∃ step, patchedStep node status node.input.toJson output = some step := by
  simp only [sampleSteps, List.mem_cons, List.not_mem_nil, or_false] at member
  apply Option.isSome_iff_exists.mp
  rcases member with rfl | rfl | rfl | rfl
  · rfl
  · rfl
  · rfl
  · rfl

theorem sample_ordered : (orderedSteps samplePlan).bind MissionNodes.of = some sampleNodes := by
  rw [orderedSteps_planTask sample_planned]
  rfl

def sampleReports (summary : JsString) : RuntimeRole → RuntimeReport
  | .analyst => ⟨sampleAnalysis summary, sampleReceipt "anthropic" "anthropic/a"⟩
  | .reviewer => ⟨sampleReview summary, sampleReceipt "x-ai" "x-ai/b"⟩

theorem sample_cooperates (summary : JsString) :
    Cooperates samplePlatform (sampleAnswers summary) sampleFacts (sampleReports summary) where
  emit := fun position emission open_ => ⟨none, if_neg open_⟩
  completion := fun _ _ => rfl
  now := fun _ => ⟨_, rfl⟩
  uuid := fun _ => ⟨_, rfl⟩
  read := fun _ _ => rfl
  build := fun _ _ => ⟨_, rfl⟩
  report := fun _ role => by cases role <;> rfl

/-- The sample requests completion whenever its texts are accepted. -/
theorem sample_pursues {summary : JsString}
    (accepted : (reconcileMission samplePlatform (sampleInput summary)).map MissionReconciliation.decision =
      some .accepted) :
    Pursues (sampleAnswers summary) 0 (runRepoAnalysisMission samplePlatform sampleDeps) := by
  obtain ⟨record, judged, decision⟩ := Option.map_eq_some_iff.mp accepted
  have patchable : ∀ node ∈ sampleSteps, Patchable node := fun node member => sample_patched member
  exact (sample_cooperates summary).pursues ⟨rfl, rfl, rfl⟩ sample_objective sample_ordered
    ⟨patchable _ (by simp [sampleNodes, sampleSteps]), patchable _ (by simp [sampleNodes, sampleSteps]),
      patchable _ (by simp [sampleNodes, sampleSteps]), patchable _ (by simp [sampleNodes, sampleSteps])⟩
    rfl trimmed_criterion judged decision

theorem sample_ofRepository (summary : JsString) :
    OfRepository samplePlatform sampleTask (sampleJournal summary) := by
  intro answer facts objective member factsRead objectiveRead
  obtain ⟨repo, inside⟩ := mem_of_read member
  obtain ⟨position, given⟩ := answered_of_mem inside
  have repository : (parseMissionObjective sampleTask.objective).toOption.map (fun found => found.repo.val) =
      some (js "acme/rockets") := by decide +kernel
  rw [objectiveRead] at repository
  have same : readFacts samplePlatform answer = .ok sampleFacts := by
    cases Option.some.inj given
    simp only [readFacts, GithubFacts.codec.read_write, if_true]
  cases same.symm.trans factsRead
  have named : objective.repo.val = js "acme/rockets" := Option.some.inj repository
  rw [named]
  rfl

theorem sample_analysed {summary text : JsString} {receipt : SuccessReceipt}
    (member : .analysed (.succeeded text receipt) ∈ observed (sampleJournal summary)) :
    text = sampleAnalysis summary := by
  obtain ⟨position, given⟩ := answered_of_mem (mem_of_analysed member)
  exact (ModelAnswer.succeeded.inj (Option.some.inj given)).1.symm

/-- A mission with a short summary is verified. -/
theorem sample_mission_verified :
    ∃ candidate, Requests (runRepoAnalysisMission samplePlatform sampleDeps) (sampleJournal shortSummary)
        (completionEmission candidate) ∧
      verifyMissionCompletion samplePlatform sampleHeld candidate samplePlan
        (writtenSteps (sampleJournal shortSummary)).reverse (writtenEvidence (sampleJournal shortSummary)) =
          .ok () := by
  obtain ⟨candidate, stands⟩ := sample_pursues (by decide +kernel : (reconcileMission samplePlatform
    (sampleInput shortSummary)).map MissionReconciliation.decision = some .accepted)
  have requests : Requests (runRepoAnalysisMission samplePlatform sampleDeps) (sampleJournal shortSummary)
    (completionEmission candidate) := requests_pursue stands
  have admitted : sampleTask.parse = some sampleDeps.task := sample_admitted
  have planned : planTask samplePlatform sampleDeps.task .mission = some sampleDeps.plan := sample_planned
  have verified := accepted_mission_verified_iff admitted planned requests (sample_ofRepository shortSummary)
    sample_verifying (FaithfulSteps.latest (writtenSteps (sampleJournal shortSummary)))
    (FaithfulRecords.refl (writtenEvidence (sampleJournal shortSummary)))
  refine ⟨candidate, requests, verified.mpr ?_⟩
  intro cut
  obtain ⟨text, receipt, analysis, member, parses, unit, found, -⟩ := cut
  have same := sample_analysed member
  have uncut : ((parseAnalysis samplePlatform (sampleAnalysis shortSummary)).bind fun analysis =>
      analysis.summary.text[489]?) = none := by decide +kernel
  rw [← same, parses, Option.bind_some, found] at uncut
  cases uncut

/-- A mission whose summary is cut after a space is accepted by the kernel's judgement, and refused by
its verifier. -/
theorem summary_cut_after_space_refused :
    ∃ candidate, sampleTask.parse = some sampleTask ∧
      planTask samplePlatform sampleTask .mission = some samplePlan ∧
      Requests (runRepoAnalysisMission samplePlatform sampleDeps) (sampleJournal longSummary)
        (completionEmission candidate) ∧
      OfRepository samplePlatform sampleTask (sampleJournal longSummary) ∧ Verifying sampleTask sampleHeld ∧
      FaithfulSteps (writtenSteps (sampleJournal longSummary)) (writtenSteps (sampleJournal longSummary)).reverse ∧
      FaithfulRecords (writtenEvidence (sampleJournal longSummary)) (writtenEvidence (sampleJournal longSummary)) ∧
      verifyMissionCompletion samplePlatform sampleHeld candidate samplePlan
        (writtenSteps (sampleJournal longSummary)).reverse (writtenEvidence (sampleJournal longSummary)) ≠
          .ok () := by
  obtain ⟨candidate, stands⟩ := sample_pursues (by decide +kernel : (reconcileMission samplePlatform
    (sampleInput longSummary)).map MissionReconciliation.decision = some .accepted)
  have requests : Requests (runRepoAnalysisMission samplePlatform sampleDeps) (sampleJournal longSummary)
    (completionEmission candidate) := requests_pursue stands
  have admitted : sampleTask.parse = some sampleDeps.task := sample_admitted
  have planned : planTask samplePlatform sampleDeps.task .mission = some sampleDeps.plan := sample_planned
  have latest := FaithfulSteps.latest (writtenSteps (sampleJournal longSummary))
  have records := FaithfulRecords.refl (writtenEvidence (sampleJournal longSummary))
  obtain ⟨report, analysis, only, parses, verified⟩ := verified_of_requests admitted planned requests
    (sample_ofRepository longSummary) sample_verifying latest records
  refine ⟨candidate, admitted, planned, requests, sample_ofRepository longSummary, sample_verifying, latest,
    records, ?_⟩
  have same := sample_analysed ((only report.text report.receipt).mpr rfl)
  have cut : ((parseAnalysis samplePlatform (sampleAnalysis longSummary)).bind fun analysis =>
      analysis.summary.text[489]?) = some 32 := by decide +kernel
  rw [← same, parses, Option.bind_some] at cut
  exact fun accepted => verified.mp accepted ⟨32, cut, by decide⟩

end KernelJson.Mission.Completion
