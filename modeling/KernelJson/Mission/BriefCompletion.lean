import KernelJson.Mission.BriefMessage
import KernelJson.Mission.BriefRecords
import KernelJson.Mission.BriefVerify
import KernelJson.Mission.Completion
import KernelJson.Mission.Totality

/-!
# Accepted briefs complete

The verifier reads back what a run of the brief has recorded: the facts, the
memories that the analyst was given, both texts and the judgement.  It computes
every value again, and what it finds is what the run wrote.
-/

namespace KernelJson.Mission.BriefCompletion

open Contracts.Brief
open Contracts.Common
open Contracts.Objective
open Contracts.Outcome
open Contracts.Platform
open Contracts.Task
open Executor.Operations
open Foundation
open Foundation.JsText
open Mission.Brief
open Mission.BriefMessage
open Mission.BriefRecords
open Mission.BriefRun
open Mission.BriefVerify
open Mission.Completion
open Mission.Evidence
open Mission.Reconcile
open Mission.Run
open Mission.RunRecords
open Mission.Verify (Checked orThrow sortedTexts textField ok_bind)
open Planner.Plan

/-! ## The summary -/

/-- The headline ends in a visible unit. -/
theorem headline_last (brief : BriefAnalysis) (withheldItems : WithheldItems) :
    ∃ last, (briefHeadline brief withheldItems).getLast? = some last ∧ isSpace last = false := by
  unfold briefHeadline
  dsimp only
  split
  · have bounded := brief.headline.bounded
    have nonempty : brief.headline.text ≠ [] := by
      intro empty
      rw [empty] at bounded
      exact absurd bounded (by decide)
    have last := List.getLast?_eq_some_getLast nonempty
    refine ⟨_, last, @trim_last brief.headline.text _ ?_⟩
    rw [brief.headline.trimmed]
    exact last
  · refine ⟨46, ?_, by decide⟩
    rw [List.getLast?_append]
    have full : (js " withheld.").getLast? = some 46 := by decide
    rw [full]
    rfl

/-- The summary is neither cut nor trimmed. -/
theorem trim_briefSummary (brief : BriefAnalysis) (withheldItems : WithheldItems) :
    trim (briefSummary brief withheldItems) = briefSummary brief withheldItems := by
  have lead : js "Brief accepted: " = 66 :: js "rief accepted: " := by decide
  have bounded := length_briefHeadline_le brief withheldItems
  have short : (js "rief accepted: ").length ≤ 100 := by decide
  have whole : briefSummary brief withheldItems =
      66 :: (js "rief accepted: " ++ briefHeadline brief withheldItems) := by
    rw [briefSummary, lead, List.cons_append, List.take_of_length_le]
    rw [List.length_cons, List.length_append]
    omega
  obtain ⟨last, found, visible⟩ := headline_last brief withheldItems
  rw [whole, trim_eq_self_iff (by decide : isSpace 66 = false)]
  have same : (66 :: (js "rief accepted: " ++ briefHeadline brief withheldItems)).getLast? = some last := by
    rw [← List.cons_append, List.getLast?_append, found]
    rfl
  rw [List.getLast?_eq_some_getLast (List.cons_ne_nil _ _)] at same
  rw [Option.some.inj same]
  exact visible

/-! ## Sources -/

theorem source_inj {first second : Stage} (same : first.source = second.source) : first = second := by
  cases first <;> cases second <;> first
    | rfl
    | exact absurd same (by decide)

theorem trim_source (stage : Stage) : trim stage.source = stage.source := by
  cases stage <;> decide

/-! ## Memories that may be cited -/

theorem field_none_of_same {stored written : Json} {name : JsString} (same : stored.SameUpToKeyOrder written)
    (missing : written.field? name = none) : stored.field? name = none := by
  have sorted := congrArg (fun json : Json => json.field? name) same
  simp only [Json.field?_sortKeys, missing, Option.map_none, Option.map_eq_none_iff] at sorted
  exact sorted

/-- A list is stored as a list of the same values. -/
theorem arr_of_same {stored : Json} {items : List Json} (same : stored.SameUpToKeyOrder (.arr items)) :
    ∃ entries, stored = .arr entries ∧ entries.map Json.sortKeys = items.map Json.sortKeys := by
  cases stored with
  | arr entries =>
      have sorted : Json.arr (Json.sortItems entries) = .arr (Json.sortItems items) := same
      rw [Json.arr.injEq, Json.sortItems_eq, Json.sortItems_eq] at sorted
      exact ⟨entries, rfl, sorted⟩
  | null => cases same
  | bool value => cases same
  | num value => cases same
  | real literal => cases same
  | str text => cases same
  | obj fields => cases same

theorem entryIds_cons {entry : Json} {rest : List Json} {ids : List JsString} (visible : entry ≠ .null)
    (later : entryIds rest = .ok ids) :
    entryIds (entry :: rest) = .ok (((entry.field? (js "memory_id")).bind Json.asString?).toList ++ ids) := by
  cases entry with
  | null => exact absurd rfl visible
  | bool value => exact congrArg (· >>= _) later
  | num value => exact congrArg (· >>= _) later
  | real literal => exact congrArg (· >>= _) later
  | str text => exact congrArg (· >>= _) later
  | arr items => exact congrArg (· >>= _) later
  | obj fields => exact congrArg (· >>= _) later

/-- The identifiers of stored entries are those that were written. -/
theorem entryIds_eq {memories : List MissionMemory} {entries : List Json}
    (same : entries.map Json.sortKeys = (memories.map MissionMemory.toJson).map Json.sortKeys) :
    entryIds entries = .ok (memories.map MissionMemory.memoryId) := by
  induction memories generalizing entries with
  | nil =>
      rw [List.map_nil, List.map_nil, List.map_eq_nil_iff] at same
      rw [same]
      rfl
  | cons memory rest ih =>
      obtain ⟨entry, others, rfl, here, later⟩ := List.map_eq_cons_iff.mp same
      have kept : entry.SameUpToKeyOrder memory.toJson := here
      obtain ⟨stored, found, text⟩ := kept.field (js "memory_id") rfl
      have visible : entry ≠ .null := by
        rintro rfl
        cases found
      rw [entryIds_cons visible (ih later), found, text.str]
      rfl

/-- The memory that a brief may cite is what the analyst was given. -/
theorem briefMemoryIds_eq {analyst : Evidence} {memory : Option MissionMemoryContext} {written : Json}
    (same : analyst.metadata.SameUpToKeyOrder written)
    (given : written.field? (js "memory_context") = memory.map memoryEvidence) :
    briefMemoryIds analyst = .ok (memoryIds memory) := by
  cases memory with
  | none =>
      rw [briefMemoryIds, field_none_of_same same given]
      rfl
  | some context =>
      obtain ⟨stored, found, kept⟩ := same.field _ given
      obtain ⟨list, inside, entries⟩ := kept.field (js "memories") rfl
      obtain ⟨entries, rfl, sorted⟩ := arr_of_same entries
      have ids := entryIds_eq sorted
      rw [briefMemoryIds, found, Option.bind_some, inside]
      exact ids

/-! ## Reading the evidence -/

section Reading

variable {platform : Platform}

theorem str_eq {evidence : Evidence} {key : String} {text : JsString}
    (found : textField evidence key = some text)
    (nonempty : text ≠ []) : str evidence key = .ok text := by
  simp only [str, found]
  exact if_pos nonempty

/-- A runtime that is allowed has a name. -/
theorem nonempty_of_allowed {model : JsString} (allowed : runtimeAllowed platform model = true) :
    model ≠ [] := by
  rintro rfl
  have lower : platform.toLowerCase [] = [] := platform.lowerAscii [] fun _ member => by cases member
  have family : modelFamily platform [] = [] := lower
  rw [runtimeAllowed, family] at allowed
  exact absurd allowed (by decide)

/-- The facts are read back, and the digests match. -/
theorem readFactsEvidence_eq {facts : BriefFacts} {evidence : Evidence}
    (activity : capabilityDigest platform (GithubActivity.codec.write facts.github) = facts.githubDigest.val)
    (digest : evidence.digest = some (capabilityDigest platform (BriefFacts.codec.write facts)))
    (same : evidence.metadata.SameUpToKeyOrder
      (briefFactsMetadata facts (capabilityDigest platform (BriefFacts.codec.write facts)))) :
    BriefVerify.readFactsEvidence platform evidence = .ok facts := by
  obtain ⟨stored, here, kept⟩ := same.field (js "facts") rfl
  have content := textField_of_same "content_sha256" same rfl
  have reads : (evidence.metadata.field? (js "facts")).bind BriefFacts.codec.read = some facts := by
    rw [here, Option.bind_some, BriefFacts.codec.read_of_same kept]
  simp [BriefVerify.readFactsEvidence, reads, orThrow, digest, content, activity]

theorem readText_eq {evidence : Evidence} {text : JsString} (found : textField evidence "text" = some text)
    (digest : evidence.digest = some (sha256Text platform text)) :
    BriefVerify.readText platform evidence = .ok text := by
  simp only [BriefVerify.readText, found]
  exact if_pos digest

/-- A step that was completed with an output passes its check. -/
theorem checkStep_eq {node : PlanStep} {output : Json} {step : TaskStep} {written steps : List TaskStep}
    (patched : patchedStep node .completed node.input.toJson (some output) = some step)
    (last : (written.reverse.find? fun step => step.id = node.id) = some step)
    (faithful : FaithfulSteps written steps) : BriefVerify.checkStep platform steps node output = .ok () := by
  obtain ⟨planned, row, projected, found, status, kind, outputs⟩ := storedStep patched last faithful
  simp [BriefVerify.checkStep, projected, orThrow, found, status, kind,
    capabilityDigest_of_same platform outputs]

/-- The outcome passes its check. -/
theorem checkOutcome_eq {task held : Task} {criterion analysisText : JsString} {brief : BriefAnalysis}
    {withheldItems : WithheldItems} {at_ : Timestamp} {candidate : Outcome} {verified : List Evidence}
    (criteria : task.acceptanceCriteria = [criterion]) (trimmed : parseText criterion = some criterion)
    (verifying : Verifying task held) (parses : parseBrief platform analysisText = some brief)
    (ofTask : ∀ evidence ∈ verified, evidence.taskId = task.id)
    (built : (completedOutcome task (verified.map Evidence.id) (briefSummary brief withheldItems) at_).parse =
      some candidate) :
    BriefVerify.checkOutcome platform held candidate analysisText withheldItems verified = .ok () := by
  obtain ⟨summary, refs, completes⟩ := candidate_completes criteria trimmed verifying ofTask built
  rw [trim_briefSummary] at summary
  simp [BriefVerify.checkOutcome, parses, summary, refs, completes]

end Reading

/-! ## Rows -/

section Acceptance

variable {platform : Platform} {task held : Task} {nodes : BriefNodes} {run : CompletedBrief}

/-- The row of a stage, under the columns that the workflow wrote. -/
def row (platform : Platform) (run : CompletedBrief) (kept : Stage → Json) (stage : Stage) : Evidence :=
  (run.base stage).record stage.evidenceType stage.source (run.digest platform stage) (kept stage)

/-- What faithful rows look like, and that each of them parses as itself. -/
theorem rows_of_faithful (recorded : run.Recorded platform task nodes) {records : List Evidence}
    (faithful : FaithfulRecords (Stage.all.map run.evidence) records) :
    ∃ kept : Stage → Json, (∀ stage, (kept stage).SameUpToKeyOrder (run.metadata platform stage)) ∧
      records.Perm (Stage.all.map (row platform run kept)) ∧
      ∀ record ∈ records, record.parse = some record := by
  obtain ⟨rows, same, perm⟩ := faithful
  have each : ∀ stage stored, SameEvidence (run.evidence stage) stored →
      ∃ kept : Json, kept.SameUpToKeyOrder (run.metadata platform stage) ∧
        stored = (run.base stage).record stage.evidenceType stage.source (run.digest platform stage) kept ∧
        stored.parse = some stored :=
    fun stage stored same => stored_shape (trim_source stage) (recorded.stage stage).evidence same
  simp only [Stage.all, List.map_cons, List.map_nil, List.forall₂_cons_left_iff,
    List.forall₂_nil_left_iff] at same
  obtain ⟨first, -, sameFirst, ⟨second, -, sameSecond, ⟨third, -, sameThird, ⟨fourth, -, sameFourth, rfl, rfl⟩,
    rfl⟩, rfl⟩, rfl⟩ := same
  obtain ⟨gather, keptGather, shapeGather, parsedGather⟩ := each .gather first sameFirst
  obtain ⟨analyst, keptAnalyst, shapeAnalyst, parsedAnalyst⟩ := each .analyst second sameSecond
  obtain ⟨reviewer, keptReviewer, shapeReviewer, parsedReviewer⟩ := each .reviewer third sameThird
  obtain ⟨reconcile, keptReconcile, shapeReconcile, parsedReconcile⟩ := each .reconcile fourth sameFourth
  refine ⟨Stage.pick gather analyst reviewer reconcile, fun stage => ?_, ?_, fun record member => ?_⟩
  · cases stage with
    | gather => exact keptGather
    | analyst => exact keptAnalyst
    | reviewer => exact keptReviewer
    | reconcile => exact keptReconcile
  · rw [shapeGather, shapeAnalyst, shapeReviewer, shapeReconcile] at perm
    exact perm
  · have inside := perm.mem_iff.mp member
    simp only [List.mem_cons, List.not_mem_nil, or_false] at inside
    rcases inside with rfl | rfl | rfl | rfl
    · exact parsedGather
    · exact parsedAnalyst
    · exact parsedReviewer
    · exact parsedReconcile

/-- Each row is the only one of its step, type and source. -/
theorem one_row (recorded : run.Recorded platform task nodes) {kept : Stage → Json} {records : List Evidence}
    (perm : records.Perm (Stage.all.map (row platform run kept))) (stage : Stage) (label : String) :
    BriefVerify.one records (nodes stage).id stage.evidenceType stage.source label =
      .ok (row platform run kept stage) := by
  let wanted := fun found : Evidence =>
    decide (found.stepId = some (nodes stage).id ∧ found.type = stage.evidenceType ∧ found.source = stage.source)
  have exact_ : ∀ other, wanted (row platform run kept other) = decide (other = stage) := by
    intro other
    refine decide_eq_decide.mpr ⟨fun same => source_inj same.2.2, ?_⟩
    rintro rfl
    exact ⟨congrArg some (recorded.stage other).stepId, rfl, rfl⟩
  have only : (Stage.all.map (row platform run kept)).filter wanted = [row platform run kept stage] := by
    rw [List.filter_map]
    have stages : Stage.all.filter (wanted ∘ row platform run kept) =
        Stage.all.filter fun other => decide (other = stage) := List.filter_congr fun other _ => exact_ other
    rw [stages]
    cases stage <;> rfl
  have filtered := perm.filter wanted
  rw [only] at filtered
  have found : records.filter wanted = [row platform run kept stage] := List.perm_singleton.mp filtered
  unfold BriefVerify.one
  rw [found]

/-- The verifier computes the judgement of the run again, and finds it persisted. -/
theorem readJudgement_eq (recorded : run.Recorded platform task nodes) {kept : Stage → Json}
    (same : ∀ stage, (kept stage).SameUpToKeyOrder (run.metadata platform stage)) :
    BriefVerify.readJudgement platform run.facts run.analysis.text run.review.text (row platform run kept .analyst)
      (row platform run kept .reviewer) (row platform run kept .reconcile) = .ok run.record := by
  have allowed := passed_of_accepted platform recorded.judged recorded.accepted
  obtain ⟨analystNamed, reviewerNamed⟩ := providers_of_reconciled platform recorded.judged
  have memories : briefMemoryIds (row platform run kept .analyst) = .ok (memoryIds run.memory) := by
    refine briefMemoryIds_eq (same .analyst) ?_
    unfold CompletedBrief.metadata
    generalize run.memory = memory
    cases memory <;> rfl
  have analystModel : str (row platform run kept .analyst) "response_model" = .ok run.analysis.receipt.responseModel :=
    str_eq (textField_of_same "response_model" (same .analyst) rfl)
      (nonempty_of_allowed (allowed .analystRuntimeAllowed))
  have reviewerModel : str (row platform run kept .reviewer) "response_model" = .ok run.review.receipt.responseModel :=
    str_eq (textField_of_same "response_model" (same .reviewer) rfl)
      (nonempty_of_allowed (allowed .reviewerRuntimeAllowed))
  have analystProvider : str (row platform run kept .analyst) "provider" = .ok run.analysis.receipt.provider :=
    str_eq (textField_of_same "provider" (same .analyst) rfl) analystNamed
  have reviewerProvider : str (row platform run kept .reviewer) "provider" = .ok run.review.receipt.provider :=
    str_eq (textField_of_same "provider" (same .reviewer) rfl) reviewerNamed
  have persisted : BriefReconciliation.codec.read (row platform run kept .reconcile).metadata = some run.record :=
    BriefReconciliation.codec.read_of_same (same .reconcile)
  have digest : (row platform run kept .reconcile).digest =
      some (capabilityDigest platform (BriefReconciliation.codec.write run.record)) := rfl
  have judged := recorded.judged
  unfold briefInput at judged
  simp only [BriefVerify.readJudgement, memories, ok_bind, analystModel, analystProvider, reviewerModel,
    reviewerProvider, judged, orThrow, persisted, digest]
  rw [BriefVerify.require_true (And.intro trivial trivial), BriefVerify.require_true recorded.accepted]
  rfl

/-! ## Acceptance -/

/-- The verifier accepts what a run wrote. -/
theorem verified_of_recorded {plan : ExecutionPlan} {ordered : List PlanStep} {criterion : JsString}
    {written steps : List TaskStep} {records : List Evidence} (recorded : run.Recorded platform task nodes)
    (recipe : plan.recipe = .brief) (order : orderedSteps plan = some ordered)
    (shape : BriefNodes.of ordered = some nodes) (criteria : task.acceptanceCriteria = [criterion])
    (trimmed : parseText criterion = some criterion) (verifying : Verifying task held)
    (last : ∀ stage, (written.reverse.find? fun step => step.id = (nodes stage).id) = some (run.finished stage))
    (faithfulSteps : FaithfulSteps written steps)
    (faithfulRecords : FaithfulRecords (Stage.all.map run.evidence) records) :
    verifyBriefCompletion platform held run.candidate plan steps records = .ok () := by
  obtain ⟨kept, same, perm, parsed⟩ := rows_of_faithful recorded faithfulRecords
  have found := one_row recorded perm
  have facts : BriefVerify.readFactsEvidence platform (row platform run kept .gather) = .ok run.facts :=
    readFactsEvidence_eq recorded.activity rfl (same .gather)
  have analysisText : BriefVerify.readText platform (row platform run kept .analyst) = .ok run.analysis.text :=
    readText_eq (textField_of_same "text" (same .analyst) rfl) rfl
  have reviewText : BriefVerify.readText platform (row platform run kept .reviewer) = .ok run.review.text :=
    readText_eq (textField_of_same "text" (same .reviewer) rfl) rfl
  have analystBound : textField (row platform run kept .analyst) "role" = some (js "analyst") ∧
      textField (row platform run kept .analyst) "subject_digest" =
        some (capabilityDigest platform (BriefFacts.codec.write run.facts)) :=
    ⟨textField_of_same "role" (same .analyst) rfl, textField_of_same "subject_digest" (same .analyst) rfl⟩
  have reviewerBound : textField (row platform run kept .reviewer) "role" = some (js "reviewer") ∧
      textField (row platform run kept .reviewer) "subject_digest" = (row platform run kept .analyst).digest :=
    ⟨textField_of_same "role" (same .reviewer) rfl, textField_of_same "subject_digest" (same .reviewer) rfl⟩
  have judgement := readJudgement_eq recorded same
  have checked : ∀ stage, BriefVerify.checkStep platform steps (nodes stage) (run.output platform stage) = .ok () :=
    fun stage => checkStep_eq (recorded.stage stage).finished (last stage) faithfulSteps
  have outcome : BriefVerify.checkOutcome platform held run.candidate run.analysis.text run.record.withheldItems
      (Stage.all.map (row platform run kept)) = .ok () := by
    refine checkOutcome_eq criteria trimmed verifying recorded.brief ?_ recorded.candidate
    intro evidence member
    obtain ⟨stage, -, rfl⟩ := List.mem_map.mp member
    exact (recorded.stage stage).taskId
  simp only [verifyBriefCompletion, order, orThrow, shape, mapM_parse_self parsed, found, facts, analysisText,
    reviewText, ok_bind, judgement]
  rw [BriefVerify.require_true recipe, BriefVerify.require_true analystBound,
    BriefVerify.require_true reviewerBound]
  have gatherChecked : BriefVerify.checkStep platform steps (nodes .gather)
      (BriefStepOutputs.facts (capabilityDigest platform (BriefFacts.codec.write run.facts))) = .ok () :=
    checked .gather
  have analystChecked : BriefVerify.checkStep platform steps (nodes .analyst)
      (StepOutputs.runtime ((row platform run kept .analyst).digest.getD [])) = .ok () := checked .analyst
  have reviewerChecked : BriefVerify.checkStep platform steps (nodes .reviewer)
      (StepOutputs.runtime ((row platform run kept .reviewer).digest.getD [])) = .ok () := checked .reviewer
  have reconcileChecked : BriefVerify.checkStep platform steps (nodes .reconcile)
      (BriefStepOutputs.reconcile run.record) = .ok () := checked .reconcile
  simp only [ok_bind, gatherChecked, analystChecked, reviewerChecked, reconcileChecked]
  exact outcome

end Acceptance

/-! ## Every run -/

theorem trimmed_briefCriterion :
    parseText (Planner.Plan.criteria .brief) = some (Planner.Plan.criteria .brief) := by
  rw [Planner.Plan.criteria, js_ofList]
  decide +kernel

/-- The nodes of a planned brief, with distinct identifiers. -/
theorem briefNodes_of_planTask {platform : Platform} {task : Task} {plan : ExecutionPlan}
    (planned : planTask platform task .brief = some plan) :
    ∃ (ordered : List PlanStep) (nodes : BriefNodes), orderedSteps plan = some ordered ∧
      BriefNodes.of ordered = some nodes ∧ (Stage.all.map fun stage => (nodes stage).id).Nodup := by
  obtain ⟨parsed, -, -, -, -, steps⟩ := planTask_cases planned
  have ordered := orderedSteps_planTask planned
  have distinct := plan.wellFormed.distinct
  rw [steps] at ordered distinct
  exact ⟨_, _, ordered, rfl, distinct⟩

/-- The last write of each step completes it. -/
theorem lastStep {platform : Platform} {task : Task} {nodes : BriefNodes} {run : CompletedBrief}
    (recorded : run.Recorded platform task nodes)
    (distinct : (Stage.all.map fun stage => (nodes stage).id).Nodup) (stage : Stage) :
    (((run.writes nodes).filterMap Emission.step).reverse.find? fun step => step.id = (nodes stage).id) =
      some (run.finished stage) := by
  have started : ∀ other, (run.started other).id = (nodes other).id := fun other =>
    patchedStep_id (recorded.stage other).started
  have finished : ∀ other, (run.finished other).id = (nodes other).id := fun other =>
    patchedStep_id (recorded.stage other).finished
  have steps : (run.writes nodes).filterMap Emission.step =
      Stage.all.flatMap fun stage => [run.started stage, run.finished stage] := rfl
  simp only [Stage.all, List.map_cons, List.map_nil, List.nodup_cons, List.mem_cons, List.not_mem_nil, or_false,
    not_or] at distinct
  obtain ⟨⟨gatherAnalyst, gatherReviewer, gatherReconcile⟩, ⟨analystReviewer, analystReconcile⟩,
    reviewerReconcile, -⟩ := distinct
  rw [steps]
  cases stage with
  | gather =>
      simp [Stage.all, started, finished, Ne.symm gatherAnalyst, Ne.symm gatherReviewer, Ne.symm gatherReconcile]
  | analyst => simp [Stage.all, started, finished, Ne.symm analystReviewer, Ne.symm analystReconcile]
  | reviewer => simp [Stage.all, started, finished, Ne.symm reviewerReconcile]
  | reconcile => simp [Stage.all, finished]

/-- A brief that requests completion is verified. -/
theorem accepted_brief_verified {platform : Platform} {submitted held : Task} {deps : BriefDeps}
    {journal : Journal} {candidate : Outcome} {steps : List TaskStep} {records : List Evidence}
    (admitted : submitted.parse = some deps.task)
    (planned : planTask platform deps.task .brief = some deps.plan)
    (requests : Requests (runMorningBriefMission platform deps) journal (completionEmission candidate))
    (verifying : Verifying deps.task held)
    (faithfulSteps : FaithfulSteps (writtenSteps journal) steps)
    (faithfulRecords : FaithfulRecords (writtenEvidence journal) records) :
    verifyBriefCompletion platform held candidate deps.plan steps records = .ok () := by
  obtain ⟨ordered, nodes, order, shape, distinct⟩ := briefNodes_of_planTask planned
  have known : (orderedSteps deps.plan).bind BriefNodes.of = some nodes := by
    rw [order, Option.bind_some, shape]
  obtain ⟨run, recorded, same, writes⟩ := Requests.completedBrief known requests
  obtain ⟨parsed, admittedAgain, criteria, -, recipe, -⟩ := planTask_cases planned
  cases (Task.parse_again admitted).symm.trans admittedAgain
  have candidates : candidate = run.candidate := Option.some.inj (congrArg Emission.outcome same)
  have evidence : writtenEvidence journal = Stage.all.map run.evidence := by
    show (written journal).filterMap Emission.evidence = _
    rw [writes]
    rfl
  have last : ∀ stage, ((writtenSteps journal).reverse.find? fun step => step.id = (nodes stage).id) =
      some (run.finished stage) := by
    intro stage
    show (((written journal).filterMap Emission.step).reverse.find? _) = _
    rw [writes]
    exact lastStep recorded distinct stage
  rw [candidates]
  exact verified_of_recorded recorded recipe order shape criteria trimmed_briefCriterion verifying last faithfulSteps
    (evidence ▸ faithfulRecords)

/-! ## A quiet day -/

theorem Pursues.named {platform : Platform} {answers : Answers} {githubFacts : Contracts.Github.GithubFacts}
    {reports : RuntimeRole → RuntimeReport} (cooperates : Cooperates platform answers githubFacts reports)
    {role : RuntimeRole} {next : KernelProg Ended} (rest : ∀ position, Pursues answers position next)
    (position : Nat) : Pursues answers position (nameCall role next) := by
  cases role with
  | analyst => exact rest position
  | reviewer =>
      obtain ⟨id, named⟩ := cooperates.uuid position
      exact .call named (rest _)

theorem Pursues.briefReported {platform : Platform} {answers : Answers}
    {githubFacts : Contracts.Github.GithubFacts} {reports : RuntimeRole → RuntimeReport}
    (cooperates : Cooperates platform answers githubFacts reports) {task : Task} {node : PlanStep}
    {role : RuntimeRole} {evidenceIds : List Id} {subjectDigest : JsString} {extras : RuntimeExtras}
    {next : RuntimeReport → Id → KernelProg Ended} (patchable : Patchable node)
    (rest : ∀ position id, Pursues answers position (next (reports role) id)) (position : Nat) :
    Pursues answers position
      (runBriefRuntime platform task node role evidenceIds fun report =>
        recordReport platform task node role report subjectDigest extras (next report)) := by
  obtain ⟨start, started⟩ := patchable .running none
  obtain ⟨finish, finished⟩ := patchable .completed
    (some (StepOutputs.runtime (sha256Text platform (reports role).text)))
  refine Pursues.begun cooperates started fun position => Pursues.named cooperates (fun position => ?_) position
  obtain ⟨assembly, built⟩ := cooperates.build position role
  refine .call built (.call (cooperates.report _ role) ?_)
  refine Pursues.recorded cooperates (fun id at_ => ⟨_, Base.evidence_some _ _ _ (trim_source_runtime role)
    (sources_nonempty.2.1 role) rfl⟩) fun position id evidence => ?_
  exact Pursues.completed cooperates finished fun position => rest position id

def dayTask : Task :=
  { sampleTask with objective := js "morning brief", acceptanceCriteria := [Planner.Plan.criteria .brief] }

theorem isUuid_dayGather : isUuid (js "70000000-0000-8000-a000-000000000000") = true := by
  decide

theorem isUuid_dayAnalyst : isUuid (js "80000000-0000-8000-a000-000000000000") = true := by
  decide

theorem isUuid_dayReviewer : isUuid (js "90000000-0000-8000-a000-000000000000") = true := by
  decide

theorem isUuid_dayReconcile : isUuid (js "a0000000-0000-8000-a000-000000000000") = true := by
  decide

/-- The identifiers that planning computes for the steps. -/
def dayIds : Stage → Id :=
  Stage.pick ⟨_, isUuid_dayGather⟩ ⟨_, isUuid_dayAnalyst⟩ ⟨_, isUuid_dayReviewer⟩ ⟨_, isUuid_dayReconcile⟩

def dayNodes : BriefNodes :=
  Stage.pick
    ⟨dayIds .gather, dayTask.id, .githubEvidence, [], .taskObjective⟩
    ⟨dayIds .analyst, dayTask.id, .runtimeAnalyse, [dayIds .gather], .stepOutput (dayIds .gather)⟩
    ⟨dayIds .reviewer, dayTask.id, .runtimeReview, [dayIds .analyst], .stepOutput (dayIds .analyst)⟩
    ⟨dayIds .reconcile, dayTask.id, .reconcile, [dayIds .reviewer], .stepOutput (dayIds .reviewer)⟩

theorem day_wellFormed : WellFormed dayTask.id (Stage.all.map dayNodes) (dayIds .reconcile) := by
  decide +kernel

def dayPlan : ExecutionPlan where
  taskId := dayTask.id
  recipe := .brief
  steps := Stage.all.map dayNodes
  resultStepId := dayIds .reconcile
  wellFormed := day_wellFormed

def dayDeps : BriefDeps := ⟨dayTask, dayPlan, true⟩

def dayHeld : Task := { dayTask with status := .verifying, startedAt := some .epoch }

theorem day_admitted : dayTask.parse = some dayTask := by
  decide +kernel

theorem day_planned : planTask samplePlatform dayTask .brief = some dayPlan :=
  planTask_eq day_admitted (by decide +kernel) (by decide +kernel) (by decide +kernel) day_wellFormed

/-- No repository was pushed to. -/
def dayFacts : BriefFacts where
  github := Totality.quietActivity
  githubDigest :=
    ⟨capabilityDigest samplePlatform (GithubActivity.codec.write Totality.quietActivity), isSha256Text_hexText _⟩
  kernel := ⟨⟨[], Nat.zero_le _⟩, none⟩

def dayMemory : MissionMemoryContext where
  status := .assembled
  assemblyId := none
  digest := none
  text := js "Rest on Sundays."
  memories := [⟨js "5d000000-0000-4000-8000-000000000001", 1⟩]
  externalCount := 0
  usedTokens := 5

def dayBrief : JsString :=
  js "\x7b\"windowEnd\":\"2026-02-02T00:00:00Z\",\"headline\":\"Nothing was pushed.\"," ++
    js "\"items\":[\x7b\"title\":\"Quiet\",\"detail\":\"Nothing moved.\",\"refs\":[\"scan\",\"memory:5d000000\"]\x7d]\x7d"

def dayReview : JsString :=
  js "\x7b\"reviewedAnalysisSha256\":\"" ++ sha256Text samplePlatform dayBrief ++
    js "\",\"verdict\":\"approve\",\"unsupportedFindings\":[],\"notes\":[]\x7d"

def dayReports : RuntimeRole → RuntimeReport
  | .analyst => ⟨dayBrief, sampleReceipt "anthropic" "anthropic/a"⟩
  | .reviewer => ⟨dayReview, sampleReceipt "x-ai" "x-ai/b"⟩

/-- The answers of the sample mission, and those that a brief asks for besides. -/
def dayAnswers : Answers
  | _, .githubActivity _ => some (.ok (GithubActivity.codec.write dayFacts.github, dayFacts.githubDigest.val))
  | _, .kernelState _ _ _ => some (.ok (KernelState.codec.write dayFacts.kernel))
  | _, .briefMemory _ _ => some (some dayMemory)
  | _, .callModel role => some (.succeeded (dayReports role).text (dayReports role).receipt)
  | position, op => sampleAnswers shortSummary position op

theorem day_cooperates : Cooperates samplePlatform dayAnswers sampleFacts dayReports where
  emit := fun _ _ open_ => ⟨none, if_neg open_⟩
  completion := fun _ _ => rfl
  now := fun _ => ⟨_, rfl⟩
  uuid := fun _ => ⟨_, rfl⟩
  read := fun _ _ => rfl
  build := fun _ _ => ⟨_, rfl⟩
  report := fun _ _ => rfl

theorem day_patchable (stage : Stage) : Patchable (dayNodes stage) := by
  intro status output
  apply Option.isSome_iff_exists.mp
  cases stage <;> rfl

theorem day_accepted : (reconcileBrief samplePlatform
    (briefInput dayFacts (some dayMemory) (dayReports .analyst) (dayReports .reviewer))).map
      BriefReconciliation.decision = some .accepted := by
  decide +kernel

/-- The brief of the quiet day goes on to request completion. -/
theorem day_pursues : Pursues dayAnswers 0 (runMorningBriefMission samplePlatform dayDeps) := by
  obtain ⟨record, judged, accepted⟩ := Option.map_eq_some_iff.mp day_accepted
  obtain ⟨brief, parses⟩ := brief_of_accepted samplePlatform judged accepted
  obtain ⟨gatherStart, gatherStarted⟩ := day_patchable .gather .running none
  obtain ⟨gatherFinish, gatherFinished⟩ := day_patchable .gather .completed
    (some (BriefStepOutputs.facts (capabilityDigest samplePlatform (BriefFacts.codec.write dayFacts))))
  obtain ⟨start, started⟩ := day_patchable .reconcile .running none
  obtain ⟨finish, finished⟩ := day_patchable .reconcile .completed (some (BriefStepOutputs.reconcile record))
  have ordered : (orderedSteps dayPlan).bind BriefNodes.of = some dayNodes := by
    rw [orderedSteps_planTask day_planned]
    rfl
  have activity : readActivity samplePlatform (.ok (GithubActivity.codec.write dayFacts.github,
      dayFacts.githubDigest.val)) = .ok (dayFacts.github, dayFacts.githubDigest.val) := by
    simp only [readActivity, GithubActivity.codec.read_write]
    exact if_pos rfl
  have state : BriefRun.readFacts dayFacts.github dayFacts.githubDigest.val
      (.ok (KernelState.codec.write dayFacts.kernel)) = .ok dayFacts := by
    simp only [BriefRun.readFacts, KernelState.codec.read_write, Matching.parse_val]
  refine .value ordered (Pursues.begun day_cooperates gatherStarted fun position => ?_)
  obtain ⟨windowEnd, clock⟩ := day_cooperates.now position
  refine .call clock (.call rfl ?_)
  simp only [activity]
  refine .call rfl ?_
  simp only [state]
  refine Pursues.recorded day_cooperates (fun id at_ => ⟨_, Base.evidence_some _ _ _ (trim_source .gather)
    (by decide) rfl⟩) fun position id evidence => ?_
  refine Pursues.completed day_cooperates gatherFinished fun position => ?_
  obtain ⟨callId, named⟩ := day_cooperates.uuid position
  refine .call named (.call rfl ?_)
  refine Pursues.briefReported day_cooperates (day_patchable .analyst) (fun position id => ?_) _
  refine Pursues.briefReported day_cooperates (day_patchable .reviewer) (fun position id => ?_) _
  refine Pursues.begun day_cooperates started fun position => .value judged ?_
  refine Pursues.recorded day_cooperates (fun id at_ => ⟨_, Base.evidence_some _ _ _ (trim_source .reconcile)
    (by decide) rfl⟩) fun position id evidence => ?_
  refine Pursues.completed day_cooperates finished fun position => ?_
  rw [if_pos accepted]
  obtain ⟨answer, verifying⟩ := day_cooperates.emit position verifyEmission (by simp [verifyEmission])
  obtain ⟨at_, clock⟩ := day_cooperates.now (position + 1)
  have visible : trim (briefSummary brief record.withheldItems) ≠ [] := by
    rw [trim_briefSummary]
    exact List.cons_ne_nil _ _
  obtain ⟨candidate, built⟩ := candidate_of_visible at_ (show dayTask.acceptanceCriteria = [_] from rfl)
    trimmed_briefCriterion (List.append_ne_nil_of_right_ne_nil _ (List.cons_ne_nil id [])) visible
  exact .value parses (.call verifying (.call clock (.value built (.stands (day_cooperates.completion _ _)))))

def dayJournal : Journal := (pursue dayAnswers 0 (runMorningBriefMission samplePlatform dayDeps)).1

/-- The brief of the quiet day is verified. -/
theorem day_brief_verified :
    ∃ candidate, Requests (runMorningBriefMission samplePlatform dayDeps) dayJournal
        (completionEmission candidate) ∧
      verifyBriefCompletion samplePlatform dayHeld candidate dayPlan (writtenSteps dayJournal).reverse
        (writtenEvidence dayJournal) = .ok () := by
  obtain ⟨candidate, stands⟩ := day_pursues
  have requests : Requests (runMorningBriefMission samplePlatform dayDeps) dayJournal
    (completionEmission candidate) := requests_pursue stands
  have admitted : dayTask.parse = some dayDeps.task := day_admitted
  have planned : planTask samplePlatform dayDeps.task .brief = some dayDeps.plan := day_planned
  have verifying : Verifying dayDeps.task dayHeld := ⟨rfl, rfl, rfl, rfl⟩
  have verified := accepted_brief_verified admitted planned requests verifying
    (FaithfulSteps.latest (writtenSteps dayJournal)) (FaithfulRecords.refl (writtenEvidence dayJournal))
  exact ⟨candidate, requests, verified⟩

end KernelJson.Mission.BriefCompletion
