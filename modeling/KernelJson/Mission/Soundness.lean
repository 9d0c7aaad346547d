import KernelJson.Foundation.Transactions
import KernelJson.Mission.Completion

/-!
# What a verified mission has shown

Whatever plan, steps, rows and outcome are persisted: when the check of a
completion returns, four rows stand behind the outcome, and they hold facts, an
analysis and a review that meet the mission's contract.
-/

namespace KernelJson.Mission.Soundness

open Contracts.Common
open Contracts.Github
open Contracts.Objective
open Contracts.Outcome
open Contracts.Platform
open Contracts.Reports
open Contracts.Task
open Foundation
open Foundation.JsText
open Foundation.Transactions (bind_ok)
open Mission.Completion
open Mission.Evidence
open Mission.Reconcile
open Mission.Run
open Mission.RunRecords
open Mission.Verify
open Planner.Plan

/-! ## What was verified -/

/-- The rows that a verified mission rests on, and what they were read as. -/
structure Dossier where
  github : Evidence
  analyst : Evidence
  reviewer : Evidence
  reconcile : Evidence
  facts : GithubFacts
  objective : MissionObjective
  analysisText : JsString
  analysis : MissionAnalysis
  analystModel : JsString
  reviewText : JsString
  review : MissionReview
  reviewerModel : JsString

/-- The records hold exactly one row of a step, a type and a source. -/
def OnlyRow (records : List Evidence) (node : PlanStep) (type : EvidenceType) (source : JsString)
    (row : Evidence) : Prop :=
  records.filter (fun found => found.stepId = some node.id ∧ found.type = type ∧ found.source = source) = [row]

/-- Exactly one row for each of the four steps of a mission. -/
def FourRows (plan : ExecutionPlan) (records : List Evidence) (dossier : Dossier) : Prop :=
  ∃ github analyst reviewer reconcile parsed,
    orderedSteps plan = some [github, analyst, reviewer, reconcile] ∧
    records.mapM Evidence.parse = some parsed ∧
    OnlyRow parsed github .toolReceipt Sources.github dossier.github ∧
    OnlyRow parsed analyst .artifact (Sources.runtime .analyst) dossier.analyst ∧
    OnlyRow parsed reviewer .artifact (Sources.runtime .reviewer) dossier.reviewer ∧
    OnlyRow parsed reconcile .deterministicResult Sources.reconcile dossier.reconcile

/-- The tree holds a path under an object id that starts with the cited one. -/
def Captured (facts : GithubFacts) (item : FindingEvidence) : Prop :=
  ∃ entry ∈ facts.tree.val, entry.path.val = item.path.val ∧ item.blobSha.val <+: entry.sha.val

section Verified

variable (platform : Platform)

/-- The row of the facts holds what it hashes to, about the repository of the objective. -/
structure FactsBound (task : Task) (dossier : Dossier) : Prop where
  read : (dossier.github.metadata.field? (js "facts")).bind GithubFacts.codec.read = some dossier.facts
  digest : dossier.github.digest = some (capabilityDigest platform (GithubFacts.codec.write dossier.facts))
  content : textField dossier.github "content_sha256" = dossier.github.digest
  head : textField dossier.github "head_sha" = some dossier.facts.headSha.val
  objective : parseMissionObjective task.objective = .ok dossier.objective
  repository : platform.toLowerCase dossier.facts.repo.val = platform.toLowerCase dossier.objective.repo.val

/-- The analysis is the text of its row, made of these facts, and every finding is grounded in them. -/
structure AnalysisBound (dossier : Dossier) : Prop where
  text : textField dossier.analyst "text" = some dossier.analysisText
  digest : dossier.analyst.digest = some (sha256Text platform dossier.analysisText)
  subject : textField dossier.analyst "subject_digest" = dossier.github.digest
  model : textField dossier.analyst "response_model" = some dossier.analystModel
  parses : parseAnalysis platform dossier.analysisText = some dossier.analysis
  head : dossier.analysis.headSha.val = dossier.facts.headSha.val
  cited : ∀ finding ∈ dossier.analysis.findings.val, finding.evidence.val ≠ []
  captured : ∀ finding ∈ dossier.analysis.findings.val, ∀ item ∈ finding.evidence.val, Captured dossier.facts item
  enough : dossier.objective.contract.minFindings.val ≤ dossier.analysis.findings.val.length
  bounded : dossier.analysis.findings.val.length ≤ dossier.objective.contract.maxFindings.val
  allowed : modelFamily platform dossier.analystModel ∈ missionRuntimeFamilies

/-- The review is the text of its row, about this analysis, by another model, and not against it. -/
structure ReviewBound (dossier : Dossier) : Prop where
  text : textField dossier.reviewer "text" = some dossier.reviewText
  digest : dossier.reviewer.digest = some (sha256Text platform dossier.reviewText)
  subject : textField dossier.reviewer "subject_digest" = dossier.analyst.digest
  model : textField dossier.reviewer "response_model" = some dossier.reviewerModel
  parses : parseReview platform dossier.reviewText = some dossier.review
  reviewed : some dossier.review.reviewedAnalysisSha256.val = dossier.analyst.digest
  allowed : modelFamily platform dossier.reviewerModel ∈ missionRuntimeFamilies
  independent : modelSlug platform dossier.reviewerModel ≠ modelSlug platform dossier.analystModel
  verdict : dossier.review.verdict ≠ .reject
  unflagged : dossier.review.unsupportedFindings.val = []

structure Verified (task : Task) (outcome : Outcome) (plan : ExecutionPlan) (records : List Evidence)
    (dossier : Dossier) : Prop where
  rows : FourRows plan records dossier
  facts : FactsBound platform task dossier
  analysis : AnalysisBound platform dossier
  review : ReviewBound platform dossier
  cites : outcome.evidenceRefs.Perm
    [dossier.github.id, dossier.analyst.id, dossier.reviewer.id, dossier.reconcile.id]

end Verified

/-! ## Checks that returned -/

section Inversion

variable {platform : Platform}

theorem require_ok {holds : Prop} [Decidable holds] {why : String}
    (passed : require holds why = .ok ()) : holds := by
  unfold require at passed
  by_cases given : holds
  · exact given
  · rw [if_neg given] at passed
    cases passed

theorem one_ok {evidence : List Evidence} {node : PlanStep} {type : EvidenceType} {source : JsString}
    {label : String} {found : Evidence} (only : one evidence node.id type source label = .ok found) :
    OnlyRow evidence node type source found := by
  unfold one at only
  split at only
  · next row filtered =>
      cases only
      exact filtered
  · cases only

theorem readText_ok {evidence : Evidence} {text : JsString} (found : readText platform evidence = .ok text) :
    textField evidence "text" = some text ∧ evidence.digest = some (sha256Text platform text) := by
  unfold readText at found
  cases stored : textField evidence "text" with
  | none =>
      rw [stored] at found
      cases found
  | some other =>
      rw [stored] at found
      by_cases digest : evidence.digest = some (sha256Text platform other)
      · simp only [if_pos digest] at found
        cases found
        exact ⟨rfl, digest⟩
      · simp only [if_neg digest] at found
        cases found

theorem responseModel_ok {evidence : Evidence} {model : JsString} (found : responseModel evidence = .ok model) :
    textField evidence "response_model" = some model := by
  unfold responseModel at found
  cases stored : textField evidence "response_model" with
  | none =>
      rw [stored] at found
      cases found
  | some other =>
      rw [stored] at found
      cases found
      rfl

theorem objective_ok {text : JsString} {objective : MissionObjective}
    (parsed : (parseMissionObjective text).mapError ObjectiveError.message = .ok objective) :
    parseMissionObjective text = .ok objective := by
  cases read : parseMissionObjective text with
  | error fault =>
      rw [read] at parsed
      cases parsed
  | ok other =>
      rw [read] at parsed
      cases parsed
      rfl

/-- What the facts' row has shown once it was read. -/
theorem readFactsEvidence_ok {task : Task} {evidence : Evidence} {facts : GithubFacts}
    (read : readFactsEvidence platform task evidence = .ok facts) :
    ∃ objective,
      (evidence.metadata.field? (js "facts")).bind GithubFacts.codec.read = some facts ∧
      evidence.digest = some (capabilityDigest platform (GithubFacts.codec.write facts)) ∧
      textField evidence "content_sha256" = evidence.digest ∧
      textField evidence "head_sha" = some facts.headSha.val ∧
      parseMissionObjective task.objective = .ok objective ∧
      platform.toLowerCase facts.repo.val = platform.toLowerCase objective.repo.val := by
  obtain ⟨found, here, read⟩ := bind_ok read
  obtain ⟨⟨⟩, digest, read⟩ := bind_ok read
  obtain ⟨⟨⟩, head, read⟩ := bind_ok read
  obtain ⟨objective, parsed, read⟩ := bind_ok read
  obtain ⟨⟨⟩, repository, read⟩ := bind_ok read
  cases read
  obtain ⟨bound, content⟩ := require_ok digest
  exact ⟨objective, orThrow_ok here, bound, content.trans bound.symm, require_ok head, objective_ok parsed,
    require_ok repository⟩

/-- The judgement that was computed again accepted the texts, under the contract of the objective. -/
theorem readJudgement_ok {task : Task} {facts : GithubFacts} {analysisText reviewText : JsString}
    {analyst reviewer reconcile : Evidence} {record : MissionReconciliation}
    (read : readJudgement platform task facts analysisText reviewText analyst reviewer reconcile = .ok record) :
    ∃ objective input,
      parseMissionObjective task.objective = .ok objective ∧
      textField analyst "response_model" = some input.analystModel ∧
      textField reviewer "response_model" = some input.reviewerModel ∧
      input.facts = facts ∧ input.contract = objective.contract ∧ input.analysisText = analysisText ∧
      input.reviewText = reviewText ∧
      reconcileMission platform input = some record ∧ record.decision = .accepted := by
  obtain ⟨objective, parsed, read⟩ := bind_ok read
  obtain ⟨analystModel, analystNamed, read⟩ := bind_ok read
  obtain ⟨analystProvider, -, read⟩ := bind_ok read
  obtain ⟨reviewerModel, reviewerNamed, read⟩ := bind_ok read
  obtain ⟨reviewerProvider, -, read⟩ := bind_ok read
  obtain ⟨recomputed, judged, read⟩ := bind_ok read
  obtain ⟨persisted, -, read⟩ := bind_ok read
  obtain ⟨⟨⟩, -, read⟩ := bind_ok read
  obtain ⟨⟨⟩, accepted, read⟩ := bind_ok read
  cases read
  exact ⟨objective, _, objective_ok parsed, responseModel_ok analystNamed, responseModel_ok reviewerNamed, rfl,
    rfl, rfl, rfl, orThrow_ok judged, require_ok accepted⟩

/-- An accepted outcome cites the verified rows, each as often as it stands among them. -/
theorem checkOutcome_ok {task : Task} {outcome : Outcome} {analysisText : JsString} {verified : List Evidence}
    (checked : checkOutcome platform task outcome analysisText verified = .ok ()) :
    outcome.evidenceRefs.Perm (verified.map Evidence.id) := by
  obtain ⟨⟨⟩, -, checked⟩ := bind_ok checked
  obtain ⟨⟨⟩, cited, -⟩ := bind_ok checked
  have sorted : sortedTexts outcome.evidenceRefs = sortedTexts (verified.map Evidence.id) := require_ok cited
  have texts : (outcome.evidenceRefs.map Id.text).Perm ((verified.map Evidence.id).map Id.text) := by
    have first := List.perm_insertionSort Json.unitsLE (outcome.evidenceRefs.map Id.text)
    have second := List.perm_insertionSort Json.unitsLE ((verified.map Evidence.id).map Id.text)
    unfold sortedTexts at sorted
    exact first.symm.trans (sorted ▸ second)
  exact List.map_perm_map_iff (fun _ _ same => Contracts.Common.Id.ext same) |>.mp texts

end Inversion

/-! ## What an accepted judgement has shown -/

section Judgement

variable {platform : Platform}

/-- What the map of the tree holds for a path stands in the tree. -/
theorem entry_of_fold {entries : List TreeEntry} {tree : List (JsString × JsString)} {path sha : JsString}
    (found : JsMap.lookupEntry path
      (entries.foldl (fun tree entry => JsMap.setEntry entry.path.val entry.sha.val tree) tree) = some sha) :
    (∃ entry ∈ entries, entry.path.val = path ∧ entry.sha.val = sha) ∨
      JsMap.lookupEntry path tree = some sha := by
  induction entries generalizing tree with
  | nil => exact Or.inr found
  | cons entry rest ih =>
      rcases ih found with ⟨other, member, here⟩ | before
      · exact Or.inl ⟨other, List.mem_cons_of_mem _ member, here⟩
      · rw [JsMap.lookupEntry_setEntry] at before
        by_cases same : entry.path.val = path
        · rw [if_pos same] at before
          exact Or.inl ⟨entry, List.mem_cons_self, same, Option.some.inj before⟩
        · rw [if_neg same] at before
          exact Or.inr before

theorem captured_of_bind {facts : GithubFacts} {item : FindingEvidence} {sha : JsString}
    (bound : bind (treeMap facts) item = some sha) : Captured facts item := by
  obtain ⟨found, prefixed⟩ := Option.filter_eq_some_iff.mp bound
  rcases entry_of_fold found with ⟨entry, member, path, object⟩ | absent
  · exact ⟨entry, member, path, object ▸ List.isPrefixOf_iff_prefix.mp prefixed⟩
  · cases absent

/-- The analysis of an accepted judgement stands on the captured tree, within the contract. -/
structure Grounded (input : ReconcileInput) (analysis : MissionAnalysis) : Prop where
  head : analysis.headSha.val = input.facts.headSha.val
  cited : ∀ finding ∈ analysis.findings.val, finding.evidence.val ≠ []
  captured : ∀ finding ∈ analysis.findings.val, ∀ item ∈ finding.evidence.val, Captured input.facts item
  enough : input.contract.minFindings.val ≤ analysis.findings.val.length
  bounded : analysis.findings.val.length ≤ input.contract.maxFindings.val

theorem grounded_of_accepted {input : ReconcileInput} {record : MissionReconciliation}
    (reconciled : reconcileMission platform input = some record) (accepted : record.decision = .accepted)
    {analysis : MissionAnalysis} (parses : parseAnalysis platform input.analysisText = some analysis) :
    Grounded input analysis := by
  have passed := passed_of_accepted platform reconciled accepted
  have read : input.analysis platform = some analysis := parses
  have findings : input.findings platform = analysis.findings.val := by
    rw [ReconcileInput.findings, read]
    rfl
  have head := passed .analysisHeadShaMatchesEvidence
  have count := passed .analysisFindingCountWithinContract
  have cited := passed .analysisFindingsCited
  have exist := passed .analysisPathsExistInEvidence
  have bound := passed .analysisEvidenceBindsToCommit
  simp only [ReconcileInput.passed, ReconcileInput.headMatches, read, Option.any_some, beq_iff_eq] at head
  simp only [ReconcileInput.passed, findings, Bool.and_eq_true, decide_eq_true_eq] at count
  simp only [ReconcileInput.passed, ReconcileInput.allCited, findings, Bool.and_eq_true, List.all_eq_true] at cited
  simp only [ReconcileInput.passed, ReconcileInput.pathsExist, Bool.and_eq_true, List.all_eq_true] at exist
  simp only [ReconcileInput.passed, ReconcileInput.bound, Bool.and_eq_true, List.all_eq_true] at bound
  refine ⟨head, ?_, ?_, count.1.2, count.2⟩
  · intro finding member empty
    have nonempty := cited.2 finding member
    rw [empty] at nonempty
    cases nonempty
  · intro finding member item inside
    have mentioned : item ∈ input.cited platform := by
      rw [ReconcileInput.cited, findings]
      exact List.mem_flatMap.mpr ⟨finding, member, inside⟩
    have present := exist.2 item mentioned
    have binds := bound.2 item mentioned
    rw [← Option.not_isSome, present, Bool.not_true, Bool.false_or] at binds
    obtain ⟨sha, held⟩ := Option.isSome_iff_exists.mp binds
    exact captured_of_bind held

/-- The review of an accepted judgement is about the analysis, and not against it. -/
structure Endorsed (platform : Platform) (input : ReconcileInput) (review : MissionReview) : Prop where
  parses : parseReview platform input.reviewText = some review
  reviewed : review.reviewedAnalysisSha256.val = sha256Text platform input.analysisText
  verdict : review.verdict ≠ .reject
  unflagged : review.unsupportedFindings.val = []

theorem endorsed_of_accepted {input : ReconcileInput} {record : MissionReconciliation}
    (reconciled : reconcileMission platform input = some record) (accepted : record.decision = .accepted) :
    ∃ review, Endorsed platform input review := by
  have passed := passed_of_accepted platform reconciled accepted
  obtain ⟨review, parses⟩ := Option.isSome_iff_exists.mp (passed .reviewSchemaValid)
  have reviewed := passed .reviewBindsToAnalysis
  have verdict := passed .reviewVerdictAcceptable
  have unflagged := passed .reviewFlagsNoUnsupportedFindings
  simp only [ReconcileInput.passed, parses, Option.any_some, beq_iff_eq] at reviewed
  simp only [ReconcileInput.passed, parses, Option.any_some, bne_iff_ne, ne_eq] at verdict
  simp only [ReconcileInput.passed, parses, Option.any_some, List.isEmpty_iff] at unflagged
  exact ⟨review, parses, reviewed, verdict, unflagged⟩

theorem allowed_of_runtimeAllowed {model : JsString} (allowed : runtimeAllowed platform model = true) :
    modelFamily platform model ∈ missionRuntimeFamilies :=
  List.contains_iff_mem.mp allowed

/-- Two models that an accepted judgement took for independent have different names. -/
theorem independent_of_accepted {input : ReconcileInput} {record : MissionReconciliation}
    (reconciled : reconcileMission platform input = some record) (accepted : record.decision = .accepted) :
    modelSlug platform input.reviewerModel ≠ modelSlug platform input.analystModel := by
  have independent := passed_of_accepted platform reconciled accepted .reviewerIsIndependent
  simp only [ReconcileInput.passed, sameModel, Bool.not_eq_true', beq_eq_false_iff_ne, ne_eq] at independent
  exact fun same => independent same.symm

end Judgement

/-! ## Every verified mission -/

/-- Whatever is persisted, a completion that the check lets through is backed by four rows that bind the
facts, the analysis and the review to each other and to the objective. -/
theorem verified_mission_sound {platform : Platform} {task : Task} {outcome : Outcome} {plan : ExecutionPlan}
    {steps : List TaskStep} {records : List Evidence}
    (verified : verifyMissionCompletion platform task outcome plan steps records = .ok ()) :
    ∃ dossier, Verified platform task outcome plan records dossier := by
  obtain ⟨⟨⟩, -, verified⟩ := bind_ok verified
  obtain ⟨nodes, ordered, verified⟩ := bind_ok verified
  split at verified
  · next github analyst reviewer reconcile =>
      obtain ⟨parsed, read, verified⟩ := bind_ok verified
      obtain ⟨githubRow, onlyGithub, verified⟩ := bind_ok verified
      obtain ⟨analystRow, onlyAnalyst, verified⟩ := bind_ok verified
      obtain ⟨reviewerRow, onlyReviewer, verified⟩ := bind_ok verified
      obtain ⟨reconcileRow, onlyReconcile, verified⟩ := bind_ok verified
      obtain ⟨facts, factsRead, verified⟩ := bind_ok verified
      obtain ⟨analysisText, analysisRead, verified⟩ := bind_ok verified
      obtain ⟨reviewText, reviewRead, verified⟩ := bind_ok verified
      obtain ⟨⟨⟩, analystRole, verified⟩ := bind_ok verified
      obtain ⟨⟨⟩, reviewerRole, verified⟩ := bind_ok verified
      obtain ⟨record, judged, verified⟩ := bind_ok verified
      obtain ⟨⟨⟩, -, verified⟩ := bind_ok verified
      obtain ⟨⟨⟩, -, verified⟩ := bind_ok verified
      obtain ⟨⟨⟩, -, verified⟩ := bind_ok verified
      obtain ⟨⟨⟩, -, verified⟩ := bind_ok verified
      have cites := checkOutcome_ok verified
      obtain ⟨objective, factsField, factsDigest, content, factsHead, parsedObjective, repository⟩ :=
        readFactsEvidence_ok factsRead
      obtain ⟨sameObjective, input, parsedAgain, analystNamed, reviewerNamed, rfl, contract, rfl, rfl, reconciled,
        accepted⟩ := readJudgement_ok judged
      cases parsedObjective.symm.trans parsedAgain
      obtain ⟨analysis, parses⟩ := analysis_of_accepted platform reconciled accepted
      obtain ⟨review, endorsed⟩ := endorsed_of_accepted reconciled accepted
      have grounded := grounded_of_accepted reconciled accepted parses
      have analystAllowed := passed_of_accepted platform reconciled accepted .analystRuntimeAllowed
      have reviewerAllowed := passed_of_accepted platform reconciled accepted .reviewerRuntimeAllowed
      obtain ⟨analysisField, analysisDigest⟩ := readText_ok analysisRead
      obtain ⟨reviewField, reviewDigest⟩ := readText_ok reviewRead
      obtain ⟨-, analystSubject⟩ := require_ok analystRole
      obtain ⟨-, reviewerSubject⟩ := require_ok reviewerRole
      refine ⟨⟨githubRow, analystRow, reviewerRow, reconcileRow, input.facts, objective, input.analysisText, analysis,
        input.analystModel, input.reviewText, review, input.reviewerModel⟩, ?_⟩
      exact
        { rows := ⟨github, analyst, reviewer, reconcile, parsed, orThrow_ok ordered, orThrow_ok read,
            one_ok onlyGithub, one_ok onlyAnalyst, one_ok onlyReviewer, one_ok onlyReconcile⟩
          facts := ⟨factsField, factsDigest, content, factsHead, parsedObjective, repository⟩
          analysis :=
            { text := analysisField
              digest := analysisDigest
              subject := analystSubject.trans factsDigest.symm
              model := analystNamed
              parses := parses
              head := grounded.head
              cited := grounded.cited
              captured := grounded.captured
              enough := contract ▸ grounded.enough
              bounded := contract ▸ grounded.bounded
              allowed := allowed_of_runtimeAllowed analystAllowed }
          review :=
            { text := reviewField
              digest := reviewDigest
              subject := reviewerSubject
              model := reviewerNamed
              parses := endorsed.parses
              reviewed := (congrArg some endorsed.reviewed).trans analysisDigest.symm
              allowed := allowed_of_runtimeAllowed reviewerAllowed
              independent := independent_of_accepted reconciled accepted
              verdict := endorsed.verdict
              unflagged := endorsed.unflagged }
          cites := cites }
  · cases verified

/-- The sample mission is verified, so a dossier stands behind its outcome. -/
theorem sample_mission_sound :
    ∃ candidate dossier,
      verifyMissionCompletion samplePlatform sampleHeld candidate samplePlan
        (writtenSteps (sampleJournal shortSummary)).reverse (writtenEvidence (sampleJournal shortSummary)) = .ok () ∧
      Verified samplePlatform sampleHeld candidate samplePlan (writtenEvidence (sampleJournal shortSummary))
        dossier := by
  obtain ⟨candidate, stands⟩ := sample_pursues (by decide +kernel : (reconcileMission samplePlatform
    (sampleInput shortSummary)).map MissionReconciliation.decision = some .accepted)
  have requests : Requests (runRepoAnalysisMission samplePlatform sampleDeps) (sampleJournal shortSummary)
    (completionEmission candidate) := requests_pursue stands
  have admitted : sampleTask.parse = some sampleDeps.task := sample_admitted
  have planned : planTask samplePlatform sampleDeps.task .mission = some sampleDeps.plan := sample_planned
  obtain ⟨report, analysis, only, parses, verified⟩ := verified_of_requests admitted planned requests
    (sample_ofRepository shortSummary) sample_verifying
    (FaithfulSteps.latest (writtenSteps (sampleJournal shortSummary)))
    (FaithfulRecords.refl (writtenEvidence (sampleJournal shortSummary)))
  have uncut : ¬ EndsInSpace analysis := by
    intro cut
    obtain ⟨unit, found, -⟩ := cut
    have short : ((parseAnalysis samplePlatform (sampleAnalysis shortSummary)).bind fun analysis =>
        analysis.summary.text[489]?) = none := by decide +kernel
    rw [← sample_analysed ((only report.text report.receipt).mpr rfl), parses, Option.bind_some, found] at short
    cases short
  obtain ⟨dossier, sound⟩ := verified_mission_sound (verified.mpr uncut)
  exact ⟨candidate, dossier, verified.mpr uncut, sound⟩

end KernelJson.Mission.Soundness
