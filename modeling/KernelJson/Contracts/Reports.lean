import KernelJson.Contracts.Github

/-!
# Reports of the mission runtimes, and their reconciliation

What the analyst and the reviewer must return, and the record of the kernel's
judgement, which carries the checks in their order and decides as they do.
-/

namespace KernelJson.Contracts.Reports

open Contracts.Github
open Contracts.Objective
open Contracts.Platform
open Foundation
open Foundation.JsText

/-! ## Trimmed texts -/

/-- A value of `z.string().trim().min(shortest).max(longest)`. -/
structure TrimmedText (shortest longest : Nat) where
  text : JsString
  trimmed : trim text = text
  bounded : lengthWithin shortest longest text = true

namespace TrimmedText

variable {shortest longest : Nat}

def parse (shortest longest : Nat) (text : JsString) : Option (TrimmedText shortest longest) :=
  if bounded : lengthWithin shortest longest (trim text) = true then some ⟨trim text, trim_trim text, bounded⟩
  else none

theorem parse_text (value : TrimmedText shortest longest) : parse shortest longest value.text = some value := by
  obtain ⟨text, trimmed, bounded⟩ := value
  simp only [parse, trimmed]
  exact dif_pos bounded

def codec (shortest longest : Nat) : Codec (TrimmedText shortest longest) where
  write := fun value => .str value.text
  read := fun json => json.asString?.bind (parse shortest longest)
  read_write := parse_text
  read_sortKeys := fun json => by rw [Json.asString?_sortKeys]

end TrimmedText

/-! ## The analysis -/

/-- An abbreviated or full git object id. -/
def isBlobSha (text : JsString) : Bool :=
  lengthWithin 12 40 text && text.all fun unit => isDigitUnit unit || (97 ≤ unit.toNat && unit.toNat ≤ 102)

structure FindingEvidence where
  path : BoundedText 1 300
  blobSha : Matching isBlobSha

structure Finding where
  title : TrimmedText 3 160
  detail : TrimmedText 10 1200
  evidence : { cited : List FindingEvidence // cited.length ≤ 8 }

structure MissionAnalysis where
  headSha : Sha40
  summary : TrimmedText 20 4000
  findings : { found : List Finding // 1 ≤ found.length ∧ found.length ≤ 12 }

def FindingEvidence.codec : Codec FindingEvidence :=
  (FieldsCodec.cons (js "path") (.matching (lengthWithin 1 300)) (.field (js "blobSha") (.matching isBlobSha))
    (by decide +kernel)).strict.transport
    (fun raw => ⟨raw.1, raw.2⟩) (fun evidence => (evidence.path, evidence.blobSha)) fun _ => rfl

def Finding.codec : Codec Finding :=
  (FieldsCodec.cons (js "title") (TrimmedText.codec 3 160)
    (.cons (js "detail") (TrimmedText.codec 10 1200)
      (.field (js "evidence") (FindingEvidence.codec.list.refine fun cited => cited.length ≤ 8))
      (by decide +kernel))
    (by decide +kernel)).strict.transport
    (fun raw => ⟨raw.1, raw.2.1, raw.2.2⟩) (fun finding => (finding.title, finding.detail, finding.evidence))
    fun _ => rfl

def MissionAnalysis.codec : Codec MissionAnalysis :=
  (FieldsCodec.cons (js "headSha") (.matching isSha40)
    (.cons (js "summary") (TrimmedText.codec 20 4000)
      (.field (js "findings") (Finding.codec.list.refine fun found => 1 ≤ found.length ∧ found.length ≤ 12))
      (by decide +kernel))
    (by decide +kernel)).strict.transport
    (fun raw => ⟨raw.1, raw.2.1, raw.2.2⟩) (fun analysis => (analysis.headSha, analysis.summary, analysis.findings))
    fun _ => rfl

/-! ## The review -/

inductive Verdict where
  | approve
  | approveWithNotes
  | reject
deriving DecidableEq

def Verdict.text : Verdict → JsString
  | .approve => js "approve"
  | .approveWithNotes => js "approve_with_notes"
  | .reject => js "reject"

structure MissionReview where
  reviewedAnalysisSha256 : Sha256Text
  verdict : Verdict
  unsupportedFindings : { flagged : List (Between 0 11) // flagged.length ≤ 12 }
  notes : { notes : List (TrimmedText 1 400) // notes.length ≤ 10 }

def Verdict.codec : Codec Verdict :=
  .enum Verdict.text [.approve, .approveWithNotes, .reject] (fun verdict => by cases verdict <;> decide)
    (by decide +kernel)

def MissionReview.codec : Codec MissionReview :=
  (FieldsCodec.cons (js "reviewedAnalysisSha256") (.matching isSha256Text)
    (.cons (js "verdict") Verdict.codec
      (.cons (js "unsupportedFindings") ((Codec.between 0 11).list.refine fun flagged => flagged.length ≤ 12)
        (.field (js "notes") ((TrimmedText.codec 1 400).list.refine fun notes => notes.length ≤ 10))
        (by decide +kernel))
      (by decide +kernel))
    (by decide +kernel)).strict.transport
    (fun raw => ⟨raw.1, raw.2.1, raw.2.2.1, raw.2.2.2⟩)
    (fun review => (review.reviewedAnalysisSha256, review.verdict, review.unsupportedFindings, review.notes))
    fun _ => rfl

/-! ## The reconciliation -/

inductive ReconcileCheck where
  | analysisSchemaValid
  | analysisHeadShaMatchesEvidence
  | analysisFindingCountWithinContract
  | analysisFindingsCited
  | analysisPathsExistInEvidence
  | analysisEvidenceBindsToCommit
  | reviewSchemaValid
  | reviewBindsToAnalysis
  | analystRuntimeAllowed
  | reviewerRuntimeAllowed
  | reviewerIsIndependent
  | reviewVerdictAcceptable
  | reviewFlagsNoUnsupportedFindings
deriving DecidableEq

/-- `RECONCILE_CHECKS`. -/
def reconcileChecks : List ReconcileCheck :=
  [.analysisSchemaValid, .analysisHeadShaMatchesEvidence, .analysisFindingCountWithinContract,
    .analysisFindingsCited, .analysisPathsExistInEvidence, .analysisEvidenceBindsToCommit,
    .reviewSchemaValid, .reviewBindsToAnalysis, .analystRuntimeAllowed, .reviewerRuntimeAllowed,
    .reviewerIsIndependent, .reviewVerdictAcceptable, .reviewFlagsNoUnsupportedFindings]

def ReconcileCheck.text : ReconcileCheck → JsString
  | .analysisSchemaValid => js "analysis_schema_valid"
  | .analysisHeadShaMatchesEvidence => js "analysis_head_sha_matches_evidence"
  | .analysisFindingCountWithinContract => js "analysis_finding_count_within_contract"
  | .analysisFindingsCited => js "analysis_findings_cited"
  | .analysisPathsExistInEvidence => js "analysis_paths_exist_in_evidence"
  | .analysisEvidenceBindsToCommit => js "analysis_evidence_binds_to_commit"
  | .reviewSchemaValid => js "review_schema_valid"
  | .reviewBindsToAnalysis => js "review_binds_to_analysis"
  | .analystRuntimeAllowed => js "analyst_runtime_allowed"
  | .reviewerRuntimeAllowed => js "reviewer_runtime_allowed"
  | .reviewerIsIndependent => js "reviewer_is_independent"
  | .reviewVerdictAcceptable => js "review_verdict_acceptable"
  | .reviewFlagsNoUnsupportedFindings => js "review_flags_no_unsupported_findings"

inductive Decision where
  | accepted
  | rejected
deriving DecidableEq

def Decision.text : Decision → JsString
  | .accepted => js "ACCEPTED"
  | .rejected => js "REJECTED"

/-- Who ran, as recorded on the runtimes' own receipts. -/
structure Independence where
  analystProvider : BoundedText 1 64
  reviewerProvider : BoundedText 1 64
  analystFamily : BoundedText 0 64
  reviewerFamily : BoundedText 0 64
  crossProvider : Bool
  crossFamily : Bool

structure MissionReconciliation where
  decision : Decision
  checks : List (ReconcileCheck × Bool)
  contract : MissionContract
  findingCount : Between 0 12
  findingEvidenceDigests : { digests : List Sha256Text // digests.length ≤ 12 }
  githubDigest : Sha256Text
  analysisDigest : Sha256Text
  reviewDigest : Sha256Text
  analystModel : BoundedText 0 256
  reviewerModel : BoundedText 0 256
  independence : Independence
  inOrder : checks.map Prod.fst = reconcileChecks
  decides : decision = .accepted ↔ ∀ check ∈ checks, check.2 = true

def Decision.codec : Codec Decision :=
  .enum Decision.text [.accepted, .rejected] (fun decision => by cases decision <;> decide) (by decide +kernel)

def ReconcileCheck.codec : Codec ReconcileCheck :=
  .enum ReconcileCheck.text reconcileChecks (fun check => by cases check <;> decide) (by decide +kernel)

/-- One check with its result. -/
def checkCodec : Codec (ReconcileCheck × Bool) :=
  (FieldsCodec.cons (js "name") ReconcileCheck.codec (.field (js "passed") .bool) (by decide +kernel)).strict

def Independence.codec : Codec Independence :=
  ((FieldsCodec.cons (js "analystProvider") (.matching (lengthWithin 1 64))
      (.field (js "reviewerProvider") (.matching (lengthWithin 1 64))) (by decide +kernel)).and
    (.cons (js "analystFamily") (.matching (lengthWithin 0 64))
      (.cons (js "reviewerFamily") (.matching (lengthWithin 0 64))
        (.cons (js "crossProvider") .bool (.field (js "crossFamily") .bool) (by decide +kernel))
        (by decide +kernel))
      (by decide +kernel))
    (by decide +kernel)).strict.transport
    (fun ⟨⟨analystProvider, reviewerProvider⟩, analystFamily, reviewerFamily, crossProvider, crossFamily⟩ =>
      { analystProvider, reviewerProvider, analystFamily, reviewerFamily, crossProvider, crossFamily })
    (fun record => ((record.analystProvider, record.reviewerProvider),
      record.analystFamily, record.reviewerFamily, record.crossProvider, record.crossFamily))
    fun _ => rfl

namespace MissionReconciliation

def judgementFields :
    FieldsCodec (Decision × List (ReconcileCheck × Bool) × MissionContract × Between 0 12) :=
  .cons (js "decision") Decision.codec
    (.cons (js "checks") checkCodec.list
      (.cons (js "contract") MissionContract.codec (.field (js "findingCount") (.between 0 12))
        (by decide +kernel))
      (by decide +kernel))
    (by decide +kernel)

def digestFields : FieldsCodec
    ({ digests : List Sha256Text // digests.length ≤ 12 } × Sha256Text × Sha256Text × Sha256Text) :=
  .cons (js "findingEvidenceDigests")
      ((Codec.matching isSha256Text).list.refine fun digests => digests.length ≤ 12)
    (.cons (js "githubDigest") (.matching isSha256Text)
      (.cons (js "analysisDigest") (.matching isSha256Text) (.field (js "reviewDigest") (.matching isSha256Text))
        (by decide +kernel))
      (by decide +kernel))
    (by decide +kernel)

def runtimeFields : FieldsCodec (BoundedText 0 256 × BoundedText 0 256 × Independence) :=
  .cons (js "analystModel") (.matching (lengthWithin 0 256))
    (.cons (js "reviewerModel") (.matching (lengthWithin 0 256))
      (.field (js "independence") Independence.codec)
      (by decide +kernel))
    (by decide +kernel)

/-- A decision and the checks behind it. -/
def Refined (decision : Decision) (checks : List (ReconcileCheck × Bool)) : Prop :=
  checks.map Prod.fst = reconcileChecks ∧ (decision = .accepted ↔ ∀ check ∈ checks, check.2 = true)

instance (decision : Decision) (checks : List (ReconcileCheck × Bool)) : Decidable (Refined decision checks) :=
  inferInstanceAs (Decidable (_ ∧ _))

/-- The fields in the order of the schema, with its refinements. -/
def codec : Codec MissionReconciliation :=
  ((judgementFields.and (digestFields.and runtimeFields (by decide +kernel)) (by decide +kernel)).strict.refine
    fun raw => Refined raw.1.1 raw.1.2.1).transport
    (fun ⟨⟨⟨decision, checks, contract, findingCount⟩,
        ⟨findingEvidenceDigests, githubDigest, analysisDigest, reviewDigest⟩,
        analystModel, reviewerModel, independence⟩, refined⟩ =>
      { decision, checks, contract, findingCount, findingEvidenceDigests, githubDigest, analysisDigest,
        reviewDigest, analystModel, reviewerModel, independence, inOrder := refined.1, decides := refined.2 })
    (fun record =>
      ⟨((record.decision, record.checks, record.contract, record.findingCount),
          (record.findingEvidenceDigests, record.githubDigest, record.analysisDigest, record.reviewDigest),
          record.analystModel, record.reviewerModel, record.independence),
        record.inOrder, record.decides⟩)
    fun _ => rfl

end MissionReconciliation

end KernelJson.Contracts.Reports
