import KernelJson.Contracts.Cognition
import KernelJson.Contracts.Reports

/-!
# Morning briefs

The facts of a brief, which are the activity of the visible repositories and
the kernel's own tasks; what the analyst must return; and the record of the
kernel's judgement, which carries the checks in their order.
-/

namespace KernelJson.Contracts.Brief

open Contracts.Cognition
open Contracts.Common
open Contracts.Github
open Contracts.Objective
open Contracts.Platform
open Contracts.Reports
open Foundation
open Foundation.JsText

abbrev TimestampText : Type := Matching isTimestampText

/-! ## Activity -/

structure BriefCommit where
  sha : Sha40
  date : TimestampText
  author : BoundedText 0 100
  message : BoundedText 0 200

structure BriefPull where
  number : Positive
  title : BoundedText 0 200
  author : BoundedText 0 100
  draft : Bool
  updatedAt : TimestampText

structure BriefCiRun where
  runId : Positive
  name : BoundedText 0 200
  status : BoundedText 0 40
  conclusion : Option (BoundedText 0 40)
  headSha : Sha40
  updatedAt : TimestampText

abbrev Commits : Type := { commits : List BriefCommit // commits.length ≤ 20 }

abbrev Pulls : Type := { pulls : List BriefPull // pulls.length ≤ 10 }

/-- A repository that was pushed to; `openPulls` is null where the token cannot read them. -/
structure BriefActiveRepo where
  repo : RepoSlug
  isPrivate : Bool
  defaultBranch : BoundedText 1 200
  pushedAt : TimestampText
  commits : Commits
  commitsTruncated : Bool
  openPulls : Option Pulls
  pullsTruncated : Bool
  ci : Option BriefCiRun

/-- The receipt of the capability. -/
structure GithubActivity where
  windowStart : TimestampText
  windowEnd : TimestampText
  reposVisible : Count
  reposVisibleTruncated : Bool
  active : { repos : List BriefActiveRepo // repos.length ≤ 25 }
  activeTruncated : Bool

structure TaskCount where
  recipe : BoundedText 0 80
  status : BoundedText 0 20
  count : Positive

structure LastCanary where
  taskId : Id
  status : BoundedText 0 20
  createdAt : TimestampText

structure KernelState where
  tasks : { tasks : List TaskCount // tasks.length ≤ 64 }
  lastCanary : Option LastCanary

structure BriefFacts where
  github : GithubActivity
  githubDigest : Sha256Text
  kernel : KernelState

/-! ## Schemas of the activity -/

def timestampText : Codec TimestampText := .matching isTimestampText

def BriefCommit.codec : Codec BriefCommit :=
  (FieldsCodec.cons (js "sha") (.matching isSha40)
    (.cons (js "date") timestampText
      (.cons (js "author") (.matching (lengthWithin 0 100))
        (.field (js "message") (.matching (lengthWithin 0 200)))
        (by decide +kernel))
      (by decide +kernel))
    (by decide +kernel)).strict.transport
    (fun raw => ⟨raw.1, raw.2.1, raw.2.2.1, raw.2.2.2⟩)
    (fun commit => (commit.sha, commit.date, commit.author, commit.message))
    fun _ => rfl

def BriefPull.codec : Codec BriefPull :=
  (FieldsCodec.cons (js "number") positive
    (.cons (js "title") (.matching (lengthWithin 0 200))
      (.cons (js "author") (.matching (lengthWithin 0 100))
        (.cons (js "draft") .bool (.field (js "updatedAt") timestampText) (by decide +kernel))
        (by decide +kernel))
      (by decide +kernel))
    (by decide +kernel)).strict.transport
    (fun raw => ⟨raw.1, raw.2.1, raw.2.2.1, raw.2.2.2.1, raw.2.2.2.2⟩)
    (fun pull => (pull.number, pull.title, pull.author, pull.draft, pull.updatedAt))
    fun _ => rfl

def BriefCiRun.fields : FieldsCodec
    (Positive × BoundedText 0 200 × BoundedText 0 40 × Option (BoundedText 0 40) × Sha40 × TimestampText) :=
  .cons (js "runId") positive
    (.cons (js "name") (.matching (lengthWithin 0 200))
      (.cons (js "status") (.matching (lengthWithin 0 40))
        (.cons (js "conclusion") (.nullable (.matching (lengthWithin 0 40)) fun _ => Json.noConfusion)
          (.cons (js "headSha") (.matching isSha40) (.field (js "updatedAt") timestampText) (by decide +kernel))
          (by decide +kernel))
        (by decide +kernel))
      (by decide +kernel))
    (by decide +kernel)

def BriefCiRun.codec : Codec BriefCiRun :=
  BriefCiRun.fields.strict.transport
    (fun raw => ⟨raw.1, raw.2.1, raw.2.2.1, raw.2.2.2.1, raw.2.2.2.2.1, raw.2.2.2.2.2⟩)
    (fun run => (run.runId, run.name, run.status, run.conclusion, run.headSha, run.updatedAt))
    fun _ => rfl

theorem BriefCiRun.codec_visible (run : BriefCiRun) : BriefCiRun.codec.write run ≠ .null :=
  BriefCiRun.fields.strict_visible _

namespace BriefActiveRepo

def repositoryFields : FieldsCodec (RepoSlug × Bool × BoundedText 1 200 × TimestampText) :=
  .cons (js "repo") (.matching isRepoSlug)
    (.cons (js "private") .bool
      (.cons (js "defaultBranch") (.matching (lengthWithin 1 200)) (.field (js "pushedAt") timestampText)
        (by decide +kernel))
      (by decide +kernel))
    (by decide +kernel)

def activityFields : FieldsCodec (Commits × Bool × Option Pulls × Bool × Option BriefCiRun) :=
  .cons (js "commits") (BriefCommit.codec.list.refine fun commits => commits.length ≤ 20)
    (.cons (js "commitsTruncated") .bool
      (.cons (js "openPulls")
          (.nullable (BriefPull.codec.list.refine fun pulls => pulls.length ≤ 10) fun _ => Json.noConfusion)
        (.cons (js "pullsTruncated") .bool
          (.field (js "ci") (.nullable BriefCiRun.codec BriefCiRun.codec_visible))
          (by decide +kernel))
        (by decide +kernel))
      (by decide +kernel))
    (by decide +kernel)

/-- The fields in the order of the schema. -/
def codec : Codec BriefActiveRepo :=
  (repositoryFields.and activityFields (by decide +kernel)).strict.transport
    (fun ⟨⟨repo, isPrivate, defaultBranch, pushedAt⟩, commits, commitsTruncated, openPulls, pullsTruncated, ci⟩ =>
      { repo, isPrivate, defaultBranch, pushedAt, commits, commitsTruncated, openPulls, pullsTruncated, ci })
    (fun repo => ((repo.repo, repo.isPrivate, repo.defaultBranch, repo.pushedAt),
      repo.commits, repo.commitsTruncated, repo.openPulls, repo.pullsTruncated, repo.ci))
    fun _ => rfl

end BriefActiveRepo

def GithubActivity.codec : Codec GithubActivity :=
  (FieldsCodec.cons (js "windowStart") timestampText
    (.cons (js "windowEnd") timestampText
      (.cons (js "reposVisible") (.between 0 9007199254740991)
        (.cons (js "reposVisibleTruncated") .bool
          (.cons (js "active") (BriefActiveRepo.codec.list.refine fun repos => repos.length ≤ 25)
            (.field (js "activeTruncated") .bool)
            (by decide +kernel))
          (by decide +kernel))
        (by decide +kernel))
      (by decide +kernel))
    (by decide +kernel)).strict.transport
    (fun raw => ⟨raw.1, raw.2.1, raw.2.2.1, raw.2.2.2.1, raw.2.2.2.2.1, raw.2.2.2.2.2⟩)
    (fun activity => (activity.windowStart, activity.windowEnd, activity.reposVisible,
      activity.reposVisibleTruncated, activity.active, activity.activeTruncated))
    fun _ => rfl

def TaskCount.codec : Codec TaskCount :=
  (FieldsCodec.cons (js "recipe") (.matching (lengthWithin 0 80))
    (.cons (js "status") (.matching (lengthWithin 0 20)) (.field (js "count") positive) (by decide +kernel))
    (by decide +kernel)).strict.transport
    (fun raw => ⟨raw.1, raw.2.1, raw.2.2⟩) (fun tasks => (tasks.recipe, tasks.status, tasks.count)) fun _ => rfl

def LastCanary.fields : FieldsCodec (Id × BoundedText 0 20 × TimestampText) :=
  .cons (js "taskId") idCodec
    (.cons (js "status") (.matching (lengthWithin 0 20)) (.field (js "createdAt") timestampText)
      (by decide +kernel))
    (by decide +kernel)

def LastCanary.codec : Codec LastCanary :=
  LastCanary.fields.strict.transport
    (fun raw => ⟨raw.1, raw.2.1, raw.2.2⟩) (fun canary => (canary.taskId, canary.status, canary.createdAt))
    fun _ => rfl

theorem LastCanary.codec_visible (canary : LastCanary) : LastCanary.codec.write canary ≠ .null :=
  LastCanary.fields.strict_visible _

def KernelState.codec : Codec KernelState :=
  (FieldsCodec.cons (js "tasks") (TaskCount.codec.list.refine fun tasks => tasks.length ≤ 64)
    (.field (js "lastCanary") (.nullable LastCanary.codec LastCanary.codec_visible))
    (by decide +kernel)).strict.transport
    (fun raw => ⟨raw.1, raw.2⟩) (fun state => (state.tasks, state.lastCanary)) fun _ => rfl

def BriefFacts.codec : Codec BriefFacts :=
  (FieldsCodec.cons (js "github") GithubActivity.codec
    (.cons (js "githubDigest") (.matching isSha256Text) (.field (js "kernel") KernelState.codec)
      (by decide +kernel))
    (by decide +kernel)).strict.transport
    (fun raw => ⟨raw.1, raw.2.1, raw.2.2⟩) (fun facts => (facts.github, facts.githubDigest, facts.kernel))
    fun _ => rfl

/-! ## The analyst's brief -/

structure BriefItem where
  title : TrimmedText 3 120
  detail : TrimmedText 10 600
  refs : { refs : List (BoundedText 1 200) // refs.length ≤ 8 }

structure BriefAnalysis where
  windowEnd : TimestampText
  headline : TrimmedText 10 300
  items : { items : List BriefItem // 1 ≤ items.length ∧ items.length ≤ 12 }

def BriefItem.codec : Codec BriefItem :=
  (FieldsCodec.cons (js "title") (TrimmedText.codec 3 120)
    (.cons (js "detail") (TrimmedText.codec 10 600)
      (.field (js "refs") ((Codec.matching (lengthWithin 1 200)).list.refine fun refs => refs.length ≤ 8))
      (by decide +kernel))
    (by decide +kernel)).strict.transport
    (fun raw => ⟨raw.1, raw.2.1, raw.2.2⟩) (fun item => (item.title, item.detail, item.refs)) fun _ => rfl

def BriefAnalysis.codec : Codec BriefAnalysis :=
  (FieldsCodec.cons (js "windowEnd") timestampText
    (.cons (js "headline") (TrimmedText.codec 10 300)
      (.field (js "items") (BriefItem.codec.list.refine fun items => 1 ≤ items.length ∧ items.length ≤ 12))
      (by decide +kernel))
    (by decide +kernel)).strict.transport
    (fun raw => ⟨raw.1, raw.2.1, raw.2.2⟩) (fun brief => (brief.windowEnd, brief.headline, brief.items))
    fun _ => rfl

/-! ## The reconciliation -/

inductive BriefCheck where
  | briefSchemaValid
  | briefWindowMatchesEvidence
  | briefItemsCited
  | briefRefsExistInEvidence
  | reviewSchemaValid
  | reviewBindsToAnalysis
  | analystRuntimeAllowed
  | reviewerRuntimeAllowed
  | reviewerIsIndependent
  | reviewVerdictAcceptable
  | reviewLeavesSupportedItems
deriving DecidableEq

/-- `BRIEF_RECONCILE_CHECKS`. -/
def briefReconcileChecks : List BriefCheck :=
  [.briefSchemaValid, .briefWindowMatchesEvidence, .briefItemsCited, .briefRefsExistInEvidence,
    .reviewSchemaValid, .reviewBindsToAnalysis, .analystRuntimeAllowed, .reviewerRuntimeAllowed,
    .reviewerIsIndependent, .reviewVerdictAcceptable, .reviewLeavesSupportedItems]

def BriefCheck.text : BriefCheck → JsString
  | .briefSchemaValid => js "brief_schema_valid"
  | .briefWindowMatchesEvidence => js "brief_window_matches_evidence"
  | .briefItemsCited => js "brief_items_cited"
  | .briefRefsExistInEvidence => js "brief_refs_exist_in_evidence"
  | .reviewSchemaValid => js "review_schema_valid"
  | .reviewBindsToAnalysis => js "review_binds_to_analysis"
  | .analystRuntimeAllowed => js "analyst_runtime_allowed"
  | .reviewerRuntimeAllowed => js "reviewer_runtime_allowed"
  | .reviewerIsIndependent => js "reviewer_is_independent"
  | .reviewVerdictAcceptable => js "review_verdict_acceptable"
  | .reviewLeavesSupportedItems => js "review_leaves_supported_items"

abbrev WithheldItems : Type := { positions : List (Between 0 11) // positions.length ≤ 12 }

structure BriefReconciliation where
  decision : Decision
  checks : List (BriefCheck × Bool)
  itemCount : Between 0 12
  withheldItems : WithheldItems
  factsDigest : Sha256Text
  analysisDigest : Sha256Text
  reviewDigest : Sha256Text
  analystModel : BoundedText 0 256
  reviewerModel : BoundedText 0 256
  independence : Independence
  inOrder : checks.map Prod.fst = briefReconcileChecks
  decides : decision = .accepted ↔ ∀ check ∈ checks, check.2 = true

def BriefCheck.codec : Codec BriefCheck :=
  .enum BriefCheck.text briefReconcileChecks (fun check => by cases check <;> decide) (by decide +kernel)

/-- One check with its result. -/
theorem briefCheck_apart : js "name" ∉ [js "passed"] := by
  decide +kernel

def briefCheckCodec : Codec (BriefCheck × Bool) :=
  (FieldsCodec.cons (js "name") BriefCheck.codec (.field (js "passed") .bool) briefCheck_apart).strict

namespace BriefReconciliation

def judgementFields : FieldsCodec (Decision × List (BriefCheck × Bool) × Between 0 12 × WithheldItems) :=
  .cons (js "decision") Decision.codec
    (.cons (js "checks") briefCheckCodec.list
      (.cons (js "itemCount") (.between 0 12)
        (.field (js "withheldItems") ((Codec.between 0 11).list.refine fun positions => positions.length ≤ 12))
        (by decide +kernel))
      (by decide +kernel))
    (by decide +kernel)

theorem analysisDigest_apart : js "analysisDigest" ∉ [js "reviewDigest"] := by
  decide +kernel

theorem factsDigest_apart : js "factsDigest" ∉ [js "analysisDigest", js "reviewDigest"] := by
  decide +kernel

def digestFields : FieldsCodec (Sha256Text × Sha256Text × Sha256Text) :=
  .cons (js "factsDigest") (.matching isSha256Text)
    (.cons (js "analysisDigest") (.matching isSha256Text) (.field (js "reviewDigest") (.matching isSha256Text))
      analysisDigest_apart)
    factsDigest_apart

/-- A decision and the checks behind it. -/
def Refined (decision : Decision) (checks : List (BriefCheck × Bool)) : Prop :=
  checks.map Prod.fst = briefReconcileChecks ∧ (decision = .accepted ↔ ∀ check ∈ checks, check.2 = true)

instance (decision : Decision) (checks : List (BriefCheck × Bool)) : Decidable (Refined decision checks) :=
  inferInstanceAs (Decidable (_ ∧ _))

/-- The fields in the order of the schema, with its refinements. -/
def codec : Codec BriefReconciliation :=
  ((judgementFields.and (digestFields.and MissionReconciliation.runtimeFields (by decide +kernel))
      (by decide +kernel)).strict.refine
    fun raw => Refined raw.1.1 raw.1.2.1).transport
    (fun ⟨⟨⟨decision, checks, itemCount, withheldItems⟩,
        ⟨factsDigest, analysisDigest, reviewDigest⟩, analystModel, reviewerModel, independence⟩, refined⟩ =>
      { decision, checks, itemCount, withheldItems, factsDigest, analysisDigest, reviewDigest, analystModel,
        reviewerModel, independence, inOrder := refined.1, decides := refined.2 })
    (fun record =>
      ⟨((record.decision, record.checks, record.itemCount, record.withheldItems),
          (record.factsDigest, record.analysisDigest, record.reviewDigest),
          record.analystModel, record.reviewerModel, record.independence),
        record.inOrder, record.decides⟩)
    fun _ => rfl

end BriefReconciliation

end KernelJson.Contracts.Brief
