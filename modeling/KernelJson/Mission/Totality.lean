import KernelJson.Mission.Brief

/-!
# When a judgement is returned

Both judgements are parsed by the schema of their record.  A model receipt may
carry labels of up to 256 units, and the record takes providers and families
of up to 64: beyond that the parser throws, whatever the runtimes wrote.
-/

namespace KernelJson.Mission.Totality

open Contracts.Brief
open Contracts.Github
open Contracts.Objective
open Contracts.Platform
open Contracts.Reports
open Foundation
open Foundation.JsText
open Mission.Brief
open Mission.Reconcile

/-! ## Labels of receipts -/

/-- The pattern of `Label`. -/
def isLabel (text : JsString) : Bool :=
  lengthWithin 1 256 text && text.head?.all isAlphanumericUnit &&
    text.all fun unit => isAlphanumericUnit unit || unit == 46 || unit == 95 || unit == 58 || unit == 47 || unit == 45

/-- What the receipts of the two runtimes report. -/
structure ReceiptLabels where
  analystModel : Matching isLabel
  analystProvider : Matching isLabel
  reviewerModel : Matching isLabel
  reviewerProvider : Matching isLabel

section Totality

variable (platform : Platform)

/-- The names that the record takes. -/
structure ReceiptLabels.Fit (labels : ReceiptLabels) : Prop where
  analystProvider : labels.analystProvider.val.length ≤ 64
  reviewerProvider : labels.reviewerProvider.val.length ≤ 64
  analystFamily : (modelFamily platform labels.analystModel.val).length ≤ 64
  reviewerFamily : (modelFamily platform labels.reviewerModel.val).length ≤ 64

theorem length_label (label : Matching isLabel) : 1 ≤ label.val.length ∧ label.val.length ≤ 256 := by
  have held := label.property
  simp only [isLabel, lengthWithin, Bool.and_eq_true, decide_eq_true_eq] at held
  exact held.1.1

/-- A name is taken exactly within its bounds. -/
theorem parse_iff (shortest longest : Nat) (text : JsString) :
    (∃ bounded, Matching.parse (lengthWithin shortest longest) text = some bounded) ↔
      shortest ≤ text.length ∧ text.length ≤ longest := by
  unfold Matching.parse
  constructor
  · rintro ⟨bounded, found⟩
    split at found
    · next within => simpa only [lengthWithin, Bool.and_eq_true, decide_eq_true_eq] using within
    · cases found
  · intro within
    have bounded : lengthWithin shortest longest text = true := by
      simpa only [lengthWithin, Bool.and_eq_true, decide_eq_true_eq] using within
    exact ⟨⟨text, bounded⟩, dif_pos bounded⟩

theorem independenceOf_iff (labels : ReceiptLabels) :
    (∃ record, independenceOf platform labels.analystProvider.val labels.reviewerProvider.val
      labels.analystModel.val labels.reviewerModel.val = some record) ↔ labels.Fit platform := by
  have analystNamed := (length_label labels.analystProvider).1
  have reviewerNamed := (length_label labels.reviewerProvider).1
  constructor
  · rintro ⟨record, found⟩
    simp only [independenceOf, Option.bind_eq_bind, Option.bind_eq_some_iff] at found
    obtain ⟨analyst, one, reviewer, two, first, three, second, four, -⟩ := found
    exact ⟨((parse_iff 1 64 _).mp ⟨analyst, one⟩).2, ((parse_iff 1 64 _).mp ⟨reviewer, two⟩).2,
      ((parse_iff 0 64 _).mp ⟨first, three⟩).2, ((parse_iff 0 64 _).mp ⟨second, four⟩).2⟩
  · intro fit
    obtain ⟨analyst, one⟩ := (parse_iff 1 64 _).mpr ⟨analystNamed, fit.analystProvider⟩
    obtain ⟨reviewer, two⟩ := (parse_iff 1 64 _).mpr ⟨reviewerNamed, fit.reviewerProvider⟩
    obtain ⟨first, three⟩ := (parse_iff 0 64 _).mpr ⟨Nat.zero_le _, fit.analystFamily⟩
    obtain ⟨second, four⟩ := (parse_iff 0 64 _).mpr ⟨Nat.zero_le _, fit.reviewerFamily⟩
    simp only [independenceOf, one, two, three, four, Option.bind_eq_bind, Option.bind_some]
    exact ⟨_, rfl⟩

/-- A reported model is within the bounds of the record. -/
theorem parse_model (label : Matching isLabel) :
    ∃ bounded, Matching.parse (lengthWithin 0 256) label.val = some bounded :=
  (parse_iff 0 256 _).mpr ⟨Nat.zero_le _, (length_label label).2⟩

/-! ## The mission's judgement -/

/-- The input that the labels of receipts give. -/
def missionInput (labels : ReceiptLabels) (facts : GithubFacts) (contract : MissionContract)
    (analysisText reviewText : JsString) : ReconcileInput where
  facts := facts
  contract := contract
  analysisText := analysisText
  analystModel := labels.analystModel.val
  analystProvider := labels.analystProvider.val
  reviewText := reviewText
  reviewerModel := labels.reviewerModel.val
  reviewerProvider := labels.reviewerProvider.val

theorem reconcileMission_iff (labels : ReceiptLabels) (facts : GithubFacts) (contract : MissionContract)
    (analysisText reviewText : JsString) :
    (∃ record, reconcileMission platform (missionInput labels facts contract analysisText reviewText) =
      some record) ↔ labels.Fit platform := by
  rw [← independenceOf_iff]
  constructor
  · rintro ⟨record, found⟩
    simp only [reconcileMission, Option.bind_eq_bind, Option.bind_eq_some_iff] at found
    obtain ⟨-, -, -, -, independence, held, -⟩ := found
    exact ⟨independence, held⟩
  · rintro ⟨independence, held⟩
    obtain ⟨analyst, one⟩ := parse_model labels.analystModel
    obtain ⟨reviewer, two⟩ := parse_model labels.reviewerModel
    have three : (missionInput labels facts contract analysisText reviewText).independence platform =
        some independence := held
    simp only [reconcileMission, missionInput, one, two, Option.bind_eq_bind, Option.bind_some] at three ⊢
    rw [three]
    exact ⟨_, rfl⟩

/-! ## The brief's judgement -/

def briefInput (labels : ReceiptLabels) (facts : BriefFacts) (memoryIds : List JsString)
    (analysisText reviewText : JsString) : BriefReconcileInput where
  facts := facts
  memoryIds := memoryIds
  analysisText := analysisText
  analystModel := labels.analystModel.val
  analystProvider := labels.analystProvider.val
  reviewText := reviewText
  reviewerModel := labels.reviewerModel.val
  reviewerProvider := labels.reviewerProvider.val

theorem reconcileBrief_iff (labels : ReceiptLabels) (facts : BriefFacts) (memoryIds : List JsString)
    (analysisText reviewText : JsString) :
    (∃ record, reconcileBrief platform (briefInput labels facts memoryIds analysisText reviewText) =
      some record) ↔ labels.Fit platform := by
  rw [← independenceOf_iff]
  constructor
  · rintro ⟨record, found⟩
    simp only [reconcileBrief, Option.bind_eq_bind, Option.bind_eq_some_iff] at found
    obtain ⟨-, -, -, -, independence, held, -⟩ := found
    exact ⟨independence, held⟩
  · rintro ⟨independence, held⟩
    obtain ⟨analyst, one⟩ := parse_model labels.analystModel
    obtain ⟨reviewer, two⟩ := parse_model labels.reviewerModel
    simp only [reconcileBrief, briefInput, one, two, held, Option.bind_eq_bind, Option.bind_some]
    exact ⟨_, rfl⟩

/-! ## Decisions and their reasons -/

/-- Accepted, or rejected for a reason that is named. -/
def Decided (decision : Decision) (reasons : List JsString) : Prop :=
  decision = .accepted ∨ (decision = .rejected ∧ reasons ≠ [])

/-- What follows from the checks is rejected for one that failed. -/
theorem decided_of_checks {Check : Type} {checks : List (Check × Bool)} {decision : Decision}
    (text : Check → JsString) (decides : decision = .accepted ↔ ∀ check ∈ checks, check.2 = true) :
    Decided decision ((checks.filter fun check => !check.2).map fun check => text check.1) := by
  cases decision with
  | accepted => exact .inl rfl
  | rejected =>
      refine .inr ⟨rfl, fun none => ?_⟩
      have passed : ∀ check ∈ checks, check.2 = true := by
        intro check member
        by_contra failed
        have kept : check ∈ checks.filter fun check => !check.2 :=
          List.mem_filter.mpr ⟨member, by rw [Bool.eq_false_iff.mpr failed]; rfl⟩
        rw [List.map_eq_nil_iff.mp none] at kept
        cases kept
      cases decides.mpr passed

/-- Both judgements are returned, and decided, exactly for labels that the record takes. -/
theorem judgements_returned_iff (labels : ReceiptLabels) (facts : GithubFacts) (contract : MissionContract)
    (briefFacts : BriefFacts) (memoryIds : List JsString) (analysisText reviewText : JsString) :
    ((∃ record, reconcileMission platform (missionInput labels facts contract analysisText reviewText) =
        some record ∧ Decided record.decision (failedCheckNames record)) ↔ labels.Fit platform) ∧
    ((∃ record, reconcileBrief platform (briefInput labels briefFacts memoryIds analysisText reviewText) =
        some record ∧ Decided record.decision (briefFailedChecks record)) ↔ labels.Fit platform) := by
  rw [← reconcileMission_iff platform labels facts contract analysisText reviewText]
  constructor
  · constructor
    · rintro ⟨record, found, -⟩
      exact ⟨record, found⟩
    · rintro ⟨record, found⟩
      exact ⟨record, found, decided_of_checks ReconcileCheck.text record.decides⟩
  · rw [reconcileMission_iff, ← reconcileBrief_iff platform labels briefFacts memoryIds analysisText reviewText]
    constructor
    · rintro ⟨record, found, -⟩
      exact ⟨record, found⟩
    · rintro ⟨record, found⟩
      exact ⟨record, found, decided_of_checks BriefCheck.text record.decides⟩

end Totality

/-! ## A label that throws -/

/-- A model label of 65 letters, which receipts carry. -/
def longLabel : Matching isLabel := ⟨List.replicate 65 97, by decide +kernel⟩

def shortLabel : Matching isLabel := ⟨js "deepseek", by decide +kernel⟩

def longModel : ReceiptLabels := ⟨longLabel, shortLabel, shortLabel, shortLabel⟩

def quietActivity : GithubActivity where
  windowStart := ⟨js "2026-02-01T00:00:00Z", by decide +kernel⟩
  windowEnd := ⟨js "2026-02-02T00:00:00Z", by decide +kernel⟩
  reposVisible := ⟨2, by decide⟩
  reposVisibleTruncated := false
  active := ⟨[], by decide⟩
  activeTruncated := false

def quietFacts : BriefFacts :=
  ⟨quietActivity, ⟨List.replicate 64 48, by decide +kernel⟩, ⟨⟨[], by decide⟩, none⟩⟩

def plainFacts : GithubFacts where
  repo := ⟨js "owner/repo", by decide +kernel⟩
  isPrivate := false
  defaultBranch := ⟨js "trunk", by decide +kernel⟩
  headSha := ⟨List.replicate 40 49, by decide +kernel⟩
  headCommitDate := ⟨js "2026-01-31T00:00:00Z", by decide +kernel⟩
  headCommitMessage := ⟨js "initial", by decide +kernel⟩
  language := none
  sizeKb := ⟨3, by decide⟩
  pushedAt := none
  openIssues := ⟨4, by decide⟩
  tree := ⟨[], by decide⟩
  treeTruncated := false
  readme := none

/-- Neither judgement is returned for the long label, whatever was captured or written. -/
theorem long_model_throws :
    reconcileMission .ascii (missionInput longModel plainFacts (.ofDirectives none none) [] []) = none ∧
      reconcileBrief .ascii (briefInput longModel quietFacts [] [] []) = none := by
  have tooLong : ¬ longModel.Fit .ascii := fun fit => absurd fit.analystFamily (by decide +kernel)
  constructor
  · refine Option.eq_none_iff_forall_ne_some.mpr fun record found => tooLong ?_
    exact (reconcileMission_iff .ascii longModel plainFacts (.ofDirectives none none) [] []).mp ⟨record, found⟩
  · refine Option.eq_none_iff_forall_ne_some.mpr fun record found => tooLong ?_
    exact (reconcileBrief_iff .ascii longModel quietFacts [] [] []).mp ⟨record, found⟩

end KernelJson.Mission.Totality
