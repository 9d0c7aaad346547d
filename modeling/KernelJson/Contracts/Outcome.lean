import KernelJson.Contracts.Platform
import KernelJson.Contracts.Task

/-!
# Evidence, outcomes and completion

The schemas of evidence and outcomes, and the check that an outcome completes
its task from verified evidence.
-/

namespace KernelJson.Contracts.Outcome

open Contracts.Common
open Contracts.Platform
open Contracts.Task
open Foundation
open Foundation.JsText

/-! ## Evidence -/

inductive EvidenceType where
  | deterministicResult
  | toolReceipt
  | artifact
  | humanDecision
deriving DecidableEq

structure Evidence where
  id : Id
  taskId : Id
  stepId : Option Id
  type : EvidenceType
  source : JsString
  ref : Option JsString
  uri : Option JsString
  digest : Option JsString
  capturedAt : Timestamp
  metadata : Json

/-- `Evidence.parse`; the metadata must be an object. -/
def Evidence.parse (evidence : Evidence) : Option Evidence := do
  let source ← parseText evidence.source
  let ref ← parseOptional parseText evidence.ref
  if evidence.digest.all isSha256Text = true ∧ evidence.metadata.names?.isSome = true ∧
      (ref.isSome = true ∨ evidence.uri.isSome = true ∨ evidence.digest.isSome = true) then
    some { evidence with source := source, ref := ref }
  else none

/-! ## Outcomes -/

inductive OutcomeStatus where
  | completed
  | failed
  | cancelled
deriving DecidableEq

def OutcomeStatus.taskStatus : OutcomeStatus → TaskStatus
  | .completed => .completed
  | .failed => .failed
  | .cancelled => .cancelled

structure AcceptanceResult where
  criterion : JsString
  passed : Bool
  evidenceRefs : List Id
deriving DecidableEq

structure Outcome where
  taskId : Id
  status : OutcomeStatus
  acceptanceResults : List AcceptanceResult
  evidenceRefs : List Id
  summary : JsString
  completedAt : Timestamp
deriving DecidableEq

def AcceptanceResult.parse (result : AcceptanceResult) : Option AcceptanceResult := do
  let criterion ← parseText result.criterion
  some { result with criterion := criterion }

/-- The refinements of the outcome schema. -/
def Outcome.Refined (outcome : Outcome) : Prop :=
  (outcome.status = .completed →
    outcome.evidenceRefs ≠ [] ∧ outcome.acceptanceResults ≠ [] ∧
      ∀ result ∈ outcome.acceptanceResults, result.passed = true ∧ result.evidenceRefs ≠ []) ∧
    ∀ result ∈ outcome.acceptanceResults, ∀ ref ∈ result.evidenceRefs, ref ∈ outcome.evidenceRefs

instance (outcome : Outcome) : Decidable outcome.Refined :=
  inferInstanceAs (Decidable (_ ∧ _))

/-- `Outcome.parse`. -/
def Outcome.parse (outcome : Outcome) : Option Outcome := do
  let acceptanceResults ← outcome.acceptanceResults.mapM AcceptanceResult.parse
  let summary ← parseText outcome.summary
  let parsed := { outcome with acceptanceResults := acceptanceResults, summary := summary }
  if parsed.Refined then some parsed else none

theorem AcceptanceResult.parse_again {result parsed : AcceptanceResult} (read : result.parse = some parsed) :
    parsed.parse = some parsed := by
  simp only [AcceptanceResult.parse, Option.bind_eq_bind, Option.bind_eq_some_iff] at read
  obtain ⟨criterion, here, same⟩ := read
  cases same
  simp only [AcceptanceResult.parse, parseText_again here, Option.bind_eq_bind, Option.bind_some]

theorem mapM_parse_again {results parsed : List AcceptanceResult}
    (read : results.mapM AcceptanceResult.parse = some parsed) :
    parsed.mapM AcceptanceResult.parse = some parsed := by
  induction results generalizing parsed with
  | nil =>
      cases read
      rfl
  | cons result rest ih =>
      simp only [List.mapM_cons, Option.bind_eq_bind, Option.bind_eq_some_iff] at read
      obtain ⟨first, here, later, there, same⟩ := read
      cases same
      simp [AcceptanceResult.parse_again here, ih there]

/-- Parsing an outcome trims its texts and changes nothing else. -/
theorem Outcome.parse_cases {outcome parsed : Outcome} (read : outcome.parse = some parsed) :
    ∃ acceptanceResults, outcome.acceptanceResults.mapM AcceptanceResult.parse = some acceptanceResults ∧
      parsed = { outcome with acceptanceResults := acceptanceResults, summary := trim outcome.summary } ∧
      trim outcome.summary ≠ [] ∧ parsed.Refined := by
  simp only [Outcome.parse, Option.bind_eq_bind, Option.bind_eq_some_iff] at read
  obtain ⟨acceptanceResults, results, summary, trimmed, accepted⟩ := read
  unfold parseText at trimmed
  split at trimmed
  · cases trimmed
  · next nonempty =>
      cases trimmed
      split at accepted
      · next refined =>
          cases accepted
          exact ⟨acceptanceResults, results, rfl, nonempty, refined⟩
      · cases accepted

theorem Outcome.parse_again {outcome parsed : Outcome} (read : outcome.parse = some parsed) :
    parsed.parse = some parsed := by
  obtain ⟨acceptanceResults, results, rfl, nonempty, refined⟩ := Outcome.parse_cases read
  simp only [Outcome.parse, mapM_parse_again results, parseText_of_trimmed (trim_trim _) nonempty,
    Option.bind_eq_bind, Option.bind_some]
  exact if_pos refined

/-- `assertCompletion(task, outcome, verified)` does not throw. -/
def CompletesFrom (task : Task) (outcome : Outcome) (verified : List Evidence) : Prop :=
  outcome.parse.isSome = true ∧ Transition task.status .completed ∧ outcome.taskId = task.id ∧
    outcome.status = .completed ∧
    task.acceptanceCriteria.length = outcome.acceptanceResults.length ∧
    (∀ criterion ∈ task.acceptanceCriteria,
      (outcome.acceptanceResults.filter fun result => result.criterion == criterion && result.passed).length = 1) ∧
    ∀ id ∈ outcome.evidenceRefs, ∃ evidence ∈ verified, evidence.id = id ∧ evidence.taskId = task.id

instance (task : Task) (outcome : Outcome) (verified : List Evidence) :
    Decidable (CompletesFrom task outcome verified) :=
  inferInstanceAs (Decidable (_ ∧ _ ∧ _ ∧ _ ∧ _ ∧ _ ∧ _))

end KernelJson.Contracts.Outcome
