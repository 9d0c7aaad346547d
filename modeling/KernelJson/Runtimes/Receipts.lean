import KernelJson.Contracts.Outcome
import KernelJson.Runtimes.CapabilityRegistry

/-!
# Receipts of the adapters

The adapters of runtimes make a receipt of an output and have the registry
verify it, give evidence and an outcome for it, and compare a cached result
with an invocation.  What they share is defined once here.
-/

namespace KernelJson.Runtimes.Receipts

open Contracts.CapabilityRun
open Contracts.Common
open Contracts.Outcome
open Contracts.Platform
open Contracts.PolicyGate
open Contracts.Task
open Foundation
open Foundation.JsText
open Runtimes.CapabilityRegistry

/-! ## Verified receipts -/

/-- What an adapter throws: an error of its own, a schema's, the registry's, or the platform's. -/
inductive Thrown (Code : Type) where
  | error (code : Code) (message : JsString)
  | schema
  | capability (code : CapabilityErrorCode)
  | syntaxError

section

variable {Code : Type} (platform : Platform) (registry : CapabilityRegistry)

/-- The start of `invoke(raw)`: the invocation is read, and must name the adapter's capability. -/
def admitted (ref : CapabilityRef) (invalidRequest unsupportedCapability : Code) (raw : CapabilityInvocation) :
    Except (Thrown Code) CapabilityInvocation :=
  match raw.parse with
  | none => .error (.error invalidRequest (js "INVALID_REQUEST"))
  | some invocation =>
      if invocation.capability.id ≠ ref.id ∨ invocation.capability.version ≠ ref.version then
        .error (.error unsupportedCapability (js "UNSUPPORTED_CAPABILITY"))
      else .ok invocation

/-- The receipt that an adapter makes of an output. -/
def receiptOf (entry : CapabilityDefinition) (invocation : CapabilityInvocation) (output : Json) :
    CapabilityResult where
  runId := invocation.runId
  taskId := invocation.taskId
  stepId := invocation.stepId
  trace := invocation.trace
  capability := invocation.capability
  idempotencyKey := invocation.idempotencyKey
  requestDigest := capabilityDigest platform invocation.toJson
  descriptorDigest := capabilityDigest platform entry.descriptor
  output := output
  outputDigest := capabilityDigest platform output
  verification := .passed

/-- The descriptor, the receipt and its verification; `failed` is the adapter's own code. -/
def verifiedReceipt (ref : CapabilityRef) (failed : Code) (invocation : CapabilityInvocation) (output : Json) :
    Except (Thrown Code) CapabilityResult :=
  match registry.entry ref with
  | .error code => .error (.capability code)
  | .ok entry =>
      match (receiptOf platform entry invocation output).parse with
      | none => .error .schema
      | some result =>
          match verify platform registry invocation result with
          | .error code => .error (.error failed code.text)
          | .ok _ => .ok result

/-- The cached result is compared with an invocation by its capability, task and step. -/
def sameStep (cached : CapabilityResult) (invocation : CapabilityInvocation) : Bool :=
  decide (capabilityDigest platform (capabilityRefJson cached.capability) =
      capabilityDigest platform (capabilityRefJson invocation.capability) ∧
    cached.taskId = invocation.taskId ∧ cached.stepId = invocation.stepId)

end

section

variable {Code : Type} {platform : Platform} {registry : CapabilityRegistry} {ref : CapabilityRef}
variable {failed : Code}

theorem admitted_ok {invalidRequest unsupportedCapability : Code} {raw invocation : CapabilityInvocation}
    (done : admitted ref invalidRequest unsupportedCapability raw = .ok invocation) :
    Normal invocation ∧ invocation.capability = ref := by
  unfold admitted at done
  split at done
  · cases done
  · next parsed read =>
      split at done
      · cases done
      · next named =>
          cases done
          rw [not_or, not_not, not_not] at named
          refine ⟨normal_of_parse read, ?_⟩
          generalize invocation.capability = capability at named
          cases capability
          cases ref
          obtain ⟨rfl, rfl⟩ := named
          rfl

theorem admitted_self {invalidRequest unsupportedCapability : Code} {invocation : CapabilityInvocation}
    (normal : Normal invocation) (named : invocation.capability = ref) :
    admitted ref invalidRequest unsupportedCapability invocation = .ok invocation := by
  unfold admitted
  rw [normal.parse]
  refine if_neg fun other => ?_
  rw [named] at other
  exact other.elim (absurd rfl) (absurd rfl)

theorem verifiedReceipt_verified {invocation : CapabilityInvocation} {output : Json} {result : CapabilityResult}
    (made : verifiedReceipt platform registry ref failed invocation output = .ok result) :
    verify platform registry invocation result = .ok result := by
  unfold verifiedReceipt at made
  split at made
  · cases made
  · next entry found =>
      split at made
      · cases made
      · next receipt read =>
          split at made
          · cases made
          · next other done =>
              cases made
              have again := (verify_ok.mp done).1
              rw [CapabilityResult.parse_again read] at again
              cases again
              exact done

/-- A receipt of a fitting output is made and verified. -/
theorem verifiedReceipt_ok {entry : CapabilityDefinition} {invocation : CapabilityInvocation} {output : Json}
    {input : Json} (normal : Normal invocation) (found : registry.entries.get? (entryKey ref) = some entry)
    (named : invocation.capability = ref) (accepted : entry.inputSchema invocation.input = some input)
    (kept : capabilityDigest platform input = capabilityDigest platform invocation.input)
    (fits : entry.outputSchema output = some output) (verified : entry.verify input output = true) :
    verifiedReceipt platform registry ref failed invocation output =
      .ok (receiptOf platform entry invocation output) := by
  have parsed : (receiptOf platform entry invocation output).parse =
      some (receiptOf platform entry invocation output) := by
    simp only [CapabilityResult.parse, receiptOf, normal.trace, normal.capability, normal.idempotencyKey,
      Option.bind_eq_bind, Option.bind_some]
    exact if_pos ⟨normal.short, isSha256Text_hexText _, isSha256Text_hexText _, isSha256Text_hexText _⟩
  have done : verify platform registry invocation (receiptOf platform entry invocation output) =
      .ok (receiptOf platform entry invocation output) := by
    refine verify_ok.mpr ⟨parsed, ⟨invocation, entry, input⟩, output, ?_, ?_⟩
    · exact ⟨normal.parse, named ▸ found, accepted, kept⟩
    · exact ⟨⟨rfl, rfl, rfl, rfl, rfl, rfl, rfl, rfl, rfl⟩, fits, rfl, verified⟩
  have entered : registry.entry ref = .ok entry := required_ok.mpr found
  simp only [verifiedReceipt, entered, parsed, done]

end

/-! ## Evidence and outcomes -/

/-- An answer of a backend, with the identifier and the instants that are drawn when it arrives. -/
structure Settlement (Answer : Type) where
  answer : Answer
  evidenceId : Id
  capturedAt : Timestamp
  completedAt : Timestamp

structure Proof where
  evidence : Evidence
  outcome : Outcome

/-- What an adapter says in its evidence and its outcome. -/
structure Statement where
  source : JsString
  digest : JsString
  metadata : Json
  criterion : JsString
  summary : JsString

def Statement.evidence {Answer : Type} (statement : Statement) (invocation : CapabilityInvocation)
    (settlement : Settlement Answer) : Evidence where
  id := settlement.evidenceId
  taskId := invocation.taskId
  stepId := some invocation.stepId
  type := .toolReceipt
  source := statement.source
  ref := none
  uri := none
  digest := some statement.digest
  capturedAt := settlement.capturedAt
  metadata := statement.metadata

def Statement.outcome {Answer : Type} (statement : Statement) (invocation : CapabilityInvocation)
    (settlement : Settlement Answer) : Outcome where
  taskId := invocation.taskId
  status := .completed
  acceptanceResults := [⟨statement.criterion, true, [settlement.evidenceId]⟩]
  evidenceRefs := [settlement.evidenceId]
  summary := statement.summary
  completedAt := settlement.completedAt

/-- The evidence and the outcome, as their schemas read them. -/
def Statement.prove {Answer Code : Type} (statement : Statement) (invocation : CapabilityInvocation)
    (settlement : Settlement Answer) : Except (Thrown Code) Proof := do
  let evidence ← required .schema (statement.evidence invocation settlement).parse
  let outcome ← required .schema (statement.outcome invocation settlement).parse
  .ok ⟨evidence, outcome⟩

/-- A statement with visible texts, a digest and an object of metadata. -/
structure Statement.Fits (statement : Statement) : Prop where
  source : parseText statement.source = some statement.source
  digest : isSha256Text statement.digest = true
  metadata : statement.metadata.names?.isSome = true
  criterion : parseText statement.criterion = some statement.criterion
  summary : trim statement.summary ≠ []

theorem Statement.evidence_parse {Answer : Type} {statement : Statement} (fits : statement.Fits)
    (invocation : CapabilityInvocation) (settlement : Settlement Answer) :
    (statement.evidence invocation settlement).parse = some (statement.evidence invocation settlement) := by
  have source : parseText (statement.evidence invocation settlement).source = some statement.source :=
    fits.source
  have ref : parseOptional parseText (statement.evidence invocation settlement).ref = some none := rfl
  simp only [Evidence.parse, source, ref, Option.bind_eq_bind, Option.bind_some]
  exact if_pos ⟨fits.digest, fits.metadata, .inr (.inr rfl)⟩

theorem Statement.outcome_parse {Answer : Type} {statement : Statement} (fits : statement.Fits)
    (invocation : CapabilityInvocation) (settlement : Settlement Answer) :
    (statement.outcome invocation settlement).parse =
      some { statement.outcome invocation settlement with summary := trim statement.summary } := by
  have results : (statement.outcome invocation settlement).acceptanceResults.mapM AcceptanceResult.parse =
      some (statement.outcome invocation settlement).acceptanceResults := by
    simp only [Statement.outcome, List.mapM_cons, List.mapM_nil, AcceptanceResult.parse, fits.criterion,
      Option.bind_eq_bind, Option.bind_some, Option.pure_def]
  have summary : parseText (statement.outcome invocation settlement).summary = some (trim statement.summary) :=
    if_neg fits.summary
  simp only [Outcome.parse, results, summary, Option.bind_eq_bind, Option.bind_some]
  apply if_pos
  refine ⟨fun _ => ⟨List.cons_ne_nil _ _, List.cons_ne_nil _ _, ?_⟩, ?_⟩
  · intro result member
    cases List.mem_singleton.mp member
    exact ⟨rfl, List.cons_ne_nil _ _⟩
  · intro result member ref found
    cases List.mem_singleton.mp member
    exact found

theorem Statement.prove_ok {Answer Code : Type} {statement : Statement} (fits : statement.Fits)
    (invocation : CapabilityInvocation) (settlement : Settlement Answer) :
    ∃ proof, (statement.prove invocation settlement : Except (Thrown Code) Proof) = .ok proof := by
  unfold Statement.prove
  rw [Statement.evidence_parse fits, Statement.outcome_parse fits]
  exact ⟨_, rfl⟩

end KernelJson.Runtimes.Receipts
