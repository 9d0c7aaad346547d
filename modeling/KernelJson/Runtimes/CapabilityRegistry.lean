import KernelJson.Contracts.CapabilityRun
import KernelJson.Foundation.Transactions

/-!
# The capability registry

A registry holds the definitions of capabilities under their identifier and
version.  `verify` accepts a receipt for an invocation when the receipt repeats
the invocation's fields and digests and its output fits the capability.  The
schemas of a definition are readers that return what `safeParse` returns.
-/

namespace KernelJson.Runtimes.CapabilityRegistry

open Contracts.CapabilityRun
open Contracts.Platform
open Contracts.PolicyGate
open Contracts.Task
open Foundation
open Foundation.JsText
open Foundation.Transactions

/-! ## Definitions and entries -/

inductive CapabilityErrorCode where
  | invalidRequest
  | duplicateVersion
  | unsupportedCapability
  | notFound
  | invalidInput
  | invalidOutput
  | implementationFailed
  | verificationFailed
  | invalidReceipt
deriving DecidableEq

def CapabilityErrorCode.text : CapabilityErrorCode → JsString
  | .invalidRequest => js "INVALID_REQUEST"
  | .duplicateVersion => js "DUPLICATE_VERSION"
  | .unsupportedCapability => js "UNSUPPORTED_CAPABILITY"
  | .notFound => js "NOT_FOUND"
  | .invalidInput => js "INVALID_INPUT"
  | .invalidOutput => js "INVALID_OUTPUT"
  | .implementationFailed => js "IMPLEMENTATION_FAILED"
  | .verificationFailed => js "VERIFICATION_FAILED"
  | .invalidReceipt => js "INVALID_RECEIPT"

/-- A definition with its descriptor, which is its metadata and the JSON schemas. -/
structure CapabilityDefinition where
  descriptor : Json
  inputSchema : Json → Option Json
  outputSchema : Json → Option Json
  verify : Json → Json → Bool
  input_sortKeys : ∀ json, inputSchema (Json.sortKeys json) = inputSchema json

structure CapabilityRegistry where
  entries : JsMap JsString CapabilityDefinition

/-- `${id}@${version}`. -/
def entryKey (ref : CapabilityRef) : JsString :=
  ref.id.text ++ js "@" ++ ref.version

/-- A value, or the error that its absence throws. -/
def required {Fault α : Type} (fault : Fault) : Option α → Except Fault α
  | none => .error fault
  | some value => .ok value

theorem required_ok {Fault α : Type} {fault : Fault} {value : Option α} {found : α} :
    required fault value = .ok found ↔ value = some found := by
  cases value with
  | none => exact ⟨fun same => (nomatch same), fun same => (nomatch same)⟩
  | some other => exact ⟨fun same => congrArg some (Except.ok.inj same), fun same => by cases same; rfl⟩

def CapabilityRegistry.entry (registry : CapabilityRegistry) (ref : CapabilityRef) :
    Except CapabilityErrorCode CapabilityDefinition :=
  required .notFound (registry.entries.get? (entryKey ref))

/-! ## Verification -/

structure Prepared where
  request : CapabilityInvocation
  entry : CapabilityDefinition
  input : Json

section

variable (platform : Platform) (registry : CapabilityRegistry)

/-- `prepare(raw)`; the schemas may not coerce what was submitted. -/
def prepare (raw : CapabilityInvocation) : Except CapabilityErrorCode Prepared := do
  let request ← required .invalidRequest raw.parse
  let entry ← registry.entry request.capability
  let input ← required .invalidInput (entry.inputSchema request.input)
  if capabilityDigest platform input = capabilityDigest platform request.input then
    .ok ⟨request, entry, input⟩
  else .error .invalidInput

/-- The receipt repeats the request and the digests. -/
def Receipted (entry : CapabilityDefinition) (request : CapabilityInvocation)
    (result : CapabilityResult) : Prop :=
  result.runId = request.runId ∧ result.taskId = request.taskId ∧ result.stepId = request.stepId ∧
    capabilityDigest platform (traceJson result.trace) = capabilityDigest platform (traceJson request.trace) ∧
    capabilityDigest platform (capabilityRefJson result.capability) =
      capabilityDigest platform (capabilityRefJson request.capability) ∧
    result.idempotencyKey = request.idempotencyKey ∧
    result.requestDigest = capabilityDigest platform request.toJson ∧
    result.descriptorDigest = capabilityDigest platform entry.descriptor ∧
    result.outputDigest = capabilityDigest platform result.output

instance (entry : CapabilityDefinition) (request : CapabilityInvocation) (result : CapabilityResult) :
    Decidable (Receipted platform entry request result) :=
  inferInstanceAs (Decidable (_ ∧ _ ∧ _ ∧ _ ∧ _ ∧ _ ∧ _ ∧ _ ∧ _))

/-- `verify(raw, rawResult)`. -/
def verify (raw : CapabilityInvocation) (rawResult : CapabilityResult) :
    Except CapabilityErrorCode CapabilityResult := do
  let prepared ← prepare platform registry raw
  let result ← required .invalidReceipt rawResult.parse
  if Receipted platform prepared.entry prepared.request result then
    let output ← required .invalidOutput (prepared.entry.outputSchema result.output)
    if capabilityDigest platform output = capabilityDigest platform result.output then
      if prepared.entry.verify prepared.input output = true then .ok result
      else .error .verificationFailed
    else .error .invalidOutput
  else .error .invalidReceipt

end

section

variable {platform : Platform} {registry : CapabilityRegistry}

/-- The invocation, its entry and its input, as verification prepares them. -/
structure Prepares (platform : Platform) (registry : CapabilityRegistry) (raw : CapabilityInvocation)
    (prepared : Prepared) : Prop where
  parsed : raw.parse = some prepared.request
  found : registry.entries.get? (entryKey prepared.request.capability) = some prepared.entry
  accepted : prepared.entry.inputSchema prepared.request.input = some prepared.input
  kept : capabilityDigest platform prepared.input = capabilityDigest platform prepared.request.input

theorem prepare_ok {raw : CapabilityInvocation} {prepared : Prepared} :
    prepare platform registry raw = .ok prepared ↔ Prepares platform registry raw prepared := by
  constructor
  · intro done
    obtain ⟨request, parsed, done⟩ := bind_ok done
    obtain ⟨entry, found, done⟩ := bind_ok done
    obtain ⟨input, accepted, done⟩ := bind_ok done
    split at done
    · next kept =>
        cases done
        exact ⟨required_ok.mp parsed, required_ok.mp found, required_ok.mp accepted, kept⟩
    · cases done
  · intro holds
    unfold prepare CapabilityRegistry.entry
    rw [required_ok.mpr holds.parsed, ok_bind, required_ok.mpr holds.found, ok_bind,
      required_ok.mpr holds.accepted, ok_bind]
    exact if_pos holds.kept

/-- A receipt that verification accepts, in the parts that it checks. -/
structure Accepts (platform : Platform) (prepared : Prepared) (result : CapabilityResult) (output : Json) :
    Prop where
  receipted : Receipted platform prepared.entry prepared.request result
  fits : prepared.entry.outputSchema result.output = some output
  kept : capabilityDigest platform output = capabilityDigest platform result.output
  verified : prepared.entry.verify prepared.input output = true

theorem verify_ok {raw : CapabilityInvocation} {rawResult result : CapabilityResult} :
    verify platform registry raw rawResult = .ok result ↔
      rawResult.parse = some result ∧ ∃ prepared output, Prepares platform registry raw prepared ∧
        Accepts platform prepared result output := by
  constructor
  · intro done
    obtain ⟨prepared, first, done⟩ := bind_ok done
    obtain ⟨read, second, done⟩ := bind_ok done
    split at done
    · next receipted =>
        obtain ⟨output, third, done⟩ := bind_ok done
        split at done
        · next kept =>
            split at done
            · next verified =>
                cases done
                exact ⟨required_ok.mp second, prepared, output, prepare_ok.mp first,
                  ⟨receipted, required_ok.mp third, kept, verified⟩⟩
            · cases done
        · cases done
    · cases done
  · rintro ⟨read, prepared, output, prepares, accepts⟩
    unfold verify
    rw [prepare_ok.mpr prepares, ok_bind, required_ok.mpr read, ok_bind, if_pos accepts.receipted,
      required_ok.mpr accepts.fits, ok_bind, if_pos accepts.kept, if_pos accepts.verified]

/-- A receipt names the run, the task and the step of the invocation it is verified for. -/
theorem run_of_verify {raw : CapabilityInvocation} {rawResult result : CapabilityResult}
    (done : verify platform registry raw rawResult = .ok result) : rawResult.runId = raw.runId := by
  obtain ⟨read, prepared, output, prepares, accepts⟩ := verify_ok.mp done
  have asked : prepared.request.runId = raw.runId := by
    have parsed := prepares.parsed
    simp only [CapabilityInvocation.parse, Option.bind_eq_bind, Option.bind_eq_some_iff] at parsed
    obtain ⟨trace, -, capability, -, key, -, short⟩ := parsed
    split at short
    · rw [← Option.some.inj short]
    · cases short
  have kept : result.runId = rawResult.runId := by
    simp only [CapabilityResult.parse, Option.bind_eq_bind, Option.bind_eq_some_iff] at read
    obtain ⟨trace, -, capability, -, key, -, fits⟩ := read
    split at fits
    · cases fits
      rfl
    · cases fits
  exact kept.symm.trans (accepts.receipted.1.trans asked)

/-- What is verified for an invocation is verified for the same invocation. -/
theorem verify_of_same {first second : CapabilityInvocation} {rawResult result : CapabilityResult}
    (same : SameInvocation first second) (done : verify platform registry first rawResult = .ok result) :
    verify platform registry second rawResult = .ok result := by
  obtain ⟨read, prepared, output, prepares, accepts⟩ := verify_ok.mp done
  obtain ⟨request, parsed, alike⟩ := same.parse prepares.parsed
  have input : prepared.entry.inputSchema request.input = some prepared.input := by
    rw [← prepared.entry.input_sortKeys,
      ← show Json.sortKeys prepared.request.input = Json.sortKeys request.input
      from alike.input, prepared.entry.input_sortKeys]
    exact prepares.accepted
  have digest := capabilityDigest_of_same platform alike.input
  refine verify_ok.mpr ⟨read, ⟨request, prepared.entry, prepared.input⟩, output, ?_, ?_⟩
  · exact ⟨parsed, alike.capability ▸ prepares.found, input, prepares.kept.trans digest⟩
  · refine ⟨?_, accepts.fits, accepts.kept, accepts.verified⟩
    have receipted := accepts.receipted
    unfold Receipted at receipted ⊢
    rwa [alike.runId, alike.taskId, alike.stepId, alike.trace, alike.capability, alike.idempotencyKey,
      alike.digest platform] at receipted

end

end KernelJson.Runtimes.CapabilityRegistry
