import KernelJson.Contracts.PolicyGate

/-!
# Capability runs

The receipt that a capability returns for an invocation, and when two
invocations are the same request.
-/

namespace KernelJson.Contracts.CapabilityRun

open Contracts.Common
open Contracts.Platform
open Contracts.PolicyGate
open Contracts.Task
open Foundation
open Foundation.JsText

/-! ## Invocations -/

theorem parseOptional_parseText_again {text parsed : Option JsString}
    (read : parseOptional parseText text = some parsed) : parseOptional parseText parsed = some parsed := by
  cases text with
  | none =>
      cases read
      rfl
  | some text =>
      obtain ⟨trimmed, here, rfl⟩ := Option.map_eq_some_iff.mp read
      rw [parseOptional, parseText_again here, Option.map_some]

theorem TraceRef.parse_again {trace parsed : TraceRef} (read : trace.parse = some parsed) :
    parsed.parse = some parsed := by
  simp only [TraceRef.parse, Option.bind_eq_bind, Option.bind_eq_some_iff] at read
  obtain ⟨spanId, here, same⟩ := read
  cases same
  simp only [TraceRef.parse, parseOptional_parseText_again here, Option.bind_eq_bind, Option.bind_some]

theorem CapabilityRef.parse_again {ref parsed : CapabilityRef} (read : ref.parse = some parsed) :
    parsed.parse = some parsed := by
  simp only [CapabilityRef.parse, Option.bind_eq_bind, Option.bind_eq_some_iff] at read
  obtain ⟨version, here, same⟩ := read
  cases same
  simp only [CapabilityRef.parse, parseText_again here, Option.bind_eq_bind, Option.bind_some]

/-- The texts of an invocation that was read are read as themselves. -/
structure Normal (request : CapabilityInvocation) : Prop where
  trace : request.trace.parse = some request.trace
  capability : request.capability.parse = some request.capability
  idempotencyKey : parseText request.idempotencyKey = some request.idempotencyKey
  short : request.idempotencyKey.length ≤ 256

theorem normal_of_parse {request parsed : CapabilityInvocation} (read : request.parse = some parsed) :
    Normal parsed := by
  simp only [CapabilityInvocation.parse, Option.bind_eq_bind, Option.bind_eq_some_iff] at read
  obtain ⟨trace, first, capability, second, idempotencyKey, third, accepted⟩ := read
  split at accepted
  · next short =>
      cases accepted
      exact ⟨TraceRef.parse_again first, CapabilityRef.parse_again second, parseText_again third, short⟩
  · cases accepted

theorem Normal.parse {request : CapabilityInvocation} (normal : Normal request) :
    request.parse = some request := by
  simp only [CapabilityInvocation.parse, normal.trace, normal.capability, normal.idempotencyKey, normal.short,
    Option.bind_eq_bind, Option.bind_some, if_true]

/-- The same invocation, up to the order of fields in its input. -/
structure SameInvocation (first second : CapabilityInvocation) : Prop where
  runId : first.runId = second.runId
  taskId : first.taskId = second.taskId
  stepId : first.stepId = second.stepId
  trace : first.trace = second.trace
  capability : first.capability = second.capability
  idempotencyKey : first.idempotencyKey = second.idempotencyKey
  input : first.input.SameUpToKeyOrder second.input

theorem SameInvocation.toJson {first second : CapabilityInvocation} (same : SameInvocation first second) :
    first.toJson.SameUpToKeyOrder second.toJson := by
  have input : Json.sortKeys first.input = Json.sortKeys second.input := same.input
  simp only [Json.SameUpToKeyOrder, CapabilityInvocation.toJson, Json.sortKeys, Json.sortFields, same.runId,
    same.taskId, same.stepId, same.trace, same.capability, same.idempotencyKey, input]

/-- The same invocations are read as the same invocations. -/
theorem SameInvocation.parse {first second parsed : CapabilityInvocation} (same : SameInvocation first second)
    (read : first.parse = some parsed) :
    ∃ other, second.parse = some other ∧ SameInvocation parsed other := by
  simp only [CapabilityInvocation.parse, Option.bind_eq_bind, Option.bind_eq_some_iff] at read
  obtain ⟨trace, one, capability, two, idempotencyKey, three, accepted⟩ := read
  split at accepted
  · next short =>
      cases accepted
      refine ⟨{ second with trace := trace, capability := capability, idempotencyKey :=
        idempotencyKey }, ?_, ?_⟩
      · simp only [CapabilityInvocation.parse, ← same.trace, one, ← same.capability, two, ← same.idempotencyKey,
          three, Option.bind_eq_bind, Option.bind_some]
        exact if_pos short
      · exact { same with trace := rfl, capability := rfl, idempotencyKey := rfl }
  · cases accepted

theorem SameInvocation.digest {first second : CapabilityInvocation} (same : SameInvocation first second)
    (platform : Platform) :
    capabilityDigest platform first.toJson = capabilityDigest platform second.toJson :=
  capabilityDigest_of_same platform same.toJson

/-! ## Receipts -/

/-- `z.literal("PASSED")`. -/
inductive Verification where
  | passed
deriving DecidableEq

structure CapabilityResult where
  runId : Id
  taskId : Id
  stepId : Id
  trace : TraceRef
  capability : CapabilityRef
  idempotencyKey : JsString
  requestDigest : JsString
  descriptorDigest : JsString
  output : Json
  outputDigest : JsString
  verification : Verification

/-- `CapabilityResult.parse`. -/
def CapabilityResult.parse (result : CapabilityResult) : Option CapabilityResult := do
  let trace ← result.trace.parse
  let capability ← result.capability.parse
  let idempotencyKey ← parseText result.idempotencyKey
  if idempotencyKey.length ≤ 256 ∧ isSha256Text result.requestDigest = true ∧
      isSha256Text result.descriptorDigest = true ∧ isSha256Text result.outputDigest = true then
    some { result with trace := trace, capability := capability, idempotencyKey := idempotencyKey }
  else none

def CapabilityResult.toJson (result : CapabilityResult) : Json :=
  .obj [(js "runId", idJson result.runId), (js "taskId", idJson result.taskId),
    (js "stepId", idJson result.stepId), (js "trace", traceJson result.trace),
    (js "capability", capabilityRefJson result.capability),
    (js "idempotencyKey", .str result.idempotencyKey), (js "requestDigest", .str result.requestDigest),
    (js "descriptorDigest", .str result.descriptorDigest), (js "output", result.output),
    (js "outputDigest", .str result.outputDigest), (js "verification", .str (js "PASSED"))]

theorem CapabilityResult.parse_again {result parsed : CapabilityResult} (read : result.parse = some parsed) :
    parsed.parse = some parsed := by
  simp only [CapabilityResult.parse, Option.bind_eq_bind, Option.bind_eq_some_iff] at read
  obtain ⟨trace, first, capability, second, idempotencyKey, third, accepted⟩ := read
  split at accepted
  · next fits =>
      cases accepted
      simp only [CapabilityResult.parse, TraceRef.parse_again first, CapabilityRef.parse_again second,
        parseText_again third, Option.bind_eq_bind, Option.bind_some]
      exact if_pos fits
  · cases accepted

end KernelJson.Contracts.CapabilityRun
