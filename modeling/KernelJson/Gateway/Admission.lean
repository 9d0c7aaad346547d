import KernelJson.Contracts.Identity
import KernelJson.Contracts.Intent
import KernelJson.Foundation.Transactions

/-!
# Admission at the door

The parts of `POST /v1/tasks`: how a request is read, what the tables remember
under its idempotency key, the submission and the binding that a first request
stores, and the two writes that admit it.  Callers' identifiers stand in the
canonical lower-case form in which the identity authority issues them.
-/

namespace KernelJson.Gateway.Admission

open Contracts.Common
open Contracts.Digest
open Contracts.Identity
open Contracts.Intent
open Contracts.Platform
open Contracts.PolicyGate
open Contracts.Task
open Foundation
open Foundation.JsText
open Foundation.Transactions
open Planner.Plan

/-! ## Refusals -/

/-- How a request is turned away; `internal` is every error that has no status of its own. -/
inductive Refusal where
  | invalidRequest
  | invalidChannel
  | outOfScope
  | forbidden
  | admissionDenied
  | idempotencyConflict
  | internal
deriving DecidableEq

def Refusal.status : Refusal → Nat
  | .invalidRequest => 400
  | .invalidChannel => 400
  | .outOfScope => 403
  | .forbidden => 403
  | .admissionDenied => 429
  | .idempotencyConflict => 409
  | .internal => 500

/-! ## Execution bindings -/

inductive ControlAction where
  | cancel
  | signal
  | approve
deriving DecidableEq

def ControlAction.text : ControlAction → JsString
  | .cancel => js "cancel"
  | .signal => js "signal"
  | .approve => js "approve"

structure ExecutionTarget where
  service : JsString
  version : JsString
  routingId : JsString
  controls : List ControlAction
deriving DecidableEq

/-- The workflows that the door routes to. -/
inductive Workflow where
  | golden
  | identityChange
  | kernel

def workflowTargets : Workflow → ExecutionTarget
  | .golden => ⟨js "GoldenTaskWorkflowV1", js "1", js "kernel", [.cancel, .approve]⟩
  | .identityChange => ⟨js "IdentityChangeWorkflowV1", js "1", js "kernel", [.cancel, .approve]⟩
  | .kernel => ⟨js "KernelWorkflowV1", js "1", js "kernel", [.cancel, .signal]⟩

def recipeTarget : Recipe → ExecutionTarget
  | .uppercase => workflowTargets .golden
  | .identityChange => workflowTargets .identityChange
  | _ => workflowTargets .kernel

structure ExecutionBinding where
  target : ExecutionTarget
  taskId : Id
  tenantId : Id
  principal : PrincipalRef
  releaseId : JsString
  executionKey : Id
  boundAt : Timestamp
  definitionDigest : JsString
  keyed : executionKey = taskId
deriving DecidableEq

def ExecutionBinding.toJson (binding : ExecutionBinding) : Json :=
  .obj [(js "service", .str binding.target.service), (js "version", .str binding.target.version),
    (js "routingId", .str binding.target.routingId),
    (js "controls", .arr (binding.target.controls.map fun action => .str action.text)),
    (js "taskId", idJson binding.taskId), (js "tenantId", idJson binding.tenantId),
    (js "principal", principalJson binding.principal), (js "releaseId", .str binding.releaseId),
    (js "executionKey", idJson binding.executionKey), (js "boundAt", timestampJson binding.boundAt),
    (js "definitionDigest", .str binding.definitionDigest)]

/-! ## Tables -/

/-- A row of `task_admissions`. -/
structure Admission where
  taskId : Id
  tenantId : Id
  principalId : Id
  keyDigest : JsString
  requestDigest : JsString
  payload : KernelSubmission
deriving DecidableEq

/-- The columns of the unique key of admissions. -/
def Admission.caller (row : Admission) : Id × Id × JsString := (row.tenantId, row.principalId, row.keyDigest)

inductive DispatchStatus where
  | requested
  | accepted
  | unresolved
deriving DecidableEq

structure DispatchEvent where
  taskId : Id
  status : DispatchStatus
deriving DecidableEq

structure Tables where
  bindings : List ExecutionBinding
  admissions : List Admission
  dispatchEvents : List DispatchEvent

def Tables.empty : Tables := ⟨[], [], []⟩

/-- `readBinding(db, taskId)`. -/
def readBinding (tables : Tables) (taskId : Id) : Option ExecutionBinding :=
  tables.bindings.find? fun binding => binding.taskId = taskId

/-! ## Requests -/

/-- What the operator sets: the release, the limit on recipes, and the hash that names advisory locks. -/
structure Config where
  platform : Platform
  releaseId : JsString
  scope : TenantContext → Recipe → Bool
  lockHash : JsString → Int

def maxBodyBytes : Nat := 65536

def publicRecipes : List Recipe := [.uppercase, .uppercaseReverse, .claudeMdCheck, .mission, .identityChange, .brief]

/-- A parsed `PublicSubmission`. -/
structure PublicSubmission where
  recipe : Recipe
  objective : JsString
  listed : recipe ∈ publicRecipes
  trimmed : trim objective = objective
  sized : lengthWithin 1 maxBodyBytes objective = true
deriving DecidableEq

def PublicSubmission.toJson (input : PublicSubmission) : Json :=
  .obj [(js "recipe", .str input.recipe.text), (js "objective", .str input.objective)]

/-- `PublicSubmission.parse` of a body. -/
def PublicSubmission.parse (body : Json) : Option PublicSubmission := do
  let recipeText ← (body.field? (js "recipe")).bind Json.asString?
  let objective ← (body.field? (js "objective")).bind Json.asString?
  let recipe ← publicRecipes.find? fun recipe => recipe.text = recipeText
  if accepted : body.hasOnly [js "recipe", js "objective"] = true ∧ recipe ∈ publicRecipes ∧
      lengthWithin 1 maxBodyBytes (trim objective) = true then
    some ⟨recipe, trim objective, accepted.2.1, trim_trim objective, accepted.2.2⟩
  else none

/-- `/^[A-Za-z0-9._:-]{8,128}$/`. -/
def isKey (text : JsString) : Bool :=
  lengthWithin 8 128 text
    && text.all fun unit => isAlphanumericUnit unit || unit == 46 || unit == 95 || unit == 58 || unit == 45

/-- The names that every object literal inherits; what stands under them is no text. -/
def inheritedNames : List JsString :=
  [js "constructor", js "__defineGetter__", js "__defineSetter__", js "hasOwnProperty", js "__lookupGetter__",
    js "__lookupSetter__", js "isPrototypeOf", js "propertyIsEnumerable", js "toString", js "valueOf",
    js "__proto__", js "toLocaleString"]

/-- `sourceFor(header)`; an inherited member of the channel table is a source that is no text. -/
def sourceFor : Option JsString → Except Refusal (Option JsString)
  | none => .ok (some (js "kerneljson:gateway/v1"))
  | some header =>
      if header = js "telegram/v1" then .ok (some (js "kerneljson:channel/telegram/v1"))
      else if header = js "chatgpt-mcp/v1" then .ok (some (js "kerneljson:channel/chatgpt-mcp/v1"))
      else if inheritedNames.contains header then .ok none
      else .error .invalidChannel

/-- A request of an authenticated caller, its body read as JSON. -/
structure Request where
  context : TenantContext
  body : Json
  idempotencyKey : Option JsString
  channel : Option JsString
  correlation : Option JsString
  correlationId : Id

/-- A request that was read. -/
structure Ask where
  context : TenantContext
  input : PublicSubmission
  key : JsString
  source : Option JsString
  correlation : Option JsString
  correlationId : Id
deriving DecidableEq

variable (config : Config)

/-- Everything before the first transaction. -/
def readRequest (request : Request) : Except Refusal Ask :=
  match PublicSubmission.parse request.body, request.idempotencyKey.filter isKey with
  | some input, some key =>
      match sourceFor request.channel with
      | .error refusal => .error refusal
      | .ok source =>
          if config.scope request.context input.recipe = false then .error .outOfScope
          else .ok ⟨request.context, input, key, source, request.correlation, request.correlationId⟩
  | _, _ => .error .invalidRequest

def keyDigest (ask : Ask) : JsString := capabilityDigest config.platform (.str ask.key)

def requestDigest (ask : Ask) : JsString := capabilityDigest config.platform ask.input.toJson

/-- The unique key of the admission of a request. -/
def Ask.caller (ask : Ask) : Id × Id × JsString :=
  (ask.context.tenantId, ask.context.principal.id, keyDigest config ask)

/-- The advisory lock that the request waits for. -/
def lock (ask : Ask) : Int :=
  config.lockHash (ask.context.tenantId.text ++ js ":" ++ ask.context.principal.id.text ++ js ":"
    ++ keyDigest config ask)

/-- `withTenant` admits the caller to submitting, and `admit` lets the request through. -/
def enter (members : Memberships) (admits : Bool) (ask : Ask) : Except Refusal Unit :=
  if ¬ Authorized members ask.context .submit then .error .forbidden
  else if admits = false then .error .admissionDenied
  else .ok ()

/-! ## The first transaction -/

/-- The binding and the submission that a request goes on with. -/
structure Accepted where
  binding : ExecutionBinding
  payload : KernelSubmission
deriving DecidableEq

/-- What is remembered under the key of the request. -/
def remembered (tables : Tables) (ask : Ask) : Except Refusal (Option Accepted) :=
  match tables.admissions.find? fun row => row.caller = ask.caller config with
  | none => .ok none
  | some prior =>
      if prior.requestDigest ≠ requestDigest config ask then .error .idempotencyConflict
      else
        match readBinding tables prior.taskId, prior.payload.parse with
        | some binding, some payload => .ok (some ⟨binding, payload⟩)
        | none, _ => .error .internal
        | _, none => .error .invalidRequest

def intentId (ask : Ask) : Id :=
  stableId config.platform.sha256 (.arr [.str (js "gateway/v1"), idJson ask.context.tenantId,
    idJson ask.context.principal.id, .str (keyDigest config ask)])

def traceOf (ask : Ask) : Option Id :=
  match ask.correlation with
  | none => some ask.correlationId
  | some text => if wellFormed : isUuid text = true then some ⟨text, wellFormed⟩ else none

/-- The submission of a first request. -/
def submission (now : Timestamp) (ask : Ask) : Option KernelSubmission := do
  let source ← ask.source
  let trace ← traceOf ask
  KernelSubmission.parse
    ⟨⟨intentId config ask, ask.context.principal, ⟨ask.context.tenantId⟩, source, ask.input.objective, [], [],
      now, ⟨trace, trace, none⟩⟩, ask.input.recipe⟩

/-- An objective that is JSON but no identity change is refused by its schema, every other one by an error. -/
def uncompiled (payload : KernelSubmission) : Refusal :=
  if payload.recipe = .identityChange ∧
      (JsonParse.parse config.platform.numeral payload.intent.objective).isSome = true then .invalidRequest
  else .internal

/-- The submission of a first request and its task. -/
def compose (now : Timestamp) (ask : Ask) : Except Refusal (KernelSubmission × Task) :=
  match submission config now ask with
  | none => .error .invalidRequest
  | some payload =>
      match compileIntent config.platform payload with
      | none => .error (uncompiled config payload)
      | some compiled => .ok (payload, compiled.1)

/-- `bindingFor(task, target, releaseId)`. -/
def bindingFor (task : Task) (target : ExecutionTarget) : ExecutionBinding :=
  ⟨target, task.id, task.tenant.id, task.principal, config.releaseId, task.id, task.createdAt,
    capabilityDigest config.platform (Contracts.Records.Task.toJson task), rfl⟩

/-- `insert … on conflict(task_id) do nothing`. -/
def insertBinding (tables : Tables) (binding : ExecutionBinding) : Tables :=
  match readBinding tables binding.taskId with
  | some _ => tables
  | none => { tables with bindings := tables.bindings ++ [binding] }

/-- `persistBinding(db, binding)`: a binding that stood before must be the same but for its release. -/
def persistBinding (tables : Tables) (binding : ExecutionBinding) :
    Except Refusal (ExecutionBinding × Tables) :=
  match readBinding (insertBinding tables binding) binding.taskId with
  | none => .error .internal
  | some stored =>
      if capabilityDigest config.platform { stored with releaseId := binding.releaseId }.toJson ≠
          capabilityDigest config.platform binding.toJson then .error .internal
      else .ok (stored, insertBinding tables binding)

/-- The admission of a request with its compiled task. -/
def admissionOf (ask : Ask) (payload : KernelSubmission) (task : Task) : Admission :=
  ⟨task.id, ask.context.tenantId, ask.context.principal.id, keyDigest config ask, requestDigest config ask, payload⟩

/-- The row keeps the primary and the unique key of its table. -/
def Fits (tables : Tables) (row : Admission) : Prop :=
  ∀ other ∈ tables.admissions, other.taskId ≠ row.taskId ∧ other.caller ≠ row.caller

instance (tables : Tables) (row : Admission) : Decidable (Fits tables row) :=
  inferInstanceAs (Decidable (∀ _ ∈ _, _))

/-- The writes of a first request. -/
def store (tables : Tables) (ask : Ask) (payload : KernelSubmission) (task : Task) :
    Except Refusal (Accepted × Tables) := do
  let bound ← persistBinding config tables (bindingFor config task (recipeTarget ask.input.recipe))
  if Fits bound.2 (admissionOf config ask payload task) then
    .ok (⟨bound.1, payload⟩,
      { bound.2 with admissions := bound.2.admissions ++ [admissionOf config ask payload task] })
  else .error .internal

/-! ## What each part does -/

variable {config}

theorem compose_ok {now : Timestamp} {ask : Ask} {payload : KernelSubmission} {task : Task}
    (composed : compose config now ask = .ok (payload, task)) :
    submission config now ask = some payload ∧ ∃ read, compileIntent config.platform payload = some (task, read) := by
  unfold compose at composed
  cases made : submission config now ask with
  | none =>
      rw [made] at composed
      cases composed
  | some found =>
      simp only [made] at composed
      cases compiled : compileIntent config.platform found with
      | none =>
          rw [compiled] at composed
          cases composed
      | some both =>
          rw [compiled] at composed
          cases composed
          exact ⟨rfl, both.2, compiled⟩

/-- The submission of a request carries its recipe and its objective, and is read as itself. -/
theorem submission_ok {now : Timestamp} {ask : Ask} {payload : KernelSubmission}
    (made : submission config now ask = some payload) :
    payload.recipe = ask.input.recipe ∧ payload.intent.objective = ask.input.objective ∧
      payload.parse = some payload := by
  simp only [submission, Option.bind_eq_bind, Option.bind_eq_some_iff] at made
  obtain ⟨source, -, trace, -, read⟩ := made
  obtain ⟨recipe, -, -, -, objective⟩ := KernelSubmission.parse_keeps read
  have nonempty : ask.input.objective ≠ [] := by
    intro empty
    have sized := ask.input.sized
    rw [empty] at sized
    revert sized
    decide
  rw [parseText_of_trimmed ask.input.trimmed nonempty] at objective
  exact ⟨recipe, (Option.some.inj objective).symm, KernelSubmission.parse_again read⟩

/-- A task that has no binding is bound anew, and the binding that stands afterwards is read. -/
theorem persistBinding_fresh {tables after : Tables} {binding stored : ExecutionBinding}
    (fresh : ∀ other ∈ tables.bindings, other.taskId ≠ binding.taskId)
    (persisted : persistBinding config tables binding = .ok (stored, after)) :
    stored = binding ∧ after = { tables with bindings := tables.bindings ++ [binding] } := by
  have unbound : readBinding tables binding.taskId = none := by
    rw [readBinding, List.find?_eq_none]
    intro other member
    rw [decide_eq_true_eq]
    exact fresh other member
  have inserted : insertBinding tables binding = { tables with bindings := tables.bindings ++ [binding] } := by
    rw [insertBinding, unbound]
  have read : readBinding (insertBinding tables binding) binding.taskId = some binding := by
    rw [inserted, readBinding]
    refine find?_append_of_none ?_ (decide_eq_true rfl)
    rw [List.any_eq_false]
    intro other member
    rw [decide_eq_true_eq]
    exact fresh other member
  rw [persistBinding, read] at persisted
  simp only [ne_eq, not_true_eq_false, if_false, Except.ok.injEq, Prod.mk.injEq] at persisted
  exact ⟨persisted.1.symm, persisted.2.symm.trans inserted⟩

/-- Binding a task leaves the admissions as they were. -/
theorem persistBinding_admissions {tables after : Tables} {binding stored : ExecutionBinding}
    (persisted : persistBinding config tables binding = .ok (stored, after)) :
    after.admissions = tables.admissions ∧ after.dispatchEvents = tables.dispatchEvents := by
  have kept : (insertBinding tables binding).admissions = tables.admissions ∧
      (insertBinding tables binding).dispatchEvents = tables.dispatchEvents := by
    unfold insertBinding
    split
    · exact ⟨rfl, rfl⟩
    · exact ⟨rfl, rfl⟩
  unfold persistBinding at persisted
  split at persisted
  · cases persisted
  · split at persisted
    · cases persisted
    · cases persisted
      exact kept

/-- The two writes of a first request, where every binding belongs to an admission. -/
theorem store_ok {tables after : Tables} {ask : Ask} {payload : KernelSubmission} {task : Task}
    {accepted : Accepted} (paired : tables.bindings.map ExecutionBinding.taskId = tables.admissions.map Admission.taskId)
    (stored : store config tables ask payload task = .ok (accepted, after)) :
    Fits tables (admissionOf config ask payload task) ∧
      accepted = ⟨bindingFor config task (recipeTarget ask.input.recipe), payload⟩ ∧
      after = ⟨tables.bindings ++ [bindingFor config task (recipeTarget ask.input.recipe)],
        tables.admissions ++ [admissionOf config ask payload task], tables.dispatchEvents⟩ := by
  obtain ⟨⟨binding, bound⟩, persisted, rest⟩ := bind_ok stored
  obtain ⟨admissions, events⟩ := persistBinding_admissions persisted
  split at rest
  · next fits =>
      have free : Fits tables (admissionOf config ask payload task) := by
        intro other member
        refine fits other ?_
        rw [admissions]
        exact member
      have fresh : ∀ other ∈ tables.bindings, other.taskId ≠ task.id := by
        intro other member same
        have listed : other.taskId ∈ tables.admissions.map Admission.taskId :=
          paired ▸ List.mem_map_of_mem member
        obtain ⟨row, inside, named⟩ := List.mem_map.mp listed
        exact (free row inside).1 (named.trans same)
      obtain ⟨rfl, rfl⟩ := persistBinding_fresh fresh persisted
      cases rest
      exact ⟨free, rfl, rfl⟩
  · cases rest

end KernelJson.Gateway.Admission
