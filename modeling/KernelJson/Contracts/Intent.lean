import KernelJson.Contracts.Objective
import KernelJson.Contracts.Records
import KernelJson.Foundation.JsonParse
import KernelJson.Planner.Plan

/-!
# Intents and submissions

What a caller asks for, as the envelope that every entry of the kernel takes,
and `compileIntent`, which makes the task of a submission.  The identifier of
the task is derived from the tenant, the intent and the recipe alone.
-/

namespace KernelJson.Contracts.Intent

open Contracts.Common
open Contracts.Digest
open Contracts.Objective
open Contracts.Platform
open Contracts.PolicyGate
open Contracts.Records
open Contracts.Task
open Foundation
open Foundation.JsText
open Planner.Plan

/-! ## Envelopes -/

structure TraceRef where
  traceId : Id
  correlationId : Id
  spanId : Option JsString
deriving DecidableEq

structure IntentEnvelope where
  id : Id
  principal : PrincipalRef
  tenant : TenantRef
  source : JsString
  objective : JsString
  attachments : List JsString
  contextRefs : List JsString
  receivedAt : Timestamp
  trace : TraceRef
deriving DecidableEq

structure KernelSubmission where
  intent : IntentEnvelope
  recipe : Recipe
deriving DecidableEq

def TraceRef.parse (trace : TraceRef) : Option TraceRef := do
  let spanId ← parseOptional parseText trace.spanId
  some { trace with spanId := spanId }

/-- `IntentEnvelope.parse`. -/
def IntentEnvelope.parse (intent : IntentEnvelope) : Option IntentEnvelope := do
  let source ← parseText intent.source
  let objective ← parseText intent.objective
  let attachments ← intent.attachments.mapM parseText
  let contextRefs ← intent.contextRefs.mapM parseText
  let trace ← intent.trace.parse
  some ⟨intent.id, intent.principal, intent.tenant, source, objective, attachments, contextRefs,
    intent.receivedAt, trace⟩

/-- `KernelSubmission.parse`. -/
def KernelSubmission.parse (submission : KernelSubmission) : Option KernelSubmission := do
  let intent ← submission.intent.parse
  some ⟨intent, submission.recipe⟩

theorem parseOptional_again {read parsed : Option JsString} (found : parseOptional parseText read = some parsed) :
    parseOptional parseText parsed = some parsed := by
  cases read with
  | none =>
      cases found
      rfl
  | some text =>
      obtain ⟨here, readHere, rfl⟩ := Option.map_eq_some_iff.mp found
      rw [parseOptional, parseText_again readHere]
      rfl

/-- A submission that was read is read as itself. -/
theorem KernelSubmission.parse_again {raw submission : KernelSubmission} (read : raw.parse = some submission) :
    submission.parse = some submission := by
  simp only [KernelSubmission.parse, IntentEnvelope.parse, TraceRef.parse, Option.bind_eq_bind,
    Option.bind_eq_some_iff] at read
  obtain ⟨intent, ⟨source, sourceRead, objective, objectiveRead, attachments, attachmentsRead, contextRefs,
    contextRefsRead, trace, ⟨spanId, spanIdRead, traceSame⟩, intentSame⟩, same⟩ := read
  cases traceSame
  cases intentSame
  cases same
  simp only [KernelSubmission.parse, IntentEnvelope.parse, TraceRef.parse, parseText_again sourceRead,
    parseText_again objectiveRead, mapM_parseText_again attachmentsRead, mapM_parseText_again contextRefsRead,
    parseOptional_again spanIdRead, Option.bind_eq_bind, Option.bind_some]

/-- Reading a submission trims its texts only. -/
theorem KernelSubmission.parse_keeps {raw submission : KernelSubmission} (read : raw.parse = some submission) :
    submission.recipe = raw.recipe ∧ submission.intent.id = raw.intent.id ∧
      submission.intent.tenant = raw.intent.tenant ∧ submission.intent.principal = raw.intent.principal ∧
      parseText raw.intent.objective = some submission.intent.objective := by
  simp only [KernelSubmission.parse, IntentEnvelope.parse, Option.bind_eq_bind, Option.bind_eq_some_iff] at read
  obtain ⟨intent, ⟨source, -, objective, objectiveRead, attachments, -, contextRefs, -, trace, -, intentSame⟩,
    same⟩ := read
  cases intentSame
  cases same
  exact ⟨rfl, rfl, rfl, rfl, objectiveRead⟩

/-! ## The objectives of a brief and of an identity change -/

/-- `parseBriefObjective`: `morning brief` in any case, and an optional label after white space. -/
def parseBriefObjective (objective : JsString) : Option JsString :=
  let text := trim objective
  let command := js "morning brief"
  let label := text.drop command.length
  let named := label.dropWhile isSpace
  if (text.take command.length).map asciiLower ≠ command then none
  else if label = [] then some []
  else if label.length ≠ named.length ∧ named.length ≤ 200 then some (trim named)
  else none

/-- `z.string().trim().min(1).max(longest)` of a field that must be present. -/
def isTextWithin (longest : Nat) (field : Option Json) : Bool :=
  match field.bind Json.asString? with
  | some text => lengthWithin 1 longest (trim text)
  | none => false

/-- `z.array(ListItem).min(fewest).max(20)`. -/
def isItemList (fewest : Nat) (field : Option Json) : Bool :=
  match field.bind Json.asArray? with
  | some items =>
      fewest ≤ items.length && items.length ≤ 20 && items.all fun item => isTextWithin 300 (some item)
  | none => false

def isId (field : Option Json) : Bool :=
  match field.bind Json.asString? with
  | some text => isUuid text
  | none => false

/-- A strict object of short texts, under the given names. -/
def isTextSection (names : List JsString) (json : Json) : Bool :=
  names.all fun name => isTextWithin 4000 (json.field? name)

def isIdentityClassA (json : Json) : Bool :=
  json.hasOnly [js "name", js "constitution", js "values", js "operatorRelationship", js "facultyFraming",
      js "memoryPolicy"]
    && isTextWithin 100 (json.field? (js "name"))
    && isItemList 1 (json.field? (js "values"))
    && isTextSection [js "constitution", js "operatorRelationship", js "facultyFraming", js "memoryPolicy"] json

def isIdentityClassC (json : Json) : Bool :=
  json.hasOnly [js "persona", js "communication", js "behaviour", js "presentation"]
    && isTextSection [js "persona", js "communication", js "behaviour", js "presentation"] json

def isIdentityClassD (json : Json) : Bool :=
  json.hasOnly [js "objectives", js "vision"]
    && isItemList 0 (json.field? (js "objectives"))
    && isTextSection [js "vision"] json

def isIdentitySections (json : Json) : Bool :=
  json.hasOnly [js "classA", js "classC", js "classD"]
    && (json.field? (js "classA")).any isIdentityClassA
    && (json.field? (js "classC")).any isIdentityClassC
    && (json.field? (js "classD")).any isIdentityClassD

def isIdentityDocumentDraft (json : Json) : Bool :=
  json.hasOnly [js "id", js "tenantId", js "sections"]
    && isId (json.field? (js "id"))
    && isId (json.field? (js "tenantId"))
    && (json.field? (js "sections")).any isIdentitySections

/-- `z.number().int().positive()`. -/
def isPositiveInteger (json : Json) : Bool :=
  match json.asInt? with
  | some number => 0 < number && number ≤ 9007199254740991
  | none => false

/-- `IdentityChangeRequest` accepts the value. -/
def isIdentityChangeRequest (json : Json) : Bool :=
  match (json.field? (js "kind")).bind Json.asString? with
  | some kind =>
      if kind = js "PROPOSE" then
        json.hasOnly [js "kind", js "document", js "reason"]
          && (json.field? (js "document")).any isIdentityDocumentDraft
          && isTextWithin 500 (json.field? (js "reason"))
      else if kind = js "ROLLBACK" then
        json.hasOnly [js "kind", js "toVersion", js "reason"]
          && (json.field? (js "toVersion")).any isPositiveInteger
          && isTextWithin 500 (json.field? (js "reason"))
      else false
  | none => false

/-- `parseIdentityChangeObjective` does not throw. -/
def acceptsIdentityChange (numeral : JsString → Option Int) (objective : JsString) : Bool :=
  (JsonParse.parse numeral objective).any isIdentityChangeRequest

/-! ## Compilation -/

variable (platform : Platform)

/-- The objective is one that the recipe can run. -/
def acceptsObjective (recipe : Recipe) (objective : JsString) : Bool :=
  match recipe with
  | .mission => (parseMissionObjective objective).isOk
  | .brief => (parseBriefObjective objective).isSome
  | .identityChange => acceptsIdentityChange platform.numeral objective
  | _ => true

/-- `{ tenant, intentId, recipe }`, of which the identifier of a task is derived. -/
def taskName (tenantId intentId : Id) (recipe : Recipe) : Json :=
  .obj [(js "tenant", idJson tenantId), (js "intentId", idJson intentId), (js "recipe", .str recipe.text)]

/-- The record that `compileIntent` reads as a task. -/
def rawTask (submission : KernelSubmission) : Task where
  id := stableId platform.sha256 (taskName submission.intent.tenant.id submission.intent.id submission.recipe)
  parentTaskId := none
  principal := submission.intent.principal
  tenant := submission.intent.tenant
  objective := submission.intent.objective
  acceptanceCriteria := [criteria submission.recipe]
  constraints := []
  riskClass := .low
  budget := none
  deadline := none
  status := .received
  traceId := submission.intent.trace.traceId
  createdAt := submission.intent.receivedAt
  startedAt := none
  completedAt := none

/-- `compileIntent(raw)`. -/
def compileIntent (raw : KernelSubmission) : Option (Task × KernelSubmission) := do
  let submission ← raw.parse
  if acceptsObjective platform submission.recipe submission.intent.objective = false then none
  else if submission.intent.attachments ≠ [] ∨ submission.intent.contextRefs ≠ [] then none
  else do
    let task ← (rawTask platform submission).parse
    some (task, submission)

variable {platform}

theorem compileIntent_ok {raw submission : KernelSubmission} {task : Task}
    (compiled : compileIntent platform raw = some (task, submission)) :
    raw.parse = some submission ∧ acceptsObjective platform submission.recipe submission.intent.objective = true ∧
      submission.intent.attachments = [] ∧ submission.intent.contextRefs = [] ∧
      (rawTask platform submission).parse = some task := by
  simp only [compileIntent, Option.bind_eq_bind, Option.bind_eq_some_iff] at compiled
  obtain ⟨read, parsed, compiled⟩ := compiled
  split at compiled
  · cases compiled
  · next accepted =>
      split at compiled
      · cases compiled
      · next plain =>
          obtain ⟨found, taskRead, same⟩ := Option.bind_eq_some_iff.mp compiled
          cases same
          obtain ⟨attachments, contextRefs⟩ := not_or.mp plain
          exact ⟨parsed, Bool.eq_true_of_not_eq_false accepted, not_not.mp attachments,
            not_not.mp contextRefs, taskRead⟩

/-- The identifier of a compiled task depends on the tenant, the intent and the recipe alone. -/
theorem compileIntent_id {raw submission : KernelSubmission} {task : Task}
    (compiled : compileIntent platform raw = some (task, submission)) :
    task.id = stableId platform.sha256 (taskName raw.intent.tenant.id raw.intent.id raw.recipe) ∧
      task.tenant = raw.intent.tenant := by
  obtain ⟨read, -, -, -, taskRead⟩ := compileIntent_ok compiled
  obtain ⟨recipe, intent, tenant, -, -⟩ := KernelSubmission.parse_keeps read
  obtain ⟨id, owner⟩ := Task.parse_keeps taskRead
  refine ⟨?_, ?_⟩
  · rw [id, rawTask, recipe, intent, tenant]
  · rw [owner, rawTask, tenant]

/-- A brief may be asked for in any case and with a label. -/
example : parseBriefObjective (js " Morning BRIEF  of Monday ") = some (js "of Monday") := by
  decide +kernel

end KernelJson.Contracts.Intent
