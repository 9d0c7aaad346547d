import KernelJson.Contracts.Digest
import KernelJson.Contracts.PolicyGate

/-!
# Policy evaluation

`evaluatePolicy`: the rules of a tenant decide one invocation of a capability,
which must be that of a compiled task's ready step.
-/

namespace KernelJson.Approvals.Evaluation

open Contracts.Common
open Contracts.Platform
open Contracts.PolicyGate
open Contracts.Task
open Foundation.JsText

/-! ## Rules -/

structure PolicyRule where
  tenantId : Id
  principalId : Id
  capability : CapabilityRef
  effect : Decision
  approver : Option PrincipalRef
  ttlMs : Option Nat

/-- The bounds of `ttlMs` and the refinement of the rule schema. -/
def PolicyRule.Refined (rule : PolicyRule) : Prop :=
  (∀ ttl ∈ rule.ttlMs, 100 ≤ ttl ∧ ttl ≤ 86400000) ∧
    if rule.effect = .approvalRequired then
      (∃ approver ∈ rule.approver, approver.kind = .human) ∧ rule.ttlMs ≠ none
    else rule.approver = none ∧ rule.ttlMs = none

instance (rule : PolicyRule) : Decidable rule.Refined :=
  inferInstanceAs (Decidable (_ ∧ _))

def PolicyRule.parse (rule : PolicyRule) : Option PolicyRule := do
  let capability ← rule.capability.parse
  if rule.Refined then some { rule with capability := capability } else none

/-- `${tenantId}:${principalId}:${capability.id}@${capability.version}`. -/
def PolicyRule.key (rule : PolicyRule) : JsString :=
  rule.tenantId.text ++ js ":" ++ rule.principalId.text ++ js ":" ++ rule.capability.id.text ++ js "@" ++
    rule.capability.version

structure PolicyRules where
  version : JsString
  rules : List PolicyRule

/-- `PolicyRules.parse`. -/
def PolicyRules.parse (rules : PolicyRules) : Option PolicyRules := do
  let parsed ← rules.rules.mapM PolicyRule.parse
  if rules.version ≠ [] ∧ (parsed.map PolicyRule.key).Nodup then some { rules with rules := parsed } else none

/-! ## Capabilities -/

inductive ImplementationType where
  | deterministic
  | mcp
  | api
  | skill
  | sandbox
  | human
  | hybrid
deriving DecidableEq

/-- What the policy reads of a capability's descriptor. -/
structure CapabilityDescriptor where
  ref : CapabilityRef
  riskClass : RiskClass
  permissions : List JsString
  implementationType : ImplementationType
  digest : JsString

/-! ## The evaluation -/

section Evaluate

variable (platform : Platform)

/-- The invocation is that of the ready step of a compiled task. -/
def Bound (task : Task) (step : TaskStep) (invocation : CapabilityInvocation)
    (descriptor : CapabilityDescriptor) : Prop :=
  task.status = .compiled ∧ step.status = .ready ∧ step.taskId = task.id ∧ invocation.taskId = task.id ∧
    invocation.stepId = step.id ∧ invocation.trace.traceId = task.traceId ∧
    capabilityDigest platform (.arr (step.requiredCapabilities.map capabilityRefJson)) =
      capabilityDigest platform (.arr [capabilityRefJson invocation.capability]) ∧
    capabilityDigest platform step.input = capabilityDigest platform invocation.input ∧
    step.idempotencyKey = some invocation.idempotencyKey ∧ descriptor.ref = invocation.capability

instance (task : Task) (step : TaskStep) (invocation : CapabilityInvocation) (descriptor : CapabilityDescriptor) :
    Decidable (Bound platform task step invocation descriptor) :=
  inferInstanceAs (Decidable (_ ∧ _ ∧ _ ∧ _ ∧ _ ∧ _ ∧ _ ∧ _ ∧ _ ∧ _))

def Supported (task : Task) (step : TaskStep) (descriptor : CapabilityDescriptor) : Prop :=
  task.riskClass = .low ∧ step.riskClass = .low ∧ step.kind = .deterministicFunction ∧ descriptor.riskClass = .low ∧
    descriptor.permissions = [] ∧ descriptor.implementationType = .deterministic

instance (task : Task) (step : TaskStep) (descriptor : CapabilityDescriptor) :
    Decidable (Supported task step descriptor) :=
  inferInstanceAs (Decidable (_ ∧ _ ∧ _ ∧ _ ∧ _ ∧ _))

def ruleFor (rules : PolicyRules) (task : Task) (invocation : CapabilityInvocation) : Option PolicyRule :=
  rules.rules.find? fun rule => rule.tenantId = task.tenant.id ∧ rule.principalId = task.principal.id ∧
    rule.capability = invocation.capability

/-- The effect, its reason and the rule that gave it. -/
def effectOf (rules : PolicyRules) (task : Task) (step : TaskStep) (invocation : CapabilityInvocation)
    (descriptor : CapabilityDescriptor) : Decision × JsString :=
  if ¬ Bound platform task step invocation descriptor then (.deny, js "SCOPE_MISMATCH")
  else if task.constraints ≠ [] ∨ task.budget ≠ none ∨ task.deadline ≠ none then
    (.deny, js "UNSUPPORTED_TASK_REQUIREMENTS")
  else if ¬ Supported task step descriptor then (.deny, js "UNSUPPORTED_CAPABILITY")
  else
    match ruleFor rules task invocation with
    | some rule => (rule.effect, js "EXPLICIT_RULE")
    | none => (.deny, js "NO_MATCHING_RULE")

def scopeOf (rules : PolicyRules) (task : Task) (step : TaskStep) (invocation : CapabilityInvocation)
    (descriptor : CapabilityDescriptor) : PolicyScope where
  taskId := task.id
  stepId := step.id
  tenantId := task.tenant.id
  principal := task.principal
  trace := invocation.trace
  capability := invocation.capability
  invocationDigest := capabilityDigest platform invocation.toJson
  descriptorDigest := descriptor.digest
  policyVersion := rules.version

/-- The approver and the deadline that a rule asks for; a deadline without an ISO form is thrown. -/
def approvalOf (effect : Decision) (rule : Option PolicyRule) (evaluatedAt : Timestamp) :
    Option (Option PrincipalRef × Option Timestamp) :=
  match effect, rule with
  | .approvalRequired, some rule => do
      let ttl ← rule.ttlMs
      let expiresAt ← Timestamp.parse (evaluatedAt.ms + ttl)
      some (rule.approver, some expiresAt)
  | _, _ => some (none, none)

/-- `evaluatePolicy(rules, task, step, invocation, descriptor, id, at)`. -/
def evaluatePolicy (rawRules : PolicyRules) (rawTask : Task) (rawStep : TaskStep)
    (rawInvocation : CapabilityInvocation) (descriptor : CapabilityDescriptor) (id : Id) (evaluatedAt : Timestamp) :
    Option PolicyEvaluation := do
  let rules ← rawRules.parse
  let task ← rawTask.parse
  let step ← rawStep.parse
  let invocation ← rawInvocation.parse
  let scope := scopeOf platform rules task step invocation descriptor
  let effect := effectOf platform rules task step invocation descriptor
  let approval ← approvalOf effect.1 (ruleFor rules task invocation) evaluatedAt
  PolicyEvaluation.parse
    { scope := scope
      scopeDigest := capabilityDigest platform scope.toJson
      decision := ⟨id, task.id, some step.id, invocation.capability, effect.1, effect.2, evaluatedAt, rules.version⟩
      approver := approval.1
      expiresAt := approval.2 }

/-! ## An approval that a rule asks for -/

/-- The evaluation of a bound and supported invocation under a rule that asks for an approval. -/
def approvalEvaluation (rules : PolicyRules) (task : Task) (step : TaskStep) (invocation : CapabilityInvocation)
    (descriptor : CapabilityDescriptor) (approver : PrincipalRef) (expiresAt : Timestamp) (id : Id)
    (evaluatedAt : Timestamp) : PolicyEvaluation where
  scope := scopeOf platform rules task step invocation descriptor
  scopeDigest := capabilityDigest platform (scopeOf platform rules task step invocation descriptor).toJson
  decision := ⟨id, task.id, some step.id, invocation.capability, .approvalRequired, js "EXPLICIT_RULE", evaluatedAt,
    rules.version⟩
  approver := some approver
  expiresAt := some expiresAt

/-- The texts of an evaluation that was made from parsed values are read as they stand. -/
theorem approvalEvaluation_parse {rules : PolicyRules} {task : Task} {step : TaskStep}
    {invocation : CapabilityInvocation} {descriptor : CapabilityDescriptor} {approver : PrincipalRef}
    {expiresAt : Timestamp} {id : Id} {evaluatedAt : Timestamp}
    (version : parseText rules.version = some rules.version)
    (trace : invocation.trace.parse = some invocation.trace)
    (capability : invocation.capability.parse = some invocation.capability)
    (digested : isSha256Text descriptor.digest = true) (human : approver.kind = .human)
    (later : evaluatedAt.ms < expiresAt.ms) :
    (approvalEvaluation platform rules task step invocation descriptor approver expiresAt id evaluatedAt).parse =
      some (approvalEvaluation platform rules task step invocation descriptor approver expiresAt id evaluatedAt) := by
  have nonempty : rules.version ≠ [] := by
    intro empty
    rw [empty] at version
    cases version
  have reason : parseText (js "EXPLICIT_RULE") = some (js "EXPLICIT_RULE") := by decide +kernel
  let evaluation := approvalEvaluation platform rules task step invocation descriptor approver expiresAt id evaluatedAt
  have decision : evaluation.decision.parse = some evaluation.decision := by
    simp only [evaluation, PolicyDecision.parse, approvalEvaluation, capability, reason, version, Option.bind_eq_bind,
      Option.bind_some]
  have scope : evaluation.scope.parse = some evaluation.scope := by
    simp only [evaluation, PolicyScope.parse, approvalEvaluation, scopeOf, trace, capability, Option.bind_eq_bind,
      Option.bind_some]
    exact if_pos ⟨isSha256Text_hexText _, digested, nonempty⟩
  have fields : evaluation.ApprovalFields :=
    ⟨fun _ => ⟨⟨approver, rfl, human⟩, expiresAt, rfl, later⟩, fun other => absurd rfl other⟩
  have refined : evaluation.Refined := ⟨rfl, rfl, rfl, rfl, fields⟩
  show evaluation.parse = some evaluation
  simp only [PolicyEvaluation.parse, decision, scope, Option.bind_eq_bind, Option.bind_some]
  exact if_pos ⟨isSha256Text_hexText _, refined⟩

/-- A bound and supported invocation is given the approval that its rule asks for. -/
theorem evaluatePolicy_of_rule {rules : PolicyRules} {task : Task} {step : TaskStep}
    {invocation : CapabilityInvocation} {descriptor : CapabilityDescriptor} {rule : PolicyRule}
    {approver : PrincipalRef} {ttl : Nat} {expiresAt evaluatedAt : Timestamp} (id : Id)
    (rulesRead : rules.parse = some rules) (taskRead : task.parse = some task) (stepRead : step.parse = some step)
    (invocationRead : invocation.parse = some invocation) (version : parseText rules.version = some rules.version)
    (trace : invocation.trace.parse = some invocation.trace)
    (capability : invocation.capability.parse = some invocation.capability)
    (digested : isSha256Text descriptor.digest = true) (bound : Bound platform task step invocation descriptor)
    (plain : ¬ (task.constraints ≠ [] ∨ task.budget ≠ none ∨ task.deadline ≠ none))
    (supported : Supported task step descriptor) (found : ruleFor rules task invocation = some rule)
    (effect : rule.effect = .approvalRequired) (named : rule.approver = some approver)
    (human : approver.kind = .human) (lives : rule.ttlMs = some ttl) (positive : 0 < ttl)
    (deadline : Timestamp.parse (evaluatedAt.ms + ttl) = some expiresAt) :
    evaluatePolicy platform rules task step invocation descriptor id evaluatedAt =
      some (approvalEvaluation platform rules task step invocation descriptor approver expiresAt id evaluatedAt) := by
  have decided : effectOf platform rules task step invocation descriptor =
      (.approvalRequired, js "EXPLICIT_RULE") := by
    rw [effectOf, if_neg (not_not_intro bound), if_neg plain, if_neg (not_not_intro supported), found]
    exact congrArg (·, js "EXPLICIT_RULE") effect
  have approval : approvalOf .approvalRequired (some rule) evaluatedAt = some (some approver, some expiresAt) := by
    simp only [approvalOf, lives, deadline, named, Option.bind_eq_bind, Option.bind_some]
  have later : evaluatedAt.ms < expiresAt.ms := by
    have same := Timestamp.parse_ms deadline
    omega
  simp only [evaluatePolicy, rulesRead, taskRead, stepRead, invocationRead, decided, found, approval,
    Option.bind_eq_bind, Option.bind_some]
  exact approvalEvaluation_parse platform version trace capability digested human later

end Evaluate

end KernelJson.Approvals.Evaluation
