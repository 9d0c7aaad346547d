import KernelJson.Approvals.Evaluation

/-!
# Default deny

An evaluation permits nothing that no explicit rule names, and the order of the
rules is irrelevant: the key under which a rule is unique tells apart exactly
the fields that the matching compares.
-/

namespace KernelJson.Approvals.DefaultDeny

open Approvals.Evaluation
open Contracts.Common
open Contracts.Platform
open Contracts.PolicyGate
open Contracts.Task
open Foundation.JsText

/-! ## The key of a rule -/

/-- Texts that begin with an identifier are equal only where the identifiers are, and what follows them. -/
theorem id_append_inj {first second : Id} {rest others : JsString}
    (same : first.text ++ rest = second.text ++ others) : first = second ∧ rest = others := by
  obtain ⟨ids, rests⟩ := List.append_inj same ((Id.length first).trans (Id.length second).symm)
  exact ⟨Contracts.Common.Id.ext ids, rests⟩

/-- Rules with one key are for the same tenant, principal and capability. -/
theorem key_injective {first second : PolicyRule} (same : first.key = second.key) :
    first.tenantId = second.tenantId ∧ first.principalId = second.principalId ∧
      first.capability = second.capability := by
  simp only [PolicyRule.key, List.append_assoc] at same
  obtain ⟨tenant, same⟩ := id_append_inj same
  obtain ⟨principal, same⟩ := id_append_inj (List.append_cancel_left same)
  obtain ⟨capability, same⟩ := id_append_inj (List.append_cancel_left same)
  have version := List.append_cancel_left same
  exact ⟨tenant, principal, congrArg₂ CapabilityRef.mk capability version⟩

/-! ## The rule of an invocation -/

/-- The fields of a rule that the matching compares. -/
structure Matches (rule : PolicyRule) (task : Task) (invocation : CapabilityInvocation) : Prop where
  tenant : rule.tenantId = task.tenant.id
  principal : rule.principalId = task.principal.id
  capability : rule.capability = invocation.capability

section Rules

variable {rules others : PolicyRules} {task : Task} {invocation : CapabilityInvocation}

theorem ruleFor_matches {rule : PolicyRule} (found : ruleFor rules task invocation = some rule) :
    rule ∈ rules.rules ∧ Matches rule task invocation := by
  have holds := List.find?_some found
  rw [decide_eq_true_eq] at holds
  exact ⟨List.mem_of_find?_eq_some found, holds.1, holds.2.1, holds.2.2⟩

/-- At most one of the rules with distinct keys matches. -/
theorem matches_unique (distinct : (rules.rules.map PolicyRule.key).Nodup) {first second : PolicyRule}
    (here : first ∈ rules.rules) (there : second ∈ rules.rules) (one : Matches first task invocation)
    (two : Matches second task invocation) : first = second := by
  refine List.inj_on_of_nodup_map distinct here there ?_
  rw [PolicyRule.key, PolicyRule.key, one.tenant, two.tenant, one.principal, two.principal, one.capability,
    two.capability]

theorem ruleFor_eq_some_iff (distinct : (rules.rules.map PolicyRule.key).Nodup) (rule : PolicyRule) :
    ruleFor rules task invocation = some rule ↔ rule ∈ rules.rules ∧ Matches rule task invocation := by
  refine ⟨ruleFor_matches, fun ⟨member, matching⟩ => ?_⟩
  cases found : ruleFor rules task invocation with
  | none =>
      have refused := List.find?_eq_none.mp found rule member
      rw [decide_eq_true_eq] at refused
      exact absurd ⟨matching.tenant, matching.principal, matching.capability⟩ refused
  | some other =>
      obtain ⟨inside, otherMatching⟩ := ruleFor_matches found
      rw [matches_unique distinct inside member otherMatching matching]

/-- The rule that is found does not depend on the order of the rules. -/
theorem ruleFor_perm (distinct : (rules.rules.map PolicyRule.key).Nodup) (same : rules.rules.Perm others.rules) :
    ruleFor rules task invocation = ruleFor others task invocation := by
  have distinct' := (same.map PolicyRule.key).nodup_iff.mp distinct
  apply Option.ext
  intro rule
  rw [ruleFor_eq_some_iff distinct, ruleFor_eq_some_iff distinct', same.mem_iff]

end Rules

/-! ## Reading the rules -/

/-- A list is read in another order as its values in that order. -/
theorem mapM_perm {α β : Type} {read : α → Option β} {values others : List α} (same : values.Perm others)
    {results : List β} (done : values.mapM read = some results) :
    ∃ reordered, others.mapM read = some reordered ∧ results.Perm reordered := by
  induction same generalizing results with
  | nil => exact ⟨results, done, .refl _⟩
  | cons value same ih =>
      simp only [List.mapM_cons, Option.bind_eq_bind, Option.pure_def, Option.bind_eq_some_iff,
        Option.some.injEq] at done ⊢
      obtain ⟨result, this, rest, restRead, rfl⟩ := done
      obtain ⟨reordered, again, perm⟩ := ih restRead
      exact ⟨_, ⟨result, this, reordered, again, rfl⟩, perm.cons result⟩
  | swap first second rest =>
      simp only [List.mapM_cons, Option.bind_eq_bind, Option.pure_def, Option.bind_eq_some_iff,
        Option.some.injEq] at done ⊢
      obtain ⟨two, twoRead, _, ⟨one, oneRead, others, othersRead, rfl⟩, rfl⟩ := done
      exact ⟨_, ⟨one, oneRead, _, ⟨two, twoRead, others, othersRead, rfl⟩, rfl⟩, .swap one two others⟩
  | trans _ _ ih ih' =>
      obtain ⟨between, betweenRead, perm⟩ := ih done
      obtain ⟨reordered, again, perm'⟩ := ih' betweenRead
      exact ⟨reordered, again, perm.trans perm'⟩

theorem parse_rules_iff {raw rules : PolicyRules} : raw.parse = some rules ↔
    raw.rules.mapM PolicyRule.parse = some rules.rules ∧ raw.version = rules.version ∧ raw.version ≠ [] ∧
      (rules.rules.map PolicyRule.key).Nodup := by
  obtain ⟨version, list⟩ := rules
  simp only [PolicyRules.parse, Option.bind_eq_bind, Option.bind_eq_some_iff]
  constructor
  · rintro ⟨parsed, read, accepted⟩
    split at accepted
    · next holds =>
        cases accepted
        exact ⟨read, rfl, holds⟩
    · cases accepted
  · rintro ⟨read, rfl, holds⟩
    exact ⟨list, read, if_pos holds⟩

/-- Rules in another order are read as the same rules in another order. -/
theorem parse_perm {raw rules : PolicyRules} {reordered : List PolicyRule} (same : raw.rules.Perm reordered)
    (read : raw.parse = some rules) : ∃ others : PolicyRules,
      ({ raw with rules := reordered } : PolicyRules).parse = some others ∧ others.version = rules.version ∧
        rules.rules.Perm others.rules := by
  obtain ⟨each, version, nonempty, distinct⟩ := parse_rules_iff.mp read
  obtain ⟨list, again, perm⟩ := mapM_perm same each
  exact ⟨⟨rules.version, list⟩, parse_rules_iff.mpr ⟨again, version, nonempty, (perm.map _).nodup_iff.mp distinct⟩,
    rfl, perm⟩

/-! ## Evaluations -/

section Evaluate

variable {platform : Platform} {raw : PolicyRules} {task : Task} {step : TaskStep}
  {invocation : CapabilityInvocation} {descriptor : CapabilityDescriptor} {id : Id} {evaluatedAt : Timestamp}

/-- What an effect other than denial needs. -/
structure Permitted (platform : Platform) (rules : PolicyRules) (task : Task) (step : TaskStep)
    (invocation : CapabilityInvocation) (descriptor : CapabilityDescriptor) (effect : Decision) : Prop where
  bound : Bound platform task step invocation descriptor
  plain : task.constraints = [] ∧ task.budget = none ∧ task.deadline = none
  supported : Supported task step descriptor
  explicit : ∃ rule ∈ rules.rules, Matches rule task invocation ∧ rule.effect = effect

theorem effectOf_permitted {rules : PolicyRules}
    (permits : (effectOf platform rules task step invocation descriptor).1 ≠ .deny) :
    Permitted platform rules task step invocation descriptor
      (effectOf platform rules task step invocation descriptor).1 := by
  unfold effectOf at permits ⊢
  split at permits
  · exact absurd rfl permits
  · next bound =>
      rw [if_neg bound]
      split at permits
      · exact absurd rfl permits
      · next plain =>
          rw [if_neg plain]
          split at permits
          · exact absurd rfl permits
          · next supported =>
              rw [if_neg supported]
              split at permits
              · next rule found =>
                  obtain ⟨member, matching⟩ := ruleFor_matches found
                  simp only [not_or, not_not] at bound plain supported
                  exact ⟨bound, plain, supported, rule, member, matching, rfl⟩
              · exact absurd rfl permits

/-- The parts of an evaluation that was given. -/
theorem evaluatePolicy_some {evaluation : PolicyEvaluation}
    (given : evaluatePolicy platform raw task step invocation descriptor id evaluatedAt = some evaluation) :
    ∃ rules readTask readStep request, raw.parse = some rules ∧ task.parse = some readTask ∧
      step.parse = some readStep ∧ invocation.parse = some request ∧
      evaluation.decision.decision = (effectOf platform rules readTask readStep request descriptor).1 ∧
      evaluation.scope.taskId = readTask.id ∧ evaluation.scope.tenantId = readTask.tenant.id := by
  simp only [evaluatePolicy, Option.bind_eq_bind, Option.bind_eq_some_iff] at given
  obtain ⟨rules, rulesRead, readTask, taskRead, readStep, stepRead, request, requestRead, approval, -, parsed⟩ := given
  refine ⟨rules, readTask, readStep, request, rulesRead, taskRead, stepRead, requestRead, ?_⟩
  have kept := PolicyEvaluation.parse_keeps parsed
  refine ⟨?_, kept.2.1, kept.2.2⟩
  simp only [PolicyEvaluation.parse, PolicyDecision.parse, Option.bind_eq_bind, Option.bind_eq_some_iff,
    Option.some.injEq] at parsed
  obtain ⟨_, ⟨_, -, _, -, _, -, rfl⟩, _, -, accepted⟩ := parsed
  split at accepted
  · cases accepted
    rfl
  · cases accepted

/-- An evaluation depends on the rules through their version and the rule that is found. -/
theorem evaluatePolicy_perm {reordered : List PolicyRule} (same : raw.rules.Perm reordered) :
    evaluatePolicy platform { raw with rules := reordered } task step invocation descriptor id evaluatedAt =
      evaluatePolicy platform raw task step invocation descriptor id evaluatedAt := by
  cases read : raw.parse with
  | none =>
      have unread : ({ raw with rules := reordered } : PolicyRules).parse = none := by
        cases again : ({ raw with rules := reordered } : PolicyRules).parse with
        | none => rfl
        | some rules =>
            obtain ⟨others, back, -⟩ := parse_perm same.symm again
            exact absurd (read.symm.trans back) (Option.some_ne_none _).symm
      simp only [evaluatePolicy, read, unread, Option.bind_eq_bind, Option.bind_none]
  | some rules =>
      obtain ⟨others, again, version, perm⟩ := parse_perm same read
      have distinct := (parse_rules_iff.mp read).2.2.2
      have found : ∀ (task : Task) (invocation : CapabilityInvocation),
          ruleFor others task invocation = ruleFor rules task invocation :=
        fun _ _ => (ruleFor_perm distinct perm).symm
      have effects : ∀ (task : Task) (step : TaskStep) (invocation : CapabilityInvocation),
          effectOf platform others task step invocation descriptor =
            effectOf platform rules task step invocation descriptor := fun _ _ _ => by
        simp only [effectOf, found]
      simp only [evaluatePolicy, read, again, Option.bind_eq_bind, Option.bind_some, scopeOf, found, effects, version]

/-- Nothing is permitted but what an explicit rule matches, whatever the order of the rules. -/
theorem evaluatePolicy_default_deny (platform : Platform) (raw : PolicyRules) (task : Task) (step : TaskStep)
    (invocation : CapabilityInvocation) (descriptor : CapabilityDescriptor) (id : Id) (evaluatedAt : Timestamp) :
    (∀ evaluation, evaluatePolicy platform raw task step invocation descriptor id evaluatedAt = some evaluation →
      evaluation.decision.decision ≠ .deny →
      ∃ rules readTask readStep request, raw.parse = some rules ∧ task.parse = some readTask ∧
        step.parse = some readStep ∧ invocation.parse = some request ∧
        evaluation.scope.taskId = readTask.id ∧ evaluation.scope.tenantId = readTask.tenant.id ∧
        Permitted platform rules readTask readStep request descriptor evaluation.decision.decision) ∧
    ∀ reordered, raw.rules.Perm reordered →
      evaluatePolicy platform { raw with rules := reordered } task step invocation descriptor id evaluatedAt =
        evaluatePolicy platform raw task step invocation descriptor id evaluatedAt := by
  refine ⟨fun evaluation given permits => ?_, fun _ same => evaluatePolicy_perm same⟩
  obtain ⟨rules, readTask, readStep, request, rulesRead, taskRead, stepRead, requestRead, effect, taskId, tenant⟩ :=
    evaluatePolicy_some given
  rw [effect] at permits ⊢
  exact ⟨rules, readTask, readStep, request, rulesRead, taskRead, stepRead, requestRead, taskId, tenant,
    effectOf_permitted permits⟩

end Evaluate

end KernelJson.Approvals.DefaultDeny
