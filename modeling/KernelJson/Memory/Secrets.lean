import KernelJson.Foundation.Transactions
import KernelJson.Memory.Service

/-!
# Secrets in canonical memory

A recorded candidate keeps its content unless the secret scan refused it, and the
scan runs only after the checks of scope and target.  The rows that a call writes
carry no secret exactly when no such check stands between a secret and the scan,
and no retraction copies a secret that a stored version already carries.
-/

namespace KernelJson.Memory.Secrets

open Contracts.Common
open Contracts.Identity
open Contracts.Platform
open Foundation
open Foundation.JsText
open Memory.Policy
open Memory.Service

/-! ## Verdicts and the secret scan -/

def IsSecret (content : JsString) : Prop := (looksLikeSecret content).isSome = true

instance (content : JsString) : Decidable (IsSecret content) :=
  inferInstanceAs (Decidable ((looksLikeSecret content).isSome = true))

theorem redactedContent_not_secret : ¬ IsSecret redactedContent := by decide +kernel

theorem ruleId_of_scopeRefusal {origin : MemoryOrigin} {context : TenantContext} {sub : CandidateSubmission}
    {target : Option TargetState} {refusal : PolicyDecisionResult}
    (refused : scopeRefusal origin context sub target = some refusal) :
    refusal.decision = .refuse ∧ refusal.ruleId ≠ noSecrets := by
  unfold scopeRefusal at refused
  split at refused
  · cases refused
    exact ⟨rfl, by decide⟩
  · split at refused
    · cases refused
    · split at refused
      · cases refused
        exact ⟨rfl, by decide⟩
      · split at refused
        · cases refused
          exact ⟨rfl, by decide⟩
        · split at refused
          · cases refused
            exact ⟨rfl, by decide⟩
          · split at refused
            · cases refused
              exact ⟨rfl, by decide⟩
            · split at refused
              · cases refused
                exact ⟨rfl, by decide⟩
              · split at refused
                · cases refused
                  exact ⟨rfl, by decide⟩
                · cases refused

/-- A submission that goes through without a target is for a new memory. -/
theorem new_of_no_target {origin : MemoryOrigin} {context : TenantContext} {sub : CandidateSubmission}
    (through : scopeRefusal origin context sub none = none) : sub.intent = .new := by
  unfold scopeRefusal at through
  split at through
  · cases through
  · split at through
    · next new => exact new
    · cases through

theorem ruleId_of_decideOutcome (candidate : CandidateSubmission) : (decideOutcome candidate).ruleId ≠ noSecrets := by
  unfold decideOutcome
  split
  · decide
  · split
    · decide
    · split
      · decide
      · split
        · decide
        · decide

/-- The rule `no-secrets` is the secret scan's, and no other. -/
theorem ruleId_of_decidePromotion {origin : MemoryOrigin} {candidate : CandidateSubmission}
    {targetClass : Option MemoryClass} :
    (decidePromotion origin candidate targetClass).ruleId = noSecrets ↔ IsSecret candidate.content := by
  cases secret : looksLikeSecret candidate.content with
  | some shape =>
      rw [decidePromotion_of_secret secret, IsSecret, secret]
      exact ⟨fun _ => rfl, fun _ => rfl⟩
  | none =>
      have clean : ¬ IsSecret candidate.content := by
        rw [IsSecret, secret]
        exact Bool.false_ne_true
      refine ⟨fun named => absurd named ?_, fun found => absurd found clean⟩
      simp only [decidePromotion, secret]
      cases origin with
      | modelProposal => exact (by decide : js "model-candidate-only" ≠ noSecrets)
      | sharedBrain => exact (by decide : js "shared-brain-candidate-only" ≠ noSecrets)
      | verifiedOutcome => exact ruleId_of_decideOutcome candidate
      | operatorInstruction =>
          dsimp only
          split
          · exact (by decide : js "relationship-promotion-disabled" ≠ noSecrets)
          · exact (by decide : js "operator-instruction" ≠ noSecrets)

/-- A verdict that is not the policy's own names another rule. -/
theorem judge_cases (state : MemoryState) (origin : MemoryOrigin) (context : TenantContext)
    (sub : CandidateSubmission) {target : Option TargetState} (through : scopeRefusal origin context sub target = none) :
    judge state origin context sub target = decidePromotion origin sub (target.map TargetState.class_) ∨
      (decidePromotion origin sub (target.map TargetState.class_)).decision ≠ .refuse ∧
        judge state origin context sub target = refuse "outcome-not-verified"
          "the cited task evidence is not part of a verified, completed outcome" := by
  simp only [judge, through]
  split
  · next unverified =>
      refine .inr ⟨?_, rfl⟩
      rcases unverified.2.1 with allowed | waiting
      · rw [allowed]
        exact PolicyOutcome.noConfusion
      · rw [waiting]
        exact PolicyOutcome.noConfusion
  · exact .inl rfl

theorem ruleId_of_judge (state : MemoryState) {origin : MemoryOrigin} {context : TenantContext}
    {sub : CandidateSubmission} {target : Option TargetState} :
    (judge state origin context sub target).ruleId = noSecrets ↔
      scopeRefusal origin context sub target = none ∧ IsSecret sub.content := by
  cases refused : scopeRefusal origin context sub target with
  | some refusal =>
      have judged : judge state origin context sub target = refusal := by simp only [judge, refused]
      rw [judged]
      exact ⟨fun named => absurd named (ruleId_of_scopeRefusal refused).2, fun both => by cases both.1⟩
  | none =>
      rcases judge_cases state origin context sub refused with policy | ⟨open_, unverified⟩
      · rw [policy, ruleId_of_decidePromotion]
        exact ⟨fun secret => ⟨rfl, secret⟩, And.right⟩
      · rw [unverified]
        have clean := not_secret_of_decidePromotion open_
        refine ⟨fun named => absurd named (by decide), fun both => ?_⟩
        rw [IsSecret, clean] at both
        cases both.2

theorem decision_of_noSecrets {state : MemoryState} {origin : MemoryOrigin} {context : TenantContext}
    {sub : CandidateSubmission} {target : Option TargetState}
    (named : (judge state origin context sub target).ruleId = noSecrets) :
    (judge state origin context sub target).decision = .refuse := by
  obtain ⟨through, secret⟩ := (ruleId_of_judge _).mp named
  obtain ⟨shape, found⟩ := Option.isSome_iff_exists.mp secret
  rcases judge_cases state origin context sub through with policy | ⟨-, unverified⟩
  · rw [policy, decidePromotion_of_secret found]
  · rw [unverified]
    rfl

/-- A candidate is redacted exactly when it is a secret that every earlier check let through. -/
theorem ruleId_of_finalVerdict {state : MemoryState} {origin : MemoryOrigin} {context : TenantContext}
    {sub : CandidateSubmission} {target : Option TargetState} (approvalId : Option Id) :
    (finalVerdict (judge state origin context sub target) approvalId).ruleId = noSecrets ↔
      scopeRefusal origin context sub target = none ∧ IsSecret sub.content := by
  rw [← ruleId_of_judge state]
  unfold finalVerdict
  split
  · next waiting =>
      constructor
      · intro named
        exact absurd named (by decide : js "approval-unavailable" ≠ noSecrets)
      · intro named
        rw [decision_of_noSecrets named] at waiting
        cases waiting.1
  · rfl

/-- What is allowed is not a secret. -/
theorem not_secret_of_allow {state : MemoryState} {origin : MemoryOrigin} {context : TenantContext}
    {sub : CandidateSubmission} {target : Option TargetState} {approvalId : Option Id}
    (allowed : (finalVerdict (judge state origin context sub target) approvalId).decision = .allow) :
    scopeRefusal origin context sub target = none ∧ ¬ IsSecret sub.content := by
  have judged : (judge state origin context sub target).decision = .allow := by
    unfold finalVerdict at allowed
    split at allowed
    · cases allowed
    · exact allowed
  have through : scopeRefusal origin context sub target = none := by
    cases refused : scopeRefusal origin context sub target with
    | none => rfl
    | some refusal =>
        have same : judge state origin context sub target = refusal := by simp only [judge, refused]
        rw [same, (ruleId_of_scopeRefusal refused).1] at judged
        cases judged
  refine ⟨through, fun secret => ?_⟩
  rw [decision_of_noSecrets ((ruleId_of_judge _).mpr ⟨through, secret⟩)] at judged
  cases judged

/-! ## The rows of a recorded call -/

section

variable (platform : Platform) (nfc : JsString → JsString)

/-- The principal is of the kind that the entry point of the origin asks for. -/
def OfKind : MemoryOrigin → TenantContext → Prop
  | .operatorInstruction, context => context.principal.kind = .human
  | .verifiedOutcome, context => context.principal.kind = .service
  | .modelProposal, _ => True
  | .sharedBrain, _ => True

/-- The submission, the memory and the answers are such that the call records its candidate: it is well formed and
authorised, its key is new to both transactions, an approval that is asked for is given, and the second
transaction takes effect. -/
structure Recording (configured : Bool) (origin : MemoryOrigin) (context : TenantContext)
    (raw : Option RawSubmission) (answers : Answers) (prepared : Prepared) (first second : MemoryState) : Prop where
  ofKind : OfKind origin context
  prepares : prepare platform nfc context.tenantId raw = some prepared
  reads : answers.first = some first
  authorized : Authorized first.members context .knowledgeWrite
  unseen : candidateOf first context.tenantId prepared.sub.idempotencyKey = none
  ticket : configured = true → answers.approval = none →
    (judge first origin context prepared.sub
      (loadTarget first context.tenantId prepared.sub.targetMemoryId)).decision ≠ .requireApproval
  readsAgain : answers.second = some second
  authorizedAgain : Authorized second.members context .knowledgeWrite
  fresh : alreadyRecorded second context prepared = false
  commits : answers.commits = true

/-- No row among them carries a secret. -/
structure NoSecret (writes : Writes) : Prop where
  candidates : ∀ row ∈ writes.candidates, ¬ IsSecret row.content
  versions : ∀ row ∈ writes.versions, ¬ IsSecret row.content

theorem noSecret_none : NoSecret Writes.none where
  candidates := fun _ member => absurd member List.not_mem_nil
  versions := fun _ member => absurd member List.not_mem_nil

/-- A version is written for an allowed verdict only, with the content that `versionContent` says. -/
theorem recordDecision_ok (context : TenantContext) (row : CandidateRow) {target : Option TargetState}
    {verdict : PolicyDecisionResult} (approvalId : Option Id) (now : Timestamp)
    (targeted : verdict.decision = .allow → row.intent = .correct ∨ row.intent = .retract → target ≠ none) :
    ∃ result writes, recordDecision platform nfc context row target verdict approvalId now = .ok (result, writes) ∧
      writes.candidates = [row] ∧
      writes.versions.map VersionRow.content =
        if verdict.decision = .allow then [versionContent row target] else [] := by
  by_cases allowed : verdict.decision = .allow
  · have promoted : ∃ made, promotedVersion platform row target = .ok made := by
      unfold promotedVersion
      split
      · next changes =>
          obtain ⟨held, found⟩ := Option.ne_none_iff_exists'.mp (targeted allowed changes)
          rw [found]
          exact ⟨_, rfl⟩
      · exact ⟨_, rfl⟩
    obtain ⟨made, given⟩ := promoted
    simp only [recordDecision, if_pos allowed, given]
    exact ⟨_, _, rfl, rfl, rfl⟩
  · simp only [recordDecision, if_neg allowed]
    exact ⟨_, _, rfl, rfl, rfl⟩

theorem firstPhase_unseen {state : MemoryState} {origin : MemoryOrigin} {context : TenantContext}
    {prepared : Prepared} (authorized : Authorized state.members context .knowledgeWrite)
    (unseen : candidateOf state context.tenantId prepared.sub.idempotencyKey = none) :
    firstPhase state origin context prepared = .ok (.inr ((judge state origin context prepared.sub
      (loadTarget state context.tenantId prepared.sub.targetMemoryId)).decision == .requireApproval)) := by
  have new : existing state context prepared = .ok none := by simp only [existing, unseen]
  rw [firstPhase, if_pos authorized, new]
  rfl

theorem finalVerdict_allow {verdict : PolicyDecisionResult} {approvalId : Option Id} :
    (finalVerdict verdict approvalId).decision = .allow ↔ verdict.decision = .allow := by
  unfold finalVerdict
  split
  · next waiting =>
      rw [waiting.1]
      constructor
      · intro held
        cases held
      · intro waits
        cases waits
  · rfl

/-- The verdict of the recording transaction. -/
def recordedVerdict (origin : MemoryOrigin) (context : TenantContext) (prepared : Prepared) (second : MemoryState) :
    PolicyDecisionResult :=
  judge second origin context prepared.sub (loadTarget second context.tenantId prepared.sub.targetMemoryId)

/-- The recording transaction writes one candidate, redacted if the scan refused it, and one version if the
verdict allows it. -/
theorem secondPhase_fresh {second : MemoryState} {origin : MemoryOrigin} {context : TenantContext}
    {prepared : Prepared} (approvalId : Option Id) (now : Timestamp)
    (authorized : Authorized second.members context .knowledgeWrite)
    (fresh : alreadyRecorded second context prepared = false) :
    ∃ result writes row, secondPhase platform nfc second origin context prepared approvalId now =
        .ok (result, writes) ∧ writes.candidates = [row] ∧
      (row.content = if scopeRefusal origin context prepared.sub
          (loadTarget second context.tenantId prepared.sub.targetMemoryId) = none ∧ IsSecret prepared.sub.content
        then redactedContent else prepared.sub.content) ∧
      row.intent = prepared.sub.intent ∧
      writes.versions.map VersionRow.content =
        if (recordedVerdict origin context prepared second).decision = .allow then
          [versionContent row (loadTarget second context.tenantId prepared.sub.targetMemoryId)]
        else [] := by
  obtain ⟨target, loaded⟩ : ∃ target, loadTarget second context.tenantId prepared.sub.targetMemoryId = target :=
    ⟨_, rfl⟩
  obtain ⟨verdict, final⟩ : ∃ verdict,
    finalVerdict (recordedVerdict origin context prepared second) approvalId = verdict := ⟨_, rfl⟩
  have scanned : verdict.ruleId = noSecrets ↔
      scopeRefusal origin context prepared.sub target = none ∧ IsSecret prepared.sub.content := by
    rw [← final, recordedVerdict, ruleId_of_finalVerdict, loaded]
  have allows : verdict.decision = .allow ↔ (recordedVerdict origin context prepared second).decision = .allow := by
    rw [← final, finalVerdict_allow]
  obtain ⟨approval, kept⟩ : ∃ approval, (if verdict.decision = .requireApproval then approvalId else none) = approval :=
    ⟨_, rfl⟩
  have targeted : verdict.decision = .allow → prepared.sub.intent = .correct ∨ prepared.sub.intent = .retract →
      target ≠ none := by
    intro allowed changes missing
    have through := (not_secret_of_allow (final ▸ allowed)).1
    rw [loaded, missing] at through
    rw [new_of_no_target through] at changes
    rcases changes with correct | retract
    · cases correct
    · cases retract
  obtain ⟨result, writes, recorded, candidates, versions⟩ := recordDecision_ok platform nfc context
    (candidateRow origin context prepared verdict approval now) approval now targeted
  refine ⟨result, writes, _, ?_, candidates, ?_, rfl, ?_⟩
  · have judged := final
    rw [recordedVerdict, loaded] at judged
    simp only [secondPhase, if_pos authorized, loaded, judged, fresh, kept, Bool.false_eq_true, if_false]
    exact recorded
  · simp only [candidateRow, scanned, loaded]
  · rw [versions, loaded]
    simp only [allows]

theorem enter_of_kind (configured : Bool) {origin : MemoryOrigin} {context : TenantContext}
    (raw : Option RawSubmission) (answers : Answers) (kind : OfKind origin context) :
    enter platform nfc configured origin context raw answers =
      submit platform nfc configured origin context raw answers := by
  cases origin with
  | operatorInstruction => exact if_neg (not_not_intro kind)
  | verifiedOutcome => exact if_neg (not_not_intro kind)
  | modelProposal => rfl
  | sharedBrain => rfl

theorem enter_of_other_kind (configured : Bool) {origin : MemoryOrigin} {context : TenantContext}
    (raw : Option RawSubmission) (answers : Answers) (other : ¬ OfKind origin context) :
    (enter platform nfc configured origin context raw answers).written = Writes.none := by
  cases origin with
  | operatorInstruction => exact congrArg Submitted.written (if_pos other)
  | verifiedOutcome => exact congrArg Submitted.written (if_pos other)
  | modelProposal => exact absurd trivial other
  | sharedBrain => exact absurd trivial other

/-- A call that records writes what its second transaction writes. -/
theorem written_of_recording {configured : Bool} {origin : MemoryOrigin} {context : TenantContext}
    {raw : Option RawSubmission} {answers : Answers} {prepared : Prepared} {first second : MemoryState}
    (recording : Recording platform nfc configured origin context raw answers prepared first second) :
    ∃ approvalId, ∀ result writes,
      secondPhase platform nfc second origin context prepared approvalId answers.now = .ok (result, writes) →
        (enter platform nfc configured origin context raw answers).written = writes := by
  have entered := enter_of_kind platform nfc configured raw answers recording.ofKind
  obtain ⟨needs, judged⟩ : ∃ needs, ((judge first origin context prepared.sub
      (loadTarget first context.tenantId prepared.sub.targetMemoryId)).decision == .requireApproval) = needs := ⟨_, rfl⟩
  have begins : firstPhase first origin context prepared = .ok (.inr needs) := by
    rw [firstPhase_unseen recording.authorized recording.unseen, judged]
  have requested : ∃ approvalId, requestApproval configured needs answers = .ok approvalId := by
    unfold requestApproval
    split
    · next asks =>
        obtain ⟨needed, served⟩ := Bool.and_eq_true_iff.mp asks
        cases given : answers.approval with
        | some ticket => exact ⟨some ticket, rfl⟩
        | none =>
            rw [needed] at judged
            exact absurd (eq_of_beq judged) (recording.ticket served given)
    · exact ⟨none, rfl⟩
  obtain ⟨approvalId, asked⟩ := requested
  refine ⟨approvalId, fun result writes recorded => ?_⟩
  have attempted : attempt platform nfc configured origin context raw answers = .ok (.inr (result, writes)) := by
    simp only [attempt, recording.prepares, recording.reads, recording.readsAgain, orFail, bind, Except.bind, begins,
      asked, recorded]
  simp only [entered, submit, attempted, commit, recording.commits, Bool.true_eq_false, if_false]
  split
  · rfl
  · rfl

theorem firstPhase_inr {first : MemoryState} {origin : MemoryOrigin} {context : TenantContext} {prepared : Prepared}
    {needs : Bool} (begins : firstPhase first origin context prepared = .ok (.inr needs)) :
    Authorized first.members context .knowledgeWrite ∧
      candidateOf first context.tenantId prepared.sub.idempotencyKey = none ∧
      needs = ((judge first origin context prepared.sub
        (loadTarget first context.tenantId prepared.sub.targetMemoryId)).decision == .requireApproval) := by
  by_cases authorized : Authorized first.members context .knowledgeWrite
  · cases seen : candidateOf first context.tenantId prepared.sub.idempotencyKey with
    | none =>
        rw [firstPhase_unseen authorized seen] at begins
        cases begins
        exact ⟨authorized, rfl, rfl⟩
    | some row =>
        rw [firstPhase, if_pos authorized] at begins
        cases replayed : existing first context prepared with
        | error failure =>
            rw [replayed] at begins
            cases begins
        | ok found =>
            rw [replayed] at begins
            cases found with
            | some replay => cases begins
            | none =>
                simp only [existing, seen] at replayed
                split at replayed
                · cases replayed
                · cases result : resultFor first row true with
                  | error failure =>
                      rw [result] at replayed
                      cases replayed
                  | ok replay =>
                      rw [result] at replayed
                      cases replayed
  · rw [firstPhase, if_neg authorized] at begins
    cases begins

theorem secondPhase_cases {second : MemoryState} {origin : MemoryOrigin} {context : TenantContext}
    {prepared : Prepared} {approvalId : Option Id} {now : Timestamp} {result : SubmissionResult} {writes : Writes}
    (recorded : secondPhase platform nfc second origin context prepared approvalId now = .ok (result, writes)) :
    writes = Writes.none ∨
      (Authorized second.members context .knowledgeWrite ∧ alreadyRecorded second context prepared = false) := by
  by_cases authorized : Authorized second.members context .knowledgeWrite
  · cases fresh : alreadyRecorded second context prepared with
    | false => exact .inr ⟨authorized, rfl⟩
    | true =>
        left
        simp only [secondPhase, if_pos authorized, fresh, if_true] at recorded
        cases replayed : existing second context prepared with
        | error failure =>
            rw [replayed] at recorded
            cases recorded
        | ok found =>
            rw [replayed] at recorded
            cases found with
            | none => cases recorded
            | some replay =>
                cases recorded
                rfl
  · simp only [secondPhase, if_neg authorized] at recorded
    cases recorded

theorem orFail_ok {α : Type} {failure : Failure} {found : Option α} {value : α}
    (given : orFail failure found = .ok value) : found = some value := by
  cases found with
  | none => cases given
  | some held =>
      cases given
      rfl

/-- What a call attempts to commit was recorded by its second transaction. -/
theorem attempt_inr {configured : Bool} {origin : MemoryOrigin} {context : TenantContext}
    {raw : Option RawSubmission} {answers : Answers} {recorded : SubmissionResult × Writes}
    (attempted : attempt platform nfc configured origin context raw answers = .ok (.inr recorded)) :
    ∃ prepared first second needs approvalId, prepare platform nfc context.tenantId raw = some prepared ∧
      answers.first = some first ∧ firstPhase first origin context prepared = .ok (.inr needs) ∧
      requestApproval configured needs answers = .ok approvalId ∧ answers.second = some second ∧
      secondPhase platform nfc second origin context prepared approvalId answers.now = .ok recorded := by
  obtain ⟨prepared, prepares, attempted⟩ := Transactions.bind_ok attempted
  obtain ⟨first, reads, attempted⟩ := Transactions.bind_ok attempted
  obtain ⟨stage, begins, attempted⟩ := Transactions.bind_ok attempted
  cases stage with
  | inl replay => cases attempted
  | inr needs =>
      obtain ⟨approvalId, asked, attempted⟩ := Transactions.bind_ok attempted
      obtain ⟨second, readsAgain, attempted⟩ := Transactions.bind_ok attempted
      obtain ⟨outcome, recording, attempted⟩ := Transactions.bind_ok attempted
      cases attempted
      exact ⟨prepared, first, second, needs, approvalId, orFail_ok prepares, orFail_ok reads, begins, asked,
        orFail_ok readsAgain, recording⟩

theorem ticket_of_requestApproval {configured needs : Bool} {answers : Answers} {approvalId : Option Id}
    (asked : requestApproval configured needs answers = .ok approvalId) :
    configured = true → answers.approval = none → needs = false := by
  intro served missing
  cases needs with
  | false => rfl
  | true =>
      rw [requestApproval, served, missing] at asked
      cases asked

/-- Only a call that records writes anything. -/
theorem recording_or_none (configured : Bool) (origin : MemoryOrigin) (context : TenantContext)
    (raw : Option RawSubmission) (answers : Answers) :
    (enter platform nfc configured origin context raw answers).written = Writes.none ∨
      ∃ prepared first second, Recording platform nfc configured origin context raw answers prepared first second := by
  by_cases kind : OfKind origin context
  · rw [enter_of_kind platform nfc configured raw answers kind, submit]
    cases attempted : attempt platform nfc configured origin context raw answers with
    | error failure => exact .inl rfl
    | ok ended =>
        cases ended with
        | inl replay => exact .inl rfl
        | inr recorded =>
            obtain ⟨prepared, first, second, needs, approvalId, prepares, reads, begins, asked, readsAgain,
              recording⟩ := attempt_inr platform nfc attempted
            obtain ⟨authorized, unseen, needed⟩ := firstPhase_inr begins
            cases commits : answers.commits with
            | false =>
                left
                simp only [commit, commits, if_true]
                rfl
            | true =>
                rcases secondPhase_cases platform nfc recording with empty | ⟨authorizedAgain, fresh⟩
                · left
                  simp only [commit, commits, Bool.true_eq_false, if_false]
                  split
                  · exact empty
                  · exact empty
                · refine .inr ⟨prepared, first, second, kind, prepares, reads, authorized, unseen, ?_, readsAgain,
                    authorizedAgain, fresh, commits⟩
                  intro served missing asks
                  have idle := ticket_of_requestApproval asked served missing
                  rw [needed, asks] at idle
                  cases idle
  · exact .inl (enter_of_other_kind platform nfc configured raw answers kind)

/-! ## When no secret is stored -/

/-- A check of scope or target refuses a secret before the scan sees it. -/
def RefusedUnscanned (origin : MemoryOrigin) (context : TenantContext) (prepared : Prepared)
    (second : MemoryState) : Prop :=
  scopeRefusal origin context prepared.sub
      (loadTarget second context.tenantId prepared.sub.targetMemoryId) ≠ none ∧
    IsSecret prepared.sub.content

/-- An allowed retraction copies the content of a stored version, which is a secret. -/
def CopiesSecret (origin : MemoryOrigin) (context : TenantContext) (prepared : Prepared)
    (second : MemoryState) : Prop :=
  (recordedVerdict origin context prepared second).decision = .allow ∧ prepared.sub.intent = .retract ∧
    ∃ target ∈ loadTarget second context.tenantId prepared.sub.targetMemoryId, IsSecret target.content

/-- The recorded candidate carries a secret exactly when it was refused before the scan. -/
theorem secret_candidate_iff {origin : MemoryOrigin} {context : TenantContext} {prepared : Prepared}
    {second : MemoryState} {content : JsString}
    (stored : content = if scopeRefusal origin context prepared.sub
        (loadTarget second context.tenantId prepared.sub.targetMemoryId) = none ∧ IsSecret prepared.sub.content
      then redactedContent else prepared.sub.content) :
    IsSecret content ↔ RefusedUnscanned origin context prepared second := by
  by_cases scanned : scopeRefusal origin context prepared.sub
      (loadTarget second context.tenantId prepared.sub.targetMemoryId) = none ∧ IsSecret prepared.sub.content
  · rw [if_pos scanned] at stored
    rw [stored]
    constructor
    · intro secret
      exact absurd secret redactedContent_not_secret
    · intro unscanned
      exact absurd scanned.1 unscanned.1
  · rw [if_neg scanned] at stored
    rw [stored]
    constructor
    · intro secret
      exact ⟨fun through => scanned ⟨through, secret⟩, secret⟩
    · intro unscanned
      exact unscanned.2

/-- The version of an allowed verdict carries a secret exactly when it is a retraction that copies one. -/
theorem secret_version_iff {origin : MemoryOrigin} {context : TenantContext} {prepared : Prepared}
    {second : MemoryState} {row : CandidateRow}
    (allowed : (recordedVerdict origin context prepared second).decision = .allow)
    (stored : row.content = if scopeRefusal origin context prepared.sub
        (loadTarget second context.tenantId prepared.sub.targetMemoryId) = none ∧ IsSecret prepared.sub.content
      then redactedContent else prepared.sub.content)
    (intent : row.intent = prepared.sub.intent) :
    IsSecret (versionContent row (loadTarget second context.tenantId prepared.sub.targetMemoryId)) ↔
      CopiesSecret origin context prepared second := by
  have final : (finalVerdict (recordedVerdict origin context prepared second) none).decision = .allow :=
    finalVerdict_allow.mpr allowed
  obtain ⟨through, clean⟩ := not_secret_of_allow final
  rw [if_neg fun scanned => clean scanned.2] at stored
  rw [CopiesSecret, versionContent, intent, stored]
  cases loaded : loadTarget second context.tenantId prepared.sub.targetMemoryId with
  | none =>
      rw [loaded] at through
      rw [if_neg (by rw [new_of_no_target through]; exact MemoryIntent.noConfusion)]
      constructor
      · intro secret
        exact absurd secret clean
      · rintro ⟨-, -, target, member, -⟩
        cases member
  | some target =>
      split
      · next retract =>
          constructor
          · intro secret
            exact ⟨allowed, retract, target, rfl, secret⟩
          · rintro ⟨-, -, held, member, secret⟩
            cases member
            exact secret
      · next kept =>
          constructor
          · intro secret
            exact absurd secret clean
          · intro copies
            exact absurd copies.2.1 kept

/-- The rows of one recording carry no secret exactly when neither way of leaking one is open. -/
theorem noSecret_of_secondPhase {second : MemoryState} {origin : MemoryOrigin} {context : TenantContext}
    {prepared : Prepared} {approvalId : Option Id} {now : Timestamp} {result : SubmissionResult} {writes : Writes}
    (authorized : Authorized second.members context .knowledgeWrite)
    (fresh : alreadyRecorded second context prepared = false)
    (recorded : secondPhase platform nfc second origin context prepared approvalId now = .ok (result, writes)) :
    NoSecret writes ↔
      ¬ RefusedUnscanned origin context prepared second ∧ ¬ CopiesSecret origin context prepared second := by
  obtain ⟨_, _, row, same, candidates, content, intent, versions⟩ :=
    secondPhase_fresh platform nfc approvalId now authorized fresh
  cases recorded.symm.trans same
  have candidate := secret_candidate_iff content
  by_cases allowed : (recordedVerdict origin context prepared second).decision = .allow
  · have version := secret_version_iff allowed content intent
    rw [if_pos allowed] at versions
    obtain ⟨made, only, stored⟩ := List.map_eq_singleton_iff.mp versions
    rw [← candidate, ← version, ← stored]
    constructor
    · intro clean
      refine ⟨clean.candidates row ?_, clean.versions made ?_⟩
      · rw [candidates]
        exact List.mem_singleton_self row
      · rw [only]
        exact List.mem_singleton_self made
    · rintro ⟨rowClean, madeClean⟩
      constructor
      · intro other member
        rw [candidates, List.mem_singleton] at member
        rwa [member]
      · intro other member
        rw [only, List.mem_singleton] at member
        rwa [member]
  · rw [if_neg allowed] at versions
    have nothing := List.map_eq_nil_iff.mp versions
    have uncopied : ¬ CopiesSecret origin context prepared second := fun copies => allowed copies.1
    rw [← candidate]
    constructor
    · intro clean
      refine ⟨clean.candidates row ?_, uncopied⟩
      rw [candidates]
      exact List.mem_singleton_self row
    · rintro ⟨rowClean, -⟩
      constructor
      · intro other member
        rw [candidates, List.mem_singleton] at member
        rwa [member]
      · intro other member
        rw [nothing] at member
        cases member

/-- The rows that a call writes carry no secret exactly when, whenever the call records its candidate, no check
before the scan refuses a secret and no allowed retraction copies one. -/
theorem written_no_secret_iff (configured : Bool) (origin : MemoryOrigin) (context : TenantContext)
    (raw : Option RawSubmission) (answers : Answers) :
    NoSecret (enter platform nfc configured origin context raw answers).written ↔
      ∀ prepared first second,
        Recording platform nfc configured origin context raw answers prepared first second →
          ¬ RefusedUnscanned origin context prepared second ∧ ¬ CopiesSecret origin context prepared second := by
  have judged : ∀ prepared first second,
      Recording platform nfc configured origin context raw answers prepared first second →
        (NoSecret (enter platform nfc configured origin context raw answers).written ↔
          ¬ RefusedUnscanned origin context prepared second ∧ ¬ CopiesSecret origin context prepared second) := by
    intro prepared first second recording
    obtain ⟨approvalId, writes⟩ := written_of_recording platform nfc recording
    obtain ⟨result, rows, row, recorded, -⟩ := secondPhase_fresh platform nfc approvalId answers.now
      recording.authorizedAgain recording.fresh
    rw [writes result rows recorded]
    exact noSecret_of_secondPhase platform nfc recording.authorizedAgain recording.fresh recorded
  constructor
  · intro clean prepared first second recording
    exact (judged prepared first second recording).mp clean
  · intro closed
    rcases recording_or_none platform nfc configured origin context raw answers with
      nothing | ⟨prepared, first, second, recording⟩
    · rw [nothing]
      exact noSecret_none
    · exact (judged prepared first second recording).mpr (closed prepared first second recording)

/-! ## Canonical versions -/

/-- A fold that takes a row or keeps what it holds ends with one of them. -/
theorem mem_of_foldl {α : Type} {step : Option α → α → Option α} {first : α}
    (picks : ∀ best row, step best row = some row ∨ step best row = best) {rows : List α} {best : Option α}
    (found : rows.foldl step best = some first) : best = some first ∨ first ∈ rows := by
  induction rows generalizing best with
  | nil => exact .inl found
  | cons row rest ih =>
      rcases ih found with here | later
      · rcases picks best row with taken | kept
        · rw [taken] at here
          cases here
          exact .inr List.mem_cons_self
        · exact .inl (kept.symm.trans here)
      · exact .inr (List.mem_cons_of_mem _ later)

theorem mem_of_firstBy {α : Type} {before : α → α → Bool} {rows : List α} {first : α}
    (found : firstBy before rows = some first) : first ∈ rows := by
  unfold firstBy at found
  refine (mem_of_foldl ?_ found).resolve_left (Option.some_ne_none _).symm
  intro best row
  cases best with
  | none => exact .inl rfl
  | some held =>
      dsimp only
      split
      · exact .inl rfl
      · exact .inr rfl

/-- Where no stored version is a secret, no call makes one a canonical version. -/
theorem written_versions_clean {configured : Bool} {origin : MemoryOrigin} {context : TenantContext}
    {raw : Option RawSubmission} {answers : Answers}
    (clean : ∀ state ∈ answers.second, ∀ row ∈ state.versions, ¬ IsSecret row.content) :
    ∀ row ∈ (enter platform nfc configured origin context raw answers).written.versions, ¬ IsSecret row.content := by
  rcases recording_or_none platform nfc configured origin context raw answers with
    nothing | ⟨prepared, first, second, recording⟩
  · rw [nothing]
    exact noSecret_none.versions
  · obtain ⟨approvalId, writes⟩ := written_of_recording platform nfc recording
    obtain ⟨result, rows, row, recorded, candidates, content, intent, versions⟩ :=
      secondPhase_fresh platform nfc approvalId answers.now recording.authorizedAgain recording.fresh
    rw [writes result rows recorded]
    intro made member
    have listed : made.content ∈ rows.versions.map VersionRow.content := List.mem_map.mpr ⟨made, member, rfl⟩
    rw [versions] at listed
    split at listed
    · next allowed =>
        rw [List.mem_singleton] at listed
        rw [listed, secret_version_iff allowed content intent]
        rintro ⟨-, -, target, loaded, secret⟩
        obtain ⟨memoryId, -, found⟩ := Option.bind_eq_some_iff.mp loaded
        obtain ⟨head, headed, same⟩ := Option.bind_eq_some_iff.mp found
        cases same
        exact clean second recording.readsAgain head (List.mem_of_mem_filter (mem_of_firstBy headed)) secret
    · cases listed

end

/-! ## A secret that is stored -/

def sampleTenant : Id := ⟨js "5ec2e7a0-0000-4000-8000-000000000001", by decide⟩

def sampleOwner : PrincipalRef := ⟨⟨js "5ec2e7a0-0000-4000-8000-000000000002", by decide⟩, .human⟩

def sampleContext : TenantContext := ⟨sampleTenant, sampleOwner⟩

def emptyState : MemoryState := ⟨[], [], [], [], fun _ => some .owner, fun _ _ _ => false⟩

def sampleAnswers : Answers := ⟨some emptyState, none, some emptyState, .epoch, true, true⟩

/-- A key, submitted as a personal memory of somebody else. -/
def sampleSubmission : RawSubmission where
  idempotencyKey := js "telegram-update-1"
  class_ := .fact
  content := js "my key is sk-abcdefghijklmnopqrstuvwxyz"
  subject := ⟨.principal, js "somebody else"⟩
  evidence := [⟨.telegramUpdate, js "1", none⟩]
  reason := js "the operator said so"
  intent := none
  targetMemoryId := none

/-- A submission that is refused for its subject leaves its secret in the candidate row. -/
theorem refused_candidate_stores_secret :
    ∃ row ∈ (enter .ascii id false .operatorInstruction sampleContext (some sampleSubmission)
        sampleAnswers).written.candidates,
      row.state = .refused ∧ looksLikeSecret row.content = some (js "api-key") := by
  have stored : (enter .ascii id false .operatorInstruction sampleContext (some sampleSubmission)
      sampleAnswers).written.candidates.any (fun row => row.state = .refused ∧
        looksLikeSecret row.content = some (js "api-key")) = true := by decide +kernel
  obtain ⟨row, member, shown⟩ := List.any_eq_true.mp stored
  exact ⟨row, member, of_decide_eq_true shown⟩

end KernelJson.Memory.Secrets
