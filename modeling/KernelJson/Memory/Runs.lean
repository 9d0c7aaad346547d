import KernelJson.Memory.Canonical

/-!
# Runs of canonical memory

Every submission, settlement and flag keeps `Sound`, so that it holds in every
reachable state, and no step adds a version to a memory that another one
supersedes.  `canonical_memory` collects what follows from both.
-/

namespace KernelJson.Memory.Canonical

open Contracts.Common
open Contracts.Digest
open Contracts.Identity
open Contracts.Platform
open Contracts.PolicyGate
open Foundation.JsText
open Memory.Policy
open Memory.Secrets
open Memory.Service
open Memory.Tables

variable {platform : Platform} {nfc : JsString → JsString} {configured : Bool} {store next : Store}

/-! ## The result of a candidate -/

/-- What a promotion says about its candidate. -/
def answerOf (row : CandidateRow) (promotion : PromotionRow) : SubmissionResult :=
  ⟨row.id, row.origin, row.state, promotion.decision, promotion.ruleId, promotion.reason, promotion.resultMemoryId,
    promotion.resultVersion, row.approvalId, true⟩

theorem resultFor_of_single {tables : MemoryState} {row : CandidateRow} {decided : PromotionRow}
    (only : promotionsOf tables row.id = [decided]) : resultFor tables row true = .ok (answerOf row decided) := by
  unfold promotionsOf at only
  simp only [resultFor, only]
  rfl

/-- The settlement speaks for the candidate, whatever the clock said. -/
theorem resultFor_of_pair {tables : MemoryState} {row : CandidateRow} {decided settled : PromotionRow}
    (both : promotionsOf tables row.id = [decided, settled]) (open_ : decided.decision.isSettled = false)
    (closed : settled.decision.isSettled = true) : resultFor tables row true = .ok (answerOf row settled) := by
  unfold promotionsOf at both
  have first : firstBy PromotionRow.before [decided, settled] = some settled := by
    simp only [firstBy, List.foldl_cons, List.foldl_nil, PromotionRow.before, open_, closed]
    rfl
  simp only [resultFor, both, first]
  rfl

theorem resultFor_congr {tables after : MemoryState} {row : CandidateRow}
    (same : promotionsOf after row.id = promotionsOf tables row.id) :
    resultFor after row true = resultFor tables row true := by
  unfold promotionsOf at same
  rw [resultFor, resultFor, same]

/-- A decision that fits its columns is answered from them as it was answered at first. -/
theorem stored_of_wrote {row after : CandidateRow} {target : Option TargetState} {decision : PromotionDecision}
    {result : SubmissionResult} {writes : Writes} (wrote : Wrote row target decision result writes)
    (id : after.id = row.id) (origin : after.origin = row.origin) (state : after.state = result.state)
    (approval : after.approvalId = result.approvalId) (short : result.reason.take 500 = result.reason)
    {promotion : PromotionRow} (only : writes.promotions = [promotion]) :
    answerOf after promotion = stored result := by
  obtain ⟨found, listed, -, decided, -, rule, reason, memory, version⟩ := wrote.promotion
  rw [only] at listed
  cases listed
  obtain ⟨candidateId, resultOrigin, resultState, resultDecision, ruleId, text, memoryId, number, approvalId,
    replayed⟩ := result
  have candidate := wrote.candidate
  have from_ := wrote.origin
  have decision' := wrote.decided
  dsimp only at candidate from_ decision' state approval short rule reason memory version
  rw [answerOf, stored, id, origin, state, approval, decided, rule, reason, short, memory, version, candidate, from_,
    decision']

theorem settlementOf_fits (status : ApprovalStatus) (row : CandidateRow) (target : Option TargetState) :
    (settlementOf status row target).reason.take 500 = (settlementOf status row target).reason := by
  unfold settlementOf
  split
  · split
    · decide
    · decide
  · decide
  · decide

/-- A settlement promotes when the approval was granted and the memory to change is still current. -/
theorem granted_of_allowed {status : ApprovalStatus} {row : CandidateRow} {target : Option TargetState}
    (allowed : (settlementOf status row target).allowed = true) : status = .granted ∧ ¬ Stale row target := by
  unfold settlementOf at allowed
  split at allowed
  · split at allowed
    · cases allowed
    · next current => exact ⟨rfl, current⟩
  · cases allowed
  · cases allowed

/-! ## Frames -/

theorem Vouched.mono {past more : List Event} {row : CandidateRow} (vouched : Vouched past row)
    (included : ∀ event ∈ past, event ∈ more) : Vouched more row := by
  rcases vouched with ⟨origin, context, prepared, verified, result, recorded, rest⟩ |
    ⟨origin, context, prepared, result, recorded, rest⟩
  · exact .inl ⟨origin, context, prepared, verified, result, included _ recorded, rest⟩
  · exact .inr ⟨origin, context, prepared, result, included _ recorded, rest⟩

theorem Vouched.same {past : List Event} {row after : CandidateRow} (vouched : Vouched past row)
    (id : after.id = row.id) (origin : after.origin = row.origin) : Vouched past after := by
  rw [Vouched, id, origin]
  exact vouched

theorem Granted.mono {past more : List Event} {promotion : PromotionRow} {row after : CandidateRow}
    (granted : Granted past promotion row) (included : ∀ event ∈ past, event ∈ more) (id : after.id = row.id)
    (digest : after.requestDigest = row.requestDigest) : Granted more promotion after := by
  obtain ⟨approvalId, answer, named, given, rest⟩ := granted
  rw [Granted, id, digest]
  exact ⟨approvalId, answer, named, included _ given, rest⟩

/-- The candidates of the tables are still there, with what never changes of them. -/
def Persist (tables after : MemoryState) : Prop :=
  ∀ row ∈ tables.candidates, ∃ kept ∈ after.candidates, kept.id = row.id ∧ kept.tenantId = row.tenantId ∧
    kept.origin = row.origin ∧ kept.idempotencyKey = row.idempotencyKey ∧ kept.requestDigest = row.requestDigest ∧
    kept.approvalId = row.approvalId

theorem Known.mono {tables after : MemoryState} {row : CandidateRow} {approvalId : Id}
    (known : Known tables row approvalId) (persist : Persist tables after) : Known after row approvalId := by
  obtain ⟨column, found, member, id, digest, approval⟩ := known
  obtain ⟨kept, inside, id', -, -, -, digest', approval'⟩ := persist found member
  exact ⟨column, kept, inside, id'.trans id, digest'.trans digest, approval'.trans approval⟩

theorem StageOk.mono {tables after : MemoryState} {past more : List Event} {stage : Stage}
    (ok : StageOk platform nfc tables past stage) (persist : Persist tables after)
    (included : ∀ event ∈ past, event ∈ more) : StageOk platform nfc after more stage := by
  cases stage with
  | idle => trivial
  | prepared => exact ok
  | read => exact Known.mono ok persist
  | answered => exact ⟨ok.1.mono persist, included _ ok.2.1, ok.2.2⟩

theorem stages_at {tables : MemoryState} {past : List Event} {stages : Nat → Stage} {stage : Stage} {call : Nat}
    (others : ∀ other, StageOk platform nfc tables past (stages other)) (here : StageOk platform nfc tables past stage) :
    ∀ other, StageOk platform nfc tables past (at_ stages call stage other) := by
  intro other
  unfold at_
  split
  · exact here
  · exact others other

theorem latest_of_other {past : List Event} {event : Event} {id : Id} {result : SubmissionResult}
    (other : ∀ settled, event ≠ .settled id settled) : latest (event :: past) id result = latest past id result := by
  unfold latest
  cases event with
  | recorded => rfl
  | approval => rfl
  | settled candidateId settled =>
      have apart : candidateId ≠ id := by
        rintro rfl
        exact other settled rfl
      rw [List.findSome?_cons]
      dsimp only
      rw [if_neg apart]

theorem latest_of_settled {past : List Event} {id : Id} {settled result : SubmissionResult} :
    latest (.settled id settled :: past) id result = settled := by
  unfold latest
  rw [List.findSome?_cons]
  dsimp only
  rw [if_pos rfl]
  rfl

/-- A candidate that was not settled keeps its first result. -/
theorem latest_of_unsettled {past : List Event} {id : Id} {result : SubmissionResult}
    (unsettled : ∀ settled, .settled id settled ∉ past) : latest past id result = result := by
  induction past with
  | nil => rfl
  | cons event past ih =>
      rw [latest_of_other, ih fun settled member => unsettled settled (List.mem_cons_of_mem _ member)]
      intro settled same
      exact unsettled settled (same ▸ List.mem_cons_self)

/-- Two rows with one identifier are one. -/
theorem row_eq {tables : MemoryState} (lawful : Lawful tables) {first second : CandidateRow}
    (one : first ∈ tables.candidates) (two : second ∈ tables.candidates) (same : first.id = second.id) :
    first = second :=
  List.inj_on_of_nodup_map lawful.ids one two same

/-- A promotion names a candidate of the tables. -/
theorem promotionsOf_fresh {tables : MemoryState} (lawful : Lawful tables) {id : Id}
    (fresh : ∀ row ∈ tables.candidates, row.id ≠ id) : promotionsOf tables id = [] := by
  refine List.filter_eq_nil_iff.mpr fun promotion member names => ?_
  obtain ⟨found, inside, same, -⟩ := lawful.candidates promotion member
  exact fresh found inside (same.trans (of_decide_eq_true names))

/-! ## Recording a candidate -/

/-- What the second transaction records for a candidate that is new to it. -/
structure Records (tables : MemoryState) (origin : MemoryOrigin) (context : TenantContext) (prepared : Prepared)
    (row : CandidateRow) (result : SubmissionResult) (writes : Writes) : Prop where
  candidates : writes.candidates = [row]
  id : row.id = prepared.candidateId
  tenant : row.tenantId = context.tenantId.column
  key : row.idempotencyKey = prepared.sub.idempotencyKey
  digest : row.requestDigest = prepared.requestDigest
  source : row.origin = origin
  intent : row.intent = prepared.sub.intent
  state : row.state = result.state
  approval : row.approvalId = result.approvalId
  short : result.reason.take 500 = result.reason
  wrote : ∃ outcome, Wrote row (loadTarget tables context.tenantId prepared.sub.targetMemoryId) (.decided outcome)
    result writes ∧ row.state = stateFor outcome
  trusted : row.state = .awaitingApproval ∨ row.state = .promoted → origin = .operatorInstruction ∨
    origin = .verifiedOutcome ∧ taskEvidenceVerified tables context.tenantId prepared.sub.evidence = true
  current : row.state = .promoted →
    scopeRefusal origin context prepared.sub (loadTarget tables context.tenantId prepared.sub.targetMemoryId) = none

theorem records_of_secondPhase {tables : MemoryState} {origin : MemoryOrigin} {context : TenantContext}
    {prepared : Prepared} {approvalId : Option Id} {now : Timestamp} {result : SubmissionResult} {writes : Writes}
    (fresh : alreadyRecorded tables context prepared = false)
    (second : secondPhase platform nfc tables origin context prepared approvalId now = .ok (result, writes)) :
    ∃ row, Records tables origin context prepared row result writes := by
  unfold secondPhase at second
  dsimp only at second
  split at second
  · split at second
    · next seen =>
        rw [fresh] at seen
        cases seen
    · obtain ⟨target, loaded⟩ : ∃ target, loadTarget tables context.tenantId prepared.sub.targetMemoryId = target :=
        ⟨_, rfl⟩
      obtain ⟨wrote, candidates, state, reason, approval⟩ := recordDecision_wrote second
      rw [loaded] at candidates state reason approval wrote
      have passed : ∀ {outcome : PolicyOutcome}, stateFor outcome = .awaitingApproval ∨ stateFor outcome = .promoted →
          outcome = .allow ∨ outcome = .requireApproval := by
        intro outcome through
        cases outcome with
        | allow => exact .inl rfl
        | requireApproval => exact .inr rfl
        | hold => rcases through with waits | promoted <;> contradiction
        | refuse => rcases through with waits | promoted <;> contradiction
      refine ⟨_, ⟨candidates, rfl, rfl, rfl, rfl, rfl, rfl, ?_, ?_, ?_, ⟨_, loaded ▸ wrote, rfl⟩, ?_, ?_⟩⟩
      · exact state.symm
      · rw [approval]
        show (if _ then (if _ then approvalId else none) else none) = _
        split <;> rfl
      · rw [reason]
        exact reason_fits _ _ _ _ _ _
      · intro through
        exact (trusted_of_judge (judged_of_final (passed through))).2
      · intro promoted
        rw [loaded]
        exact (trusted_of_judge (judged_of_final (passed (.inr promoted)))).1
  · cases second

theorem promotionsOf_committed {tables after : MemoryState} {writes : Writes}
    (committed : Committed tables writes after) (id : Id) :
    promotionsOf after id =
      promotionsOf tables id ++ writes.promotions.filter fun promotion => promotion.candidateId = id := by
  rw [committed.rows]
  exact List.filter_append ..

/-- The one promotion of a decision belongs to its candidate, and to no other. -/
theorem promotionsOf_wrote {tables after : MemoryState} {writes : Writes} {row : CandidateRow}
    {target : Option TargetState} {decision : PromotionDecision} {result : SubmissionResult}
    (committed : Committed tables writes after) (wrote : Wrote row target decision result writes) :
    ∃ promotion, writes.promotions = [promotion] ∧ promotion.candidateId = row.id ∧
      promotion.decision = decision ∧ promotion.approvalId = result.approvalId ∧
      promotionsOf after row.id = promotionsOf tables row.id ++ [promotion] ∧
      ∀ other, other ≠ row.id → promotionsOf after other = promotionsOf tables other := by
  obtain ⟨promotion, only, candidate, decided, approval, -⟩ := wrote.promotion
  refine ⟨promotion, only, candidate, decided, approval, ?_, fun other apart => ?_⟩
  · rw [promotionsOf_committed committed, only, List.filter_singleton, decide_eq_true candidate, cond_true]
  · have foreign : ¬ promotion.candidateId = other := candidate ▸ apart.symm
    rw [promotionsOf_committed committed, only, List.filter_singleton, decide_eq_false foreign, cond_false,
      List.append_nil]

theorem persist_committed {tables after : MemoryState} {writes : Writes} (committed : Committed tables writes after) :
    Persist tables after := by
  intro row member
  rw [committed.rows]
  exact ⟨row, List.mem_append_left _ member, rfl, rfl, rfl, rfl, rfl, rfl⟩

theorem Sound.start (members : Memberships) (verifiedResult : Id → JsString → JsString → Bool) :
    Sound platform nfc (.start members verifiedResult) where
  lawful := {
    ids := List.nodup_nil
    keys := List.nodup_nil
    promotionIds := List.nodup_nil
    candidates := fun _ member => by cases member
    single := fun _ member => by cases member
    versionKeys := fun _ member => by cases member
    versionPromotions := fun _ member => by cases member
    positive := fun _ member => by cases member
    retracts := fun _ member => by cases member
    promoted := fun _ member => by cases member
    follows := fun _ member => by cases member
    targets := fun _ member => by cases member }
  vouched := fun _ member => by cases member
  allowed := fun _ member => by cases member
  granted := fun _ member => by cases member
  waiting := fun _ member => by cases member
  keeps := fun _ _ _ _ _ member => by cases member
  digests := fun _ _ _ _ _ member => by cases member
  settlements := fun _ _ member => by cases member
  stages := fun _ => trivial

section Recording

variable {origin : MemoryOrigin} {context : TenantContext} {prepared : Prepared} {row : CandidateRow}
  {result : SubmissionResult} {writes : Writes} {after : MemoryState}

theorem Keeps.recorded {tables : MemoryState} {past : List Event} {event : Event} {first : TenantContext}
    {earlier : Prepared} {answer : SubmissionResult} (keeps : Keeps tables past first earlier answer)
    (unseen : ∀ other ∈ tables.candidates, other.id ≠ row.id) (committed : Committed tables writes after)
    (elsewhere : ∀ other, other ≠ row.id → promotionsOf after other = promotionsOf tables other)
    (recorded : ∀ id settled, event ≠ .settled id settled) : Keeps after (event :: past) first earlier answer := by
  obtain ⟨found, member, id, tenant, key, digest, answers⟩ := keeps
  refine ⟨found, ?_, id, tenant, key, digest, ?_⟩
  · rw [committed.rows]
    exact List.mem_append_left _ member
  · rw [resultFor_congr (elsewhere found.id (unseen found member)), latest_of_other (recorded found.id)]
    exact answers

theorem Sound.recorded (sound : Sound platform nfc store) (call : Nat) (kind : OfKind origin context)
    (digests : Digests platform nfc prepared)
    (unseen : ∀ other ∈ store.tables.candidates, other.id ≠ row.id)
    (records : Records store.tables origin context prepared row result writes)
    (committed : Committed store.tables writes after) :
    Sound platform nfc ⟨after, store.conflicts, at_ store.stages call .idle, .recorded origin context prepared
      (taskEvidenceVerified store.tables context.tenantId prepared.sub.evidence) result :: store.past⟩ := by
  obtain ⟨outcome, wrote, state⟩ := records.wrote
  obtain ⟨promotion, only, candidate, decided, approval, here, elsewhere⟩ := promotionsOf_wrote committed wrote
  have lawful := sound.lawful.committed committed
  have rows := committed.rows
  have included : ∀ event ∈ store.past, event ∈ Event.recorded origin context prepared
      (taskEvidenceVerified store.tables context.tenantId prepared.sub.evidence) result :: store.past :=
    fun event member => List.mem_cons_of_mem _ member
  have candidates : after.candidates = store.tables.candidates ++ [row] := by
    rw [rows, records.candidates]
  have promotions : after.promotions = store.tables.promotions ++ [promotion] := by
    rw [rows, only]
  have alone : promotionsOf after row.id = [promotion] := by
    rw [here, promotionsOf_fresh sound.lawful unseen, List.nil_append]
  have inside : row ∈ after.candidates := by
    rw [candidates]
    exact List.mem_append_right _ (List.mem_singleton_self row)
  refine ⟨lawful, ?_, ?_, ?_, ?_, ?_, ?_, ?_, ?_⟩
  · intro found member through
    rw [candidates] at member
    rcases List.mem_append.mp member with old | new
    · exact (sound.vouched found old through).mono included
    · have same := List.mem_singleton.mp new
      subst same
      rcases records.trusted through with operator | ⟨outcome, verified⟩
      · subst operator
        exact .inl ⟨records.source, context, prepared, _, result, List.mem_cons_self, kind, records.id.symm⟩
      · subst outcome
        rw [verified]
        exact .inr ⟨records.source, context, prepared, result, List.mem_cons_self, kind, records.id.symm⟩
  · intro found member allows
    rw [promotions] at member
    rcases List.mem_append.mp member with old | new
    · obtain ⟨owner, there, rest⟩ := sound.allowed found old allows
      exact ⟨owner, candidates ▸ List.mem_append_left _ there, rest⟩
    · have same := List.mem_singleton.mp new
      subst same
      refine ⟨row, inside, candidate.symm, ?_⟩
      rw [decided] at allows
      cases outcome with
      | allow => exact state
      | requireApproval => exact allows.elim
      | hold => exact allows.elim
      | refuse => exact allows.elim
  · intro found member approved
    rw [promotions] at member
    rcases List.mem_append.mp member with old | new
    · obtain ⟨owner, there, id, granted⟩ := sound.granted found old approved
      exact ⟨owner, candidates ▸ List.mem_append_left _ there, id, granted.mono included rfl rfl⟩
    · rw [List.mem_singleton.mp new, decided] at approved
      cases approved
  · intro found member waits
    rw [candidates] at member
    rcases List.mem_append.mp member with old | new
    · obtain ⟨first, single, open_⟩ := sound.waiting found old waits
      exact ⟨first, (elsewhere found.id (unseen found old)).trans single, open_⟩
    · rw [List.mem_singleton.mp new]
      refine ⟨promotion, alone, ?_⟩
      rw [decided]
      rfl
  · intro other first earlier verified answer member
    rcases List.mem_cons.mp member with new | old
    · cases new
      refine ⟨row, inside, records.id, records.tenant, records.key, records.digest, ?_⟩
      have unsettled : ∀ settled, .settled row.id settled ∉ Event.recorded origin context prepared
          (taskEvidenceVerified store.tables context.tenantId prepared.sub.evidence) result :: store.past := by
        intro settled member
        rcases List.mem_cons.mp member with same | earlier
        · cases same
        · obtain ⟨found, there, same⟩ := sound.settlements _ _ earlier
          exact unseen found there same
      rw [latest_of_unsettled unsettled, resultFor_of_single alone]
      exact congrArg Except.ok (stored_of_wrote wrote rfl rfl records.state records.approval records.short only)
    · exact (sound.keeps other first earlier verified answer old).recorded unseen committed elsewhere
        fun id settled same => by cases same
  · intro other first earlier verified answer member
    rcases List.mem_cons.mp member with new | old
    · cases new
      exact digests
    · exact sound.digests other first earlier verified answer old
  · intro id settled member
    rcases List.mem_cons.mp member with new | old
    · cases new
    · obtain ⟨found, there, same⟩ := sound.settlements id settled old
      exact ⟨found, candidates ▸ List.mem_append_left _ there, same⟩
  · exact stages_at (fun other => (sound.stages other).mono (persist_committed committed) included) trivial

end Recording

/-! ## Settling an approval -/

section Settling

variable {locked : CandidateRow} {between : MemoryState} {answer : PromotionApprovalState} {approvalId : Id}
  {target : Option TargetState} {result : SubmissionResult} {writes : Writes}

/-- The candidate as its settlement leaves it. -/
def settledRow (locked : CandidateRow) (result : SubmissionResult) : CandidateRow :=
  CandidateRow.settled locked result.state (result.reason.take 500)

/-- Only the settled candidate changes. -/
theorem mem_settled {tables : MemoryState} (lawful : Lawful tables) (inside : locked ∈ tables.candidates)
    {row : CandidateRow} : row ∈ (updateCandidate tables locked.tenantId locked.id result.state
      (result.reason.take 500)).candidates ↔
        (row ∈ tables.candidates ∧ row.id ≠ locked.id) ∨ row = settledRow locked result := by
  constructor
  · intro member
    obtain ⟨old, there, same⟩ := List.mem_map.mp member
    split at same
    · next named =>
        have here := row_eq lawful there inside named.2
        subst here
        exact .inr same.symm
    · next other =>
        subst same
        refine .inl ⟨there, fun named => other ⟨?_, named⟩⟩
        rw [row_eq lawful there inside named]
  · rintro (⟨there, other⟩ | same)
    · exact List.mem_map.mpr ⟨row, there, if_neg fun named => other named.2⟩
    · exact List.mem_map.mpr ⟨locked, inside, same ▸ if_pos ⟨rfl, rfl⟩⟩

theorem persist_updated {tables : MemoryState} (tenantId id : Id) (state : CandidateState) (reason : JsString) :
    Persist tables (updateCandidate tables tenantId id state reason) := by
  intro row member
  obtain ⟨kept, inside, named, tenant, origin, key, digest, same⟩ :=
    @mem_updateCandidate tables tenantId id state reason row member
  refine ⟨kept, inside, named, tenant, origin, key, digest, ?_⟩
  rw [same]
  split <;> rfl

theorem Persist.trans {first second third : MemoryState} (one : Persist first second) (two : Persist second third) :
    Persist first third := by
  intro row member
  obtain ⟨middle, between, id, tenant, origin, key, digest, approval⟩ := one row member
  obtain ⟨last, inside, id', tenant', origin', key', digest', approval'⟩ := two middle between
  exact ⟨last, inside, id'.trans id, tenant'.trans tenant, origin'.trans origin, key'.trans key,
    digest'.trans digest, approval'.trans approval⟩

theorem Sound.settled (sound : Sound platform nfc store) (call : Nat) {row : CandidateRow} {now : Timestamp}
    (known : Known store.tables row approvalId) (given : .approval approvalId answer ∈ store.past)
    (bound : answer.boundCandidateId = some row.id.text)
    (boundDigest : answer.boundCandidateDigest = some row.requestDigest)
    (inside : locked ∈ store.tables.candidates) (named : locked.id = row.id)
    (waits : locked.state = .awaitingApproval)
    (recorded : recordSettlement platform nfc locked target (settlementOf answer.status locked target)
      answer.approver approvalId now = .ok (result, writes))
    (committed : Committed store.tables writes between)
    (fits : UpdateFits between locked.tenantId locked.id result.state) :
    Sound platform nfc ⟨updateCandidate between locked.tenantId locked.id result.state (result.reason.take 500),
      store.conflicts, at_ store.stages call .idle, .settled locked.id result :: store.past⟩ := by
  obtain ⟨wrote, noCandidates, state, reason, approval⟩ := recordSettlement_wrote recorded
  obtain ⟨promotion, only, candidate, decided, approved, here, elsewhere⟩ := promotionsOf_wrote committed wrote
  have lawful := sound.lawful.committed committed
  have same : between.candidates = store.tables.candidates := by
    rw [committed.rows, noCandidates]
    exact List.append_nil _
  have promotions : between.promotions = store.tables.promotions ++ [promotion] := by
    rw [committed.rows, only]
  have there : locked ∈ between.candidates := same ▸ inside
  have members : ∀ {found : CandidateRow}, found ∈ (updateCandidate between locked.tenantId locked.id result.state
      (result.reason.take 500)).candidates ↔
        (found ∈ store.tables.candidates ∧ found.id ≠ locked.id) ∨ found = settledRow locked result := by
    intro found
    rw [mem_settled lawful there, same]
  have included : ∀ event ∈ store.past, event ∈ Event.settled locked.id result :: store.past :=
    fun event member => List.mem_cons_of_mem _ member
  have persist := (persist_committed committed).trans
    (persist_updated locked.tenantId locked.id result.state (result.reason.take 500))
  have waiting := sound.vouched locked inside (.inl waits)
  obtain ⟨first, single, open_⟩ := sound.waiting locked inside waits
  have closed : promotion.decision.isSettled = true := by
    rw [decided, Settlement.decision]
    split <;> rfl
  obtain ⟨column, found, member, id, digest, request⟩ := known
  have one : found = locked := row_eq sound.lawful member inside (id.trans named.symm)
  subst one
  have pair : promotionsOf (updateCandidate between found.tenantId found.id result.state (result.reason.take 500))
      (settledRow found result).id = [first, promotion] := by
    rw [show promotionsOf (updateCandidate between found.tenantId found.id result.state (result.reason.take 500))
      (settledRow found result).id = promotionsOf between found.id from rfl, here, single]
    rfl
  refine ⟨lawful.candidate_updated _ _ _ _, ?_, ?_, ?_, ?_, ?_, ?_, ?_, ?_⟩
  · intro other belongs through
    rcases members.mp belongs with ⟨old, -⟩ | rfl
    · exact (sound.vouched other old through).mono included
    · exact (waiting.same rfl rfl).mono included
  · intro other belongs allows
    have belongs : other ∈ between.promotions := belongs
    rw [promotions] at belongs
    rcases List.mem_append.mp belongs with old | new
    · obtain ⟨owner, listed, owns, promoted⟩ := sound.allowed other old allows
      refine ⟨owner, members.mpr (.inl ⟨listed, fun shared => ?_⟩), owns, promoted⟩
      rw [row_eq sound.lawful listed inside shared, waits] at promoted
      cases promoted
    · have new := List.mem_singleton.mp new
      subst new
      refine ⟨_, members.mpr (.inr rfl), candidate.symm, ?_⟩
      show result.state = .promoted
      rw [state, Settlement.state]
      rw [decided, Settlement.decision] at allows
      split at allows
      · next allowed => exact if_pos allowed
      · exact allows.elim
  · intro other belongs approving
    have belongs : other ∈ between.promotions := belongs
    rw [promotions] at belongs
    rcases List.mem_append.mp belongs with old | new
    · obtain ⟨owner, listed, owns, granted⟩ := sound.granted other old approving
      by_cases shared : owner.id = found.id
      · have one := row_eq sound.lawful listed inside shared
        subst one
        exact ⟨_, members.mpr (.inr rfl), owns, granted.mono included rfl rfl⟩
      · exact ⟨owner, members.mpr (.inl ⟨listed, shared⟩), owns, granted.mono included rfl rfl⟩
    · have new := List.mem_singleton.mp new
      subst new
      refine ⟨_, members.mpr (.inr rfl), candidate.symm, approvalId, answer, approved.trans approval,
        included _ given, ?_, ?_, ?_⟩
      · rw [decided, Settlement.decision] at approving
        split at approving
        · next allowed => exact (granted_of_allowed allowed).1
        · cases approving
      · exact bound.trans (congrArg (fun id => some (Id.text id)) id.symm)
      · exact boundDigest.trans (congrArg some digest.symm)
  · intro other belongs awaiting
    rcases members.mp belongs with ⟨old, apart⟩ | rfl
    · obtain ⟨decision, alone, undecided⟩ := sound.waiting other old awaiting
      exact ⟨decision, (elsewhere other.id apart).trans alone, undecided⟩
    · have settled : (settlementOf answer.status found target).state = .awaitingApproval := state ▸ awaiting
      rw [Settlement.state] at settled
      split at settled <;> cases settled
  · intro origin context prepared verified earlier belongs
    rcases List.mem_cons.mp belongs with new | old
    · cases new
    · obtain ⟨owner, listed, owns, tenant, key, request', answers⟩ :=
        sound.keeps origin context prepared verified earlier old
      by_cases shared : owner.id = found.id
      · have one := row_eq sound.lawful listed inside shared
        subst one
        refine ⟨_, members.mpr (.inr rfl), owns, tenant, key, request', ?_⟩
        rw [resultFor_of_pair pair open_ closed]
        have stated := @stored_of_wrote owner (settledRow owner result) target _ result writes wrote rfl rfl rfl
          (request.trans approval.symm) (reason ▸ settlementOf_fits _ _ _) promotion only
        rw [stated]
        exact congrArg (fun settled => Except.ok (stored settled)) latest_of_settled.symm
      · refine ⟨owner, members.mpr (.inl ⟨listed, shared⟩), owns, tenant, key, request', ?_⟩
        have frame : latest (.settled found.id result :: store.past) owner.id earlier =
            latest store.past owner.id earlier :=
          latest_of_other fun settled same => shared (Event.settled.inj same).1.symm
        rw [frame, ← answers]
        exact resultFor_congr (elsewhere owner.id shared)
  · intro origin context prepared verified earlier belongs
    rcases List.mem_cons.mp belongs with new | old
    · cases new
    · exact sound.digests origin context prepared verified earlier old
  · intro id settled belongs
    rcases List.mem_cons.mp belongs with new | old
    · cases new
      exact ⟨_, members.mpr (.inr rfl), rfl⟩
    · obtain ⟨owner, listed, owns⟩ := sound.settlements id settled old
      obtain ⟨kept, stays, kept_id, -⟩ := persist owner listed
      exact ⟨kept, stays, kept_id.trans owns⟩
  · exact stages_at (fun other => (sound.stages other).mono persist included) trivial

end Settling

/-! ## Every step -/

/-- A state with the same tables and past is as sound, if its calls are. -/
theorem Sound.moved (sound : Sound platform nfc store) {conflicts : List ConflictRow} {stages : Nat → Stage}
    (ok : ∀ call, StageOk platform nfc store.tables store.past (stages call)) :
    Sound platform nfc ⟨store.tables, conflicts, stages, store.past⟩ :=
  ⟨sound.lawful, sound.vouched, sound.allowed, sound.granted, sound.waiting, sound.keeps, sound.digests,
    sound.settlements, ok⟩

theorem persist_refl (tables : MemoryState) : Persist tables tables :=
  fun row member => ⟨row, member, rfl, rfl, rfl, rfl, rfl, rfl⟩

theorem Sound.asked (sound : Sound platform nfc store) {row : CandidateRow} {approvalId : Id}
    {answer : PromotionApprovalState} (call : Nat) (context : TenantContext)
    (known : Known store.tables row approvalId) (bound : answer.boundCandidateId = some row.id.text)
    (same : answer.boundCandidateDigest = some row.requestDigest) :
    Sound platform nfc ⟨store.tables, store.conflicts, at_ store.stages call (.answered context row approvalId answer),
      .approval approvalId answer :: store.past⟩ := by
  have included : ∀ event ∈ store.past, event ∈ Event.approval approvalId answer :: store.past :=
    fun event member => List.mem_cons_of_mem _ member
  refine ⟨sound.lawful, ?_, sound.allowed, ?_, sound.waiting, ?_, ?_, ?_, ?_⟩
  · exact fun row member through => (sound.vouched row member through).mono included
  · intro promotion member approved
    obtain ⟨row, inside, owns, granted⟩ := sound.granted promotion member approved
    exact ⟨row, inside, owns, granted.mono included rfl rfl⟩
  · intro origin context prepared verified result member
    rcases List.mem_cons.mp member with new | old
    · cases new
    · obtain ⟨row, inside, id, tenant, key, digest, answers⟩ := sound.keeps origin context prepared verified result old
      refine ⟨row, inside, id, tenant, key, digest, ?_⟩
      rw [latest_of_other fun settled same => by cases same]
      exact answers
  · intro origin context prepared verified result member
    rcases List.mem_cons.mp member with new | old
    · cases new
    · exact sound.digests origin context prepared verified result old
  · intro id result member
    rcases List.mem_cons.mp member with new | old
    · cases new
    · exact sound.settlements id result old
  · exact stages_at (fun other => (sound.stages other).mono (persist_refl _) included)
      ⟨known, List.mem_cons_self, bound, same⟩

theorem lawful_changed {tables : MemoryState} (lawful : Lawful tables) (members : Memberships)
    (verifiedResult : Id → JsString → JsString → Bool) :
    Lawful { tables with members := members, verifiedResult := verifiedResult } :=
  ⟨lawful.ids, lawful.keys, lawful.promotionIds, lawful.candidates, lawful.single, lawful.versionKeys,
    lawful.versionPromotions, lawful.positive, lawful.retracts, lawful.promoted, lawful.follows, lawful.targets⟩

theorem candidateById_some {tables : MemoryState} {tenantId id : Id} {row : CandidateRow}
    (found : candidateById tables tenantId id = some row) :
    row ∈ tables.candidates ∧ row.tenantId = tenantId.column ∧ row.id = id.column := by
  unfold candidateById at found
  have accepted := List.find?_some found
  exact ⟨List.mem_of_find?_eq_some found, of_decide_eq_true accepted⟩

theorem unseen_of_fresh {tables : MemoryState} {context : TenantContext} {prepared : Prepared}
    (fresh : alreadyRecorded tables context prepared = false) :
    ∀ row ∈ tables.candidates, row.id ≠ prepared.candidateId := by
  intro row member same
  have other := List.any_eq_false.mp fresh row member
  exact other (decide_eq_true (.inl same))

theorem Sound.step (sound : Sound platform nfc store) (taken : Step platform nfc configured store next) :
    Sound platform nfc next := by
  cases taken with
  | prepare call origin context raw prepared needsApproval approvalId idle kind prepares first requested =>
      exact sound.moved (stages_at sound.stages ⟨kind, digests_of_prepare prepares⟩)
  | record call origin context prepared approvalId now result writes after goes fresh second committed =>
      have stage := sound.stages call
      rw [goes] at stage
      obtain ⟨row, records⟩ := records_of_secondPhase fresh second
      have unseen : ∀ other ∈ store.tables.candidates, other.id ≠ row.id := by
        rw [records.id]
        exact unseen_of_fresh fresh
      exact sound.recorded call stage.1 stage.2 unseen records committed
  | readCandidate call context id row approvalId idle authorized found waits named =>
      obtain ⟨inside, -, same⟩ := candidateById_some found
      refine sound.moved (stages_at sound.stages ⟨?_, row, inside, rfl, rfl, named⟩)
      rw [same, Id.column_column]
  | askApproval call context row approvalId answer goes decided bound same =>
      have stage := sound.stages call
      rw [goes] at stage
      exact sound.asked call context stage bound same
  | settle call context row locked approvalId answer now result writes between goes authorized found waits recorded
      committed fits =>
      have stage := sound.stages call
      rw [goes] at stage
      obtain ⟨known, given, bound, boundDigest⟩ := stage
      obtain ⟨inside, -, same⟩ := candidateById_some found
      exact sound.settled call known given bound boundDigest inside (same.trans known.1) waits recorded committed fits
  | flag context first second evidence human authorized fits => exact sound.moved sound.stages
  | lose taken =>
      refine sound.moved fun call => ?_
      split
      · trivial
      · exact sound.stages call
  | change members verifiedResult =>
      exact ⟨lawful_changed sound.lawful members verifiedResult, sound.vouched, sound.allowed, sound.granted, sound.waiting,
        sound.keeps, sound.digests, sound.settlements, sound.stages⟩

theorem Reachable.sound (reached : Reachable platform nfc configured store) : Sound platform nfc store := by
  induction reached with
  | start members verifiedResult => exact .start members verifiedResult
  | step _ taken ih => exact ih.step taken

/-! ## Superseded memories -/

/-- The tables have a relation by which another memory takes the place of this one. -/
def Superseded (tables : MemoryState) (memoryId : Id) : Prop :=
  ∃ relation ∈ tables.relations, relation.toMemory = memoryId

/-- The versions of a memory that are there are all that there will be. -/
def NoMore (tables after : MemoryState) (memoryId : Id) : Prop :=
  ∀ version ∈ after.versions, version.memoryId = memoryId → version ∈ tables.versions

/-- A decision on a superseded memory adds nothing to it. -/
theorem noMore_wrote {tables after : MemoryState} {writes : Writes} {row : CandidateRow} {tenantId : Id}
    {targetMemoryId : Option Id} {decision : PromotionDecision} {result : SubmissionResult} (lawful : Lawful tables)
    (committed : Committed tables writes after)
    (wrote : Wrote row (loadTarget tables tenantId targetMemoryId) decision result writes)
    (tenant : row.tenantId = tenantId.column)
    (current : ∀ held, loadTarget tables tenantId targetMemoryId = some held → row.intent ≠ .new → Allows decision →
      held.superseded = false) {memoryId : Id} (superseded : Superseded tables memoryId) :
    NoMore tables after memoryId := by
  obtain ⟨relation, listed, rfl⟩ := superseded
  intro version member memory
  have later := lawful.committed committed
  have versions : after.versions = tables.versions ++ writes.versions := by rw [committed.rows]
  rw [versions] at member
  rcases List.mem_append.mp member with old | new
  · exact old
  obtain ⟨known, inside, knownMemory, knownTenant⟩ := lawful.targets relation listed
  have inAfter : ∀ {found : VersionRow}, found ∈ tables.versions → found ∈ after.versions :=
    fun found => versions ▸ List.mem_append_left _ found
  have written : version ∈ after.versions := versions ▸ List.mem_append_right _ new
  obtain ⟨-, versionTenant, first | ⟨held, loaded, target, changes, allows⟩⟩ := wrote.versions version new
  · obtain ⟨root, there, rootMemory, one⟩ := lawful.down inside (Nat.le_refl 1) (lawful.positive known inside)
    have same : root = version := later.versionKeys root (inAfter there) version written
      (rootMemory.trans (knownMemory.trans memory.symm)) (one.trans first.symm)
    exact same ▸ there
  · -- The relation is one of the tenant that loads the target, so that the target counts as superseded.
    have owner := (later.constant (inAfter inside) written (knownMemory.trans memory.symm)).2.2
    have stale := current held loaded changes allows
    obtain ⟨wanted, -, loaded⟩ := Option.bind_eq_some_iff.mp loaded
    obtain ⟨head, -, loaded⟩ := Option.bind_eq_some_iff.mp loaded
    cases loaded
    have found := List.any_eq_false.mp stale relation listed
    exact absurd (decide_eq_true ⟨knownTenant.symm.trans (owner.trans (versionTenant.trans tenant)),
      memory.symm.trans target⟩) found

theorem superseded_step (sound : Sound platform nfc store) (taken : Step platform nfc configured store next)
    {memoryId : Id} (superseded : Superseded store.tables memoryId) :
    Superseded next.tables memoryId ∧ NoMore store.tables next.tables memoryId := by
  have kept : ∀ {writes : Writes} {after : MemoryState}, Committed store.tables writes after →
      Superseded after memoryId := by
    intro writes after committed
    obtain ⟨relation, member, same⟩ := superseded
    rw [committed.rows]
    exact ⟨relation, List.mem_append_left _ member, same⟩
  cases taken with
  | prepare => exact ⟨superseded, fun _ member _ => member⟩
  | record call origin context prepared approvalId now result writes after goes fresh second committed =>
      obtain ⟨row, records⟩ := records_of_secondPhase fresh second
      obtain ⟨outcome, wrote, state⟩ := records.wrote
      refine ⟨kept committed, noMore_wrote sound.lawful committed wrote records.tenant ?_ superseded⟩
      intro held loaded changes allows
      have promoted : row.state = .promoted := by
        cases outcome with
        | allow => exact state
        | requireApproval => exact allows.elim
        | hold => exact allows.elim
        | refuse => exact allows.elim
      have open_ := records.current promoted
      rw [loaded] at open_
      exact current_of_scope open_ (records.intent ▸ changes)
  | readCandidate => exact ⟨superseded, fun _ member _ => member⟩
  | askApproval => exact ⟨superseded, fun _ member _ => member⟩
  | settle call context row locked approvalId answer now result writes between goes authorized found waits recorded
      committed fits =>
      obtain ⟨wrote, -⟩ := recordSettlement_wrote recorded
      obtain ⟨-, tenant, -⟩ := candidateById_some found
      have still : Superseded between memoryId := kept committed
      have added : NoMore store.tables between memoryId := by
        refine noMore_wrote sound.lawful committed wrote tenant ?_ superseded
        intro held loaded changes allows
        rw [Settlement.decision] at allows
        split at allows
        · next allowed =>
            have current := (granted_of_allowed allowed).2
            rw [loaded] at current
            cases stale : held.superseded with
            | false => rfl
            | true => exact absurd ⟨changes, .inr stale⟩ current
        · exact allows.elim
      exact ⟨still, added⟩
  | flag => exact ⟨superseded, fun _ member _ => member⟩
  | lose => exact ⟨superseded, fun _ member _ => member⟩
  | change => exact ⟨superseded, fun _ member _ => member⟩

/-- No run adds a version to a memory that is superseded. -/
theorem superseded_run (reached : Reachable platform nfc configured store)
    (run : Relation.ReflTransGen (Step platform nfc configured) store next) {memoryId : Id}
    (superseded : Superseded store.tables memoryId) :
    Reachable platform nfc configured next ∧ Superseded next.tables memoryId ∧
      NoMore store.tables next.tables memoryId := by
  induction run with
  | refl => exact ⟨reached, superseded, fun _ member _ => member⟩
  | tail _ taken ih =>
      obtain ⟨there, still, settled⟩ := ih
      obtain ⟨kept, added⟩ := superseded_step there.sound taken still
      exact ⟨there.step taken, kept, fun version member memory =>
        settled version (added version member memory) memory⟩

/-! ## Repeated keys -/

/-- A call under the key of a recorded candidate: it is answered from the candidate, and records nothing. -/
structure Repeats (platform : Platform) (nfc : JsString → JsString) (tables : MemoryState) (origin : MemoryOrigin)
    (again : TenantContext) (prepared : Prepared) (answer : Except Failure SubmissionResult) : Prop where
  first : firstPhase tables origin again prepared = answer.map Sum.inl
  second : ∀ approvalId now, secondPhase platform nfc tables origin again prepared approvalId now =
    answer.map fun result => (result, Writes.none)

theorem repeats_of_existing {tables : MemoryState} {origin : MemoryOrigin} {again : TenantContext}
    {prepared : Prepared} {answer : Except Failure SubmissionResult}
    (authorized : Authorized tables.members again .knowledgeWrite)
    (seen : alreadyRecorded tables again prepared = true)
    (found : existing tables again prepared = answer.map some) :
    Repeats platform nfc tables origin again prepared answer := by
  constructor
  · rw [firstPhase, if_pos authorized, found]
    cases answer <;> rfl
  · intro approvalId now
    unfold secondPhase
    rw [if_pos authorized]
    dsimp only
    rw [if_pos seen, found]
    cases answer <;> rfl

/-- The error of a key that was used for another request. -/
def keyConflict : Failure :=
  .memoryError .conflict (js "That idempotency key was already used for a different candidate")

/-- What a call is answered under the key of a recorded candidate. -/
theorem existing_of_keeps {tables : MemoryState} (lawful : Lawful tables) {past : List Event}
    {context again : TenantContext} {prepared other : Prepared} {result : SubmissionResult}
    (keeps : Keeps tables past context prepared result) (tenant : again.tenantId.column = context.tenantId.column)
    (key : other.sub.idempotencyKey = prepared.sub.idempotencyKey) :
    alreadyRecorded tables again other = true ∧ existing tables again other =
      if other.requestDigest = prepared.requestDigest then .ok (some (stored (latest past prepared.candidateId result)))
      else .error keyConflict := by
  obtain ⟨row, inside, id, owner, rowKey, digest, answers⟩ := keeps
  have matches_ : row.tenantId = again.tenantId.column ∧ row.idempotencyKey = other.sub.idempotencyKey :=
    ⟨owner.trans tenant.symm, rowKey.trans key.symm⟩
  have found : candidateOf tables again.tenantId other.sub.idempotencyKey = some row := by
    unfold candidateOf
    obtain ⟨first, listed⟩ : ∃ first, tables.candidates.find? (fun row => row.tenantId = again.tenantId.column ∧
        row.idempotencyKey = other.sub.idempotencyKey) = some first :=
      Option.isSome_iff_exists.mp (List.find?_isSome.mpr ⟨row, inside, decide_eq_true matches_⟩)
    have accepted := List.find?_some listed
    have same : first = row := List.inj_on_of_nodup_map lawful.keys (List.mem_of_find?_eq_some listed) inside
      (Prod.ext ((of_decide_eq_true accepted).1.trans matches_.1.symm)
        ((of_decide_eq_true accepted).2.trans matches_.2.symm))
    rw [listed, same]
  refine ⟨List.any_eq_true.mpr ⟨row, inside, decide_eq_true (.inr matches_)⟩, ?_⟩
  rw [id] at answers
  simp only [existing, found, answers, digest]
  by_cases same : other.requestDigest = prepared.requestDigest
  · rw [if_pos same, if_neg (not_not_intro same.symm)]
    rfl
  · rw [if_neg same, if_pos (Ne.symm same)]
    rfl

/-! ## Canonical memory -/

/-- What canonical memory guarantees in a state of a run. -/
structure Canonical (platform : Platform) (nfc : JsString → JsString) (configured : Bool) (store : Store) : Prop where
  authority : ∀ version ∈ store.tables.versions, ∃ row ∈ store.tables.candidates, row.id = version.candidateId ∧
    Vouched store.past row ∧ ∃ promotion ∈ store.tables.promotions, Names promotion version ∧
      (promotion.decision = .decided .allow ∨
        promotion.decision = .allowApproved ∧ Granted store.past promotion row)
  keys : ∀ first ∈ store.tables.versions, ∀ second ∈ store.tables.versions, first.memoryId = second.memoryId →
    first.version = second.version → first = second
  numbered : ∀ memoryId, ∃ count, ∀ number,
    (∃ row ∈ store.tables.versions, row.memoryId = memoryId ∧ row.version = number) ↔ 1 ≤ number ∧ number ≤ count
  ended : ∀ first ∈ store.tables.versions, ∀ second ∈ store.tables.versions, first.memoryId = second.memoryId →
    first.kind = .retract → second.version ≤ first.version
  constant : ∀ first ∈ store.tables.versions, ∀ second ∈ store.tables.versions, first.memoryId = second.memoryId →
    first.class_ = second.class_ ∧ first.subject = second.subject ∧ first.tenantId = second.tenantId
  superseded : ∀ later, Relation.ReflTransGen (Step platform nfc configured) store later → ∀ memoryId,
    Superseded store.tables memoryId → NoMore store.tables later.tables memoryId
  single : ∀ first ∈ store.tables.promotions, ∀ second ∈ store.tables.promotions,
    first.candidateId = second.candidateId → first.resultMemoryId ≠ none → second.resultMemoryId ≠ none →
      first.id = second.id
  results : ∀ first ∈ store.tables.versions, ∀ second ∈ store.tables.versions,
    first.candidateId = second.candidateId → first = second
  repeats : ∀ origin context prepared verified result,
    .recorded origin context prepared verified result ∈ store.past →
      ∀ from_ again raw other, prepare platform nfc again.tenantId raw = some other →
        again.tenantId.column = context.tenantId.column → other.sub.idempotencyKey = prepared.sub.idempotencyKey →
        Authorized store.tables.members again .knowledgeWrite → Apart platform nfc other.sub prepared.sub →
          (SameRequest nfc other.sub prepared.sub → Repeats platform nfc store.tables from_ again other
            (.ok (stored (latest store.past prepared.candidateId result)))) ∧
          (¬ SameRequest nfc other.sub prepared.sub →
            Repeats platform nfc store.tables from_ again other (.error keyConflict))

theorem authority_of_sound (sound : Sound platform nfc store) {version : VersionRow}
    (member : version ∈ store.tables.versions) :
    ∃ row ∈ store.tables.candidates, row.id = version.candidateId ∧ Vouched store.past row ∧
      ∃ promotion ∈ store.tables.promotions, Names promotion version ∧
        (promotion.decision = .decided .allow ∨
          promotion.decision = .allowApproved ∧ Granted store.past promotion row) := by
  obtain ⟨promotion, listed, names⟩ := sound.lawful.promoted version member
  obtain ⟨row, inside, owns, promoted⟩ := sound.allowed promotion listed names.allows
  refine ⟨row, inside, owns.trans names.candidate, sound.vouched row inside (.inr promoted), promotion, listed, names, ?_⟩
  cases decided : promotion.decision with
  | decided outcome =>
      have allows := names.allows
      rw [decided] at allows
      cases outcome with
      | allow => exact .inl rfl
      | requireApproval => exact allows.elim
      | hold => exact allows.elim
      | refuse => exact allows.elim
  | allowApproved =>
      obtain ⟨other, there, owns', granted⟩ := sound.granted promotion listed decided
      have same : other = row := row_eq sound.lawful there inside (owns'.trans owns.symm)
      exact .inr ⟨rfl, same ▸ granted⟩
  | rejectApproval =>
      have allows := names.allows
      rw [decided] at allows
      exact allows.elim

theorem repeats_of_sound (sound : Sound platform nfc store) {origin : MemoryOrigin} {context : TenantContext}
    {prepared : Prepared} {verified : Bool} {result : SubmissionResult}
    (recorded : .recorded origin context prepared verified result ∈ store.past) (from_ : MemoryOrigin)
    {again : TenantContext} {raw : Option RawSubmission} {other : Prepared}
    (prepares : prepare platform nfc again.tenantId raw = some other)
    (tenant : again.tenantId.column = context.tenantId.column)
    (key : other.sub.idempotencyKey = prepared.sub.idempotencyKey)
    (authorized : Authorized store.tables.members again .knowledgeWrite)
    (apart : Apart platform nfc other.sub prepared.sub) :
    (SameRequest nfc other.sub prepared.sub → Repeats platform nfc store.tables from_ again other
      (.ok (stored (latest store.past prepared.candidateId result)))) ∧
    (¬ SameRequest nfc other.sub prepared.sub →
      Repeats platform nfc store.tables from_ again other (.error keyConflict)) := by
  have digests := sound.digests origin context prepared verified result recorded
  have keeps := sound.keeps origin context prepared verified result recorded
  obtain ⟨seen, found⟩ := existing_of_keeps sound.lawful keeps tenant key
  rw [← digest_eq_iff (digests_of_prepare prepares) digests apart]
  constructor
  · intro same
    exact repeats_of_existing authorized seen (found.trans (if_pos same))
  · intro differs
    exact repeats_of_existing authorized seen (found.trans (if_neg differs))

/-- Every state that any calls can reach, in any order, keeps the guarantees. -/
theorem canonical_memory (reached : Reachable platform nfc configured store) :
    Canonical platform nfc configured store where
  authority := fun _ member => authority_of_sound reached.sound member
  keys := reached.sound.lawful.versionKeys
  numbered := reached.sound.lawful.numbered
  ended := fun _ one _ two same retracts => reached.sound.lawful.ended one two same retracts
  constant := fun _ one _ two same => reached.sound.lawful.constant one two same
  superseded := fun _ run _ superseded => (superseded_run reached run superseded).2.2
  single := reached.sound.lawful.single
  results := fun _ one _ two same => reached.sound.lawful.one_version one two same
  repeats := fun _ _ _ _ _ recorded from_ _ _ _ prepares tenant key authorized apart =>
    repeats_of_sound reached.sound recorded from_ prepares tenant key authorized apart

/-! ## A lesson that is approved -/

def weight (text : JsString) : Nat :=
  text.foldl (fun sum unit => (sum * 31 + unit.toNat) % 65521) 7

/-- A platform that hashes a text to a weighted sum of its units. -/
def weighingPlatform : Platform :=
  { Platform.ascii with
    sha256 := fun text =>
      HexDigest.ofDigits [weight text, weight text / 16, weight text / 256, weight text / 4096] }

def proposer : TenantContext :=
  ⟨⟨js "ca0117ca-0000-4000-8000-000000000001", by decide +kernel⟩,
    ⟨⟨js "ca0117ca-0000-4000-8000-000000000002", by decide +kernel⟩, .service⟩⟩

def lessonApproval : Id := ⟨js "ca0117ca-0000-4000-8000-000000000003", by decide +kernel⟩

def approver : Id := ⟨js "ca0117ca-0000-4000-8000-000000000004", by decide +kernel⟩

/-- A lesson from the verified outcome of a task. -/
def lesson : RawSubmission where
  idempotencyKey := js "lesson-of-task-1"
  class_ := .lesson
  content := js "deploy on weekdays"
  subject := ⟨.tenant, js "tenant"⟩
  evidence := [⟨.taskEvidence,
    js "ca0117ca-0000-4000-8000-000000000005/ca0117ca-0000-4000-8000-000000000006", none⟩]
  reason := js "the weekend deployment failed"
  intent := none
  targetMemoryId := none

theorem lesson_prepares : (prepare weighingPlatform id proposer.tenantId (some lesson)).isSome = true := by
  decide +kernel

def preparedLesson : Prepared := (prepare weighingPlatform id proposer.tenantId (some lesson)).get lesson_prepares

theorem prepare_lesson : prepare weighingPlatform id proposer.tenantId (some lesson) = some preparedLesson :=
  (Option.some_get lesson_prepares).symm

def noMemory : MemoryState := ⟨[], [], [], [], fun _ => some .owner, fun _ _ _ => true⟩

theorem proposer_writes : Authorized noMemory.members proposer .knowledgeWrite := by
  decide

def lessonVerdict : PolicyDecisionResult := judge noMemory .verifiedOutcome proposer preparedLesson.sub none

def lessonRow : CandidateRow :=
  candidateRow .verifiedOutcome proposer preparedLesson lessonVerdict (some lessonApproval) .epoch

/-- The promotion of the lesson in a phase. -/
def lessonPromotionId (phase : String) : Id :=
  stableId weighingPlatform.sha256 (.arr [.str (js "memory-promotion/v1"), .str lessonRow.id.text, .str (js phase)])

/-- The lesson is new, waits for an approval, and its two promotions have different ids. -/
theorem lesson_evaluated : (preparedLesson.sub.intent = .new ∧ preparedLesson.sub.targetMemoryId = none) ∧
    (judge noMemory .verifiedOutcome proposer preparedLesson.sub none).decision = .requireApproval ∧
    lessonPromotionId "decide" ≠ lessonPromotionId "settle" := by
  decide +kernel

theorem preparedLesson_new : preparedLesson.sub.intent = .new ∧ preparedLesson.sub.targetMemoryId = none :=
  lesson_evaluated.1

theorem lesson_waits :
    (judge noMemory .verifiedOutcome proposer preparedLesson.sub none).decision = .requireApproval :=
  lesson_evaluated.2.1

theorem lessonPromotions_apart : lessonPromotionId "decide" ≠ lessonPromotionId "settle" :=
  lesson_evaluated.2.2

theorem second_lesson : ∃ result promotion,
    secondPhase weighingPlatform id noMemory .verifiedOutcome proposer preparedLesson (some lessonApproval) .epoch =
        .ok (result, ⟨[lessonRow], [promotion], [], []⟩) ∧
      result.decision = .decided .requireApproval ∧ promotion.id = lessonPromotionId "decide" ∧
      promotion.tenantId = lessonRow.tenantId ∧ promotion.candidateId = lessonRow.id ∧
      promotion.decision = .decided .requireApproval ∧ promotion.approvalId = some lessonApproval ∧
      promotion.resultMemoryId = none := by
  have waits : lessonVerdict.decision = .requireApproval := lesson_waits
  have target : loadTarget noMemory proposer.tenantId preparedLesson.sub.targetMemoryId = none := by
    rw [preparedLesson_new.2]
    rfl
  have final : finalVerdict lessonVerdict (some lessonApproval) = lessonVerdict :=
    if_neg fun missing => Option.some_ne_none _ missing.2
  unfold secondPhase
  rw [if_pos proposer_writes]
  dsimp only
  rw [target, show judge noMemory .verifiedOutcome proposer preparedLesson.sub none = lessonVerdict from rfl, final,
    if_neg (by decide), if_pos waits]
  unfold recordDecision
  dsimp only
  rw [if_neg (by rw [waits]; decide)]
  exact ⟨_, _, rfl, congrArg _ waits, rfl, rfl, rfl, congrArg _ waits, rfl, rfl⟩

theorem settle_lesson : ∃ result promotion version,
    recordSettlement weighingPlatform id lessonRow none (settlementOf .granted lessonRow none) (some approver)
        lessonApproval .epoch = .ok (result, ⟨[], [promotion], [version], []⟩) ∧
      result.state = .promoted ∧ result.decision = .allowApproved ∧ promotion.id = lessonPromotionId "settle" ∧
      promotion.approvalId = some lessonApproval ∧ version.version = 1 ∧ version.supersedesVersion = none ∧
      version.kind = .assert ∧ version.candidateId = lessonRow.id ∧ version.tenantId = lessonRow.tenantId ∧
      Names promotion version := by
  have new : lessonRow.intent = .new := preparedLesson_new.1
  have current : ¬ Stale lessonRow none := fun stale => stale.1 new
  have settled : settlementOf .granted lessonRow none =
      ⟨true, js "approved-by-human", js "granted by the named approver for this exact candidate"⟩ := by
    unfold settlementOf
    dsimp only
    rw [if_neg current]
  have unchanged : ¬ (lessonRow.intent = .correct ∨ lessonRow.intent = .retract) := by
    rw [new]
    decide
  rw [settled]
  unfold recordSettlement
  dsimp only
  rw [promotedVersion, if_neg unchanged, if_pos rfl]
  have asserted : (if lessonRow.intent = .retract then VersionKind.retract else .assert) = .assert :=
    if_neg fun retract => unchanged (.inr retract)
  exact ⟨_, _, _, rfl, rfl, rfl, rfl, rfl, rfl, rfl, asserted, rfl, rfl, ⟨rfl, trivial, rfl, rfl, rfl, rfl⟩⟩

/-- The lesson is recorded, approved and promoted, and nothing forgets how. -/
theorem lesson_run : ∃ store result settled, Reachable weighingPlatform id true store ∧
      .recorded .verifiedOutcome proposer preparedLesson
        (taskEvidenceVerified noMemory proposer.tenantId preparedLesson.sub.evidence) result ∈ store.past ∧
      result.decision = .decided .requireApproval ∧ settled.decision = .allowApproved ∧
      latest store.past preparedLesson.candidateId result = settled ∧
      Authorized store.tables.members proposer .knowledgeWrite ∧
      ∃ version ∈ store.tables.versions, version.version = 1 := by
  obtain ⟨result, promotion, second, decision, decidedId, tenant, candidate, decided, approved, nothing⟩ :=
    second_lesson
  obtain ⟨settled, final, version, settles, state, allowed, settledId, finalApproved, one, root, asserted, owner,
    owned, names⟩ := settle_lesson
  have target : loadTarget noMemory proposer.tenantId preparedLesson.sub.targetMemoryId = none := by
    rw [preparedLesson_new.2]
    rfl
  have first : firstPhase noMemory .verifiedOutcome proposer preparedLesson = .ok (.inr true) := by
    rw [firstPhase_unseen proposer_writes rfl, target, lesson_waits]
    rfl
  have waits : lessonRow.state = .awaitingApproval := by
    show stateFor lessonVerdict.decision = _
    rw [show lessonVerdict.decision = .requireApproval from lesson_waits]
    rfl
  have approval : lessonRow.approvalId = some lessonApproval := by
    show (if lessonVerdict.decision = .requireApproval then some lessonApproval else none) = _
    exact if_pos lesson_waits
  have targetless : lessonRow.targetMemoryId = none := by
    show preparedLesson.sub.targetMemoryId.map Id.column = none
    rw [preparedLesson_new.2]
    rfl
  -- The first transaction finds nothing, and the second records the candidate.
  have start : Reachable weighingPlatform id true (.start noMemory.members noMemory.verifiedResult) := .start _ _
  have prepared := start.step (.prepare 0 .verifiedOutcome proposer (some lesson) preparedLesson true
    (some lessonApproval) rfl rfl prepare_lesson first rfl)
  have recordedFits : CandidateFits noMemory lessonRow := {
    fresh := fun _ member => by cases member
    key := fun _ member => by cases member
    targeted := ⟨fun _ => targetless, fun _ => preparedLesson_new.1⟩
    awaiting := fun _ missing => Option.some_ne_none _ (approval.symm.trans missing)
    promoted := fun promoted => by cases waits.symm.trans promoted }
  have promotionFits : PromotionFits (putCandidate noMemory lessonRow) promotion := {
    fresh := fun _ member => by cases member
    named := by
      rw [decided]
      exact ⟨fun allows => allows.elim, fun both => absurd nothing both.1⟩
    approved := fun _ missing => Option.some_ne_none _ (approved.symm.trans missing)
    single := fun made => absurd nothing made
    candidate := ⟨lessonRow, List.mem_singleton_self _, candidate.symm, tenant.symm, fun _ => .inr rfl⟩ }
  have committed : Committed noMemory ⟨[lessonRow], [promotion], [], []⟩
      (putPromotion (putCandidate noMemory lessonRow) promotion) :=
    ⟨_, _, _, .cons recordedFits (.nil _), .cons promotionFits (.nil _), .nil _, .nil _⟩
  have recorded := prepared.step (.record 0 .verifiedOutcome proposer preparedLesson (some lessonApproval) .epoch
    result _ _ rfl (by decide) second committed)
  -- The approval is granted for this candidate, and the settlement promotes it.
  have found : candidateById (putPromotion (putCandidate noMemory lessonRow) promotion) proposer.tenantId
      lessonRow.id = some lessonRow := by
    refine List.find?_cons_of_pos ?_
    decide +kernel
  have read := recorded.step (.readCandidate 0 proposer lessonRow.id lessonRow lessonApproval rfl proposer_writes
    found waits approval)
  have asked := read.step (.askApproval 0 proposer lessonRow lessonApproval
    ⟨.granted, some lessonRow.id.text, some lessonRow.requestDigest, some approver⟩ rfl (by decide) rfl rfl)
  have finalFits : PromotionFits (putPromotion (putCandidate noMemory lessonRow) promotion) final := {
    fresh := fun other member => by
      rw [List.mem_singleton.mp member, decidedId, settledId]
      exact lessonPromotions_apart
    named := by
      rw [names.memory, names.version]
      exact ⟨fun _ => ⟨Option.some_ne_none _, Option.some_ne_none _⟩, fun _ => names.allows⟩
    approved := fun _ missing => Option.some_ne_none _ (finalApproved.symm.trans missing)
    single := fun _ other member _ => by
      rw [List.mem_singleton.mp member]
      exact nothing
    candidate := ⟨lessonRow, List.mem_singleton_self _, (names.candidate.trans owner).symm,
      (names.tenant.trans owned).symm, fun _ => .inr rfl⟩ }
  have versionFits : VersionFits
      (putPromotion (putPromotion (putCandidate noMemory lessonRow) promotion) final) version := {
    fresh := fun _ member => by cases member
    promotion := fun _ member => by cases member
    positive := Nat.le_of_eq one.symm
    first := ⟨fun _ => root, fun _ => one⟩
    retracts := fun retract => by cases asserted.symm.trans retract
    promoted := ⟨final, List.mem_append_right _ (List.mem_singleton_self _), names⟩
    follows := fun later => absurd later (by rw [one]; decide) }
  have finished : Committed (putPromotion (putCandidate noMemory lessonRow) promotion) ⟨[], [final], [version], []⟩
      (putVersion (putPromotion (putPromotion (putCandidate noMemory lessonRow) promotion) final) version) :=
    ⟨_, _, _, .nil _, .cons finalFits (.nil _), .cons versionFits (.nil _), .nil _⟩
  have last := asked.step (.settle 0 proposer lessonRow lessonRow lessonApproval
    ⟨.granted, some lessonRow.id.text, some lessonRow.requestDigest, some approver⟩ .epoch settled _ _ rfl
    proposer_writes found waits (by rw [targetless]; exact settles) finished (by
      intro row member _ _
      rw [List.mem_singleton.mp member]
      exact ⟨waits, .inl ⟨state, .inr rfl⟩⟩))
  refine ⟨_, result, settled, last, ?_, decision, allowed, latest_of_settled, proposer_writes, version,
    List.mem_singleton_self _, one⟩
  exact List.mem_cons_of_mem _ (List.mem_cons_of_mem _ List.mem_cons_self)

/-- The guarantees hold where the lesson was promoted. -/
theorem lesson_canonical : ∃ store, Canonical weighingPlatform id true store ∧
    ∃ version ∈ store.tables.versions, version.version = 1 := by
  obtain ⟨store, result, settled, reached, -, -, -, -, -, promoted⟩ := lesson_run
  exact ⟨store, canonical_memory reached, promoted⟩

/-- The same request under the same key is answered otherwise once its approval is settled. -/
theorem settlement_changes_answer : ¬ ∀ platform nfc configured store, Reachable platform nfc configured store →
    ∀ origin context prepared verified result, .recorded origin context prepared verified result ∈ store.past →
      ∀ raw, prepare platform nfc context.tenantId raw = some prepared →
        Authorized store.tables.members context .knowledgeWrite →
          ∃ answer, firstPhase store.tables origin context prepared = .ok (.inl answer) ∧
            answer.decision = result.decision := by
  intro claim
  obtain ⟨store, result, settled, reached, recorded, decision, allowed, final, authorized, -⟩ := lesson_run
  obtain ⟨answer, answered, same⟩ :=
    claim _ _ _ store reached _ _ _ _ _ recorded (some lesson) prepare_lesson authorized
  have repeated := (repeats_of_sound reached.sound recorded .verifiedOutcome prepare_lesson rfl rfl authorized
    ⟨fun _ => rfl, fun _ => rfl⟩).1 rfl
  have first := answered.symm.trans repeated.first
  rw [final] at first
  cases first
  have changed : settled.decision = result.decision := same
  rw [allowed, decision] at changed
  cases changed

end KernelJson.Memory.Canonical
