import KernelJson.Approvals.ApprovalStore

/-!
# The first resolution wins

Every call on an approval is described by what it commits.  A pending approval
leaves that status by one call, whose authority, scope, time and writes are
those of its certificate; from then on every call on it is refused or returns
that first resolution, and commits nothing.
-/

namespace KernelJson.Approvals.FirstWins

open Approvals.ApprovalStore
open Contracts.Common
open Contracts.Identity
open Contracts.Platform
open Contracts.PolicyGate
open Contracts.Task
open Foundation
open Foundation.JsText
open Foundation.Transactions

/-! ## What the transactions commit -/

theorem parsed_ok {α : Type} {value : Option α} {result : α} (read : parsed value = .ok result) :
    value = some result := by
  cases value with
  | none => cases read
  | some found =>
      cases read
      rfl

theorem insertEvent_ok {db after : ApprovalDb} {event : TaskEvent} (inserted : db.insertEvent event = .ok after) :
    after = { db with taskEvents := db.taskEvents ++ [event] } ∧
      (db.taskEvents.any fun row => row.taskId = event.taskId ∧ row.eventKey = event.eventKey) = false := by
  unfold ApprovalDb.insertEvent at inserted
  split at inserted
  · cases inserted
  · split at inserted
    · cases inserted
    · next fresh =>
        cases inserted
        exact ⟨rfl, Bool.eq_false_iff.mpr fresh⟩

theorem insertEvidence_ok {db after : ApprovalDb} {row : EvidenceRow}
    (inserted : db.insertEvidence row = .ok after) :
    after = { db with evidence := db.evidence ++ [row] } ∧
      (db.evidence.any fun other => other.id = row.id) = false := by
  unfold ApprovalDb.insertEvidence at inserted
  split at inserted
  · cases inserted
  · next fresh =>
      cases inserted
      exact ⟨rfl, Bool.eq_false_iff.mpr fresh⟩

section Store

variable {platform : Platform}

/-- The writes of a resolution, all of them. -/
def resolvedDb (platform : Platform) (db : ApprovalDb) (row : ApprovalRow) (evaluation : PolicyEvaluation)
    (metadata : ApprovalMetadata) (evidenceId eventId : Id) : ApprovalDb :=
  let digest := capabilityDigest platform metadata.toJson
  { db with
    evidence := db.evidence ++ [evidenceRow evaluation metadata digest evidenceId db.clock]
    approvals := db.approvals.set metadata.approvalId.column (row.resolve metadata.status db.clock evidenceId)
    taskEvents := db.taskEvents ++ [resolvedEvent evaluation metadata digest eventId db.clock] }

theorem commitResolution_ok {db after : ApprovalDb} {row : ApprovalRow} {evaluation : PolicyEvaluation}
    {metadata : ApprovalMetadata} {evidenceId eventId : Id}
    (found : db.approvals.get? metadata.approvalId.column = some row)
    (committed : commitResolution platform db evaluation metadata evidenceId eventId = .ok after) :
    after = resolvedDb platform db row evaluation metadata evidenceId eventId ∧
      (db.evidence.any fun other => other.id = evidenceId.column) = false := by
  obtain ⟨evidenced, stored, updates⟩ := bind_ok committed
  obtain ⟨updated, changed, appended⟩ := bind_ok updates
  obtain ⟨rfl, fresh⟩ := insertEvidence_ok stored
  obtain ⟨rfl, -⟩ := insertEvent_ok appended
  simp only [updateApproval, found] at changed
  split at changed
  · cases changed
  · cases changed
    exact ⟨rfl, fresh⟩

/-- What the ticket of an approval is read from. -/
structure TicketOf (db : ApprovalDb) (id : Id) (row : ApprovalRow) (stored : Ticket)
    (evaluation : PolicyEvaluation) (resolution : ApprovalResolution) : Prop where
  present : db.approvals.get? id.column = some row
  event : ∃ event, db.eventOf row.taskId (policyKey id.column) = some event ∧ event.payload = .ticket stored
  evaluated : stored.evaluation.parse = some evaluation
  invoked : ∃ invocation, stored.invocation.parse = some invocation
  deadline : evaluation.expiresAt = some resolution.expiresAt
  approvalId : resolution.approvalId = id
  scopeDigest : resolution.scopeDigest = evaluation.scopeDigest
  status : resolution.status = row.status
  evidenceId : resolution.evidenceId = row.evidenceId
  reason : resolution.reason = db.reasonOf row.evidenceId

theorem ticket_ok {db : ApprovalDb} {id : Id} {evaluation : PolicyEvaluation}
    {resolution : ApprovalResolution} (read : ticket db id = .ok (evaluation, resolution)) :
    ∃ row stored, TicketOf db id row stored evaluation resolution := by
  unfold ticket at read
  cases found : db.approvals.get? id.column with
  | none => rw [found] at read; cases read
  | some row =>
      simp only [found] at read
      cases held : db.eventOf row.taskId (policyKey id.column) with
      | none => rw [held] at read; cases read
      | some event =>
          simp only [held] at read
          cases payload : event.payload with
          | ticket stored =>
              simp only [payload] at read
              obtain ⟨parsedEvaluation, evaluated, read⟩ := bind_ok read
              obtain ⟨invocation, invoked, read⟩ := bind_ok read
              obtain ⟨expiresAt, deadline, read⟩ := bind_ok read
              cases read
              exact ⟨row, stored, found, ⟨event, held, payload⟩, parsed_ok evaluated,
                ⟨invocation, parsed_ok invoked⟩, parsed_ok deadline, rfl, rfl, rfl, rfl, rfl⟩
          | resolution metadata => rw [payload] at read; cases read
          | other json => rw [payload] at read; cases read

/-- A ticket is read back from what it is made of. -/
theorem TicketOf.read {db : ApprovalDb} {id : Id} {row : ApprovalRow} {stored : Ticket}
    {evaluation : PolicyEvaluation} {resolution : ApprovalResolution}
    (held : TicketOf db id row stored evaluation resolution) :
    ticket db id = .ok (evaluation, resolution) := by
  obtain ⟨event, found, payload⟩ := held.event
  obtain ⟨invocation, invoked⟩ := held.invoked
  obtain ⟨approvalId, scopeDigest, status, expiresAt, evidenceId, reason⟩ := resolution
  have sameId := held.approvalId
  have sameDigest := held.scopeDigest
  have sameStatus := held.status
  have sameEvidence := held.evidenceId
  have sameReason := held.reason
  have deadline := held.deadline
  dsimp only at sameId sameDigest sameStatus sameEvidence sameReason deadline
  subst sameId sameDigest sameStatus sameEvidence sameReason
  simp only [ticket, held.present, found, payload, held.evaluated, invoked, deadline, parsed, ok_bind]

/-- Who may take an action on an approval. -/
structure Authority (db : ApprovalDb) (evaluation : PolicyEvaluation) (action : Action) (caller : Caller)
    (expected : Option PrincipalRef) (permission : Permission) : Prop where
  actor : caller.actor = expected
  named : ∃ principal ∈ expected, Authorized db.members ⟨evaluation.scope.tenantId, principal⟩ permission
  scopeDigest : action ≠ .cancel → caller.scopeDigest = some evaluation.scopeDigest

theorem member_ok {db : ApprovalDb} {tenant : Id} {actor : PrincipalRef} {permission : Permission}
    (checked : db.member tenant actor permission = .ok ()) : Authorized db.members ⟨tenant, actor⟩ permission := by
  unfold ApprovalDb.member at checked
  split at checked
  · next holds => exact holds
  · cases checked

theorem checkCaller_ok {db : ApprovalDb} {evaluation : PolicyEvaluation} {action : Action} {caller : Caller}
    (checked : checkCaller db evaluation action caller = .ok ()) (unforced : action ≠ .expire) :
    Authority db evaluation action caller
      (if action = .cancel then some evaluation.scope.principal else evaluation.approver)
      (if action = .cancel then .cancel else .approve) := by
  unfold checkCaller at checked
  rw [if_neg unforced] at checked
  cases expects : (if action = .cancel then some evaluation.scope.principal else evaluation.approver) with
  | none => rw [expects] at checked; cases checked
  | some expected =>
      rw [expects] at checked
      dsimp only at checked
      cases given : caller.actor with
      | none => rw [given] at checked; cases checked
      | some actor =>
          rw [given] at checked
          dsimp only at checked
          split at checked
          · cases checked
          · next agrees =>
              rw [not_or, not_not, not_and, not_not] at agrees
              obtain ⟨rfl, scope⟩ := agrees
              exact ⟨given, ⟨actor, rfl, member_ok checked⟩, scope⟩

/-- The two messages with which a caller is turned away. -/
def Refusal (fault : ApprovalFault) : Prop :=
  fault = .approval (js "Approval identity or scope mismatch") ∨
    fault = .approval (js "Identity is not an authorized member of the task tenant")

theorem member_error {db : ApprovalDb} {tenant : Id} {actor : PrincipalRef} {permission : Permission}
    {fault : ApprovalFault} (failed : db.member tenant actor permission = .error fault) : Refusal fault := by
  unfold ApprovalDb.member at failed
  split at failed
  · cases failed
  · cases failed
    exact Or.inr rfl

theorem checkCaller_error {db : ApprovalDb} {evaluation : PolicyEvaluation} {action : Action} {caller : Caller}
    {fault : ApprovalFault} (failed : checkCaller db evaluation action caller = .error fault)
    (named : evaluation.approver ≠ none) : Refusal fault := by
  unfold checkCaller at failed
  by_cases forced : action = .expire
  · rw [if_pos forced] at failed
    cases failed
  · rw [if_neg forced] at failed
    cases expects : (if action = .cancel then some evaluation.scope.principal else evaluation.approver) with
    | none =>
        split at expects
        · cases expects
        · exact absurd expects named
    | some expected =>
        rw [expects] at failed
        dsimp only at failed
        cases given : caller.actor with
        | none =>
            rw [given] at failed
            cases failed
            exact Or.inl rfl
        | some actor =>
            rw [given] at failed
            dsimp only at failed
            split at failed
            · cases failed
              exact Or.inl rfl
            · exact member_error failed

/-- What a call that resolves a pending approval found and wrote. -/
structure Resolves (platform : Platform) (db : ApprovalDb) (id : Id) (action : Action) (caller : Caller)
    (evidenceId eventId : Id) (row : ApprovalRow) (stored : Ticket) (evaluation : PolicyEvaluation)
    (resolution returned : ApprovalResolution) (after : ApprovalDb) : Prop where
  ticket : TicketOf db id row stored evaluation resolution
  pending : row.status = .pending
  allowed : checkCaller db evaluation action caller = .ok ()
  due : action = .expire → isExpired db resolution = true
  awaiting : isCancelled db evaluation action = true ∨ IsAwaiting db evaluation
  fresh : (db.evidence.any fun other => other.id = evidenceId.column) = false
  returned : returned =
    ApprovalResolution.resolve resolution (resolutionMetadata db id evaluation resolution action caller) evidenceId
  after : after = resolvedDb platform db row evaluation
    (resolutionMetadata db id evaluation resolution action caller) evidenceId eventId

/-- A call that returns either changed nothing and returns the ticket as it stands, or resolved
the pending approval. -/
theorem finish_cases {db after : ApprovalDb} {id evidenceId eventId : Id} {action : Action} {caller : Caller}
    {returned : ApprovalResolution}
    (ran : finish platform db id action caller evidenceId eventId = .ok (returned, after)) :
    ∃ row stored evaluation resolution, TicketOf db id row stored evaluation resolution ∧
      ((after = db ∧ returned = resolution) ∨
        Resolves platform db id action caller evidenceId eventId row stored evaluation resolution returned after) := by
  obtain ⟨⟨evaluation, resolution⟩, read, ran⟩ := bind_ok ran
  obtain ⟨checked, allowed, ran⟩ := bind_ok ran
  obtain ⟨row, stored, held⟩ := ticket_ok read
  refine ⟨row, stored, evaluation, resolution, held, ?_⟩
  split at ran
  · cases ran
    exact Or.inl ⟨rfl, rfl⟩
  · next pending =>
      rw [ne_eq, not_not, held.status] at pending
      unfold resolvePending at ran
      split at ran
      · cases ran
        exact Or.inl ⟨rfl, rfl⟩
      · next early =>
          split at ran
          · cases ran
          · next awaits =>
              obtain ⟨written, committed, ran⟩ := bind_ok ran
              cases ran
              obtain ⟨wrote, fresh⟩ := commitResolution_ok held.present committed
              refine Or.inr ⟨held, pending, allowed, fun expires => ?_, ?_, fresh, rfl, wrote⟩
              · by_contra notDue
                exact early ⟨expires, Bool.eq_false_iff.mpr notDue⟩
              · by_cases cancelled : isCancelled db evaluation action = true
                · exact Or.inl cancelled
                · refine Or.inr ?_
                  by_contra idle
                  exact awaits ⟨Bool.eq_false_iff.mpr cancelled, idle⟩

/-- What a record that commits found and wrote. -/
structure Opens (db : ApprovalDb) (approvalId : Id) (ticket : Ticket) (task : Task) (step : TaskStep)
    (digest : JsString) (after : ApprovalDb) : Prop where
  sameId : ticket.approvalId = approvalId
  stored : ∃ stored, db.tasks.get? ticket.evaluation.scope.taskId.column = some stored ∧ stored.parse = some task
  tenant : task.tenant.id = ticket.evaluation.scope.tenantId
  tasks : after.tasks = db.tasks
  evidence : after.evidence = db.evidence
  events : after.taskEvents = db.taskEvents ++ [policyEvent task step ticket digest]
  approvals : (ticket.evaluation.approver = none ∧ after.approvals = db.approvals) ∨
    ∃ approver, ticket.evaluation.approver = some approver ∧ db.approvals.get? approvalId.column = none ∧
      after.approvals = db.approvals.set approvalId.column (pendingRow task step ticket.evaluation approver)

theorem openApproval_ok {db after : ApprovalDb} {approvalId : Id} {task : Task} {step : TaskStep}
    {evaluation : PolicyEvaluation} (refined : evaluation.Refined)
    (opened : openApproval db approvalId task step evaluation = .ok after) :
    (evaluation.approver = none ∧ after = db) ∨
      ∃ approver, evaluation.approver = some approver ∧ db.approvals.get? approvalId.column = none ∧
        after = { db with
          approvals := db.approvals.set approvalId.column (pendingRow task step evaluation approver) } := by
  unfold openApproval at opened
  split at opened
  · cases named : evaluation.approver with
    | none => rw [named] at opened; cases opened
    | some approver =>
        rw [named] at opened
        dsimp only at opened
        obtain ⟨checked, -, inserted⟩ := bind_ok opened
        unfold insertApproval at inserted
        split at inserted
        · cases inserted
        · next absent =>
            cases inserted
            exact Or.inr ⟨approver, rfl, Option.not_isSome_iff_eq_none.mp absent, rfl⟩
  · next unasked =>
      cases opened
      exact Or.inl ⟨(refined.2.2.2.2.2 unasked).1, rfl⟩

theorem recordNew_ok {db after : ApprovalDb} {ticket : Ticket} {digest : JsString}
    (refined : ticket.evaluation.Refined) (ran : recordNew platform db ticket digest = .ok after) :
    ∃ task step, Opens db ticket.approvalId ticket task step digest after := by
  obtain ⟨task, readTask, ran⟩ := bind_ok ran
  obtain ⟨step, -, ran⟩ := bind_ok ran
  split at ran
  · next agrees =>
      obtain ⟨checked, -, ran⟩ := bind_ok ran
      obtain ⟨opened, opens, inserted⟩ := bind_ok ran
      obtain ⟨rfl, -⟩ := insertEvent_ok inserted
      refine ⟨task, step, ?_⟩
      have stored := Option.bind_eq_some_iff.mp (parsed_ok readTask)
      rcases openApproval_ok refined opens with ⟨unnamed, rfl⟩ | ⟨approver, named, absent, rfl⟩
      · exact ⟨rfl, stored, agrees.2.2.1, rfl, rfl, rfl, Or.inl ⟨unnamed, rfl⟩⟩
      · exact ⟨rfl, stored, agrees.2.2.1, rfl, rfl, rfl, Or.inr ⟨approver, named, absent, rfl⟩⟩
  · cases ran

theorem record_ok {db after : ApprovalDb} {evaluation : PolicyEvaluation} {invocation : CapabilityInvocation}
    {approvalId : Id} (ran : record platform db evaluation invocation approvalId = .ok after) :
    after = db ∨ ∃ ticket task step digest, Opens db approvalId ticket task step digest after := by
  obtain ⟨e, evaluated, ran⟩ := bind_ok ran
  obtain ⟨request, -, ran⟩ := bind_ok ran
  split at ran
  · cases ran
  · dsimp only at ran
    split at ran
    · split at ran
      · cases ran
      · cases ran
        exact Or.inl rfl
    · obtain ⟨task, step, opens⟩ :=
        recordNew_ok (PolicyEvaluation.parse_refined (parsed_ok evaluated)) ran
      exact Or.inr ⟨_, task, step, _, opens⟩

end Store

/-! ## Runs of calls -/

/-- What else happens to the tables: tasks change their contracts but not their tenants,
memberships and the clock move, other stores append rows of their own. -/
structure Outside (before after : ApprovalDb) : Prop where
  approvals : after.approvals = before.approvals
  events : ∃ more, after.taskEvents = before.taskEvents ++ more ∧
    ∀ event ∈ more, ∃ payload, event.payload = .other payload
  evidence : ∃ more, after.evidence = before.evidence ++ more
  keyed : ∀ key task, after.tasks.get? key = some task → task.id = key
  tenants : ∀ key task, before.tasks.get? key = some task →
    ∃ later, after.tasks.get? key = some later ∧ later.tenant = task.tenant

section Runs

variable (platform : Platform)

inductive Move (db : ApprovalDb) : ApprovalDb → Prop
  | call (call : Call) : Move db (perform platform db call).2
  | outside {after : ApprovalDb} (moved : Outside db after) : Move db after

abbrev Moves : ApprovalDb → ApprovalDb → Prop :=
  Relation.ReflTransGen (Move platform)

/-- No approval was ever asked for. -/
def emptyDb : ApprovalDb :=
  ⟨.epoch, fun _ => none, .empty, .empty, .empty, [], []⟩

/-- The policy check under a key opened the approval that it names an approver for. -/
def OpenedBy (db : ApprovalDb) (event : TaskEvent) (ticket : Ticket) : Prop :=
  event.eventKey = policyKey ticket.approvalId ∧ event.taskId = ticket.evaluation.scope.taskId.column ∧
    ∀ approver, ticket.evaluation.approver = some approver →
      ∃ row task, db.approvals.get? ticket.approvalId.column = some row ∧ row.taskId = event.taskId ∧
        row.requestedFrom = approver.id.column ∧ db.tasks.get? row.taskId = some task ∧
        task.tenant.id = ticket.evaluation.scope.tenantId

structure Recorded (db : ApprovalDb) : Prop where
  keyed : ∀ key task, db.tasks.get? key = some task → task.id = key
  opened : ∀ event ∈ db.taskEvents, ∀ ticket, event.payload = .ticket ticket → OpenedBy db event ticket

variable {platform}

theorem recorded_empty : Recorded emptyDb where
  keyed := fun _ _ impossible => by cases impossible
  opened := fun _ impossible => by cases impossible

/-- An approval keeps who it was asked of, whatever happens to its status. -/
def KeepsApprovals (before after : ApprovalDb) : Prop :=
  ∀ key row, before.approvals.get? key = some row → ∃ later, after.approvals.get? key = some later ∧
    later.taskId = row.taskId ∧ later.requestedFrom = row.requestedFrom

def KeepsTenants (before after : ApprovalDb) : Prop :=
  ∀ key task, before.tasks.get? key = some task →
    ∃ later, after.tasks.get? key = some later ∧ later.tenant = task.tenant

theorem OpenedBy.mono {before after : ApprovalDb} {event : TaskEvent} {ticket : Ticket}
    (opened : OpenedBy before event ticket) (approvals : KeepsApprovals before after)
    (tenants : KeepsTenants before after) : OpenedBy after event ticket := by
  obtain ⟨keyed, ofTask, named⟩ := opened
  refine ⟨keyed, ofTask, fun approver asks => ?_⟩
  obtain ⟨row, task, found, sameTask, asked, held, tenant⟩ := named approver asks
  obtain ⟨later, kept, keptTask, keptAsked⟩ := approvals _ row found
  obtain ⟨still, here, sameTenant⟩ := tenants _ task held
  refine ⟨later, still, kept, keptTask.trans sameTask, keptAsked.trans asked, ?_, ?_⟩
  · rw [keptTask]
    exact here
  · rw [sameTenant]
    exact tenant

theorem keepsTenants_of_same {before after : ApprovalDb} (same : after.tasks = before.tasks) :
    KeepsTenants before after :=
  fun _ task found => ⟨task, same ▸ found, rfl⟩

theorem Recorded.opens {db after : ApprovalDb} (recorded : Recorded db) {approvalId : Id} {ticket : Ticket}
    {task : Task} {step : TaskStep} {digest : JsString}
    (opens : Opens db approvalId ticket task step digest after) : Recorded after := by
  have approvals : KeepsApprovals db after := by
    intro key row found
    rcases opens.approvals with ⟨-, same⟩ | ⟨approver, -, absent, same⟩
    · exact ⟨row, same ▸ found, rfl, rfl⟩
    · have different : approvalId.column ≠ key := by
        rintro rfl
        rw [absent] at found
        cases found
      exact ⟨row, by rw [same, JsMap.get?_set_of_ne _ different, found], rfl, rfl⟩
  refine ⟨fun key held found => recorded.keyed key held (opens.tasks ▸ found), ?_⟩
  intro event member stored payload
  rw [opens.events, List.mem_append, List.mem_singleton] at member
  rcases member with old | rfl
  · exact (recorded.opened event old stored payload).mono approvals (keepsTenants_of_same opens.tasks)
  · cases payload
    obtain ⟨held, found, parses⟩ := opens.stored
    have sameId : task.id = ticket.evaluation.scope.taskId.column :=
      (Task.parse_keeps parses).1.trans (recorded.keyed _ held found)
    have ofTask : task.id.column = ticket.evaluation.scope.taskId.column := by
      rw [sameId, Id.column_column]
    refine ⟨rfl, ofTask, fun approver asks => ?_⟩
    rcases opens.approvals with ⟨unnamed, -⟩ | ⟨named, asked, -, same⟩
    · rw [unnamed] at asks
      cases asks
    · rw [asked, Option.some.injEq] at asks
      subst asks
      refine ⟨pendingRow task step ticket.evaluation named, held, ?_, rfl, rfl, ?_, ?_⟩
      · rw [same, opens.sameId, JsMap.get?_set_self]
      · rw [opens.tasks]
        exact (congrArg db.tasks.get? ofTask).trans found
      · rw [← opens.tenant, (Task.parse_keeps parses).2]

theorem Recorded.resolves {db after : ApprovalDb} (recorded : Recorded db) {row : ApprovalRow}
    {evaluation : PolicyEvaluation} {metadata : ApprovalMetadata} {evidenceId eventId : Id}
    (found : db.approvals.get? metadata.approvalId.column = some row)
    (wrote : after = resolvedDb platform db row evaluation metadata evidenceId eventId) : Recorded after := by
  subst wrote
  have approvals : KeepsApprovals db (resolvedDb platform db row evaluation metadata evidenceId eventId) := by
    intro key old held
    by_cases same : metadata.approvalId.column = key
    · subst same
      rw [found, Option.some.injEq] at held
      subst held
      exact ⟨_, JsMap.get?_set_self _ _ _, rfl, rfl⟩
    · exact ⟨old, (JsMap.get?_set_of_ne _ same _).trans held, rfl, rfl⟩
  refine ⟨recorded.keyed, fun event member stored payload => ?_⟩
  have appended : event ∈ db.taskEvents ++ [_] := member
  rw [List.mem_append, List.mem_singleton] at appended
  rcases appended with old | rfl
  · exact (recorded.opened event old stored payload).mono approvals (keepsTenants_of_same rfl)
  · cases payload

/-! ## Finishing calls -/

/-- The arguments that a call hands to `finish`; `record` hands it none. -/
structure Finishing where
  id : Id
  action : Action
  caller : Caller
  evidenceId : Id
  eventId : Id

def Call.finishing : Call → Option Finishing
  | .record _ _ _ => none
  | .resolve id answer actor evidenceId eventId =>
      some ⟨id, Answered.action answer.decision, ⟨some actor, some answer.scopeDigest⟩, evidenceId, eventId⟩
  | .cancel id actor evidenceId eventId => some ⟨id, .cancel, ⟨some actor, none⟩, evidenceId, eventId⟩
  | .expire id evidenceId eventId => some ⟨id, .expire, ⟨none, none⟩, evidenceId, eventId⟩

/-- The approval that a call may resolve, as its column holds it. -/
def Call.about (call : Call) : Option Id :=
  (Call.finishing call).map fun finishing => finishing.id.column

theorem run_finishing (platform : Platform) (db : ApprovalDb) {call : Call} {finishing : Finishing}
    (finishes : Call.finishing call = some finishing) :
    run platform db call =
      (finish platform db finishing.id finishing.action finishing.caller finishing.evidenceId
        finishing.eventId).map fun returned => (some returned.1, returned.2) := by
  cases call with
  | record evaluation invocation approvalId => cases finishes
  | resolve id answer actor evidenceId eventId => cases finishes; rfl
  | cancel id actor evidenceId eventId => cases finishes; rfl
  | expire id evidenceId eventId => cases finishes; rfl

/-- A call changed nothing, opened an approval, or resolved one. -/
inductive Did (platform : Platform) (db : ApprovalDb) (call : Call) (after : ApprovalDb) : Prop
  | nothing (same : after = db)
  | opened {approvalId : Id} {ticket : Ticket} {task : Task} {step : TaskStep} {digest : JsString}
      (opens : Opens db approvalId ticket task step digest after)
  | resolved {finishing : Finishing} {row : ApprovalRow} {stored : Ticket} {evaluation : PolicyEvaluation}
      {resolution returned : ApprovalResolution} (finishes : Call.finishing call = some finishing)
      (ran : perform platform db call = (.ok (some returned), after))
      (resolves : Resolves platform db finishing.id finishing.action finishing.caller finishing.evidenceId
        finishing.eventId row stored evaluation resolution returned after)

theorem perform_did (platform : Platform) (db : ApprovalDb) (call : Call) :
    Did platform db call (perform platform db call).2 := by
  rcases commit_cases (fun before => run platform before call) db with ⟨fault, -, same⟩ | ⟨answer, after, ran, same⟩
  · exact .nothing (congrArg Prod.snd same)
  · have left : (perform platform db call).2 = after := congrArg Prod.snd same
    rw [left]
    cases finishes : Call.finishing call with
    | none =>
        cases call with
        | record evaluation invocation approvalId =>
            obtain ⟨written, recorded, rfl, rfl⟩ := map_ok ran
            rcases record_ok recorded with unchanged | ⟨ticket, task, step, digest, opens⟩
            · exact .nothing unchanged
            · exact .opened opens
        | resolve => cases finishes
        | cancel => cases finishes
        | expire => cases finishes
    | some finishing =>
        rw [run_finishing platform db finishes] at ran
        obtain ⟨⟨returned, written⟩, finished, rfl, rfl⟩ := map_ok ran
        obtain ⟨row, stored, evaluation, resolution, -, unchanged | resolves⟩ := finish_cases finished
        · exact .nothing unchanged.1
        · exact .resolved finishes same resolves

theorem Recorded.move {db after : ApprovalDb} (recorded : Recorded db) (moved : Move platform db after) :
    Recorded after := by
  cases moved with
  | call call =>
      cases perform_did platform db call with
      | nothing same =>
          rw [same]
          exact recorded
      | opened opens => exact recorded.opens opens
      | resolved finishes ran resolves => exact recorded.resolves resolves.ticket.present resolves.after
  | outside moved =>
      refine ⟨moved.keyed, fun event member ticket payload => ?_⟩
      obtain ⟨more, appended, foreign⟩ := moved.events
      rw [appended, List.mem_append] at member
      rcases member with old | new
      · refine (recorded.opened event old ticket payload).mono (fun key row found => ?_) moved.tenants
        exact ⟨row, moved.approvals ▸ found, rfl, rfl⟩
      · obtain ⟨other, isOther⟩ := foreign event new
        rw [isOther] at payload
        cases payload

/-! ## Resolved approvals -/

/-- An approval that is resolved, with all that reading its ticket needs. -/
structure Settled (db : ApprovalDb) (key : Id) (row : ApprovalRow) (stored : Ticket)
    (evaluation : PolicyEvaluation) (expiresAt : Timestamp) (reason : ApprovalReason) : Prop where
  present : db.approvals.get? key = some row
  closed : row.status ≠ .pending
  event : ∃ event, db.eventOf row.taskId (policyKey key) = some event ∧ event.payload = .ticket stored
  evaluated : stored.evaluation.parse = some evaluation
  invoked : ∃ invocation, stored.invocation.parse = some invocation
  deadline : evaluation.expiresAt = some expiresAt
  evidence : ∃ evidenceId found, row.evidenceId = some evidenceId ∧ db.evidenceOf evidenceId = some found ∧
    found.metadata.reason = some reason

section Settled

variable {db after : ApprovalDb} {key : Id} {row : ApprovalRow} {stored : Ticket}
  {evaluation : PolicyEvaluation} {expiresAt : Timestamp} {reason : ApprovalReason}

/-- A settled approval stays so while its row is kept and rows are only appended elsewhere. -/
theorem Settled.mono (settled : Settled db key row stored evaluation expiresAt reason)
    (kept : after.approvals.get? key = some row) (events : ∃ more, after.taskEvents = db.taskEvents ++ more)
    (evidence : ∃ more, after.evidence = db.evidence ++ more) :
    Settled after key row stored evaluation expiresAt reason := by
  obtain ⟨event, found, payload⟩ := settled.event
  obtain ⟨evidenceId, proof, refers, held, because⟩ := settled.evidence
  obtain ⟨moreEvents, appended⟩ := events
  obtain ⟨moreEvidence, proven⟩ := evidence
  refine ⟨kept, settled.closed, ⟨event, ?_, payload⟩, settled.evaluated, settled.invoked, settled.deadline,
    ⟨evidenceId, proof, refers, ?_, because⟩⟩
  · unfold ApprovalDb.eventOf
    rw [appended]
    exact find?_append_of_some found moreEvents
  · unfold ApprovalDb.evidenceOf
    rw [proven]
    exact find?_append_of_some held moreEvidence

/-- No move rewrites a settled approval. -/
theorem Settled.move (settled : Settled db key row stored evaluation expiresAt reason)
    (moved : Move platform db after) : Settled after key row stored evaluation expiresAt reason := by
  cases moved with
  | call call =>
      cases perform_did platform db call with
      | nothing same =>
          rw [same]
          exact settled
      | @opened approvalId ticket task step digest opens =>
          refine settled.mono ?_ ⟨_, opens.events⟩ ⟨[], by rw [opens.evidence, List.append_nil]⟩
          rcases opens.approvals with ⟨-, same⟩ | ⟨approver, -, absent, same⟩
          · exact same ▸ settled.present
          · have different : approvalId.column ≠ key := by
              rintro rfl
              rw [settled.present] at absent
              cases absent
            rw [same, JsMap.get?_set_of_ne _ different, settled.present]
      | @resolved finishing other stored' evaluation' resolution returned finishes ran resolves =>
          rw [resolves.after]
          refine settled.mono ?_ ⟨_, rfl⟩ ⟨_, rfl⟩
          have different : finishing.id.column ≠ key := by
            rintro rfl
            have present := resolves.ticket.present
            rw [settled.present, Option.some.injEq] at present
            exact settled.closed (present ▸ resolves.pending)
          exact (JsMap.get?_set_of_ne _ different _).trans settled.present
  | outside moved =>
      obtain ⟨more, appended, -⟩ := moved.events
      exact settled.mono (moved.approvals ▸ settled.present) ⟨more, appended⟩ moved.evidence

theorem Settled.moves (settled : Settled db key row stored evaluation expiresAt reason)
    (moved : Moves platform db after) : Settled after key row stored evaluation expiresAt reason :=
  kept_steps (fun world => Settled world key row stored evaluation expiresAt reason)
    (fun _ _ step held => held.move step) moved settled

/-- What a settled approval reads as, under the identifier of the caller. -/
def settledResolution (id : Id) (row : ApprovalRow) (evaluation : PolicyEvaluation) (expiresAt : Timestamp)
    (reason : ApprovalReason) : ApprovalResolution :=
  ⟨id, evaluation.scopeDigest, row.status, expiresAt, row.evidenceId, some reason⟩

theorem Settled.ticket {id : Id} (settled : Settled db id.column row stored evaluation expiresAt reason) :
    TicketOf db id row stored evaluation (settledResolution id row evaluation expiresAt reason) where
  present := settled.present
  event := settled.event
  evaluated := settled.evaluated
  invoked := settled.invoked
  deadline := settled.deadline
  approvalId := rfl
  scopeDigest := rfl
  status := rfl
  evidenceId := rfl
  reason := by
    obtain ⟨evidenceId, proof, refers, held, because⟩ := settled.evidence
    simp only [settledResolution, ApprovalDb.reasonOf, refers, Option.bind_some, held, because]

theorem Settled.approver (settled : Settled db key row stored evaluation expiresAt reason) :
    evaluation.approver ≠ none := by
  have fields := (PolicyEvaluation.parse_refined settled.evaluated).2.2.2.2
  have required : evaluation.decision.decision = .approvalRequired := by
    by_contra other
    have absent := (fields.2 other).2
    rw [settled.deadline] at absent
    cases absent
  obtain ⟨⟨approver, named, -⟩, -⟩ := fields.1 required
  rw [show evaluation.approver = some approver from named]
  exact Option.some_ne_none approver

/-- A call on a settled approval turns its caller away or returns how it reads, and commits nothing. -/
theorem Settled.finish {id evidenceId eventId : Id} {action : Action} {caller : Caller}
    (settled : Settled db id.column row stored evaluation expiresAt reason) :
    (∃ fault, finish platform db id action caller evidenceId eventId = .error fault ∧ Refusal fault) ∨
      finish platform db id action caller evidenceId eventId =
        .ok (settledResolution id row evaluation expiresAt reason, db) := by
  have read := settled.ticket.read
  unfold ApprovalStore.finish
  rw [read, ok_bind]
  dsimp only
  cases checked : checkCaller db evaluation action caller with
  | error fault => exact Or.inl ⟨fault, rfl, checkCaller_error checked settled.approver⟩
  | ok unchecked =>
      refine Or.inr ?_
      rw [ok_bind, if_pos]
      exact settled.closed

end Settled

/-! ## The certificate of a resolution -/

def Resolved (db : ApprovalDb) (key : Id) : Prop :=
  ∃ row, db.approvals.get? key = some row ∧ row.status ≠ .pending

/-- The authority, the scope, the time and the task behind a grant. -/
structure Grant (db : ApprovalDb) (call : Call) (row : ApprovalRow) (evaluation : PolicyEvaluation) : Prop where
  answered : ∃ id answer approver evidenceId eventId, call = .resolve id answer approver evidenceId eventId ∧
    answer.decision = .granted ∧ answer.scopeDigest = evaluation.scopeDigest ∧
    evaluation.approver = some approver ∧ approver.kind = .human ∧ approver.id.column = row.requestedFrom ∧
    Authorized db.members ⟨evaluation.scope.tenantId, approver⟩ .approve
  inTime : ∃ expiresAt, evaluation.expiresAt = some expiresAt ∧ db.clock.ms < expiresAt.ms
  task : ∃ task, db.tasks.get? row.taskId = some task ∧ task.tenant.id = evaluation.scope.tenantId ∧
    (task.status = .compiled ∨ task.status = .approvalRequired)

/-- One evidence row and one event, both of this resolution. -/
structure WritesOnce (db after : ApprovalDb) (key : Id) (first : ApprovalResolution) : Prop where
  evidence : ∃ row metadata, after.evidence = db.evidence ++ [row] ∧ row.source = approvalSource ∧
    row.metadata = .approval metadata ∧ metadata.approvalId.column = key ∧ metadata.status = first.status ∧
    some metadata.reason = first.reason ∧ some row.id = first.evidenceId.map Id.column
  event : ∃ event metadata, after.taskEvents = db.taskEvents ++ [event] ∧
    event.eventKey = resolvedKey metadata.approvalId ∧ event.payload = .resolution metadata ∧
    metadata.approvalId.column = key ∧ metadata.status = first.status

/-- A resolution as its columns hold it: the case of identifiers is not kept. -/
def columns (resolution : ApprovalResolution) : ApprovalResolution :=
  { resolution with
    approvalId := resolution.approvalId.column
    evidenceId := resolution.evidenceId.map Id.column }

/-- A call is turned away for its identity or scope, or returns the first resolution; it commits
nothing either way. -/
def Repeats (platform : Platform) (db : ApprovalDb) (call : Call) (first : ApprovalResolution) : Prop :=
  (perform platform db call).2 = db ∧
    ((∃ fault, (perform platform db call).1 = .error fault ∧ Refusal fault) ∨
      ∃ again, (perform platform db call).1 = .ok (some again) ∧ columns again = columns first)

/-- What the one call that resolved an approval found, wrote and settled. -/
structure FirstResolution (platform : Platform) (db after : ApprovalDb) (key : Id) (call : Call)
    (row : ApprovalRow) (evaluation : PolicyEvaluation) (first : ApprovalResolution) : Prop where
  about : Call.about call = some key
  pending : db.approvals.get? key = some row ∧ row.status = .pending
  named : ∃ event stored, db.eventOf row.taskId (policyKey key) = some event ∧
    event.payload = .ticket stored ∧ stored.evaluation.parse = some evaluation
  returned : perform platform db call = (.ok (some first), after)
  status : ∃ resolved, after.approvals.get? key = some resolved ∧ resolved.status = first.status ∧
    first.status ≠ .pending
  granted : first.status = .granted → Grant db call row evaluation
  once : WritesOnce db after key first
  settled : ∀ later, Moves platform after later → later.approvals.get? key = after.approvals.get? key ∧
    ∀ other, Call.about other = some key → Repeats platform later other first

theorem resolvedStatus_ne_pending (expired cancelled : Bool) (action : Action) :
    resolvedStatus expired cancelled action ≠ .pending := by
  unfold resolvedStatus
  split
  · decide
  · split
    · decide
    · split <;> decide

theorem resolvedStatus_granted {expired cancelled : Bool} {action : Action}
    (granted : resolvedStatus expired cancelled action = .granted) :
    expired = false ∧ cancelled = false ∧ action = .granted := by
  unfold resolvedStatus at granted
  cases expired with
  | true => cases granted
  | false =>
      cases cancelled with
      | true => cases granted
      | false =>
          cases action with
          | granted => exact ⟨rfl, rfl, rfl⟩
          | denied => cases granted
          | cancel => cases granted
          | expire => cases granted

theorem policyKey_inj {first second : Id} (same : policyKey first = policyKey second) : first = second :=
  Contracts.Common.Id.ext (List.append_cancel_left same)

/-- The approver that a ticket names is the one its approval was asked of, in the tenant of its task. -/
theorem Recorded.named {db : ApprovalDb} (recorded : Recorded db) {id : Id} {row : ApprovalRow}
    {stored : Ticket} {evaluation : PolicyEvaluation} {resolution : ApprovalResolution}
    (held : TicketOf db id row stored evaluation resolution) {approver : PrincipalRef}
    (asks : evaluation.approver = some approver) :
    approver.id.column = row.requestedFrom ∧ row.taskId = evaluation.scope.taskId.column ∧
      ∃ task, db.tasks.get? row.taskId = some task ∧ task.tenant.id = evaluation.scope.tenantId := by
  obtain ⟨event, found, payload⟩ := held.event
  have member := List.mem_of_find?_eq_some found
  have accepted := List.find?_some found
  simp only [decide_eq_true_eq] at accepted
  obtain ⟨keyed, ofTask, named⟩ := recorded.opened event member stored payload
  obtain ⟨sameApprover, sameTask, sameTenant⟩ := PolicyEvaluation.parse_keeps held.evaluated
  have sameId : stored.approvalId = id.column := policyKey_inj (keyed.symm.trans accepted.2)
  obtain ⟨opened, task, here, -, asked, stands, tenant⟩ := named approver (sameApprover.symm.trans asks)
  rw [sameId, Id.column_column, held.present, Option.some.injEq] at here
  subst here
  refine ⟨asked.symm, ?_, task, stands, tenant.trans sameTenant.symm⟩
  rw [sameTask, ← ofTask, accepted.1]

/-- A grant is the answer of its named human approver, in time and for a waiting task. -/
theorem Resolves.grant {db after : ApprovalDb} (recorded : Recorded db) {call : Call} {finishing : Finishing}
    (finishes : Call.finishing call = some finishing) {row : ApprovalRow} {stored : Ticket}
    {evaluation : PolicyEvaluation} {resolution returned : ApprovalResolution}
    (resolves : Resolves platform db finishing.id finishing.action finishing.caller finishing.evidenceId
      finishing.eventId row stored evaluation resolution returned after)
    (granted : returned.status = .granted) : Grant db call row evaluation := by
  rw [resolves.returned] at granted
  obtain ⟨notExpired, notCancelled, action⟩ := resolvedStatus_granted granted
  have authority := checkCaller_ok resolves.allowed (by rw [action]; decide)
  have uncancelled : finishing.action ≠ .cancel := by
    rw [action]
    decide
  rw [if_neg uncancelled, if_neg uncancelled] at authority
  obtain ⟨approver, asks, authorized⟩ := authority.named
  obtain ⟨asked, sameTask, task, stands, tenant⟩ := recorded.named resolves.ticket asks
  refine ⟨?_, ⟨resolution.expiresAt, resolves.ticket.deadline, ?_⟩, task, stands, tenant, ?_⟩
  · cases call with
    | record evaluation invocation approvalId => cases finishes
    | cancel id actor evidenceId eventId =>
        cases finishes
        cases action
    | expire id evidenceId eventId =>
        cases finishes
        cases action
    | resolve id answer actor evidenceId eventId =>
        cases finishes
        have sameActor : actor = approver := Option.some.inj (authority.actor.trans asks)
        subst sameActor
        refine ⟨id, answer, actor, evidenceId, eventId, rfl, ?_, ?_, asks, ?_, asked, authorized⟩
        · cases given : answer.decision with
          | granted => rfl
          | denied =>
              rw [given] at action
              cases action
        · exact Option.some.inj (authority.scopeDigest uncancelled)
        · exact ((PolicyEvaluation.parse_refined resolves.ticket.evaluated).approver asks).2
  · have late : ¬ resolution.expiresAt.ms ≤ db.clock.ms := by
      simpa only [isExpired, decide_eq_false_iff_not] using notExpired
    omega
  · have waits : IsAwaiting db evaluation := by
      rcases resolves.awaiting with cancelled | awaiting
      · rw [notCancelled] at cancelled
        cases cancelled
      · exact awaiting
    simpa only [IsAwaiting, taskStatus, ← sameTask, stands, Option.map_some, Option.some.injEq] using waits

/-- The approval that a call resolved is settled from then on. -/
theorem Resolves.settled {db after : ApprovalDb} {id evidenceId eventId : Id} {action : Action} {caller : Caller}
    {row : ApprovalRow} {stored : Ticket} {evaluation : PolicyEvaluation}
    {resolution returned : ApprovalResolution}
    (resolves : Resolves platform db id action caller evidenceId eventId row stored evaluation resolution
      returned after) :
    Settled after id.column
      (row.resolve (resolutionMetadata db id evaluation resolution action caller).status db.clock evidenceId)
      stored evaluation resolution.expiresAt
      (resolutionMetadata db id evaluation resolution action caller).reason := by
  obtain ⟨event, found, payload⟩ := resolves.ticket.event
  rw [resolves.after]
  refine ⟨JsMap.get?_set_self _ _ _, resolvedStatus_ne_pending _ _ _, ⟨event, ?_, payload⟩,
    resolves.ticket.evaluated, resolves.ticket.invoked, resolves.ticket.deadline,
    ⟨evidenceId.column, _, rfl, find?_append_of_none resolves.fresh (decide_eq_true rfl), rfl⟩⟩
  exact find?_append_of_some found _

theorem repeats_of_settled {db : ApprovalDb} {row : ApprovalRow} {stored : Ticket}
    {evaluation : PolicyEvaluation} {expiresAt : Timestamp} {reason : ApprovalReason} {key : Id}
    (settled : Settled db key row stored evaluation expiresAt reason) {call : Call}
    (about : Call.about call = some key) {first : ApprovalResolution}
    (same : columns (settledResolution key row evaluation expiresAt reason) = columns first) :
    Repeats platform db call first := by
  obtain ⟨finishing, finishes, sameId⟩ := Option.map_eq_some_iff.mp about
  subst sameId
  have ran := run_finishing platform db finishes
  have reads : columns (settledResolution finishing.id row evaluation expiresAt reason) = columns first := by
    rw [← same]
    simp only [columns, settledResolution, Id.column_column]
  rcases @Settled.finish platform _ _ _ _ _ _ _ finishing.evidenceId finishing.eventId finishing.action
    finishing.caller settled with ⟨fault, failed, refusal⟩ | returned
  · have done : perform platform db call = (.error fault, db) := by
      simp only [perform, commit, ran, failed, Except.map]
    rw [Repeats, done]
    exact ⟨rfl, Or.inl ⟨fault, rfl, refusal⟩⟩
  · have done : perform platform db call =
        (.ok (some (settledResolution finishing.id row evaluation expiresAt reason)), db) := by
      simp only [perform, commit, ran, returned, Except.map]
    rw [Repeats, done]
    exact ⟨rfl, Or.inr ⟨_, rfl, reads⟩⟩

theorem Moves.recorded {db : ApprovalDb} (reached : Moves platform emptyDb db) : Recorded db :=
  kept_steps Recorded (fun _ _ step held => held.move step) reached recorded_empty

/-- In every run of calls, an approval is resolved by one call: with the authority, the scope, the
time and the task of its ticket, by one evidence row and one event; and every call on it after
that repeats the resolution or is turned away. -/
theorem approval_resolved_once {db after : ApprovalDb} (reached : Moves platform emptyDb db)
    (moved : Move platform db after) {key : Id} (before : ¬ Resolved db key) (resolved : Resolved after key) :
    ∃ call row evaluation first, FirstResolution platform db after key call row evaluation first := by
  have recorded := Moves.recorded reached
  have unchanged : after.approvals.get? key = db.approvals.get? key → False := by
    intro same
    obtain ⟨row, found, closed⟩ := resolved
    exact before ⟨row, same ▸ found, closed⟩
  cases moved with
  | outside moved => exact (unchanged (by rw [moved.approvals])).elim
  | call call =>
      cases perform_did platform db call with
      | nothing same => exact (unchanged (by rw [same])).elim
      | @opened approvalId ticket task step digest opens =>
          rcases opens.approvals with ⟨-, same⟩ | ⟨approver, -, -, same⟩
          · exact (unchanged (by rw [same])).elim
          · by_cases equal : approvalId.column = key
            · obtain ⟨row, found, closed⟩ := resolved
              rw [same, equal, JsMap.get?_set_self, Option.some.injEq] at found
              exact absurd (found ▸ rfl) closed
            · exact (unchanged (by rw [same, JsMap.get?_set_of_ne _ equal])).elim
      | @resolved finishing row stored evaluation resolution returned finishes ran resolves =>
          by_cases equal : finishing.id.column = key
          · subst equal
            have settled := resolves.settled
            refine ⟨call, row, evaluation, returned, ?_⟩
            have sameReturned := resolves.returned
            refine
              { about := by rw [Call.about, finishes]; rfl
                pending := ⟨resolves.ticket.present, resolves.pending⟩
                named := ?_
                returned := ran
                status := ⟨_, settled.present, by rw [sameReturned]; rfl, ?_⟩
                granted := Resolves.grant recorded finishes resolves
                once := ?_
                settled := fun later moves => ?_ }
            · obtain ⟨event, found, payload⟩ := resolves.ticket.event
              exact ⟨event, stored, found, payload, resolves.ticket.evaluated⟩
            · rw [sameReturned]
              exact resolvedStatus_ne_pending _ _ _
            · rw [sameReturned]
              constructor
              · exact ⟨_, _, congrArg ApprovalDb.evidence resolves.after, rfl, rfl, rfl, rfl, rfl, rfl⟩
              · exact ⟨_, _, congrArg ApprovalDb.taskEvents resolves.after, rfl, rfl, rfl, rfl⟩
            · have still := settled.moves moves
              refine ⟨still.present.trans settled.present.symm, fun other about => ?_⟩
              refine repeats_of_settled still about ?_
              rw [sameReturned]
              simp only [columns, settledResolution, ApprovalResolution.resolve, ApprovalRow.resolve,
                resolves.ticket.approvalId, resolves.ticket.scopeDigest, Id.column_column, Option.map_some]
          · refine (unchanged ?_).elim
            rw [resolves.after]
            exact JsMap.get?_set_of_ne _ equal _

end Runs

/-! ## An approval that its approver grants -/

section Samples

def sampleTaskId : Id := ⟨js "a0000018-0000-4000-8000-000000000001", by decide⟩

def sampleStepId : Id := ⟨js "a0000018-0000-4000-8000-000000000002", by decide⟩

def sampleTenant : Id := ⟨js "a0000018-0000-4000-8000-000000000003", by decide⟩

def sampleService : PrincipalRef := ⟨⟨js "a0000018-0000-4000-8000-000000000004", by decide⟩, .service⟩

def sampleApprover : PrincipalRef := ⟨⟨js "a0000018-0000-4000-8000-000000000005", by decide⟩, .human⟩

def sampleApproval : Id := ⟨js "a0000018-0000-4000-8000-000000000006", by decide⟩

def sampleCapability : CapabilityRef := ⟨⟨js "a0000018-0000-4000-8000-000000000007", by decide⟩, js "1.0.0"⟩

def sampleEvent : Id := ⟨js "a0000018-0000-4000-8000-000000000008", by decide⟩

def sampleOther : Id := ⟨js "a0000018-0000-4000-8000-000000000009", by decide⟩

def sampleZeros : JsString := List.replicate 64 48

def sampleStored : Task where
  id := sampleTaskId
  parentTaskId := none
  principal := sampleService
  tenant := ⟨sampleTenant⟩
  objective := js "hello"
  acceptanceCriteria := [js "done"]
  constraints := []
  riskClass := .low
  budget := none
  deadline := none
  status := .compiled
  traceId := sampleTaskId
  createdAt := .epoch
  startedAt := none
  completedAt := none

def sampleStep : TaskStep where
  id := sampleStepId
  taskId := sampleTaskId
  kind := .deterministicFunction
  status := .ready
  dependencies := []
  requiredCapabilities := [sampleCapability]
  riskClass := .low
  retryPolicy := ⟨1, 0⟩
  timeout := none
  input := .str (js "hello")
  output := none
  idempotencyKey := some (js "once")

def sampleTrace : TraceRef := ⟨sampleTaskId, sampleTaskId, none⟩

def sampleInvocation : CapabilityInvocation :=
  ⟨sampleEvent, sampleTaskId, sampleStepId, sampleTrace, sampleCapability, js "once", .str (js "hello")⟩

/-- An approval is asked for at the epoch, until one second after it. -/
def sampleEvaluation : PolicyEvaluation where
  decision := ⟨sampleEvent, sampleTaskId, some sampleStepId, sampleCapability, .approvalRequired,
    js "RISK", .epoch, js "v1"⟩
  scope := ⟨sampleTaskId, sampleStepId, sampleTenant, sampleService, sampleTrace, sampleCapability, sampleZeros,
    sampleZeros, js "v1"⟩
  scopeDigest := sampleZeros
  approver := some sampleApprover
  expiresAt := some ⟨1000, by decide⟩

def sampleMembers : Memberships := fun context =>
  if context = ⟨sampleTenant, sampleApprover⟩ then some .reviewer
  else if context = ⟨sampleTenant, sampleService⟩ then some .member
  else none

def sampleStart : ApprovalDb :=
  { emptyDb with
    members := sampleMembers
    tasks := JsMap.empty.set sampleTaskId sampleStored
    steps := JsMap.empty.set sampleStepId sampleStep }

def sampleOpened : ApprovalDb :=
  (perform .ascii sampleStart (.record sampleEvaluation sampleInvocation sampleApproval)).2

def sampleGrant : Call :=
  .resolve sampleApproval ⟨sampleZeros, .granted, by decide⟩ sampleApprover sampleOther sampleOther

theorem sample_reached : Moves .ascii emptyDb sampleOpened := by
  have outside : Outside emptyDb sampleStart := by
    refine ⟨rfl, ⟨[], rfl, fun _ impossible => by cases impossible⟩, ⟨[], rfl⟩, fun key task found => ?_,
      fun _ _ impossible => by cases impossible⟩
    have written : (JsMap.empty.set sampleTaskId sampleStored).get? key = some task := found
    rw [JsMap.get?_set] at written
    split at written
    · next same =>
        cases written
        exact same
    · cases written
  exact .head (.outside outside) (.single (.call _))

theorem sample_resolved_once :
    (∃ call row evaluation first, FirstResolution .ascii sampleOpened (perform .ascii sampleOpened sampleGrant).2
      sampleApproval call row evaluation first) ∧
    ((perform .ascii sampleOpened sampleGrant).2.approvals.get? sampleApproval).map (·.status) =
      some .granted := by
  have granted : ((perform .ascii sampleOpened sampleGrant).2.approvals.get? sampleApproval).map (·.status) =
      some .granted := by decide +kernel
  have pending : (sampleOpened.approvals.get? sampleApproval).map (·.status) = some .pending := by decide +kernel
  refine ⟨approval_resolved_once sample_reached (.call sampleGrant) ?_ ?_, granted⟩
  · rintro ⟨row, found, closed⟩
    rw [found, Option.map_some, Option.some.injEq] at pending
    exact closed pending
  · obtain ⟨row, found, status⟩ := Option.map_eq_some_iff.mp granted
    exact ⟨row, found, by rw [status]; decide⟩

end Samples

end KernelJson.Approvals.FirstWins
