import KernelJson.Foundation.DurablePrograms
import KernelJson.Mission.Evidence
import KernelJson.Planner.Plan

/-!
# Operations of the kernel workflow

What a run of the workflow asks of its surroundings: writes to the ledger, the
clock, fresh identifiers, the capability service, the model runtimes and the
operator's decision.  An exception that is not terminal makes the platform
execute the run again for ever; such a run waits for an answer that never comes.
-/

namespace KernelJson.Executor.Operations

open Contracts.Common
open Contracts.Outcome
open Contracts.Task
open Foundation
open Foundation.DurablePrograms
open Foundation.JsText
open Mission.Evidence
open Planner.Plan

/-! ## Writes to the ledger -/

inductive EventType where
  | taskCreated
  | intentResolved
  | planCompiled
  | policyChecked
  | taskReady
  | taskStarted
  | taskWaiting
  | taskResumed
  | taskVerifying
  | taskCompleted
  | taskFailed
  | taskCancelled
  | stepStarted
  | stepCompleted
  | evidenceReceived
  | approvalRequested
deriving DecidableEq

/-- One write: its idempotency key, the event, the status it moves the task to, and what it records. -/
structure Emission where
  key : JsString
  type : EventType
  status : TaskStatus
  step : Option TaskStep := none
  steps : List TaskStep := []
  evidence : Option Evidence := none
  outcome : Option Outcome := none

/-- An error that ends a run of the workflow. -/
structure TerminalError where
  message : String
  errorCode : Nat
deriving DecidableEq

/-- How a run ends. -/
abbrev Ended : Type := Except TerminalError Outcome

/-! ## Answers -/

inductive SignalAction where
  | resume
  | cancel
deriving DecidableEq

/-- The durable state of identity cognition for the analyst's step. -/
inductive CognitionState where
  | legacy
  | contract (identity : Json) (required : Bool)

/-- The digests of an assembled request. -/
structure Assembly where
  assemblyDigest : Json
  continuityDigest : Json

inductive ModelAnswer where
  | succeeded (text : JsString) (receipt : SuccessReceipt)
  | failed (receipt : FailedReceipt)
  /-- The port broke its result contract. -/
  | contractBroken

inductive NoticeStatus where
  | completed
  | failed
deriving DecidableEq

/-- The receipt of a repository read, as the fields that the workflow reads. -/
structure ReadReceipt where
  output : Json
  contentSha256 : JsString
  summary : JsString
  failures : List JsString

inductive KernelOp where
  | emit (emission : Emission)
  | now
  | uuid
  | githubRead (repo : JsString)
  | githubActivity (windowEnd : Timestamp)
  | kernelState (tenantId : Id) (since : JsString) (excludeTaskId : Id)
  | briefMemory (stepId callId : Id)
  | pinFaculty (stepId : Id)
  | latchIdentity (stepId : Id)
  | assembleMemory (stepId : Id)
  | buildRequest (role : RuntimeRole)
  | callModel (role : RuntimeRole)
  | notify (status : NoticeStatus) (at_ : Timestamp)
  | repositoryRead (stepId : Id)
  | peekDecision
  | awaitDecision
  | retryForever

/-- The answer of an operation: an error code where the workflow handles a refusal. -/
abbrev KernelAns : KernelOp → Type
  | .emit _ => Option Outcome
  | .now => Timestamp
  | .uuid => Id
  | .githubRead _ => Except (Option JsString) (Json × JsString)
  | .githubActivity _ => Except (Option JsString) (Json × JsString)
  | .kernelState _ _ _ => Except (Option JsString) Json
  | .briefMemory _ _ => Option MissionMemoryContext
  | .pinFaculty _ => Except JsString Json
  | .latchIdentity _ => Except JsString CognitionState
  | .assembleMemory _ => Json
  | .buildRequest _ => Except JsString Assembly
  | .callModel _ => ModelAnswer
  | .notify _ _ => Bool
  | .repositoryRead _ => Except TerminalError ReadReceipt
  | .peekDecision => Option SignalAction
  | .awaitDecision => SignalAction
  | .retryForever => Empty

abbrev KernelProg (α : Type) : Type := Prog KernelOp KernelAns α

/-- Continue with a value, or execute again for ever where computing it throws. -/
def orRetry {α β : Type} (value : Option α) (next : α → KernelProg β) : KernelProg β :=
  match value with
  | some value => next value
  | none => .call .retryForever Empty.elim

/-- `TaskStep.parse({ ...projectStep(node), ...patch })`. -/
def patchedStep (node : PlanStep) (status : TaskStatus) (input : Json) (output : Option Json) : Option TaskStep :=
  (projectStep node).bind fun base =>
    TaskStep.parse { base with status := status, input := input, output := output }

def stepKey (node : PlanStep) (moment : String) : JsString :=
  js "step:" ++ node.id.text ++ js ":" ++ js moment

end KernelJson.Executor.Operations
