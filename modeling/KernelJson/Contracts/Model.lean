import KernelJson.Contracts.PolicyGate

/-!
# Model requests

The request that is handed to a model provider.
-/

namespace KernelJson.Contracts.Model

open Contracts.Common
open Contracts.PolicyGate
open Foundation
open Foundation.JsText

inductive MessageRole where
  | system
  | user
  | assistant
deriving DecidableEq

def MessageRole.text : MessageRole → JsString
  | .system => js "system"
  | .user => js "user"
  | .assistant => js "assistant"

structure Message where
  role : MessageRole
  content : JsString
deriving DecidableEq

structure ModelRequest where
  callId : Id
  taskId : Id
  stepId : Id
  trace : TraceRef
  messages : List Message
  maxOutputTokens : Nat

def totalLength (messages : List Message) : Nat :=
  (messages.map fun message => message.content.length).sum

/-- `ModelRequest.parse`. -/
def ModelRequest.parse (request : ModelRequest) : Option ModelRequest := do
  let trace ← request.trace.parse
  if 1 ≤ request.messages.length ∧ request.messages.length ≤ 64 ∧
      (∀ message ∈ request.messages, 1 ≤ message.content.length ∧ message.content.length ≤ 128000) ∧
      1 ≤ request.maxOutputTokens ∧ request.maxOutputTokens ≤ 8192 ∧ totalLength request.messages ≤ 128000 then
    some { request with trace := trace }
  else none

def messageJson (message : Message) : Json :=
  .obj [(js "role", .str message.role.text), (js "content", .str message.content)]

/-- The part of a request that a model sees. -/
def assemblyJson (request : ModelRequest) : Json :=
  .obj [(js "messages", .arr (request.messages.map messageJson)), (js "maxOutputTokens", .num request.maxOutputTokens)]

end KernelJson.Contracts.Model
