import KernelJson.Contracts.Github
import KernelJson.Memory.Policy

/-!
# Faculties

A version of a faculty, and the pin that binds a step to it.
-/

namespace KernelJson.Contracts.Faculty

open Contracts.Common
open Contracts.Github
open Foundation
open Foundation.JsText
open Memory.Policy

inductive FacultyId where
  | primaryExecutive
  | architect
  | builder
  | operator
  | intelligence
  | archivist
  | guardian
  | verifier
deriving DecidableEq

def FacultyId.text : FacultyId → JsString
  | .primaryExecutive => js "primary-executive"
  | .architect => js "architect"
  | .builder => js "builder"
  | .operator => js "operator"
  | .intelligence => js "intelligence"
  | .archivist => js "archivist"
  | .guardian => js "guardian"
  | .verifier => js "verifier"

/-- The operations of a plan that a faculty may be pinned to. -/
inductive FacultyOperation where
  | runtimeAnalyse
  | runtimeReview
deriving DecidableEq

def FacultyOperation.text : FacultyOperation → JsString
  | .runtimeAnalyse => js "RUNTIME_ANALYSE"
  | .runtimeReview => js "RUNTIME_REVIEW"

inductive Provider where
  | deepseek
  | openrouter
deriving DecidableEq

def Provider.text : Provider → JsString
  | .deepseek => js "deepseek"
  | .openrouter => js "openrouter"

inductive FacultyReview where
  | independentVerifier
  | kernelReconciliation
deriving DecidableEq

def FacultyReview.text : FacultyReview → JsString
  | .independentVerifier => js "INDEPENDENT_VERIFIER"
  | .kernelReconciliation => js "KERNEL_RECONCILIATION"

def facultyPolicyVersion : JsString := js "faculty-routing/v1"

/-- The lists keep their lengths, and `maxCostUsd` is a numeral. -/
structure FacultyVersion where
  tenantId : Id
  id : FacultyId
  version : Between 1 9007199254740991
  name : BoundedText 1 1000
  purpose : BoundedText 1 1000
  responsibilities : List (BoundedText 1 1000)
  exclusions : List (BoundedText 1 1000)
  enabled : Bool
  permittedRecipes : List JsString
  permittedOperations : List FacultyOperation
  permitsModelText : Bool
  permittedMemoryClasses : List MemoryClass
  providerPreferences : List Provider
  preferredModelTraits : List (BoundedText 1 1000)
  maxInputBytes : Between 1 512000
  maxMemoryTokens : Between 0 1500
  maxOutputTokens : Between 1 8192
  maxCostUsd : Option JsString
  review : FacultyReview
  escalationRules : List (BoundedText 1 1000)
  changeRef : BoundedText 1 1000

inductive RoutingReason where
  | analyst
  | independentReviewer
deriving DecidableEq

def RoutingReason.text : RoutingReason → JsString
  | .analyst => js "repo-analysis/analyst"
  | .independentReviewer => js "repo-analysis/independent-reviewer"

structure FacultyPin where
  tenantId : Id
  taskId : Id
  stepId : Id
  operation : FacultyOperation
  faculty : FacultyVersion
  facultyDigest : Sha256Text
  routingReason : RoutingReason
  provider : Provider
  model : JsString

end KernelJson.Contracts.Faculty
