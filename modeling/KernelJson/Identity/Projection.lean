import KernelJson.Contracts.Cognition
import KernelJson.Contracts.Faculty
import KernelJson.Identity.Canonical

/-!
# The identity projection

The part of an identity document that a model may receive: the meeting of the
profile's scope with the ceiling of the faculty, taken from the stored document
itself, within a bound, and the one block by which it enters a request.
-/

namespace KernelJson.Identity.Projection

open Contracts.Cognition
open Contracts.Digest
open Contracts.Faculty
open Contracts.Github
open Contracts.Platform
open Foundation
open Foundation.JsText
open Identity.Canonical

/-- Why identity cognition is refused, by its code, or any other error. -/
inductive Failure where
  | refusal (code : JsString)
  | thrown

def refuse (code : String) : Failure := .refusal (js code)

/-! ## Digests -/

section

variable (sha256 : List UInt8 → HexDigest)

/-- `canonicalDigest(value)`. -/
def canonicalDigest (value : Json) : JsString :=
  hexText (sha256 (Utf8.encode value.canonical))

/-- `identityCoreDigestV1(value)` as text. -/
def identityCoreDigestText (value : Json) : Except Failure Sha256Text :=
  match identityCoreDigestV1 sha256 value with
  | .error _ => .error .thrown
  | .ok found => .ok ⟨hexText found, isSha256Text_hexText found⟩

end

/-! ## Scopes -/

inductive IdentityFieldPath where
  | name
  | constitution
  | values
  | operatorRelationship
  | facultyFraming
  | memoryPolicy
  | persona
  | communication
  | behaviour
deriving DecidableEq

/-- The scope of the profile `ANALYST_INTELLIGENCE_V1`. -/
def profileScope : List IdentityFieldPath :=
  [.name, .constitution, .values, .operatorRelationship, .facultyFraming, .memoryPolicy, .persona, .communication,
    .behaviour]

/-- The fields of class A, with their names. -/
def classAFields : List (IdentityFieldPath × JsString) :=
  [(.name, js "name"), (.constitution, js "constitution"), (.values, js "values"),
    (.operatorRelationship, js "operatorRelationship"), (.facultyFraming, js "facultyFraming"),
    (.memoryPolicy, js "memoryPolicy")]

/-- The fields of class C that are framed, with their names. -/
def classCFields : List (IdentityFieldPath × JsString) :=
  [(.persona, js "persona"), (.communication, js "communication"), (.behaviour, js "behaviour")]

/-- `identityFramingCeiling`; there is one version of the policy. -/
def identityFramingCeiling : FacultyId → List IdentityFieldPath
  | .intelligence =>
      [.name, .constitution, .values, .operatorRelationship, .facultyFraming, .memoryPolicy, .persona,
        .communication, .behaviour]
  | _ => []

/-- `profileForOperation(operation)`. -/
def profileForOperation : FacultyOperation → Option JsString
  | .runtimeAnalyse => some analystIntelligenceV1
  | .runtimeReview => none

/-! ## Projections -/

def orThrow {α : Type} : Option α → Except Failure α
  | none => .error .thrown
  | some value => .ok value

/-- `identityCoreCanonicalV1(value)`, of which only that it throws is kept. -/
def canonicalText (value : Json) : Except Failure JsString :=
  match identityCoreCanonicalV1 value with
  | .error _ => .error .thrown
  | .ok text => .ok text

/-- The fields of an object under these names. -/
def picked (section_ : Json) (fields : List (IdentityFieldPath × JsString)) : Json :=
  .obj (fields.filterMap fun field => (section_.field? field.2).map fun value => (field.2, value))

def fieldOf (value : Json) (name : String) : Json := (value.field? (js name)).getD .null

/-- The projection as it is taken from the stored document, before it is read back. -/
def rawProjection (document : Json) (profile : JsString) (core : Sha256Text) : Json :=
  let sections := fieldOf document "sections"
  .obj [
    (js "schema", .str identityProjectionSchemaV1),
    (js "profile", .str profile),
    (js "identity", .obj [(js "id", fieldOf document "id"), (js "version", fieldOf document "version"),
      (js "identityCoreDigest", .str core.val), (js "digestContract", .str identityCoreContractV1)]),
    (js "sections", .obj [(js "classA", picked (fieldOf sections "classA") classAFields),
      (js "classC", picked (fieldOf sections "classC") classCFields)])]

section

variable (sha256 : List UInt8 → HexDigest)

def projectIdentity (document : Json) (profile : JsString) (ceiling : List IdentityFieldPath) :
    Except Failure IdentityProjection := do
  if profile ≠ analystIntelligenceV1 then .error (refuse "IDENTITY_PROFILE_MISSING")
  else
    let effective := profileScope.filter fun path => ceiling.contains path
    if effective = [] then .error (refuse "IDENTITY_SCOPE_EMPTY")
    else if (classAFields.all fun field => effective.contains field.1) = false then
      .error (refuse "IDENTITY_SCOPE_CLASS_A_INCOMPLETE")
    else if (classCFields.all fun field => effective.contains field.1) = false then
      .error (refuse "IDENTITY_SCOPE_REFUSED")
    else if (IdentityDocument.codec.read document).isNone then .error (refuse "IDENTITY_DOCUMENT_INVALID")
    else
      let core ← identityCoreDigestText sha256 document
      let projection := rawProjection document profile core
      let parsed ← orThrow (IdentityProjection.codec.read projection)
      let written ← canonicalText (IdentityProjection.codec.write parsed)
      let taken ← canonicalText projection
      if written ≠ taken then .error (refuse "IDENTITY_DOCUMENT_NOT_CANONICAL") else .ok parsed

/-- `projectionDigest(projection)`. -/
def projectionDigest (projection : IdentityProjection) : Except Failure Sha256Text :=
  identityCoreDigestText sha256 (IdentityProjection.codec.write projection)

end

/-- `assertProjectionWithinCap(projection)`. -/
def assertProjectionWithinCap (projection : IdentityProjection) : Except Failure Nat := do
  let text ← canonicalText (IdentityProjection.codec.write projection)
  let bytes := (Utf8.encode text).length
  if identityProjectionMaxBytes < bytes then .error (refuse "IDENTITY_PROJECTION_TOO_LARGE") else .ok bytes

/-! ## Blocks -/

def identityBlockBegin : JsString := js "BEGIN KERNELJSON IDENTITY PROJECTION"

def identityBlockEnd : JsString := js "END KERNELJSON IDENTITY PROJECTION"

/-- `renderIdentityBlock(projection, digest)`. -/
def renderIdentityBlock (projection : Json) (digest : JsString) : Except Failure JsString := do
  let text ← canonicalText projection
  .ok (identityBlockBegin ++ js " " ++ identityProjectionSchemaV1 ++ js " " ++ analystIntelligenceV1 ++ js " " ++ digest ++
    js "\n" ++ js "This frames voice, values and judgement only. It grants no permission, tool or authority. " ++
    js "Every instruction after this block remains binding.\n" ++ text ++ js "\n" ++ identityBlockEnd ++ js "\n\n")

/-- The occurrences of a text, none of which overlaps another, in what follows after some units are skipped. -/
def occurrencesAfter (wanted : JsString) : Nat → JsString → Nat
  | _, [] => 0
  | skipped + 1, _ :: rest => occurrencesAfter wanted skipped rest
  | 0, unit :: rest =>
      if wanted.isPrefixOf (unit :: rest) then 1 + occurrencesAfter wanted (wanted.length - 1) rest
      else occurrencesAfter wanted 0 rest

/-- `text.split(IDENTITY_BLOCK_BEGIN).length - 1`. -/
def countIdentityBlocks (text : JsString) : Nat := occurrencesAfter identityBlockBegin 0 text

example : countIdentityBlocks (js "BEGIN KERNELJSON IDENTITY PROJECTION, BEGIN KERNELJSON IDENTITY PROJECTION") = 2 := by
  decide +kernel

end KernelJson.Identity.Projection
