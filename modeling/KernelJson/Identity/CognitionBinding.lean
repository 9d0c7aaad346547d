import KernelJson.Contracts.Model
import KernelJson.Identity.Projection
import KernelJson.Identity.Twins

/-!
# The identity cognition port

What `PgIdentityCognition` computes from the rows that its queries find: the
canonical read of a step's latch and pin, the pin that is built for a new latch,
and the authorisation of a request right before the provider is called.
-/

namespace KernelJson.Identity.CognitionBinding

open Contracts.Cognition
open Contracts.Common
open Contracts.Digest
open Contracts.Faculty
open Contracts.Github
open Contracts.Model
open Contracts.Platform
open Foundation
open Foundation.JsText
open Identity.Projection
open Identity.Twins

/-! ## Rows -/

/-- A row of `execution_bindings`. -/
structure BindingRow where
  tenantId : Id
  releaseEpoch : Nat

/-- A row of `identity_cognition_latches`. -/
structure LatchRow where
  tenantId : Id
  taskId : Id
  stepId : Id
  mode : IdentityCognitionMode
  releaseEpoch : Nat

/-- A row of `identity_pins`. -/
structure PinRow where
  tenantId : Id
  taskId : Id
  stepId : Id
  identityId : Id
  identityVersion : Int
  pin : Json

/-- A row of `identity_versions`. -/
structure VersionRow where
  id : Id
  identityId : Id
  tenantId : Id
  version : Int
  document : Json
  identityCoreDigest : JsString
  classADigest : JsString

/-- What `identity_cognition_source_v1` finds; a digest of nothing is null. -/
structure SourceRow where
  id : Id
  version : Int
  document : Json
  identityCoreDigest : JsString
  classADigest : JsString
  coreDigestV1 : JsString
  classADigestV1 : Option JsString

/-- The row of `faculty_pins` of a step, with the digest of its pin. -/
structure FacultyPinRow where
  tenantId : Id
  facultyId : JsString
  facultyVersion : Int
  facultyDigest : JsString

/-! ## The canonical read -/

inductive CanonicalRead where
  | legacy (state : LegacyState) (latched : Bool)
  | contract (contractStartEpoch : Nat) (latch : Option LatchRow) (pin : Option IdentityCognitionPin)

def between? (least greatest number : Int) : Option (Between least greatest) :=
  if within : least ≤ number ∧ number ≤ greatest then some ⟨number, within⟩ else none

/-- A step: the task, and the step of its plan. -/
structure StepKey where
  taskId : Id
  stepId : Id

section

variable (sha256 : List UInt8 → HexDigest)

/-- The pin that a row carries, in the form in which it was written. -/
def readPin (tenantId : Id) (row : PinRow) : Except Failure IdentityCognitionPin := do
  let pin ← orThrow (IdentityCognitionPin.codec.read row.pin)
  if canonicalDigest sha256 (IdentityCognitionPin.codec.write pin) ≠ canonicalDigest sha256 row.pin ∨
      row.tenantId ≠ tenantId then .error (refuse "IDENTITY_PIN_CORRUPT")
  else .ok pin

def readPinRow (tenantId : Id) : Option PinRow → Except Failure (Option IdentityCognitionPin)
  | none => .ok none
  | some row => (readPin sha256 tenantId row).map some

/-- `read(db, tenantId, taskId, stepId)`, from what its queries find. -/
def read (tenantId : Id) (key : StepKey) (binding : Option BindingRow) (marker : Option Nat)
    (latch : Option LatchRow) (pin : Option PinRow) : Except Failure CanonicalRead := do
  if binding.any (fun row => row.tenantId ≠ tenantId) = true then .error (refuse "IDENTITY_TENANT_REFUSED")
  else match binding, marker with
    | some row, some start =>
        if row.releaseEpoch < start then
          let epoch ← orThrow (between? 0 9007199254740991 row.releaseEpoch)
          .ok (.legacy ⟨key.taskId, key.stepId, some epoch⟩ (latch.isSome || pin.isSome))
        else
          let pin ← readPinRow sha256 tenantId pin
          .ok (.contract start latch pin)
    | some row, none =>
        let epoch ← orThrow (between? 0 9007199254740991 row.releaseEpoch)
        .ok (.legacy ⟨key.taskId, key.stepId, some epoch⟩ (latch.isSome || pin.isSome))
    | none, _ => .ok (.legacy ⟨key.taskId, key.stepId, none⟩ (latch.isSome || pin.isSome))

end

/-- `IdentityCognitionLatch` of a row. -/
def latchOf (row : LatchRow) : Option IdentityCognitionLatch := do
  let epoch ← between? 1 9007199254740991 row.releaseEpoch
  some ⟨row.tenantId, row.taskId, row.stepId, row.mode, epoch⟩

/-- `contractState(read)`, of a read that found a latch. -/
def contractState (start : Nat) (latch : LatchRow) (pin : Option IdentityCognitionPin) : Except Failure ContractState := do
  let start ← orThrow (between? 1 9007199254740991 start)
  let latch ← orThrow (latchOf latch)
  .ok ⟨start, latch, pin⟩

/-! ## Sources -/

section

variable (sha256 : List UInt8 → HexDigest)

/-- `kernel_private.identity_core_digest_v1(doc)`; a value that is no document of the database cannot be asked. -/
def sqlDigest (document : Json) : Except Failure JsString :=
  match image document with
  | none => .error .thrown
  | some stored => match identityCoreDigestSql sha256 stored with
    | .error _ => .error .thrown
    | .ok digest => .ok (hexText digest)

/-- `document->'sections'->'classA'`. -/
def classAOf (document : Json) : Option Json :=
  (document.field? (js "sections")).bind fun sections => sections.field? (js "classA")

def sqlClassADigest (document : Json) : Except Failure (Option JsString) :=
  match classAOf document with
  | none => .ok none
  | some classA => (sqlDigest sha256 classA).map some

/-- `source(db, tenantId, identityId, version)`. -/
def source (versions : List VersionRow) (tenantId identityId : Id) (version : Int) :
    Except Failure (Option SourceRow) :=
  match versions.find? fun row => row.tenantId = tenantId.column ∧ row.identityId = identityId.column ∧
      row.version = version with
  | none => .ok none
  | some row => do
      let core ← sqlDigest sha256 row.document
      let classA ← sqlClassADigest sha256 row.document
      .ok (some ⟨row.id, row.version, row.document, row.identityCoreDigest, row.classADigest, core, classA⟩)

/-- `assertParity(src, expected)`. -/
def assertParity (src : SourceRow) (expected : Option (Sha256Text × Sha256Text)) : Except Failure Unit := do
  let core ← identityCoreDigestText sha256 src.document
  let section_ ← orThrow (classAOf src.document)
  let classA ← identityCoreDigestText sha256 section_
  if src.identityCoreDigest = src.coreDigestV1 ∧ src.coreDigestV1 = core.val ∧
      some src.classADigest = src.classADigestV1 ∧ src.classADigestV1 = some classA.val ∧
      (∀ digests ∈ expected, digests.1 = core ∧ digests.2 = classA) then .ok ()
  else .error (refuse "IDENTITY_DIGEST_MISMATCH")

/-- The step of a latch request, the tenant that asks, and the pin of the step's faculty. -/
structure LatchInput where
  tenantId : Id
  key : StepKey
  facultyPin : Option FacultyPin

/-- `buildPin(db, input, facultyPin)`, from the version that it finds. -/
def buildPin (input : LatchInput) (facultyPin : FacultyPin) (identityId : Id) (src : Option SourceRow) :
    Except Failure IdentityCognitionPin := do
  match src with
  | none => .error (refuse "IDENTITY_VERSION_UNAVAILABLE")
  | some src =>
      assertParity sha256 src none
      match profileForOperation facultyPin.operation with
      | none => .error (refuse "IDENTITY_PROFILE_MISSING")
      | some profile =>
          let projection ← projectIdentity sha256 src.document profile (identityFramingCeiling facultyPin.faculty.id)
          let bytes ← assertProjectionWithinCap projection
          let digest ← projectionDigest sha256 projection
          let version ← orThrow (between? 1 9007199254740991 src.version)
          let core ← orThrow (Matching.parse isSha256Text src.coreDigestV1)
          let classA ← orThrow (src.classADigestV1.bind (Matching.parse isSha256Text))
          let bytes ← orThrow (between? 1 16384 bytes)
          if facultyPin.faculty.id ≠ .intelligence then .error .thrown
          else .ok ⟨input.tenantId, input.key.taskId, input.key.stepId, ⟨identityId, src.id, version, core, classA⟩,
            projection, bytes, digest, facultyPin.faculty.version, facultyPin.facultyDigest⟩

end

/-! ## The latch -/

/-- What `latch` does once it has read the step under its lock. -/
inductive Decision where
  | answers (state : IdentityCognitionState)
  | fails (failure : Failure)
  | proceeds (facultyPin : FacultyPin)

/-- The pin is that of the step's intelligence faculty. -/
def PinsStep (input : LatchInput) (facultyPin : FacultyPin) : Prop :=
  facultyPin.tenantId = input.tenantId ∧ facultyPin.taskId = input.key.taskId ∧
    facultyPin.stepId = input.key.stepId ∧ facultyPin.operation = .runtimeAnalyse ∧
    facultyPin.faculty.id = .intelligence

instance (input : LatchInput) (facultyPin : FacultyPin) : Decidable (PinsStep input facultyPin) :=
  inferInstanceAs (Decidable (_ ∧ _))

def decideLatch (input : LatchInput) : Except Failure CanonicalRead → Decision
  | .error failure => .fails failure
  | .ok (.legacy _ true) => .fails (refuse "IDENTITY_LEGACY_TASK_LATCHED")
  | .ok (.legacy state false) => .answers (.legacy state)
  | .ok (.contract start (some latch) pin) =>
      match contractState start latch pin with
      | .error failure => .fails failure
      | .ok state => .answers (.contract state)
  | .ok (.contract _ none _) =>
      match input.facultyPin with
      | none => .fails (refuse "IDENTITY_FACULTY_PIN_REQUIRED")
      | some facultyPin =>
          if PinsStep input facultyPin then .proceeds facultyPin
          else .fails (refuse "IDENTITY_FACULTY_PIN_REFUSED")

/-- What `latch` answers from the row that it reads again after the commit. -/
def persistedState : Except Failure CanonicalRead → Except Failure ContractState
  | .error failure => .error failure
  | .ok (.contract start (some latch) pin) => contractState start latch pin
  | .ok _ => .error (refuse "IDENTITY_LATCH_NOT_PERSISTED")

/-! ## Authorisation -/

/-- The state that the database holds, for a read that may authorise. -/
def canonicalState : CanonicalRead → Except Failure IdentityCognitionState
  | .legacy _ true => .error (refuse "IDENTITY_LEGACY_TASK_LATCHED")
  | .legacy state false => .ok (.legacy state)
  | .contract _ none _ => .error (refuse "IDENTITY_LATCH_MISSING")
  | .contract start (some latch) pin => (contractState start latch pin).map .contract

/-- The projection of the pin that was journaled. -/
def journaledProjection (state : Json) : Json := fieldOf (fieldOf state "pin") "projection"

/-- The content of the message that may carry identity. -/
def systemContent (request : ModelRequest) : JsString :=
  (request.messages.head?.map Message.content).getD []

/-- `text.includes(part)`. -/
def includes (text part : JsString) : Bool := text.tails.any fun rest => part.isPrefixOf rest

section

variable (sha256 : List UInt8 → HexDigest)

/-- `assemblyDigestOf(request)`. -/
def assemblyDigestOf (request : ModelRequest) : JsString := canonicalDigest sha256 (assemblyJson request)

/-- The journaled state agrees with the database. -/
def agreedState (state : Json) (found : CanonicalRead) : Except Failure IdentityCognitionState := do
  let db ← canonicalState found
  let journaled ← orThrow (IdentityCognitionState.read state)
  if canonicalDigest sha256 db.write ≠ canonicalDigest sha256 journaled.write then
    .error (refuse "IDENTITY_JOURNAL_DB_MISMATCH")
  else .ok journaled

/-- The pinned version still projects to what was pinned. -/
def authorizePinned (state : Json) (pin : IdentityCognitionPin) (facultyPin : Option FacultyPin)
    (request : ModelRequest) (src : Except Failure (Option SourceRow)) : Except Failure Unit := do
  let projection := journaledProjection state
  if countIdentityBlocks (systemContent request) ≠ 1 then .error (refuse "IDENTITY_BLOCK_MISMATCH")
  else
    let block ← renderIdentityBlock projection pin.projectionDigest.val
    if includes (systemContent request) block = false then .error (refuse "IDENTITY_BLOCK_MISMATCH")
    else match facultyPin with
      | none => .error (refuse "IDENTITY_PIN_FACULTY_MISMATCH")
      | some facultyPin =>
          if facultyPin.faculty.id ≠ .intelligence ∨ facultyPin.faculty.version ≠ pin.facultyVersion ∨
              facultyPin.facultyDigest ≠ pin.facultyDigest then .error (refuse "IDENTITY_PIN_FACULTY_MISMATCH")
          else match ← src with
            | none => .error (refuse "IDENTITY_PINNED_VERSION_UNAVAILABLE")
            | some src =>
                if src.id ≠ pin.version.identityVersionId then
                  .error (refuse "IDENTITY_PINNED_VERSION_UNAVAILABLE")
                else
                  assertParity sha256 src (some (pin.version.identityCoreDigest, pin.version.classADigest))
                  let recomputed ← projectIdentity sha256 src.document analystIntelligenceV1
                    (identityFramingCeiling facultyPin.faculty.id)
                  let digest ← projectionDigest sha256 recomputed
                  if canonicalDigest sha256 (IdentityProjection.codec.write recomputed) ≠
                      canonicalDigest sha256 projection ∨ digest ≠ pin.projectionDigest then
                    .error (refuse "IDENTITY_PROJECTION_MISMATCH")
                  else .ok ()

/-- `authorize(state, facultyPin, request, expectedAssemblyDigest)`, from what its queries find: whether the task
runs, the canonical read, and the source of the pinned version. -/
def authorize (running : Bool) (found : Except Failure CanonicalRead)
    (src : IdentityCognitionPin → Except Failure (Option SourceRow)) (state : Json) (facultyPin : Option FacultyPin)
    (request : ModelRequest) (expected : JsString) : Except Failure Unit := do
  if assemblyDigestOf sha256 request ≠ expected then .error (refuse "IDENTITY_ASSEMBLY_MISMATCH")
  else if running = false then .error (refuse "IDENTITY_TASK_NOT_RUNNING")
  else
    let found ← found
    match ← agreedState sha256 state found with
    | .legacy _ =>
        if countIdentityBlocks (systemContent request) ≠ 0 then .error (refuse "IDENTITY_ASSEMBLY_BLOCK_COUNT")
        else .ok ()
    | .contract contract => match contract.latch.mode, contract.pin with
        | .none, none =>
            if countIdentityBlocks (systemContent request) ≠ 0 then .error (refuse "IDENTITY_ASSEMBLY_BLOCK_COUNT")
            else .ok ()
        | .none, some _ => .error (refuse "IDENTITY_ASSEMBLY_BLOCK_COUNT")
        | .required, none => .error (refuse "IDENTITY_PIN_MISSING")
        | .required, some pin => authorizePinned sha256 state pin facultyPin request (src pin)

end

end KernelJson.Identity.CognitionBinding
