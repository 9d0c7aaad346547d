import KernelJson.Contracts.Github

/-!
# Identity cognition contracts

The document of a primary identity, the part of it that one cognitive execution
may be given, and the records that bind a step to it.  Every object is strict,
and its texts are trimmed when they are read.
-/

namespace KernelJson.Contracts.Cognition

open Contracts.Common
open Contracts.Github
open Contracts.Platform
open Foundation
open Foundation.JsText

/-! ## Fields -/

/-- A trimmed text within a length. -/
def isTrimmed (most : Nat) (text : JsString) : Bool :=
  trim text == text && lengthWithin 1 most text

abbrev Trimmed (most : Nat) : Type := Matching (isTrimmed most)

/-- `z.string().trim().min(1).max(most)`. -/
def trimmed (most : Nat) : Codec (Trimmed most) where
  write := fun text => .str text.val
  read := fun json => json.asString?.bind fun text => Matching.parse (isTrimmed most) (trim text)
  read_write := by
    intro text
    have same : trim text.val = text.val :=
      beq_iff_eq.mp (Bool.and_eq_true _ _ ▸ text.property).1
    show Matching.parse (isTrimmed most) (trim text.val) = some text
    rw [same]
    exact Matching.parse_val text
  read_sortKeys := fun json => by rw [Json.asString?_sortKeys]

def idCodec : Codec Id :=
  (Codec.matching isUuid).transport (fun text => ⟨text.val, text.property⟩) (fun id => ⟨id.text, id.wellFormed⟩)
    fun _ => rfl

/-- `z.number().int().positive()`. -/
abbrev Positive : Type := Between 1 9007199254740991

def positive : Codec Positive := .between 1 9007199254740991

def digestCodec : Codec Sha256Text := .matching isSha256Text

/-! ## Documents -/

structure IdentityClassA where
  name : Trimmed 100
  constitution : Trimmed 4000
  values : { values : List (Trimmed 300) // 1 ≤ values.length ∧ values.length ≤ 20 }
  operatorRelationship : Trimmed 4000
  facultyFraming : Trimmed 4000
  memoryPolicy : Trimmed 4000

def IdentityClassA.codec : Codec IdentityClassA :=
  (FieldsCodec.cons (js "name") (trimmed 100)
    (.cons (js "constitution") (trimmed 4000)
      (.cons (js "values") ((trimmed 300).list.refine fun values => 1 ≤ values.length ∧ values.length ≤ 20)
        (.cons (js "operatorRelationship") (trimmed 4000)
          (.cons (js "facultyFraming") (trimmed 4000) (.field (js "memoryPolicy") (trimmed 4000))
            (by decide +kernel))
          (by decide +kernel))
        (by decide +kernel))
      (by decide +kernel))
    (by decide +kernel)).strict.transport
    (fun raw => ⟨raw.1, raw.2.1, raw.2.2.1, raw.2.2.2.1, raw.2.2.2.2.1, raw.2.2.2.2.2⟩)
    (fun section_ => (section_.name, section_.constitution, section_.values, section_.operatorRelationship,
      section_.facultyFraming, section_.memoryPolicy))
    fun _ => rfl

/-- The fields of class C that a projection may carry. -/
structure FramedClassC where
  persona : Trimmed 4000
  communication : Trimmed 4000
  behaviour : Trimmed 4000

def FramedClassC.fields : FieldsCodec (Trimmed 4000 × Trimmed 4000 × Trimmed 4000) :=
  .cons (js "persona") (trimmed 4000)
    (.cons (js "communication") (trimmed 4000) (.field (js "behaviour") (trimmed 4000)) (by decide +kernel))
    (by decide +kernel)

/-- `IdentityClassC.omit({ presentation: true })`. -/
def FramedClassC.codec : Codec FramedClassC :=
  FramedClassC.fields.strict.transport (fun raw => ⟨raw.1, raw.2.1, raw.2.2⟩)
    (fun section_ => (section_.persona, section_.communication, section_.behaviour)) fun _ => rfl

structure IdentityClassC where
  framed : FramedClassC
  presentation : Trimmed 4000

def IdentityClassC.codec : Codec IdentityClassC :=
  (FramedClassC.fields.and (.field (js "presentation") (trimmed 4000)) (by decide +kernel)).strict.transport
    (fun raw => ⟨⟨raw.1.1, raw.1.2.1, raw.1.2.2⟩, raw.2⟩)
    (fun section_ => ((section_.framed.persona, section_.framed.communication, section_.framed.behaviour),
      section_.presentation))
    fun _ => rfl

structure IdentityClassD where
  objectives : { objectives : List (Trimmed 300) // objectives.length ≤ 20 }
  vision : Trimmed 4000

def IdentityClassD.codec : Codec IdentityClassD :=
  (FieldsCodec.cons (js "objectives") ((trimmed 300).list.refine fun objectives => objectives.length ≤ 20)
    (.field (js "vision") (trimmed 4000)) (by decide +kernel)).strict.transport
    (fun raw => ⟨raw.1, raw.2⟩) (fun section_ => (section_.objectives, section_.vision)) fun _ => rfl

structure IdentitySections where
  classA : IdentityClassA
  classC : IdentityClassC
  classD : IdentityClassD

def IdentitySections.codec : Codec IdentitySections :=
  (FieldsCodec.cons (js "classA") IdentityClassA.codec
    (.cons (js "classC") IdentityClassC.codec (.field (js "classD") IdentityClassD.codec) (by decide +kernel))
    (by decide +kernel)).strict.transport
    (fun raw => ⟨raw.1, raw.2.1, raw.2.2⟩) (fun sections => (sections.classA, sections.classC, sections.classD))
    fun _ => rfl

structure IdentityDocument where
  id : Id
  tenantId : Id
  sections : IdentitySections
  version : Positive

def IdentityDocument.codec : Codec IdentityDocument :=
  (FieldsCodec.cons (js "id") idCodec
    (.cons (js "tenantId") idCodec
      (.cons (js "sections") IdentitySections.codec (.field (js "version") positive) (by decide +kernel))
      (by decide +kernel))
    (by decide +kernel)).strict.transport
    (fun raw => ⟨raw.1, raw.2.1, raw.2.2.1, raw.2.2.2⟩)
    (fun document => (document.id, document.tenantId, document.sections, document.version))
    fun _ => rfl

/-! ## Projections -/

def identityCoreContractV1 : JsString := js "kerneljson:identity-core/v1"

def identityProjectionSchemaV1 : JsString := js "kerneljson:identity-projection/v1"

def analystIntelligenceV1 : JsString := js "ANALYST_INTELLIGENCE_V1"

def identityProjectionMaxBytes : Nat := 16384

structure ProjectedIdentity where
  id : Id
  version : Positive
  identityCoreDigest : Sha256Text

def ProjectedIdentity.codec : Codec ProjectedIdentity :=
  (FieldsCodec.cons (js "id") idCodec
    (.cons (js "version") positive
      (.cons (js "identityCoreDigest") digestCodec (.field (js "digestContract") (.literal identityCoreContractV1))
        (by decide +kernel))
      (by decide +kernel))
    (by decide +kernel)).strict.transport
    (fun raw => ⟨raw.1, raw.2.1, raw.2.2.1⟩)
    (fun identity => (identity.id, identity.version, identity.identityCoreDigest, ()))
    fun _ => rfl

structure ProjectedSections where
  classA : IdentityClassA
  classC : FramedClassC

def ProjectedSections.codec : Codec ProjectedSections :=
  (FieldsCodec.cons (js "classA") IdentityClassA.codec (.field (js "classC") FramedClassC.codec)
    (by decide +kernel)).strict.transport
    (fun raw => ⟨raw.1, raw.2⟩) (fun sections => (sections.classA, sections.classC)) fun _ => rfl

structure IdentityProjection where
  identity : ProjectedIdentity
  sections : ProjectedSections

def IdentityProjection.codec : Codec IdentityProjection :=
  (FieldsCodec.cons (js "schema") (.literal identityProjectionSchemaV1)
    (.cons (js "profile") (.literal analystIntelligenceV1)
      (.cons (js "identity") ProjectedIdentity.codec (.field (js "sections") ProjectedSections.codec)
        (by decide +kernel))
      (by decide +kernel))
    (by decide +kernel)).strict.transport
    (fun raw => ⟨raw.2.2.1, raw.2.2.2⟩) (fun projection => ((), (), projection.identity, projection.sections))
    fun _ => rfl

/-! ## Pins and latches -/

/-- The version that a pin names, and its digests. -/
structure PinnedVersion where
  identityId : Id
  identityVersionId : Id
  identityVersion : Positive
  identityCoreDigest : Sha256Text
  classADigest : Sha256Text

/-- The durable pin of a step to one version; its contract, schema, profile and mode are fixed. -/
structure IdentityCognitionPin where
  tenantId : Id
  taskId : Id
  stepId : Id
  version : PinnedVersion
  projection : IdentityProjection
  projectionBytes : Between 1 16384
  projectionDigest : Sha256Text
  facultyVersion : Positive
  facultyDigest : Sha256Text

namespace IdentityCognitionPin

def stepFields : FieldsCodec (Id × Id × Id) :=
  .cons (js "tenantId") idCodec
    (.cons (js "taskId") idCodec (.field (js "stepId") idCodec) (by decide +kernel)) (by decide +kernel)

def versionFields : FieldsCodec (Id × Id × Positive × Sha256Text × Sha256Text) :=
  .cons (js "identityId") idCodec
    (.cons (js "identityVersionId") idCodec
      (.cons (js "identityVersion") positive
        (.cons (js "identityCoreDigest") digestCodec (.field (js "classADigest") digestCodec) (by decide +kernel))
        (by decide +kernel))
      (by decide +kernel))
    (by decide +kernel)

def projectionFields :
    FieldsCodec (Unit × Unit × Unit × IdentityProjection × Between 1 16384 × Sha256Text) :=
  .cons (js "digestContract") (.literal identityCoreContractV1)
    (.cons (js "projectionSchema") (.literal identityProjectionSchemaV1)
      (.cons (js "projectionProfile") (.literal analystIntelligenceV1)
        (.cons (js "projection") IdentityProjection.codec
          (.cons (js "projectionBytes") (.between 1 16384) (.field (js "projectionDigest") digestCodec) (by decide +kernel))
          (by decide +kernel))
        (by decide +kernel))
      (by decide +kernel))
    (by decide +kernel)

def facultyFields : FieldsCodec (Unit × Positive × Sha256Text × Unit) :=
  .cons (js "facultyId") (.literal (js "intelligence"))
    (.cons (js "facultyVersion") positive
      (.cons (js "facultyDigest") digestCodec (.field (js "mode") (.literal (js "REQUIRED"))) (by decide +kernel))
      (by decide +kernel))
    (by decide +kernel)

def codec : Codec IdentityCognitionPin :=
  (stepFields.and (versionFields.and (projectionFields.and facultyFields (by decide +kernel)) (by decide +kernel))
    (by decide +kernel)).strict.transport
    (fun raw => ⟨raw.1.1, raw.1.2.1, raw.1.2.2,
      ⟨raw.2.1.1, raw.2.1.2.1, raw.2.1.2.2.1, raw.2.1.2.2.2.1, raw.2.1.2.2.2.2⟩, raw.2.2.1.2.2.2.1,
      raw.2.2.1.2.2.2.2.1, raw.2.2.1.2.2.2.2.2, raw.2.2.2.2.1, raw.2.2.2.2.2.1⟩)
    (fun pin => ((pin.tenantId, pin.taskId, pin.stepId),
      (pin.version.identityId, pin.version.identityVersionId, pin.version.identityVersion,
        pin.version.identityCoreDigest, pin.version.classADigest),
      ((), (), (), pin.projection, pin.projectionBytes, pin.projectionDigest),
      ((), pin.facultyVersion, pin.facultyDigest, ())))
    fun _ => rfl

end IdentityCognitionPin

inductive IdentityCognitionMode where
  | none
  | required
deriving DecidableEq

def IdentityCognitionMode.text : IdentityCognitionMode → JsString
  | .none => js "NONE"
  | .required => js "REQUIRED"

def IdentityCognitionMode.codec : Codec IdentityCognitionMode :=
  .enum IdentityCognitionMode.text [.none, .required] (fun mode => by cases mode <;> decide) (by decide +kernel)

structure IdentityCognitionLatch where
  tenantId : Id
  taskId : Id
  stepId : Id
  mode : IdentityCognitionMode
  releaseEpoch : Positive

def IdentityCognitionLatch.codec : Codec IdentityCognitionLatch :=
  (FieldsCodec.cons (js "tenantId") idCodec
    (.cons (js "taskId") idCodec
      (.cons (js "stepId") idCodec
        (.cons (js "mode") IdentityCognitionMode.codec (.field (js "releaseEpoch") positive) (by decide +kernel))
        (by decide +kernel))
      (by decide +kernel))
    (by decide +kernel)).strict.transport
    (fun raw => ⟨raw.1, raw.2.1, raw.2.2.1, raw.2.2.2.1, raw.2.2.2.2⟩)
    (fun latch => (latch.tenantId, latch.taskId, latch.stepId, latch.mode, latch.releaseEpoch))
    fun _ => rfl

/-! ## States -/

structure LegacyState where
  taskId : Id
  stepId : Id
  releaseEpoch : Option Count

structure ContractState where
  contractStartEpoch : Positive
  latch : IdentityCognitionLatch
  pin : Option IdentityCognitionPin

/-- What the latch of a step returns, and what is journaled of it. -/
inductive IdentityCognitionState where
  | legacy (state : LegacyState)
  | contract (state : ContractState)

def LegacyState.fields : FieldsCodec (Id × Id × Option Count) :=
  .cons (js "taskId") idCodec
    (.cons (js "stepId") idCodec
      (.field (js "releaseEpoch") (.nullable (.between 0 9007199254740991) fun _ => Json.noConfusion))
      (by decide +kernel))
    (by decide +kernel)

theorem LegacyState.kind_fresh : js "kind" ∉ LegacyState.fields.names := by
  decide +kernel

def LegacyState.codec : Codec LegacyState :=
  (FieldsCodec.cons (js "kind") (.literal (js "LEGACY")) LegacyState.fields LegacyState.kind_fresh).strict.transport
    (fun raw => ⟨raw.2.1, raw.2.2.1, raw.2.2.2⟩) (fun state => ((), state.taskId, state.stepId, state.releaseEpoch))
    fun _ => rfl

def ContractState.codec : Codec ContractState :=
  (FieldsCodec.cons (js "kind") (.literal (js "CONTRACT"))
    (.cons (js "contractStartEpoch") positive
      (.cons (js "latch") IdentityCognitionLatch.codec
        (.field (js "pin") (.nullable IdentityCognitionPin.codec fun _ => Json.noConfusion))
        (by decide +kernel))
      (by decide +kernel))
    (by decide +kernel)).strict.transport
    (fun raw => ⟨raw.2.1, raw.2.2.1, raw.2.2.2⟩)
    (fun state => ((), state.contractStartEpoch, state.latch, state.pin))
    fun _ => rfl

/-- An object is not read under a literal that it does not carry. -/
theorem read_of_other_literal {β : Type} {name text : JsString} {rest : FieldsCodec β} {fresh : name ∉ rest.names}
    {json : Json} (other : (json.field? name).bind Json.asString? ≠ some text) :
    (FieldsCodec.cons name (.literal text) rest fresh).strict.read json = none := by
  have unread : (json.field? name).bind (Codec.literal text).read = none := by
    cases found : json.field? name with
    | none => rfl
    | some value =>
        rw [found] at other
        exact if_neg other
  show (if _ then (((json.field? name).bind (Codec.literal text).read).bind _) else none) = none
  rw [unread]
  exact ite_self none

theorem legacy_of_contract (state : ContractState) :
    LegacyState.codec.read (ContractState.codec.write state) = none := by
  have kind : ((ContractState.codec.write state).field? (js "kind")).bind Json.asString? = some (js "CONTRACT") := rfl
  have other : (js "CONTRACT") ≠ js "LEGACY" := by decide +kernel
  have unread := @read_of_other_literal _ (js "kind") (js "LEGACY") LegacyState.fields LegacyState.kind_fresh
    (ContractState.codec.write state) fun same => other (Option.some.inj (kind.symm.trans same))
  unfold LegacyState.codec Codec.transport
  dsimp only
  rw [unread]
  rfl

namespace IdentityCognitionState

def write : IdentityCognitionState → Json
  | .legacy state => LegacyState.codec.write state
  | .contract state => ContractState.codec.write state

/-- The union is told apart by its kind, which the literals of both sides check. -/
def read (json : Json) : Option IdentityCognitionState :=
  (LegacyState.codec.read json).map .legacy <|> (ContractState.codec.read json).map .contract

theorem read_write (state : IdentityCognitionState) : read state.write = some state := by
  cases state with
  | legacy state =>
      have reads := LegacyState.codec.read_write state
      simp only [read, write, reads, Option.map_some]
      rfl
  | contract state =>
      have reads := ContractState.codec.read_write state
      simp only [read, write, reads, legacy_of_contract, Option.map_some, Option.map_none]
      rfl

theorem read_of_same {state : IdentityCognitionState} {stored : Json} (same : stored.SameUpToKeyOrder state.write) :
    read stored = some state := by
  have sorted : ∀ json, read (Json.sortKeys json) = read json := by
    intro json
    rw [read, LegacyState.codec.read_sortKeys, ContractState.codec.read_sortKeys]
    rfl
  rw [← sorted stored, same, sorted, read_write]

end IdentityCognitionState

end KernelJson.Contracts.Cognition
