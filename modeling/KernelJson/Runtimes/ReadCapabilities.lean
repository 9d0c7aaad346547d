import KernelJson.Contracts.Github
import KernelJson.Foundation.JsonCodec
import KernelJson.Foundation.StrictObjects
import KernelJson.Runtimes.CapabilityRegistry

/-!
# The read-only capabilities

The inputs and outputs of `conductor.brain_query` and `repository.read`, and
their definitions in the registry.  A schema reads a value and gives it back
with its fields in the schema's order.
-/

namespace KernelJson.Runtimes.ReadCapabilities

open Contracts.Github
open Contracts.Platform
open Contracts.PolicyGate
open Contracts.Task
open Foundation
open Foundation.JsText
open Runtimes.CapabilityRegistry

/-- What `safeParse` returns for a strict schema without transformations. -/
def safeParse {α : Type} (codec : Codec α) (json : Json) : Option Json :=
  (codec.read json).map codec.write

theorem safeParse_write {α : Type} (codec : Codec α) (value : α) :
    safeParse codec (codec.write value) = some (codec.write value) := by
  rw [safeParse, codec.read_write, Option.map_some]

theorem safeParse_sortKeys {α : Type} (codec : Codec α) (json : Json) :
    safeParse codec (Json.sortKeys json) = safeParse codec json := by
  rw [safeParse, safeParse, codec.read_sortKeys]

/-- `z.optional`, of a field that may be absent. -/
def readOptional {α : Type} (codec : Codec α) : Option Json → Option (Option α)
  | none => some none
  | some json => (codec.read json).map some

theorem readOptional_sortKeys {α : Type} (codec : Codec α) (found : Option Json) :
    readOptional codec (found.map Json.sortKeys) = readOptional codec found := by
  cases found with
  | none => rfl
  | some json => exact congrArg (Option.map some) (codec.read_sortKeys json)

/-! ## `conductor.brain_query` -/

def conductorBrainQueryId : JsString := js "60000000-0000-4000-8000-000000000004"

/-- `CONDUCTOR_BRAIN_QUERY`. -/
def conductorBrainQuery : CapabilityRef where
  id := ⟨conductorBrainQueryId, by rw [conductorBrainQueryId, js_ofList]; decide⟩
  version := js "1.0.0"

structure ConductorBrainQueryInput where
  query : BoundedText 1 2048
  limit : Between 1 8

def ConductorBrainQueryInput.codec : Codec ConductorBrainQueryInput :=
  (FieldsCodec.cons (js "query") (.matching (lengthWithin 1 2048))
    (.cons (js "scope") (.literal (js "projects")) (.field (js "limit") (.between 1 8)) (by decide +kernel))
    (by decide +kernel)).strict.transport
    (fun raw => ⟨raw.1, raw.2.2⟩) (fun input => (input.query, (), input.limit)) fun _ => rfl

structure DiscoveredWorkItem where
  title : BoundedText 1 512
  rationale : BoundedText 1 2048
  suggestedCapability : BoundedText 1 128
  priorityHint : BoundedText 1 16
  evidenceRefs : { refs : List JsString // refs.length ≤ 32 }

theorem asString?_str (text : JsString) : (Json.str text).asString? = some text := by
  rfl

/-- `z.string()`. -/
def anyText : Codec JsString where
  write := .str
  read := Json.asString?
  read_write := asString?_str
  read_sortKeys := Json.asString?_sortKeys

def DiscoveredWorkItem.codec : Codec DiscoveredWorkItem :=
  (FieldsCodec.cons (js "title") (.matching (lengthWithin 1 512))
    (.cons (js "rationale") (.matching (lengthWithin 1 2048))
      (.cons (js "suggestedCapability") (.matching (lengthWithin 1 128))
        (.cons (js "priorityHint") (.matching (lengthWithin 1 16))
          (.field (js "evidenceRefs") (anyText.list.refine fun refs => refs.length ≤ 32))
          (by decide +kernel))
        (by decide +kernel))
      (by decide +kernel))
    (by decide +kernel)).strict.transport
    (fun raw => ⟨raw.1, raw.2.1, raw.2.2.1, raw.2.2.2.1, raw.2.2.2.2⟩)
    (fun item => (item.title, item.rationale, item.suggestedCapability, item.priorityHint, item.evidenceRefs))
    fun _ => rfl

structure ConductorBrainQueryOutput where
  limit : Between 1 8
  query : BoundedText 1 2048
  rowCount : Count
  resultDigest : Sha256Text
  resultChars : Count
  discoveredWork : { items : List DiscoveredWorkItem // items.length ≤ 32 }
  summary : BoundedText 1 2048
  envKeysLoaded : { keys : List { key : JsString // key ≠ [] } // keys.length ≤ 8 }

/-- `z.string().min(1)`. -/
def nonempty : Codec { key : JsString // key ≠ [] } := anyText.refine fun key => key ≠ []

/-- `z.literal(0)`. -/
def zero : Codec Unit where
  write := fun _ => .num 0
  read := fun json => if json.asInt? = some 0 then some () else none
  read_write := fun _ => if_pos rfl
  read_sortKeys := fun json => by rw [Json.asInt?_sortKeys]

/-- The fields after the digest of the result. -/
def ConductorBrainQueryOutput.reportFields : FieldsCodec (Count × Unit ×
    { items : List DiscoveredWorkItem // items.length ≤ 32 } × BoundedText 1 2048 × Unit ×
    { keys : List { key : JsString // key ≠ [] } // keys.length ≤ 8 }) :=
  .cons (js "result_chars") (.between 0 9007199254740991)
    (.cons (js "mutations") zero
      (.cons (js "discovered_work") (DiscoveredWorkItem.codec.list.refine fun items => items.length ≤ 32)
        (.cons (js "summary") (.matching (lengthWithin 1 2048))
          (.cons (js "transport") (.literal (js "private-stdio-import"))
            (.field (js "env_keys_loaded") (nonempty.list.refine fun keys => keys.length ≤ 8))
            (by decide +kernel))
          (by decide +kernel))
        (by decide +kernel))
      (by decide +kernel))
    (by decide +kernel)

/-- The fields up to the digest of the result. -/
def ConductorBrainQueryOutput.resultFields :
    FieldsCodec (Unit × Unit × Between 1 8 × BoundedText 1 2048 × Unit ×
    Count × Sha256Text) :=
  .cons (js "capability") (.literal (js "conductor.brain_query"))
    (.cons (js "scope") (.literal (js "projects"))
      (.cons (js "limit") (.between 1 8)
        (.cons (js "query") (.matching (lengthWithin 1 2048))
          (.cons (js "tool") (.literal (js "brain_query_projects"))
            (.cons (js "row_count") (.between 0 9007199254740991)
              (.field (js "result_digest") (.matching isSha256Text))
              (by decide +kernel))
            (by decide +kernel))
          (by decide +kernel))
        (by decide +kernel))
      (by decide +kernel))
    (by decide +kernel)

def ConductorBrainQueryOutput.codec : Codec ConductorBrainQueryOutput :=
  (ConductorBrainQueryOutput.resultFields.and ConductorBrainQueryOutput.reportFields
    (by decide +kernel)).strict.transport
    (fun ((_, _, limit, query, _, rowCount, resultDigest), resultChars, _, discoveredWork, summary, _, keys) =>
      ⟨limit, query, rowCount, resultDigest, resultChars, discoveredWork, summary, keys⟩)
    (fun output => (((), (), output.limit, output.query, (), output.rowCount, output.resultDigest),
      output.resultChars, (), output.discoveredWork, output.summary, (), output.envKeysLoaded))
    fun _ => rfl

/-- The definition; the literal fields are what the schema read. -/
def conductorBrainQueryDefinition (descriptor : Json) : CapabilityDefinition where
  descriptor := descriptor
  inputSchema := safeParse ConductorBrainQueryInput.codec
  outputSchema := safeParse ConductorBrainQueryOutput.codec
  verify := fun _ output =>
    match ConductorBrainQueryOutput.codec.read output with
    | none => false
    | some output => isSha256Text output.resultDigest.val
  input_sortKeys := safeParse_sortKeys ConductorBrainQueryInput.codec

/-! ## `repository.read` -/

def repositoryReadId : JsString := js "60000000-0000-4000-8000-000000000003"

/-- `REPOSITORY_READ`. -/
def repositoryRead : CapabilityRef where
  id := ⟨repositoryReadId, by rw [repositoryReadId, js_ofList]; decide⟩
  version := js "1.0.0"

structure RepositoryReadInput where
  repoPath : Option (BoundedText 1 4096)
  targetFile : Option (BoundedText 1 1024)
  timeoutSeconds : Option (Between 1 3600)

def RepositoryReadInput.names : List JsString := [js "repo_path", js "target_file", js "timeout_seconds"]

/-- `RepositoryReadInput.safeParse`. -/
def RepositoryReadInput.read (json : Json) : Option RepositoryReadInput := do
  if json.holdsOnly RepositoryReadInput.names = true then
    let repoPath ← readOptional (Codec.matching (lengthWithin 1 4096)) (json.field? (js "repo_path"))
    let targetFile ← readOptional (Codec.matching (lengthWithin 1 1024)) (json.field? (js "target_file"))
    let timeoutSeconds ← readOptional (Codec.between 1 3600) (json.field? (js "timeout_seconds"))
    some ⟨repoPath, targetFile, timeoutSeconds⟩
  else none

def RepositoryReadInput.toJson (input : RepositoryReadInput) : Json :=
  .obj (optionalField "repo_path" (Codec.matching (lengthWithin 1 4096)).write input.repoPath ++
    optionalField "target_file" (Codec.matching (lengthWithin 1 1024)).write input.targetFile ++
    optionalField "timeout_seconds" (Codec.between 1 3600).write input.timeoutSeconds)

structure RepositoryReadOutput where
  projectName : BoundedText 1 512
  targetPath : BoundedText 1 4096
  bytesRead : Count
  linesRead : Count
  contentSha256 : Sha256Text
  outputHash : BoundedText 1 64
  skillsMounted : { skills : List { skill : JsString // skill ≠ [] } // skills.length ≤ 64 }
  summary : BoundedText 1 2048

def RepositoryReadOutput.hashFields : FieldsCodec (Sha256Text × BoundedText 1 64 ×
    { skills : List { skill : JsString // skill ≠ [] } // skills.length ≤ 64 } × Unit × BoundedText 1 2048) :=
  .cons (js "content_sha256") (.matching isSha256Text)
    (.cons (js "output_hash") (.matching (lengthWithin 1 64))
      (.cons (js "skills_mounted") (nonempty.list.refine fun skills => skills.length ≤ 64)
        (.cons (js "mutations_detected") zero (.field (js "summary") (.matching (lengthWithin 1 2048)))
          (by decide +kernel))
        (by decide +kernel))
      (by decide +kernel))
    (by decide +kernel)

def RepositoryReadOutput.codec : Codec RepositoryReadOutput :=
  (FieldsCodec.cons (js "capability") (.literal (js "repository.read"))
    (.cons (js "project_name") (.matching (lengthWithin 1 512))
      (.cons (js "target_path") (.matching (lengthWithin 1 4096))
        (.cons (js "bytes_read") (.between 0 9007199254740991)
          (.cons (js "lines_read") (.between 0 9007199254740991) RepositoryReadOutput.hashFields
            (by decide +kernel))
          (by decide +kernel))
        (by decide +kernel))
      (by decide +kernel))
    (by decide +kernel)).strict.transport
    (fun (_, projectName, targetPath, bytesRead, linesRead, contentSha256, outputHash, skills, _, summary) =>
      ⟨projectName, targetPath, bytesRead, linesRead, contentSha256, outputHash, skills, summary⟩)
    (fun output => ((), output.projectName, output.targetPath, output.bytesRead, output.linesRead,
      output.contentSha256, output.outputHash, output.skillsMounted, (), output.summary))
    fun _ => rfl

theorem RepositoryReadInput.read_sortKeys (json : Json) :
    RepositoryReadInput.read (Json.sortKeys json) = RepositoryReadInput.read json := by
  simp only [RepositoryReadInput.read, Json.holdsOnly_sortKeys, Json.field?_sortKeys, readOptional_sortKeys]

/-- `repositoryReadDefinition`; only `verify` is called by the adapter. -/
def repositoryReadDefinition (descriptor : Json) : CapabilityDefinition where
  descriptor := descriptor
  inputSchema := fun json => (RepositoryReadInput.read json).map RepositoryReadInput.toJson
  outputSchema := safeParse RepositoryReadOutput.codec
  verify := fun _ output =>
    match RepositoryReadOutput.codec.read output with
    | none => false
    | some output => isSha256Text output.contentSha256.val
  input_sortKeys := fun json => by rw [RepositoryReadInput.read_sortKeys]

/-! ## Readings keep what was submitted -/

/-- Reading a field and writing it again gives the field that was there. -/
theorem optionalField_of_read {α : Type} {codec : Codec α} {name : String} {json : Json} {value : Option α}
    (kept : ∀ {found value}, codec.read found = some value → codec.write value = found)
    (read : readOptional codec (json.field? (js name)) = some value) :
    optionalField name codec.write value = json.present [js name] := by
  unfold Json.present
  rw [List.filterMap_cons, List.filterMap_nil]
  cases found : json.field? (js name) with
  | none =>
      rw [found] at read
      cases read
      rfl
  | some field =>
      rw [found] at read
      obtain ⟨inner, here, rfl⟩ := Option.map_eq_some_iff.mp read
      rw [optionalField, kept here]
      rfl

theorem matching_exact {accepts : JsString → Bool} {found : Json} {value : Matching accepts}
    (read : (Codec.matching accepts).read found = some value) :
    (Codec.matching accepts).write value = found := by
  obtain ⟨text, here, parsed⟩ := Option.bind_eq_some_iff.mp read
  unfold Matching.parse at parsed
  split at parsed
  · cases parsed
    cases found <;> cases here
    rfl
  · cases parsed

theorem between_exact {least greatest : Int} {found : Json} {value : Between least greatest}
    (read : (Codec.between least greatest).read found = some value) :
    (Codec.between least greatest).write value = found := by
  obtain ⟨number, here, parsed⟩ := Option.bind_eq_some_iff.mp read
  split at parsed
  · cases parsed
    cases found <;> cases here
    rfl
  · cases parsed

theorem RepositoryReadInput.names_nodup : RepositoryReadInput.names.Nodup := by
  rw [RepositoryReadInput.names, js_ofList, js_ofList, js_ofList]
  decide

/-- What is read is what was submitted, up to the order of its fields. -/
theorem RepositoryReadInput.toJson_same {json : Json} {input : RepositoryReadInput}
    (read : RepositoryReadInput.read json = some input) : input.toJson.SameUpToKeyOrder json := by
  unfold RepositoryReadInput.read at read
  split at read
  · next holds =>
      simp only [Option.bind_eq_bind, Option.bind_eq_some_iff] at read
      obtain ⟨repoPath, first, targetFile, second, timeoutSeconds, third, same⟩ := read
      cases same
      have fields := Json.present_same RepositoryReadInput.names_nodup holds
      unfold RepositoryReadInput.toJson
      rw [optionalField_of_read matching_exact first, optionalField_of_read matching_exact second,
        optionalField_of_read between_exact third]
      unfold Json.present at fields ⊢
      rw [← List.filterMap_append, ← List.filterMap_append]
      exact fields
  · cases read

end KernelJson.Runtimes.ReadCapabilities
