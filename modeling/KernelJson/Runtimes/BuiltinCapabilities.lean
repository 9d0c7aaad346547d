import KernelJson.Executor.Verification
import KernelJson.Runtimes.ReadCapabilities

/-!
# The builtin capabilities

`UPPERCASE` and `REVERSE` take a text and give one.  Their definitions check a
result by computing it again.  The JSON schemas of the two strict objects are
what the platform derives for the length of their text.
-/

namespace KernelJson.Runtimes.BuiltinCapabilities

open Contracts.Platform
open Contracts.PolicyGate
open Contracts.Task
open Executor.Verification (characters)
open Foundation
open Foundation.JsText
open Runtimes.CapabilityRegistry
open Runtimes.ReadCapabilities (safeParse safeParse_sortKeys safeParse_write)

/-! ## Texts -/

/-- `z.strictObject({ text: z.string().max(longest) })`. -/
def textCodec (longest : Nat) : Codec (BoundedText 0 longest) :=
  (FieldsCodec.field (js "text") (.matching (lengthWithin 0 longest))).strict

def maxInput : Nat := 16384

def maxOutput : Nat := 49152

/-- `{ text }`. -/
def textJson (text : JsString) : Json :=
  .obj [(js "text", .str text)]

/-! ## Definitions -/

def uppercaseId : JsString := js "60000000-0000-4000-8000-000000000001"

/-- `UPPERCASE`. -/
def uppercase : CapabilityRef where
  id := ⟨uppercaseId, by rw [uppercaseId, js_ofList]; decide⟩
  version := js "1.0.0"

def reverseId : JsString := js "60000000-0000-4000-8000-000000000002"

/-- `REVERSE`. -/
def reverse : CapabilityRef where
  id := ⟨reverseId, by rw [reverseId, js_ofList]; decide⟩
  version := js "1.0.0"

section

variable (platform : Platform) (textSchema : Nat → Json)

/-- `Capability.parse({ ...ref, description, … })`. -/
def metadataJson (ref : CapabilityRef) (description : JsString) : Json :=
  .obj [(js "id", idJson ref.id), (js "version", .str ref.version), (js "description", .str description),
    (js "inputSchemaRef", .str (js "kerneljson:text-input/v1")),
    (js "outputSchemaRef", .str (js "kerneljson:text-output/v1")), (js "riskClass", .str (js "LOW")),
    (js "permissions", .arr []), (js "implementationType", .str (js "DETERMINISTIC")),
    (js "verificationRequirements", .arr [.str (js "recompute-text/v1")])]

/-- `definition(ref, description, execute, verify)`; a text that does not parse is not verified. -/
def definition (ref : CapabilityRef) (description : JsString) (verify : JsString → JsString → Bool) :
    CapabilityDefinition where
  descriptor := .obj [(js "metadata", metadataJson ref description), (js "inputSchema", textSchema maxInput),
    (js "outputSchema", textSchema maxOutput)]
  inputSchema := safeParse (textCodec maxInput)
  outputSchema := safeParse (textCodec maxOutput)
  verify := fun input output =>
    match (textCodec maxInput).read input, (textCodec maxOutput).read output with
    | some input, some output => verify input.val output.val
    | _, _ => false
  input_sortKeys := safeParse_sortKeys (textCodec maxInput)

def uppercaseDefinition : CapabilityDefinition :=
  definition textSchema uppercase (js "Trim and uppercase text") fun input output =>
    output == platform.toUpperCase (trim input)

def reverseDefinition : CapabilityDefinition :=
  definition textSchema reverse (js "Reverse Unicode code points") fun input output =>
    output == (characters input).foldl (fun expected point => point ++ expected) []

/-- `createBuiltinRegistry()`. -/
def createBuiltinRegistry : CapabilityRegistry :=
  ⟨(JsMap.empty.set (entryKey uppercase) (uppercaseDefinition platform textSchema)).set (entryKey reverse)
    (reverseDefinition textSchema)⟩

end

/-- The descriptor with its digest, as `describe` gives it. -/
def described (platform : Platform) (entry : CapabilityDefinition) : Json :=
  match entry.descriptor with
  | .obj fields => .obj (fields ++ [(js "digest", .str (capabilityDigest platform entry.descriptor))])
  | other => other

/-- `registry.describe(ref)`. -/
def describe (platform : Platform) (registry : CapabilityRegistry) (ref : CapabilityRef) :
    Except CapabilityErrorCode Json := do
  let entry ← registry.entry ref
  .ok (described platform entry)

/-! ## Entries -/

variable {platform : Platform} {textSchema : Nat → Json}

theorem keys_apart : entryKey reverse ≠ entryKey uppercase := by
  intro same
  have lengths : reverseId.length = uppercaseId.length := by
    rw [reverseId, uppercaseId, js_ofList, js_ofList]
    rfl
  have withStop : (reverse.id.text ++ js "@").length = (uppercase.id.text ++ js "@").length := by
    rw [List.length_append, List.length_append]
    exact congrArg (· + 1) lengths
  have ids : reverseId = uppercaseId := (List.append_inj (List.append_inj same withStop).1 lengths).1
  rw [reverseId, uppercaseId, js_ofList, js_ofList] at ids
  exact absurd ids (by decide)

theorem entry_uppercase : (createBuiltinRegistry platform textSchema).entries.get? (entryKey uppercase) =
    some (uppercaseDefinition platform textSchema) := by
  rw [createBuiltinRegistry, JsMap.get?_set_of_ne _ keys_apart, JsMap.get?_set_self]

theorem describe_uppercase : describe platform (createBuiltinRegistry platform textSchema) uppercase =
    .ok (described platform (uppercaseDefinition platform textSchema)) := by
  rw [describe, CapabilityRegistry.entry, entry_uppercase]
  rfl

theorem write_textCodec {longest : Nat} (text : BoundedText 0 longest) :
    (textCodec longest).write text = textJson text.val := by
  rfl

end KernelJson.Runtimes.BuiltinCapabilities
