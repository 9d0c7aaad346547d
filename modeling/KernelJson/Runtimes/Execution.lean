import KernelJson.Contracts.Objective
import KernelJson.Runtimes.BuiltinCapabilities
import KernelJson.Runtimes.Receipts

/-!
# Executing the builtin capabilities

`execute` prepares an invocation, runs the implementation and verifies the
receipt that it made itself.  A builtin that is given a text within its bounds
never fails: its output fits, and the check that computes the result again in
another way agrees with the implementation.
-/

namespace KernelJson.Runtimes.Execution

open Contracts.CapabilityRun
open Contracts.Objective
open Contracts.Platform
open Contracts.PolicyGate
open Contracts.Task
open Executor.Verification (characters reverseText)
open Foundation
open Foundation.JsText
open Foundation.Transactions
open Runtimes.BuiltinCapabilities
open Runtimes.CapabilityRegistry
open Runtimes.ReadCapabilities (safeParse safeParse_write)
open Runtimes.Receipts (receiptOf)

/-! ## Execution -/

/-- What `execute` throws: its own error, or that of the receipt schema. -/
inductive ExecuteFault where
  | capability (code : CapabilityErrorCode)
  | schema
deriving DecidableEq

/-- A call of the registry whose error is thrown on. -/
def throwing {α : Type} : Except CapabilityErrorCode α → Except ExecuteFault α
  | .error code => .error (.capability code)
  | .ok value => .ok value

/-- The implementations of the definitions; one that throws has no value. -/
abbrev Implementations : Type := JsMap JsString (Json → Option Json)

section

variable (platform : Platform) (registry : CapabilityRegistry) (implementations : Implementations)

/-- `execute(raw)`. -/
def execute (raw : CapabilityInvocation) : Except ExecuteFault CapabilityResult := do
  let prepared ← throwing (prepare platform registry raw)
  let implementation ← throwing (required .notFound (implementations.get? (entryKey prepared.request.capability)))
  let output ← throwing (required .implementationFailed (implementation prepared.input))
  let parsed ← throwing (required .invalidOutput (prepared.entry.outputSchema output))
  let result ← required .schema (receiptOf platform prepared.entry prepared.request parsed).parse
  throwing (verify platform registry prepared.request result)

/-- The `execute` of `definition`. -/
def textImplementation (run : JsString → JsString) (input : Json) : Option Json :=
  ((textCodec maxInput).read input).map fun text => textJson (run text.val)

/-- The implementations of `createBuiltinRegistry()`. -/
def builtinImplementations : Implementations :=
  (JsMap.empty.set (entryKey uppercase) (textImplementation fun text => platform.toUpperCase (trim text))).set
    (entryKey reverse) (textImplementation reverseText)

end

/-! ## Receipts of an execution -/

section

variable {platform : Platform} {registry : CapabilityRegistry} {implementations : Implementations}

theorem throwing_ok {α : Type} {call : Except CapabilityErrorCode α} {value : α} :
    throwing call = .ok value ↔ call = .ok value := by
  cases call with
  | error code => exact ⟨fun same => (nomatch same), fun same => (nomatch same)⟩
  | ok found => exact ⟨fun same => congrArg Except.ok (Except.ok.inj same), fun same => by cases same; rfl⟩

/-- Whatever an execution returns is verified again for the invocation that was submitted. -/
theorem verify_of_execute {raw : CapabilityInvocation} {result : CapabilityResult}
    (executed : execute platform registry implementations raw = .ok result) :
    verify platform registry raw result = .ok result := by
  obtain ⟨prepared, first, executed⟩ := bind_ok executed
  obtain ⟨implementation, -, executed⟩ := bind_ok executed
  obtain ⟨output, -, executed⟩ := bind_ok executed
  obtain ⟨parsed, -, executed⟩ := bind_ok executed
  obtain ⟨made, -, executed⟩ := bind_ok executed
  have prepares := prepare_ok.mp (throwing_ok.mp first)
  obtain ⟨read, again, output, prepares', accepts⟩ := verify_ok.mp (throwing_ok.mp executed)
  have normal := normal_of_parse prepares.parsed
  have request : again.request = prepared.request :=
    Option.some.inj (prepares'.parsed.symm.trans normal.parse)
  refine verify_ok.mpr ⟨CapabilityResult.parse_again read, again, output, ?_, accepts⟩
  exact { prepares' with parsed := request ▸ prepares.parsed }

end

/-! ## The builtins -/

theorem flatten_characters (text : JsString) : (characters text).flatten = text := by
  fun_induction characters text with
  | case1 => rfl
  | case2 unit => rfl
  | case3 unit next rest pair ih => rw [List.flatten_cons, ih, List.cons_append, List.singleton_append]
  | case4 unit next rest single ih => rw [List.flatten_cons, ih, List.singleton_append]

theorem length_reverseText (text : JsString) : (reverseText text).length = text.length := by
  have parts := ((characters text).reverse_perm.flatten).length_eq
  rw [flatten_characters] at parts
  exact parts

/-- Putting each point before what was read is the join of the reversed points. -/
theorem foldl_points (points : List JsString) (expected : JsString) :
    points.foldl (fun expected point => point ++ expected) expected = points.reverse.flatten ++ expected := by
  induction points generalizing expected with
  | nil => rfl
  | cons point rest ih =>
      rw [List.foldl_cons, ih, List.reverse_cons, List.flatten_append, List.flatten_singleton,
        List.append_assoc]

theorem read_textCodec (longest : Nat) (text : JsString) :
    (textCodec longest).read (textJson text) = Matching.parse (lengthWithin 0 longest) text := by
  have known : (textJson text).hasOnly [js "text"] = true := by simp [textJson, Json.hasOnly, Json.names?]
  have present : (textJson text).field? (js "text") = some (.str text) := rfl
  simp only [textCodec, FieldsCodec.strict, FieldsCodec.field, known, if_true, present, Option.bind_some]
  rfl

theorem lengthWithin_zero {longest : Nat} {text : JsString} :
    lengthWithin 0 longest text = true ↔ text.length ≤ longest := by
  simp [lengthWithin]

theorem safeParse_text {longest : Nat} {text : JsString} (short : text.length ≤ longest) :
    safeParse (textCodec longest) (textJson text) = some (textJson text) :=
  safeParse_write (textCodec longest) ⟨text, lengthWithin_zero.mpr short⟩

theorem safeParse_long {longest : Nat} {text : JsString} (long : longest < text.length) :
    safeParse (textCodec longest) (textJson text) = none := by
  have refused : ¬ lengthWithin 0 longest text = true := fun within => by
    have short := lengthWithin_zero.mp within
    omega
  rw [safeParse, read_textCodec, Matching.parse, dif_neg refused, Option.map_none]

section Builtins

variable {platform : Platform} {textSchema : Nat → Json} {registry : CapabilityRegistry}
  {implementations : Implementations} {raw request : CapabilityInvocation} {text : JsString}

theorem receiptOf_parse {entry : CapabilityDefinition} (normal : Normal request) (output : Json) :
    (receiptOf platform entry request output).parse = some (receiptOf platform entry request output) := by
  simp only [CapabilityResult.parse, receiptOf, normal.trace, normal.capability, normal.idempotencyKey,
    Option.bind_eq_bind, Option.bind_some]
  exact if_pos ⟨normal.short, isSha256Text_hexText _, isSha256Text_hexText _, isSha256Text_hexText _⟩

/-- The receipt of an output that fits and that the definition verifies is verified. -/
theorem verify_receiptOf {prepared : Prepared} {output : Json}
    (prepares : Prepares platform registry raw prepared)
    (fits : prepared.entry.outputSchema output = some output)
    (verified : prepared.entry.verify prepared.input output = true) :
    verify platform registry raw (receiptOf platform prepared.entry prepared.request output) =
      .ok (receiptOf platform prepared.entry prepared.request output) := by
  have normal := normal_of_parse prepares.parsed
  exact verify_ok.mpr ⟨receiptOf_parse normal output, prepared, output, prepares,
    ⟨⟨rfl, rfl, rfl, rfl, rfl, rfl, rfl, rfl, rfl⟩, fits, rfl, verified⟩⟩

/-- A text capability within its bounds is executed, and its result is the text of its implementation. -/
theorem execute_text {ref : CapabilityRef} {description : JsString} {check : JsString → JsString → Bool}
    {run : JsString → JsString}
    (found : registry.entries.get? (entryKey ref) = some (definition textSchema ref description check))
    (implemented : implementations.get? (entryKey ref) = some (textImplementation run))
    (parsed : raw.parse = some request) (asked : request.capability = ref) (input : request.input = textJson text)
    (short : text.length ≤ maxInput) (fits : (run text).length ≤ maxOutput) (checks : check text (run text) = true) :
    execute platform registry implementations raw =
      .ok (receiptOf platform (definition textSchema ref description check) request (textJson (run text))) := by
  have accepted : (definition textSchema ref description check).inputSchema request.input = some request.input := by
    rw [input]
    exact safeParse_text short
  have prepares : Prepares platform registry raw
      ⟨request, definition textSchema ref description check, request.input⟩ :=
    ⟨parsed, by rw [asked]; exact found, accepted, rfl⟩
  have again : Prepares platform registry request
      ⟨request, definition textSchema ref description check, request.input⟩ :=
    { prepares with parsed := (normal_of_parse parsed).parse }
  have ran : textImplementation run request.input = some (textJson (run text)) := by
    rw [textImplementation, input, read_textCodec, Matching.parse, dif_pos (lengthWithin_zero.mpr short)]
    rfl
  have output : (definition textSchema ref description check).outputSchema (textJson (run text)) =
      some (textJson (run text)) := safeParse_text fits
  have verified : (definition textSchema ref description check).verify request.input (textJson (run text)) = true := by
    simp only [definition, input, read_textCodec, Matching.parse, dif_pos (lengthWithin_zero.mpr short),
      dif_pos (lengthWithin_zero.mpr fits)]
    exact checks
  have receipt := verify_receiptOf again output verified
  unfold execute
  rw [throwing_ok.mpr (prepare_ok.mpr prepares), ok_bind,
    throwing_ok.mpr (required_ok.mpr (asked ▸ implemented)), ok_bind,
      throwing_ok.mpr (required_ok.mpr ran), ok_bind,
    throwing_ok.mpr (required_ok.mpr output), ok_bind,
    required_ok.mpr (receiptOf_parse (normal_of_parse parsed) _), ok_bind, throwing_ok.mpr receipt]

/-- A text that is too long is refused before anything is run. -/
theorem execute_long {ref : CapabilityRef} {description : JsString} {check : JsString → JsString → Bool}
    (found : registry.entries.get? (entryKey ref) = some (definition textSchema ref description check))
    (parsed : raw.parse = some request) (asked : request.capability = ref) (input : request.input = textJson text)
    (long : maxInput < text.length) :
    execute platform registry implementations raw = .error (.capability .invalidInput) := by
  have refused : (definition textSchema ref description check).inputSchema request.input = none := by
    rw [input]
    exact safeParse_long long
  have entry : registry.entry request.capability = .ok (definition textSchema ref description check) :=
    required_ok.mpr (asked ▸ found)
  unfold execute prepare
  rw [required_ok.mpr parsed, ok_bind, entry, ok_bind, refused]
  rfl

end Builtins

/-! ### Uppercase and reverse -/

section

variable (platform : Platform) (textSchema : Nat → Json)

/-- What a builtin makes of a text. -/
def builtinOutput (ref : CapabilityRef) (text : JsString) : JsString :=
  if ref = reverse then reverseText text else platform.toUpperCase (trim text)

/-- The definition of a builtin. -/
def builtinDefinition (ref : CapabilityRef) : CapabilityDefinition :=
  if ref = reverse then reverseDefinition textSchema else uppercaseDefinition platform textSchema

variable {platform textSchema}

theorem entry_reverse : (createBuiltinRegistry platform textSchema).entries.get? (entryKey reverse) =
    some (reverseDefinition textSchema) :=
  JsMap.get?_set_self _ _ _

theorem uppercase_ne_reverse : uppercase ≠ reverse :=
  fun same => keys_apart (congrArg entryKey same.symm)

/-- A builtin executes a text within its bound: neither case mapping nor reversal takes it past the bound of
outputs. -/
theorem execute_short (grows : ∀ text, (platform.toUpperCase text).length ≤ 3 * text.length)
    {raw request : CapabilityInvocation} {text : JsString} (parsed : raw.parse = some request)
    (builtin : request.capability = uppercase ∨ request.capability = reverse)
    (input : request.input = textJson text) (short : text.length ≤ maxInput) :
    execute platform (createBuiltinRegistry platform textSchema) (builtinImplementations platform) raw =
      .ok (receiptOf platform (builtinDefinition platform textSchema request.capability) request
        (textJson (builtinOutput platform request.capability text))) := by
  rcases builtin with asked | asked
  · have fits : (platform.toUpperCase (trim text)).length ≤ maxOutput := by
      have grown := grows (trim text)
      have trimmed := length_trim_le text
      unfold maxInput at short
      unfold maxOutput
      omega
    have implemented : (builtinImplementations platform).get? (entryKey uppercase) =
        some (textImplementation fun text => platform.toUpperCase (trim text)) := by
      rw [builtinImplementations, JsMap.get?_set_of_ne _ keys_apart, JsMap.get?_set_self]
    rw [asked, builtinDefinition, builtinOutput, if_neg uppercase_ne_reverse, if_neg uppercase_ne_reverse]
    exact @execute_text platform textSchema _ _ raw request text uppercase _ _
      (fun text => platform.toUpperCase (trim text)) entry_uppercase implemented parsed asked input short fits
      (beq_self_eq_true _)
  · have fits : (reverseText text).length ≤ maxOutput := by
      rw [length_reverseText]
      unfold maxInput at short
      unfold maxOutput
      omega
    have agrees : (reverseText text == (characters text).foldl (fun expected point => point ++ expected) []) = true := by
      rw [foldl_points, List.append_nil]
      exact beq_self_eq_true _
    rw [asked, builtinDefinition, builtinOutput, if_pos rfl, if_pos rfl]
    exact execute_text entry_reverse (JsMap.get?_set_self _ _ _) parsed asked input short fits agrees

/-- A builtin executes exactly the texts of at most 16384 units, whatever case mapping does to their length; its
receipt is verified for the submitted invocation, and a longer text is refused. -/
theorem builtin_executes (grows : ∀ text, (platform.toUpperCase text).length ≤ 3 * text.length)
    {raw request : CapabilityInvocation} {text : JsString} (parsed : raw.parse = some request)
    (builtin : request.capability = uppercase ∨ request.capability = reverse)
    (input : request.input = textJson text) :
    (text.length ≤ maxInput →
      execute platform (createBuiltinRegistry platform textSchema) (builtinImplementations platform) raw =
          .ok (receiptOf platform (builtinDefinition platform textSchema request.capability) request
            (textJson (builtinOutput platform request.capability text))) ∧
        verify platform (createBuiltinRegistry platform textSchema) raw
            (receiptOf platform (builtinDefinition platform textSchema request.capability) request
              (textJson (builtinOutput platform request.capability text))) =
          .ok (receiptOf platform (builtinDefinition platform textSchema request.capability) request
            (textJson (builtinOutput platform request.capability text)))) ∧
      (maxInput < text.length →
        execute platform (createBuiltinRegistry platform textSchema) (builtinImplementations platform) raw =
          .error (.capability .invalidInput)) := by
  constructor
  · intro short
    have executed := @execute_short platform textSchema grows _ _ _ parsed builtin input short
    exact ⟨executed, verify_of_execute executed⟩
  · intro long
    rcases builtin with asked | asked
    · exact execute_long entry_uppercase parsed asked input long
    · exact execute_long entry_reverse parsed asked input long

end

def sampleInvocation : CapabilityInvocation where
  runId := reverse.id
  taskId := reverse.id
  stepId := reverse.id
  trace := ⟨reverse.id, reverse.id, none⟩
  capability := reverse
  idempotencyKey := js "k"
  input := textJson (js "ab")

theorem sampleInvocation_normal : Normal sampleInvocation where
  trace := rfl
  capability := by
    have version : parseText (js "1.0.0") = some (js "1.0.0") := by decide +kernel
    simp only [CapabilityRef.parse, sampleInvocation, reverse, version, Option.bind_eq_bind, Option.bind_some]
  idempotencyKey := by decide +kernel
  short := by decide +kernel

/-- Two letters are reversed on a platform with the case of ASCII letters. -/
theorem sampleInvocation_executes :
    execute .ascii (createBuiltinRegistry .ascii fun _ => .null) (builtinImplementations .ascii) sampleInvocation =
      .ok (receiptOf .ascii (builtinDefinition .ascii (fun _ => .null) reverse) sampleInvocation
        (textJson (builtinOutput .ascii reverse (js "ab")))) := by
  have grows : ∀ text, (Platform.ascii.toUpperCase text).length ≤ 3 * text.length := by
    intro text
    have same : (Platform.ascii.toUpperCase text).length = text.length := List.length_map _
    omega
  have short : (js "ab").length ≤ maxInput := by decide +kernel
  exact ((builtin_executes grows sampleInvocation_normal.parse (.inr rfl) rfl).1 short).1

end KernelJson.Runtimes.Execution
