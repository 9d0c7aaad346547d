import KernelJson.Runtimes.NewSystem

/-!
# Runs of the adapters

Every result of an adapter is verified for the invocation it answers, every
key is read once, and a key that was used is refused to other invocations, in
runs in which no call finds its key in flight or used by another invocation
that the cache does not tell apart, and in which what the backend reports can
be packed.
-/

namespace KernelJson.Runtimes.AdapterRuns

open Contracts.CapabilityRun
open Contracts.Common
open Contracts.Platform
open Contracts.PolicyGate
open Contracts.Task
open Foundation
open Foundation.CachedCalls
open Foundation.JsText
open Foundation.Transactions
open Runtimes.CapabilityRegistry
open Runtimes.LegacyConductor
open Runtimes.NewSystem
open Runtimes.ReadCapabilities
open Runtimes.Receipts

/-- A text with a visible first and last unit is not blank. -/
theorem trim_ne_nil_of_ends {text : JsString} (first : text.head?.map isSpace = some false)
    (last : text.getLast?.map isSpace = some false) : trim text ≠ [] := by
  have read := parseText_of_ends first last
  unfold parseText at read
  split at read
  · cases read
  · next nonempty => exact nonempty

/-! ## The legacy adapter -/

namespace Legacy

/-- The registry verifies the result for the invocation. -/
def Verified (adapter : LegacyConductorAdapter) (invocation : CapabilityInvocation)
    (value : LegacyConductorInvokeResult) : Prop :=
  verify adapter.platform adapter.registry invocation value.result = .ok value.result

/-- The reply fits the output schema. -/
def Fits (invocation : CapabilityInvocation) (_ : Settlement BridgeAnswer) (reply : BridgeOk) : Prop :=
  ∀ input, ConductorBrainQueryInput.codec.read invocation.input = some input →
    (outputOf input reply).isSome = true

variable {adapter : LegacyConductorAdapter}

theorem prepare_ok {invocation : CapabilityInvocation} {call : LegacyCall}
    (prepared : adapter.prepare invocation = .ok call) :
    ConductorBrainQueryInput.codec.read invocation.input = some call.input ∧
      capabilityDigest adapter.platform (ConductorBrainQueryInput.codec.write call.input) =
        capabilityDigest adapter.platform invocation.input := by
  unfold LegacyConductorAdapter.prepare at prepared
  split at prepared
  · cases prepared
  · next input read =>
      split at prepared
      · next kept =>
          obtain ⟨_, -, same⟩ := map_ok prepared
          cases same
          exact ⟨read, kept⟩
      · cases prepared

theorem outputOf_summary {input : ConductorBrainQueryInput} {reply : BridgeOk}
    {output : ConductorBrainQueryOutput}
    (made : outputOf input reply = some output) : output.summary.val = summaryOf reply := by
  simp only [outputOf, Option.bind_eq_bind, Option.bind_eq_some_iff] at made
  obtain ⟨items, -, discoveredWork, -, summary, parsed, keys, -, envKeysLoaded, -, same⟩ := made
  cases same
  unfold Matching.parse at parsed
  split at parsed
  · cases parsed
    rfl
  · cases parsed

/-- The adapter's summaries are not blank. -/
theorem trim_summaryOf (reply : BridgeOk) : trim (summaryOf reply) ≠ [] := by
  apply trim_ne_nil_of_ends
  · unfold summaryOf
    rw [js_ofList]
    rfl
  · have last : (js "); mutations=0").getLast? = some 48 := by
      rw [js_ofList]
      rfl
    unfold summaryOf
    rw [List.getLast?_append, last]
    rfl

theorem parse_evidenceSource :
    parseText LegacyConductorAdapter.evidenceSource = some LegacyConductorAdapter.evidenceSource := by
  rw [LegacyConductorAdapter.evidenceSource, js_ofList]
  decide

theorem parse_criterion :
    parseText LegacyConductorAdapter.criterion = some LegacyConductorAdapter.criterion := by
  rw [LegacyConductorAdapter.criterion, js_ofList]
  decide

theorem statement_fits (invocation : CapabilityInvocation) {call : LegacyCall} {reply : BridgeOk}
    {output : ConductorBrainQueryOutput} (made : outputOf call.input reply = some output) :
    (adapter.statement invocation call reply output).Fits where
  source := parse_evidenceSource
  digest := output.resultDigest.property
  metadata := rfl
  criterion := parse_criterion
  summary := by
    show trim output.summary.val ≠ []
    rw [outputOf_summary made]
    exact trim_summaryOf reply

/-- A reply whose output fits is packed. -/
theorem pack_ok {invocation : CapabilityInvocation} {call : LegacyCall} {reply : BridgeOk}
    {output : ConductorBrainQueryOutput} (normal : Normal invocation)
    (named : invocation.capability = conductorBrainQuery) (prepared : adapter.prepare invocation = .ok call)
    (made : outputOf call.input reply = some output) (settlement : Settlement BridgeAnswer) :
    ∃ value, adapter.pack invocation call settlement reply = .ok value ∧
      value.result = receiptOf adapter.platform (conductorBrainQueryDefinition adapter.descriptor) invocation
        (ConductorBrainQueryOutput.codec.write output) := by
  obtain ⟨read, kept⟩ := prepare_ok prepared
  have accepted : (conductorBrainQueryDefinition adapter.descriptor).inputSchema invocation.input =
      some (ConductorBrainQueryInput.codec.write call.input) := by
    show (ConductorBrainQueryInput.codec.read invocation.input).map _ = _
    rw [read, Option.map_some]
  have checked : (conductorBrainQueryDefinition adapter.descriptor).verify
      (ConductorBrainQueryInput.codec.write call.input) (ConductorBrainQueryOutput.codec.write output) =
        true := by
    unfold conductorBrainQueryDefinition
    simp only [ConductorBrainQueryOutput.codec.read_write]
    exact output.resultDigest.property
  have fits : (adapter.statement invocation call reply output).Fits := statement_fits invocation made
  obtain ⟨proof, proven⟩ := @Statement.prove_ok _ LegacyConductorCode _ fits invocation settlement
  unfold LegacyConductorAdapter.pack
  rw [required_ok.mpr made, ok_bind,
    verifiedReceipt_ok normal adapter.registered named accepted kept (safeParse_write _ output) checked,
    ok_bind, proven, ok_bind]
  exact ⟨_, rfl, rfl⟩

theorem pack_verified {invocation : CapabilityInvocation} {call : LegacyCall}
    {settlement : Settlement BridgeAnswer}
    {reply : BridgeOk} {value : LegacyConductorInvokeResult}
    (packed : adapter.pack invocation call settlement reply = .ok value) :
    Verified adapter invocation value := by
  obtain ⟨output, -, packed⟩ := bind_ok packed
  obtain ⟨result, receipt, packed⟩ := bind_ok packed
  obtain ⟨proof, -, packed⟩ := bind_ok packed
  cases packed
  exact verifiedReceipt_verified receipt

theorem sound (adapter : LegacyConductorAdapter) :
    Sound adapter.service SameInvocation (Verified adapter) Fits where
  congr := fun same verified => verify_of_same same verified
  packed := fun packed => pack_verified packed
  packs := by
    intro raw invocation call settlement reply admitted prepared read fits
    obtain ⟨normal, named⟩ := admitted_ok admitted
    obtain ⟨output, made⟩ := Option.isSome_iff_exists.mp (fits call.input (prepare_ok prepared).1)
    obtain ⟨value, packed, -⟩ := pack_ok normal named prepared made settlement
    exact ⟨value, packed⟩

end Legacy

/-! ## The new-system adapter -/

namespace Spawner

/-- The registry verifies the result for the invocation. -/
def Verified (adapter : NewSystemRuntimeAdapter) (invocation : CapabilityInvocation)
    (value : RuntimeInvokeResult) : Prop :=
  verify adapter.platform adapter.registry invocation value.result = .ok value.result

/-- The structured output fits the output schema, and its summary is not blank. -/
def Fits (_ : CapabilityInvocation) (_ : Settlement SpawnAnswer) (reading : SpawnReading) : Prop :=
  (RepositoryReadOutput.parse reading.structured).isSome = true ∧ trim reading.structured.summary ≠ []

variable {adapter : NewSystemRuntimeAdapter}

theorem prepare_ok {invocation : CapabilityInvocation} {call : SpawnCall}
    (prepared : adapter.prepare invocation = .ok call) :
    ∃ input, RepositoryReadInput.read invocation.input = some input := by
  obtain ⟨input, read, -⟩ := bind_ok prepared
  exact ⟨input, required_ok.mp read⟩

theorem parse_summary {structured : SpawnerStructuredOutput} {output : RepositoryReadOutput}
    (made : RepositoryReadOutput.parse structured = some output) : output.summary.val = structured.summary := by
  simp only [RepositoryReadOutput.parse, Option.bind_eq_bind, Option.bind_eq_some_iff] at made
  obtain ⟨projectName, -, targetPath, -, outputHash, -, skills, -, skillsMounted, -, summary, parsed,
    same⟩ := made
  cases same
  unfold Matching.parse at parsed
  split at parsed
  · cases parsed
    rfl
  · cases parsed

theorem parse_evidenceSource :
    parseText NewSystemRuntimeAdapter.evidenceSource = some NewSystemRuntimeAdapter.evidenceSource := by
  rw [NewSystemRuntimeAdapter.evidenceSource, js_ofList]
  decide

theorem parse_criterion :
    parseText NewSystemRuntimeAdapter.criterion = some NewSystemRuntimeAdapter.criterion := by
  rw [NewSystemRuntimeAdapter.criterion, js_ofList]
  decide

theorem statement_fits (invocation : CapabilityInvocation) {reading : SpawnReading}
    {output : RepositoryReadOutput}
    (made : RepositoryReadOutput.parse reading.structured = some output)
    (shown : trim reading.structured.summary ≠ []) :
    (NewSystemRuntimeAdapter.statement invocation reading output).Fits where
  source := parse_evidenceSource
  digest := output.contentSha256.property
  metadata := rfl
  criterion := parse_criterion
  summary := by
    show trim output.summary.val ≠ []
    rwa [parse_summary made]

/-- A completed response whose output fits is packed. -/
theorem pack_ok {invocation : CapabilityInvocation} {call : SpawnCall} {reading : SpawnReading}
    {input : RepositoryReadInput} {output : RepositoryReadOutput} (normal : Normal invocation)
    (named : invocation.capability = repositoryRead)
    (read : RepositoryReadInput.read invocation.input = some input)
    (made : RepositoryReadOutput.parse reading.structured = some output)
    (shown : trim reading.structured.summary ≠ []) (settlement : Settlement SpawnAnswer) :
    ∃ value, adapter.pack invocation call settlement reading = .ok value := by
  have accepted : (repositoryReadDefinition adapter.descriptor).inputSchema invocation.input =
      some input.toJson := by
    show (RepositoryReadInput.read invocation.input).map _ = _
    rw [read, Option.map_some]
  have kept := capabilityDigest_of_same adapter.platform (RepositoryReadInput.toJson_same read)
  have checked : (repositoryReadDefinition adapter.descriptor).verify input.toJson
      (RepositoryReadOutput.codec.write output) = true := by
    unfold repositoryReadDefinition
    simp only [RepositoryReadOutput.codec.read_write]
    exact output.contentSha256.property
  have fits := statement_fits invocation made shown
  obtain ⟨proof, proven⟩ := @Statement.prove_ok _ NewSystemCode _ fits invocation settlement
  unfold NewSystemRuntimeAdapter.pack
  rw [required_ok.mpr made, ok_bind,
    verifiedReceipt_ok normal adapter.registered named accepted kept (safeParse_write _ output) checked,
    ok_bind, proven, ok_bind]
  exact ⟨_, rfl⟩

theorem pack_verified {invocation : CapabilityInvocation} {call : SpawnCall}
    {settlement : Settlement SpawnAnswer}
    {reading : SpawnReading} {value : RuntimeInvokeResult}
    (packed : adapter.pack invocation call settlement reading = .ok value) :
    Verified adapter invocation value := by
  obtain ⟨output, -, packed⟩ := bind_ok packed
  obtain ⟨result, receipt, packed⟩ := bind_ok packed
  obtain ⟨proof, -, packed⟩ := bind_ok packed
  cases packed
  exact verifiedReceipt_verified receipt

theorem sound (adapter : NewSystemRuntimeAdapter) :
    Sound adapter.service SameInvocation (Verified adapter) Fits where
  congr := fun same verified => verify_of_same same verified
  packed := fun packed => pack_verified packed
  packs := by
    rintro raw invocation call settlement reading admitted prepared read ⟨fits, shown⟩
    obtain ⟨normal, named⟩ := admitted_ok admitted
    obtain ⟨input, accepted⟩ := prepare_ok prepared
    obtain ⟨output, made⟩ := Option.isSome_iff_exists.mp fits
    exact pack_ok normal named accepted made shown settlement

end Spawner

/-! ## Every careful run -/

/-- In a run whose steps all meet the condition, results are verified for the invocations they answer,
each key is read once, and a key that was used is refused to other invocations. -/
theorem adapters_answer_their_invocations (legacy : LegacyConductorAdapter)
    (newSystem : NewSystemRuntimeAdapter) :
    (∀ history state, CarefulRun legacy.service SameInvocation Legacy.Fits history state →
      Faithful legacy.service SameInvocation (Legacy.Verified legacy) history) ∧
    ∀ history state, CarefulRun newSystem.service SameInvocation Spawner.Fits history state →
      Faithful newSystem.service SameInvocation (Spawner.Verified newSystem) history := by
  constructor
  · intro history state run
    exact run.faithful (Legacy.sound legacy)
  · intro history state run
    exact run.faithful (Spawner.sound newSystem)

/-- Overlapping calls of one invocation read the bridge twice. -/
theorem legacy_overlap {adapter : LegacyConductorAdapter} {invocation : CapabilityInvocation}
    {call : LegacyCall}
    {settlement : Settlement BridgeAnswer} {reply : BridgeOk} (normal : Normal invocation)
    (named : invocation.capability = conductorBrainQuery) (prepared : adapter.prepare invocation = .ok call)
    (read : adapter.read settlement = .ok reply) :
    ∃ history state, adapter.service.Run history state ∧
      ¬ Faithful adapter.service SameInvocation (Legacy.Verified adapter) history := by
  have admitted : adapter.service.recognise invocation = .ok invocation := admitted_self normal named
  exact Service.overlap_reads_twice admitted prepared read

/-- Overlapping calls of one invocation post to the spawner twice. -/
theorem newSystem_overlap {adapter : NewSystemRuntimeAdapter} {invocation : CapabilityInvocation}
    {call : SpawnCall}
    {settlement : Settlement SpawnAnswer} {reading : SpawnReading} (normal : Normal invocation)
    (named : invocation.capability = repositoryRead) (prepared : adapter.prepare invocation = .ok call)
    (read : adapter.read settlement = .ok reading) :
    ∃ history state, adapter.service.Run history state ∧
      ¬ Faithful adapter.service SameInvocation (Spawner.Verified adapter) history := by
  have admitted : adapter.service.recognise invocation = .ok invocation := admitted_self normal named
  exact Service.overlap_reads_twice admitted prepared read

/-! ## A cached result and another run -/

def sampleLegacy : LegacyConductorAdapter where
  platform := .ascii
  registry := ⟨JsMap.empty.set (entryKey conductorBrainQuery) (conductorBrainQueryDefinition .null)⟩
  timeoutMs := none
  envFile := none
  issues := fun _ => []
  descriptor := .null
  registered := JsMap.get?_set_self _ _ _

def sampleInput : ConductorBrainQueryInput := ⟨⟨js "q", by decide⟩, ⟨1, by decide⟩⟩

/-- The same invocation for any run. -/
def sampleInvocation (runId : Id) : CapabilityInvocation where
  runId := runId
  taskId := conductorBrainQuery.id
  stepId := conductorBrainQuery.id
  trace := ⟨conductorBrainQuery.id, conductorBrainQuery.id, none⟩
  capability := conductorBrainQuery
  idempotencyKey := js "key"
  input := ConductorBrainQueryInput.codec.write sampleInput

def sampleReply : Json :=
  .obj [(js "ok", .bool true), (js "capability", .str (js "conductor.brain_query")),
    (js "tool", .str (js "brain_query_projects")), (js "table", .str (js "projects")),
    (js "scope", .str (js "projects")), (js "query", .str (js "q")), (js "limit", .num 1),
    (js "text", .str []), (js "row_count", .num 0),
    (js "result_digest", .str (sha256Text .ascii [])), (js "result_chars", .num 0), (js "mutations", .num 0)]

theorem sampleCount_bounds : (0 : Int) ≤ 0 ∧ (0 : Int) ≤ 9007199254740991 := by
  constructor <;> decide

def sampleOk : BridgeOk where
  query := js "q"
  limit := ⟨1, by decide⟩
  text := []
  rowCount := ⟨0, sampleCount_bounds⟩
  resultDigest := ⟨sha256Text .ascii [], isSha256Text_hexText _⟩
  resultChars := ⟨0, sampleCount_bounds⟩
  discoveredWork := none
  durationMs := none
  envKeysLoaded := none
  transport := none
  taskId := none
  executionId := none

def sampleSettlement : Settlement BridgeAnswer := ⟨.returned sampleReply, repositoryRead.id, .epoch, .epoch⟩

theorem sampleReply_read : sampleLegacy.read sampleSettlement = .ok sampleOk := by
  rfl

theorem sampleOk_fits (input : ConductorBrainQueryInput) : (outputOf input sampleOk).isSome = true := by
  rfl

theorem sampleInvocation_normal (runId : Id) : Normal (sampleInvocation runId) := by
  refine ⟨?_, ?_, ?_, ?_⟩
  · rfl
  · rfl
  · rfl
  · show (js "key").length ≤ 256
    decide

/-- What the adapter holds while it waits for the bridge. -/
def sampleCall (runId : Id) : LegacyCall :=
  ⟨sampleInput, sampleLegacy.bridgeRequest (sampleInvocation runId) sampleInput⟩

theorem sampleInvocation_prepared (runId : Id) :
    sampleLegacy.prepare (sampleInvocation runId) = .ok (sampleCall runId) := by
  have read : ConductorBrainQueryInput.codec.read (sampleInvocation runId).input = some sampleInput :=
    ConductorBrainQueryInput.codec.read_write sampleInput
  have allowed : assertAllowed (js "conductor.brain_query") = .ok () := by
    rfl
  unfold LegacyConductorAdapter.prepare
  rw [read, allowed]
  exact if_pos rfl

theorem sampleInvocation_admitted (runId : Id) :
    sampleLegacy.service.recognise (sampleInvocation runId) = .ok (sampleInvocation runId) :=
  @admitted_self _ conductorBrainQuery .invalidRequest .unsupportedCapability _
    (sampleInvocation_normal runId) rfl

theorem sampleInvocation_asks (runId : Id) :
    sampleLegacy.service.invoke .empty (sampleInvocation runId) =
      .asks (sampleInvocation runId) (sampleCall runId) := by
  have prepared : sampleLegacy.service.prepare (sampleInvocation runId) = .ok (sampleCall runId) :=
    sampleInvocation_prepared runId
  unfold Service.invoke
  simp only [sampleInvocation_admitted, JsMap.get?_empty, prepared]

/-- The bridge's reply is packed into the invocation's receipt. -/
theorem sampleInvocation_settles (runId : Id) :
    ∃ value output,
      sampleLegacy.service.settle (sampleInvocation runId) (sampleCall runId) sampleSettlement = .ok value ∧
        value.result =
          receiptOf .ascii (conductorBrainQueryDefinition .null) (sampleInvocation runId) output := by
  obtain ⟨output, made⟩ := Option.isSome_iff_exists.mp (sampleOk_fits sampleInput)
  obtain ⟨value, packed, receipt⟩ := @Legacy.pack_ok sampleLegacy _ _ _ _
    (sampleInvocation_normal runId) rfl (sampleInvocation_prepared runId) made sampleSettlement
  have read : sampleLegacy.service.read sampleSettlement = .ok sampleOk := sampleReply_read
  refine ⟨value, _, ?_, receipt⟩
  unfold Service.settle
  rw [read]
  exact packed

/-- Once a run's result is cached, the same invocation for any run is answered with it. -/
theorem sampleInvocation_answered {runId : Id} (other : Id) {value : LegacyConductorInvokeResult}
    {output : Json}
    (receipt : value.result =
      receiptOf .ascii (conductorBrainQueryDefinition .null) (sampleInvocation runId) output) :
    sampleLegacy.service.invoke (JsMap.empty.set (js "key") value) (sampleInvocation other) =
      .answered (sampleInvocation other) value := by
  have found : (JsMap.empty.set (js "key") value).get? (sampleLegacy.service.key (sampleInvocation other)) =
      some value := JsMap.get?_set_self _ _ _
  have agreed : sampleLegacy.service.agrees value (sampleInvocation other) = true := by
    show sameStep Platform.ascii value.result (sampleInvocation other) = true
    rw [receipt]
    exact decide_eq_true ⟨rfl, rfl, rfl⟩
  unfold Service.invoke
  simp only [sampleInvocation_admitted, found, agreed, if_true]

theorem sampleRunIds_ne : conductorBrainQuery.id ≠ repositoryRead.id := by
  intro same
  have texts : conductorBrainQueryId = repositoryReadId := congrArg Id.text same
  rw [conductorBrainQueryId, repositoryReadId, js_ofList, js_ofList] at texts
  exact absurd texts (by decide)

/-- The history of a call, its answer, and a call of the same invocation for another run. -/
def sampleHistory (first second : Id) (value : LegacyConductorInvokeResult) :
    List (Event CapabilityInvocation CapabilityInvocation LegacyCall (Settlement BridgeAnswer)
      LegacyConductorInvokeResult LegacyConductorError) :=
  [.called (sampleInvocation second) (.answered (sampleInvocation second) value),
    .settled (sampleInvocation first) sampleSettlement (.ok value),
    .called (sampleInvocation first) (.asks (sampleInvocation first) (sampleCall first))]

theorem sampleHistory_steps (first second : Id) : ∃ value output,
    value.result = receiptOf .ascii (conductorBrainQueryDefinition .null) (sampleInvocation first) output ∧
    sampleLegacy.service.Step ⟨.empty, []⟩
      (.called (sampleInvocation first) (.asks (sampleInvocation first) (sampleCall first)))
      ⟨.empty, [(sampleInvocation first, sampleCall first)]⟩ ∧
    sampleLegacy.service.Step ⟨.empty, [(sampleInvocation first, sampleCall first)]⟩
      (.settled (sampleInvocation first) sampleSettlement (.ok value)) ⟨JsMap.empty.set (js "key") value, []⟩ ∧
    sampleLegacy.service.Step ⟨JsMap.empty.set (js "key") value, []⟩
      (.called (sampleInvocation second) (.answered (sampleInvocation second) value))
      ⟨JsMap.empty.set (js "key") value, []⟩ := by
  obtain ⟨value, output, settles, receipt⟩ := sampleInvocation_settles first
  refine ⟨value, output, receipt, ?_, ?_, ?_⟩
  · have called := @Service.Step.called _ _ _ _ _ _ _ _ _ sampleLegacy.service ⟨.empty,
    []⟩ (sampleInvocation first)
    rw [sampleInvocation_asks first] at called
    exact called
  · have settled := @Service.Step.settled _ _ _ _ _ _ _ _ _ sampleLegacy.service
      ⟨.empty, [(sampleInvocation first, sampleCall first)]⟩ _ _ sampleSettlement [] [] rfl
    rw [settles] at settled
    exact settled
  · have called := @Service.Step.called _ _ _ _ _ _ _ _ _ sampleLegacy.service
      ⟨JsMap.empty.set (js "key") value, []⟩ (sampleInvocation second)
    rw [sampleInvocation_answered second receipt] at called
    exact called

/-- A key reused for another run is answered from the cache, with a receipt that does not verify. -/
theorem cached_result_for_another_run :
    ¬ ∀ history state, sampleLegacy.service.Run history state →
      Faithful sampleLegacy.service SameInvocation (Legacy.Verified sampleLegacy) history := by
  intro all
  obtain ⟨value, output, receipt, asks, settles, answers⟩ :=
    sampleHistory_steps conductorBrainQuery.id repositoryRead.id
  have run : sampleLegacy.service.Run (sampleHistory conductorBrainQuery.id repositoryRead.id value) _ :=
    .step (.step (.step .start asks) settles) answers
  have verified := (all _ _ run).answers _ List.mem_cons_self _ _ .cached
  have named := run_of_verify verified
  rw [receipt] at named
  exact sampleRunIds_ne named

/-- A call and its repetition make a careful run. -/
theorem sampleHistory_careful (runId : Id) : ∃ value state,
    CarefulRun sampleLegacy.service SameInvocation Legacy.Fits
      (sampleHistory runId runId value) state := by
  obtain ⟨value, output, receipt, asks, settles, answers⟩ := sampleHistory_steps runId runId
  refine ⟨value, _, .step (.step (.step .start asks ?_) settles ?_) answers ?_⟩
  · intro request admitted
    exact .alone (fun _ member => absurd member List.not_mem_nil) fun other ⟨_, _, asked⟩ =>
      absurd asked List.not_mem_nil
  · intro reply read input accepted
    have same := sampleReply_read.symm.trans read
    cases same
    exact sampleOk_fits input
  · intro request admitted
    have same := (sampleInvocation_admitted runId).symm.trans admitted
    cases same
    refine .alone (fun _ member => absurd member List.not_mem_nil) ?_
    rintro other ⟨raw, question, asked⟩ -
    rcases List.mem_cons.mp asked with settled | last
    · cases settled
    · cases List.mem_singleton.mp last
      exact ⟨rfl, rfl, rfl, rfl, rfl, rfl, rfl⟩

def sampleNewSystem : NewSystemRuntimeAdapter where
  platform := .ascii
  registry := ⟨JsMap.empty.set (entryKey repositoryRead) (repositoryReadDefinition .null)⟩
  baseUrl := js "http://localhost"
  caller := js "kerneljson"
  tenantId := js "estate"
  issues := fun _ => []
  descriptor := .null
  registered := JsMap.get?_set_self _ _ _

/-- A call that is repeated is answered from the cache, and with it the run is faithful. -/
theorem sample_adapters_answer : ∃ value state,
    CarefulRun sampleLegacy.service SameInvocation Legacy.Fits
        (sampleHistory repositoryRead.id repositoryRead.id value) state ∧
      Faithful sampleLegacy.service SameInvocation (Legacy.Verified sampleLegacy)
        (sampleHistory repositoryRead.id repositoryRead.id value) := by
  obtain ⟨value, state, run⟩ := sampleHistory_careful repositoryRead.id
  exact ⟨value, state, run, (adapters_answer_their_invocations sampleLegacy sampleNewSystem).1 _ _ run⟩

end KernelJson.Runtimes.AdapterRuns
