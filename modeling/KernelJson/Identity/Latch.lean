import KernelJson.Foundation.Transactions
import KernelJson.Identity.CognitionBinding

/-!
# The latch of an analyst step

Calls of `latch` and `authorize` for one step, any number of them at once, over
tables that releases and identity versions change in between.  Every query reads
what is committed at its time; a transaction keeps its rows to itself until it
commits, and a call may be lost at any point.
-/

namespace KernelJson.Identity.Latch

open Contracts.Cognition
open Contracts.Common
open Contracts.Digest
open Contracts.Faculty
open Contracts.Github
open Contracts.Model
open Foundation
open Foundation.JsText
open Identity.CognitionBinding
open Identity.Projection

/-! ## Tables -/

/-- What is committed: the binding of the task, the contract's start, the current release epoch, the faculty pin of
the step, the versions of identities and the current ones of a tenant, and the latches and pins. -/
structure Tables where
  binding : Option BindingRow
  marker : Option Nat
  epoch : Nat
  faculty : Option FacultyPinRow
  versions : List VersionRow
  current : Id → List (Id × Int)
  latches : List LatchRow
  pins : List PinRow

/-- What anything else may change: rows are inserted once and stay, and the marker names the current epoch. -/
structure Evolves (before after : Tables) : Prop where
  binding : ∀ row, before.binding = some row → after.binding = some row
  marker : ∀ start, before.marker = some start → after.marker = some start
  started : before.marker = none → ∀ start, after.marker = some start → start = after.epoch
  faculty : ∀ row, before.faculty = some row → after.faculty = some row
  versions : before.versions <+: after.versions
  latches : after.latches = before.latches
  pins : after.pins = before.pins

section

variable (key : StepKey)

/-- The row is that of the step. -/
def OfStep (taskId stepId : Id) : Prop := taskId = key.taskId.column ∧ stepId = key.stepId.column

instance (taskId stepId : Id) : Decidable (OfStep key taskId stepId) := inferInstanceAs (Decidable (_ ∧ _))

def latchRow (tables : Tables) : Option LatchRow :=
  tables.latches.find? fun row => OfStep key row.taskId row.stepId

def pinRow (tables : Tables) : Option PinRow :=
  tables.pins.find? fun row => OfStep key row.taskId row.stepId

end

/-! ## Guards -/

/-- A latch that is inserted: its keys, and `identity_cognition_latch_guard`. -/
structure LatchFits (tables : Tables) (row : LatchRow) : Prop where
  fresh : ∀ other ∈ tables.latches, other.taskId = row.taskId → other.stepId ≠ row.stepId
  bound : tables.binding = some ⟨row.tenantId, row.releaseEpoch⟩
  positive : 0 < row.releaseEpoch
  started : ∃ start, tables.marker = some start ∧ start ≤ row.releaseEpoch
  analyst : ∃ faculty, tables.faculty = some faculty ∧ faculty.facultyId = js "intelligence"

def textOf (pin : Json) (name : String) : Option JsString := (pin.field? (js name)).bind Json.asString?

/-- A pin that is inserted: its key, its checks, and `identity_pin_guard_v1`. -/
structure PinFits (sha256 : List UInt8 → HexDigest) (tables : Tables) (row : PinRow) : Prop where
  fresh : ∀ other ∈ tables.pins, other.taskId = row.taskId → other.stepId ≠ row.stepId
  tenant : textOf row.pin "tenantId" = some row.tenantId.text
  task : textOf row.pin "taskId" = some row.taskId.text
  step : textOf row.pin "stepId" = some row.stepId.text
  identity : textOf row.pin "identityId" = some row.identityId.text
  version : (row.pin.field? (js "identityVersion")).bind Json.asInt? = some row.identityVersion
  contract : textOf row.pin "mode" = some (js "REQUIRED") ∧
    textOf row.pin "digestContract" = some identityCoreContractV1 ∧
    textOf row.pin "projectionSchema" = some identityProjectionSchemaV1 ∧
    textOf row.pin "projectionProfile" = some analystIntelligenceV1 ∧
    textOf row.pin "facultyId" = some (js "intelligence")
  source : ∃ version ∈ tables.versions, version.identityId = row.identityId ∧
    version.version = row.identityVersion ∧ version.tenantId = row.tenantId ∧
    textOf row.pin "identityVersionId" = some version.id.text ∧
    textOf row.pin "identityCoreDigest" = some version.identityCoreDigest ∧
    textOf row.pin "classADigest" = some version.classADigest ∧
    sqlDigest sha256 version.document = .ok version.identityCoreDigest ∧
    sqlClassADigest sha256 version.document = .ok (some version.classADigest)
  projection : ∃ projection, row.pin.field? (js "projection") = some projection ∧
    ∃ digest, sqlDigest sha256 projection = .ok digest ∧ textOf row.pin "projectionDigest" = some digest
  faculty : ∃ faculty, tables.faculty = some faculty ∧ faculty.tenantId = row.tenantId ∧
    textOf row.pin "facultyId" = some faculty.facultyId ∧
    (row.pin.field? (js "facultyVersion")).bind Json.asInt? = some faculty.facultyVersion ∧
    textOf row.pin "facultyDigest" = some faculty.facultyDigest

/-- `identity_latch_pin_consistency`, checked when the rows of a step are about to be committed. -/
def LatchPinConsistent (key : StepKey) (latches : List LatchRow) (pins : List PinRow) : Prop :=
  ∃ latch, latches.find? (fun row => OfStep key row.taskId row.stepId) = some latch ∧
    let counted := pins.filter fun row => OfStep key row.taskId row.stepId
    (latch.mode = .required → counted.length = 1) ∧ (latch.mode = .none → counted.length = 0) ∧
      ∀ pin ∈ counted, pin.tenantId = latch.tenantId

/-! ## Calls -/

/-- What a canonical read is made for. -/
inductive Job where
  | latching (input : LatchInput)
  | persisted (input : LatchInput)
  | authorizing (tenantId : Id) (state : Json) (facultyPin : Option FacultyPin) (request : ModelRequest)
      (expected : JsString)

def Job.tenantId : Job → Id
  | .latching input => input.tenantId
  | .persisted input => input.tenantId
  | .authorizing tenantId .. => tenantId

def Job.key : Job → StepKey
  | .latching input => input.key
  | .persisted input => input.key
  | .authorizing _ _ _ request _ => ⟨request.taskId, request.stepId⟩

/-- The queries of a canonical read that were answered. -/
inductive Seen where
  | nothing
  | binding (binding : Option BindingRow)
  | marker (binding : Option BindingRow) (marker : Option Nat)
  | latch (binding : Option BindingRow) (marker : Option Nat) (latch : Option LatchRow)

inductive Stage where
  | idle
  | reading (job : Job) (seen : Seen)
  | proceeding (input : LatchInput) (facultyPin : FacultyPin)
  | choosing (input : LatchInput) (facultyPin : FacultyPin) (epoch : Nat)
  | sourcing (input : LatchInput) (facultyPin : FacultyPin) (epoch : Nat) (identityId : Id) (version : Int)
  | pinning (input : LatchInput) (epoch : Nat) (pin : IdentityCognitionPin)
  | latching (input : LatchInput) (epoch : Nat) (pin : Option PinRow)
  | committing (input : LatchInput) (latch : LatchRow) (pin : Option PinRow)
  | authorizing (tenantId : Id) (found : Except Failure CanonicalRead) (state : Json)
      (facultyPin : Option FacultyPin) (request : ModelRequest) (expected : JsString)

/-- The advisory lock that the call holds: it is taken on the texts of the step. -/
def Stage.lock : Stage → Option StepKey
  | .reading (.latching input) _ => some input.key
  | .proceeding input _ => some input.key
  | .choosing input .. => some input.key
  | .sourcing input .. => some input.key
  | .pinning input .. => some input.key
  | .latching input .. => some input.key
  | .committing input .. => some input.key
  | _ => none

/-- Texts that name one step. -/
def SameStep (key other : StepKey) : Prop := OfStep key other.taskId.column other.stepId.column

inductive Event where
  | returned (state : IdentityCognitionState)
  | authorized (state : Json) (stored : IdentityCognitionState)

structure State where
  tables : Tables
  stages : Nat → Stage
  past : List Event

def State.start (tables : Tables) : State := ⟨tables, fun _ => .idle, []⟩

def at_ (stages : Nat → Stage) (call : Nat) (stage : Stage) : Nat → Stage :=
  fun other => if other = call then stage else stages other

/-- The pin as the database keeps it. -/
def pinRowOf (input : LatchInput) (pin : IdentityCognitionPin) (kept : Json) : PinRow :=
  ⟨input.tenantId.column, input.key.taskId.column, input.key.stepId.column, pin.version.identityId.column,
    pin.version.identityVersion.val, kept⟩

def latchRowOf (input : LatchInput) (enabled : Bool) (epoch : Nat) : LatchRow :=
  ⟨input.tenantId.column, input.key.taskId.column, input.key.stepId.column, if enabled then .required else .none, epoch⟩

section Runs

variable (sha256 : List UInt8 → HexDigest) (key : StepKey)

inductive Step (state : State) : State → Prop where
  | change (after : Tables) (evolves : Evolves state.tables after) : Step state ⟨after, state.stages, state.past⟩
  | lose (taken : Nat → Bool) :
      Step state ⟨state.tables, fun call => if taken call then .idle else state.stages call, state.past⟩
  | begin_ (call : Nat) (input : LatchInput) (idle : state.stages call = .idle) (ofStep : SameStep key input.key)
      (free : ∀ other, (state.stages other).lock ≠ some input.key) :
      Step state ⟨state.tables, at_ state.stages call (.reading (.latching input) .nothing), state.past⟩
  | beginAuthorize (call : Nat) (tenantId : Id) (journaled : Json) (facultyPin : Option FacultyPin)
      (request : ModelRequest) (expected : JsString) (idle : state.stages call = .idle)
      (ofStep : SameStep key ⟨request.taskId, request.stepId⟩) :
      Step state ⟨state.tables,
        at_ state.stages call (.reading (.authorizing tenantId journaled facultyPin request expected) .nothing),
        state.past⟩
  | readBinding (call : Nat) (job : Job) (goes : state.stages call = .reading job .nothing) :
      Step state ⟨state.tables, at_ state.stages call (.reading job (.binding state.tables.binding)), state.past⟩
  | readMarker (call : Nat) (job : Job) (binding : Option BindingRow)
      (goes : state.stages call = .reading job (.binding binding)) :
      Step state ⟨state.tables, at_ state.stages call (.reading job (.marker binding state.tables.marker)), state.past⟩
  | readLatch (call : Nat) (job : Job) (binding : Option BindingRow) (marker : Option Nat)
      (goes : state.stages call = .reading job (.marker binding marker)) :
      Step state ⟨state.tables,
        at_ state.stages call (.reading job (.latch binding marker (latchRow key state.tables))), state.past⟩
  | answer (call : Nat) (input : LatchInput) (binding : Option BindingRow) (marker : Option Nat)
      (latch : Option LatchRow) (answer : IdentityCognitionState)
      (goes : state.stages call = .reading (.latching input) (.latch binding marker latch))
      (decided : decideLatch input (read sha256 input.tenantId input.key binding marker latch (pinRow key state.tables)) =
        .answers answer) :
      Step state ⟨state.tables, at_ state.stages call .idle, .returned answer :: state.past⟩
  | proceed (call : Nat) (input : LatchInput) (binding : Option BindingRow) (marker : Option Nat)
      (latch : Option LatchRow) (facultyPin : FacultyPin)
      (goes : state.stages call = .reading (.latching input) (.latch binding marker latch))
      (decided : decideLatch input (read sha256 input.tenantId input.key binding marker latch (pinRow key state.tables)) =
        .proceeds facultyPin) :
      Step state ⟨state.tables, at_ state.stages call (.proceeding input facultyPin), state.past⟩
  | readFlag (call : Nat) (input : LatchInput) (facultyPin : FacultyPin) (bound : BindingRow) (enabled : Bool)
      (goes : state.stages call = .proceeding input facultyPin) (found : state.tables.binding = some bound) :
      Step state ⟨state.tables, at_ state.stages call
        (if enabled then .choosing input facultyPin bound.releaseEpoch
          else .latching input bound.releaseEpoch none), state.past⟩
  | readCurrent (call : Nat) (input : LatchInput) (facultyPin : FacultyPin) (epoch : Nat) (identityId : Id)
      (version : Int) (goes : state.stages call = .choosing input facultyPin epoch)
      (current : state.tables.current input.tenantId.column = [(identityId, version)]) :
      Step state ⟨state.tables, at_ state.stages call (.sourcing input facultyPin epoch identityId version),
        state.past⟩
  | build (call : Nat) (input : LatchInput) (facultyPin : FacultyPin) (epoch : Nat) (identityId : Id) (version : Int)
      (src : Option SourceRow) (pin : IdentityCognitionPin)
      (goes : state.stages call = .sourcing input facultyPin epoch identityId version)
      (found : source sha256 state.tables.versions input.tenantId identityId version = .ok src)
      (built : buildPin sha256 input facultyPin identityId src = .ok pin) :
      Step state ⟨state.tables, at_ state.stages call (.pinning input epoch pin), state.past⟩
  | insertPin (call : Nat) (input : LatchInput) (epoch : Nat) (pin : IdentityCognitionPin) (kept : Json)
      (goes : state.stages call = .pinning input epoch pin)
      (same : kept.SameUpToKeyOrder (IdentityCognitionPin.codec.write pin))
      (fits : PinFits sha256 state.tables (pinRowOf input pin kept)) :
      Step state ⟨state.tables, at_ state.stages call (.latching input epoch (some (pinRowOf input pin kept))),
        state.past⟩
  | insertLatch (call : Nat) (input : LatchInput) (epoch : Nat) (pin : Option PinRow)
      (goes : state.stages call = .latching input epoch pin)
      (fits : LatchFits state.tables (latchRowOf input pin.isSome epoch)) :
      Step state ⟨state.tables, at_ state.stages call (.committing input (latchRowOf input pin.isSome epoch) pin),
        state.past⟩
  | commit (call : Nat) (input : LatchInput) (latch : LatchRow) (pin : Option PinRow)
      (goes : state.stages call = .committing input latch pin)
      (freshLatch : ∀ other ∈ state.tables.latches, other.taskId = latch.taskId → other.stepId ≠ latch.stepId)
      (freshPin : ∀ row ∈ pin, ∀ other ∈ state.tables.pins, other.taskId = row.taskId → other.stepId ≠ row.stepId)
      (consistent : LatchPinConsistent key (state.tables.latches ++ [latch]) (state.tables.pins ++ pin.toList)) :
      Step state ⟨{ state.tables with
          latches := state.tables.latches ++ [latch]
          pins := state.tables.pins ++ pin.toList },
        at_ state.stages call (.reading (.persisted input) .nothing), state.past⟩
  | answerPersisted (call : Nat) (input : LatchInput) (binding : Option BindingRow) (marker : Option Nat)
      (latch : Option LatchRow) (answer : ContractState)
      (goes : state.stages call = .reading (.persisted input) (.latch binding marker latch))
      (persisted : persistedState (read sha256 input.tenantId input.key binding marker latch (pinRow key state.tables)) =
        .ok answer) :
      Step state ⟨state.tables, at_ state.stages call .idle, .returned (.contract answer) :: state.past⟩
  | readSource (call : Nat) (tenantId : Id) (journaled : Json) (facultyPin : Option FacultyPin)
      (request : ModelRequest) (expected : JsString) (binding : Option BindingRow) (marker : Option Nat)
      (latch : Option LatchRow)
      (goes : state.stages call =
        .reading (.authorizing tenantId journaled facultyPin request expected) (.latch binding marker latch)) :
      Step state ⟨state.tables, at_ state.stages call
        (.authorizing tenantId (read sha256 tenantId ⟨request.taskId, request.stepId⟩ binding marker latch (pinRow key state.tables))
          journaled facultyPin request expected), state.past⟩
  | authorize (call : Nat) (tenantId : Id) (found : CanonicalRead) (journaled : Json)
      (facultyPin : Option FacultyPin) (request : ModelRequest) (expected : JsString)
      (stored : IdentityCognitionState)
      (goes : state.stages call = .authorizing tenantId (.ok found) journaled facultyPin request expected)
      (holds : canonicalState found = .ok stored)
      (accepted : authorize sha256 true (.ok found)
        (fun pin => source sha256 state.tables.versions pin.tenantId pin.version.identityId
          pin.version.identityVersion.val) journaled facultyPin request expected = .ok ()) :
      Step state ⟨state.tables, at_ state.stages call .idle, .authorized journaled stored :: state.past⟩

/-- The states of runs that begin before anything was latched. -/
inductive Reachable : State → Prop where
  | start (tables : Tables) (unlatched : tables.latches = []) (unpinned : tables.pins = []) :
      Reachable (.start tables)
  | step {state next : State} (reached : Reachable state) (taken : Step sha256 key state next) : Reachable next

end Runs

/-! ## What the tables keep -/

section Invariants

variable (sha256 : List UInt8 → HexDigest) (key : StepKey)

/-- The state that the rows of the step make. -/
def storedContract (tables : Tables) : Except Failure ContractState :=
  match tables.marker, latchRow key tables with
  | some start, some latch => do
      let pin ← readPinRow sha256 latch.tenantId (pinRow key tables)
      contractState start latch pin
  | _, _ => .error .thrown

/-- A latch is of the step, of its binding, and not from before the contract's start. -/
structure LatchOk (tables : Tables) (row : LatchRow) : Prop where
  ofStep : OfStep key row.taskId row.stepId
  bound : tables.binding = some ⟨row.tenantId, row.releaseEpoch⟩
  started : ∃ start, tables.marker = some start ∧ start ≤ row.releaseEpoch

/-- A pin is of the step, and names what its row names. -/
structure PinOk (row : PinRow) : Prop where
  ofStep : OfStep key row.taskId row.stepId
  names : ∃ pin, row.pin.SameUpToKeyOrder (IdentityCognitionPin.codec.write pin) ∧ pin.tenantId = row.tenantId ∧
    pin.taskId = row.taskId ∧ pin.stepId = row.stepId

/-- The pins that go with a latch. -/
def Paired (latch : LatchRow) (pins : List PinRow) : Prop :=
  match latch.mode with
  | .none => pins = []
  | .required => ∃ pin, pins = [pin] ∧ PinOk key pin ∧ pin.tenantId = latch.tenantId

/-- What was read is still there. -/
def SeenOk (tables : Tables) : Seen → Prop
  | .nothing => True
  | .binding binding => ∀ row, binding = some row → tables.binding = some row
  | .marker binding marker =>
      (∀ row, binding = some row → tables.binding = some row) ∧ ∀ start, marker = some start → tables.marker = some start
  | .latch binding marker latch =>
      (∀ row, binding = some row → tables.binding = some row) ∧
        (∀ start, marker = some start → tables.marker = some start) ∧
          ∀ row, latch = some row → latchRow key tables = some row

/-- A read that found a latch found what the rows of the step make, and any other what the binding says. -/
structure FoundOk (tables : Tables) (found : CanonicalRead) : Prop where
  contract : ∀ start latch pin, found = .contract start (some latch) pin →
    ∀ answer, contractState start latch pin = .ok answer → storedContract sha256 key tables = .ok answer
  legacy : ∀ state latched, found = .legacy state latched → SameStep key ⟨state.taskId, state.stepId⟩ ∧
    ∀ epoch, state.releaseEpoch = some epoch →
      ∃ bound, tables.binding = some bound ∧ (bound.releaseEpoch : Int) = epoch.val

def StageOk (tables : Tables) : Stage → Prop
  | .idle => True
  | .reading job seen => SameStep key job.key ∧ SeenOk key tables seen
  | .proceeding input _ => SameStep key input.key
  | .choosing input .. => SameStep key input.key
  | .sourcing input .. => SameStep key input.key
  | .pinning input _ pin => SameStep key input.key ∧ pin.tenantId = input.tenantId ∧ pin.taskId = input.key.taskId ∧
      pin.stepId = input.key.stepId
  | .latching input _ pin => SameStep key input.key ∧ ∀ row ∈ pin, PinOk key row
  | .committing input latch pin => SameStep key input.key ∧ LatchOk key tables latch ∧ ∀ row ∈ pin, PinOk key row
  | .authorizing _ found _ _ _ _ => ∀ read, found = .ok read → FoundOk sha256 key tables read

/-- What every reachable state keeps. -/
structure Sound (state : State) : Prop where
  latches : (state.tables.latches = [] ∧ state.tables.pins = []) ∨
    ∃ latch, state.tables.latches = [latch] ∧ LatchOk key state.tables latch ∧ Paired key latch state.tables.pins
  stages : ∀ call, StageOk sha256 key state.tables (state.stages call)
  returned : ∀ answer, .returned (.contract answer) ∈ state.past → storedContract sha256 key state.tables = .ok answer
  authorized : ∀ journaled stored, .authorized journaled stored ∈ state.past →
    (∃ parsed, IdentityCognitionState.read journaled = some parsed ∧
      canonicalDigest sha256 stored.write = canonicalDigest sha256 parsed.write) ∧
    (∀ answer, stored = .contract answer → storedContract sha256 key state.tables = .ok answer) ∧
    ∀ legacy, stored = .legacy legacy → SameStep key ⟨legacy.taskId, legacy.stepId⟩ ∧
      ∀ epoch, legacy.releaseEpoch = some epoch →
        ∃ bound, state.tables.binding = some bound ∧ (bound.releaseEpoch : Int) = epoch.val

/-- Later tables: what was bound, started or latched stays so. -/
structure Grows (before after : Tables) : Prop where
  binding : ∀ row, before.binding = some row → after.binding = some row
  marker : ∀ start, before.marker = some start → after.marker = some start
  latch : ∀ row, latchRow key before = some row → latchRow key after = some row ∧ pinRow key after = pinRow key before

end Invariants

/-! ## Frames -/

section Proofs

variable {sha256 : List UInt8 → HexDigest} {key : StepKey} {before after : Tables} {state next : State}

theorem Evolves.grows (evolves : Evolves before after) : Grows key before after where
  binding := evolves.binding
  marker := evolves.marker
  latch := fun row found => by
    rw [latchRow, pinRow, evolves.latches, evolves.pins]
    exact ⟨found, rfl⟩

theorem stored_some {answer : ContractState} (stored : storedContract sha256 key before = .ok answer) :
    ∃ start latch, before.marker = some start ∧ latchRow key before = some latch := by
  unfold storedContract at stored
  split at stored
  · next start latch marker latched => exact ⟨start, latch, marker, latched⟩
  · cases stored

theorem Grows.stored (grows : Grows key before after) {answer : ContractState}
    (stored : storedContract sha256 key before = .ok answer) : storedContract sha256 key after = .ok answer := by
  obtain ⟨start, latch, marker, latched⟩ := stored_some stored
  obtain ⟨still, pins⟩ := grows.latch latch latched
  rw [← stored, storedContract, storedContract, grows.marker start marker, marker, still, latched, pins]

theorem LatchOk.mono {row : LatchRow} (ok : LatchOk key before row) (grows : Grows key before after) :
    LatchOk key after row := by
  obtain ⟨start, marker, least⟩ := ok.started
  exact ⟨ok.ofStep, grows.binding _ ok.bound, start, grows.marker start marker, least⟩

theorem SeenOk.mono {seen : Seen} (ok : SeenOk key before seen) (grows : Grows key before after) :
    SeenOk key after seen := by
  cases seen with
  | nothing => trivial
  | binding binding => exact fun row same => grows.binding row (ok row same)
  | marker binding marker =>
      exact ⟨fun row same => grows.binding row (ok.1 row same), fun start same => grows.marker start (ok.2 start same)⟩
  | latch binding marker latch =>
      exact ⟨fun row same => grows.binding row (ok.1 row same),
        fun start same => grows.marker start (ok.2.1 start same),
        fun row same => (grows.latch row (ok.2.2 row same)).1⟩

theorem FoundOk.mono {found : CanonicalRead} (ok : FoundOk sha256 key before found) (grows : Grows key before after) :
    FoundOk sha256 key after found where
  contract := fun start latch pin same answer made => grows.stored (ok.contract start latch pin same answer made)
  legacy := fun legacy latched same => by
    obtain ⟨ofStep, epochs⟩ := ok.legacy legacy latched same
    refine ⟨ofStep, fun epoch given => ?_⟩
    obtain ⟨bound, binding, here⟩ := epochs epoch given
    exact ⟨bound, grows.binding bound binding, here⟩

theorem StageOk.mono {stage : Stage} (ok : StageOk sha256 key before stage) (grows : Grows key before after) :
    StageOk sha256 key after stage := by
  cases stage with
  | idle => trivial
  | reading job seen => exact ⟨ok.1, ok.2.mono grows⟩
  | proceeding => exact ok
  | choosing => exact ok
  | sourcing => exact ok
  | pinning => exact ok
  | latching => exact ok
  | committing input latch pin => exact ⟨ok.1, ok.2.1.mono grows, ok.2.2⟩
  | authorizing tenantId found state facultyPin request expected =>
      exact fun read same => (ok read same).mono grows

theorem stages_at {tables : Tables} {stages : Nat → Stage} {stage : Stage} {call : Nat}
    (others : ∀ other, StageOk sha256 key tables (stages other)) (here : StageOk sha256 key tables stage) :
    ∀ other, StageOk sha256 key tables (at_ stages call stage other) := by
  intro other
  unfold at_
  split
  · exact here
  · exact others other

/-! ## Reads -/

theorem read_contract {tenantId : Id} {asked : StepKey} {binding : Option BindingRow} {marker : Option Nat}
    {latch : Option LatchRow} {pin : Option PinRow} {start : Nat} {found : Option LatchRow}
    {pinned : Option IdentityCognitionPin}
    (ok : read sha256 tenantId asked binding marker latch pin = .ok (.contract start found pinned)) :
    marker = some start ∧ latch = found ∧ (∃ row, binding = some row ∧ row.tenantId = tenantId) ∧
      readPinRow sha256 tenantId pin = .ok pinned := by
  unfold CognitionBinding.read at ok
  split at ok
  · cases ok
  · next tenant =>
      cases binding with
      | none => cases ok
      | some row =>
          have owner : row.tenantId = tenantId := by
            by_contra other
            exact tenant (decide_eq_true other)
          cases marker with
          | none =>
              obtain ⟨epoch, -, rest⟩ := Transactions.bind_ok ok
              cases rest
          | some begun =>
              dsimp only at ok
              split at ok
              · obtain ⟨epoch, -, rest⟩ := Transactions.bind_ok ok
                cases rest
              · obtain ⟨kept, read, rest⟩ := Transactions.bind_ok ok
                cases rest
                exact ⟨rfl, rfl, ⟨row, rfl, owner⟩, read⟩

theorem between?_some {least greatest number : Int} {kept : Between least greatest}
    (within : between? least greatest number = some kept) : kept.val = number := by
  unfold between? at within
  split at within
  · cases within
    rfl
  · cases within

theorem orThrow_ok {α : Type} {found : Option α} {value : α} (given : orThrow found = .ok value) :
    found = some value := by
  cases found with
  | none => cases given
  | some held =>
      cases given
      rfl

theorem read_legacy {tenantId : Id} {asked : StepKey} {binding : Option BindingRow} {marker : Option Nat}
    {latch : Option LatchRow} {pin : Option PinRow} {legacy : LegacyState} {latched : Bool}
    (ok : read sha256 tenantId asked binding marker latch pin = .ok (.legacy legacy latched)) :
    legacy.taskId = asked.taskId ∧ legacy.stepId = asked.stepId ∧ ∀ epoch, legacy.releaseEpoch = some epoch →
      ∃ bound, binding = some bound ∧ (bound.releaseEpoch : Int) = epoch.val := by
  unfold CognitionBinding.read at ok
  split at ok
  · cases ok
  · cases binding with
    | none =>
        cases ok
        exact ⟨rfl, rfl, fun epoch given => by cases given⟩
    | some row =>
        cases marker with
        | none =>
            obtain ⟨epoch, given, rest⟩ := Transactions.bind_ok ok
            cases rest
            refine ⟨rfl, rfl, fun other same => ?_⟩
            cases same
            exact ⟨row, rfl, (between?_some (orThrow_ok given)).symm⟩
        | some begun =>
            dsimp only at ok
            split at ok
            · obtain ⟨epoch, given, rest⟩ := Transactions.bind_ok ok
              cases rest
              refine ⟨rfl, rfl, fun other same => ?_⟩
              cases same
              exact ⟨row, rfl, (between?_some (orThrow_ok given)).symm⟩
            · obtain ⟨kept, read, rest⟩ := Transactions.bind_ok ok
              cases rest

/-- A latch that the tables have is of the binding's tenant. -/
theorem Sound.latched (sound : Sound sha256 key state) {latch : LatchRow}
    (found : latchRow key state.tables = some latch) :
    state.tables.latches = [latch] ∧ LatchOk key state.tables latch ∧ Paired key latch state.tables.pins := by
  rcases sound.latches with ⟨unlatched, -⟩ | ⟨held, only, ok, paired⟩
  · rw [latchRow, unlatched] at found
    cases found
  · have here : latchRow key state.tables = some held := by
      rw [latchRow, only]
      exact List.find?_cons_of_pos (decide_eq_true ok.ofStep)
    cases here.symm.trans found
    exact ⟨only, ok, paired⟩

/-- What a read finds once all its queries were answered. -/
theorem foundOk_of_seen (sound : Sound sha256 key state) {tenantId : Id} {asked : StepKey}
    (ofStep : SameStep key asked) {binding : Option BindingRow} {marker : Option Nat} {latch : Option LatchRow}
    (seen : SeenOk key state.tables (.latch binding marker latch)) {found : CanonicalRead}
    (ok : read sha256 tenantId asked binding marker latch (pinRow key state.tables) = .ok found) :
    FoundOk sha256 key state.tables found where
  contract := by
    rintro start held pin rfl answer made
    obtain ⟨rfl, rfl, ⟨row, rfl, owner⟩, pins⟩ := read_contract ok
    have here := seen.2.2 held rfl
    have bound := seen.1 row rfl
    have tenant : held.tenantId = tenantId := by
      rw [(sound.latched here).2.1.bound] at bound
      cases bound
      exact owner
    rw [storedContract, seen.2.1 start rfl, here]
    dsimp only
    rw [tenant, pins]
    exact made
  legacy := by
    rintro legacy latched rfl
    obtain ⟨task, step, epochs⟩ := read_legacy ok
    refine ⟨?_, fun epoch given => ?_⟩
    · rw [task, step]
      exact ofStep
    · obtain ⟨bound, binding, here⟩ := epochs epoch given
      exact ⟨bound, seen.1 bound binding, here⟩

/-! ## Steps -/

theorem contractState_of_answer {input : LatchInput} {found : Except Failure CanonicalRead} {answer : ContractState}
    (decided : decideLatch input found = .answers (.contract answer)) :
    ∃ start latch pin, found = .ok (.contract start (some latch) pin) ∧ contractState start latch pin = .ok answer := by
  unfold decideLatch at decided
  split at decided
  · cases decided
  · cases decided
  · cases decided
  · next start latch pin =>
      split at decided
      · cases decided
      · next made =>
          cases decided
          exact ⟨start, latch, pin, rfl, made⟩
  · split at decided
    · cases decided
    · split at decided
      · cases decided
      · cases decided

theorem contractState_of_persisted {found : Except Failure CanonicalRead} {answer : ContractState}
    (persisted : persistedState found = .ok answer) :
    ∃ start latch pin, found = .ok (.contract start (some latch) pin) ∧ contractState start latch pin = .ok answer := by
  unfold persistedState at persisted
  split at persisted
  · cases persisted
  · next start latch pin => exact ⟨start, latch, pin, rfl, persisted⟩
  · cases persisted

theorem contract_of_canonical {found : CanonicalRead} {answer : ContractState}
    (holds : canonicalState found = .ok (.contract answer)) :
    ∃ start latch pin, found = .contract start (some latch) pin ∧ contractState start latch pin = .ok answer := by
  unfold canonicalState at holds
  split at holds
  · cases holds
  · cases holds
  · cases holds
  · next start latch pin =>
      obtain ⟨made, here, same⟩ := Transactions.map_ok holds
      cases same
      exact ⟨start, latch, pin, rfl, here⟩

theorem legacy_of_canonical {found : CanonicalRead} {legacy : LegacyState}
    (holds : canonicalState found = .ok (.legacy legacy)) : ∃ latched, found = .legacy legacy latched := by
  unfold canonicalState at holds
  split at holds
  · cases holds
  · cases holds
    exact ⟨false, rfl⟩
  · cases holds
  · obtain ⟨made, -, same⟩ := Transactions.map_ok holds
    cases same

/-- A request is authorised only when the journal and the database have one digest. -/
theorem agreed_of_authorize {found : CanonicalRead} {src : IdentityCognitionPin → Except Failure (Option SourceRow)}
    {journaled : Json} {facultyPin : Option FacultyPin} {request : ModelRequest} {expected : JsString}
    {stored : IdentityCognitionState} (holds : canonicalState found = .ok stored)
    (accepted : authorize sha256 true (.ok found) src journaled facultyPin request expected = .ok ()) :
    ∃ parsed, IdentityCognitionState.read journaled = some parsed ∧
      canonicalDigest sha256 stored.write = canonicalDigest sha256 parsed.write := by
  unfold CognitionBinding.authorize at accepted
  split at accepted
  · cases accepted
  · rw [if_neg (by decide)] at accepted
    obtain ⟨read, same, accepted⟩ := Transactions.bind_ok accepted
    cases same
    obtain ⟨agreed, agrees, -⟩ := Transactions.bind_ok accepted
    unfold agreedState at agrees
    obtain ⟨db, here, agrees⟩ := Transactions.bind_ok agrees
    cases holds.symm.trans here
    obtain ⟨parsed, reads, agrees⟩ := Transactions.bind_ok agrees
    refine ⟨parsed, orThrow_ok reads, ?_⟩
    split at agrees
    · cases agrees
    · next same => exact not_not.mp same

theorem Sound.returnedWith (sound : Sound sha256 key state) {answer : IdentityCognitionState} {call : Nat}
    (holds : ∀ contract, answer = .contract contract → storedContract sha256 key state.tables = .ok contract) :
    Sound sha256 key ⟨state.tables, at_ state.stages call .idle, .returned answer :: state.past⟩ where
  latches := sound.latches
  stages := stages_at sound.stages trivial
  returned := fun contract member => by
    rcases List.mem_cons.mp member with here | earlier
    · exact holds contract (Event.returned.inj here).symm
    · exact sound.returned contract earlier
  authorized := fun journaled stored member => by
    rcases List.mem_cons.mp member with here | earlier
    · cases here
    · exact sound.authorized journaled stored earlier

/-- A call that moves on and changes no table. -/
theorem Sound.moved (sound : Sound sha256 key state) {call : Nat} {stage : Stage}
    (ok : StageOk sha256 key state.tables stage) :
    Sound sha256 key ⟨state.tables, at_ state.stages call stage, state.past⟩ :=
  ⟨sound.latches, stages_at sound.stages ok, sound.returned, sound.authorized⟩

theorem Sound.grown (sound : Sound sha256 key state) (grows : Grows key state.tables after)
    {stages : Nat → Stage} (ok : ∀ call, StageOk sha256 key after (stages call))
    (latches : (after.latches = [] ∧ after.pins = []) ∨
      ∃ latch, after.latches = [latch] ∧ LatchOk key after latch ∧ Paired key latch after.pins) :
    Sound sha256 key ⟨after, stages, state.past⟩ where
  latches := latches
  stages := ok
  returned := fun answer member => grows.stored (sound.returned answer member)
  authorized := fun journaled stored member => by
    obtain ⟨agreed, contract, legacy⟩ := sound.authorized journaled stored member
    refine ⟨agreed, fun answer same => grows.stored (contract answer same), fun state same => ?_⟩
    obtain ⟨ofStep, epochs⟩ := legacy state same
    refine ⟨ofStep, fun epoch given => ?_⟩
    obtain ⟨bound, binding, here⟩ := epochs epoch given
    exact ⟨bound, grows.binding bound binding, here⟩

theorem Sound.changed (sound : Sound sha256 key state) (evolves : Evolves state.tables after) :
    Sound sha256 key ⟨after, state.stages, state.past⟩ := by
  have grows : Grows key state.tables after := evolves.grows
  refine sound.grown grows (fun call => (sound.stages call).mono grows) ?_
  rw [evolves.latches, evolves.pins]
  rcases sound.latches with none | ⟨latch, only, ok, paired⟩
  · exact .inl none
  · exact .inr ⟨latch, only, ok.mono grows, paired⟩

/-- The pin that is inserted names the step, since its checks compare it with the row. -/
theorem pinOk_of_fits {tables : Tables} {input : LatchInput} {pin : IdentityCognitionPin} {kept : Json}
    (ofStep : SameStep key input.key) (same : kept.SameUpToKeyOrder (IdentityCognitionPin.codec.write pin))
    (fits : PinFits sha256 tables (pinRowOf input pin kept)) : PinOk key (pinRowOf input pin kept) where
  ofStep := ofStep
  names := by
    have field : ∀ {name : String} {text written : JsString}, textOf kept name = some text →
        (IdentityCognitionPin.codec.write pin).field? (js name) = some (.str written) → written = text := by
      intro name text written kept_ found
      obtain ⟨other, there, like⟩ := same.field (js name) found
      rw [like.str] at there
      rw [textOf, there] at kept_
      exact Option.some.inj kept_
    exact ⟨pin, same, Contracts.Common.Id.ext (field fits.tenant rfl), Contracts.Common.Id.ext (field fits.task rfl),
      Contracts.Common.Id.ext (field fits.step rfl)⟩

theorem filter_ofStep {pins : Option PinRow} (ok : ∀ row ∈ pins, PinOk key row) :
    (pins.toList.filter fun row => OfStep key row.taskId row.stepId) = pins.toList := by
  refine List.filter_eq_self.mpr fun row member => ?_
  exact decide_eq_true (ok row (Option.mem_toList.mp member)).ofStep

theorem Sound.committed (sound : Sound sha256 key state) {call : Nat} {input : LatchInput} {latch : LatchRow}
    {pin : Option PinRow} (ofStep : SameStep key input.key) (latchOk : LatchOk key state.tables latch)
    (pinOk : ∀ row ∈ pin, PinOk key row)
    (fresh : ∀ other ∈ state.tables.latches, other.taskId = latch.taskId → other.stepId ≠ latch.stepId)
    (consistent : LatchPinConsistent key (state.tables.latches ++ [latch]) (state.tables.pins ++ pin.toList)) :
    Sound sha256 key ⟨{ state.tables with
        latches := state.tables.latches ++ [latch]
        pins := state.tables.pins ++ pin.toList },
      at_ state.stages call (.reading (.persisted input) .nothing), state.past⟩ := by
  have empty : state.tables.latches = [] ∧ state.tables.pins = [] := by
    rcases sound.latches with none | ⟨held, only, ok, -⟩
    · exact none
    · refine absurd (ok.ofStep.2.trans latchOk.ofStep.2.symm) (fresh held ?_ (ok.ofStep.1.trans latchOk.ofStep.1.symm))
      rw [only]
      exact List.mem_singleton_self held
  have grows : Grows key state.tables { state.tables with
      latches := state.tables.latches ++ [latch]
      pins := state.tables.pins ++ pin.toList } :=
    ⟨fun _ found => found, fun _ found => found, fun row found => by
      rw [latchRow, empty.1] at found
      cases found⟩
  refine sound.grown grows (stages_at (fun other => (sound.stages other).mono grows) ⟨ofStep, trivial⟩)
    (.inr ⟨latch, ?_, latchOk.mono grows, ?_⟩)
  · show state.tables.latches ++ [latch] = [latch]
    rw [empty.1, List.nil_append]
  · show Paired key latch (state.tables.pins ++ pin.toList)
    rw [empty.1, empty.2, List.nil_append, List.nil_append] at consistent
    rw [empty.2, List.nil_append]
    obtain ⟨held, found, required, none, tenants⟩ := consistent
    have same : held = latch := List.mem_singleton.mp (List.mem_of_find?_eq_some found)
    subst same
    rw [filter_ofStep pinOk] at required none tenants
    unfold Paired
    cases mode : held.mode with
    | none => exact List.length_eq_zero_iff.mp (none mode)
    | required =>
        cases pin with
        | none => exact absurd (required mode) (by decide)
        | some row => exact ⟨row, rfl, pinOk row rfl, tenants row (List.mem_singleton_self row)⟩

theorem latchOk_of_fits {tables : Tables} {row : LatchRow} (ofStep : OfStep key row.taskId row.stepId)
    (fits : LatchFits tables row) : LatchOk key tables row :=
  ⟨ofStep, fits.bound, fits.started⟩

theorem profile_pin {input : LatchInput} {facultyPin : FacultyPin} {identityId : Id} {src : Option SourceRow}
    {pin : IdentityCognitionPin} (built : buildPin sha256 input facultyPin identityId src = .ok pin) :
    pin.tenantId = input.tenantId ∧ pin.taskId = input.key.taskId ∧ pin.stepId = input.key.stepId := by
  unfold buildPin at built
  cases src with
  | none => cases built
  | some src =>
      obtain ⟨⟨⟩, -, built⟩ := Transactions.bind_ok built
      split at built
      · cases built
      · obtain ⟨projection, -, built⟩ := Transactions.bind_ok built
        obtain ⟨bytes, -, built⟩ := Transactions.bind_ok built
        obtain ⟨digest, -, built⟩ := Transactions.bind_ok built
        obtain ⟨version, -, built⟩ := Transactions.bind_ok built
        obtain ⟨core, -, built⟩ := Transactions.bind_ok built
        obtain ⟨classA, -, built⟩ := Transactions.bind_ok built
        obtain ⟨within, -, built⟩ := Transactions.bind_ok built
        split at built
        · cases built
        · cases built
          exact ⟨rfl, rfl, rfl⟩

theorem Sound.step (sound : Sound sha256 key state) (taken : Step sha256 key state next) : Sound sha256 key next := by
  cases taken with
  | change after evolves => exact sound.changed evolves
  | lose taken =>
      refine ⟨sound.latches, fun call => ?_, sound.returned, sound.authorized⟩
      dsimp only
      split
      · trivial
      · exact sound.stages call
  | begin_ call input idle ofStep free => exact sound.moved ⟨ofStep, trivial⟩
  | beginAuthorize call tenantId journaled facultyPin request expected idle ofStep =>
      exact sound.moved ⟨ofStep, trivial⟩
  | readBinding call job goes =>
      have stage := sound.stages call
      rw [goes] at stage
      exact sound.moved ⟨stage.1, fun _ found => found⟩
  | readMarker call job binding goes =>
      have stage := sound.stages call
      rw [goes] at stage
      exact sound.moved ⟨stage.1, stage.2, fun _ found => found⟩
  | readLatch call job binding marker goes =>
      have stage := sound.stages call
      rw [goes] at stage
      exact sound.moved ⟨stage.1, stage.2.1, stage.2.2, fun _ found => found⟩
  | answer call input binding marker latch answer goes decided =>
      have stage := sound.stages call
      rw [goes] at stage
      refine sound.returnedWith fun contract same => ?_
      subst same
      obtain ⟨start, held, pin, found, made⟩ := contractState_of_answer decided
      exact (foundOk_of_seen sound stage.1 stage.2 found).contract start held pin rfl contract made
  | proceed call input binding marker latch facultyPin goes decided =>
      have stage := sound.stages call
      rw [goes] at stage
      exact sound.moved stage.1
  | readFlag call input facultyPin bound enabled goes found =>
      have stage := sound.stages call
      rw [goes] at stage
      refine sound.moved ?_
      cases enabled with
      | true => exact stage
      | false => exact ⟨stage, fun row none => by cases none⟩
  | readCurrent call input facultyPin epoch identityId version goes current =>
      have stage := sound.stages call
      rw [goes] at stage
      exact sound.moved stage
  | build call input facultyPin epoch identityId version src pin goes found built =>
      have stage := sound.stages call
      rw [goes] at stage
      exact sound.moved ⟨stage, profile_pin built⟩
  | insertPin call input epoch pin kept goes same fits =>
      have stage := sound.stages call
      rw [goes] at stage
      refine sound.moved ⟨stage.1, fun row member => ?_⟩
      cases member
      exact pinOk_of_fits stage.1 same fits
  | insertLatch call input epoch pin goes fits =>
      have stage := sound.stages call
      rw [goes] at stage
      exact sound.moved ⟨stage.1, latchOk_of_fits stage.1 fits, stage.2⟩
  | commit call input latch pin goes freshLatch freshPin consistent =>
      have stage := sound.stages call
      rw [goes] at stage
      exact sound.committed stage.1 stage.2.1 stage.2.2 freshLatch consistent
  | answerPersisted call input binding marker latch answer goes persisted =>
      have stage := sound.stages call
      rw [goes] at stage
      refine sound.returnedWith fun contract same => ?_
      cases same
      obtain ⟨start, held, pin, found, made⟩ := contractState_of_persisted persisted
      exact (foundOk_of_seen sound stage.1 stage.2 found).contract start held pin rfl answer made
  | readSource call tenantId journaled facultyPin request expected binding marker latch goes =>
      have stage := sound.stages call
      rw [goes] at stage
      exact sound.moved fun found same => foundOk_of_seen sound stage.1 stage.2 same
  | authorize call tenantId found journaled facultyPin request expected stored goes holds accepted =>
      have stage := sound.stages call
      rw [goes] at stage
      have ok := stage found rfl
      refine ⟨sound.latches, stages_at sound.stages trivial, ?_, ?_⟩
      · intro answer member
        rcases List.mem_cons.mp member with here | earlier
        · cases here
        · exact sound.returned answer earlier
      · intro other kept member
        rcases List.mem_cons.mp member with here | earlier
        · cases here
          refine ⟨agreed_of_authorize holds accepted, ?_, ?_⟩
          · rintro answer rfl
            obtain ⟨start, held, pin, rfl, made⟩ := contract_of_canonical holds
            exact ok.contract start held pin rfl answer made
          · rintro legacy rfl
            obtain ⟨latched, rfl⟩ := legacy_of_canonical holds
            exact ok.legacy legacy latched rfl
        · exact sound.authorized other kept earlier

theorem Reachable.sound (reached : Reachable sha256 key state) : Sound sha256 key state := by
  induction reached with
  | start tables unlatched unpinned =>
      exact ⟨.inl ⟨unlatched, unpinned⟩, fun _ => trivial, fun _ member => absurd member List.not_mem_nil,
        fun _ _ member => absurd member List.not_mem_nil⟩
  | step _ taken ih => exact ih.step taken

/-! ## Guarantees -/

variable (sha256) in
/-- The hash has no collision between a stored state and the journaled one that was compared with it. -/
def CollisionFree (past : List Event) : Prop :=
  ∀ journaled stored parsed, .authorized journaled stored ∈ past →
    IdentityCognitionState.read journaled = some parsed →
      canonicalDigest sha256 stored.write = canonicalDigest sha256 parsed.write →
        stored.write.SameUpToKeyOrder parsed.write

variable (sha256 key) in
/-- What the latch of a step guarantees in a state of a run. -/
structure Latched (state : State) : Prop where
  single : state.tables.latches.length ≤ 1
  required : (∃ latch ∈ state.tables.latches, latch.mode = .required) ↔ state.tables.pins.length = 1
  unpinned : (∀ latch ∈ state.tables.latches, latch.mode = .none) → state.tables.pins = []
  agree : ∀ latch ∈ state.tables.latches, OfStep key latch.taskId latch.stepId ∧
    state.tables.binding = some ⟨latch.tenantId, latch.releaseEpoch⟩ ∧
    ∀ row ∈ state.tables.pins, OfStep key row.taskId row.stepId ∧ row.tenantId = latch.tenantId ∧
      ∃ pin, row.pin.SameUpToKeyOrder (IdentityCognitionPin.codec.write pin) ∧ pin.tenantId = latch.tenantId ∧
        pin.taskId = latch.taskId ∧ pin.stepId = latch.stepId
  stored : ∀ answer, .returned (.contract answer) ∈ state.past →
    storedContract sha256 key state.tables = .ok answer
  returned : ∀ first second, .returned (.contract first) ∈ state.past → .returned (.contract second) ∈ state.past →
    first = second
  started : ∀ bound start, state.tables.binding = some bound → state.tables.marker = some start →
    bound.releaseEpoch < start → state.tables.latches = []
  authorized : CollisionFree sha256 state.past → ∀ journaled stored, .authorized journaled stored ∈ state.past →
    IdentityCognitionState.read journaled = some stored ∧
    (∀ answer, stored = .contract answer → storedContract sha256 key state.tables = .ok answer) ∧
    ∀ legacy, stored = .legacy legacy → SameStep key ⟨legacy.taskId, legacy.stepId⟩ ∧
      ∀ epoch, legacy.releaseEpoch = some epoch →
        ∃ bound, state.tables.binding = some bound ∧ (bound.releaseEpoch : Int) = epoch.val

theorem Sound.required (sound : Sound sha256 key state) :
    (∃ latch ∈ state.tables.latches, latch.mode = .required) ↔ state.tables.pins.length = 1 := by
  rcases sound.latches with ⟨unlatched, unpinned⟩ | ⟨latch, only, -, paired⟩
  · rw [unlatched, unpinned]
    constructor
    · rintro ⟨latch, member, -⟩
      cases member
    · intro one
      cases one
  · rw [only]
    unfold Paired at paired
    constructor
    · rintro ⟨other, member, mode⟩
      rw [List.mem_singleton.mp member] at mode
      rw [mode] at paired
      obtain ⟨pin, pins, -⟩ := paired
      rw [pins]
      rfl
    · intro one
      refine ⟨latch, List.mem_singleton_self latch, ?_⟩
      cases mode : latch.mode with
      | required => rfl
      | none =>
          rw [mode] at paired
          rw [show state.tables.pins = [] from paired] at one
          cases one

theorem Sound.unpinned (sound : Sound sha256 key state)
    (none : ∀ latch ∈ state.tables.latches, latch.mode = .none) : state.tables.pins = [] := by
  rcases sound.latches with ⟨-, unpinned⟩ | ⟨latch, only, -, paired⟩
  · exact unpinned
  · have mode := none latch (by rw [only]; exact List.mem_singleton_self latch)
    unfold Paired at paired
    rw [mode] at paired
    exact paired

theorem Sound.agree (sound : Sound sha256 key state) {latch : LatchRow} (member : latch ∈ state.tables.latches) :
    OfStep key latch.taskId latch.stepId ∧ state.tables.binding = some ⟨latch.tenantId, latch.releaseEpoch⟩ ∧
    ∀ row ∈ state.tables.pins, OfStep key row.taskId row.stepId ∧ row.tenantId = latch.tenantId ∧
      ∃ pin, row.pin.SameUpToKeyOrder (IdentityCognitionPin.codec.write pin) ∧ pin.tenantId = latch.tenantId ∧
        pin.taskId = latch.taskId ∧ pin.stepId = latch.stepId := by
  rcases sound.latches with ⟨unlatched, -⟩ | ⟨held, only, ok, paired⟩
  · rw [unlatched] at member
    cases member
  · rw [only] at member
    have same := List.mem_singleton.mp member
    subst same
    refine ⟨ok.ofStep, ok.bound, fun row inside => ?_⟩
    unfold Paired at paired
    cases mode : latch.mode with
    | none =>
        rw [mode] at paired
        rw [show state.tables.pins = [] from paired] at inside
        cases inside
    | required =>
        rw [mode] at paired
        obtain ⟨pin, pins, pinOk, tenant⟩ := paired
        rw [pins] at inside
        have here := List.mem_singleton.mp inside
        subst here
        obtain ⟨read, same, owner, task, step⟩ := pinOk.names
        exact ⟨pinOk.ofStep, tenant, read, same, owner.trans tenant,
          task.trans (pinOk.ofStep.1.trans ok.ofStep.1.symm), step.trans (pinOk.ofStep.2.trans ok.ofStep.2.symm)⟩

/-- The latch of a step is decided once, whatever calls, releases and identities do. -/
theorem latch_decided_once (reached : Reachable sha256 key state) : Latched sha256 key state where
  single := by
    rcases reached.sound.latches with ⟨unlatched, -⟩ | ⟨latch, only, -⟩
    · rw [unlatched]
      exact Nat.zero_le 1
    · rw [only]
      exact Nat.le_refl 1
  required := reached.sound.required
  unpinned := reached.sound.unpinned
  agree := fun _ member => reached.sound.agree member
  stored := reached.sound.returned
  returned := fun first second one two =>
    Except.ok.inj ((reached.sound.returned first one).symm.trans (reached.sound.returned second two))
  started := by
    intro bound start binding marker before
    rcases reached.sound.latches with ⟨unlatched, -⟩ | ⟨latch, -, ok, -⟩
    · exact unlatched
    · obtain ⟨begun, here, least⟩ := ok.started
      cases here.symm.trans marker
      cases ok.bound.symm.trans binding
      exact absurd least (Nat.not_le_of_lt before)
  authorized := by
    intro distinct journaled stored member
    obtain ⟨⟨parsed, reads, same⟩, contract, legacy⟩ := reached.sound.authorized journaled stored member
    refine ⟨?_, contract, legacy⟩
    have like := IdentityCognitionState.read_of_same (distinct journaled stored parsed member reads same)
    rw [IdentityCognitionState.read_write] at like
    exact reads.trans like.symm

end Proofs

/-! ## A step that is latched without identity -/

def boundTenant : Id := ⟨js "1a7c4000-0000-4000-8000-000000000001", by decide +kernel⟩

def analystStep : StepKey :=
  ⟨⟨js "1a7c4000-0000-4000-8000-000000000002", by decide +kernel⟩,
    ⟨js "1a7c4000-0000-4000-8000-000000000003", by decide +kernel⟩⟩

def word : BoundedText 1 1000 := ⟨js "analysis", by decide +kernel⟩

def intelligence : FacultyVersion where
  tenantId := boundTenant
  id := .intelligence
  version := ⟨1, by decide⟩
  name := word
  purpose := word
  responsibilities := [word]
  exclusions := [word]
  enabled := true
  permittedRecipes := [js "repo-analysis/v2"]
  permittedOperations := [.runtimeAnalyse]
  permitsModelText := true
  permittedMemoryClasses := []
  providerPreferences := [.deepseek]
  preferredModelTraits := []
  maxInputBytes := ⟨512000, by decide⟩
  maxMemoryTokens := ⟨0, by decide⟩
  maxOutputTokens := ⟨8192, by decide⟩
  maxCostUsd := none
  review := .independentVerifier
  escalationRules := [word]
  changeRef := word

def zeroDigest : Sha256Text := ⟨js "0000000000000000000000000000000000000000000000000000000000000000", by decide +kernel⟩

def analystPin : FacultyPin :=
  ⟨boundTenant, analystStep.taskId, analystStep.stepId, .runtimeAnalyse, intelligence, zeroDigest, .analyst, .deepseek,
    js "model"⟩

/-- A task that was bound at the start of the contract. -/
def boundTables : Tables where
  binding := some ⟨boundTenant, 7⟩
  marker := some 7
  epoch := 7
  faculty := some ⟨boundTenant, js "intelligence", 1, zeroDigest.val⟩
  versions := []
  current := fun _ => []
  latches := []
  pins := []

def zeroHash : List UInt8 → HexDigest := fun _ => .ofDigits []

def analystInput : LatchInput := ⟨boundTenant, analystStep, some analystPin⟩

/-- A call with the flag off latches the step, and returns what it stored. -/
theorem none_run : ∃ state answer, Reachable zeroHash analystStep state ∧
    .returned (.contract answer) ∈ state.past ∧ answer.latch.mode = .none ∧ state.tables.latches.length = 1 := by
  have ofStep : SameStep analystStep analystStep := ⟨rfl, rfl⟩
  have own : boundTenant.column = boundTenant := by decide
  have step : analystStep.taskId.column = analystStep.taskId ∧ analystStep.stepId.column = analystStep.stepId := by
    decide
  have latched : latchRowOf analystInput false 7 = ⟨boundTenant, analystStep.taskId, analystStep.stepId, .none, 7⟩ := by
    rw [latchRowOf, show analystInput.tenantId.column = boundTenant from own,
      show analystInput.key.taskId.column = analystStep.taskId from step.1,
      show analystInput.key.stepId.column = analystStep.stepId from step.2]
    rfl
  have here : decide (OfStep analystStep analystStep.taskId analystStep.stepId) = true :=
    decide_eq_true ⟨step.1.symm, step.2.symm⟩
  have start : Reachable zeroHash analystStep (.start boundTables) := .start _ rfl rfl
  have begun := start.step (.begin_ 0 analystInput rfl ofStep fun _ none => by cases none)
  have one := begun.step (.readBinding 0 _ rfl)
  have two := one.step (.readMarker 0 _ _ rfl)
  have three := two.step (.readLatch 0 _ _ _ rfl)
  have four := three.step (.proceed 0 _ _ _ _ analystPin rfl rfl)
  have five := four.step (.readFlag 0 _ _ ⟨boundTenant, 7⟩ false rfl rfl)
  have six := five.step (.insertLatch 0 _ _ none rfl (by
    rw [show (none : Option PinRow).isSome = false from rfl, latched]
    exact ⟨fun _ member => absurd member List.not_mem_nil, rfl, by decide, ⟨7, rfl, Nat.le_refl 7⟩, ⟨_, rfl, rfl⟩⟩))
  rw [show (none : Option PinRow).isSome = false from rfl, latched] at six
  have seven := six.step (.commit 0 _ _ none rfl (fun _ member => absurd member List.not_mem_nil)
    (fun row none => absurd none (Option.not_mem_none row)) ⟨_, List.find?_cons_of_pos here,
      fun required => absurd required (by decide), fun _ => rfl, fun pin member => absurd member List.not_mem_nil⟩)
  have eight := seven.step (.readBinding 0 _ rfl)
  have nine := eight.step (.readMarker 0 _ _ rfl)
  have ten := nine.step (.readLatch 0 _ _ _ rfl)
  have found : ∀ tables : Tables,
      tables.latches = [⟨boundTenant, analystStep.taskId, analystStep.stepId, .none, 7⟩] →
        latchRow analystStep tables = some ⟨boundTenant, analystStep.taskId, analystStep.stepId, .none, 7⟩ := by
    intro tables only
    rw [latchRow, only]
    exact List.find?_cons_of_pos here
  have seen := found { boundTables with latches := [] ++ [⟨boundTenant, analystStep.taskId, analystStep.stepId, .none, 7⟩] } rfl
  have last := ten.step (.answerPersisted 0 analystInput (some ⟨boundTenant, 7⟩) (some 7)
    (some ⟨boundTenant, analystStep.taskId, analystStep.stepId, .none, 7⟩)
    ⟨⟨7, by decide⟩, ⟨boundTenant, analystStep.taskId, analystStep.stepId, .none, ⟨7, by decide⟩⟩, none⟩
    (by rw [← seen]; rfl) rfl)
  exact ⟨_, _, last, List.mem_cons_self, rfl, rfl⟩

theorem none_latched : ∃ state, state.tables.latches.length = 1 ∧
    (∃ answer, .returned (.contract answer) ∈ state.past) ∧ Latched zeroHash analystStep state := by
  obtain ⟨state, answer, reached, answered, -, one⟩ := none_run
  exact ⟨state, one, ⟨answer, answered⟩, latch_decided_once reached⟩

end KernelJson.Identity.Latch
