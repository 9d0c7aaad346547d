import KernelJson.Memory.Service
import Mathlib.Data.List.MinMax

/-!
# The tables of canonical memory

The keys, checks and guards under which rows enter the tables.  Promotions,
versions and relations are never changed, and a candidate moves only when its
approval is settled.  `Lawful` is what the guards keep by themselves, whatever
the service writes.
-/

namespace KernelJson.Memory.Tables

open Contracts.Common
open Foundation.JsText
open Memory.Policy
open Memory.Service

/-! ## Guards -/

/-- The origins whose candidates may become canonical memory. -/
def Trusted (origin : MemoryOrigin) : Prop := origin = .operatorInstruction ∨ origin = .verifiedOutcome

/-- The decisions that create canonical memory. -/
def Allows : PromotionDecision → Prop
  | .decided .allow => True
  | .allowApproved => True
  | _ => False

/-- The decisions that name an approval. -/
def NeedsApproval : PromotionDecision → Prop
  | .decided .requireApproval => True
  | .allowApproved => True
  | .rejectApproval => True
  | _ => False

/-- A row of `memory_candidates` that is inserted. -/
structure CandidateFits (tables : MemoryState) (row : CandidateRow) : Prop where
  fresh : ∀ other ∈ tables.candidates, other.id ≠ row.id
  key : ∀ other ∈ tables.candidates, other.tenantId = row.tenantId → other.idempotencyKey ≠ row.idempotencyKey
  targeted : row.intent = .new ↔ row.targetMemoryId = none
  awaiting : row.state = .awaitingApproval → row.approvalId ≠ none
  promoted : row.state = .promoted → Trusted row.origin

/-- A row of `memory_promotions` that is inserted. -/
structure PromotionFits (tables : MemoryState) (row : PromotionRow) : Prop where
  fresh : ∀ other ∈ tables.promotions, other.id ≠ row.id
  named : Allows row.decision ↔ row.resultMemoryId ≠ none ∧ row.resultVersion ≠ none
  approved : NeedsApproval row.decision → row.approvalId ≠ none
  single : row.resultMemoryId ≠ none →
    ∀ other ∈ tables.promotions, other.candidateId = row.candidateId → other.resultMemoryId = none
  candidate : ∃ found ∈ tables.candidates, found.id = row.candidateId ∧ found.tenantId = row.tenantId ∧
    (Allows row.decision → Trusted found.origin)

/-- The promotion names exactly this version. -/
structure Names (promotion : PromotionRow) (row : VersionRow) : Prop where
  id : promotion.id = row.promotionId
  allows : Allows promotion.decision
  tenant : promotion.tenantId = row.tenantId
  candidate : promotion.candidateId = row.candidateId
  memory : promotion.resultMemoryId = some row.memoryId
  version : promotion.resultVersion = some row.version

/-- A version that another one may be built on. -/
structure Follows (before row : VersionRow) : Prop where
  memory : before.memoryId = row.memoryId
  next : before.version + 1 = row.version
  tenant : before.tenantId = row.tenantId
  class_ : before.class_ = row.class_
  subject : before.subject = row.subject
  asserted : before.kind ≠ .retract

/-- A row of `memory_versions` that is inserted. -/
structure VersionFits (tables : MemoryState) (row : VersionRow) : Prop where
  fresh : ∀ other ∈ tables.versions, other.memoryId = row.memoryId → other.version ≠ row.version
  promotion : ∀ other ∈ tables.versions, other.promotionId ≠ row.promotionId
  positive : 1 ≤ row.version
  first : row.version = 1 ↔ row.supersedesVersion = none
  retracts : row.kind = .retract → 1 < row.version
  promoted : ∃ found ∈ tables.promotions, Names found row
  follows : 1 < row.version → ∃ before ∈ tables.versions, Follows before row

/-- A `SUPERSEDES` row of `memory_relations` that is inserted. -/
structure RelationFits (tables : MemoryState) (row : RelationRow) : Prop where
  fresh : ∀ other ∈ tables.relations, other.id ≠ row.id
  apart : row.fromMemory ≠ row.toMemory
  unique : ∀ other ∈ tables.relations, other.fromMemory = row.fromMemory → other.toMemory ≠ row.toMemory
  ofTenant : ∀ version ∈ tables.versions,
    version.memoryId = row.fromMemory ∨ version.memoryId = row.toMemory → version.tenantId = row.tenantId
  source : ∃ version ∈ tables.versions, version.memoryId = row.fromMemory
  target : ∃ version ∈ tables.versions, version.memoryId = row.toMemory
  promoted : ∃ found ∈ tables.promotions, found.id = row.createdByPromotionId ∧ Allows found.decision ∧
    found.tenantId = row.tenantId ∧ found.resultMemoryId = some row.fromMemory

/-! ## Insertions -/

def putCandidate (tables : MemoryState) (row : CandidateRow) : MemoryState :=
  { tables with candidates := tables.candidates ++ [row] }

def putPromotion (tables : MemoryState) (row : PromotionRow) : MemoryState :=
  { tables with promotions := tables.promotions ++ [row] }

def putVersion (tables : MemoryState) (row : VersionRow) : MemoryState :=
  { tables with versions := tables.versions ++ [row] }

def putRelation (tables : MemoryState) (row : RelationRow) : MemoryState :=
  { tables with relations := tables.relations ++ [row] }

/-- Rows that enter a table one after another, each where it fits. -/
inductive Inserted {Row : Type} (fits : MemoryState → Row → Prop) (put : MemoryState → Row → MemoryState) :
    List Row → MemoryState → MemoryState → Prop where
  | nil (tables : MemoryState) : Inserted fits put [] tables tables
  | cons {row : Row} {rest : List Row} {tables after : MemoryState} (fit : fits tables row)
      (later : Inserted fits put rest (put tables row) after) : Inserted fits put (row :: rest) tables after

/-- The writes of one transaction, in their order. -/
structure Committed (tables : MemoryState) (writes : Writes) (after : MemoryState) : Prop where
  steps : ∃ recorded decided versioned,
    Inserted CandidateFits putCandidate writes.candidates tables recorded ∧
    Inserted PromotionFits putPromotion writes.promotions recorded decided ∧
    Inserted VersionFits putVersion writes.versions decided versioned ∧
    Inserted RelationFits putRelation writes.relations versioned after

/-- The candidate's row, moved by the outcome of its approval. -/
def CandidateRow.settled (row : CandidateRow) (state : CandidateState) (reason : JsString) : CandidateRow :=
  { row with state := state, stateReason := reason }

/-- `update memory_candidates set state = …, state_reason = … where tenant_id = … and id = …`. -/
def updateCandidate (tables : MemoryState) (tenantId id : Id) (state : CandidateState) (reason : JsString) :
    MemoryState :=
  { tables with candidates := tables.candidates.map fun row =>
      if row.tenantId = tenantId ∧ row.id = id then CandidateRow.settled row state reason else row }

/-- The guard of that update, for every row that it changes. -/
def UpdateFits (tables : MemoryState) (tenantId id : Id) (state : CandidateState) : Prop :=
  ∀ row ∈ tables.candidates, row.tenantId = tenantId → row.id = id →
    row.state = .awaitingApproval ∧ (state = .promoted ∧ Trusted row.origin ∨ state = .rejected)

/-! ## What the guards keep -/

structure Lawful (tables : MemoryState) : Prop where
  ids : (tables.candidates.map CandidateRow.id).Nodup
  keys : (tables.candidates.map fun row => (row.tenantId, row.idempotencyKey)).Nodup
  promotionIds : (tables.promotions.map PromotionRow.id).Nodup
  candidates : ∀ promotion ∈ tables.promotions, ∃ found ∈ tables.candidates, found.id = promotion.candidateId ∧
    found.tenantId = promotion.tenantId ∧ (Allows promotion.decision → Trusted found.origin)
  single : ∀ first ∈ tables.promotions, ∀ second ∈ tables.promotions, first.candidateId = second.candidateId →
    first.resultMemoryId ≠ none → second.resultMemoryId ≠ none → first.id = second.id
  versionKeys : ∀ first ∈ tables.versions, ∀ second ∈ tables.versions, first.memoryId = second.memoryId →
    first.version = second.version → first = second
  versionPromotions : ∀ first ∈ tables.versions, ∀ second ∈ tables.versions,
    first.promotionId = second.promotionId → first = second
  positive : ∀ version ∈ tables.versions, 1 ≤ version.version
  retracts : ∀ version ∈ tables.versions, version.kind = .retract → 1 < version.version
  promoted : ∀ version ∈ tables.versions, ∃ promotion ∈ tables.promotions, Names promotion version
  follows : ∀ version ∈ tables.versions, 1 < version.version → ∃ before ∈ tables.versions, Follows before version
  targets : ∀ relation ∈ tables.relations, ∃ version ∈ tables.versions,
    version.memoryId = relation.toMemory ∧ version.tenantId = relation.tenantId

/-- A list with one more row, in which a column stays without repetition. -/
theorem nodup_append {Row Key : Type} {rows : List Row} {row : Row} {key : Row → Key}
    (distinct : (rows.map key).Nodup) (fresh : ∀ other ∈ rows, key other ≠ key row) :
    ((rows ++ [row]).map key).Nodup := by
  rw [List.map_append]
  refine List.nodup_append.mpr ⟨distinct, List.nodup_singleton _, ?_⟩
  intro found member other single same
  obtain ⟨old, inside, rfl⟩ := List.mem_map.mp member
  exact fresh old inside (same.trans (List.mem_singleton.mp single))

/-- A property of pairs of rows, for a list with one more row. -/
theorem pairs_append {Row : Type} {rows : List Row} {row : Row} {related : Row → Row → Prop}
    (pairs : ∀ first ∈ rows, ∀ second ∈ rows, related first second) (new : related row row)
    (left : ∀ other ∈ rows, related other row) (right : ∀ other ∈ rows, related row other) :
    ∀ first ∈ rows ++ [row], ∀ second ∈ rows ++ [row], related first second := by
  intro first one second two
  rcases List.mem_append.mp one with old | last
  · rcases List.mem_append.mp two with other | same
    · exact pairs first old second other
    · exact List.mem_singleton.mp same ▸ left first old
  · rw [List.mem_singleton.mp last]
    rcases List.mem_append.mp two with other | same
    · exact right second other
    · exact List.mem_singleton.mp same ▸ new

theorem Lawful.candidate_put {tables : MemoryState} (lawful : Lawful tables) {row : CandidateRow}
    (fits : CandidateFits tables row) : Lawful (putCandidate tables row) where
  ids := nodup_append lawful.ids fits.fresh
  keys := nodup_append lawful.keys fun other member same =>
    fits.key other member (Prod.mk.inj same).1 (Prod.mk.inj same).2
  promotionIds := lawful.promotionIds
  candidates := fun promotion member => by
    obtain ⟨found, inside, rest⟩ := lawful.candidates promotion member
    exact ⟨found, List.mem_append_left _ inside, rest⟩
  single := lawful.single
  versionKeys := lawful.versionKeys
  versionPromotions := lawful.versionPromotions
  positive := lawful.positive
  retracts := lawful.retracts
  promoted := lawful.promoted
  follows := lawful.follows
  targets := lawful.targets

theorem Lawful.promotion_put {tables : MemoryState} (lawful : Lawful tables) {row : PromotionRow}
    (fits : PromotionFits tables row) : Lawful (putPromotion tables row) where
  ids := lawful.ids
  keys := lawful.keys
  promotionIds := nodup_append lawful.promotionIds fits.fresh
  candidates := fun promotion member => by
    rcases List.mem_append.mp member with old | new
    · exact lawful.candidates promotion old
    · exact List.mem_singleton.mp new ▸ fits.candidate
  single := by
    refine pairs_append lawful.single (fun _ _ _ => rfl) ?_ ?_
    · intro other member same first second
      exact absurd (fits.single second other member same) first
    · intro other member same first second
      exact absurd (fits.single first other member same.symm) second
  versionKeys := lawful.versionKeys
  versionPromotions := lawful.versionPromotions
  positive := lawful.positive
  retracts := lawful.retracts
  promoted := fun version member => by
    obtain ⟨promotion, inside, names⟩ := lawful.promoted version member
    exact ⟨promotion, List.mem_append_left _ inside, names⟩
  follows := lawful.follows
  targets := lawful.targets

theorem Lawful.version_put {tables : MemoryState} (lawful : Lawful tables) {row : VersionRow}
    (fits : VersionFits tables row) : Lawful (putVersion tables row) where
  ids := lawful.ids
  keys := lawful.keys
  promotionIds := lawful.promotionIds
  candidates := lawful.candidates
  single := lawful.single
  versionKeys := by
    refine pairs_append lawful.versionKeys (fun _ _ => rfl) ?_ ?_
    · intro other member memory version
      exact absurd version (fits.fresh other member memory)
    · intro other member memory version
      exact absurd version.symm (fits.fresh other member memory.symm)
  versionPromotions := by
    refine pairs_append lawful.versionPromotions (fun _ => rfl) ?_ ?_
    · intro other member same
      exact absurd same (fits.promotion other member)
    · intro other member same
      exact absurd same.symm (fits.promotion other member)
  positive := fun version member => by
    rcases List.mem_append.mp member with old | new
    · exact lawful.positive version old
    · exact List.mem_singleton.mp new ▸ fits.positive
  retracts := fun version member => by
    rcases List.mem_append.mp member with old | new
    · exact lawful.retracts version old
    · exact List.mem_singleton.mp new ▸ fits.retracts
  promoted := fun version member => by
    rcases List.mem_append.mp member with old | new
    · exact lawful.promoted version old
    · exact List.mem_singleton.mp new ▸ fits.promoted
  follows := fun version member later => by
    have found : ∃ before ∈ tables.versions, Follows before version := by
      rcases List.mem_append.mp member with old | new
      · exact lawful.follows version old later
      · have same := List.mem_singleton.mp new
        subst same
        exact fits.follows later
    obtain ⟨before, inside, follows⟩ := found
    exact ⟨before, List.mem_append_left _ inside, follows⟩
  targets := fun relation member => by
    obtain ⟨version, inside, rest⟩ := lawful.targets relation member
    exact ⟨version, List.mem_append_left _ inside, rest⟩

theorem Lawful.relation_put {tables : MemoryState} (lawful : Lawful tables) {row : RelationRow}
    (fits : RelationFits tables row) : Lawful (putRelation tables row) where
  ids := lawful.ids
  keys := lawful.keys
  promotionIds := lawful.promotionIds
  candidates := lawful.candidates
  single := lawful.single
  versionKeys := lawful.versionKeys
  versionPromotions := lawful.versionPromotions
  positive := lawful.positive
  retracts := lawful.retracts
  promoted := lawful.promoted
  follows := lawful.follows
  targets := fun relation member => by
    rcases List.mem_append.mp member with old | new
    · exact lawful.targets relation old
    · have same := List.mem_singleton.mp new
      subst same
      obtain ⟨version, inside, memory⟩ := fits.target
      exact ⟨version, inside, memory, fits.ofTenant version inside (.inr memory)⟩

/-- The row that stands in the place of a candidate after the update of one. -/
theorem mem_updateCandidate {tables : MemoryState} {tenantId id : Id} {state : CandidateState} {reason : JsString}
    {row : CandidateRow} (member : row ∈ tables.candidates) :
    ∃ after ∈ (updateCandidate tables tenantId id state reason).candidates, after.id = row.id ∧
      after.tenantId = row.tenantId ∧ after.origin = row.origin ∧ after.idempotencyKey = row.idempotencyKey ∧
      after.requestDigest = row.requestDigest ∧
      after = if row.tenantId = tenantId ∧ row.id = id then CandidateRow.settled row state reason else row := by
  refine ⟨_, List.mem_map_of_mem member, ?_, ?_, ?_, ?_, ?_, rfl⟩
  all_goals
    split
    · rfl
    · rfl

theorem Lawful.candidate_updated {tables : MemoryState} (lawful : Lawful tables) (tenantId id : Id)
    (state : CandidateState) (reason : JsString) :
    Lawful (updateCandidate tables tenantId id state reason) where
  ids := by
    have same : (updateCandidate tables tenantId id state reason).candidates.map CandidateRow.id =
        tables.candidates.map CandidateRow.id := by
      rw [updateCandidate, List.map_map]
      refine List.map_congr_left fun row _ => ?_
      show CandidateRow.id (if _ then _ else _) = row.id
      split <;> rfl
    rw [same]
    exact lawful.ids
  keys := by
    have same : (updateCandidate tables tenantId id state reason).candidates.map
        (fun row => (row.tenantId, row.idempotencyKey)) =
          tables.candidates.map fun row => (row.tenantId, row.idempotencyKey) := by
      rw [updateCandidate, List.map_map]
      refine List.map_congr_left fun row _ => ?_
      dsimp only [Function.comp]
      split <;> rfl
    rw [same]
    exact lawful.keys
  promotionIds := lawful.promotionIds
  candidates := fun promotion member => by
    obtain ⟨found, inside, named, tenant, trusted⟩ := lawful.candidates promotion member
    obtain ⟨after, there, id, owner, origin, -⟩ := mem_updateCandidate inside
    exact ⟨after, there, id.trans named, owner.trans tenant, fun allows => origin ▸ trusted allows⟩
  single := lawful.single
  versionKeys := lawful.versionKeys
  versionPromotions := lawful.versionPromotions
  positive := lawful.positive
  retracts := lawful.retracts
  promoted := lawful.promoted
  follows := lawful.follows
  targets := lawful.targets

/-- What every insertion keeps is kept by all of them. -/
theorem Inserted.keeps {Row : Type} {fits : MemoryState → Row → Prop} {put : MemoryState → Row → MemoryState}
    {holds : MemoryState → Prop} (one : ∀ tables row, fits tables row → holds tables → holds (put tables row))
    {rows : List Row} {tables after : MemoryState} (inserted : Inserted fits put rows tables after)
    (before : holds tables) : holds after := by
  induction inserted with
  | nil tables => exact before
  | cons fit later ih => exact ih (one _ _ fit before)

theorem Lawful.committed {tables after : MemoryState} {writes : Writes} (lawful : Lawful tables)
    (committed : Committed tables writes after) : Lawful after := by
  obtain ⟨recorded, decided, versioned, candidates, promotions, versions, relations⟩ := committed.steps
  have first := candidates.keeps (fun _ _ fits holds => holds.candidate_put fits) lawful
  have second := promotions.keeps (fun _ _ fits holds => holds.promotion_put fits) first
  have third := versions.keeps (fun _ _ fits holds => holds.version_put fits) second
  exact relations.keeps (fun _ _ fits holds => holds.relation_put fits) third

theorem Inserted.appends {Row : Type} {fits : MemoryState → Row → Prop} {put : MemoryState → Row → MemoryState}
    (table : MemoryState → List Row) (one : ∀ tables row, table (put tables row) = table tables ++ [row])
    {rows : List Row} {tables after : MemoryState} (inserted : Inserted fits put rows tables after) :
    table after = table tables ++ rows := by
  induction inserted with
  | nil tables => exact (List.append_nil _).symm
  | cons fit later ih => rw [ih, one, List.append_assoc, List.singleton_append]

theorem Inserted.frame {Row Part : Type} {fits : MemoryState → Row → Prop} {put : MemoryState → Row → MemoryState}
    (part : MemoryState → Part) {rows : List Row} {tables after : MemoryState}
    (inserted : Inserted fits put rows tables after) (one : ∀ tables row, part (put tables row) = part tables) :
    part after = part tables := by
  induction inserted with
  | nil tables => rfl
  | cons fit later ih => rw [ih, one]

/-- A transaction adds its rows at the end of the tables. -/
theorem Committed.rows {tables after : MemoryState} {writes : Writes} (committed : Committed tables writes after) :
    after = ⟨tables.candidates ++ writes.candidates, tables.promotions ++ writes.promotions,
      tables.versions ++ writes.versions, tables.relations ++ writes.relations, tables.members,
      tables.verifiedResult⟩ := by
  obtain ⟨recorded, decided, versioned, candidates, promotions, versions, relations⟩ := committed.steps
  have first : recorded = { tables with candidates := tables.candidates ++ writes.candidates } := by
    have rows := candidates.appends MemoryState.candidates fun _ _ => rfl
    have others := Inserted.frame (fun tables : MemoryState => (tables.promotions, tables.versions, tables.relations,
      tables.members, tables.verifiedResult)) candidates fun _ _ => rfl
    cases recorded
    cases others
    cases rows
    rfl
  have second : decided = { recorded with promotions := recorded.promotions ++ writes.promotions } := by
    have rows := promotions.appends MemoryState.promotions fun _ _ => rfl
    have others := Inserted.frame (fun tables : MemoryState => (tables.candidates, tables.versions, tables.relations,
      tables.members, tables.verifiedResult)) promotions fun _ _ => rfl
    cases decided
    cases others
    cases rows
    rfl
  have third : versioned = { decided with versions := decided.versions ++ writes.versions } := by
    have rows := versions.appends MemoryState.versions fun _ _ => rfl
    have others := Inserted.frame (fun tables : MemoryState => (tables.candidates, tables.promotions, tables.relations,
      tables.members, tables.verifiedResult)) versions fun _ _ => rfl
    cases versioned
    cases others
    cases rows
    rfl
  have fourth : after = { versioned with relations := versioned.relations ++ writes.relations } := by
    have rows := relations.appends MemoryState.relations fun _ _ => rfl
    have others := Inserted.frame (fun tables : MemoryState => (tables.candidates, tables.promotions, tables.versions,
      tables.members, tables.verifiedResult)) relations fun _ _ => rfl
    cases after
    cases others
    cases rows
    rfl
  rw [fourth, third, second, first]

/-! ## Chains of versions -/

variable {tables : MemoryState}

/-- The versions of a memory reach down to the first. -/
theorem Lawful.down (lawful : Lawful tables) {row : VersionRow} (member : row ∈ tables.versions) {number : Nat}
    (lower : 1 ≤ number) (upper : number ≤ row.version) :
    ∃ other ∈ tables.versions, other.memoryId = row.memoryId ∧ other.version = number := by
  obtain ⟨rank, shape⟩ : ∃ rank, row.version = number + rank := ⟨row.version - number, by omega⟩
  induction rank generalizing row with
  | zero => exact ⟨row, member, rfl, shape⟩
  | succ rank ih =>
      obtain ⟨before, inside, follows⟩ := lawful.follows row member (by omega)
      have next := follows.next
      obtain ⟨other, there, memory, same⟩ := ih inside (by omega) (by omega)
      exact ⟨other, there, memory.trans follows.memory, same⟩

/-- The versions of a memory are numbered from one without gap. -/
theorem Lawful.numbered (lawful : Lawful tables) (memoryId : Id) :
    ∃ count, ∀ number, (∃ row ∈ tables.versions, row.memoryId = memoryId ∧ row.version = number) ↔
      1 ≤ number ∧ number ≤ count := by
  let rows := tables.versions.filter fun row => row.memoryId = memoryId
  have listed : ∀ row, row ∈ rows ↔ row ∈ tables.versions ∧ row.memoryId = memoryId := by
    intro row
    rw [List.mem_filter, decide_eq_true_eq]
  cases greatest : rows.argmax VersionRow.version with
  | none =>
      have empty : rows = [] := List.argmax_eq_none.mp greatest
      refine ⟨0, fun number => ⟨?_, fun bounds => absurd bounds (by omega)⟩⟩
      rintro ⟨row, member, memory, -⟩
      have inside := (listed row).mpr ⟨member, memory⟩
      rw [empty] at inside
      cases inside
  | some top =>
      obtain ⟨member, memory⟩ := (listed top).mp (List.argmax_mem greatest)
      refine ⟨top.version, fun number => ⟨?_, ?_⟩⟩
      · rintro ⟨row, inside, here, rfl⟩
        exact ⟨lawful.positive row inside, List.le_of_mem_argmax ((listed row).mpr ⟨inside, here⟩) greatest⟩
      · rintro ⟨lower, upper⟩
        obtain ⟨row, inside, same, version⟩ := lawful.down member lower upper
        exact ⟨row, inside, same.trans memory, version⟩

/-- A version has the class, the subject and the tenant of the first one. -/
theorem Lawful.first_version (lawful : Lawful tables) {row : VersionRow} (member : row ∈ tables.versions) :
    ∃ root ∈ tables.versions, root.memoryId = row.memoryId ∧ root.version = 1 ∧ root.class_ = row.class_ ∧
      root.subject = row.subject ∧ root.tenantId = row.tenantId := by
  obtain ⟨rank, shape⟩ : ∃ rank, row.version = 1 + rank :=
    ⟨row.version - 1, by have := lawful.positive row member; omega⟩
  induction rank generalizing row with
  | zero => exact ⟨row, member, rfl, shape, rfl, rfl, rfl⟩
  | succ rank ih =>
      obtain ⟨before, inside, follows⟩ := lawful.follows row member (by omega)
      have next := follows.next
      obtain ⟨root, there, memory, one, class_, subject, tenant⟩ := ih inside (by omega)
      exact ⟨root, there, memory.trans follows.memory, one, class_.trans follows.class_,
        subject.trans follows.subject, tenant.trans follows.tenant⟩

/-- All versions of a memory have one class, one subject and one tenant. -/
theorem Lawful.constant (lawful : Lawful tables) {first second : VersionRow} (one : first ∈ tables.versions)
    (two : second ∈ tables.versions) (same : first.memoryId = second.memoryId) :
    first.class_ = second.class_ ∧ first.subject = second.subject ∧ first.tenantId = second.tenantId := by
  obtain ⟨root, member, memory, version, class_, subject, tenant⟩ := lawful.first_version one
  obtain ⟨other, inside, memory', version', class', subject', tenant'⟩ := lawful.first_version two
  have roots : root = other := lawful.versionKeys root member other inside
    (memory.trans (same.trans memory'.symm)) (version.trans version'.symm)
  subst roots
  exact ⟨class_.symm.trans class', subject.symm.trans subject', tenant.symm.trans tenant'⟩

/-- No version follows one that retracts. -/
theorem Lawful.ended (lawful : Lawful tables) {first second : VersionRow} (one : first ∈ tables.versions)
    (two : second ∈ tables.versions) (same : first.memoryId = second.memoryId) (retracts : first.kind = .retract) :
    second.version ≤ first.version := by
  by_contra later
  obtain ⟨next, member, memory, version⟩ := @Lawful.down tables lawful second two (first.version + 1) (by omega)
    (by omega)
  have positive := lawful.positive first one
  obtain ⟨before, inside, follows⟩ := lawful.follows next member (by omega)
  have built := follows.next
  have here : before = first := lawful.versionKeys before inside first one
    (follows.memory.trans (memory.trans same.symm)) (by omega)
  exact follows.asserted (here ▸ retracts)

/-- A candidate has one version at most. -/
theorem Lawful.one_version (lawful : Lawful tables) {first second : VersionRow} (one : first ∈ tables.versions)
    (two : second ∈ tables.versions) (same : first.candidateId = second.candidateId) : first = second := by
  obtain ⟨promotion, member, names⟩ := lawful.promoted first one
  obtain ⟨other, inside, names'⟩ := lawful.promoted second two
  have results : ∀ {memory : Id} {found : Option Id}, found = some memory → found ≠ none := by
    rintro memory found rfl
    exact Option.some_ne_none memory
  have ids : promotion.id = other.id := lawful.single promotion member other inside
    (names.candidate.trans (same.trans names'.candidate.symm)) (results names.memory) (results names'.memory)
  exact lawful.versionPromotions first one second two (names.id.symm.trans (ids.trans names'.id))

end KernelJson.Memory.Tables
