import KernelJson.Foundation.Dependencies
import KernelJson.Foundation.FirstFit
import KernelJson.Memory.ContextDigest

/-!
# What a context keeps, leaves out and costs

The packer takes the ranked memories by first fit and records at most fifty of
those that it passes over.  It charges a line at a time; the headings, the line
breaks and the break between the blocks are charged to nobody.
-/

namespace KernelJson.Memory.ContextPacking

open Contracts.Common
open Contracts.Digest
open Contracts.Platform
open Foundation
open Foundation.Dependencies
open Foundation.FirstFit
open Foundation.JsText
open Memory.Assembler
open Memory.Canonical
open Memory.ContextDigest
open Memory.Policy

/-! ## Assembling candidates -/

/-- The assembly of given candidates, as the service composes it. -/
def assembleCandidates (platform : Platform) (nfc : JsString → JsString) (tenantId : Id) (request : ContextRequest)
    (candidates : List Candidate) (external : List ExternalContextItem) (consumer : Consumer) :
    Option AssembledContext :=
  let selection := pack (rankCandidates platform candidates request.purpose) request.budget
  buildAssembled platform nfc tenantId request selection
    (packExternal external (request.budget.maxTokens - selection.usedTokens)) consumer

/-! ## The packers take by first fit -/

/-- The reason that is recorded for a memory that was passed over. -/
def reasonOf : Fit → ExclusionReason
  | .noPlace => .overItemLimit
  | .noRoom => .overBudget
  | .taken => .overBudget

def exclusion (mark : Scored × Fit) : Excluded := ⟨mark.1.memoryId, mark.1.version, reasonOf mark.2⟩

/-- The ranked memories that fit, and those that do not, in their order. -/
def fitting (ranked : List Scored) (budget : ContextBudget) : List Scored :=
  taken Scored.tokens budget.maxItems budget.maxTokens ranked

def passedOver (ranked : List Scored) (budget : ContextBudget) : List Excluded :=
  (passed Scored.tokens budget.maxItems budget.maxTokens ranked).map exclusion

theorem exclude_eq (selection : Selection) (memory : Scored) (reason : ExclusionReason)
    (within : selection.excluded.length ≤ 50) (later : List Excluded) :
    ((selection.exclude memory reason).excluded ++ later).take 50 =
      (selection.excluded ++ (⟨memory.memoryId, memory.version, reason⟩ :: later)).take 50 ∧
    (selection.exclude memory reason).excluded.length ≤ 50 ∧
    (selection.exclude memory reason).items = selection.items ∧
    (selection.exclude memory reason).usedTokens = selection.usedTokens := by
  unfold Selection.exclude
  split
  · next more =>
      refine ⟨?_, ?_, rfl, rfl⟩
      · rw [List.append_assoc, List.singleton_append]
      · rw [List.length_append, List.length_singleton]
        exact more
  · next full =>
      have exactly : selection.excluded.length = 50 := Nat.le_antisymm within (Nat.le_of_not_lt full)
      refine ⟨?_, within, rfl, rfl⟩
      rw [List.take_left' exactly, List.take_left' exactly]

/-- What packing the rest adds to a selection. -/
theorem foldl_packOne (budget : ContextBudget) (ranked : List Scored) (selection : Selection)
    (places : selection.items.length ≤ budget.maxItems) (room : selection.usedTokens ≤ budget.maxTokens)
    (within : selection.excluded.length ≤ 50) :
    ranked.foldl (packOne budget) selection =
      { items := selection.items ++ (taken Scored.tokens (budget.maxItems - selection.items.length)
          (budget.maxTokens - selection.usedTokens) ranked).map Scored.item
        excluded := (selection.excluded ++ (passed Scored.tokens (budget.maxItems - selection.items.length)
          (budget.maxTokens - selection.usedTokens) ranked).map exclusion).take 50
        usedTokens := selection.usedTokens + ((taken Scored.tokens (budget.maxItems - selection.items.length)
          (budget.maxTokens - selection.usedTokens) ranked).map Scored.tokens).sum } := by
  induction ranked generalizing selection with
  | nil =>
      show selection = _
      simp only [taken, passed, marks, List.filter_nil, List.map_nil, List.append_nil, List.sum_nil, Nat.add_zero]
      rw [List.take_of_length_le within]
  | cons memory rest ih =>
      rw [List.foldl_cons]
      by_cases full : budget.maxItems ≤ selection.items.length
      · -- no place is left
        have none : budget.maxItems - selection.items.length = 0 := Nat.sub_eq_zero_of_le full
        rw [packOne, if_pos full]
        obtain ⟨shown, bounded, items, used⟩ := exclude_eq selection memory .overItemLimit within
          ((passed Scored.tokens (budget.maxItems - selection.items.length)
            (budget.maxTokens - selection.usedTokens) rest).map exclusion)
        rw [ih _ (items ▸ places) (used ▸ room) bounded, items, used, taken_noPlace none, passed_noPlace none, shown]
        rfl
      · have open_ : budget.maxItems - selection.items.length ≠ 0 := Nat.sub_ne_zero_of_lt (Nat.lt_of_not_le full)
        rw [packOne, if_neg full]
        by_cases large : budget.maxTokens < selection.usedTokens + memory.tokens
        · have over_ : budget.maxTokens - selection.usedTokens < memory.tokens := by omega
          rw [if_pos large]
          obtain ⟨shown, bounded, items, used⟩ := exclude_eq selection memory .overBudget within
            ((passed Scored.tokens (budget.maxItems - selection.items.length)
              (budget.maxTokens - selection.usedTokens) rest).map exclusion)
          rw [ih _ (items ▸ places) (used ▸ room) bounded, items, used, taken_noRoom open_ over_,
            passed_noRoom open_ over_, shown]
          rfl
        · have fits : memory.tokens ≤ budget.maxTokens - selection.usedTokens := by omega
          have more : (selection.items ++ [memory.item]).length = selection.items.length + 1 := List.length_append
          have later := ih
            { selection with items := selection.items ++ [memory.item], usedTokens := selection.usedTokens + memory.tokens }
            (by rw [more]; omega) (Nat.le_of_not_lt large) within
          rw [if_neg large, later]
          simp only [more, Nat.sub_add_eq]
          rw [taken_fits open_ fits, passed_fits open_ fits, List.map_cons, List.map_cons, List.sum_cons,
            List.append_assoc, List.singleton_append, Nat.add_assoc]

/-- Packing takes by first fit, and records the first fifty that it passes over. -/
theorem pack_eq (ranked : List Scored) (budget : ContextBudget) :
    pack ranked budget =
      { items := (fitting ranked budget).map Scored.item
        excluded := (passedOver ranked budget).take 50
        usedTokens := ((fitting ranked budget).map Scored.tokens).sum } := by
  unfold pack
  rw [foldl_packOne budget ranked ⟨[], [], 0⟩ (Nat.zero_le _) (Nat.zero_le _) (Nat.zero_le _)]
  simp only [List.length_nil, Nat.sub_zero, List.nil_append, Nat.zero_add]
  rfl

section Conservation

variable {platform : Platform} {candidates others : List Candidate} {purpose : JsString}

theorem score_candidate {wanted : List JsString} {candidate : Candidate} {memory : Scored}
    (scored : score platform wanted candidate = some memory) : memory.toCandidate = candidate := by
  unfold score at scored
  dsimp only at scored
  split at scored
  · split at scored
    · cases scored
      rfl
    · cases scored
  · cases scored
    rfl

/-- Scoring keeps the order of the candidates. -/
theorem sublist_scored (wanted : List JsString) (candidates : List Candidate) :
    ((candidates.filterMap (score platform wanted)).map fun memory => memory.memoryId).Sublist
      (candidates.map Candidate.memoryId) := by
  induction candidates with
  | nil => exact List.Sublist.refl _
  | cons candidate rest ih =>
      cases scored : score platform wanted candidate with
      | none =>
          rw [List.filterMap_cons_none scored, List.map_cons]
          exact ih.cons _
      | some memory =>
          rw [List.filterMap_cons_some scored, List.map_cons, List.map_cons, ← score_candidate scored]
          exact ih.cons_cons _

theorem nodup_ranked (distinct : (candidates.map Candidate.memoryId).Nodup) :
    ((rankCandidates platform candidates purpose).map fun memory => memory.memoryId).Nodup := by
  have scored := (@sublist_scored platform (terms platform purpose) candidates).nodup distinct
  exact ((List.perm_insertionSort _ _).map _).nodup_iff.mpr scored

/-- The identifiers that a selection accounts for. -/
def Selection.ids (selection : Selection) : List Id :=
  selection.items.map ContextItem.memoryId ++ selection.excluded.map Excluded.memoryId

theorem packed_append_passed_perm (ranked : List Scored) (budget : ContextBudget) :
    ((pack ranked budget).items.map ContextItem.memoryId ++ (passedOver ranked budget).map Excluded.memoryId).Perm
      (ranked.map fun memory => memory.memoryId) := by
  have split := (taken_append_passed_perm Scored.tokens budget.maxItems budget.maxTokens ranked).map
    fun memory => memory.memoryId
  rw [List.map_append, List.map_map] at split
  rw [pack_eq, passedOver, List.map_map, List.map_map]
  exact split

/-- Every ranked memory is packed or passed over, once; the first fifty that are passed over are recorded, so with no
more than fifty of them every ranked memory stands in exactly one of the two lists. -/
theorem pack_conserves (distinct : (candidates.map Candidate.memoryId).Nodup) (budget : ContextBudget) :
    ((pack (rankCandidates platform candidates purpose) budget).items.map ContextItem.memoryId ++
        (passedOver (rankCandidates platform candidates purpose) budget).map Excluded.memoryId).Perm
      ((rankCandidates platform candidates purpose).map fun memory => memory.memoryId) ∧
    ((pack (rankCandidates platform candidates purpose) budget).items.map ContextItem.memoryId ++
        (passedOver (rankCandidates platform candidates purpose) budget).map Excluded.memoryId).Nodup ∧
    (pack (rankCandidates platform candidates purpose) budget).excluded =
      (passedOver (rankCandidates platform candidates purpose) budget).take 50 ∧
    ((passedOver (rankCandidates platform candidates purpose) budget).length ≤ 50 →
      ∀ memory ∈ rankCandidates platform candidates purpose,
        (Selection.ids (pack (rankCandidates platform candidates purpose) budget)).count memory.memoryId = 1) := by
  have split := packed_append_passed_perm (rankCandidates platform candidates purpose) budget
  have once := split.nodup_iff.mpr (nodup_ranked distinct)
  have recorded : (pack (rankCandidates platform candidates purpose) budget).excluded =
      (passedOver (rankCandidates platform candidates purpose) budget).take 50 := by
    rw [pack_eq]
  refine ⟨split, once, recorded, fun few memory member => ?_⟩
  rw [List.take_of_length_le few] at recorded
  rw [Selection.ids, recorded]
  exact List.count_eq_one_of_mem once (split.mem_iff.mpr (List.mem_map_of_mem (f := fun memory => memory.memoryId) member))

/-- A selection accounts for no more than its items and fifty more. -/
theorem length_ids_le (ranked : List Scored) (budget : ContextBudget) :
    (Selection.ids (pack ranked budget)).length ≤ budget.maxItems + 50 := by
  have few := length_taken_le Scored.tokens budget.maxItems budget.maxTokens ranked
  have recorded := List.length_take_le 50 (passedOver ranked budget)
  rw [Selection.ids, pack_eq, List.length_append, List.length_map, List.length_map, List.length_map]
  exact Nat.add_le_add few recorded

end Conservation

/-! ### Fifty-two preferences -/

/-- An identifier for each number below 256. -/
def numbered (number : Nat) : Id :=
  ⟨stableIdText (.ofDigits [number % 16, number / 16]), isUuid_stableIdText _⟩

def preferenceNamed (memoryId : Id) : Candidate where
  memoryId := memoryId
  version := 1
  class_ := .preference
  trustClass := .userAuthored
  content := js "x"
  contentDigest := []
  origin := .operatorInstruction
  evidence := []
  promotedAt := []
  subjectKind := .tenant
  conflictsWith := []

def manyPreferences : List Candidate := (List.range 52).map fun number => preferenceNamed (numbered number)

theorem manyPreferences_distinct : (manyPreferences.map Candidate.memoryId).Nodup := by
  have heads : ((manyPreferences.map Candidate.memoryId).map fun id => id.text.take 2).Nodup := by
    decide
  exact heads.of_map _

/-- With nothing to match, preferences are ranked all the same. -/
theorem length_ranked_preferences (platform : Platform) (ids : List Id) :
    (rankCandidates platform (ids.map preferenceNamed) []).length = ids.length := by
  unfold rankCandidates
  rw [List.length_insertionSort]
  have lower : platform.toLowerCase [] = [] := platform.lowerAscii [] (fun _ member => absurd member List.not_mem_nil)
  have none : terms platform [] = [] := by
    unfold terms
    rw [lower]
    rfl
  induction ids with
  | nil => rfl
  | cons id rest ih =>
      rw [List.map_cons, none] at *
      have scored : ∃ memory, score platform [] (preferenceNamed id) = some memory := ⟨_, rfl⟩
      obtain ⟨memory, scored⟩ := scored
      rw [List.filterMap_cons_some scored, List.length_cons, ih, List.length_cons]

/-- Where more than fifty memories are passed over, some are neither packed nor recorded. -/
theorem excluded_forgotten : ¬ ∀ (platform : Platform) (candidates : List Candidate) (purpose : JsString)
    (budget : ContextBudget), (candidates.map Candidate.memoryId).Nodup →
    ∀ memory ∈ rankCandidates platform candidates purpose,
      (Selection.ids (pack (rankCandidates platform candidates purpose) budget)).count memory.memoryId = 1 := by
  intro claimed
  let budget : ContextBudget := ⟨1, 16, by decide, by decide⟩
  let ranked := rankCandidates Platform.ascii manyPreferences []
  have counted := claimed Platform.ascii manyPreferences [] budget manyPreferences_distinct
  have included : (ranked.map fun memory => memory.memoryId) ⊆ Selection.ids (pack ranked budget) := by
    intro id member
    obtain ⟨memory, inside, same⟩ := List.mem_map.mp member
    rw [← same]
    exact List.count_pos_iff.mp (by rw [counted memory inside]; exact Nat.one_pos)
  have length : 52 = (ranked.map fun memory => memory.memoryId).length := by
    have all := length_ranked_preferences Platform.ascii ((List.range 52).map numbered)
    rw [List.map_map, List.length_map, List.length_range] at all
    rw [List.length_map]
    exact all.symm
  have fits := ((nodup_ranked manyPreferences_distinct).subperm included).length_le
  have most : _ ≤ 51 := length_ids_le ranked budget
  exact absurd (length.trans_le (fits.trans most)) (by decide)

/-- Of two preferences one is packed and one is passed over, and each is accounted for. -/
theorem two_preferences_conserved :
    (Selection.ids (pack (rankCandidates Platform.ascii ([numbered 1, numbered 2].map preferenceNamed) [])
      ⟨1, 16, by decide, by decide⟩)).count (numbered 1) = 1 := by
  have few : (passedOver (rankCandidates Platform.ascii ([numbered 1, numbered 2].map preferenceNamed) [])
      ⟨1, 16, by decide, by decide⟩).length ≤ 50 := by
    decide
  have ranked : ∃ memory ∈ rankCandidates Platform.ascii ([numbered 1, numbered 2].map preferenceNamed) [],
      memory.memoryId = numbered 1 := by
    decide
  obtain ⟨memory, member, named⟩ := ranked
  have once := (pack_conserves (by decide) ⟨1, 16, by decide, by decide⟩).2.2.2 few memory member
  rw [named] at once
  exact once

/-! ## What the text costs -/

section Cost

variable {platform : Platform} {nfc : JsString → JsString} {tenantId : Id} {request : ContextRequest}
  {candidates : List Candidate} {external : List ExternalContextItem} {consumer : Consumer}
  {context : AssembledContext}

/-- What the memories that fit leave of the budget. -/
def remainingTokens (platform : Platform) (request : ContextRequest) (candidates : List Candidate) : Nat :=
  request.budget.maxTokens -
    ((fitting (rankCandidates platform candidates request.purpose) request.budget).map Scored.tokens).sum

end Cost

/-! ### A preference in the smallest budget -/

theorem onlyPreference_bounds : 1 ≤ [MemoryClass.preference].length ∧ [MemoryClass.preference].length ≤ 8 := by
  decide

def smallRequest : ContextRequest where
  purpose := js "x"
  subject := none
  project := none
  allowedClasses := [.preference]
  budget := ⟨1, 16, by decide, by decide⟩
  purposeBounds := by decide
  classBounds := onlyPreference_bounds

section Order

variable {platform : Platform} {nfc : JsString → JsString} {tenantId : Id} {request : ContextRequest}
  {candidates others : List Candidate} {conflicts reordered : List ConflictRow} {purpose : JsString}

theorem ranksBefore_total (first second : Scored) : first.ranksBefore second ∨ second.ranksBefore first := by
  unfold Scored.ranksBefore
  rcases Nat.lt_trichotomy first.hits second.hits with fewer | same | more
  · exact .inr (.inl fewer)
  · by_cases dates : first.promotedAt = second.promotedAt
    · rcases Json.unitsLE_total first.memoryId.text second.memoryId.text with before | after
      · exact .inl (.inr ⟨same, .inr ⟨dates, before⟩⟩)
      · exact .inr (.inr ⟨same.symm, .inr ⟨dates.symm, after⟩⟩)
    · by_cases later : Json.unitsLE first.promotedAt second.promotedAt
      · refine .inr (.inr ⟨same.symm, .inl fun earlier => dates (Json.unitsLE_antisymm later earlier)⟩)
      · exact .inl (.inr ⟨same, .inl later⟩)
  · exact .inl (.inl more)

theorem ranksBefore_trans {first second third : Scored} (one : first.ranksBefore second)
    (two : second.ranksBefore third) : first.ranksBefore third := by
  unfold Scored.ranksBefore at *
  rcases one with more | ⟨same, one⟩
  · rcases two with more' | ⟨same', -⟩
    · exact .inl (more'.trans more)
    · exact .inl (same' ▸ more)
  · rcases two with more' | ⟨same', two⟩
    · exact .inl (same ▸ more')
    · refine .inr ⟨same.trans same', ?_⟩
      rcases one with later | ⟨dates, before⟩
      · rcases two with later' | ⟨dates', -⟩
        · refine .inl fun reaches => ?_
          have second_le := (Json.unitsLE_total second.promotedAt first.promotedAt).resolve_right later
          exact later' (Json.unitsLE_trans second_le reaches)
        · exact .inl (dates' ▸ later)
      · rcases two with later' | ⟨dates', before'⟩
        · exact .inl (dates ▸ later')
        · exact .inr ⟨dates.trans dates', Json.unitsLE_trans before before'⟩

/-- Memories that rank before each other have one identifier. -/
theorem memoryId_of_ranksBefore {first second : Scored} (one : first.ranksBefore second)
    (two : second.ranksBefore first) : first.memoryId = second.memoryId := by
  unfold Scored.ranksBefore at *
  rcases one with more | ⟨same, one⟩
  · rcases two with more' | ⟨same', -⟩
    · exact absurd (more.trans more') (lt_irrefl _)
    · exact absurd (same' ▸ more) (lt_irrefl _)
  · rcases two with more' | ⟨-, two⟩
    · exact absurd (same ▸ more') (lt_irrefl _)
    · rcases one with later | ⟨dates, before⟩
      · rcases two with later' | ⟨dates', -⟩
        · exact absurd ((Json.unitsLE_total _ _).resolve_left later) later'
        · exact absurd (dates' ▸ Json.unitsLE_refl _) later
      · rcases two with later' | ⟨-, before'⟩
        · exact absurd (dates ▸ Json.unitsLE_refl _) later'
        · exact Contracts.Common.Id.ext (Json.unitsLE_antisymm before before')

/-- The rank does not depend on the order in which the candidates were read. -/
theorem rankCandidates_perm (distinct : (candidates.map Candidate.memoryId).Nodup) (same : candidates.Perm others) :
    rankCandidates platform candidates purpose = rankCandidates platform others purpose := by
  refine insertionSort_eq_of_perm ranksBefore_total ranksBefore_trans (fun first here second there one two => ?_)
    (same.filterMap _)
  have ids := (@sublist_scored platform (terms platform purpose) candidates).nodup distinct
  exact List.inj_on_of_nodup_map ids here there (memoryId_of_ranksBefore one two)

/-- The other end of a conflict of a memory. -/
def otherEnd (memoryId : Id) (row : ConflictRow) : List Id :=
  (if row.fromMemory = memoryId then [row.toMemory] else []) ++
    if row.toMemory = memoryId then [row.fromMemory] else []

/-- The other ends of the conflicts of a memory, as the service collects and sorts them. -/
def conflictEnds (conflicts : List ConflictRow) (memoryId : Id) : List Id :=
  (conflicts.flatMap (otherEnd memoryId)).dedup.insertionSort fun first second => Json.unitsLE first.text second.text

theorem conflictEnds_perm (same : conflicts.Perm reordered) (memoryId : Id) :
    conflictEnds conflicts memoryId = conflictEnds reordered memoryId := by
  have ends := (same.flatMap_right (otherEnd memoryId)).dedup
  refine @insertionSort_eq_of_perm Id (fun first second => Json.unitsLE first.text second.text) _
    (fun first second => Json.unitsLE_total first.text second.text) (fun one two => Json.unitsLE_trans one two) _ _
    (fun first _ second _ one two => ?_) ends
  exact Contracts.Common.Id.ext (Json.unitsLE_antisymm one two)

/-- A candidate with the conflicts that the rows give it. -/
def flaggedBy (conflicts : List ConflictRow) (candidate : Candidate) : Candidate :=
  { candidate with conflictsWith := conflictEnds conflicts candidate.memoryId }

/-- An assembly does not depend on the order of the candidates nor on that of the conflicts. -/
theorem assembleCandidates_perm (distinct : (candidates.map Candidate.memoryId).Nodup)
    (same : candidates.Perm others) (alike : conflicts.Perm reordered) (external : List ExternalContextItem)
    (consumer : Consumer) :
    assembleCandidates platform nfc tenantId request (candidates.map (flaggedBy conflicts)) external consumer =
      assembleCandidates platform nfc tenantId request (others.map (flaggedBy reordered)) external consumer := by
  have flagged : flaggedBy conflicts = flaggedBy reordered := by
    funext candidate
    rw [flaggedBy, conflictEnds_perm alike]
    rfl
  have kept : ((candidates.map (flaggedBy conflicts)).map Candidate.memoryId).Nodup := by
    rw [List.map_map]
    exact distinct
  unfold assembleCandidates
  rw [rankCandidates_perm kept (same.map _), flagged]

/-- The row that one of two preferences contradicts the other. -/
def contradiction (row first second : Nat) : ConflictRow :=
  ⟨numbered row, numbered 0, numbered first, numbered second, numbered 5, []⟩

/-- Two preferences that contradict each other, and the two rows that say so, in either order. -/
theorem swapped_preferences_alike :
    assembleCandidates Platform.ascii id (numbered 0) smallRequest
      ([preferenceNamed (numbered 1), preferenceNamed (numbered 2)].map
        (flaggedBy [contradiction 3 1 2, contradiction 4 2 1])) [] ⟨none, none, none⟩ =
    assembleCandidates Platform.ascii id (numbered 0) smallRequest
      ([preferenceNamed (numbered 2), preferenceNamed (numbered 1)].map
        (flaggedBy [contradiction 4 2 1, contradiction 3 1 2])) [] ⟨none, none, none⟩ :=
  assembleCandidates_perm (by decide) (.swap _ _ _) (.swap _ _ _) [] _

end Order

end KernelJson.Memory.ContextPacking
