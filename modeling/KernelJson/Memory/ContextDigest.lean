import KernelJson.Memory.Assembler
import KernelJson.Memory.Runs

/-!
# What a context digest pins

The digest of a context names the versions of its memories and the digests of
its external items, and not the conflict flags that are rendered beside them.
Two contexts of one digest have one text exactly when the memory tables flag
the selected memories alike.
-/

namespace KernelJson.Memory.ContextDigest

open Contracts.Common
open Contracts.Digest
open Contracts.Identity
open Contracts.Platform
open Foundation
open Foundation.JsText
open Memory.Assembler
open Memory.Canonical
open Memory.Policy
open Memory.Service
open Memory.Tables

/-! ## Joined texts -/

theorem joinWith_cons_ne {separator text : JsString} {rest : List JsString} (more : rest ≠ []) :
    joinWith separator (text :: rest) = text ++ (separator ++ joinWith separator rest) := by
  cases rest with
  | nil => exact absurd rfl more
  | cons next rest => rfl

/-- A separator whose first unit is in no text determines the texts. -/
theorem joinWith_injective {first : UInt16} {separator : JsString} {texts others : List JsString} (some_ : texts ≠ [])
    (other : others ≠ []) (absent : ∀ text ∈ texts, first ∉ text) (absent' : ∀ text ∈ others, first ∉ text)
    (same : joinWith (first :: separator) texts = joinWith (first :: separator) others) : texts = others := by
  induction texts generalizing others with
  | nil => exact absurd rfl some_
  | cons text rest ih =>
      cases others with
      | nil => exact absurd rfl other
      | cons text' rest' =>
          have here := absent text List.mem_cons_self
          have here' := absent' text' List.mem_cons_self
          cases rest with
          | nil =>
              cases rest' with
              | nil => exact congrArg (fun text => [text]) same
              | cons next' rest' =>
                  have held : text = text' ++ (first :: separator ++ joinWith (first :: separator) (next' :: rest')) := same
                  rw [held] at here
                  exact absurd (List.mem_append_right _ List.mem_cons_self) here
          | cons next rest =>
              cases rest' with
              | nil =>
                  have held : text ++ (first :: separator ++ joinWith (first :: separator) (next :: rest)) = text' := same
                  rw [← held] at here'
                  exact absurd (List.mem_append_right _ List.mem_cons_self) here'
              | cons next' rest' =>
                  obtain ⟨heads, tails⟩ := split_at_first here here' same
                  have later := ih (List.cons_ne_nil _ _) (List.cons_ne_nil _ _)
                    (fun text member => absent text (List.mem_cons_of_mem _ member))
                    (fun text member => absent' text (List.mem_cons_of_mem _ member)) (List.append_cancel_left tails)
                  rw [heads, later]

theorem break_not_mem_unbroken {met : Bool} {text : JsString} {unit : UInt16} (found : unit ∈ unbroken met text) :
    unit ≠ 10 := by
  induction text generalizing met with
  | nil => cases found
  | cons head rest ih =>
      unfold unbroken at found
      split at found
      · split at found
        · exact ih found
        · rcases List.mem_cons.mp found with rfl | later
          · decide
          · exact ih later
      · next shown =>
          rcases List.mem_cons.mp found with rfl | later
          · rintro rfl
            exact shown rfl
          · exact ih later

/-! ## Lines -/

/-- A unit that no identifier contains. -/
def OutsideIds (unit : UInt16) : Prop :=
  isHexUnit unit = false ∧ isHyphen unit = false ∧ isVersionUnit unit = false ∧ isVariantUnit unit = false ∧
    unit ∉ nilUuid ∧ unit ∉ maxUuid

theorem OutsideIds.not_mem {unit : UInt16} (outside : OutsideIds unit) (identifier : Id) : unit ∉ identifier.text := by
  obtain ⟨hex, hyphen, version, variant, nil_, max⟩ := outside
  intro found
  have wellFormed := identifier.wellFormed
  simp only [isUuid, Bool.or_eq_true, beq_iff_eq] at wellFormed
  rcases wellFormed with (fits | isNil) | isMax
  · obtain ⟨accepts, member, accepted⟩ := fitsShape_mem fits found
    rcases uuidShape_classes member with rfl | rfl | rfl | rfl
    · exact Bool.noConfusion (hex.symm.trans accepted)
    · exact Bool.noConfusion (hyphen.symm.trans accepted)
    · exact Bool.noConfusion (version.symm.trans accepted)
    · exact Bool.noConfusion (variant.symm.trans accepted)
  · exact nil_ (isNil ▸ found)
  · exact max (isMax ▸ found)

theorem newline_outsideIds : OutsideIds 10 := by
  unfold OutsideIds
  decide

theorem comma_outsideIds : OutsideIds 44 := by
  unfold OutsideIds
  decide

theorem OutsideIds.not_mem_short {unit : UInt16} (outside : OutsideIds unit) (identifier : Id) :
    unit ∉ shortId identifier :=
  fun found => outside.not_mem identifier (List.mem_of_mem_take found)

theorem mem_joinWith {separator : JsString} {texts : List JsString} {unit : UInt16}
    (found : unit ∈ joinWith separator texts) : unit ∈ separator ∨ ∃ text ∈ texts, unit ∈ text := by
  induction texts with
  | nil => cases found
  | cons text rest ih =>
      by_cases more : rest = []
      · subst more
        exact .inr ⟨text, List.mem_singleton_self _, found⟩
      · rw [joinWith_cons_ne more] at found
        rcases List.mem_append.mp found with here | later
        · exact .inr ⟨text, List.mem_cons_self, here⟩
        · rcases List.mem_append.mp later with inside | after
          · exact .inl inside
          · rcases ih after with inside | ⟨other, member, inside⟩
            · exact .inl inside
            · exact .inr ⟨other, List.mem_cons_of_mem _ member, inside⟩

theorem newline_not_mem_flag (conflictsWith : List Id) : 10 ∉ conflictFlag conflictsWith := by
  unfold conflictFlag
  split
  · exact List.not_mem_nil
  · intro found
    rcases List.mem_append.mp found with opening | rest
    · exact absurd opening (by decide)
    · rcases List.mem_append.mp rest with inside | closing
      · rcases mem_joinWith inside with separator | ⟨text, member, inside⟩
        · exact absurd separator (by decide)
        · obtain ⟨id, -, rfl⟩ := List.mem_map.mp member
          exact newline_outsideIds.not_mem_short id inside
      · exact absurd closing (by decide)

theorem newline_not_mem_head (class_ : MemoryClass) (trustClass : TrustClass) (version : Nat) (memoryId : Id)
    (content : JsString) : 10 ∉ lineHead class_ trustClass version memoryId content := by
  have classes : 10 ∉ class_.text := by
    cases class_ <;> decide
  have trust : 10 ∉ trustText trustClass := by
    cases trustClass <;> decide
  have number : 10 ∉ decimal version := by
    intro found
    have digit := isDigit_of_mem_decimal found
    unfold IsDigitUnit at digit
    exact absurd digit (by decide)
  have short := newline_outsideIds.not_mem_short memoryId
  have shown : 10 ∉ oneLine content := fun found => break_not_mem_unbroken found rfl
  have literals : 10 ∉ js "- [" ∧ 10 ∉ js "/" ∧ 10 ∉ js " v" ∧ 10 ∉ js " " ∧ 10 ∉ js "] " := by decide
  obtain ⟨opening, slash, letter, blank, closing⟩ := literals
  unfold lineHead
  simp only [List.mem_append, not_or]
  exact ⟨⟨⟨⟨⟨⟨⟨⟨⟨opening, classes⟩, slash⟩, trust⟩, letter⟩, number⟩, blank⟩, short⟩, closing⟩, shown⟩

theorem newline_not_mem_line (item : ContextItem) : 10 ∉ item.line := by
  intro found
  rcases List.mem_append.mp found with head | flag
  · exact newline_not_mem_head _ _ _ _ _ head
  · exact newline_not_mem_flag _ flag

/-- A flag shows the short identifiers of the conflicting memories, and nothing else. -/
theorem conflictFlag_eq_iff {conflicts others : List Id} :
    conflictFlag conflicts = conflictFlag others ↔ conflicts.map shortId = others.map shortId := by
  have absent : ∀ ids : List Id, ∀ text ∈ ids.map shortId, (44 : UInt16) ∉ text := by
    intro ids text member
    obtain ⟨id, -, rfl⟩ := List.mem_map.mp member
    exact comma_outsideIds.not_mem_short id
  have shown : ∀ {ids : List Id}, ids ≠ [] → conflictFlag ids = js " (CONFLICTS WITH " ++
      (joinWith (js ", ") (ids.map shortId) ++ js ": unresolved, do not treat as settled)") := fun some_ => if_neg some_
  have started : ∀ rest, js " (CONFLICTS WITH " ++ rest ≠ [] := by
    intro rest nothing
    exact absurd (List.append_eq_nil_iff.mp nothing).1 (by decide)
  by_cases none : conflicts = []
  · subst none
    by_cases none' : others = []
    · subst none'
      exact iff_of_true rfl rfl
    · refine iff_of_false (fun same => ?_) fun same => none' (List.map_eq_nil_iff.mp same.symm)
      rw [shown none'] at same
      exact started _ same.symm
  · by_cases none' : others = []
    · subst none'
      refine iff_of_false (fun same => ?_) fun same => none (List.map_eq_nil_iff.mp same)
      rw [shown none] at same
      exact started _ same
    · rw [shown none, shown none']
      constructor
      · intro same
        have joined : joinWith (44 :: js " ") (conflicts.map shortId) = joinWith (44 :: js " ") (others.map shortId) :=
          List.append_cancel_right (List.append_cancel_left same)
        exact joinWith_injective (fun nothing => none (List.map_eq_nil_iff.mp nothing))
          (fun nothing => none' (List.map_eq_nil_iff.mp nothing)) (absent conflicts) (absent others) joined
      · intro same
        rw [same]

/-! ## What is selected -/

section Selecting

variable {platform : Platform} {rows : MemoryRows} {call : AssembleCall}

theorem packOne_items (budget : ContextBudget) (selection : Selection) (memory : Scored) :
    (packOne budget selection memory).items = selection.items ∨
      (packOne budget selection memory).items = selection.items ++ [memory.item] := by
  have excluded : ∀ reason, (selection.exclude memory reason).items = selection.items := by
    intro reason
    unfold Selection.exclude
    split <;> rfl
  unfold packOne
  split
  · exact .inl (excluded _)
  · split
    · exact .inl (excluded _)
    · exact .inr rfl

theorem mem_packed {ranked : List Scored} {budget : ContextBudget} {selection : Selection} {item : ContextItem}
    (member : item ∈ (ranked.foldl (packOne budget) selection).items) :
    item ∈ selection.items ∨ ∃ memory ∈ ranked, item = memory.item := by
  induction ranked generalizing selection with
  | nil => exact .inl member
  | cons memory rest ih =>
      rcases ih member with before | ⟨later, inside, same⟩
      · rcases packOne_items budget selection memory with kept | added
        · exact .inl (kept ▸ before)
        · rw [added] at before
          rcases List.mem_append.mp before with before | new
          · exact .inl before
          · exact .inr ⟨memory, List.mem_cons_self, List.mem_singleton.mp new⟩
      · exact .inr ⟨later, List.mem_cons_of_mem _ inside, same⟩

theorem mem_rankCandidates {candidates : List Candidate} {purpose : JsString} {memory : Scored}
    (member : memory ∈ rankCandidates platform candidates purpose) : memory.toCandidate ∈ candidates := by
  have scored := (List.perm_insertionSort _ _).subset member
  obtain ⟨candidate, inside, same⟩ := List.mem_filterMap.mp scored
  unfold score at same
  dsimp only at same
  split at same
  · split at same
    · cases same
      exact inside
    · cases same
  · cases same
    exact inside

theorem mapVersion_keeps {row read : VersionRow} (reads : mapVersion row = some read) :
    read.memoryId = row.memoryId ∧ read.version = row.version ∧ read.class_ = row.class_ ∧
      read.trustClass = row.trustClass ∧ read.content = row.content := by
  unfold mapVersion at reads
  simp only [Option.bind_eq_bind, Option.bind_eq_some_iff] at reads
  obtain ⟨subject, -, evidence, -, checked⟩ := reads
  split at checked
  · cases checked
    exact ⟨rfl, rfl, rfl, rfl, rfl⟩
  · cases checked

theorem mem_visible {context : TenantContext} {request : ContextRequest} {row : VersionRow}
    (member : row ∈ rows.visible context request) : row ∈ rows.versions := by
  have filtered := (List.perm_insertionSort _ _).subset (List.mem_of_mem_take member)
  exact (List.mem_filter.mp (List.mem_filter.mp filtered).1).1

/-- An item shows a version of the table with the conflicts that the tables know of its memory. -/
structure Shows (rows : MemoryRows) (tenantId : Id) (item : ContextItem) (row : VersionRow) : Prop where
  inside : row ∈ rows.versions
  memoryId : item.memoryId = row.memoryId
  version : item.version = row.version
  head : lineHead item.class_ item.trustClass item.version item.memoryId item.content =
    lineHead row.class_ row.trustClass row.version row.memoryId row.content
  conflicts : item.conflictsWith = rows.conflictsOf tenantId item.memoryId

theorem mapM_mem {α β : Type} {read : α → Option β} {values : List α} {results : List β}
    (reads : values.mapM read = some results) {result : β} (member : result ∈ results) :
    ∃ value ∈ values, read value = some result := by
  induction values generalizing results with
  | nil =>
      cases reads
      cases member
  | cons value rest ih =>
      rw [List.mapM_cons] at reads
      simp only [Option.bind_eq_bind, Option.bind_eq_some_iff] at reads
      obtain ⟨first, here, others, later, same⟩ := reads
      cases same
      rcases List.mem_cons.mp member with rfl | inside
      · exact ⟨value, List.mem_cons_self, here⟩
      · obtain ⟨other, found, reads'⟩ := ih later inside
        exact ⟨other, List.mem_cons_of_mem _ found, reads'⟩

theorem selected_shows {selection : Selection} (chosen : selected platform rows call = some selection)
    {item : ContextItem} (member : item ∈ selection.items) : ∃ row, Shows rows call.context.tenantId item row := by
  unfold selected at chosen
  simp only [Option.bind_eq_bind, Option.bind_eq_some_iff] at chosen
  obtain ⟨versions, reads, same⟩ := chosen
  cases same
  rcases mem_packed member with none | ⟨memory, ranked, rfl⟩
  · cases none
  · obtain ⟨read, inside, same⟩ := List.mem_map.mp (mem_rankCandidates ranked)
    obtain ⟨row, visible, mapped⟩ := mapM_mem reads inside
    obtain ⟨memoryId, version, class_, trust, content⟩ := mapVersion_keeps mapped
    have fields : memory.memoryId = read.memoryId ∧ memory.version = read.version ∧ memory.class_ = read.class_ ∧
        memory.trustClass = read.trustClass ∧ memory.content = read.content ∧
        memory.conflictsWith = rows.conflictsOf call.context.tenantId read.memoryId := by
      rw [← same]
      exact ⟨rfl, rfl, rfl, rfl, rfl, rfl⟩
    obtain ⟨sameId, sameVersion, sameClass, sameTrust, sameContent, flags⟩ := fields
    refine ⟨row, mem_visible visible, sameId.trans memoryId, sameVersion.trans version, ?_, ?_⟩
    · show lineHead memory.class_ memory.trustClass memory.version memory.memoryId memory.content = _
      rw [sameClass, sameTrust, sameVersion, sameId, sameContent, class_, trust, version, memoryId, content]
    · show memory.conflictsWith = rows.conflictsOf call.context.tenantId memory.memoryId
      rw [flags, sameId]

end Selecting

/-! ## What is rendered -/

section Rendering

theorem mapM_map {α β γ : Type} {read : α → Option β} {before : α → γ} {after : β → γ}
    (kept : ∀ value result, read value = some result → after result = before value) {values : List α}
    {results : List β} (reads : values.mapM read = some results) : results.map after = values.map before := by
  induction values generalizing results with
  | nil =>
      cases reads
      rfl
  | cons value rest ih =>
      rw [List.mapM_cons] at reads
      simp only [Option.bind_eq_bind, Option.bind_eq_some_iff] at reads
      obtain ⟨first, here, others, later, same⟩ := reads
      cases same
      rw [List.map_cons, List.map_cons, kept value first here, ih later]

theorem ContextItem.parse_line {item parsed : ContextItem} (reads : item.parse = some parsed) :
    parsed.line = item.line := by
  unfold ContextItem.parse at reads
  simp only [Option.bind_eq_bind, Option.bind_eq_some_iff] at reads
  obtain ⟨evidence, -, checked⟩ := reads
  split at checked
  · cases checked
    rfl
  · cases checked

theorem parseBounded_eq {least most : Nat} {text parsed : JsString} (reads : parseBounded least most text = some parsed) :
    parsed = trim text := by
  unfold parseBounded at reads
  split at reads
  · exact (Option.some.inj reads).symm
  · cases reads

def shownLine (external : ExternalContextItem) : JsString := externalLine external.ref external.text

theorem ExternalContextItem.parse_line {external parsed : ExternalContextItem} (reads : external.parse = some parsed) :
    shownLine parsed = externalLine (trim external.ref) (trim external.text) := by
  unfold ExternalContextItem.parse at reads
  simp only [Option.bind_eq_bind, Option.bind_eq_some_iff] at reads
  obtain ⟨ref, sameRef, text, sameText, checked⟩ := reads
  split at checked
  · cases checked
    rw [← parseBounded_eq sameRef, ← parseBounded_eq sameText]
    rfl
  · cases checked

/-- The text of the lines of both kinds. -/
def rendered (memories externals : List JsString) : JsString :=
  joinWith (js "\n\n")
    ((if memories = [] then [] else [joinWith (js "\n") (memoryHeader ++ memories)]) ++
      if externals = [] then [] else [joinWith (js "\n") (externalHeader :: externals)])

theorem renderContext_eq (context : AssembledContext) :
    renderContext context = rendered (context.items.map ContextItem.line) (context.external.map shownLine) := by
  unfold renderContext contextBlocks rendered
  rw [if_congr (List.map_eq_nil_iff (f := ContextItem.line) (l := context.items)) rfl rfl]
  rw [if_congr (List.map_eq_nil_iff (f := shownLine) (l := context.external)) rfl rfl]
  rfl

/-- Beside the same external lines, texts differ exactly where the lines of memories differ. -/
theorem rendered_eq_iff {memories others externals : List JsString} (aligned : memories.length = others.length)
    (single : ∀ line ∈ memories, 10 ∉ line) (single' : ∀ line ∈ others, 10 ∉ line) :
    rendered memories externals = rendered others externals ↔ memories = others := by
  refine ⟨fun same => ?_, fun same => by rw [same]⟩
  by_cases none : memories = []
  · subst none
    exact (List.eq_nil_of_length_eq_zero aligned.symm).symm
  · have none' : others ≠ [] := by
      rintro rfl
      exact none (List.eq_nil_of_length_eq_zero aligned)
    have header : ∀ line ∈ memoryHeader, (10 : UInt16) ∉ line := by
      unfold memoryHeader
      repeat rw [js_ofList]
      decide
    have blocks : joinWith (js "\n") (memoryHeader ++ memories) = joinWith (js "\n") (memoryHeader ++ others) := by
      unfold rendered at same
      rw [if_neg none, if_neg none'] at same
      split at same
      · exact same
      · exact List.append_cancel_right same
    have joined : memoryHeader ++ memories = memoryHeader ++ others := by
      refine @joinWith_injective 10 [] _ _ ?_ ?_ ?_ ?_ blocks
      · exact List.append_ne_nil_of_right_ne_nil _ none
      · exact List.append_ne_nil_of_right_ne_nil _ none'
      · intro line member
        rcases List.mem_append.mp member with first | later
        · exact header line first
        · exact single line later
      · intro line member
        rcases List.mem_append.mp member with first | later
        · exact header line first
        · exact single' line later
    exact List.append_cancel_left joined

end Rendering

/-! ## Two contexts of one digest -/

section Pairs

/-- What the digest names of a memory. -/
def itemJson (item : ContextItem) : Json :=
  .obj [(js "id", .str item.memoryId.text), (js "version", .num item.version), (js "digest", .str item.contentDigest)]

def externalJson (item : ExternalContextItem) : Json :=
  .obj [(js "ref", .str item.ref), (js "digest", .str item.digest)]

theorem contextJson_eq {platform : Platform} {nfc : JsString → JsString} {tenantId otherTenant : Id}
    {request otherRequest : ContextRequest} {items otherItems : List ContextItem}
    {external otherExternal : List ExternalContextItem}
    (same : contextJson platform nfc tenantId request items external =
      contextJson platform nfc otherTenant otherRequest otherItems otherExternal) :
    tenantId = otherTenant ∧ items.map itemJson = otherItems.map itemJson ∧
      external.map externalJson = otherExternal.map externalJson := by
  simp only [contextJson, Json.obj.injEq, List.cons.injEq, Prod.mk.injEq, Json.str.injEq, Json.arr.injEq, true_and,
    and_true] at same
  obtain ⟨tenant, -, -, -, -, -, items_, external_⟩ := same
  exact ⟨Contracts.Common.Id.ext tenant, items_, external_⟩

theorem forall₂_of_map_eq {α β : Type} {view : α → β} {values others : List α}
    (same : values.map view = others.map view) : List.Forall₂ (fun one two => view one = view two) values others := by
  have aligned : List.Forall₂ (· = ·) (values.map view) (others.map view) := by
    rw [same]
    exact List.forall₂_refl _
  exact List.forall₂_map_right_iff.mp (List.forall₂_map_left_iff.mp aligned)

theorem itemJson_eq {one two : ContextItem} (same : itemJson one = itemJson two) :
    one.memoryId = two.memoryId ∧ one.version = two.version := by
  simp only [itemJson, Json.obj.injEq, List.cons.injEq, Prod.mk.injEq, Json.str.injEq, Json.num.injEq, true_and,
    and_true] at same
  obtain ⟨memory, version, -⟩ := same
  exact ⟨Contracts.Common.Id.ext memory, Int.ofNat.inj version⟩

variable {table rows others : MemoryRows} {tenantId : Id}

/-- The lines of the same versions differ exactly in the flags of their memories. -/
theorem lines_eq_iff (one : rows.versions ⊆ table.versions) (two : others.versions ⊆ table.versions)
    {items later : List ContextItem}
    (aligned : List.Forall₂ (fun first second => itemJson first = itemJson second) items later)
    (shows : ∀ item ∈ items, ∃ row, Shows rows tenantId item row)
    (shows' : ∀ item ∈ later, ∃ row, Shows others tenantId item row) :
    items.map ContextItem.line = later.map ContextItem.line ↔ ∀ item ∈ items,
      (rows.conflictsOf tenantId item.memoryId).map shortId = (others.conflictsOf tenantId item.memoryId).map shortId := by
  induction aligned with
  | nil => exact iff_of_true rfl fun _ none => by cases none
  | @cons item second rest tail same aligned ih =>
      obtain ⟨memory, version⟩ := itemJson_eq same
      obtain ⟨row, shown⟩ := shows item List.mem_cons_self
      obtain ⟨other, shown'⟩ := shows' second List.mem_cons_self
      have sameRow : row = other := table.keys row (one shown.inside) other (two shown'.inside)
        (shown.memoryId.symm.trans (memory.trans shown'.memoryId))
        (shown.version.symm.trans (version.trans shown'.version))
      have heads := shown.head.trans ((congrArg (fun row : VersionRow =>
        lineHead row.class_ row.trustClass row.version row.memoryId row.content) sameRow).trans shown'.head.symm)
      have line : item.line = second.line ↔ (rows.conflictsOf tenantId item.memoryId).map shortId =
          (others.conflictsOf tenantId item.memoryId).map shortId := by
        rw [← shown.conflicts, memory, ← shown'.conflicts, ← conflictFlag_eq_iff]
        show lineHead _ _ _ _ _ ++ _ = lineHead _ _ _ _ _ ++ _ ↔ _
        rw [heads]
        exact List.append_right_inj _
      rw [List.map_cons, List.map_cons, List.cons.injEq, List.forall_mem_cons, line,
        ih (fun item member => shows item (List.mem_cons_of_mem _ member))
          fun item member => shows' item (List.mem_cons_of_mem _ member)]

end Pairs

/-! ## Histories -/

section Histories

variable (platform : Platform) (nfc : JsString → JsString)

/-- A context that a call was given, and the rows that it read. -/
structure Sent where
  rows : MemoryRows
  call : AssembleCall
  context : AssembledContext

/-- Rows are only ever added. -/
structure Grows (before after : MemoryRows) : Prop where
  versions : before.versions <+: after.versions
  relations : before.relations <+: after.relations
  conflicts : before.conflicts <+: after.conflicts

/-- Assemblies between any additions to the tables: the contexts that were sent, newest first, and the
rows of `memory_context_assemblies`. -/
inductive History : MemoryRows → List Sent → List AssembledContext → Prop where
  | start (rows : MemoryRows) : History rows [] []
  | grown {before after : MemoryRows} {sent : List Sent} {assemblies : List AssembledContext}
      (history : History before sent assemblies) (grows : Grows before after) : History after sent assemblies
  | assembled {rows : MemoryRows} {sent : List Sent} {assemblies : List AssembledContext} {call : AssembleCall}
      {context : AssembledContext} (history : History rows sent assemblies)
      (made : assemble platform nfc rows call = .ok context) :
      History rows (⟨rows, call, context⟩ :: sent) (recordAssembly assemblies context)

/-- The value that the digest of a sent context is taken of. -/
def Sent.value (sent : Sent) : Option Json := do
  let selection ← selected platform sent.rows sent.call
  let external := packExternal sent.call.external (sent.call.request.budget.maxTokens - selection.usedTokens)
  some (contextJson platform nfc sent.call.context.tenantId sent.call.request selection.items external.kept)

/-- The value that the identifier of a sent context is taken of. -/
def Sent.identity (sent : Sent) : Json :=
  .arr [.str (js "memory-assembly/v1"), .str sent.call.context.tenantId.text, .str sent.context.digest,
    optionalId sent.call.consumer.taskId, optionalId sent.call.consumer.stepId, optionalId sent.call.consumer.callId]

/-- The hash has no collision among what the sent contexts hash. -/
structure CollisionFree (sent : List Sent) : Prop where
  texts : ∀ one ∈ sent, ∀ two ∈ sent, ∀ first ∈ one.call.external, ∀ second ∈ two.call.external,
    sha256Text platform first.text = sha256Text platform second.text → first.text = second.text
  values : ∀ one ∈ sent, ∀ two ∈ sent, ∀ first ∈ one.value platform nfc, ∀ second ∈ two.value platform nfc,
    capabilityDigest platform first = capabilityDigest platform second → first = second
  identities : ∀ one ∈ sent, ∀ two ∈ sent,
    stableId platform.sha256 one.identity = stableId platform.sha256 two.identity → one.identity = two.identity

/-- External items carry the digest of their text. -/
def Digested (external : List ExternalContextItem) : Prop :=
  ∀ item ∈ external, item.digest = sha256Text platform item.text

/-- The memories selected for a context have the same short conflict flags in the tables that the other one read. -/
def FlaggedAlike (one two : Sent) : Prop :=
  ∀ selection ∈ selected platform one.rows one.call, ∀ item ∈ selection.items,
    (one.rows.conflictsOf one.call.context.tenantId item.memoryId).map shortId =
      (two.rows.conflictsOf one.call.context.tenantId item.memoryId).map shortId

end Histories

section Runs

variable {platform : Platform} {nfc : JsString → JsString} {rows : MemoryRows} {sent : List Sent}
  {assemblies : List AssembledContext}

theorem Grows.refl (rows : MemoryRows) : Grows rows rows :=
  ⟨List.prefix_refl _, List.prefix_refl _, List.prefix_refl _⟩

theorem Grows.trans {first second third : MemoryRows} (one : Grows first second) (two : Grows second third) :
    Grows first third :=
  ⟨one.versions.trans two.versions, one.relations.trans two.relations, one.conflicts.trans two.conflicts⟩

/-- Every sent context was assembled from rows that are still there. -/
theorem History.made (history : History platform nfc rows sent assemblies) {one : Sent} (member : one ∈ sent) :
    assemble platform nfc one.rows one.call = .ok one.context ∧ Grows one.rows rows := by
  induction history with
  | start rows => cases member
  | grown _ grows ih =>
      obtain ⟨made, grown⟩ := ih member
      exact ⟨made, grown.trans grows⟩
  | assembled _ made ih =>
      rcases List.mem_cons.mp member with rfl | earlier
      · exact ⟨made, Grows.refl _⟩
      · exact ih earlier

/-- A row of the assemblies was sent, and what was sent has a row under its identifier. -/
theorem History.recorded (history : History platform nfc rows sent assemblies) :
    (∀ row ∈ assemblies, ∃ one ∈ sent, one.context = row) ∧
      ∀ one ∈ sent, ∃ row ∈ assemblies, row.assemblyId = one.context.assemblyId := by
  induction history with
  | start rows => exact ⟨fun _ none => absurd none List.not_mem_nil, fun _ none => absurd none List.not_mem_nil⟩
  | grown _ _ ih => exact ih
  | @assembled rows sent assemblies call context _ made ih =>
      obtain ⟨origin, found⟩ := ih
      unfold recordAssembly
      split
      · next present =>
          obtain ⟨row, inside, same⟩ := List.any_eq_true.mp present
          refine ⟨fun row member => ?_, fun one member => ?_⟩
          · obtain ⟨one, inside, same⟩ := origin row member
            exact ⟨one, List.mem_cons_of_mem _ inside, same⟩
          · rcases List.mem_cons.mp member with rfl | earlier
            · exact ⟨row, inside, of_decide_eq_true same⟩
            · exact found one earlier
      · refine ⟨fun row member => ?_, fun one member => ?_⟩
        · rcases List.mem_append.mp member with earlier | new
          · obtain ⟨one, inside, same⟩ := origin row earlier
            exact ⟨one, List.mem_cons_of_mem _ inside, same⟩
          · exact ⟨_, List.mem_cons_self, (List.mem_singleton.mp new).symm⟩
        · rcases List.mem_cons.mp member with rfl | earlier
          · exact ⟨_, List.mem_append_right _ (List.mem_singleton_self _), rfl⟩
          · obtain ⟨row, inside, same⟩ := found one earlier
            exact ⟨row, List.mem_append_left _ inside, same⟩

/-- What an assembled context says about its selection. -/
structure Assembles (platform : Platform) (nfc : JsString → JsString) (one : Sent) (selection : Selection)
    (external : ExternalSelection) : Prop where
  chosen : selected platform one.rows one.call = some selection
  fitted : external = packExternal one.call.external (one.call.request.budget.maxTokens - selection.usedTokens)
  digest : one.context.digest = capabilityDigest platform
    (contextJson platform nfc one.call.context.tenantId one.call.request selection.items external.kept)
  identifier : one.context.assemblyId = stableId platform.sha256 one.identity
  lines : one.context.items.map ContextItem.line = selection.items.map ContextItem.line
  externals : one.context.external.map shownLine =
    external.kept.map fun item => externalLine (trim item.ref) (trim item.text)

theorem Assembles.value {one : Sent} {selection : Selection} {external : ExternalSelection}
    (made : Assembles platform nfc one selection external) : one.value platform nfc =
      some (contextJson platform nfc one.call.context.tenantId one.call.request selection.items external.kept) := by
  unfold Sent.value
  rw [made.chosen, made.fitted]
  rfl

theorem assembles {one : Sent} (made : assemble platform nfc one.rows one.call = .ok one.context) :
    ∃ selection external, Assembles platform nfc one selection external := by
  obtain ⟨rows, call, context⟩ := one
  unfold assemble at made
  split at made
  · cases made
  · split at made
    · cases made
    · unfold orFail at made
      split at made
      · cases made
      · next built =>
          cases made
          simp only [Option.bind_eq_bind, Option.bind_eq_some_iff] at built
          obtain ⟨selection, chosen, built⟩ := built
          unfold buildAssembled at built
          simp only [Option.bind_eq_bind, Option.bind_eq_some_iff] at built
          obtain ⟨items, read, kept, readExternal, same⟩ := built
          cases same
          exact ⟨selection, _, chosen, rfl, rfl, rfl, mapM_map (fun _ _ => ContextItem.parse_line) read,
            mapM_map (fun _ _ => ExternalContextItem.parse_line) readExternal⟩

theorem mem_packedExternal {external : List ExternalContextItem} {remaining : Nat} {selection : ExternalSelection}
    {item : ExternalContextItem} (member : item ∈ (external.foldl (packExternalOne remaining) selection).kept) :
    item ∈ selection.kept ∨ ∃ given ∈ external, item.ref = given.ref ∧ item.text = given.text ∧
      item.digest = given.digest := by
  induction external generalizing selection with
  | nil => exact .inl member
  | cons first rest ih =>
      rcases ih member with before | ⟨given, inside, same⟩
      · unfold packExternalOne at before
        dsimp only at before
        split at before
        · exact .inl before
        · rcases List.mem_append.mp before with before | new
          · exact .inl before
          · rw [List.mem_singleton.mp new]
            exact .inr ⟨first, List.mem_cons_self, rfl, rfl, rfl⟩
      · exact .inr ⟨given, List.mem_cons_of_mem _ inside, same⟩

/-- The external items of one digest have one text. -/
theorem externals_eq {kept others : List ExternalContextItem}
    (aligned : List.Forall₂ (fun one two => externalJson one = externalJson two) kept others)
    (apart : ∀ one ∈ kept, ∀ two ∈ others, one.digest = two.digest → one.text = two.text) :
    (kept.map fun item => externalLine (trim item.ref) (trim item.text)) =
      others.map fun item => externalLine (trim item.ref) (trim item.text) := by
  induction aligned with
  | nil => rfl
  | @cons one two rest tail same aligned ih =>
      simp only [externalJson, Json.obj.injEq, List.cons.injEq, Prod.mk.injEq, Json.str.injEq, true_and,
        and_true] at same
      obtain ⟨ref, digest⟩ := same
      have text := apart one List.mem_cons_self two List.mem_cons_self digest
      rw [List.map_cons, List.map_cons, ref, text,
        ih fun one member two member' => apart one (List.mem_cons_of_mem _ member) two (List.mem_cons_of_mem _ member')]

theorem rendered_alike_iff (history : History platform nfc rows sent assemblies)
    (collisionFree : CollisionFree platform nfc sent) (digested : ∀ one ∈ sent, Digested platform one.call.external)
    {one two : Sent} (member : one ∈ sent) (member' : two ∈ sent) (same : one.context.digest = two.context.digest) :
    renderContext one.context = renderContext two.context ↔ FlaggedAlike platform one two := by
  obtain ⟨made, grown⟩ := history.made member
  obtain ⟨made', grown'⟩ := history.made member'
  obtain ⟨selection, external, first⟩ := assembles made
  obtain ⟨later, otherExternal, second⟩ := assembles made'
  have values := collisionFree.values one member two member' _
    first.value _ second.value
    (first.digest.symm.trans (same.trans second.digest))
  obtain ⟨tenant, items, externals⟩ := contextJson_eq values
  have given : ∀ {one : Sent} {selection : Selection} {external : ExternalSelection}, one ∈ sent →
      Assembles platform nfc one selection external → ∀ item ∈ external.kept, ∃ given ∈ one.call.external,
        item.text = given.text ∧ item.digest = sha256Text platform given.text := by
    intro one selection external inside shown item kept
    rw [shown.fitted] at kept
    rcases mem_packedExternal kept with none | ⟨given, found, -, text, digest⟩
    · cases none
    · exact ⟨given, found, text, digest.trans (digested one inside given found)⟩
  have sameExternals := externals_eq (forall₂_of_map_eq externals) fun item kept item' kept' digests => by
    obtain ⟨given₁, found, text, digest⟩ := given member first item kept
    obtain ⟨given₂, found', text', digest'⟩ := given member' second item' kept'
    rw [text, text']
    exact collisionFree.texts one member two member' given₁ found given₂ found'
      (digest.symm.trans (digests.trans digest'))
  have aligned := forall₂_of_map_eq items
  have single : ∀ (items : List ContextItem), ∀ line ∈ items.map ContextItem.line, 10 ∉ line := by
    intro items line inside
    obtain ⟨item, -, rfl⟩ := List.mem_map.mp inside
    exact newline_not_mem_line item
  rw [renderContext_eq, renderContext_eq, first.lines, second.lines, first.externals, second.externals, sameExternals]
  rw [rendered_eq_iff (by rw [List.length_map, List.length_map]; exact aligned.length_eq) (single _) (single _)]
  rw [lines_eq_iff grown.versions.subset grown'.versions.subset aligned (fun item => selected_shows first.chosen)
    fun item inside => tenant ▸ selected_shows second.chosen inside]
  unfold FlaggedAlike
  rw [first.chosen]
  constructor
  · intro alike selection chosen
    cases chosen
    exact alike
  · intro alike
    exact alike selection rfl

/-- Along every history, contexts of one digest have one text exactly when their memories are flagged alike,
and the row under an assembly's identifier reproduces its text exactly then. -/
theorem digest_pins_text_iff (history : History platform nfc rows sent assemblies)
    (collisionFree : CollisionFree platform nfc sent) (digested : ∀ one ∈ sent, Digested platform one.call.external) :
    (∀ one ∈ sent, ∀ two ∈ sent, one.context.digest = two.context.digest →
        (renderContext one.context = renderContext two.context ↔ FlaggedAlike platform one two)) ∧
      ∀ one ∈ sent, (∃ row ∈ assemblies, row.assemblyId = one.context.assemblyId) ∧
        ∀ row ∈ assemblies, row.assemblyId = one.context.assemblyId → ∃ first ∈ sent, first.context = row ∧
          (renderContext row = renderContext one.context ↔ FlaggedAlike platform first one) := by
  obtain ⟨origin, found⟩ := history.recorded
  refine ⟨fun one member two member' same => rendered_alike_iff history collisionFree digested member member' same,
    fun one member => ⟨found one member, fun row inside reused => ?_⟩⟩
  obtain ⟨first, member', rfl⟩ := origin row inside
  refine ⟨first, member', rfl, rendered_alike_iff history collisionFree digested member' member ?_⟩
  obtain ⟨_, _, recorded⟩ := assembles (history.made member').1
  obtain ⟨_, _, asked⟩ := assembles (history.made member).1
  have identities := collisionFree.identities first member' one member
    (recorded.identifier.symm.trans (reused.trans asked.identifier))
  simp only [Sent.identity, Json.arr.injEq, List.cons.injEq, Json.str.injEq] at identities
  exact identities.2.2.1

end Runs

/-! ## The tables of the memory service -/

section Reachability

variable {platform : Platform} {nfc : JsString → JsString} {configured : Bool} {store next : Store}

/-- The rows that an assembly reads of a store of the memory service. -/
def storedRows (store : Store) (lawful : Lawful store.tables) : MemoryRows where
  members := store.tables.members
  versions := store.tables.versions
  relations := store.tables.relations
  conflicts := store.conflicts
  keys := lawful.versionKeys

/-- Every step of the memory service only adds rows to what an assembly reads. -/
theorem step_grows (taken : Step platform nfc configured store next) (lawful : Lawful store.tables)
    (lawful' : Lawful next.tables) : Grows (storedRows store lawful) (storedRows next lawful') := by
  have added : ∀ {after : MemoryState} {writes : Writes}, Committed store.tables writes after →
      store.tables.versions <+: after.versions ∧ store.tables.relations <+: after.relations := by
    intro after writes committed
    rw [committed.rows]
    exact ⟨List.prefix_append _ _, List.prefix_append _ _⟩
  cases taken with
  | prepare => exact ⟨List.prefix_refl _, List.prefix_refl _, List.prefix_refl _⟩
  | record _ _ _ _ _ _ _ _ _ _ _ _ committed =>
      exact ⟨(added committed).1, (added committed).2, List.prefix_refl _⟩
  | readCandidate => exact ⟨List.prefix_refl _, List.prefix_refl _, List.prefix_refl _⟩
  | askApproval => exact ⟨List.prefix_refl _, List.prefix_refl _, List.prefix_refl _⟩
  | settle _ _ _ _ _ _ _ _ _ _ _ _ _ _ _ committed =>
      exact ⟨(added committed).1, (added committed).2, List.prefix_refl _⟩
  | flag => exact ⟨List.prefix_refl _, List.prefix_refl _, List.prefix_append _ _⟩
  | lose => exact ⟨List.prefix_refl _, List.prefix_refl _, List.prefix_refl _⟩
  | change => exact ⟨List.prefix_refl _, List.prefix_refl _, List.prefix_refl _⟩

end Reachability

/-! ## A conflict that is flagged between two assemblies -/

section Sample

def planner : Id := ⟨js "3f0c8a51-7d2e-4b6a-9c14-5e8f2a7b6d30", by decide⟩

def weekdays : Id := ⟨js "8d41f7b2-0c95-4e3d-b6a8-1f29c7e05a64", by decide⟩

def fridays : Id := ⟨js "c27b9e06-54fa-4d18-8e73-a90d6b1c4f58", by decide⟩

def preference (memoryId : Id) (content contentDigest : JsString) : VersionRow where
  memoryId := memoryId
  version := 1
  tenantId := planner
  class_ := .preference
  kind := .assert
  content := content
  contentDigest := contentDigest
  subject := ⟨.tenant, planner.text⟩
  trustClass := .userAuthored
  confidence := .stated
  provenance := ⟨.operatorInstruction, planner, memoryId, js "said by the operator"⟩
  evidence := [⟨.telegramUpdate, js "700100", none⟩]
  policy := ⟨js "kj-memory-policy/v1", js "operator-preference", .decided .allow, false, none⟩
  candidateId := memoryId
  promotionId := memoryId
  supersedesVersion := none
  createdAt := .epoch
  promotedAt := .epoch

def weekdaysRow : VersionRow := preference weekdays (js "Deploy on weekdays only.") 
  (js "fc9122e0de41f981107c2950ddd65c86799b135d076898deaef4e705e15d0f4f")

def fridaysRow : VersionRow := preference fridays (js "Never deploy on a Friday.") 
  (js "5939c8fd0588e7208f7ad50d7f484265d544e98584f9fe179e8f047ee8bdddfe")

/-- The tables with two preferences, before and after they are flagged. -/
def preferences (conflicts : List ConflictRow) : MemoryRows where
  members := fun _ => some .owner
  versions := [weekdaysRow, fridaysRow]
  relations := []
  conflicts := conflicts
  keys := by
    intro first one second two same _
    rcases List.mem_pair.mp one with rfl | rfl <;> rcases List.mem_pair.mp two with rfl | rfl
    · rfl
    · exact absurd same (by decide)
    · exact absurd same (by decide)
    · rfl

def flagged : List ConflictRow := [⟨planner, planner, weekdays, fridays, planner, []⟩]

def deployCall : AssembleCall where
  context := ⟨planner, ⟨planner, .human⟩⟩
  request := {
    purpose := js "Is it ok?"
    subject := none
    project := none
    allowedClasses := [.preference]
    budget := ⟨12, 1500, by decide, by decide⟩
    purposeBounds := by decide
    classBounds := by decide }
  external := []
  consumer := ⟨some planner, none, none⟩

/-- The digests of the purpose, of the context and of the identity of its assembly. -/
def deploySha256 (text : JsString) : HexDigest :=
  if text = js "Is it ok?" then .ofDigits
    [0x9, 0x5, 0x8, 0xd, 0x5, 0x5, 0x2, 0xd, 0xe, 0xd, 0x4, 0xb, 0xd, 0x8, 0x6, 0x0, 0x4, 0x8, 0xc, 0x0,
      0x4, 0xd, 0x4, 0xf, 0xa, 0x5, 0xd, 0xf, 0x5, 0x5, 0x5, 0x8, 0xc, 0xf, 0x8, 0xb, 0xf, 0x3, 0x2, 0x7,
      0x5, 0x7, 0x8, 0xe, 0x4, 0xa, 0x4, 0xd, 0x1, 0xb, 0xa, 0x8, 0x1, 0xe, 0x9, 0x1, 0x3, 0x6, 0xf, 0x0,
      0xe, 0x9, 0xe, 0xa]
  else if text.head? = some 123 then .ofDigits
    [0x3, 0x4, 0x5, 0x1, 0xc, 0xf, 0x1, 0xf, 0x0, 0x5, 0x0, 0x6, 0x9, 0x1, 0x7, 0x7, 0xf, 0x6, 0x2, 0x7,
      0x1, 0x5, 0x3, 0x6, 0xe, 0x1, 0xd, 0x2, 0x3, 0xc, 0x4, 0x2, 0xc, 0xe, 0xc, 0xb, 0x9, 0xb, 0x0, 0x9,
      0x8, 0xa, 0x4, 0x7, 0x9, 0xa, 0xc, 0xd, 0x9, 0x0, 0x6, 0x0, 0xe, 0x6, 0x9, 0xd, 0x1, 0xa, 0x5, 0x9,
      0x0, 0x8, 0x3, 0x7]
  else .ofDigits
    [0x3, 0x7, 0xd, 0xa, 0x9, 0xe, 0xf, 0xb, 0x4, 0xa, 0xd, 0x8, 0xa, 0x6, 0x0, 0xc, 0xa, 0x0, 0xa, 0x6,
      0x9, 0x2, 0x0, 0x5, 0xe, 0x6, 0xf, 0x9, 0xf, 0xc, 0xf, 0x8, 0xd, 0x6, 0x0, 0x7, 0xb, 0xa, 0x7, 0x4,
      0x3, 0x4, 0xe, 0x9, 0xa, 0xe, 0x7, 0xb, 0x2, 0x9, 0xa, 0x5, 0x2, 0xc, 0x3, 0x3, 0xe, 0x7, 0x4, 0x9,
      0xf, 0xb, 0x3, 0x5]

def deployPlatform : Platform :=
  { Platform.ascii with sha256 := deploySha256 }

def deployed (conflicts : List ConflictRow) : Option AssembledContext :=
  (assemble deployPlatform id (preferences conflicts) deployCall).toOption

/-- The identifiers, the versions and the digests of some items. -/
def itemKeys (items : List ContextItem) : List (Id × Nat × JsString) :=
  items.map fun item => (item.memoryId, item.version, item.contentDigest)

theorem contextJson_congr {platform : Platform} {nfc : JsString → JsString} {tenantId : Id} {request : ContextRequest}
    {items others : List ContextItem} {external : List ExternalContextItem} (same : itemKeys items = itemKeys others) :
    contextJson platform nfc tenantId request items external =
      contextJson platform nfc tenantId request others external := by
  have values : ∀ items : List ContextItem, items.map itemJson = (itemKeys items).map fun key =>
      Json.obj [(js "id", .str key.1.text), (js "version", .num key.2.1), (js "digest", .str key.2.2)] := by
    intro items
    unfold itemKeys
    rw [List.map_map]
    rfl
  have listed : items.map itemJson = others.map itemJson := by
    rw [values, values, same]
  unfold itemJson at listed
  unfold contextJson
  rw [listed]

/-- Contexts that hash one value and have one identity have no collision among them. -/
theorem CollisionFree.of_one {platform : Platform} {nfc : JsString → JsString} {sent : List Sent} (value identity : Json)
    (bare : ∀ one ∈ sent, one.call.external = []) (values : ∀ one ∈ sent, one.value platform nfc = some value)
    (identities : ∀ one ∈ sent, one.identity = identity) : CollisionFree platform nfc sent where
  texts := by
    intro one member two member' first inside
    rw [bare one member] at inside
    cases inside
  values := by
    intro one member two member' first found second found' _
    rw [values one member] at found
    rw [values two member'] at found'
    cases found
    cases found'
    rfl
  identities := fun one member two member' _ => (identities one member).trans (identities two member').symm

/-- The keys of the two preferences. -/
def deployKeys : List (Id × Nat × JsString) :=
  [(weekdays, 1, weekdaysRow.contentDigest), (fridays, 1, fridaysRow.contentDigest)]

/-- What the sample selects, and that it is assembled. -/
theorem deploy_evaluated {conflicts : List ConflictRow} (known : conflicts = [] ∨ conflicts = flagged) :
    (selected deployPlatform (preferences conflicts) deployCall).map
      (fun selection => itemKeys selection.items) = some deployKeys ∧ (deployed conflicts).isSome = true := by
  rcases known with rfl | rfl
  · decide +kernel
  · decide +kernel

theorem deploy_selected {conflicts : List ConflictRow} (known : conflicts = [] ∨ conflicts = flagged) :
    ∃ selection, selected deployPlatform (preferences conflicts) deployCall = some selection ∧
      itemKeys selection.items = deployKeys :=
  Option.map_eq_some_iff.mp (deploy_evaluated known).1

theorem deploy_assembled {conflicts : List ConflictRow} (known : conflicts = [] ∨ conflicts = flagged) :
    ∃ context, assemble deployPlatform id (preferences conflicts) deployCall = .ok context := by
  have assembled := (deploy_evaluated known).2
  unfold deployed at assembled
  cases ran : assemble deployPlatform id (preferences conflicts) deployCall with
  | error failure =>
      rw [ran] at assembled
      cases assembled
  | ok context => exact ⟨context, rfl⟩

/-- The call is assembled before and after the conflicts are flagged. -/
theorem deploy_history {conflicts : List ConflictRow} (known : conflicts = [] ∨ conflicts = flagged) :
    ∃ first second, assemble deployPlatform id (preferences []) deployCall = .ok first ∧
      assemble deployPlatform id (preferences conflicts) deployCall = .ok second ∧
      first.digest = second.digest ∧ first.assemblyId = second.assemblyId ∧
      History deployPlatform id (preferences conflicts)
        [⟨preferences conflicts, deployCall, second⟩, ⟨preferences [], deployCall, first⟩]
        (recordAssembly (recordAssembly [] first) second) ∧
      CollisionFree deployPlatform id
        [⟨preferences conflicts, deployCall, second⟩, ⟨preferences [], deployCall, first⟩] := by
  obtain ⟨first, made⟩ := deploy_assembled (.inl rfl)
  obtain ⟨second, made'⟩ := deploy_assembled known
  obtain ⟨selection, chosen, keys⟩ := deploy_selected (.inl rfl)
  obtain ⟨later, chosen', keys'⟩ := deploy_selected known
  obtain ⟨sameSelection, external, one⟩ := @assembles deployPlatform id ⟨preferences [], deployCall, first⟩ made
  obtain ⟨sameLater, external', two⟩ := @assembles deployPlatform id ⟨preferences conflicts, deployCall, second⟩ made'
  cases Option.some.inj (chosen.symm.trans one.chosen)
  cases Option.some.inj (chosen'.symm.trans two.chosen)
  have values : contextJson deployPlatform id planner deployCall.request later.items external'.kept =
      contextJson deployPlatform id planner deployCall.request selection.items external.kept := by
    rw [one.fitted, two.fitted]
    exact contextJson_congr (keys'.trans keys.symm)
  have digest : second.digest = first.digest := two.digest.trans ((congrArg _ values).trans one.digest.symm)
  have identity : (⟨preferences conflicts, deployCall, second⟩ : Sent).identity =
      (⟨preferences [], deployCall, first⟩ : Sent).identity := by
    unfold Sent.identity
    dsimp only
    rw [digest]
  refine ⟨first, second, made, made', digest.symm, ?_, ?_, ?_⟩
  · rw [one.identifier, two.identifier, identity]
  · exact .assembled (.grown (.assembled (.start _) made)
      ⟨List.prefix_refl _, List.prefix_refl _, List.nil_prefix⟩) made'
  · refine CollisionFree.of_one (contextJson deployPlatform id planner deployCall.request selection.items external.kept)
      (⟨preferences [], deployCall, first⟩ : Sent).identity (fun one member => ?_) (fun sent member => ?_)
      fun one member => ?_
    · rcases List.mem_pair.mp member with rfl | rfl <;> rfl
    · rcases List.mem_pair.mp member with rfl | rfl
      · exact two.value.trans (congrArg some values)
      · exact one.value
    · rcases List.mem_pair.mp member with rfl | rfl
      · exact identity
      · rfl

theorem deploy_digested {conflicts : List ConflictRow} {first second : AssembledContext} :
    ∀ one ∈ [(⟨preferences conflicts, deployCall, second⟩ : Sent), ⟨preferences [], deployCall, first⟩],
      Digested deployPlatform one.call.external := by
  intro one member item inside
  rcases List.mem_pair.mp member with rfl | rfl <;> cases inside

/-- The same call twice, with nothing flagged, sends one text and finds it again. -/
theorem deployed_twice : ∃ first second, assemble deployPlatform id (preferences []) deployCall = .ok first ∧
    assemble deployPlatform id (preferences []) deployCall = .ok second ∧
    renderContext first = renderContext second ∧
    ∃ row ∈ recordAssembly (recordAssembly [] first) second, row.assemblyId = second.assemblyId := by
  obtain ⟨first, second, made, made', digest, -, history, collisionFree⟩ := deploy_history (.inl rfl)
  obtain ⟨pinned, rows⟩ := digest_pins_text_iff history collisionFree deploy_digested
  refine ⟨first, second, made, made', ?_, (rows _ List.mem_cons_self).1⟩
  refine (pinned _ (List.mem_cons_of_mem _ (List.mem_singleton_self _)) _ List.mem_cons_self digest).mpr ?_
  exact fun _ _ _ _ => rfl

/-- A conflict flagged between two assemblies changes the text under the same digest and the same identifier. -/
theorem flag_changes_text : ∃ first second, assemble deployPlatform id (preferences []) deployCall = .ok first ∧
    assemble deployPlatform id (preferences flagged) deployCall = .ok second ∧
    History deployPlatform id (preferences flagged)
      [⟨preferences flagged, deployCall, second⟩, ⟨preferences [], deployCall, first⟩]
      (recordAssembly (recordAssembly [] first) second) ∧
    CollisionFree deployPlatform id
      [⟨preferences flagged, deployCall, second⟩, ⟨preferences [], deployCall, first⟩] ∧
    first.digest = second.digest ∧ first.assemblyId = second.assemblyId ∧
    recordAssembly (recordAssembly [] first) second = [first] ∧ renderContext first ≠ renderContext second := by
  obtain ⟨first, second, made, made', digest, reused, history, collisionFree⟩ := deploy_history (.inr rfl)
  refine ⟨first, second, made, made', history, collisionFree, digest, reused, ?_, fun same => ?_⟩
  · show recordAssembly [first] second = [first]
    unfold recordAssembly
    rw [if_pos (List.any_eq_true.mpr ⟨first, List.mem_singleton_self _, decide_eq_true reused⟩)]
  · have alike := (rendered_alike_iff history collisionFree deploy_digested
      (List.mem_cons_of_mem _ (List.mem_singleton_self _)) List.mem_cons_self digest).mp same
    obtain ⟨selection, chosen, keys⟩ := deploy_selected (.inl rfl)
    have listed : (weekdays, 1, weekdaysRow.contentDigest) ∈ itemKeys selection.items := by
      rw [keys]
      exact List.mem_cons_self
    obtain ⟨item, inside, shown⟩ := List.mem_map.mp listed
    have flags := alike selection chosen item inside
    rw [show item.memoryId = weekdays from (Prod.mk.inj shown).1] at flags
    have changed : ((preferences []).conflictsOf planner weekdays).map shortId ≠
        ((preferences flagged).conflictsOf planner weekdays).map shortId := by
      decide
    exact changed flags

end Sample

end KernelJson.Memory.ContextDigest
