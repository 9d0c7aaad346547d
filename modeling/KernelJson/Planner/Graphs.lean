import KernelJson.Foundation.Dependencies
import KernelJson.Planner.Plan

/-!
# Which graphs are plans

The rounds of the schema accept the acyclic graphs in which every step leads to
the result.  Their steps are ordered by taking, again and again, the first of
those that are ready.
-/

namespace KernelJson.Planner.Graphs

open Contracts.Common
open Contracts.Digest
open Foundation
open Foundation.Dependencies
open Planner.Plan

variable {taskId resultStepId : Id} {steps others : List PlanStep}

/-! ## The graph of the steps -/

/-- A step of the list depends on the other one. -/
def DependsOn (steps : List PlanStep) (id other : Id) : Prop :=
  ∃ step ∈ steps, step.id = id ∧ other ∈ step.dependencies

/-- An acyclic graph of known steps, all of which lead to the result; inputs are taken from direct dependencies. -/
structure Rooted (steps : List PlanStep) (resultStepId : Id) : Prop where
  known : ∀ step ∈ steps, ∀ dependency ∈ step.dependencies, dependency ∈ steps.map PlanStep.id
  acyclic : Acyclic (DependsOn steps)
  contributes : ∀ step ∈ steps, Relation.ReflTransGen (DependsOn steps) resultStepId step.id
  direct : ∀ step ∈ steps, step.input.Among step.dependencies

/-- What else the schema asks of the steps. -/
structure Sized (taskId : Id) (steps : List PlanStep) : Prop where
  size : 1 ≤ steps.length ∧ steps.length ≤ 32
  ofTask : ∀ step ∈ steps, step.taskId = taskId
  unrepeated : ∀ step ∈ steps, step.dependencies.Nodup

section Distinct

variable (distinct : (steps.map PlanStep.id).Nodup)

include distinct

theorem step_eq {first second : PlanStep} (here : first ∈ steps) (there : second ∈ steps)
    (same : first.id = second.id) : first = second :=
  List.inj_on_of_nodup_map distinct here there same

theorem dependsOn_iff {step : PlanStep} (member : step ∈ steps) (other : Id) :
    DependsOn steps step.id other ↔ other ∈ step.dependencies := by
  constructor
  · rintro ⟨found, inside, same, dependency⟩
    rw [← step_eq distinct inside member same]
    exact dependency
  · intro dependency
    exact ⟨step, member, rfl, dependency⟩

theorem ready_iff_ready {step : PlanStep} (member : step ∈ steps) (done : List Id) :
    step.Ready done ↔ Ready (DependsOn steps) done step.id := by
  unfold PlanStep.Ready Ready
  simp only [dependsOn_iff distinct member]

end Distinct

theorem id_of_dependsOn {id other : Id} (edge : DependsOn steps id other) : id ∈ steps.map PlanStep.id := by
  obtain ⟨step, member, rfl, -⟩ := edge
  exact List.mem_map_of_mem member

theorem dependsOn_perm (same : steps.Perm others) : DependsOn steps = DependsOn others := by
  funext id other
  simp only [DependsOn, same.mem_iff]

theorem Rooted.closed (known : ∀ step ∈ steps, ∀ dependency ∈ step.dependencies, dependency ∈ steps.map PlanStep.id) :
    ∀ id ∈ steps.map PlanStep.id, ∀ other, DependsOn steps id other → other ∈ steps.map PlanStep.id := by
  rintro id - other ⟨step, member, -, dependency⟩
  exact known step member other dependency

/-! ## Cycles -/

/-- One round of the resolution. -/
def resolveRound (steps : List PlanStep) (resolved : List Id) : List Id :=
  resolved ++ (steps.filter fun step => step.Ready resolved).map PlanStep.id

theorem resolve_eq (rounds : Nat) (resolved : List Id) :
    resolve steps rounds resolved = (resolveRound steps)^[rounds] resolved := by
  induction rounds generalizing resolved with
  | zero => rfl
  | succ rounds ih =>
      rw [Function.iterate_succ_apply, ← ih]
      rfl

/-- What is resolved depends on nothing that leads back to it. -/
theorem resolve_grounded (distinct : (steps.map PlanStep.id).Nodup) (rounds : Nat) {resolved : List Id}
    (grounded : Grounded (DependsOn steps) resolved) : Grounded (DependsOn steps) (resolve steps rounds resolved) := by
  induction rounds generalizing resolved with
  | zero => exact grounded
  | succ rounds ih =>
      refine ih (grounded.append fun id member other edge => ?_)
      obtain ⟨step, inside, rfl⟩ := List.mem_map.mp member
      obtain ⟨listed, ready⟩ := List.mem_filter.mp inside
      rw [dependsOn_iff distinct listed] at edge
      exact (of_decide_eq_true ready).2 other edge

/-- An acyclic graph of known steps is resolved in as many rounds as it has steps. -/
theorem resolve_all (distinct : (steps.map PlanStep.id).Nodup)
    (known : ∀ step ∈ steps, ∀ dependency ∈ step.dependencies, dependency ∈ steps.map PlanStep.id)
    (acyclic : Acyclic (DependsOn steps)) : ∀ id ∈ steps.map PlanStep.id, id ∈ resolve steps steps.length [] := by
  rw [resolve_eq]
  refine @rounds_finish Id (steps.map PlanStep.id) _ (resolveRound steps)
    (fun done => ∀ id ∈ steps.map PlanStep.id, id ∈ done) ?_ ?_ ?_ _ _ ?_
  · exact fun done node member => List.mem_append_left _ member
  · intro done unfinished
    have open_ : ∃ id ∈ steps.map PlanStep.id, id ∉ done := by
      by_contra none
      exact unfinished fun id member => by_contra fun missed => none ⟨id, member, missed⟩
    obtain ⟨id, member, ready⟩ := acyclic.exists_ready (Rooted.closed known) open_
    obtain ⟨step, listed, rfl⟩ := List.mem_map.mp member
    refine ⟨step.id, member, ready.1, List.mem_append_right _ (List.mem_map_of_mem ?_)⟩
    exact List.mem_filter.mpr ⟨listed, decide_eq_true ((ready_iff_ready distinct listed done).mpr ready)⟩
  · exact fun done finished id member => List.mem_append_left _ (finished id member)
  · exact (List.length_filter_le _ _).trans (List.length_map _).le

theorem acyclic_iff (distinct : (steps.map PlanStep.id).Nodup)
    (known : ∀ step ∈ steps, ∀ dependency ∈ step.dependencies, dependency ∈ steps.map PlanStep.id) :
    (∀ step ∈ steps, step.id ∈ resolve steps steps.length []) ↔ Acyclic (DependsOn steps) := by
  constructor
  · intro resolved
    have grounded := resolve_grounded distinct steps.length
      (show Grounded (DependsOn steps) [] from fun node member => absurd member List.not_mem_nil)
    refine grounded.acyclic fun id other edge => ?_
    obtain ⟨step, member, rfl⟩ := List.mem_map.mp (id_of_dependsOn edge)
    exact resolved step member
  · exact fun acyclic step member => resolve_all distinct known acyclic step.id (List.mem_map_of_mem member)

/-! ## Ancestors -/

/-- One round of the visit. -/
def visitRound (steps : List PlanStep) (seen : List Id) : List Id :=
  seen ++ (((steps.filter fun step => step.id ∈ seen).flatMap PlanStep.dependencies).filter fun id => id ∉ seen).dedup

theorem ancestors_eq (rounds : Nat) (seen : List Id) :
    ancestors steps rounds seen = (visitRound steps)^[rounds] seen := by
  induction rounds generalizing seen with
  | zero => rfl
  | succ rounds ih =>
      rw [Function.iterate_succ_apply, ← ih]
      rfl

theorem mem_visitRound {seen : List Id} {id : Id} :
    id ∈ visitRound steps seen ↔ id ∈ seen ∨ ∃ source ∈ seen, DependsOn steps source id := by
  simp only [visitRound, List.mem_append, List.mem_dedup, List.mem_filter, List.mem_flatMap, decide_eq_true_eq]
  constructor
  · rintro (here | ⟨⟨step, ⟨listed, inside⟩, dependency⟩, -⟩)
    · exact .inl here
    · exact .inr ⟨step.id, inside, step, listed, rfl, dependency⟩
  · rintro (here | ⟨_, inside, step, listed, rfl, dependency⟩)
    · exact .inl here
    · by_cases here : id ∈ seen
      · exact .inl here
      · exact .inr ⟨⟨step, ⟨listed, inside⟩, dependency⟩, here⟩

theorem mem_ancestors {rounds : Nat} {seen : List Id} {id : Id} (member : id ∈ ancestors steps rounds seen) :
    ∃ source ∈ seen, Relation.ReflTransGen (DependsOn steps) source id := by
  induction rounds generalizing seen with
  | zero => exact ⟨id, member, .refl⟩
  | succ rounds ih =>
      obtain ⟨between, inside, path⟩ := ih (show id ∈ ancestors steps rounds (visitRound steps seen) from member)
      rcases mem_visitRound.mp inside with here | ⟨source, here, edge⟩
      · exact ⟨between, here, path⟩
      · exact ⟨source, here, .head edge path⟩

/-- After as many rounds as there are steps the visited ones are closed under dependencies. -/
theorem ancestors_closed
    (known : ∀ step ∈ steps, ∀ dependency ∈ step.dependencies, dependency ∈ steps.map PlanStep.id) (seen : List Id) :
    ∀ id ∈ ancestors steps steps.length seen, ∀ other, DependsOn steps id other →
      other ∈ ancestors steps steps.length seen := by
  rw [ancestors_eq]
  refine @rounds_finish Id (steps.map PlanStep.id) _ (visitRound steps)
    (fun done => ∀ id ∈ done, ∀ other, DependsOn steps id other → other ∈ done) ?_ ?_ ?_ _ _ ?_
  · exact fun done node member => mem_visitRound.mpr (.inl member)
  · intro done unfinished
    by_contra none
    refine unfinished fun id member other edge => by_contra fun missed => none ⟨other, ?_, missed, ?_⟩
    · exact Rooted.closed known id (id_of_dependsOn edge) other edge
    · exact mem_visitRound.mpr (.inr ⟨id, member, edge⟩)
  · intro done closed id member other edge
    refine mem_visitRound.mpr (.inl ?_)
    rcases mem_visitRound.mp member with here | ⟨source, here, step⟩
    · exact closed id here other edge
    · exact closed id (closed source here id step) other edge
  · exact (List.length_filter_le _ _).trans (List.length_map _).le

theorem mem_ancestors_of_mem {rounds : Nat} {seen : List Id} {id : Id} (member : id ∈ seen) :
    id ∈ ancestors steps rounds seen := by
  induction rounds generalizing seen with
  | zero => exact member
  | succ rounds ih => exact ih (List.mem_append_left _ member)

theorem mem_ancestors_iff
    (known : ∀ step ∈ steps, ∀ dependency ∈ step.dependencies, dependency ∈ steps.map PlanStep.id) (id : Id) :
    id ∈ ancestors steps steps.length [resultStepId] ↔
      Relation.ReflTransGen (DependsOn steps) resultStepId id := by
  constructor
  · intro member
    obtain ⟨source, inside, path⟩ := mem_ancestors member
    rw [List.mem_singleton.mp inside] at path
    exact path
  · intro path
    induction path with
    | refl => exact mem_ancestors_of_mem (List.mem_singleton_self _)
    | tail _ edge ih => exact ancestors_closed known _ _ ih _ edge

/-! ## What the schema accepts -/

/-- Where a step contributes, the result is one of the steps. -/
theorem result_mem {step : PlanStep} (member : step ∈ steps)
    (path : Relation.ReflTransGen (DependsOn steps) resultStepId step.id) :
    resultStepId ∈ steps.map PlanStep.id := by
  cases path.cases_head with
  | inl same =>
      rw [same]
      exact List.mem_map_of_mem member
  | inr first =>
      obtain ⟨_, edge, -⟩ := first
      exact id_of_dependsOn edge

/-- The schema accepts exactly the rooted acyclic graphs that keep its bounds. -/
theorem wellFormed_iff (distinct : (steps.map PlanStep.id).Nodup) :
    WellFormed taskId steps resultStepId ↔ Sized taskId steps ∧ Rooted steps resultStepId := by
  constructor
  · intro formed
    have known : ∀ step ∈ steps, ∀ dependency ∈ step.dependencies, dependency ∈ steps.map PlanStep.id :=
      fun step member dependency inside => ((formed.fits step member).known dependency inside).1
    refine ⟨⟨⟨formed.nonempty, formed.bounded⟩, fun step member => (formed.fits step member).ofTask,
      fun step member => (formed.fits step member).unrepeated⟩, known, ?_, ?_, ?_⟩
    · exact (acyclic_iff distinct known).mp formed.acyclic
    · exact fun step member => (mem_ancestors_iff known step.id).mp (formed.connected step member)
    · exact fun step member => (formed.fits step member).direct
  · rintro ⟨sized, rooted⟩
    refine ⟨sized.size.1, sized.size.2, distinct, ?_, fun step member => ⟨sized.ofTask step member,
      sized.unrepeated step member, fun dependency inside => ⟨rooted.known step member dependency inside, ?_⟩,
      rooted.direct step member⟩, ?_, ?_⟩
    · obtain ⟨step, member⟩ := List.exists_mem_of_length_pos sized.size.1
      exact result_mem member (rooted.contributes step member)
    · rintro rfl
      exact rooted.acyclic _ (.single ⟨step, member, rfl, inside⟩)
    · exact (acyclic_iff distinct rooted.known).mpr rooted.acyclic
    · exact fun step member => (mem_ancestors_iff rooted.known step.id).mpr (rooted.contributes step member)

/-! ## The order of the steps -/

/-- The steps that are not yet done. -/
def pending (steps : List PlanStep) (done : List Id) : List PlanStep := steps.filter fun step => step.id ∉ done

theorem mem_pending {done : List Id} {step : PlanStep} : step ∈ pending steps done ↔ step ∈ steps ∧ step.id ∉ done := by
  rw [pending, List.mem_filter, decide_eq_true_eq]

theorem nextStep_ready {done : List Id} {next : PlanStep} (found : nextStep steps done = some next) :
    next ∈ steps ∧ next.Ready done := by
  have member := List.mem_of_mem_head? (Option.mem_def.mpr found)
  obtain ⟨listed, ready⟩ := List.mem_filter.mp ((List.mem_insertionSort _).mp member)
  exact ⟨listed, of_decide_eq_true ready⟩

/-- While a step is pending there is a next one. -/
theorem nextStep_exists (distinct : (steps.map PlanStep.id).Nodup) (rooted : Rooted steps resultStepId)
    {done : List Id} (open_ : pending steps done ≠ []) : ∃ next, nextStep steps done = some next := by
  obtain ⟨step, member⟩ := List.exists_mem_of_ne_nil _ open_
  obtain ⟨listed, fresh⟩ := mem_pending.mp member
  obtain ⟨id, inside, ready⟩ := rooted.acyclic.exists_ready (Rooted.closed rooted.known)
    ⟨step.id, List.mem_map_of_mem listed, fresh⟩
  obtain ⟨first, there, rfl⟩ := List.mem_map.mp inside
  have sorted : first ∈ (steps.filter fun step => step.Ready done).insertionSort fun first second =>
      Json.unitsLE first.id.text second.id.text :=
    (List.mem_insertionSort _).mpr
      (List.mem_filter.mpr ⟨there, decide_eq_true ((ready_iff_ready distinct there done).mpr ready)⟩)
  exact Option.isSome_iff_exists.mp (List.isSome_head?.mpr (List.ne_nil_of_mem sorted))

/-- Doing a step takes it, and nothing else, from those that are pending. -/
theorem pending_cons (distinct : (steps.map PlanStep.id).Nodup) {done : List Id} {next : PlanStep}
    (listed : next ∈ steps) (fresh : next.id ∉ done) :
    (pending steps done).Perm (next :: pending steps (next.id :: done)) := by
  have each : steps.Nodup := distinct.of_map _
  have apart : next ∉ pending steps (next.id :: done) := fun member =>
    (mem_pending.mp member).2 List.mem_cons_self
  refine (List.perm_ext_iff_of_nodup (each.filter _) (List.nodup_cons.mpr ⟨apart, each.filter _⟩)).mpr fun step => ?_
  rw [← pending, mem_pending, List.mem_cons, mem_pending, List.mem_cons, not_or]
  constructor
  · rintro ⟨member, missing⟩
    by_cases same : step = next
    · exact .inl same
    · exact .inr ⟨member, fun ids => same (step_eq distinct member listed ids), missing⟩
  · rintro (rfl | ⟨member, -, missing⟩)
    · exact ⟨listed, fresh⟩
    · exact ⟨member, missing⟩

/-- The steps that are pending are all ordered, each after its dependencies. -/
theorem orderFrom_follows (distinct : (steps.map PlanStep.id).Nodup) (rooted : Rooted steps resultStepId)
    {remaining : Nat} {done : List Id} (all : (pending steps done).length = remaining) :
    ∃ order, orderFrom steps remaining done = some order ∧ order.Perm (pending steps done) ∧
      Follows (DependsOn steps) done (order.map PlanStep.id) := by
  induction remaining generalizing done with
  | zero =>
      rw [List.eq_nil_of_length_eq_zero all]
      exact ⟨[], rfl, .refl _, Follows.nil done⟩
  | succ remaining ih =>
      have open_ : pending steps done ≠ [] := fun none => by
        rw [none] at all
        cases all
      obtain ⟨next, found⟩ := nextStep_exists distinct rooted open_
      obtain ⟨listed, ready⟩ := nextStep_ready found
      have split := pending_cons distinct listed ready.1
      obtain ⟨rest, ordered, perm, follows⟩ := @ih (next.id :: done) (by
        have lengths := split.length_eq
        rw [List.length_cons] at lengths
        omega)
      refine ⟨next :: rest, ?_, (perm.cons next).trans split.symm, ?_⟩
      · simp only [orderFrom, found, ordered, Option.bind_eq_bind, Option.bind_some]
      · exact follows.cons ((ready_iff_ready distinct listed done).mp ready)

/-! ## The order of the list -/

theorem nextStep_perm (distinct : (steps.map PlanStep.id).Nodup) (same : steps.Perm others) (done : List Id) :
    nextStep steps done = nextStep others done := by
  unfold nextStep
  rw [@insertionSort_eq_of_perm PlanStep (fun first second => Json.unitsLE first.id.text second.id.text) _
    (fun first second => le_total _ _) (fun one two => le_trans one two) _ _ (fun first here second there one two => ?_)
    (same.filter _)]
  refine step_eq distinct (List.mem_of_mem_filter here) (List.mem_of_mem_filter there) (Contracts.Common.Id.ext ?_)
  exact List.map_injective_iff.mpr (fun _ _ => UInt16.toNat_inj.mp) (le_antisymm one two)

theorem orderFrom_perm (distinct : (steps.map PlanStep.id).Nodup) (same : steps.Perm others) (remaining : Nat)
    (done : List Id) : orderFrom steps remaining done = orderFrom others remaining done := by
  induction remaining generalizing done with
  | zero => rfl
  | succ remaining ih => simp only [orderFrom, nextStep_perm distinct same, ih]

theorem wellFormed_perm (same : steps.Perm others) (formed : WellFormed taskId steps resultStepId) :
    WellFormed taskId others resultStepId := by
  have distinct := (same.map PlanStep.id).nodup_iff.mp formed.distinct
  obtain ⟨sized, rooted⟩ := (wellFormed_iff formed.distinct).mp formed
  refine (wellFormed_iff distinct).mpr ⟨⟨?_, ?_, ?_⟩, ?_, ?_, ?_, ?_⟩
  · rw [← same.length_eq]
    exact sized.size
  · exact fun step member => sized.ofTask step (same.mem_iff.mpr member)
  · exact fun step member => sized.unrepeated step (same.mem_iff.mpr member)
  · exact fun step member dependency inside =>
      (same.map PlanStep.id).mem_iff.mp (rooted.known step (same.mem_iff.mpr member) dependency inside)
  · rw [← dependsOn_perm same]
    exact rooted.acyclic
  · rw [← dependsOn_perm same]
    exact fun step member => rooted.contributes step (same.mem_iff.mpr member)
  · exact fun step member => rooted.direct step (same.mem_iff.mpr member)

/-- The plan with its steps in another order. -/
def reorder (plan : ExecutionPlan) {reordered : List PlanStep} (same : plan.steps.Perm reordered) : ExecutionPlan where
  taskId := plan.taskId
  recipe := plan.recipe
  steps := reordered
  resultStepId := plan.resultStepId
  wellFormed := wellFormed_perm same plan.wellFormed

/-- Plans are the rooted acyclic graphs within the bounds of the schema; their steps are ordered, each after its
dependencies, whatever the order in which they are listed. -/
theorem plans_canonical :
    (∀ taskId steps resultStepId, (steps.map PlanStep.id).Nodup →
      (WellFormed taskId steps resultStepId ↔ Sized taskId steps ∧ Rooted steps resultStepId)) ∧
    ∀ plan : ExecutionPlan, ∃ order, orderedSteps plan = some order ∧ order.Perm plan.steps ∧
      Follows (DependsOn plan.steps) [] (order.map PlanStep.id) ∧
      ∀ reordered (same : plan.steps.Perm reordered), orderedSteps (reorder plan same) = some order := by
  refine ⟨fun _ _ _ distinct => wellFormed_iff distinct, fun plan => ?_⟩
  have distinct := plan.wellFormed.distinct
  have rooted := ((wellFormed_iff distinct).mp plan.wellFormed).2
  have everything : pending plan.steps [] = plan.steps :=
    List.filter_eq_self.mpr fun _ _ => decide_eq_true List.not_mem_nil
  obtain ⟨order, ordered, perm, follows⟩ := orderFrom_follows distinct rooted (congrArg List.length everything)
  rw [everything] at perm
  refine ⟨order, ordered, perm, follows, fun reordered same => ?_⟩
  unfold orderedSteps reorder
  rw [← orderFrom_perm distinct same, ← same.length_eq]
  exact ordered

/-! ### A dependency that is listed twice -/

def firstId : Id := ⟨stableIdText (.ofDigits [1]), isUuid_stableIdText _⟩

def secondId : Id := ⟨stableIdText (.ofDigits [2]), isUuid_stableIdText _⟩

def firstStep : PlanStep := ⟨firstId, firstId, .uppercase, [], .taskObjective⟩

def secondStep : PlanStep := ⟨secondId, firstId, .reverse, [firstId, firstId], .stepOutput firstId⟩

theorem ids_apart : firstId ≠ secondId := by
  decide +kernel

theorem twice_rooted : Rooted [firstStep, secondStep] secondId := by
  have edges : ∀ id other, DependsOn [firstStep, secondStep] id other → id = secondId ∧ other = firstId := by
    rintro id other ⟨step, member, rfl, dependency⟩
    simp only [List.mem_cons, List.not_mem_nil, or_false] at member
    rcases member with rfl | rfl
    · exact absurd dependency List.not_mem_nil
    · simp only [secondStep, List.mem_cons, List.not_mem_nil, or_false, or_self] at dependency
      exact ⟨rfl, dependency⟩
  refine ⟨?_, ?_, ?_, ?_⟩
  · intro step member dependency inside
    rw [(edges step.id dependency ⟨step, member, rfl, inside⟩).2]
    exact List.mem_cons_self
  · refine @acyclic_of_rank _ _ (fun id => if id = secondId then 1 else 0) fun id other edge => ?_
    obtain ⟨rfl, rfl⟩ := edges id other edge
    rw [if_neg ids_apart, if_pos rfl]
    exact Nat.one_pos
  · intro step member
    simp only [List.mem_cons, List.not_mem_nil, or_false] at member
    rcases member with rfl | rfl
    · exact .single ⟨secondStep, List.mem_cons_of_mem _ List.mem_cons_self, rfl, List.mem_cons_self⟩
    · exact .refl
  · intro step member stepId given
    simp only [List.mem_cons, List.not_mem_nil, or_false] at member
    rcases member with rfl | rfl
    · cases given
    · cases given
      exact List.mem_cons_self

/-- The schema rejects a rooted acyclic graph in which a step lists a dependency twice. -/
theorem repeated_dependency_rejected : ¬ ∀ taskId steps resultStepId, (steps.map PlanStep.id).Nodup →
    (WellFormed taskId steps resultStepId ↔ Rooted steps resultStepId) := by
  intro claimed
  have distinct : ([firstStep, secondStep].map PlanStep.id).Nodup := by
    simp [firstStep, secondStep, ids_apart]
  have formed := (claimed firstId _ secondId distinct).mpr twice_rooted
  have unrepeated := (formed.fits secondStep (List.mem_cons_of_mem _ List.mem_cons_self)).unrepeated
  exact (List.nodup_cons.mp unrepeated).1 List.mem_cons_self

end KernelJson.Planner.Graphs
