import KernelJson.Planner.Plan

/-!
# Plans of recipes

The steps of a recipe form a chain: each depends on the one before it, and the
last one gives the result.  A chain resolves from its first step on, and every
step of it is an ancestor of the last.  So a recipe has a plan as soon as the
identifiers of its steps differ.
-/

namespace KernelJson.Planner.Chains

open Contracts.Common
open Contracts.Platform
open Contracts.Task
open Planner.Plan

variable {steps : List PlanStep}

/-! ## Resolution -/

/-- The first steps of a chain, and no more of them. -/
def Resolves (steps : List PlanStep) (count : Nat) (resolved : List Id) : Prop :=
  ∀ index step, index < count → steps[index]? = some step → step.id ∈ resolved

theorem Resolves.round (chain : IsChain steps) {count : Nat} {resolved : List Id}
    (holds : Resolves steps count resolved) :
    Resolves steps (count + 1)
      (resolved ++ (steps.filter fun step => step.Ready resolved).map PlanStep.id) := by
  intro index step inside found
  rcases Nat.lt_succ_iff_lt_or_eq.mp inside with before | rfl
  · exact List.mem_append_left _ (holds index step before found)
  · by_cases seen : step.id ∈ resolved
    · exact List.mem_append_left _ seen
    · refine List.mem_append_right _ (List.mem_map_of_mem (List.mem_filter.mpr ⟨List.mem_of_getElem? found, ?_⟩))
      rw [decide_eq_true_eq]
      refine ⟨seen, ?_⟩
      intro dependency member
      cases index with
      | zero =>
          rw [chain.first step found] at member
          cases member
      | succ index =>
          have there : index < steps.length := by
            have := (List.getElem?_eq_some_iff.mp found).1
            omega
          have earlier := List.getElem?_eq_getElem there
          rw [chain.later index _ step earlier found, List.mem_singleton] at member
          rw [member]
          exact holds index _ (Nat.lt_succ_self index) earlier

theorem Resolves.resolve (chain : IsChain steps) (fuel : Nat) {count : Nat} {resolved : List Id}
    (holds : Resolves steps count resolved) : Resolves steps (count + fuel) (resolve steps fuel resolved) := by
  induction fuel generalizing count resolved with
  | zero => exact holds
  | succ fuel ih =>
      have further := ih (holds.round chain)
      rw [Nat.add_assoc, Nat.add_comm 1 fuel] at further
      exact further

/-! ## Ancestors -/

/-- All steps of a chain from a position on. -/
def Seen (steps : List PlanStep) (first : Nat) (seen : List Id) : Prop :=
  ∀ index step, first ≤ index → steps[index]? = some step → step.id ∈ seen

theorem Seen.round (chain : IsChain steps) {first : Nat} {seen : List Id} (holds : Seen steps first seen)
    (inside : first < steps.length) :
    Seen steps (first - 1) (seen ++ (((steps.filter fun step => step.id ∈ seen).flatMap
      PlanStep.dependencies).filter fun id => id ∉ seen).dedup) := by
  intro index step from_ found
  by_cases known : step.id ∈ seen
  · exact List.mem_append_left _ known
  · refine List.mem_append_right _ (List.mem_dedup.mpr (List.mem_filter.mpr ⟨?_, decide_eq_true known⟩))
    have here : index + 1 = first := by
      by_contra other
      exact known (holds index step (by omega) found)
    subst here
    have next := List.getElem?_eq_getElem inside
    have dependencies := chain.later index step _ found next
    refine List.mem_flatMap.mpr ⟨steps[index + 1], List.mem_filter.mpr ⟨List.getElem_mem inside, ?_⟩, ?_⟩
    · exact decide_eq_true (holds (index + 1) _ (Nat.le_refl _) next)
    · rw [dependencies]
      exact List.mem_singleton_self _

theorem Seen.ancestors (chain : IsChain steps) (fuel : Nat) {first : Nat} {seen : List Id}
    (holds : Seen steps first seen) (inside : first < steps.length) :
    Seen steps (first - fuel) (ancestors steps fuel seen) := by
  induction fuel generalizing first seen with
  | zero => exact holds
  | succ fuel ih =>
      have further := ih (holds.round chain inside) (by omega)
      rw [Nat.sub_sub, Nat.add_comm 1 fuel] at further
      exact further

/-! ## Plans -/

section Recipes

variable (platform : Platform) (taskId : Id) (recipe : Recipe)

/-- The hash tells the steps of the task apart. -/
def StepsApart : Prop :=
  ∀ first second, first < (operations recipe).length → second < (operations recipe).length →
    stepId platform taskId recipe first = stepId platform taskId recipe second → first = second

variable {platform taskId recipe}

theorem ids_planSteps : (planSteps platform taskId recipe).map PlanStep.id =
    (List.range (operations recipe).length).map (stepId platform taskId recipe) := by
  cases recipe <;> rfl

/-- The step at a position, with the operation of the recipe there. -/
theorem planSteps_at {index : Nat} {step : PlanStep} (found : (planSteps platform taskId recipe)[index]? = some step) :
    index < (operations recipe).length ∧ ∃ operation, step = planStep platform taskId recipe index operation := by
  simp only [planSteps, List.getElem?_mapIdx, Option.map_eq_some_iff] at found
  obtain ⟨operation, listed, rfl⟩ := found
  exact ⟨(List.getElem?_eq_some_iff.mp listed).1, operation, rfl⟩

theorem operations_nonempty : 1 ≤ (operations recipe).length ∧ (operations recipe).length ≤ 32 := by
  cases recipe <;> decide

theorem stepId_mem {index : Nat} (inside : index < (operations recipe).length) :
    stepId platform taskId recipe index ∈ (planSteps platform taskId recipe).map PlanStep.id := by
  rw [ids_planSteps]
  exact List.mem_map_of_mem (List.mem_range.mpr inside)

/-- One step of a recipe fits its plan. -/
theorem planStep_fits (apart : StepsApart platform taskId recipe) {index : Nat}
    (inside : index < (operations recipe).length) (operation : Operation) :
    (planStep platform taskId recipe index operation).Fits taskId
      ((planSteps platform taskId recipe).map PlanStep.id) := by
  cases index with
  | zero =>
      refine ⟨rfl, List.nodup_nil, fun dependency member => ?_, fun stepId same => ?_⟩
      · cases member
      · cases same
  | succ index =>
      refine ⟨rfl, List.nodup_singleton _, fun dependency member => ?_, fun stepId same => ?_⟩
      · have same : dependency = stepId platform taskId recipe index := List.mem_singleton.mp member
        subst same
        refine ⟨stepId_mem (by omega), fun equal => ?_⟩
        have := apart index (index + 1) (by omega) inside equal
        omega
      · cases same
        exact List.mem_singleton_self _

/-- The steps of a recipe make a plan. -/
theorem wellFormed_planSteps (apart : StepsApart platform taskId recipe) :
    WellFormed taskId (planSteps platform taskId recipe)
      (stepId platform taskId recipe ((operations recipe).length - 1)) := by
  have chain := IsChain.planSteps platform taskId recipe
  have length : (planSteps platform taskId recipe).length = (operations recipe).length := List.length_mapIdx
  obtain ⟨nonempty, bounded⟩ := @operations_nonempty recipe
  refine ⟨?_, ?_, ?_, stepId_mem (by omega), ?_, ?_, ?_⟩
  · rw [length]
    exact nonempty
  · rw [length]
    exact bounded
  · rw [ids_planSteps]
    refine List.Nodup.map_on ?_ List.nodup_range
    intro first here second there same
    exact apart first second (List.mem_range.mp here) (List.mem_range.mp there) same
  · intro step member
    obtain ⟨index, found⟩ := List.getElem?_of_mem member
    obtain ⟨inside, operation, rfl⟩ := planSteps_at found
    exact planStep_fits apart inside operation
  · intro step member
    obtain ⟨index, found⟩ := List.getElem?_of_mem member
    have resolves : Resolves (planSteps platform taskId recipe) 0 [] := fun _ _ impossible _ => by omega
    refine resolves.resolve chain _ index step ?_ found
    have := (List.getElem?_eq_some_iff.mp found).1
    omega
  · intro step member
    obtain ⟨index, found⟩ := List.getElem?_of_mem member
    have seen : Seen (planSteps platform taskId recipe) ((operations recipe).length - 1)
        [stepId platform taskId recipe ((operations recipe).length - 1)] := by
      intro position last from_ there
      obtain ⟨inside, operation, rfl⟩ := planSteps_at there
      have here : position = (operations recipe).length - 1 := by omega
      subst here
      rw [List.mem_singleton]
      generalize (operations recipe).length - 1 = position
      cases position <;> rfl
    refine seen.ancestors chain _ (by omega) index step ?_ found
    omega

/-- A task that fits its recipe is planned. -/
theorem planned {task : Task} (apart : StepsApart platform task.id recipe) (parsed : task.parse = some task)
    (fits : task.riskClass = .low ∧ task.constraints = [] ∧ task.budget = none ∧ task.deadline = none ∧
      task.acceptanceCriteria = [criteria recipe]) :
    ∃ plan, planTask platform task recipe = some plan ∧ plan.taskId = task.id ∧ plan.recipe = recipe :=
  ⟨_, planTask_eq parsed fits rfl rfl (wellFormed_planSteps apart), rfl, rfl⟩

end Recipes

end KernelJson.Planner.Chains
