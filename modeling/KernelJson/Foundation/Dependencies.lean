import Mathlib.Data.Fintype.Card
import Mathlib.Data.List.Sort
import Mathlib.Data.Set.Finite.List
import Mathlib.Logic.Function.Iterate
import Mathlib.Logic.Relation
import Mathlib.Order.WellFounded

/-!
# Dependencies over a finite list of nodes

A round that adds a node whenever it is not finished is finished after as many
rounds as there are nodes.  An acyclic relation always leaves a node ready, and
nodes that are made ready one after another carry no cycle.
-/

namespace KernelJson.Foundation.Dependencies

variable {α : Type} {nodes : List α}

/-! ## Rounds -/

section Rounds

variable [DecidableEq α]

/-- The nodes that are not yet among the given ones. -/
def missing (nodes done : List α) : List α := nodes.filter fun node => node ∉ done

theorem mem_missing {done : List α} {node : α} : node ∈ missing nodes done ↔ node ∈ nodes ∧ node ∉ done := by
  rw [missing, List.mem_filter, decide_eq_true_eq]

/-- One more node leaves fewer missing. -/
theorem missing_lt {done more : List α} (keeps : ∀ node ∈ done, node ∈ more) {node : α} (member : node ∈ nodes)
    (fresh : node ∉ done) (added : node ∈ more) : (missing nodes more).length < (missing nodes done).length := by
  have fewer : (missing nodes more).Sublist (missing nodes done) := by
    refine List.monotone_filter_right nodes fun other outside => ?_
    rw [decide_eq_true_eq] at outside ⊢
    exact fun inside => outside (keeps other inside)
  refine lt_of_le_of_ne fewer.length_le fun same => ?_
  have equal := fewer.eq_of_length same
  have here : node ∈ missing nodes done := mem_missing.mpr ⟨member, fresh⟩
  rw [← equal] at here
  exact (mem_missing.mp here).2 added

/-- Rounds that lose nothing, and add a missing node until they are finished, are finished after as many rounds as
nodes were missing. -/
theorem rounds_finish {grow : List α → List α} {finished : List α → Prop}
    (keeps : ∀ done, ∀ node ∈ done, node ∈ grow done)
    (progress : ∀ done, ¬ finished done → ∃ node ∈ nodes, node ∉ done ∧ node ∈ grow done)
    (stays : ∀ done, finished done → finished (grow done)) {rounds : Nat} {done : List α}
    (enough : (missing nodes done).length ≤ rounds) : finished (grow^[rounds] done) := by
  induction rounds generalizing done with
  | zero =>
      by_contra unfinished
      obtain ⟨node, member, fresh, -⟩ := progress done unfinished
      have here : node ∈ missing nodes done := mem_missing.mpr ⟨member, fresh⟩
      rw [List.eq_nil_of_length_eq_zero (Nat.le_zero.mp enough)] at here
      cases here
  | succ rounds ih =>
      rw [Function.iterate_succ_apply]
      by_cases already : finished done
      · have after : ∀ count, finished (grow^[count] (grow done)) := by
          intro count
          induction count with
          | zero => exact stays done already
          | succ count more =>
              rw [Function.iterate_succ_apply']
              exact stays _ more
        exact after rounds
      · obtain ⟨node, member, fresh, added⟩ := progress done already
        have fewer := missing_lt (keeps done) member fresh added
        exact ih (by omega)

end Rounds

/-! ## Cycles -/

section Graph

variable {r : α → α → Prop}

/-- No node depends on itself, directly or not. -/
def Acyclic (r : α → α → Prop) : Prop := ∀ node, ¬ Relation.TransGen r node node

/-- Edges that all lead down carry no cycle. -/
theorem acyclic_of_rank {rank : α → Nat} (down : ∀ node other, r node other → rank other < rank node) : Acyclic r := by
  intro node cycle
  have lower : ∀ {other}, Relation.TransGen r node other → rank other < rank node := by
    intro other path
    induction path with
    | single edge => exact down _ _ edge
    | tail _ edge ih => exact lt_trans (down _ _ edge) ih
  exact absurd (lower cycle) (lt_irrefl _)

/-- All that the node depends on is done. -/
def Ready (r : α → α → Prop) (done : List α) (node : α) : Prop :=
  node ∉ done ∧ ∀ other, r node other → other ∈ done

/-- While a node is missing, one of those that are missing is ready. -/
theorem Acyclic.exists_ready (acyclic : Acyclic r) (closed : ∀ node ∈ nodes, ∀ other, r node other → other ∈ nodes)
    {done : List α} (open_ : ∃ node ∈ nodes, node ∉ done) : ∃ node ∈ nodes, Ready r done node := by
  let below (first second : {node // node ∈ nodes}) : Prop := Relation.TransGen r second.val first.val
  have transitive : IsTrans _ below := ⟨fun _ _ _ one two => two.trans one⟩
  have irreflexive : Std.Irrefl below := ⟨fun node => acyclic node.val⟩
  have finite : Finite {node // node ∈ nodes} := (List.finite_toSet nodes).to_subtype
  have founded : WellFounded below := Finite.wellFounded_of_trans_of_irrefl below
  obtain ⟨node, member, fresh⟩ := open_
  obtain ⟨least, outside, minimal⟩ := founded.has_min {node | node.val ∉ done} ⟨⟨node, member⟩, fresh⟩
  refine ⟨least.val, least.property, outside, fun other edge => ?_⟩
  by_contra missed
  exact minimal ⟨other, closed _ least.property _ edge⟩ missed (.single edge)

/-- Each of the nodes depends on none that leads back to it. -/
def Grounded (r : α → α → Prop) (done : List α) : Prop := ∀ node ∈ done, Acc (Function.swap r) node

theorem Grounded.append {done more : List α} (grounded : Grounded r done)
    (ready : ∀ node ∈ more, ∀ other, r node other → other ∈ done) : Grounded r (done ++ more) := by
  intro node member
  rcases List.mem_append.mp member with here | added
  · exact grounded node here
  · exact ⟨_, fun other edge => grounded other (ready node added other edge)⟩

theorem not_self_of_acc {s : α → α → Prop} {node : α} (acc : Acc s node) : ¬ s node node := by
  induction acc with
  | intro node _ ih => exact fun loop => ih node loop loop

/-- Where every node with an edge is grounded there is no cycle. -/
theorem Grounded.acyclic {done : List α} (grounded : Grounded r done)
    (all : ∀ node other, r node other → node ∈ done) : Acyclic r := by
  intro node cycle
  obtain ⟨other, edge, -⟩ := Relation.TransGen.head'_iff.mp cycle
  have acc := (grounded node (all node other edge)).transGen
  exact not_self_of_acc acc (Relation.transGen_swap.mpr cycle)

/-! ## Orders -/

/-- Each of the nodes comes after all that it depends on, apart from what is done. -/
def Follows (r : α → α → Prop) (done order : List α) : Prop :=
  ∀ before node after, order = before ++ node :: after → ∀ other, r node other → other ∈ done ∨ other ∈ before

theorem Follows.nil (done : List α) : Follows r done [] := by
  intro before node after split
  exact absurd split.symm (List.append_ne_nil_of_right_ne_nil _ (List.cons_ne_nil _ _))

theorem Follows.cons {done order : List α} {node : α} (ready : Ready r done node)
    (follows : Follows r (node :: done) order) : Follows r done (node :: order) := by
  intro before later after split other edge
  cases before with
  | nil =>
      cases split
      exact .inl (ready.2 other edge)
  | cons first rest =>
      obtain ⟨rfl, rest_eq⟩ := List.cons.inj split
      rcases follows rest later after rest_eq other edge with here | earlier
      · rcases List.mem_cons.mp here with rfl | inside
        · exact .inr List.mem_cons_self
        · exact .inl inside
      · exact .inr (List.mem_cons_of_mem _ earlier)

end Graph

/-! ## Ties -/

/-- Sorting forgets the order of a list on whose elements the sorting order is antisymmetric. -/
theorem insertionSort_eq_of_perm {β : Type} {r : β → β → Prop} [DecidableRel r]
    (total : ∀ one two, r one two ∨ r two one) (transitive : ∀ {one two three}, r one two → r two three → r one three)
    {values reordered : List β} (antisymmetric : ∀ one ∈ values, ∀ two ∈ values, r one two → r two one → one = two)
    (same : values.Perm reordered) : values.insertionSort r = reordered.insertionSort r := by
  have perm := ((List.perm_insertionSort r values).trans same).trans (List.perm_insertionSort r reordered).symm
  have sorted : ∀ list : List β, (list.insertionSort r).Pairwise r :=
    fun list => @List.pairwise_insertionSort _ r _ ⟨total⟩ ⟨fun _ _ _ => transitive⟩ list
  refine perm.eq_of_pairwise (fun one two here there => ?_) (sorted _) (sorted _)
  exact antisymmetric one ((List.perm_insertionSort r values).mem_iff.mp here) two
    (same.mem_iff.mpr ((List.perm_insertionSort r reordered).mem_iff.mp there))

end KernelJson.Foundation.Dependencies
