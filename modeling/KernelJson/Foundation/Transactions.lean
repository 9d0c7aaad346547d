import Mathlib.Data.List.Basic
import Mathlib.Logic.Relation

/-!
# Transactions

A transaction computes its answer together with the world that it commits, or
faults; a fault leaves the world as it was.  Tables to which rows are only
appended keep the answers of their lookups, and a cell that no move rewrites
keeps its value over any number of moves.
-/

namespace KernelJson.Foundation.Transactions

variable {World Fault α β : Type}

theorem ok_bind (value : α) (rest : α → Except Fault β) : (Except.ok value >>= rest) = rest value := rfl

theorem bind_ok {step : Except Fault α} {rest : α → Except Fault β} {value : β}
    (done : step >>= rest = .ok value) : ∃ middle, step = .ok middle ∧ rest middle = .ok value := by
  cases step with
  | error fault => cases done
  | ok middle => exact ⟨middle, rfl, done⟩

theorem map_ok {step : Except Fault α} {change : α → β} {value : β}
    (done : step.map change = .ok value) : ∃ middle, step = .ok middle ∧ change middle = value := by
  cases step with
  | error fault => cases done
  | ok middle =>
      cases done
      exact ⟨middle, rfl, rfl⟩

/-- The answer of a transaction, and the world it leaves. -/
def commit (transaction : World → Except Fault (α × World)) (world : World) : Except Fault α × World :=
  match transaction world with
  | .error fault => (.error fault, world)
  | .ok (answer, after) => (.ok answer, after)

theorem commit_cases (transaction : World → Except Fault (α × World)) (world : World) :
    (∃ fault, transaction world = .error fault ∧ commit transaction world = (.error fault, world)) ∨
      ∃ answer after, transaction world = .ok (answer, after) ∧
        commit transaction world = (.ok answer, after) := by
  unfold commit
  cases ran : transaction world with
  | error fault => exact Or.inl ⟨fault, rfl, rfl⟩
  | ok done => exact Or.inr ⟨done.1, done.2, rfl, rfl⟩

/-- A transaction that faults commits nothing. -/
theorem commit_error {transaction : World → Except Fault (α × World)} {world : World} {fault : Fault}
    (failed : (commit transaction world).1 = .error fault) : (commit transaction world).2 = world := by
  rcases commit_cases transaction world with ⟨other, -, same⟩ | ⟨answer, after, -, same⟩
  · rw [same]
  · rw [same] at failed
    cases failed

/-! ## Tables that only grow -/

/-- A row that was found is found after any rows were appended. -/
theorem find?_append_of_some {rows : List α} {accepts : α → Bool} {row : α}
    (found : rows.find? accepts = some row) (more : List α) : (rows ++ more).find? accepts = some row := by
  rw [List.find?_append, found]
  rfl

/-- A row that is appended is found if no row before it is accepted. -/
theorem find?_append_of_none {rows : List α} {accepts : α → Bool} {row : α}
    (absent : rows.any accepts = false) (accepted : accepts row = true) :
    (rows ++ [row]).find? accepts = some row := by
  have none : rows.find? accepts = none := by
    rw [List.find?_eq_none]
    exact fun other member => List.any_eq_false.mp absent other member
  rw [List.find?_append, none, Option.none_or, List.find?_cons_of_pos accepted]

/-! ## Cells that no move rewrites -/

/-- What every move keeps is kept over any number of moves. -/
theorem kept_steps {Move : World → World → Prop} (holds : World → Prop)
    (kept : ∀ before after, Move before after → holds before → holds after) {first last : World}
    (moved : Relation.ReflTransGen Move first last) (start : holds first) : holds last := by
  induction moved with
  | refl => exact start
  | tail _ step ih => exact kept _ _ step ih

end KernelJson.Foundation.Transactions
