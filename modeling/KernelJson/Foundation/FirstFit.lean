import Mathlib.Data.List.Perm.Basic
import Mathlib.Algebra.Order.BigOperators.Group.List
import Mathlib.Algebra.Ring.Nat

/-!
# First fit

Values of given sizes are taken in their order while places and room are left;
what does not fit is passed over, and later values may still be taken.
-/

namespace KernelJson.Foundation.FirstFit

/-- What became of a value. -/
inductive Fit where
  | taken
  | noPlace
  | noRoom
deriving DecidableEq

theorem noPlace_ne : Fit.noPlace ≠ .taken := Fit.noConfusion

theorem noRoom_ne : Fit.noRoom ≠ .taken := Fit.noConfusion

section Fitting

variable {α : Type} (size : α → Nat)

/-- The values in their order, each with what became of it. -/
def marks : Nat → Nat → List α → List (α × Fit)
  | _, _, [] => []
  | places, room, value :: rest =>
      if places = 0 then (value, .noPlace) :: marks places room rest
      else if room < size value then (value, .noRoom) :: marks places room rest
      else (value, .taken) :: marks (places - 1) (room - size value) rest

def isTaken (mark : α × Fit) : Bool := mark.2 = .taken

def taken (places room : Nat) (values : List α) : List α :=
  ((marks size places room values).filter isTaken).map Prod.fst

/-- What was passed over, with the reason. -/
def passed (places room : Nat) (values : List α) : List (α × Fit) :=
  (marks size places room values).filter fun mark => !isTaken mark

variable {size} {places room : Nat} {value : α} {rest : List α}

theorem marks_noPlace (full : places = 0) :
    marks size places room (value :: rest) = (value, .noPlace) :: marks size places room rest :=
  if_pos full

theorem marks_noRoom (open_ : places ≠ 0) (large : room < size value) :
    marks size places room (value :: rest) = (value, .noRoom) :: marks size places room rest := by
  rw [marks, if_neg open_, if_pos large]

theorem marks_taken (open_ : places ≠ 0) (fits : size value ≤ room) :
    marks size places room (value :: rest) = (value, .taken) :: marks size (places - 1) (room - size value) rest := by
  rw [marks, if_neg open_, if_neg (Nat.not_lt.mpr fits)]

/-- The next value is passed over, for one of two reasons, or is taken. -/
theorem marks_cases (size : α → Nat) (places room : Nat) (value : α) (rest : List α) :
    (∃ reason, reason ≠ .taken ∧
        marks size places room (value :: rest) = (value, reason) :: marks size places room rest) ∨
      (places ≠ 0 ∧ size value ≤ room ∧
        marks size places room (value :: rest) =
          (value, .taken) :: marks size (places - 1) (room - size value) rest) := by
  by_cases full : places = 0
  · exact .inl ⟨.noPlace, noPlace_ne, marks_noPlace full⟩
  · rcases Nat.lt_or_ge room (size value) with large | fits
    · exact .inl ⟨.noRoom, nofun, marks_noRoom full large⟩
    · exact .inr ⟨full, fits, marks_taken full fits⟩

theorem of_passed {reason : Fit} (other : reason ≠ .taken)
    (same : marks size places room (value :: rest) = (value, reason) :: marks size places room rest) :
    taken size places room (value :: rest) = taken size places room rest ∧
      passed size places room (value :: rest) = (value, reason) :: passed size places room rest := by
  have mark : isTaken (value, reason) = false := decide_eq_false other
  unfold taken passed
  rw [same, List.filter_cons, List.filter_cons, mark]
  exact ⟨rfl, rfl⟩

theorem taken_noPlace (full : places = 0) : taken size places room (value :: rest) = taken size places room rest :=
  (of_passed noPlace_ne (marks_noPlace full)).1

theorem passed_noPlace (full : places = 0) :
    passed size places room (value :: rest) = (value, .noPlace) :: passed size places room rest :=
  (of_passed noPlace_ne (marks_noPlace full)).2

theorem taken_noRoom (open_ : places ≠ 0) (large : room < size value) :
    taken size places room (value :: rest) = taken size places room rest :=
  (of_passed noRoom_ne (marks_noRoom open_ large)).1

theorem passed_noRoom (open_ : places ≠ 0) (large : room < size value) :
    passed size places room (value :: rest) = (value, .noRoom) :: passed size places room rest :=
  (of_passed noRoom_ne (marks_noRoom open_ large)).2

theorem taken_fits (open_ : places ≠ 0) (fits : size value ≤ room) :
    taken size places room (value :: rest) = value :: taken size (places - 1) (room - size value) rest := by
  unfold taken
  rw [marks_taken open_ fits]
  rfl

theorem passed_fits (open_ : places ≠ 0) (fits : size value ≤ room) :
    passed size places room (value :: rest) = passed size (places - 1) (room - size value) rest := by
  unfold passed
  rw [marks_taken open_ fits]
  rfl

theorem map_fst_marks (size : α → Nat) (places room : Nat) (values : List α) :
    (marks size places room values).map Prod.fst = values := by
  induction values generalizing places room with
  | nil => rfl
  | cons value rest ih =>
      rcases marks_cases size places room value rest with ⟨reason, -, same⟩ | ⟨-, -, same⟩
      · rw [same, List.map_cons, ih]
      · rw [same, List.map_cons, ih]

/-- Nothing is lost and nothing is repeated. -/
theorem taken_append_passed_perm (size : α → Nat) (places room : Nat) (values : List α) :
    (taken size places room values ++ (passed size places room values).map Prod.fst).Perm values := by
  have split := (List.filter_append_perm isTaken (marks size places room values)).map Prod.fst
  rw [map_fst_marks, List.map_append] at split
  exact split

/-- What was taken fits the places. -/
theorem length_taken_le (size : α → Nat) (places room : Nat) (values : List α) :
    (taken size places room values).length ≤ places := by
  induction values generalizing places room with
  | nil => exact Nat.zero_le _
  | cons value rest ih =>
      rcases marks_cases size places room value rest with ⟨reason, other, same⟩ | ⟨open_, fits, -⟩
      · rw [(of_passed other same).1]
        exact ih places room
      · rw [taken_fits open_ fits, List.length_cons]
        have later := ih (places - 1) (room - size value)
        omega

end Fitting

end KernelJson.Foundation.FirstFit
