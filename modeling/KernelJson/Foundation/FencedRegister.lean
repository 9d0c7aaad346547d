import Mathlib.Data.List.Pairwise

/-!
# Fenced registers

A register holds at most one fence; claiming it installs a fence whose epoch
follows the installed one, and dropping it leaves the register empty.  Epochs
live in the register only, so a register that is claimed again after a drop has
forgotten the fences it issued.  As long as that does not happen, every issued
fence is fresh and only the newest can be current.
-/

namespace KernelJson.Foundation.FencedRegister

variable {Fence : Type}

/-- The installed fence, and every fence issued so far, newest first. -/
structure Register (Fence : Type) where
  current : Option Fence
  issued : List Fence

/-- The epoch that the next claim installs. -/
def followingEpoch (epoch : Fence → Nat) : Option Fence → Nat
  | none => 0
  | some fence => epoch fence + 1

/-- One use of the register.  A claim may fail to answer after it took effect. -/
inductive Move (epoch : Fence → Nat) (register : Register Fence) : Register Fence → Prop
  | claim (fence : Fence) (advances : epoch fence = followingEpoch epoch register.current) :
      Move epoch register ⟨some fence, fence :: register.issued⟩
  | unanswered (fence : Fence) (advances : epoch fence = followingEpoch epoch register.current) :
      Move epoch register ⟨some fence, register.issued⟩
  | drop : Move epoch register ⟨none, register.issued⟩
  | stay : Move epoch register register

/-- The register is claimed although it is empty and has issued fences before. -/
def Reclaims (before after : Register Fence) : Prop :=
  before.current = none ∧ before.issued ≠ [] ∧ after.current ≠ none

/-- Issued epochs strictly decrease into the past, and none exceeds the installed one. -/
structure Fenced (epoch : Fence → Nat) (register : Register Fence) : Prop where
  ordered : register.issued.Pairwise fun later earlier => epoch earlier < epoch later
  covered : ∀ current, register.current = some current →
    ∀ fence ∈ register.issued, epoch fence < epoch current ∨ fence = current

variable {epoch : Fence → Nat}

theorem Fenced.fresh (current : Option Fence) : Fenced epoch ⟨current, []⟩ where
  ordered := .nil
  covered := fun _ _ _ found => by cases found

/-- A claimed epoch exceeds every issued one, unless the register was reclaimed. -/
theorem Fenced.below_following {register : Register Fence} (fenced : Fenced epoch register)
    (kept : register.current = none → register.issued = []) {fence : Fence}
    (found : fence ∈ register.issued) : epoch fence < followingEpoch epoch register.current := by
  cases here : register.current with
  | none =>
      rw [kept here] at found
      cases found
  | some current =>
      simp only [followingEpoch]
      rcases fenced.covered current here fence found with below | same
      · omega
      · rw [same]
        omega

/-- Every move but a reclaim keeps the register fenced. -/
theorem Move.fenced {before after : Register Fence} (moved : Move epoch before after)
    (fenced : Fenced epoch before) (noReclaim : ¬ Reclaims before after) : Fenced epoch after := by
  have kept : after.current ≠ none → before.current = none → before.issued = [] := by
    intro claimed empty
    by_contra issued
    exact noReclaim ⟨empty, issued, claimed⟩
  cases moved with
  | claim fence advances =>
      have below : ∀ earlier ∈ before.issued, epoch earlier < epoch fence := fun earlier found =>
        advances ▸ fenced.below_following (kept (by simp)) found
      refine ⟨List.pairwise_cons.mpr ⟨below, fenced.ordered⟩, ?_⟩
      rintro current installed earlier found
      cases installed
      rcases List.mem_cons.mp found with same | old
      · exact Or.inr same
      · exact Or.inl (below earlier old)
  | unanswered fence advances =>
      refine ⟨fenced.ordered, ?_⟩
      rintro current installed earlier found
      cases installed
      exact Or.inl (advances ▸ fenced.below_following (kept (by simp)) found)
  | drop => exact ⟨fenced.ordered, fun _ impossible => by cases impossible⟩
  | stay => exact fenced

/-- No fence is issued twice. -/
theorem Fenced.nodup {register : Register Fence} (fenced : Fenced epoch register) :
    register.issued.Nodup :=
  fenced.ordered.imp fun {later earlier} below same => by
    subst same
    exact Nat.lt_irrefl _ below

/-- Only the newest issued fence can be the installed one. -/
theorem Fenced.current_newest {newest current : Fence} {older : List Fence} {installed : Option Fence}
    (fenced : Fenced epoch ⟨installed, newest :: older⟩) (here : installed = some current)
    (found : current ∈ newest :: older) : current = newest := by
  rcases List.mem_cons.mp found with same | old
  · exact same
  · have below : epoch current < epoch newest := (List.pairwise_cons.mp fenced.ordered).1 current old
    rcases fenced.covered current here newest List.mem_cons_self with above | same
    · exact absurd (Nat.lt_trans below above) (Nat.lt_irrefl _)
    · exact same.symm

end KernelJson.Foundation.FencedRegister
