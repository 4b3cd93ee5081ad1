/-
# Loops turn by turn

A function that ends by a measure does not show how it gets to its end.  Here a loop is a state
and what one turn makes of it, and nothing in the definition says that it ever ends: that is for
a potential to show, which every turn lowers.  A loop that goes through names lowers its
potential by what the names weigh that it has not passed yet.
-/

import Mathlib.Algebra.Order.BigOperators.Group.Finset
import Mathlib.Data.Finset.Card

namespace ApiDoc

/-- A loop between two turns, or at its end. -/
inductive Loop (σ ρ : Type) where
  | going (state : σ)
  | ended (result : ρ)

namespace Loop

variable {σ ρ : Type} {turn : σ → Loop σ ρ}

/-- Where a loop is after a number of turns; at its end it stays. -/
def after (turn : σ → Loop σ ρ) : Nat → σ → Loop σ ρ
  | 0, s => going s
  | n + 1, s =>
    match turn s with
    | going next => after turn n next
    | ended result => ended result

/-- What holds of a loop: one statement for its states and one for its result. -/
def Holds (I : σ → Prop) (Q : ρ → Prop) : Loop σ ρ → Prop
  | going s => I s
  | ended r => Q r

theorem Holds.imp {I I' : σ → Prop} {Q Q' : ρ → Prop} {l : Loop σ ρ} (holds : l.Holds I Q)
    (states : ∀ s, I s → I' s) (results : ∀ r, Q r → Q' r) : l.Holds I' Q' := by
  cases l with
  | going s => exact states s holds
  | ended r => exact results r holds

/-- What every turn preserves holds all along. -/
theorem holds_after (turn : σ → Loop σ ρ) {I : σ → Prop} {Q : ρ → Prop}
    (preserved : ∀ s, I s → (turn s).Holds I Q) (n : Nat) {s : σ} (start : I s) :
    (after turn n s).Holds I Q := by
  induction n generalizing s with
  | zero => exact start
  | succ n ih =>
      have step := preserved s start
      rw [after]
      cases here : turn s with
      | going next =>
          rw [here] at step
          exact ih step
      | ended r =>
          rw [here] at step
          exact step

/-- A loop whose potential falls with every turn has no more turns than that. -/
theorem exists_ended_of_potential {φ : σ → Nat}
    (falls : ∀ s next, turn s = going next → φ next < φ s) {n : Nat} {s : σ} (enough : φ s < n) :
    ∃ r, after turn n s = ended r := by
  induction n generalizing s with
  | zero => exact absurd enough (Nat.not_lt_zero _)
  | succ n ih =>
      rw [after]
      cases here : turn s with
      | going next =>
          have lower := falls s next here
          exact ih (by omega)
      | ended r => exact ⟨r, rfl⟩

/-- Such a loop ends with what its turns preserve. -/
theorem exists_ended_holds {φ : σ → Nat} {I : σ → Prop} {Q : ρ → Prop}
    (falls : ∀ s next, turn s = going next → φ next < φ s)
    (preserved : ∀ s, I s → (turn s).Holds I Q) {n : Nat} {s : σ} (enough : φ s < n) (start : I s) :
    ∃ r, after turn n s = ended r ∧ Q r := by
  obtain ⟨r, isEnded⟩ := exists_ended_of_potential falls enough
  have holds := holds_after turn preserved n start
  rw [isEnded] at holds
  exact ⟨r, isEnded, holds⟩

end Loop

/-! ## Names that have not been passed -/

/-- What the names weigh that a loop has not passed. -/
def ahead (names : Finset String) (weight : String → Nat) (passed : List String) : Nat :=
  ∑ n ∈ names with n ∉ passed, weight n

section Ahead

variable {names : Finset String} {weight : String → Nat} {passed passed' : List String}

theorem ahead_congr (same : ∀ n, n ∈ passed ↔ n ∈ passed') :
    ahead names weight passed = ahead names weight passed' := by
  simp only [ahead, same]

theorem ahead_le (passed : List String) : ahead names weight passed ≤ ∑ n ∈ names, weight n :=
  Finset.sum_le_sum_of_subset (Finset.filter_subset _ _)

theorem ahead_nil : ahead names weight [] = ∑ n ∈ names, weight n := by
  simp [ahead]

/-- Passing a new name takes away what it weighs. -/
theorem ahead_cons (weight : String → Nat) {name : String} (listed : name ∈ names)
    (fresh : name ∉ passed) :
    ahead names weight (name :: passed) + weight name = ahead names weight passed := by
  have erased : names.filter (· ∉ name :: passed) = (names.filter (· ∉ passed)).erase name := by
    ext n
    simp only [Finset.mem_filter, Finset.mem_erase, List.mem_cons, not_or]
    tauto
  rw [ahead, erased]
  exact Finset.sum_erase_add _ _ (Finset.mem_filter.mpr ⟨listed, fresh⟩)

end Ahead

end ApiDoc
