/-
# The reference closure

The names a document defines are those that its routes name and, transitively,
those that definitions refer to.  The queue of `Definitions.close` holds such
names, possibly twice and possibly after they have been defined.  The closure is
the list that the queue stands for: it starts with the roots, each once, and is
extended place by place with the references that are not on it yet.

`Closure.stage` is that list after a number of places.  The invariant of the
queue says that what is defined, followed by what the queue still asks for, is
the stage that belongs to the number of definitions.
-/

import ApiDoc.Proofs.Definition

namespace ApiDoc

/-! ## Extending a list by what its entries refer to -/

namespace Closure

/-- Extend a list by what its entry at a place refers to and the list lacks. -/
def extendAt (next : String → List String) (names : List String) (i : Nat) : List String :=
  match names[i]? with
  | none => names
  | some name => names ++ (next name).filter fun n => !names.contains n

/-- The roots, each once, extended at the first `i` places one after another. -/
def stage (next : String → List String) (roots : List String) : Nat → List String
  | 0 => roots.eraseDups
  | i + 1 => extendAt next (stage next roots i) i

/-- A list at which the extension stops: no place beyond its end changes it. -/
def IsLimit (next : String → List String) (roots names : List String) : Prop :=
  ∀ i, names.length ≤ i → stage next roots i = names

variable {next : String → List String} {roots names : List String} {i j : Nat}

theorem stage_succ_of_getElem? {name : String} (entry : (stage next roots i)[i]? = some name) :
    stage next roots (i + 1) = stage next roots i ++
      (next name).filter fun n => !(stage next roots i).contains n := by
  rw [stage, extendAt, entry]

theorem stage_succ_of_length_le (short : (stage next roots i).length ≤ i) :
    stage next roots (i + 1) = stage next roots i := by
  rw [stage, extendAt, List.getElem?_eq_none short]

/-- Once a stage has no further place, it stays. -/
theorem stage_eq_of_length_le (short : (stage next roots i).length ≤ i) (later : i ≤ j) :
    stage next roots j = stage next roots i := by
  induction later with
  | refl => rfl
  | @step j later ih =>
      have bound : i ≤ j := later
      rw [stage_succ_of_length_le (by rw [ih]; omega), ih]

/-- Stages only grow at the end. -/
theorem stage_prefix_stage (later : i ≤ j) : stage next roots i <+: stage next roots j := by
  induction later with
  | refl => exact List.prefix_refl _
  | step _ ih =>
      refine ih.trans ?_
      rw [stage, extendAt]
      split
      · exact List.prefix_refl _
      · exact List.prefix_append _ _

theorem nodup_stage (distinct : ∀ n, (next n).Nodup) (i : Nat) : (stage next roots i).Nodup := by
  induction i with
  | zero => exact nodup_eraseDups roots
  | succ i ih =>
      rw [stage, extendAt]
      split
      · exact ih
      · refine ih.append ((distinct _).filter _) ?_
        intro n old new
        have fresh := (List.mem_filter.mp new).2
        simp [old] at fresh

/-- A property of the roots that references inherit holds on every stage. -/
theorem forall_mem_stage {P : String → Prop} (root : ∀ n ∈ roots, P n)
    (inherit : ∀ m, P m → ∀ n ∈ next m, P n) (i : Nat) : ∀ n ∈ stage next roots i, P n := by
  induction i with
  | zero =>
      intro n onStage
      exact root n (List.mem_eraseDups.mp onStage)
  | succ i ih =>
      cases entry : (stage next roots i)[i]? with
      | none =>
          rw [stage_succ_of_length_le (List.getElem?_eq_none_iff.mp entry)]
          exact ih
      | some m =>
          rw [stage_succ_of_getElem? entry]
          intro n onStage
          rcases List.mem_append.mp onStage with old | new
          · exact ih n old
          · exact inherit m (ih m (List.mem_of_getElem? entry)) n (List.mem_filter.mp new).1

/-- The entry at a place is settled by the stage of that place. -/
theorem getElem?_stage (later : i ≤ j) : (stage next roots j)[i]? = (stage next roots i)[i]? := by
  by_cases inside : i < (stage next roots i).length
  · have grown : stage next roots i <+: stage next roots j := stage_prefix_stage later
    rcases grown with ⟨rest, longer⟩
    rw [← longer, List.getElem?_append_left inside]
  · rw [stage_eq_of_length_le (Nat.le_of_not_lt inside) later]

/-- What an entry refers to is on every stage beyond the place of the entry. -/
theorem mem_stage_of_next {name n : String} (later : i < j)
    (entry : (stage next roots j)[i]? = some name) (refers : n ∈ next name) :
    n ∈ stage next roots j := by
  rw [getElem?_stage (Nat.le_of_lt later)] at entry
  have inNext : n ∈ stage next roots (i + 1) := by
    rw [stage_succ_of_getElem? entry, List.mem_append, List.mem_filter]
    by_cases old : n ∈ stage next roots i
    · exact Or.inl old
    · exact Or.inr ⟨refers, by simp [old]⟩
  exact (stage_prefix_stage later).subset inNext

theorem root_mem_stage {n : String} (root : n ∈ roots) (i : Nat) : n ∈ stage next roots i :=
  (stage_prefix_stage (Nat.zero_le i)).subset (List.mem_eraseDups.mpr root)

namespace IsLimit

/-- Every stage is the beginning of the limit. -/
theorem stage_prefix_limit (limit : IsLimit next roots names) (i : Nat) :
    stage next roots i <+: names := by
  rw [← limit (max i names.length) (Nat.le_max_right _ _)]
  exact Closure.stage_prefix_stage (Nat.le_max_left _ _)

/-- A stage without further places is the limit. -/
theorem eq_stage (limit : IsLimit next roots names) (short : (stage next roots i).length ≤ i) :
    names = stage next roots i := by
  rw [← limit (max i names.length) (Nat.le_max_right _ _)]
  exact stage_eq_of_length_le short (Nat.le_max_left _ _)

theorem root_mem (limit : IsLimit next roots names) {n : String} (root : n ∈ roots) :
    n ∈ names :=
  (limit.stage_prefix_limit 0).subset (root_mem_stage root 0)

/-- The limit holds what its entries refer to. -/
theorem next_mem (limit : IsLimit next roots names) {m n : String} (entry : m ∈ names)
    (refers : n ∈ next m) : n ∈ names := by
  obtain ⟨i, place⟩ := List.mem_iff_getElem?.mp entry
  have inside : i < names.length := (List.getElem?_eq_some_iff.mp place).1
  have whole : stage next roots names.length = names := limit _ (Nat.le_refl _)
  rw [← whole] at place ⊢
  exact mem_stage_of_next inside place refers

/-- Every entry of the limit is a root or one that an entry refers to. -/
theorem root_or_next (limit : IsLimit next roots names) {n : String} (entry : n ∈ names) :
    n ∈ roots ∨ ∃ m ∈ names, n ∈ next m := by
  have whole : stage next roots names.length = names := limit _ (Nat.le_refl _)
  have known : ∀ n ∈ stage next roots names.length,
      n ∈ names ∧ (n ∈ roots ∨ ∃ m ∈ names, n ∈ next m) := by
    refine forall_mem_stage ?_ ?_ names.length
    · exact fun n root => ⟨limit.root_mem root, Or.inl root⟩
    · intro m inherited n refers
      exact ⟨limit.next_mem inherited.1 refers, Or.inr ⟨m, inherited.1, refers⟩⟩
  exact (known n (whole.symm ▸ entry)).2

end IsLimit

end Closure

end ApiDoc
