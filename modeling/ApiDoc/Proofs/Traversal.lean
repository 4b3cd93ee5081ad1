/-
# Results of sequences

Generation runs over the members of a struct, the structs of a description and
the routes of a service, and stops at the first error.  This module says when
such a run succeeds and which error it stops with.  Everything is about results;
what is reported along the way plays no part.
-/

import ApiDoc.Generate.Definition
import Mathlib.Data.List.Forall2

namespace ApiDoc

universe u v w

variable {ε : Type w} {α : Type u} {β : Type v}

/-- A sequence of two steps succeeds when both do. -/
theorem bind_eq_ok_iff {γ : Type v} {first : Except ε γ} {next : γ → Except ε β} {b : β} :
    first >>= next = .ok b ↔ ∃ a, first = .ok a ∧ next a = .ok b := by
  cases first with
  | error e => simp [bind, Except.bind]
  | ok a => simp [bind, Except.bind]

/-- A sequence of two steps fails when the first does, or the second behind it. -/
theorem bind_eq_error_iff {γ : Type v} {first : Except ε γ} {next : γ → Except ε β} {e : ε} :
    first >>= next = .error e ↔
      first = .error e ∨ ∃ a, first = .ok a ∧ next a = .error e := by
  cases first with
  | error f => simp [bind, Except.bind]
  | ok a => simp [bind, Except.bind]

/-- A changed result comes from the result that is changed. -/
theorem map_eq_ok_iff {γ : Type u} {first : Except ε γ} {change : γ → β} {b : β} :
    first.map change = .ok b ↔ ∃ a, first = .ok a ∧ change a = b := by
  cases first with
  | error e => simp [Except.map]
  | ok a => simp [Except.map]

theorem exists_map_eq_ok_iff {γ : Type u} {first : Except ε γ} {change : γ → β} :
    (∃ b, first.map change = .ok b) ↔ ∃ a, first = .ok a := by
  cases first with
  | error e => simp [Except.map]
  | ok a => simp [Except.map]

/-- Changing a result keeps the error. -/
theorem map_eq_error_iff {γ : Type u} {first : Except ε γ} {change : γ → β} {e : ε} :
    first.map change = .error e ↔ first = .error e := by
  cases first with
  | error f => simp [Except.map]
  | ok a => simp [Except.map]

/-- A changed error comes from the error that is changed. -/
theorem mapError_eq_error_iff {ε' : Type w} {first : Except ε β} {change : ε → ε'} {e : ε'} :
    first.mapError change = .error e ↔ ∃ f, first = .error f ∧ change f = e := by
  cases first with
  | error f => simp [Except.mapError]
  | ok b => simp [Except.mapError]

/-- Whether an entry is the first of a list at which a computation fails. -/
def FailsFirst (f : α → Except ε β) (l : List α) (a : α) (e : ε) : Prop :=
  ∃ before after, l = before ++ a :: after ∧ (∀ b ∈ before, ∃ c, f b = .ok c) ∧
    f a = .error e

/-- A run over a list succeeds with one result for each entry. -/
theorem mapM_eq_ok_iff {f : α → Except ε β} {l : List α} {results : List β} :
    l.mapM f = .ok results ↔ List.Forall₂ (fun a b => f a = .ok b) l results := by
  induction l generalizing results with
  | nil => simp [pure, Except.pure, eq_comm]
  | cons a rest ih =>
      rw [List.mapM_cons, bind_eq_ok_iff, List.forall₂_cons_left_iff]
      apply Iff.intro
      · intro run
        rcases run with ⟨b, first, run⟩
        obtain ⟨others, restRun, result⟩ := bind_eq_ok_iff.mp run
        obtain rfl : b :: others = results := Except.ok.inj result
        exact ⟨b, others, first, ih.mp restRun, rfl⟩
      · intro run
        rcases run with ⟨b, others, first, restRun, rfl⟩
        exact ⟨b, first, bind_eq_ok_iff.mpr ⟨others, ih.mpr restRun, rfl⟩⟩

/-- The results of a run are those of the entries. -/
theorem mem_results_iff {f : α → Except ε β} {l : List α} {results : List β}
    (run : l.mapM f = .ok results) {b : β} : b ∈ results ↔ ∃ a ∈ l, f a = .ok b := by
  rw [mapM_eq_ok_iff] at run
  induction run with
  | nil => simp
  | @cons a b' rest others first _ ih =>
      have same : b = b' ↔ f a = .ok b := by
        rw [first, Except.ok.injEq]
        exact eq_comm
      rw [List.mem_cons, ih, same]
      simp

/-- A run over a list succeeds when the computation succeeds at every entry. -/
theorem exists_mapM_eq_ok_iff {f : α → Except ε β} {l : List α} :
    (∃ results, l.mapM f = .ok results) ↔ ∀ a ∈ l, ∃ b, f a = .ok b := by
  simp only [mapM_eq_ok_iff]
  induction l with
  | nil => simp
  | cons a rest ih =>
      rw [List.forall_mem_cons, ← ih]
      simp only [List.forall₂_cons_left_iff]
      apply Iff.intro
      · intro run
        rcases run with ⟨_, b, others, first, restRun, rfl⟩
        exact ⟨⟨b, first⟩, others, restRun⟩
      · intro each
        rcases each with ⟨⟨b, first⟩, others, restRun⟩
        exact ⟨b :: others, b, others, first, restRun, rfl⟩

/-- The first failure in a list is at its head, or behind a head that succeeds. -/
theorem failsFirst_cons_iff {f : α → Except ε β} {head a : α} {rest : List α} {e : ε} :
    FailsFirst f (head :: rest) a e ↔
      (head = a ∧ f head = .error e) ∨ (∃ b, f head = .ok b) ∧ FailsFirst f rest a e := by
  apply Iff.intro
  · intro fails
    rcases fails with ⟨before, after, split, earlier, fails⟩
    cases before with
    | nil =>
        obtain ⟨rfl, -⟩ := List.cons.inj split
        exact Or.inl ⟨rfl, fails⟩
    | cons b more =>
        obtain ⟨rfl, rfl⟩ := List.cons.inj split
        obtain ⟨succeeds, earlier⟩ := List.forall_mem_cons.mp earlier
        exact Or.inr ⟨succeeds, more, after, rfl, earlier, fails⟩
  · intro fails
    rcases fails with ⟨rfl, fails⟩ | ⟨succeeds, before, after, rfl, earlier, fails⟩
    · exact ⟨[], rest, rfl, by simp, fails⟩
    · exact ⟨head :: before, after, rfl, List.forall_mem_cons.mpr ⟨succeeds, earlier⟩, fails⟩

/-- A run over a list ends with the error of the first entry that fails. -/
theorem mapM_eq_error_iff {f : α → Except ε β} {l : List α} {e : ε} :
    l.mapM f = .error e ↔ ∃ a, FailsFirst f l a e := by
  induction l with
  | nil => simp [pure, Except.pure, FailsFirst]
  | cons head rest ih =>
      rw [List.mapM_cons]
      simp only [failsFirst_cons_iff, exists_or, exists_eq_left', exists_and_left, ← ih]
      cases f head with
      | error e' => simp [bind, Except.bind]
      | ok b => cases rest.mapM f <;> simp [bind, Except.bind, pure, Except.pure]

/-- The error of a run is the error of an entry. -/
theorem exists_mem_of_mapM_eq_error {f : α → Except ε β} {l : List α} {e : ε}
    (failed : l.mapM f = .error e) : ∃ a ∈ l, f a = .error e := by
  obtain ⟨a, before, after, rfl, -, fails⟩ := mapM_eq_error_iff.mp failed
  exact ⟨a, by simp, fails⟩

/-- When every entry is kept together with its result, a run that succeeds returns
the entries of the list with results that belong to them. -/
theorem entries_of_mapM_pair {f : α → Except ε β} {l : List α} {results : List (α × β)}
    (run : (l.mapM fun a => (f a).map (Prod.mk a)) = .ok results) :
    results.map Prod.fst = l ∧ ∀ result ∈ results, f result.1 = .ok result.2 := by
  rw [mapM_eq_ok_iff] at run
  induction run with
  | nil => simp
  | cons first _ ih =>
      obtain ⟨b, value, rfl⟩ := map_eq_ok_iff.mp first
      rcases ih with ⟨sameEntries, values⟩
      exact ⟨congrArg (List.cons _) sameEntries, List.forall_mem_cons.mpr ⟨value, values⟩⟩

/-- Keeping every entry together with its result changes nothing about where a run
fails. -/
theorem failsFirst_pair_iff {f : α → Except ε β} {l : List α} {a : α} {e : ε} :
    FailsFirst (fun a => (f a).map (Prod.mk a)) l a e ↔ FailsFirst f l a e := by
  simp only [FailsFirst, exists_map_eq_ok_iff, map_eq_error_iff]

namespace Logged

/-- The result of a logged run over a list is the run of the results. -/
theorem outcome_forEach {α β : Type} (f : α → Logged β) (l : List α) :
    (forEach f l).outcome = l.mapM fun a => (f a).outcome := by
  induction l with
  | nil => rfl
  | cons a rest ih =>
      rw [List.mapM_cons, ← ih]
      simp only [forEach, outcome_bind, outcome_pure]
      rfl

end Logged

/-! ## Results in the order of a list -/

/-- When each kept entry gives one result and each other entry gives none, the results are
those of the kept entries in order. -/
theorem forall₂_filter_flatMap {γ : Type w} {R : α → β → Prop}
    {keep : α → Bool} {give : γ → List β} {l : List α} {parts : List γ}
    (each : List.Forall₂ (fun a part =>
      if keep a then ∃ b, give part = [b] ∧ R a b else give part = []) l parts) :
    List.Forall₂ R (l.filter keep) (parts.flatMap give) := by
  induction each with
  | nil => exact List.Forall₂.nil
  | @cons a part rest others first _ ih =>
      rw [List.flatMap_cons]
      by_cases kept : keep a
      · rw [if_pos kept] at first
        obtain ⟨b, alone, related⟩ := first
        rw [List.filter_cons_of_pos kept, alone]
        exact List.Forall₂.cons related ih
      · rw [if_neg kept] at first
        rw [List.filter_cons_of_neg kept, first]
        exact ih

theorem any_eq_of_forall₂ {p : α → Bool} {q : β → Bool}
    {l : List α} {others : List β} (each : List.Forall₂ (fun a b => p a = q b) l others) :
    l.any p = others.any q := by
  induction each with
  | nil => rfl
  | cons first _ ih => rw [List.any_cons, List.any_cons, first, ih]

/-- Every result belongs to an entry. -/
theorem exists_left_of_forall₂ {R : α → β → Prop} {l : List α}
    {others : List β} (each : List.Forall₂ R l others) {b : β} (listed : b ∈ others) :
    ∃ a ∈ l, R a b := by
  induction each with
  | nil => cases listed
  | @cons a b' rest others related _ ih =>
      rcases List.mem_cons.mp listed with rfl | inOthers
      · exact ⟨a, List.mem_cons_self, related⟩
      · obtain ⟨a', inRest, related'⟩ := ih inOthers
        exact ⟨a', List.mem_cons_of_mem a inRest, related'⟩

end ApiDoc
