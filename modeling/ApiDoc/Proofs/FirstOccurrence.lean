/-
# Lists without repetitions and states that are written to

The tables of a document grow by one write after another.  This module supplies
what a whole run of writes does, given what a single write does: the keys are
those of the writes, each at its first occurrence, and a lookup sees the last
value written, or the first one where later writes give way.  Nothing here
depends on what the state is.
-/

import ApiDoc.Table
import Mathlib.Data.List.Nodup

namespace ApiDoc

universe u v w

/-! ## First occurrences -/

section Distinct

variable {α : Type u} [BEq α] [LawfulBEq α]

/-- What stays when later repetitions are dropped has no repetitions. -/
theorem nodup_eraseDups : ∀ l : List α, l.eraseDups.Nodup
  | [] => List.nodup_nil
  | a :: rest => by
      have shorter : (rest.filter fun b => !b == a).length < (a :: rest).length :=
        Nat.lt_succ_of_le (List.length_filter_le _ _)
      have gone : a ∉ (rest.filter fun b => !b == a).eraseDups := by simp
      rw [List.eraseDups_cons]
      exact List.nodup_cons.mpr ⟨gone, nodup_eraseDups (rest.filter fun b => !b == a)⟩
termination_by l => l.length
decreasing_by exact shorter

/-- A list without repetitions is left as it is. -/
theorem eraseDups_eq_self {l : List α} (distinct : l.Nodup) : l.eraseDups = l := by
  induction l with
  | nil => rfl
  | cons a rest ih =>
      obtain ⟨fresh, restDistinct⟩ := List.nodup_cons.mp distinct
      have unchanged : (rest.filter fun b => !b == a) = rest := by
        rw [List.filter_eq_self]
        intro b inRest
        have apart : b ≠ a := fun same => fresh (same ▸ inRest)
        simp [apart]
      rw [List.eraseDups_cons, unchanged, ih restDistinct]

theorem eraseDups_append_of_eraseDups (earlier later : List α) :
    (earlier.eraseDups ++ later).eraseDups = (earlier ++ later).eraseDups := by
  have sameLater : later.removeAll earlier.eraseDups = later.removeAll earlier := by
    refine List.filter_congr fun a _ => ?_
    rw [Bool.eq_iff_iff]
    simp
  rw [List.eraseDups_append, List.eraseDups_append, eraseDups_eq_self (nodup_eraseDups earlier),
    sameLater]

theorem eraseDups_concat {l : List α} (distinct : l.Nodup) (a : α) [Decidable (a ∈ l)] :
    (l ++ [a]).eraseDups = if a ∈ l then l else l ++ [a] := by
  rw [List.eraseDups_append, eraseDups_eq_self distinct, List.removeAll, List.filter_singleton]
  by_cases present : a ∈ l
  · simp [present]
  · simp [present, List.eraseDups_cons]

theorem map_find?_beq {β : Type v} (l : List α) (a : α) (b : β) :
    ((l.find? fun other => other == a).map fun _ => b) = if l.contains a then some b else none := by
  cases found : l.find? fun other => other == a with
  | some other =>
      have same : (other == a) = true := List.find?_some (p := fun other => other == a) found
      have present : a ∈ l := beq_iff_eq.mp same ▸ List.mem_of_find?_eq_some found
      rw [if_pos (List.contains_iff_mem.mpr present)]
      rfl
  | none =>
      have absent : a ∉ l := by
        intro present
        exact List.find?_eq_none.mp found a present (beq_self_eq_true a)
      rw [if_neg (mt List.contains_iff_mem.mp absent)]
      rfl

end Distinct

/-! ## Entries with keys of their own -/

section Keyed

variable {α : Type u} {κ : Type v} [BEq κ] [LawfulBEq κ] {key : α → κ} {l other : List α}

/-- Where every entry has a key of its own, a key finds the entry that has it. -/
theorem find?_key_eq_some_iff (distinct : (l.map key).Nodup) {k : κ} {a : α} :
    (l.find? fun b => key b == k) = some a ↔ a ∈ l ∧ key a = k := by
  apply Iff.intro
  · intro found
    have named := List.find?_some (p := fun b => key b == k) found
    exact ⟨List.mem_of_find?_eq_some found, beq_iff_eq.mp named⟩
  · intro listed
    rcases listed with ⟨member, rfl⟩
    cases found : l.find? fun b => key b == key a with
    | none => exact absurd (beq_self_eq_true _) (List.find?_eq_none.mp found a member)
    | some first =>
        have named := List.find?_some (p := fun b => key b == key a) found
        have same : first = a := List.inj_on_of_nodup_map distinct
          (List.mem_of_find?_eq_some found) member (beq_iff_eq.mp named)
        rw [same]

/-- Entries with keys of their own are found in any order. -/
theorem find?_key_eq_of_perm (reordered : other.Perm l) (distinct : (l.map key).Nodup) (k : κ) :
    (other.find? fun b => key b == k) = l.find? fun b => key b == k := by
  have alsoDistinct : (other.map key).Nodup := (reordered.map key).nodup_iff.mpr distinct
  ext a
  rw [find?_key_eq_some_iff alsoDistinct, find?_key_eq_some_iff distinct, reordered.mem_iff]

/-- When only the entry with one key gives anything, and only one entry has that key, all
entries together give what that one gives. -/
theorem flatMap_eq_of_find?_key {β : Type w} (distinct : (l.map key).Nodup) {k : κ}
    {give : α → List β} (elsewhere : ∀ a ∈ l, key a ≠ k → give a = []) :
    l.flatMap give = ((l.find? fun b => key b == k).map give).getD [] := by
  induction l with
  | nil => rfl
  | cons a rest ih =>
      obtain ⟨first, others⟩ := List.forall_mem_cons.mp elsewhere
      obtain ⟨fresh, restDistinct⟩ := List.nodup_cons.mp distinct
      by_cases same : key a = k
      · have nothing : rest.flatMap give = [] := by
          rw [List.flatMap_eq_nil_iff]
          intro b inRest
          refine others b inRest fun alsoSame => fresh ?_
          rw [same, ← alsoSame]
          exact List.mem_map_of_mem inRest
        simp [nothing, same]
      · simp [first same, ih restDistinct others, same]

end Keyed

/-- The last entry of a list with a property is the one behind which no entry has
it. -/
theorem getLast?_filter_eq_some_iff {α : Type u} {p : α → Bool} {l : List α} {a : α} :
    (l.filter p).getLast? = some a ↔
      p a ∧ ∃ before after, l = before ++ a :: after ∧ ∀ b ∈ after, ¬ p b := by
  have fromBehind : (l.filter p).getLast? = l.reverse.find? p := by
    rw [List.getLast?_eq_head?_reverse, ← List.filter_reverse, List.head?_filter]
  rw [fromBehind, List.find?_eq_some_iff_append]
  refine and_congr_right fun _ => ?_
  apply Iff.intro
  · intro last
    rcases last with ⟨after, before, split, none⟩
    refine ⟨before.reverse, after.reverse, ?_, by simpa using none⟩
    rw [List.reverse_eq_iff] at split
    simpa using split
  · intro last
    rcases last with ⟨before, after, rfl, none⟩
    exact ⟨after.reverse, before.reverse, by simp, by simpa using none⟩

/-! ## Runs of writes -/

section Runs

variable {σ : Type u} {β : Type v} {γ : Type w} (step : σ → β → σ)

/-- When every write adds its keys unless they are there, a run of writes leaves
the old keys and then the new ones, each once and in order of first occurrence. -/
theorem keys_foldl_of_step (keys : σ → List String) (added : β → List String) {writes : List β}
    (adds : ∀ write ∈ writes, ∀ state, (keys state).Nodup →
      keys (step state write) = (keys state ++ added write).eraseDups)
    {state : σ} (distinct : (keys state).Nodup) :
    keys (writes.foldl step state) = (keys state ++ writes.flatMap added).eraseDups := by
  induction writes generalizing state with
  | nil => simp [eraseDups_eq_self distinct]
  | cons write rest ih =>
      obtain ⟨first, others⟩ := List.forall_mem_cons.mp adds
      have next := first state distinct
      have stillDistinct : (keys (step state write)).Nodup := by
        rw [next]
        exact nodup_eraseDups _
      -- Repetitions can be dropped after each write or once at the end.
      rw [List.foldl_cons, ih others stillDistinct, next, eraseDups_append_of_eraseDups,
        List.flatMap_cons, List.append_assoc]

/-- When a write is seen exactly by the lookups it is for, a lookup after a run of
writes sees the last one that is for it. -/
theorem lookup_foldl_of_lastWrite (get : σ → Option γ) (hits : β → Bool) (value : β → γ)
    {writes : List β}
    (sees : ∀ write ∈ writes, ∀ state, get (step state write) =
      if hits write then some (value write) else get state) (state : σ) :
    get (writes.foldl step state) =
      ((writes.filter hits).getLast?.map value).or (get state) := by
  induction writes generalizing state with
  | nil => simp
  | cons write rest ih =>
      obtain ⟨first, others⟩ := List.forall_mem_cons.mp sees
      rw [List.foldl_cons, ih others, first]
      by_cases hit : hits write
      · rw [List.filter_cons_of_pos hit, List.getLast?_cons, if_pos hit]
        cases (rest.filter hits).getLast? <;> rfl
      · rw [List.filter_cons_of_neg hit, if_neg hit]

/-- When a write is seen only where nothing was, a lookup after a run of writes
sees the first one that is for it. -/
theorem lookup_foldl_of_firstWrite (get : σ → Option γ) (hits : β → Bool) (value : β → γ)
    {writes : List β}
    (sees : ∀ write ∈ writes, ∀ state, get (step state write) =
      (get state).or (if hits write then some (value write) else none)) (state : σ) :
    get (writes.foldl step state) = (get state).or ((writes.find? hits).map value) := by
  induction writes generalizing state with
  | nil => simp
  | cons write rest ih =>
      obtain ⟨first, others⟩ := List.forall_mem_cons.mp sees
      rw [List.foldl_cons, ih others, first, Option.or_assoc]
      by_cases hit : hits write
      · rw [List.find?_cons_of_pos hit, if_pos hit]
        rfl
      · rw [List.find?_cons_of_neg hit, if_neg hit]
        rfl

end Runs

/-! ## Runs of writes to a table -/

namespace Table

variable {α : Type u}

theorem keys_insert_eq_eraseDups {t : Table α} (distinct : t.keys.Nodup) (key : String)
    (value : α) : (t.insert key value).keys = (t.keys ++ [key]).eraseDups := by
  rw [keys_insert, eraseDups_concat distinct]

theorem keys_insertNew_eq_eraseDups {t : Table α} (distinct : t.keys.Nodup) (key : String)
    (value : α) : (t.insertNew key value).keys = (t.keys ++ [key]).eraseDups := by
  rw [eraseDups_concat distinct, insertNew]
  by_cases present : key ∈ t.keys
  · have stored : (t.get? key).isSome := (mem_keys_iff t key).mp present
    rw [if_pos stored, if_pos present]
  · have absent : ¬ (t.get? key).isSome := mt (mem_keys_iff t key).mpr present
    rw [if_neg absent, keys_insert]

theorem get?_insertNew (t : Table α) (key other : String) (value : α) :
    (t.insertNew key value).get? other =
      (t.get? other).or (if key == other then some value else none) := by
  rw [insertNew]
  by_cases same : key = other
  · subst same
    cases stored : t.get? key with
    | none => simp [get?_insert]
    | some old => simp [stored]
  · have apart : (key == other) = false := by simpa using same
    split
    · simp [apart]
    · simp [get?_insert, same]

end Table

end ApiDoc
