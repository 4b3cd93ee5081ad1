/-
# Visits to embedded structs

The search for cycles visits a struct and, from there, the structs that it embeds.  A visit
waits while a deeper one is under way, so the visits that wait are the chain that leads to the
struct at hand.  No name is visited while it is on that chain, which keeps the chain as short as
the description has names, whatever embeds what.  A name that has been visited is cleared and
not visited again, so there are no more visits in the end than there are names.
-/

import ApiDoc.Proofs.Embedding
import ApiDoc.Proofs.Worklist

namespace ApiDoc

/-- How many structs the struct with a name embeds; none if there is no such struct. -/
def Spec.embedCount (spec : Spec) (name : String) : Nat :=
  ((spec.findType? name).elim [] StructType.embeds).length

theorem Spec.embedCount_eq {spec : Spec} {name : String} {s : StructType}
    (found : spec.findType? name = some s) : spec.embedCount name = s.embeds.length := by
  rw [embedCount, found]
  rfl

namespace Embedding

/-- A visit under way. -/
structure Visit where
  name : String
  /-- The embedded structs that it has not looked at yet. -/
  pending : List String

/-- The search between two turns. -/
structure Visits where
  current : Visit
  /-- The visits that wait for the current one, the deepest in front. -/
  outer : List Visit
  cleared : List String

namespace Visits

/-- The search before it looks at anything. -/
def start (root : StructType) : Visits :=
  ⟨⟨root.name, root.embeds⟩, [], []⟩

/-- The names that are visited, the deepest in front. -/
def chain (v : Visits) : List String :=
  v.current.name :: v.outer.map Visit.name

/-- One turn of the search: look at the next struct that the current one embeds, or go back. -/
def turn (spec : Spec) (v : Visits) : Loop Visits (Except Error Unit) :=
  match v.current.pending with
  | [] =>
    match v.outer with
    | [] => .ended (.ok ())
    | caller :: others => .going ⟨caller, others, v.current.name :: v.cleared⟩
  | name :: rest =>
    if v.chain.contains name then .ended (.error (.cyclicEmbedding (v.chain.reverse ++ [name])))
    else if v.cleared.contains name then .going { v with current := ⟨v.current.name, rest⟩ }
    else
      match spec.findType? name with
      | none => .going { v with current := ⟨v.current.name, rest⟩ }
      | some s => .going ⟨⟨name, s.embeds⟩, ⟨v.current.name, rest⟩ :: v.outer, v.cleared⟩

variable {spec : Spec} {root : StructType}

/-- Everything that a turn can do. -/
inductive Turns (spec : Spec) : Visits → Loop Visits (Except Error Unit) → Prop
  | finish {n : String} {cleared : List String} :
      Turns spec ⟨⟨n, []⟩, [], cleared⟩ (.ended (.ok ()))
  | leave {n : String} {caller : Visit} {others : List Visit} {cleared : List String} :
      Turns spec ⟨⟨n, []⟩, caller :: others, cleared⟩ (.going ⟨caller, others, n :: cleared⟩)
  | refuse {n name : String} {rest : List String} {outer : List Visit} {cleared : List String}
      (repeated : name ∈ n :: outer.map Visit.name) :
      Turns spec ⟨⟨n, name :: rest⟩, outer, cleared⟩
        (.ended (.error (.cyclicEmbedding ((n :: outer.map Visit.name).reverse ++ [name]))))
  | pass {n name : String} {rest : List String} {outer : List Visit} {cleared : List String}
      (fresh : name ∉ n :: outer.map Visit.name)
      (idle : name ∈ cleared ∨ spec.findType? name = none) :
      Turns spec ⟨⟨n, name :: rest⟩, outer, cleared⟩ (.going ⟨⟨n, rest⟩, outer, cleared⟩)
  | enter {n name : String} {rest : List String} {outer : List Visit} {cleared : List String}
      {s : StructType} (fresh : name ∉ n :: outer.map Visit.name) (unseen : name ∉ cleared)
      (found : spec.findType? name = some s) :
      Turns spec ⟨⟨n, name :: rest⟩, outer, cleared⟩
        (.going ⟨⟨name, s.embeds⟩, ⟨n, rest⟩ :: outer, cleared⟩)

theorem turns_turn (spec : Spec) (v : Visits) : Turns spec v (v.turn spec) := by
  obtain ⟨⟨n, pending⟩, outer, cleared⟩ := v
  cases pending with
  | nil =>
      cases outer with
      | nil => exact .finish
      | cons caller others => exact .leave
  | cons name rest =>
      by_cases repeated : name ∈ n :: outer.map Visit.name
      · have onChain : (chain ⟨⟨n, name :: rest⟩, outer, cleared⟩).contains name :=
          List.contains_iff_mem.mpr repeated
        simp only [turn, if_pos onChain]
        exact .refuse repeated
      · have offChain : ¬ (chain ⟨⟨n, name :: rest⟩, outer, cleared⟩).contains name :=
          mt List.contains_iff_mem.mp repeated
        by_cases seen : name ∈ cleared
        · simp only [turn, if_neg offChain, if_pos (List.contains_iff_mem.mpr seen)]
          exact .pass repeated (.inl seen)
        · simp only [turn, if_neg offChain, if_neg (mt List.contains_iff_mem.mp seen)]
          cases found : spec.findType? name with
          | none => exact .pass repeated (.inr found)
          | some s => exact .enter repeated seen found

/-! ## What the search comes to -/

/-- What is left of a search: each visit goes on with what it has not looked at, and is cleared
when it is over. -/
def resume (spec : Spec) : List Visit → List String → Except Error Unit
  | [], _ => .ok ()
  | v :: outer, cleared => do
    let below ← search spec (v.name :: outer.map Visit.name) v.pending cleared
    resume spec outer (v.name :: below)

/-- What a search comes to. -/
def outcome (spec : Spec) (v : Visits) : Except Error Unit :=
  resume spec (v.current :: v.outer) v.cleared

theorem outcome_mk (n : String) (pending : List String) (outer : List Visit)
    (cleared : List String) :
    outcome spec ⟨⟨n, pending⟩, outer, cleared⟩ =
      search spec (n :: outer.map Visit.name) pending cleared >>= fun below =>
        resume spec outer (n :: below) :=
  rfl

theorem outcome_start (root : StructType) : (start root).outcome spec = spec.checkEmbedding root := by
  rw [start, outcome_mk, List.map_nil, Spec.checkEmbedding]
  cases search spec [root.name] root.embeds [] with
  | error e => rfl
  | ok below => rfl

/-- No turn changes what the search comes to, and at the end it is there. -/
theorem holds_outcome (v : Visits) :
    (v.turn spec).Holds (fun next => next.outcome spec = v.outcome spec)
      fun last => last = v.outcome spec := by
  have step := turns_turn spec v
  generalize v.turn spec = reached at step ⊢
  -- In each case the search of the current visit is opened once: that is the turn.
  cases step with
  | finish =>
      show .ok () = outcome spec _
      rw [outcome_mk, search]
      rfl
  | @leave n caller others cleared =>
      show outcome spec _ = outcome spec _
      rw [outcome_mk n, search]
      rfl
  | @refuse n name rest outer cleared repeated =>
      show .error _ = outcome spec _
      rw [outcome_mk, search, dif_pos (List.contains_iff_mem.mpr repeated)]
      rfl
  | @pass n name rest outer cleared fresh idle =>
      have offChain := mt List.contains_iff_mem.mp fresh
      have skipped : search spec (n :: outer.map Visit.name) (name :: rest) cleared =
          search spec (n :: outer.map Visit.name) rest cleared := by
        by_cases seen : cleared.contains name
        · rw [search, dif_neg offChain, if_pos seen]
        · have unknown := idle.resolve_left (mt List.contains_iff_mem.mpr seen)
          exact search_of_unknown offChain seen unknown
      show outcome spec _ = outcome spec _
      rw [outcome_mk, outcome_mk, skipped]
  | @enter n name rest outer cleared s fresh unseen found =>
      show outcome spec _ = outcome spec _
      rw [outcome_mk, outcome_mk, List.map_cons, search_of_found (mt List.contains_iff_mem.mp fresh)
        (mt List.contains_iff_mem.mp unseen) found]
      cases search spec (name :: n :: outer.map Visit.name) s.embeds cleared with
      | error e => rfl
      | ok below => rfl

/-! ## How deep it goes -/

/-- No name is visited twice at a time, and each is the root or the name of a struct. -/
structure IsStack (spec : Spec) (root : String) (v : Visits) : Prop where
  distinct : v.chain.Nodup
  known : ∀ n ∈ v.chain, n ∈ insert root spec.structNames

theorem IsStack.length_le {v : Visits} {root : String} (stack : v.IsStack spec root) :
    v.outer.length + 1 ≤ (insert root spec.structNames).card := by
  have inside : v.chain.toFinset ⊆ insert root spec.structNames :=
    fun n visited => stack.known n (List.mem_toFinset.mp visited)
  calc v.outer.length + 1 = v.chain.length := by rw [chain, List.length_cons, List.length_map]
    _ = v.chain.toFinset.card := (List.toFinset_card_of_nodup stack.distinct).symm
    _ ≤ (insert root spec.structNames).card := Finset.card_le_card inside

theorem isStack_start (root : StructType) : (start root).IsStack spec root.name :=
  ⟨List.nodup_singleton _, by simp [start, chain]⟩

theorem holds_isStack {root : String} (v : Visits) (stack : v.IsStack spec root) :
    (v.turn spec).Holds (IsStack spec root) fun _ => True := by
  have step := turns_turn spec v
  generalize v.turn spec = reached at step ⊢
  cases step with
  | finish | refuse => trivial
  | leave => exact ⟨stack.distinct.of_cons, fun n visited => stack.known n (.tail _ visited)⟩
  | pass => exact ⟨stack.distinct, stack.known⟩
  | enter fresh unseen found =>
      refine ⟨List.nodup_cons.mpr ⟨fresh, stack.distinct⟩, ?_⟩
      rw [chain, List.forall_mem_cons]
      exact ⟨Finset.mem_insert_of_mem (Spec.mem_structNames_of_findType? found), stack.known⟩

/-! ## How long it takes -/

/-- How many turns a search may still take before the last one.  Every embedded struct is looked
at in a turn, and every visit but the first is left in a turn. -/
def potential (spec : Spec) (v : Visits) : Nat :=
  ((v.current :: v.outer).flatMap Visit.pending).length + v.outer.length +
    ahead spec.structNames (fun n => spec.embedCount n + 1) (v.chain ++ v.cleared)

theorem potential_start_le (root : StructType) :
    (start root).potential spec ≤
      root.embeds.length + ∑ name ∈ spec.structNames, (spec.embedCount name + 1) := by
  simp only [potential, start, List.flatMap_cons, List.flatMap_nil, List.append_nil,
    List.length_nil, Nat.add_zero]
  exact Nat.add_le_add_left (ahead_le _) _

/-- A turn uses up what it looks at.  What a new visit has to look at is no longer ahead, and a
name that is cleared was passed already when its visit began. -/
theorem potential_lt_of_turn {v next : Visits} (turned : v.turn spec = .going next) :
    next.potential spec < v.potential spec := by
  have step := turns_turn spec v
  rw [turned] at step
  cases step with
  | @leave n caller others cleared =>
      have same : ahead spec.structNames (fun n => spec.embedCount n + 1)
          (chain ⟨caller, others, n :: cleared⟩ ++ n :: cleared) =
          ahead spec.structNames (fun n => spec.embedCount n + 1)
            (chain ⟨⟨n, []⟩, caller :: others, cleared⟩ ++ cleared) := by
        apply ahead_congr
        intro m
        simp only [chain, List.map_cons, List.mem_append, List.mem_cons]
        tauto
      simp only [potential, same, List.flatMap_cons, List.length_append, List.length_cons,
        List.length_nil]
      omega
  | @pass n name rest outer cleared =>
      have same : chain ⟨⟨n, rest⟩, outer, cleared⟩ = chain ⟨⟨n, name :: rest⟩, outer, cleared⟩ := rfl
      simp only [potential, same, List.flatMap_cons, List.length_append, List.length_cons]
      omega
  | @enter n name rest outer cleared s fresh unseen found =>
      have ahead_name := ahead_cons (fun n => spec.embedCount n + 1)
        (Spec.mem_structNames_of_findType? found)
        (mt List.mem_append.mp (not_or.mpr ⟨fresh, unseen⟩))
      rw [Spec.embedCount_eq found] at ahead_name
      simp only [potential, chain, List.map_cons, List.flatMap_cons, List.length_append,
        List.length_cons, List.cons_append] at ahead_name ⊢
      omega

variable (spec) in
/-- The search from a struct after a number of turns. -/
def after (root : StructType) (n : Nat) : Loop Visits (Except Error Unit) :=
  Loop.after (turn spec) n (start root)

/-- However many turns are taken, the visits under way are no more than there are names, with the
name of the root as one of them. -/
theorem holds_after_isStack (root : StructType) (n : Nat) :
    (after spec root n).Holds (IsStack spec root.name) fun _ => True :=
  Loop.holds_after (turn spec) holds_isStack n (isStack_start root)

/-- After as many turns as there are names and embedded structs, and one more, the search has
come to its end. -/
theorem after_eq_ended (root : StructType) {n : Nat}
    (enough : root.embeds.length + ∑ name ∈ spec.structNames, (spec.embedCount name + 1) < n) :
    after spec root n = .ended (spec.checkEmbedding root) := by
  have low := Nat.lt_of_le_of_lt (potential_start_le root) enough
  obtain ⟨result, ended, right⟩ := Loop.exists_ended_holds
    (I := fun v => v.outcome spec = (start root).outcome spec)
    (fun v next => potential_lt_of_turn) (fun v same => same ▸ holds_outcome v) low rfl
  rw [after, ended, show result = _ from right, outcome_start]

end Visits

end Embedding

/-- Both walks over a description end, whatever refers to or embeds what.  The worklist of any
roots synthesizes no struct twice on its way, and comes to its end after at most one turn for
each root and each reference of a definition, and one more.  The search for cycles from any
struct never has more visits waiting than there are names, nor more visits under way at all
if the struct is one of the description; it comes to its end after at most one turn for each embedded
struct and each name, and one more. -/
theorem Spec.traversals_finish (spec : Spec) :
    (∀ (roots : List (String × String)) (n : Nat),
      (Worklist.after spec roots n).Holds (fun w => Worklist.AsksOnce spec w.asked)
          (fun last => Worklist.AsksOnce spec last.1) ∧
        (roots.length + ∑ name ∈ spec.structNames, spec.referenceCount name < n →
          ∃ asked, Worklist.after spec roots n =
            .ended (asked, (spec.definitions roots).outcome))) ∧
    ∀ (root : StructType) (n : Nat),
      (Embedding.Visits.after spec root n).Holds
          (fun v => v.outer.length ≤ spec.structNames.card ∧
            (root.name ∈ spec.structNames → v.outer.length + 1 ≤ spec.structNames.card))
          (fun _ => True) ∧
        (root.embeds.length + ∑ name ∈ spec.structNames, (spec.embedCount name + 1) < n →
          Embedding.Visits.after spec root n = .ended (spec.checkEmbedding root)) := by
  refine ⟨fun roots n => ⟨Worklist.holds_after_asksOnce roots n, Worklist.exists_after_eq_ended roots⟩,
    fun root n => ⟨?_, Embedding.Visits.after_eq_ended root⟩⟩
  refine (Embedding.Visits.holds_after_isStack root n).imp (fun v stack => ?_) fun _ _ => trivial
  have deep := stack.length_le
  refine ⟨?_, fun known => ?_⟩
  · have oneMore := Finset.card_insert_le root.name spec.structNames
    omega
  · rwa [Finset.insert_eq_of_mem known] at deep

end ApiDoc
