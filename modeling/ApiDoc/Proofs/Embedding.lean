/-
# The search for cycles of embedded structs

Embedding is a relation between names: a name that a struct has embeds what that
struct embeds, and a name that no struct has embeds nothing.  The depth-first
search of `Embedding.search` prunes structs that it has searched before, so the
question is whether it still finds every cycle.  It does: a name leads to a cycle
exactly when something it embeds does, and the search only clears a name once
everything it embeds is cleared.  In the other direction, the chain that the
search keeps is a path of the relation, so what it refuses is a cycle indeed.
-/

import ApiDoc.Generate.Embedding
import Mathlib.Data.List.Chain
import Mathlib.Data.List.Nodup
import Mathlib.Logic.Relation

namespace ApiDoc

open Relation

/-- The struct with the name `outer` embeds the name `inner`. -/
def Spec.Embeds (spec : Spec) (outer inner : String) : Prop :=
  ∃ s, spec.findType? outer = some s ∧ inner ∈ s.embeds

/-- Chains of embedded structs lead from a name to one that embeds itself along
a chain. -/
def Spec.LeadsToCycle (spec : Spec) (name : String) : Prop :=
  ∃ repeated, ReflTransGen spec.Embeds name repeated ∧
    TransGen spec.Embeds repeated repeated

/-- A name leads to a cycle exactly when something it embeds does: the cycle may
pass through the name itself, but then it goes on through what the name embeds. -/
theorem Spec.leadsToCycle_iff_exists_embeds {spec : Spec} {name : String} :
    spec.LeadsToCycle name ↔ ∃ inner, spec.Embeds name inner ∧ spec.LeadsToCycle inner := by
  apply Iff.intro
  · intro leads
    rcases leads with ⟨repeated, path, cycle⟩
    rcases ReflTransGen.cases_head path with rfl | ⟨inner, edge, rest⟩
    · obtain ⟨inner, edge, back⟩ := TransGen.head'_iff.mp cycle
      exact ⟨inner, edge, name, back, cycle⟩
    · exact ⟨inner, edge, repeated, rest, cycle⟩
  · intro leads
    rcases leads with ⟨inner, edge, repeated, path, cycle⟩
    exact ⟨repeated, ReflTransGen.head edge path, cycle⟩

/-- A name that no struct has leads nowhere. -/
theorem Spec.not_leadsToCycle_of_unknown {spec : Spec} {name : String}
    (unknown : spec.findType? name = none) : ¬ spec.LeadsToCycle name := by
  rw [Spec.leadsToCycle_iff_exists_embeds]
  intro leads
  rcases leads with ⟨inner, ⟨s, found, -⟩, -⟩
  rw [unknown] at found
  cases found

namespace Embedding

/-! ## What the search clears -/

/-- When a search succeeds, neither the names it was asked to search nor those it
returns lead to a cycle, provided the names cleared before did not. -/
theorem not_leadsToCycle_of_search {spec : Spec} {chain pending cleared result : List String}
    (success : search spec chain pending cleared = .ok result)
    (clear : ∀ name ∈ cleared, ¬ spec.LeadsToCycle name) :
    (∀ name ∈ pending, ¬ spec.LeadsToCycle name) ∧
      ∀ name ∈ result, ¬ spec.LeadsToCycle name := by
  fun_induction search spec chain pending cleared generalizing result with
  | case1 chain cleared =>
      obtain rfl := Except.ok.inj success
      exact ⟨by simp, clear⟩
  | case2 => cases success
  | case3 chain cleared name rest _ seen ih =>
      obtain ⟨restClear, resultClear⟩ := ih success clear
      have nameClear : ¬ spec.LeadsToCycle name := clear name (by simpa using seen)
      exact ⟨List.forall_mem_cons.mpr ⟨nameClear, restClear⟩, resultClear⟩
  | case4 chain cleared name rest _ _ unknown ih =>
      obtain ⟨restClear, resultClear⟩ := ih success clear
      have nameClear := Spec.not_leadsToCycle_of_unknown unknown
      exact ⟨List.forall_mem_cons.mpr ⟨nameClear, restClear⟩, resultClear⟩
  | case5 => cases success
  | case6 chain cleared name rest _ _ s found below inside ihInside ih =>
      obtain ⟨embedsClear, belowClear⟩ := ihInside inside clear
      have nameClear : ¬ spec.LeadsToCycle name := by
        rw [Spec.leadsToCycle_iff_exists_embeds]
        intro leads
        rcases leads with ⟨inner, ⟨t, foundAgain, edge⟩, leads⟩
        obtain rfl : s = t := Option.some.inj (found.symm.trans foundAgain)
        exact embedsClear inner edge leads
      obtain ⟨restClear, resultClear⟩ :=
        ih success (List.forall_mem_cons.mpr ⟨nameClear, belowClear⟩)
      exact ⟨List.forall_mem_cons.mpr ⟨nameClear, restClear⟩, resultClear⟩

/-! ## What the search refuses -/

/-- A chain as the search keeps it, last name in front: every name but the first
of the chain is embedded by the one before it, and no name occurs twice. -/
structure IsTrail (spec : Spec) (chain : List String) : Prop where
  /-- Neighbours on the chain embed one another. -/
  linked : chain.IsChain fun inner outer => spec.Embeds outer inner
  /-- No name occurs twice. -/
  distinct : chain.Nodup

/-- A chain of one name. -/
theorem IsTrail.single (spec : Spec) (name : String) : IsTrail spec [name] :=
  ⟨.singleton name, List.nodup_singleton name⟩

/-- A chain goes on with a new name that its last name embeds. -/
theorem IsTrail.extend {spec : Spec} {last name : String} {chain : List String}
    (trail : IsTrail spec (last :: chain)) (edge : spec.Embeds last name)
    (fresh : name ∉ last :: chain) : IsTrail spec (name :: last :: chain) :=
  ⟨List.isChain_cons_cons.mpr ⟨edge, trail.linked⟩, List.nodup_cons.mpr ⟨fresh, trail.distinct⟩⟩

/-- Every name on a chain leads to its last name. -/
theorem IsTrail.reaches_last {spec : Spec} {last name : String} {chain : List String}
    (trail : IsTrail spec (last :: chain)) (onChain : name ∈ last :: chain) :
    ReflTransGen spec.Embeds name last := by
  rcases trail with ⟨linked, -⟩
  induction chain generalizing last with
  | nil =>
      obtain rfl := List.mem_singleton.mp onChain
      exact ReflTransGen.refl
  | cons outer rest ih =>
      obtain ⟨edge, linked⟩ := List.isChain_cons_cons.mp linked
      rcases List.mem_cons.mp onChain with rfl | onRest
      · exact ReflTransGen.refl
      · exact (ih onRest linked).tail edge

/-- A search that fails does so at the end of a chain that continues the one it
started with, and the last name of that chain embeds a name on it. -/
theorem exists_trail_of_search_error {spec : Spec} {last : String}
    {chain pending cleared : List String} {e : Error}
    (failure : search spec (last :: chain) pending cleared = .error e)
    (trail : IsTrail spec (last :: chain)) (edges : ∀ name ∈ pending, spec.Embeds last name) :
    ∃ final longer name, IsTrail spec (final :: longer) ∧
      (last :: chain) <:+ (final :: longer) ∧ spec.Embeds final name ∧
      name ∈ final :: longer ∧
      e = .cyclicEmbedding ((final :: longer).reverse ++ [name]) := by
  generalize whole : last :: chain = start at failure
  fun_induction search spec start pending cleared generalizing last chain with
  | case1 => cases failure
  | case2 start cleared name rest repeated =>
      subst whole
      obtain rfl := Except.error.inj failure
      exact ⟨last, chain, name, trail, List.suffix_refl _, edges name List.mem_cons_self,
        by simpa using repeated, rfl⟩
  | case3 start cleared name rest _ _ ih =>
      exact ih trail (fun n inRest => edges n (List.mem_cons_of_mem _ inRest)) whole failure
  | case4 start cleared name rest _ _ _ ih =>
      exact ih trail (fun n inRest => edges n (List.mem_cons_of_mem _ inRest)) whole failure
  | case5 start cleared name rest fresh _ s found e' inside ihInside =>
      subst whole
      obtain rfl := Except.error.inj failure
      have extended := trail.extend (edges name List.mem_cons_self) (by simpa using fresh)
      obtain ⟨final, longer, repeated, finalTrail, suffix, edge, onTrail, result⟩ :=
        ihInside extended (fun n embedded => ⟨s, found, embedded⟩) rfl inside
      exact ⟨final, longer, repeated, finalTrail,
        (List.suffix_cons name _).trans suffix, edge, onTrail, result⟩
  | case6 start cleared name rest _ _ s found below inside _ ih =>
      exact ih trail (fun n inRest => edges n (List.mem_cons_of_mem _ inRest)) whole failure

end Embedding

/-- A check that fails does so at the end of a chain that starts with the struct, and
the last name of that chain embeds a name on it. -/
theorem Spec.exists_trail_of_checkEmbedding_error {spec : Spec} {root : StructType} {e : Error}
    (found : spec.findType? root.name = some root) (refused : spec.checkEmbedding root = .error e) :
    ∃ final longer name, Embedding.IsTrail spec (final :: longer) ∧
      [root.name] <:+ (final :: longer) ∧ spec.Embeds final name ∧ name ∈ final :: longer ∧
      e = .cyclicEmbedding ((final :: longer).reverse ++ [name]) := by
  have edges : ∀ inner ∈ root.embeds, spec.Embeds root.name inner :=
    fun inner embedded => ⟨root, found, embedded⟩
  have failure : Embedding.search spec [root.name] root.embeds [] = .error e := by
    rw [Spec.checkEmbedding] at refused
    cases run : Embedding.search spec [root.name] root.embeds [] with
    | ok result =>
        rw [run] at refused
        cases refused
    | error e' =>
        rw [run] at refused
        exact congrArg Except.error (Except.error.inj refused)
  exact Embedding.exists_trail_of_search_error failure (Embedding.IsTrail.single spec root.name)
    edges

/-- The check of a struct succeeds exactly when no chain of embedded structs leads
from it to a cycle. -/
theorem Spec.checkEmbedding_eq_ok_iff {spec : Spec} {root : StructType}
    (found : spec.findType? root.name = some root) :
    spec.checkEmbedding root = .ok () ↔ ¬ spec.LeadsToCycle root.name := by
  cases run : spec.checkEmbedding root with
  | ok _ =>
      refine ⟨fun _ => ?_, fun _ => rfl⟩
      rw [Spec.checkEmbedding] at run
      cases searched : Embedding.search spec [root.name] root.embeds [] with
      | error e =>
          rw [searched] at run
          cases run
      | ok result =>
          obtain ⟨embedsClear, -⟩ := Embedding.not_leadsToCycle_of_search searched (by simp)
          rw [Spec.leadsToCycle_iff_exists_embeds]
          intro leads
          rcases leads with ⟨inner, ⟨s, foundAgain, embedded⟩, leads⟩
          obtain rfl : root = s := Option.some.inj (found.symm.trans foundAgain)
          exact embedsClear inner embedded leads
  | error e =>
      obtain ⟨final, longer, repeated, trail, suffix, edge, onTrail, -⟩ :=
        Spec.exists_trail_of_checkEmbedding_error found run
      have fromRoot : ReflTransGen spec.Embeds root.name final :=
        trail.reaches_last (suffix.subset (List.mem_singleton_self _))
      have cycle : TransGen spec.Embeds repeated repeated :=
        TransGen.tail' (trail.reaches_last onTrail) edge
      refine ⟨nofun, fun acyclic => ?_⟩
      exact absurd ⟨repeated, fromRoot.tail edge, cycle⟩ acyclic

/-! ## What a refusal shows -/

/-- A chain of embedded structs that runs from a name into a cycle and stops as soon
as it does. -/
structure Spec.IsLasso (spec : Spec) (root : String) (chain : List String) : Prop where
  /-- The chain starts with the name. -/
  starts : chain.head? = some root
  /-- Every name on the chain embeds the next one. -/
  linked : chain.IsChain spec.Embeds
  /-- No name occurs twice in front of the last one. -/
  distinct : chain.dropLast.Nodup
  /-- The last name occurs in front of itself. -/
  returns : ∃ name ∈ chain.dropLast, chain.getLast? = some name

/-- A trail whose last name embeds a name on it, read in the order of embedding, is a
chain into a cycle. -/
theorem Embedding.IsTrail.isLasso {spec : Spec} {root final name : String} {longer : List String}
    (trail : IsTrail spec (final :: longer)) (suffix : [root] <:+ (final :: longer))
    (edge : spec.Embeds final name) (onTrail : name ∈ final :: longer) :
    spec.IsLasso root ((final :: longer).reverse ++ [name]) := by
  have front : ((final :: longer).reverse ++ [name]).dropLast = (final :: longer).reverse :=
    List.dropLast_concat
  apply Spec.IsLasso.mk
  case starts =>
    rcases suffix with ⟨before, whole⟩
    rw [← whole, List.reverse_append]
    rfl
  case linked =>
    refine List.IsChain.append (List.isChain_reverse.mpr trail.linked) (.singleton name) ?_
    intro outer isLast inner isFirst
    rw [List.getLast?_reverse, List.head?_cons, Option.mem_some_iff] at isLast
    rw [List.head?_cons, Option.mem_some_iff] at isFirst
    rw [← isLast, ← isFirst]
    exact edge
  case distinct =>
    rw [front]
    exact List.nodup_reverse.mpr trail.distinct
  case returns =>
    rw [front]
    exact ⟨name, List.mem_reverse.mpr onTrail, List.getLast?_concat⟩

/-- The check passes a struct exactly when no chain of embedded structs leads from it to
a cycle, and when it refuses one it shows a chain that does. -/
theorem Spec.checkEmbedding_decides {spec : Spec} {name : String} {root : StructType}
    (found : spec.findType? name = some root) :
    (spec.checkEmbedding root = .ok () ↔ ¬ spec.LeadsToCycle name) ∧
      ∀ e, spec.checkEmbedding root = .error e →
        ∃ chain, e = .cyclicEmbedding chain ∧ spec.IsLasso name chain := by
  obtain rfl : root.name = name := name_of_findType? found
  refine ⟨checkEmbedding_eq_ok_iff found, fun e refused => ?_⟩
  obtain ⟨final, longer, repeated, trail, suffix, edge, onTrail, rfl⟩ :=
    exists_trail_of_checkEmbedding_error found refused
  exact ⟨_, rfl, trail.isLasso suffix edge onTrail⟩

/-- A description in which `Outer` embeds two structs that share a third, and the second
of them leads to a cycle that does not come back to `Outer`. -/
def Spec.sharing : Spec :=
  { service := { name := "sharing" }
    types :=
      [{ name := "Outer", members := [.embedding "First", .embedding "Second"] },
        { name := "First", members := [.embedding "Shared"] },
        { name := "Second", members := [.embedding "Shared", .embedding "Third"] },
        { name := "Third", members := [.embedding "Second"] },
        { name := "Shared" }] }

/-- The check refuses `Outer` and names the chain into the cycle. -/
theorem Spec.sharing_outer_refused :
    ∃ root, sharing.findType? "Outer" = some root ∧
      sharing.checkEmbedding root = .error (.cyclicEmbedding ["Outer", "Second", "Third", "Second"]) ∧
      sharing.LeadsToCycle "Outer" ∧
      sharing.IsLasso "Outer" ["Outer", "Second", "Third", "Second"] := by
  let root : StructType := { name := "Outer", members := [.embedding "First", .embedding "Second"] }
  have found : sharing.findType? "Outer" = some root := rfl
  have refused : sharing.checkEmbedding root =
      .error (.cyclicEmbedding ["Outer", "Second", "Third", "Second"]) := by cbv
  obtain ⟨decides, shows⟩ := checkEmbedding_decides found
  have leads : sharing.LeadsToCycle "Outer" := by
    by_contra acyclic
    rw [decides.mpr acyclic] at refused
    cases refused
  obtain ⟨chain, same, lasso⟩ := shows _ refused
  obtain rfl := Error.cyclicEmbedding.inj same
  exact ⟨root, found, refused, leads, lasso⟩

end ApiDoc
