/-
# The cycle that a refusal shows

A struct is refused with a chain of embedded structs.  From one struct to the next the chain
takes the first embedded struct that leads to a cycle, and it stops at the first name that
occurs again.  So it is a stem and a loop behind it, and only the loop is a cycle.  The
chain as a whole is one exactly when following first structs leads back to the struct that
is refused; otherwise it starts with structs that are on no cycle it shows.

The chain that generation reports is always that of a struct it looks up.
-/

import ApiDoc.Proofs.ErrorCause
import ApiDoc.Proofs.Reach

namespace ApiDoc

open Relation

universe u

/-! ## Walks -/

/-- A walk along a relation that takes a step and ends where it starts. -/
structure IsClosedWalk {α : Type u} (R : α → α → Prop) (walk : List α) : Prop where
  moves : 2 ≤ walk.length
  linked : walk.IsChain R
  closed : walk.head? = walk.getLast?

theorem transGen_of_isChain {α : Type u} {R : α → α → Prop} {a b : α} {l : List α}
    (linked : (a :: (l ++ [b])).IsChain R) : TransGen R a b := by
  induction l generalizing a with
  | nil => exact TransGen.single (List.isChain_pair.mp linked)
  | cons c rest ih =>
      obtain ⟨step, linked⟩ := List.isChain_cons_cons.mp linked
      exact TransGen.head step (ih linked)

/-- Where a walk has no choice, whoever is met on the way from a place back to itself leads
back there too. -/
theorem reflTransGen_of_returns {α : Type u} {R : α → α → Prop}
    (unique : ∀ a b c, R a b → R a c → b = c) {start a : α} (returns : TransGen R start start)
    (reached : ReflTransGen R start a) : ReflTransGen R a start := by
  induction reached with
  | refl => exact ReflTransGen.refl
  | @tail b c _ step ih =>
      have onward : TransGen R b start := by
        rcases ReflTransGen.cases_head ih with rfl | ⟨d, other, rest⟩
        · exact returns
        · exact TransGen.head' other rest
      obtain ⟨d, other, rest⟩ := TransGen.head'_iff.mp onward
      rwa [unique b c d step other]

/-- Where a walk has no choice, it never leaves a loop. -/
theorem mem_of_reflTransGen_loop {α : Type u} {R : α → α → Prop}
    (unique : ∀ a b c, R a b → R a c → b = c) {start a : α} {between : List α}
    (linked : (start :: (between ++ [start])).IsChain R) (reached : ReflTransGen R start a) :
    a ∈ start :: between := by
  induction reached with
  | refl => exact List.mem_cons_self
  | @tail b c _ step ih =>
      obtain ⟨before, after, split⟩ := List.append_of_mem ih
      have whole : start :: (between ++ [start]) = before ++ b :: (after ++ [start]) := by
        rw [← List.cons_append, split, List.append_assoc, List.cons_append]
      rw [whole] at linked
      have fromB : (b :: (after ++ [start])).IsChain R := linked.right_of_append
      cases after with
      | nil =>
          obtain rfl := unique b c start step (List.isChain_pair.mp fromB)
          exact List.mem_cons_self
      | cons d rest =>
          obtain ⟨other, -⟩ := List.isChain_cons_cons.mp fromB
          rw [split, unique b c d step other]
          simp

/-! ## The first struct that leads to a cycle -/

namespace Spec

open Classical in
/-- The first of some names that leads to a cycle of embedded structs. -/
noncomputable def firstToCycle? (spec : Spec) (names : List String) : Option String :=
  names.find? fun n => spec.LeadsToCycle n

/-- The first struct that a struct embeds and that leads to a cycle. -/
def StepsTo (spec : Spec) (outer inner : String) : Prop :=
  ∃ s, spec.findType? outer = some s ∧ spec.firstToCycle? s.embeds = some inner

variable {spec : Spec} {outer inner name : String} {rest : List String}

theorem firstToCycle?_cons_of_leads (leads : spec.LeadsToCycle name) :
    spec.firstToCycle? (name :: rest) = some name :=
  List.find?_cons_of_pos (by simpa using leads)

theorem firstToCycle?_cons_of_not_leads (clear : ¬ spec.LeadsToCycle name) :
    spec.firstToCycle? (name :: rest) = spec.firstToCycle? rest :=
  List.find?_cons_of_neg (by simpa using clear)

theorem StepsTo.embeds (step : spec.StepsTo outer inner) : spec.Embeds outer inner := by
  obtain ⟨s, found, first⟩ := step
  exact ⟨s, found, List.mem_of_find?_eq_some first⟩

theorem StepsTo.unique {a b c : String} (step : spec.StepsTo a b) (other : spec.StepsTo a c) :
    b = c := by
  obtain ⟨s, found, first⟩ := step
  obtain ⟨t, foundAgain, firstAgain⟩ := other
  obtain rfl : s = t := Option.some.inj (found.symm.trans foundAgain)
  exact Option.some.inj (first.symm.trans firstAgain)

end Spec

namespace Embedding

variable {spec : Spec} {last : String} {chain pending cleared : List String} {e : Error}

/-- When the search behind a name fails, the name leads to a cycle. -/
theorem leadsToCycle_of_search_error
    (failure : search spec (last :: chain) pending cleared = .error e)
    (trail : IsTrail spec (last :: chain)) (edges : ∀ name ∈ pending, spec.Embeds last name) :
    spec.LeadsToCycle last := by
  obtain ⟨final, longer, repeated, longTrail, suffix, edge, onTrail, -⟩ :=
    exists_trail_of_search_error failure trail edges
  have reached : ReflTransGen spec.Embeds last final :=
    longTrail.reaches_last (suffix.subset List.mem_cons_self)
  exact ⟨repeated, reached.tail edge, TransGen.tail' (longTrail.reaches_last onTrail) edge⟩

/-- The chain that a failing search shows takes the first embedded struct that leads to a
cycle at every step.  The search has to come to `pending` without passing over any. -/
theorem follows_of_search_error
    (failure : search spec (last :: chain) pending cleared = .error e)
    (trail : IsTrail spec (last :: chain))
    (follows : (last :: chain).IsChain fun inner outer => spec.StepsTo outer inner)
    (clear : ∀ name ∈ cleared, ¬ spec.LeadsToCycle name) {s : StructType}
    (found : spec.findType? last = some s) (inside : pending ⊆ s.embeds)
    (first : spec.firstToCycle? s.embeds = spec.firstToCycle? pending) :
    ∃ final longer name, IsTrail spec (final :: longer) ∧
      (last :: chain) <:+ (final :: longer) ∧ spec.StepsTo final name ∧
      (final :: longer).IsChain (fun inner outer => spec.StepsTo outer inner) ∧
      name ∈ final :: longer ∧ e = .cyclicEmbedding ((final :: longer).reverse ++ [name]) := by
  generalize whole : last :: chain = start at failure
  fun_induction search spec start pending cleared generalizing last chain s with
  | case1 => cases failure
  | case2 start cleared name rest repeated =>
      subst whole
      obtain rfl := Except.error.inj failure
      -- The name stands on the trail and is embedded by its end, so it is on a cycle itself.
      have onTrail : name ∈ last :: chain := by simpa using repeated
      have leads : spec.LeadsToCycle name := by
        have edge : spec.Embeds last name := ⟨s, found, inside List.mem_cons_self⟩
        exact ⟨name, ReflTransGen.refl, TransGen.tail' (trail.reaches_last onTrail) edge⟩
      rw [Spec.firstToCycle?_cons_of_leads leads] at first
      exact ⟨last, chain, name, trail, List.suffix_refl _, ⟨s, found, first⟩, follows, onTrail, rfl⟩
  -- A name that is passed over leads to no cycle: the first one that does is among the rest.
  | case3 start cleared name rest _ seen ih =>
      have passed := clear name (by simpa using seen)
      rw [Spec.firstToCycle?_cons_of_not_leads passed] at first
      exact ih trail follows clear found (List.cons_subset.mp inside).2 first whole failure
  | case4 start cleared name rest _ _ unknown ih =>
      have passed := Spec.not_leadsToCycle_of_unknown unknown
      rw [Spec.firstToCycle?_cons_of_not_leads passed] at first
      exact ih trail follows clear found (List.cons_subset.mp inside).2 first whole failure
  | case5 start cleared name rest fresh _ t foundName e' failedInside ihInside =>
      subst whole
      obtain rfl := Except.error.inj failure
      have edge : spec.Embeds last name := ⟨s, found, inside List.mem_cons_self⟩
      have extended := trail.extend edge (by simpa using fresh)
      have leads := leadsToCycle_of_search_error failedInside extended
        fun n embedded => ⟨t, foundName, embedded⟩
      rw [Spec.firstToCycle?_cons_of_leads leads] at first
      obtain ⟨final, longer, repeated, finalTrail, suffix, result⟩ :=
        ihInside extended (List.isChain_cons_cons.mpr ⟨⟨s, found, first⟩, follows⟩) clear foundName
          (List.Subset.refl _) rfl rfl failedInside
      exact ⟨final, longer, repeated, finalTrail, (List.suffix_cons name _).trans suffix, result⟩
  | case6 start cleared name rest _ _ t foundName below passedInside _ ih =>
      obtain ⟨embedsClear, belowClear⟩ := not_leadsToCycle_of_search passedInside clear
      have passed : ¬ spec.LeadsToCycle name := by
        rw [Spec.leadsToCycle_iff_exists_embeds]
        rintro ⟨inner, ⟨t', foundAgain, edge⟩, leads⟩
        obtain rfl : t = t' := Option.some.inj (foundName.symm.trans foundAgain)
        exact embedsClear inner edge leads
      rw [Spec.firstToCycle?_cons_of_not_leads passed] at first
      exact ih trail follows (List.forall_mem_cons.mpr ⟨passed, belowClear⟩) found
        (List.cons_subset.mp inside).2 first whole failure

end Embedding

/-! ## Stem and loop -/

namespace Spec

variable {spec : Spec} {root : StructType} {start : String} {chain : List String} {e : Error}

/-- The walk from a name that takes the first embedded struct that leads to a cycle at every
step, up to the first name that occurs again. -/
structure IsFirstLasso (spec : Spec) (start : String) (chain : List String) : Prop
    extends IsLasso spec start chain where
  /-- Every name on the chain steps to the next one. -/
  follows : chain.IsChain spec.StepsTo

/-- A refusal shows the walk of first steps from the struct. -/
theorem isFirstLasso_of_checkEmbedding_error (found : spec.findType? root.name = some root)
    (refused : spec.checkEmbedding root = .error e) :
    ∃ chain, e = .cyclicEmbedding chain ∧ spec.IsFirstLasso root.name chain := by
  have failure : Embedding.search spec [root.name] root.embeds [] = .error e :=
    map_eq_error_iff.mp refused
  obtain ⟨final, longer, name, trail, suffix, step, follows, onTrail, rfl⟩ :=
    Embedding.follows_of_search_error failure (Embedding.IsTrail.single spec root.name)
      (.singleton root.name) (by simp) found (List.Subset.refl _) rfl
  refine ⟨_, rfl, trail.isLasso suffix step.embeds onTrail, ?_⟩
  refine List.IsChain.append (List.isChain_reverse.mpr follows) (.singleton name) ?_
  simpa using step

/-- A walk of first steps is a stem and a loop.  It is closed as a whole exactly when there is
no stem, and this is so exactly when first steps lead from the start back to it. -/
theorem IsFirstLasso.exists_loop (lasso : spec.IsFirstLasso start chain) :
    ∃ stem loop, chain = stem ++ loop ∧ IsClosedWalk spec.Embeds loop ∧
      (IsClosedWalk spec.Embeds chain ↔ stem = []) ∧
      (stem = [] ↔ TransGen spec.StepsTo start start) := by
  obtain ⟨name, inFront, isLast⟩ := lasso.returns
  obtain ⟨stem, between, split⟩ := List.append_of_mem inFront
  have distinct : (stem ++ name :: between).Nodup := split ▸ lasso.distinct
  obtain rfl : chain = stem ++ name :: (between ++ [name]) := by
    rw [← List.dropLast_append_getLast? name isLast, split]
    simp
  have unique : ∀ a b c, spec.StepsTo a b → spec.StepsTo a c → b = c :=
    fun _ _ _ => StepsTo.unique
  have loopFollows : (name :: (between ++ [name])).IsChain spec.StepsTo :=
    lasso.follows.right_of_append
  have loop : IsClosedWalk spec.Embeds (name :: (between ++ [name])) := by
    refine ⟨by simp, lasso.linked.right_of_append, ?_⟩
    rw [← List.cons_append, List.getLast?_concat, List.cons_append, List.head?_cons]
  refine ⟨stem, name :: (between ++ [name]), rfl, loop, ?_, ?_⟩
  · apply Iff.intro
    · intro closed
      cases stem with
      | nil => rfl
      | cons first others =>
          obtain rfl : first = name := Option.some.inj (closed.closed.trans isLast)
          simp at distinct
    · rintro rfl
      exact loop
  -- First steps that lead back to the start also lead back from the loop, and they never
  -- leave it, so the start is on the loop and cannot stand in a stem as well.
  · apply Iff.intro
    · rintro rfl
      obtain rfl : name = start := by simpa using lasso.starts
      exact transGen_of_isChain loopFollows
    · intro returns
      cases stem with
      | nil => rfl
      | cons first others =>
          obtain rfl : first = start := by simpa using lasso.starts
          have stemFollows : (first :: (others ++ [name]) ++ (between ++ [name])).IsChain
              spec.StepsTo := by simpa using lasso.follows
          have back := reflTransGen_of_returns unique returns
            (transGen_of_isChain stemFollows.left_of_append).to_reflTransGen
          have onLoop := mem_of_reflTransGen_loop unique loopFollows back
          rw [List.cons_append, List.nodup_cons] at distinct
          exact absurd (List.mem_append_right others onLoop) distinct.1

end Spec

/-! ## Where cycles are reported -/

/-- A computation that does not report a cycle. -/
def NoCycle {α : Type u} (x : Except Error α) : Prop :=
  ∀ chain, x ≠ .error (.cyclicEmbedding chain)

namespace NoCycle

variable {α β : Type}

theorem ok (a : α) : NoCycle (.ok a) :=
  nofun

theorem map {x : Except Error α} (first : NoCycle x) (change : α → β) : NoCycle (x.map change) :=
  fun chain failed => first chain (map_eq_error_iff.mp failed)

theorem bind {x : Except Error α} {next : α → Except Error β} (first : NoCycle x)
    (second : ∀ a, NoCycle (next a)) : NoCycle (x >>= next) := by
  intro chain failed
  rcases bind_eq_error_iff.mp failed with failed | ⟨a, -, failed⟩
  · exact first chain failed
  · exact second a chain failed

theorem mapM {f : α → Except Error β} (each : ∀ a, NoCycle (f a)) (l : List α) :
    NoCycle (l.mapM f) := by
  intro chain failed
  obtain ⟨a, -, failed⟩ := exists_mem_of_mapM_eq_error failed
  exact each a chain failed

end NoCycle

theorem Member.noCycle_tagged (m : Member) : NoCycle m.tagged := by
  intro chain failed
  obtain ⟨fault, -, other⟩ := exists_fault_of_tagged_error failed
  cases other

namespace Spec

variable (spec : Spec)

theorem noCycle_findEmbedded (name parent : String) : NoCycle (spec.findEmbedded name parent) := by
  intro chain failed
  unfold findEmbedded at failed
  split at failed <;> cases failed

theorem noCycle_fromEmbedded {β : Type} (give : TaggedMember → List β) (name parent : String) :
    NoCycle (spec.fromEmbedded give name parent) :=
  (spec.noCycle_findEmbedded name parent).bind fun inner =>
    (NoCycle.mapM (fun n : Member => n.noCycle_tagged.map give) inner.members).map List.flatten

theorem noCycle_contribution (parent : String) (m : Member) :
    NoCycle (spec.contribution parent m).outcome := by
  cases embeds : m.embedded? with
  | none =>
      rw [outcome_contribution_of_own embeds]
      exact m.noCycle_tagged.map _
  | some name =>
      rw [outcome_contribution_of_embedded embeds]
      exact m.noCycle_tagged.bind fun _ => spec.noCycle_fromEmbedded _ name parent

theorem noCycle_contributions (s : StructType) : NoCycle (spec.contributions s).outcome := by
  rw [contributions, Logged.outcome_bind, Logged.outcome_forEach]
  exact (NoCycle.mapM (spec.noCycle_contribution s.name) s.members).bind fun _ => NoCycle.ok _

theorem noCycle_requestPart (parent : String) (readOnly : Bool) (m : Member) :
    NoCycle (spec.requestPart parent readOnly m).outcome := by
  by_cases own : readOnly = true → m.embedded? = none
  · rw [outcome_requestPart_of_own own]
    exact m.noCycle_tagged.map _
  · rw [Classical.not_imp] at own
    rcases own with ⟨rfl, embeds⟩
    obtain ⟨name, embeds⟩ := Option.ne_none_iff_exists'.mp embeds
    rw [outcome_requestPart_of_embedded embeds]
    exact m.noCycle_tagged.bind fun _ => (spec.noCycle_fromEmbedded _ name parent).map _

/-- Routes never report a cycle: they read the members of a request and look no further. -/
theorem noCycle_operationOf (entry : Group × Route) : NoCycle (spec.operationOf entry) := by
  rw [operationOf, operation, Logged.outcome_bind]
  refine NoCycle.bind ?_ fun _ => NoCycle.ok _
  rw [parametersOf]
  cases named? entry.2.requestType with
  | none => exact NoCycle.ok _
  | some name =>
      dsimp only
      cases spec.findType? name with
      | none =>
          intro chain failed
          cases failed
      | some request =>
          simp only [requestParameters, Logged.outcome_bind, Logged.outcome_forEach]
          exact (NoCycle.mapM (spec.noCycle_requestPart request.name _) request.members).bind
            fun _ => NoCycle.ok _

variable {spec} {chain : List String} {name : String}

/-- A definition that is not there because of a cycle was refused. -/
theorem refused_of_definitionOf {context : String}
    (failed : spec.definitionOf name context = .error (.cyclicEmbedding chain)) :
    ∃ root, spec.findType? root.name = some root ∧
      spec.checkEmbedding root = .error (.cyclicEmbedding chain) := by
  rw [definitionOf] at failed
  cases found : spec.findType? name with
  | none =>
      rw [found] at failed
      cases failed
  | some root =>
      obtain rfl : root.name = name := name_of_findType? found
      simp only [found, synthesize, Logged.outcome_bind, Logged.outcome_ofExcept] at failed
      rcases bind_eq_error_iff.mp failed with refused | ⟨-, -, failed⟩
      · exact ⟨root, found, refused⟩
      · exact absurd failed
          ((spec.noCycle_contributions root).bind (fun _ => NoCycle.ok _) chain)

/-- A cycle that generation reports is one that a struct was refused with. -/
theorem refused_of_document_error
    (failed : spec.document.outcome = .error (.cyclicEmbedding chain)) :
    ∃ root, spec.findType? root.name = some root ∧
      spec.checkEmbedding root = .error (.cyclicEmbedding chain) := by
  rw [document, Logged.outcome_bind] at failed
  rcases bind_eq_error_iff.mp failed with failed | ⟨t, -, failed⟩
  · rw [routeTable, RouteTable.outcome_addAll] at failed
    have built := NoCycle.mapM (fun entry => (spec.noCycle_operationOf entry).map (Prod.mk entry))
    exact absurd failed ((built _).map _ chain)
  · rw [Logged.outcome_bind] at failed
    rcases bind_eq_error_iff.mp failed with failed | ⟨definitions, -, assembled⟩
    · rw [outcome_definitions, map_eq_error_iff] at failed
      obtain ⟨name, -, failed⟩ := exists_mem_of_mapM_eq_error failed
      rw [Definitions.entryOf, map_eq_error_iff] at failed
      exact refused_of_definitionOf failed
    · cases assembled

/-! ## The struct at the start -/

/-- The description in which a struct is the one that its name finds. -/
def rootedAt (spec : Spec) (root : StructType) : Spec :=
  { spec with types := root :: spec.types }

theorem findType?_rootedAt (spec : Spec) (root : StructType) (n : String) :
    (spec.rootedAt root).findType? n = if root.name = n then some root else spec.findType? n := by
  by_cases same : root.name = n
  · rw [if_pos same]
    exact List.find?_cons_of_pos (by simpa using same)
  · rw [if_neg same]
    exact List.find?_cons_of_neg (by simpa using same)

/-- The search never looks up a name on its chain. -/
theorem search_rootedAt {root : StructType} {chain pending cleared : List String}
    (onChain : root.name ∈ chain) :
    Embedding.search (spec.rootedAt root) chain pending cleared =
      Embedding.search spec chain pending cleared := by
  have elsewhere : ∀ {chain : List String} {n : String}, root.name ∈ chain → ¬ chain.contains n →
      (spec.rootedAt root).findType? n = spec.findType? n := by
    intro chain n onChain fresh
    rw [findType?_rootedAt, if_neg]
    rintro rfl
    exact fresh (by simpa using onChain)
  fun_induction Embedding.search spec chain pending cleared with
  | case1 => rw [Embedding.search]
  | case2 chain cleared n rest repeated => rw [Embedding.search, dif_pos repeated]
  | case3 chain cleared n rest fresh seen ih =>
      rw [Embedding.search, dif_neg fresh, if_pos seen, ih onChain]
  | case4 chain cleared n rest fresh unseen unknown ih =>
      have alsoUnknown := (elsewhere onChain fresh).trans unknown
      rw [Embedding.search_of_unknown fresh unseen alsoUnknown, ih onChain]
  | case5 chain cleared n rest fresh unseen s found e refused ihInside =>
      have alsoFound := (elsewhere onChain fresh).trans found
      rw [Embedding.search_of_found fresh unseen alsoFound,
        ihInside (List.mem_cons_of_mem n onChain), refused]
  | case6 chain cleared n rest fresh unseen s found below passed ihInside ih =>
      have alsoFound := (elsewhere onChain fresh).trans found
      rw [Embedding.search_of_found fresh unseen alsoFound,
        ihInside (List.mem_cons_of_mem n onChain), passed]
      exact ih onChain

theorem checkEmbedding_rootedAt (spec : Spec) (root : StructType) :
    (spec.rootedAt root).checkEmbedding root = spec.checkEmbedding root := by
  rw [checkEmbedding, checkEmbedding, search_rootedAt (List.mem_singleton_self _)]

/-- A struct is refused with the walk of first steps from it, which is a stem and a loop.  The
walk is closed exactly when there is no stem, that is, when first steps lead from the struct
back to it.  Here the name of the struct stands for the struct; that changes nothing where
it does so anyway, as for all structs that generation refuses. -/
theorem cyclicEmbedding_closed_iff (spec : Spec) :
    (∀ root e, spec.checkEmbedding root = .error e →
      ∃ stem loop, e = .cyclicEmbedding (stem ++ loop) ∧
        (spec.rootedAt root).IsFirstLasso root.name (stem ++ loop) ∧
        IsClosedWalk (spec.rootedAt root).Embeds loop ∧
        (IsClosedWalk (spec.rootedAt root).Embeds (stem ++ loop) ↔ stem = []) ∧
        (stem = [] ↔ TransGen (spec.rootedAt root).StepsTo root.name root.name)) ∧
    (∀ root, spec.findType? root.name = some root →
      (spec.rootedAt root).findType? = spec.findType?) ∧
    ∀ chain, spec.document.outcome = .error (.cyclicEmbedding chain) →
      ∃ root, spec.findType? root.name = some root ∧
        spec.checkEmbedding root = .error (.cyclicEmbedding chain) := by
  refine ⟨fun root e refused => ?_, fun root found => ?_, fun chain => refused_of_document_error⟩
  · have found : (spec.rootedAt root).findType? root.name = some root := by
      rw [findType?_rootedAt, if_pos rfl]
    rw [← checkEmbedding_rootedAt] at refused
    obtain ⟨chain, rfl, lasso⟩ := isFirstLasso_of_checkEmbedding_error found refused
    obtain ⟨stem, loop, rfl, closed⟩ := lasso.exists_loop
    exact ⟨stem, loop, rfl, lasso, closed⟩
  · funext n
    rw [findType?_rootedAt]
    split
    · next same => rw [← same, found]
    · rfl

/-- The refused struct is on no cycle: the walk from it has a stem. -/
theorem flawed_order_stem :
    ∃ root stem loop, flawed.findType? "Order" = some root ∧
      flawed.checkEmbedding root = .error (.cyclicEmbedding ["Order", "Item", "Item"]) ∧
      stem ++ loop = ["Order", "Item", "Item"] ∧ stem ≠ [] ∧
      IsClosedWalk (flawed.rootedAt root).Embeds loop ∧
      ¬ TransGen (flawed.rootedAt root).StepsTo "Order" "Order" := by
  let root : StructType := { name := "Order", members := [.embedding "Item"] }
  have refused : flawed.checkEmbedding root =
      .error (.cyclicEmbedding ["Order", "Item", "Item"]) := by cbv
  obtain ⟨stem, loop, shown, -, isLoop, closed, returns⟩ :=
    (cyclicEmbedding_closed_iff flawed).1 root _ refused
  have whole : ["Order", "Item", "Item"] = stem ++ loop := Error.cyclicEmbedding.inj shown
  have hasStem : stem ≠ [] := by
    intro none
    have ends := (closed.mpr none).closed
    rw [← whole] at ends
    exact absurd ends (by decide)
  exact ⟨root, stem, loop, rfl, refused, whole.symm, hasStem, isLoop, mt returns.mpr hasStem⟩

/-- Generation refuses a struct with a chain that does not come back to it, so the chain is no
closed walk, whatever its steps are. -/
theorem flawed_chain_not_closed :
    ∃ root, flawed.findType? "Order" = some root ∧
      flawed.checkEmbedding root = .error (.cyclicEmbedding ["Order", "Item", "Item"]) ∧
      flawed.document.outcome = .error (.cyclicEmbedding ["Order", "Item", "Item"]) ∧
      ∀ R, ¬ IsClosedWalk R ["Order", "Item", "Item"] := by
  refine ⟨{ name := "Order", members := [.embedding "Item"] }, rfl, by cbv, by cbv, ?_⟩
  exact fun R walk => absurd walk.closed (by decide)

end Spec

end ApiDoc
