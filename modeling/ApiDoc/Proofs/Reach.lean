/-
# Generation only looks at the structs it can reach

A name is reached when a route names it or when it occurs in a member of a struct that is
reached, wherever in the type it stands.  Every part of generation looks up reached names
only: routes, definitions, and the search for cycles, which walks further than the rest.
So two descriptions that agree on the reached names have the same document or the same
error, and the same events on the way.

The parts are compared from an arbitrary set of names that is closed under what its structs
mention.  The reached names are the smallest such set that the routes allow.
-/

import ApiDoc.Generate.Document
import ApiDoc.Proofs.RouteTable
import ApiDoc.Proofs.Success
import Mathlib.Data.List.Find

namespace ApiDoc

/-! ## The structs that a type mentions -/

/-- The structs that occur in a type, in keys and values of maps too. -/
def TypeExpr.mentions : TypeExpr → List String
  | pointer target => target.mentions
  | array element => element.mentions
  | map key value => key.mentions ++ value.mentions
  | reference name => [name]
  | scalar _ => []
  | dynamic => []

/-- All structs that the members of a struct mention have a property. -/
def StructType.MentionsOnly (s : StructType) (P : String → Prop) : Prop :=
  ∀ m ∈ s.members, ∀ n ∈ m.type.mentions, P n

theorem TypeExpr.mem_mentions_of_target? {t : TypeExpr} {n : String} (behind : t.target? = some n) :
    n ∈ t.mentions := by
  induction t with
  | pointer target ih => exact ih behind
  | array element ih => exact ih behind
  | reference name =>
      obtain rfl := Option.some.inj behind
      exact List.mem_singleton_self _
  | scalar name => cases behind
  | map key value => cases behind
  | dynamic => cases behind

theorem TypeExpr.target?_of_structName? {t : TypeExpr} {n : String}
    (denotes : t.structName? = some n) : t.target? = some n := by
  induction t with
  | pointer target ih => exact ih denotes
  | reference name => exact denotes
  | array element => cases denotes
  | scalar name => cases denotes
  | map key value => cases denotes
  | dynamic => cases denotes

theorem Member.mem_mentions_of_embedded? {m : Member} {n : String}
    (embeds : m.embedded? = some n) : n ∈ m.type.mentions := by
  rw [embedded?, if_pos (Member.isInline_of_embedded embeds)] at embeds
  exact TypeExpr.mem_mentions_of_target? (TypeExpr.target?_of_structName? embeds)

theorem StructType.MentionsOnly.embeds {s : StructType} {P : String → Prop}
    (only : s.MentionsOnly P) : ∀ n ∈ s.embeds, P n := by
  intro n embedded
  obtain ⟨m, member, embeds⟩ := List.mem_filterMap.mp embedded
  exact only m member n (Member.mem_mentions_of_embedded? embeds)

/-! ## Sequences of computations -/

namespace Logged

variable {α β : Type}

/-- How a computation goes on only matters for the value that it has. -/
theorem bind_congr_of_ok {first : Logged α} {next next' : α → Logged β}
    (same : ∀ a, first.outcome = .ok a → next a = next' a) : first >>= next = first >>= next' := by
  show andThen first next = andThen first next'
  unfold andThen
  cases value : first.outcome with
  | error e => rfl
  | ok a => simp only [same a value]

theorem forEach_congr {f g : α → Logged β} {l : List α} (same : ∀ a ∈ l, f a = g a) :
    forEach f l = forEach g l := by
  induction l with
  | nil => rfl
  | cons a rest ih =>
      obtain ⟨first, others⟩ := List.forall_mem_cons.mp same
      rw [forEach, forEach, first, ih others]

end Logged

/-! ## The two places that look up names in a list -/

theorem Embedding.search_of_unknown {spec : Spec} {chain rest cleared : List String} {name : String}
    (fresh : ¬ chain.contains name) (unseen : ¬ cleared.contains name)
    (unknown : spec.findType? name = none) :
    search spec chain (name :: rest) cleared = search spec chain rest cleared := by
  rw [search, dif_neg fresh, if_neg unseen]
  split
  · rfl
  next s found =>
    rw [unknown] at found
    cases found

theorem Embedding.search_of_found {spec : Spec} {chain rest cleared : List String} {name : String}
    {s : StructType} (fresh : ¬ chain.contains name) (unseen : ¬ cleared.contains name)
    (found : spec.findType? name = some s) :
    search spec chain (name :: rest) cleared =
      match search spec (name :: chain) s.embeds cleared with
      | .error e => .error e
      | .ok below => search spec chain rest (name :: below) := by
  rw [search, dif_neg fresh, if_neg unseen]
  split
  next unknown =>
    rw [found] at unknown
    cases unknown
  next s' found' =>
    obtain rfl : s = s' := Option.some.inj (found.symm.trans found')
    rfl

theorem Definitions.close_of_unknown {spec : Spec} {done : Table Schema} {name context : String}
    {rest : List (String × String)} (undefined : ¬ (done.get? name).isSome)
    (unknown : spec.findType? name = none) :
    close spec done ((name, context) :: rest) = throw (.unresolvedReference name context) := by
  rw [close, dif_neg undefined]
  split
  · rfl
  next s found =>
    rw [unknown] at found
    cases found

theorem Definitions.close_of_found {spec : Spec} {done : Table Schema} {name context : String}
    {rest : List (String × String)} {s : StructType} (undefined : ¬ (done.get? name).isSome)
    (found : spec.findType? name = some s) :
    close spec done ((name, context) :: rest) = (do
      let schema ← spec.synthesize s
      Logged.report [.definitionSynthesized name]
      close spec (done.insert name schema) (rest ++ added done name schema)) := by
  rw [close, dif_neg undefined]
  split
  next unknown =>
    rw [found] at unknown
    cases unknown
  next s' found' =>
    obtain rfl : s = s' := Option.some.inj (found.symm.trans found')
    rfl

namespace Spec

/-- Two descriptions that look the same from a set of names: they have the same structs for
these names, and the structs mention no other names. -/
structure AgreeOn (spec other : Spec) (P : String → Prop) : Prop where
  same : ∀ n, P n → other.findType? n = spec.findType? n
  closed : ∀ n s, P n → spec.findType? n = some s → s.MentionsOnly P

namespace AgreeOn

variable {spec other : Spec} {P : String → Prop} {s : StructType} {m : Member}
  {name parent : String}

/-! ## Definitions -/

theorem findEmbedded_eq (agree : spec.AgreeOn other P) (inside : P name) (parent : String) :
    other.findEmbedded name parent = spec.findEmbedded name parent := by
  rw [findEmbedded, findEmbedded, agree.same name inside]

/-- The search for cycles follows embedded structs, which are all in the set. -/
theorem search_eq (agree : spec.AgreeOn other P) {chain pending cleared : List String}
    (inside : ∀ n ∈ pending, P n) :
    Embedding.search other chain pending cleared = Embedding.search spec chain pending cleared := by
  fun_induction Embedding.search spec chain pending cleared with
  | case1 => rw [Embedding.search]
  | case2 chain cleared name rest repeated =>
      rw [Embedding.search, dif_pos repeated]
  | case3 chain cleared name rest fresh seen ih =>
      obtain ⟨-, others⟩ := List.forall_mem_cons.mp inside
      rw [Embedding.search, dif_neg fresh, if_pos seen, ih others]
  | case4 chain cleared name rest fresh unseen unknown ih =>
      obtain ⟨first, others⟩ := List.forall_mem_cons.mp inside
      have alsoUnknown := (agree.same name first).trans unknown
      rw [Embedding.search_of_unknown fresh unseen alsoUnknown, ih others]
  | case5 chain cleared name rest fresh unseen s found e refused ihInside =>
      obtain ⟨first, -⟩ := List.forall_mem_cons.mp inside
      have alsoFound := (agree.same name first).trans found
      have embeds := (agree.closed name s first found).embeds
      rw [Embedding.search_of_found fresh unseen alsoFound, ihInside embeds, refused]
  | case6 chain cleared name rest fresh unseen s found below passed ihInside ih =>
      obtain ⟨first, others⟩ := List.forall_mem_cons.mp inside
      have alsoFound := (agree.same name first).trans found
      have embeds := (agree.closed name s first found).embeds
      rw [Embedding.search_of_found fresh unseen alsoFound, ihInside embeds, passed]
      exact ih others

theorem checkEmbedding_eq (agree : spec.AgreeOn other P) (only : s.MentionsOnly P) :
    other.checkEmbedding s = spec.checkEmbedding s := by
  rw [checkEmbedding, checkEmbedding, agree.search_eq only.embeds]

theorem contribution_eq (agree : spec.AgreeOn other P) (only : ∀ n ∈ m.type.mentions, P n)
    (parent : String) : other.contribution parent m = spec.contribution parent m := by
  rw [contribution, contribution]
  cases embeds : m.embedded? with
  | none => rfl
  | some name =>
      simp only [agree.findEmbedded_eq (only name (Member.mem_mentions_of_embedded? embeds))]

/-- A struct whose mentions are in the set has the same definition, or the same error. -/
theorem synthesize_eq (agree : spec.AgreeOn other P) (only : s.MentionsOnly P) :
    other.synthesize s = spec.synthesize s := by
  have contributions : other.contributions s = spec.contributions s := by
    rw [Spec.contributions, Spec.contributions,
      Logged.forEach_congr fun m member => agree.contribution_eq (only m member) s.name]
  rw [synthesize, synthesize, agree.checkEmbedding_eq only, contributions]

/-- What a definition refers to is in the set. -/
theorem references_of_synthesize (agree : spec.AgreeOn other P) (only : s.MentionsOnly P)
    {schema : Schema} (made : (spec.synthesize s).outcome = .ok schema) :
    ∀ n ∈ schema.references, P n := by
  intro n refers
  obtain ⟨-, members, contributed, rfl⟩ := synthesize_eq_ok_iff.mp made
  obtain ⟨m, ⟨before, after, rfl, -⟩, points⟩ := StructType.mem_references_definition_iff.mp refers
  have mentioned := TypeExpr.mem_mentions_of_target? points
  have listed : m ∈ before ++ m :: after := by simp
  rcases member_of_mem_contributions contributed listed with
    own | ⟨k, member, name, inner, embeds, found, innerMember⟩
  · exact only m.member own n mentioned
  · have inside : P name := only k member name (Member.mem_mentions_of_embedded? embeds)
    exact agree.closed name inner inside found m.member innerMember n mentioned

/-- The queue of definitions only ever holds names in the set. -/
theorem close_eq (agree : spec.AgreeOn other P) {done : Table Schema}
    {queue : List (String × String)} (inside : ∀ entry ∈ queue, P entry.1) :
    Definitions.close other done queue = Definitions.close spec done queue := by
  fun_induction Definitions.close spec done queue with
  | case1 done => rw [Definitions.close]
  | case2 done name context rest defined ih =>
      obtain ⟨-, others⟩ := List.forall_mem_cons.mp inside
      rw [Definitions.close, dif_pos defined, ih others]
  | case3 done name context rest undefined unknown =>
      obtain ⟨first, -⟩ := List.forall_mem_cons.mp inside
      have alsoUnknown := (agree.same name first).trans unknown
      rw [Definitions.close_of_unknown undefined alsoUnknown]
  | case4 done name context rest undefined s found ih =>
      obtain ⟨first, others⟩ := List.forall_mem_cons.mp inside
      have alsoFound := (agree.same name first).trans found
      have only := agree.closed name s first found
      rw [Definitions.close_of_found undefined alsoFound, agree.synthesize_eq only]
      refine Logged.bind_congr_of_ok fun schema made => Logged.bind_congr_of_ok fun _ _ => ?_
      refine ih schema (List.forall_mem_append.mpr ⟨others, fun entry added => ?_⟩)
      obtain ⟨r, reference, rfl⟩ := List.mem_map.mp added
      exact agree.references_of_synthesize only made r (List.mem_filter.mp reference).1

/-! ## Routes -/

theorem requestPart_eq (agree : spec.AgreeOn other P) (only : ∀ n ∈ m.type.mentions, P n)
    (parent : String) (readOnly : Bool) :
    other.requestPart parent readOnly m = spec.requestPart parent readOnly m := by
  have queries : ∀ name, m.embedded? = some name →
      other.embeddedQueries name parent = spec.embeddedQueries name parent := by
    intro name embeds
    rw [embeddedQueries, embeddedQueries,
      agree.findEmbedded_eq (only name (Member.mem_mentions_of_embedded? embeds))]
  rw [requestPart, requestPart]
  cases embeds : m.embedded? with
  | none => rfl
  | some name => simp only [queries name embeds]

theorem parametersOf_eq (agree : spec.AgreeOn other P) {r : Route} (named : ∀ n ∈ r.typeNames, P n) :
    other.parametersOf r = spec.parametersOf r := by
  rw [parametersOf, parametersOf]
  cases request : named? r.requestType with
  | none => rfl
  | some name =>
      have inside : P name := named name (by simp [Route.typeNames, request])
      simp only [agree.same name inside]
      cases found : spec.findType? name with
      | none => rfl
      | some s =>
          have only := agree.closed name s inside found
          simp only [requestParameters]
          rw [Logged.forEach_congr fun m member =>
            agree.requestPart_eq (only m member) s.name (isReadOnly r.method)]

theorem operation_eq (agree : spec.AgreeOn other P) (sameName : other.service.name = spec.service.name)
    (g : Group) {r : Route} (named : ∀ n ∈ r.typeNames, P n) (tokens : List String) :
    other.operation g r tokens = spec.operation g r tokens := by
  rw [operation, operation, agree.parametersOf_eq named, sameName]

/-- A route whose method is none of the five is skipped, whatever it names. -/
theorem add_eq (agree : spec.AgreeOn other P) (sameName : other.service.name = spec.service.name)
    (t : RouteTable) (g : Group) {r : Route} (named : r.isSupported → ∀ n ∈ r.typeNames, P n) :
    t.add other g r = t.add spec g r := by
  rw [RouteTable.add, RouteTable.add]
  cases read : Method.read? r.method with
  | none => rfl
  | some method =>
      have supported := Route.isSupported_iff.mpr ⟨method, read⟩
      simp only [agree.operation_eq sameName g (named supported)]

theorem addAll_eq (agree : spec.AgreeOn other P) (sameName : other.service.name = spec.service.name)
    {routes : List (Group × Route)}
    (named : ∀ entry ∈ routes, entry.2.isSupported → ∀ n ∈ entry.2.typeNames, P n)
    (t : RouteTable) : RouteTable.addAll other t routes = RouteTable.addAll spec t routes := by
  induction routes generalizing t with
  | nil => rfl
  | cons entry rest ih =>
      obtain ⟨first, others⟩ := List.forall_mem_cons.mp named
      simp only [RouteTable.addAll, agree.add_eq sameName t entry.1 first, ih others]

/-- Everything that routes name is in the set, so the whole document is the same. -/
theorem document_eq (agree : spec.AgreeOn other P) (sameInfo : other.info = spec.info)
    (sameService : other.service = spec.service)
    (named : ∀ entry ∈ spec.supportedRoutes, ∀ n ∈ entry.2.typeNames, P n) :
    other.document = spec.document := by
  have sameRoutes : other.routes = spec.routes := by
    rw [routes, routes, sameService]
  have sameTable : other.routeTable = spec.routeTable := by
    rw [routeTable, routeTable, sameRoutes]
    refine agree.addAll_eq (congrArg Service.name sameService) (fun entry listed supported => ?_) {}
    exact named entry (List.mem_filter.mpr ⟨listed, supported⟩)
  have assembled : ∀ t definitions, other.assemble t definitions = spec.assemble t definitions := by
    have sameValues : other.infoValue? = spec.infoValue? := by
      funext key
      rw [infoValue?, infoValue?, sameInfo]
    intro t definitions
    rw [assemble, assemble, documentInfo, documentInfo, sameValues]
  rw [document, document, sameTable]
  refine Logged.bind_congr_of_ok fun t finished => ?_
  have sameDefinitions : other.definitions t.referenced.entries =
      spec.definitions t.referenced.entries := by
    refine agree.close_eq fun root isRoot => ?_
    obtain ⟨entry, listed, names⟩ :=
      (mem_roots_iff finished root.1).mp (List.mem_map_of_mem isRoot)
    exact named entry listed root.1 names
  simp only [sameDefinitions, assembled]

end AgreeOn

/-! ## Reached names -/

/-- The names that generation can reach: those that a route with one of the five methods
names, and all that the members of a reached struct mention. -/
inductive Reaches (spec : Spec) : String → Prop
  | route {entry : Group × Route} {name : String} (listed : entry ∈ spec.supportedRoutes)
      (named : name ∈ entry.2.typeNames) : Reaches spec name
  | mention {name mentioned : String} {s : StructType} {m : Member} (reached : Reaches spec name)
      (found : spec.findType? name = some s) (member : m ∈ s.members)
      (mentions : mentioned ∈ m.type.mentions) : Reaches spec mentioned

variable {spec other : Spec}

theorem agreeOn_reaches (same : ∀ n, spec.Reaches n → other.findType? n = spec.findType? n) :
    spec.AgreeOn other spec.Reaches :=
  ⟨same, fun _ _ reached found _ member _ mentions =>
    Reaches.mention reached found member mentions⟩

/-- Structs with names of their own are found in any order. -/
theorem findType?_eq_of_perm (reordered : other.types.Perm spec.types)
    (distinct : (spec.types.map StructType.name).Nodup) (n : String) :
    other.findType? n = spec.findType? n :=
  find?_key_eq_of_perm reordered distinct n

/-- A name with a property is looked up among the structs whose names have it. -/
theorem findType?_eq_find?_filter {P : String → Prop} [DecidablePred P] {n : String} (inside : P n)
    (spec : Spec) :
    spec.findType? n = (spec.types.filter fun s => P s.name).find? fun s => s.name == n := by
  rw [findType?, List.find?_filter]
  refine List.find?_congr fun s _ => ?_
  by_cases named : s.name = n
  · simp [named, inside]
  · simp [named]

open Classical in
/-- Generation only depends on the structs it can reach: descriptions that agree on the
reached names have the same document or error, with the same events.  So nothing changes
when structs with names of their own are put in another order, or when anything is done to
structs whose names are not reached. -/
theorem document_eq_of_reaches (sameInfo : other.info = spec.info)
    (sameService : other.service = spec.service) :
    ((∀ n, spec.Reaches n → other.findType? n = spec.findType? n) →
        other.document = spec.document) ∧
      (other.types.Perm spec.types → (spec.types.map StructType.name).Nodup →
        other.document = spec.document) ∧
      ((other.types.filter fun s => spec.Reaches s.name) =
          (spec.types.filter fun s => spec.Reaches s.name) →
        other.document = spec.document) := by
  have general : (∀ n, spec.Reaches n → other.findType? n = spec.findType? n) →
      other.document = spec.document := fun same =>
    (agreeOn_reaches same).document_eq sameInfo sameService
      fun _ listed _ named => Reaches.route listed named
  refine ⟨general, fun reordered distinct => ?_, fun untouched => ?_⟩
  · exact general fun n _ => findType?_eq_of_perm reordered distinct n
  · refine general fun n reached => ?_
    rw [findType?_eq_find?_filter reached, findType?_eq_find?_filter reached, untouched]

/-- A struct that nothing mentions, with all the defects that a struct can have. -/
def brokenStruct : StructType :=
  { name := "Broken"
    members :=
      [.embedding "Broken", { name := "Key", type := .scalar "string", tag := "json:key" },
        { name := "Lost", type := .map (.scalar "string") (.reference "Nowhere") }] }

/-- A service with one route, whose request holds a map of structs, next to other structs. -/
def shop (others : List StructType) : Spec :=
  { service :=
      { name := "shop"
        groups := [{ routes := [{ method := "Put", path := "/basket", handler := "fill",
                                  requestType := some " Basket " }] }] }
    types := others ++
      [{ name := "Basket",
         members := [{ name := "Items", type := .map (.scalar "string") (.reference "Item") }] },
        { name := "Item", members := [{ name := "Count", type := .scalar "int" }] }] }

/-- The request is reached, and so is the struct in its map. -/
theorem reaches_shop {n : String} (reached : (shop []).Reaches n) : n = "Basket" ∨ n = "Item" := by
  have names : ∀ entry ∈ (shop []).supportedRoutes, entry.2.typeNames = ["Basket"] := by
    decide +kernel
  have mentions : ∀ s ∈ (shop []).types, ∀ m ∈ s.members, ∀ n ∈ m.type.mentions, n = "Item" := by
    decide
  cases reached with
  | @route entry _ listed named =>
      rw [names entry listed] at named
      exact Or.inl (List.mem_singleton.mp named)
  | @mention _ _ s m _ found member mentioned =>
      exact Or.inr (mentions s (mem_of_findType? found) m member n mentioned)

/-- A broken struct that nothing mentions makes no difference. -/
theorem shop_broken_document :
    (∀ n, (shop []).Reaches n → (shop [brokenStruct]).findType? n = (shop []).findType? n) ∧
      (shop [brokenStruct]).document = (shop []).document := by
  have same : ∀ n, (shop []).Reaches n →
      (shop [brokenStruct]).findType? n = (shop []).findType? n := by
    intro n reached
    rcases reaches_shop reached with rfl | rfl
    · decide +kernel
    · decide +kernel
  have sameInfo : (shop [brokenStruct]).info = (shop []).info := rfl
  have sameService : (shop [brokenStruct]).service = (shop []).service := rfl
  exact ⟨same, (document_eq_of_reaches sameInfo sameService).1 same⟩

end Spec

end ApiDoc
