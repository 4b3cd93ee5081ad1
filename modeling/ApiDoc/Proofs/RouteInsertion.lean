/-
# One more route

A route that is added to a description, in whatever group and wherever among its routes,
takes nothing away: if the larger description has a document, so has the smaller one, its
definitions are all there in the larger document, and so are its operations.  The new route
only competes for its own path and method, and there it gives way to every later route.

Groups are compared without their routes, since that is all an operation takes from its
group: the group of the new route is a different one, but it looks the same.
-/

import ApiDoc.Proofs.Reach
import Mathlib

namespace ApiDoc

/-! ## Adding a route -/

/-- The routes of a group, each with the group. -/
def Group.entries (g : Group) : List (Group × Route) :=
  g.routes.map fun r => (g, r)

/-- The group with one more route, in front of the routes from place `j` on. -/
def Group.insertRoute (g : Group) (j : Nat) (r : Route) : Group :=
  { g with routes := g.routes.take j ++ r :: g.routes.drop j }

namespace Spec

/-- The description with one more route, which stands in the group at place `i`, in front
of the routes of that group from place `j` on. -/
def insertRoute (spec : Spec) (i j : Nat) (r : Route) : Spec :=
  { spec with
    service := { spec.service with
      groups := spec.service.groups.modify i fun g => g.insertRoute j r } }

/-- The routes from a place on: those of the group at place `i` from place `j` on, and those
of all later groups. -/
def routesFrom (spec : Spec) (i j : Nat) : List (Group × Route) :=
  match spec.service.groups.drop i with
  | [] => []
  | g :: later => g.entries.drop j ++ later.flatMap Group.entries

end Spec

/-- The operation of a document under a path and method. -/
def Document.operation? (d : Document) (path : String) (method : Method) : Option Operation :=
  (d.paths.get? path).bind fun item => item.operation? method

/-! ## Groups without their routes -/

/-- A group without its routes. -/
def Group.bare (g : Group) : Group :=
  { g with routes := [] }

/-- A route with what its operation takes from its group. -/
def bareEntry (entry : Group × Route) : Group × Route :=
  (entry.1.bare, entry.2)

/-- An operation and its place depend on no more of the group than that. -/
theorem isAt_comp_bareEntry (path : String) (method : Method) :
    Route.isAt path method ∘ bareEntry = Route.isAt path method :=
  rfl

theorem operationOf_comp_bareEntry (spec : Spec) : spec.operationOf ∘ bareEntry = spec.operationOf :=
  rfl

theorem map_bareEntry_entries_insertRoute (g : Group) (j : Nat) (r : Route) :
    (g.insertRoute j r).entries.map bareEntry =
      (g.entries.take j).map bareEntry ++ (g.bare, r) :: (g.entries.drop j).map bareEntry := by
  have shape : ∀ g : Group, g.entries.map bareEntry = g.routes.map fun r => (g.bare, r) := by
    intro g
    rw [Group.entries, List.map_map]
    rfl
  rw [shape, List.map_take, List.map_drop, shape, ← List.map_take, ← List.map_drop,
    Group.insertRoute, List.map_append, List.map_cons]
  rfl

namespace Spec

variable {spec : Spec} {i j : Nat} {g : Group} {r : Route} {path : String} {method : Method}

/-- The new route stands in front of the routes from its place on, and the others are as
before. -/
theorem exists_split_of_insertRoute (inGroup : spec.service.groups[i]? = some g) (j : Nat)
    (r : Route) :
    ∃ before, spec.routes.map bareEntry = before ++ (spec.routesFrom i j).map bareEntry ∧
      (spec.insertRoute i j r).routes.map bareEntry =
        before ++ (g.bare, r) :: (spec.routesFrom i j).map bareEntry := by
  obtain ⟨inside, rfl⟩ := List.getElem?_eq_some_iff.mp inGroup
  let groups := spec.service.groups
  have later : spec.routesFrom i j =
      groups[i].entries.drop j ++ (groups.drop (i + 1)).flatMap Group.entries := by
    rw [routesFrom, List.drop_eq_getElem_cons inside]
  have routes : spec.routes = (groups.take i).flatMap Group.entries ++
      (groups[i].entries.take j ++ spec.routesFrom i j) := by
    calc spec.routes
        = (groups.take i ++ groups.drop i).flatMap Group.entries := by
          rw [List.take_append_drop]
          rfl
      _ = _ := by
          rw [List.drop_eq_getElem_cons inside, List.flatMap_append, List.flatMap_cons, later,
            ← List.append_assoc (groups[i].entries.take j), List.take_append_drop]
  have longer : (spec.insertRoute i j r).routes = (groups.take i).flatMap Group.entries ++
      ((groups[i].insertRoute j r).entries ++ (groups.drop (i + 1)).flatMap Group.entries) := by
    calc (spec.insertRoute i j r).routes
        = (groups.modify i fun g => g.insertRoute j r).flatMap Group.entries := rfl
      _ = _ := by rw [List.modify_eq_take_cons_drop inside, List.flatMap_append, List.flatMap_cons]
  refine ⟨((groups.take i).flatMap Group.entries ++ groups[i].entries.take j).map bareEntry, ?_, ?_⟩
  · rw [routes, ← List.append_assoc, List.map_append]
  · rw [longer, later]
    simp only [List.map_append, map_bareEntry_entries_insertRoute, List.append_assoc,
      List.cons_append]
    rfl

/-- The last route at a path and method decides about the operation by what it takes from
its group. -/
theorem map_operationOf_lastRoute? (spec : Spec) (path : String) (method : Method) :
    (spec.lastRoute? path method).map spec.operationOf =
      ((spec.routes.map bareEntry).filter (Route.isAt path method)).getLast?.map
        spec.operationOf := by
  rw [List.filter_map, List.getLast?_map, Option.map_map, isAt_comp_bareEntry,
    operationOf_comp_bareEntry, lastRoute?]

/-- An entry in front of one with a property is not the last with it. -/
theorem getLast?_filter_insert {α : Type _} {p : α → Bool} {before later : List α} {a : α}
    (givesWay : p a → ∃ b ∈ later, p b) :
    ((before ++ a :: later).filter p).getLast? = ((before ++ later).filter p).getLast? := by
  by_cases hit : p a
  · obtain ⟨b, behind, alsoHit⟩ := givesWay hit
    have nonempty : later.filter p ≠ [] :=
      List.ne_nil_of_mem (List.mem_filter.mpr ⟨behind, alsoHit⟩)
    rw [List.filter_append, List.filter_append, List.filter_cons_of_pos hit, List.getLast?_append,
      List.getLast?_append, List.getLast?_cons, List.getLast?_eq_some_getLast nonempty]
    rfl
  · rw [List.filter_append, List.filter_append, List.filter_cons_of_neg hit]

/-! ## The same structs -/

variable {other : Spec} {name : String}

theorem agreeOn_of_types (same : other.types = spec.types) : spec.AgreeOn other fun _ => True :=
  ⟨fun n _ => by rw [findType?, findType?, same], fun _ _ _ _ _ _ _ _ => trivial⟩

theorem defines_iff_of_types (same : other.types = spec.types) {schema : Schema} :
    other.Defines name schema ↔ spec.Defines name schema := by
  have agree := agreeOn_of_types same
  have sameSchema : ∀ s, other.synthesize s = spec.synthesize s :=
    fun _ => agree.synthesize_eq fun _ _ _ _ => trivial
  simp only [Defines, agree.same name trivial, sameSchema]

/-- With the same structs and routes that name at least as much, at least as much is
needed. -/
theorem Needed.mono (same : other.types = spec.types)
    (routes : ∀ entry ∈ spec.supportedRoutes, ∃ e ∈ other.supportedRoutes, e.2 = entry.2)
    (needed : spec.Needed name) : other.Needed name := by
  induction needed with
  | @route entry name listed named =>
      obtain ⟨e, alsoListed, sameRoute⟩ := routes entry listed
      exact Needed.route alsoListed (sameRoute ▸ named)
  | @property name target s members m _ found definable contributed survives points ih =>
      refine ih.reference (mem_referencesOf_iff_defines.mpr ?_)
      obtain ⟨schema, defined, refers⟩ := mem_referencesOf_iff_defines.mp
        (mem_referencesOf_iff.mpr ⟨s, members, m, found, definable, contributed, survives, points⟩)
      exact ⟨schema, (defines_iff_of_types same).mpr defined, refers⟩

theorem Defines.unique {schema schema' : Schema} (first : spec.Defines name schema)
    (second : spec.Defines name schema') : schema = schema' := by
  rcases first with ⟨s, found, made⟩
  rcases second with ⟨s', found', made'⟩
  obtain rfl : s = s' := Option.some.inj (found.symm.trans found')
  exact Except.ok.inj (made.symm.trans made')

/-! ## The smaller document -/

theorem exists_supportedRoute_of_insertRoute (inGroup : spec.service.groups[i]? = some g) :
    ∀ entry ∈ spec.supportedRoutes, ∃ e ∈ (spec.insertRoute i j r).supportedRoutes,
      e.2 = entry.2 := by
  obtain ⟨before, routes, longer⟩ := exists_split_of_insertRoute inGroup j r
  intro entry supported
  obtain ⟨listed, isSupported⟩ := List.mem_filter.mp supported
  have bare : bareEntry entry ∈ (spec.insertRoute i j r).routes.map bareEntry := by
    have inSmaller : bareEntry entry ∈ spec.routes.map bareEntry := List.mem_map_of_mem listed
    rw [routes, List.mem_append] at inSmaller
    rw [longer, List.mem_append, List.mem_cons]
    exact inSmaller.imp_right Or.inr
  obtain ⟨e, alsoListed, sameBare⟩ := List.mem_map.mp bare
  have sameRoute : e.2 = entry.2 := (Prod.mk.inj sameBare).2
  exact ⟨e, List.mem_filter.mpr ⟨alsoListed, sameRoute ▸ isSupported⟩, sameRoute⟩

/-- The new route changes the operation at its own path and method only, and not even there
when a later route has them. -/
theorem operation?_of_insertRoute (inGroup : spec.service.groups[i]? = some g)
    {t longer : RouteTable} (wins : RouteTable.IsLastWriterWins spec t)
    (longerWins : RouteTable.IsLastWriterWins (spec.insertRoute i j r) longer)
    (givesWay : Route.isAt path method (g, r) →
      ∃ later ∈ spec.routesFrom i j, Route.isAt path method later) :
    longer.operation? path method = t.operation? path method := by
  have sameTypes : (spec.insertRoute i j r).types = spec.types := rfl
  have sameOperations : (spec.insertRoute i j r).operationOf = spec.operationOf := by
    funext entry
    rw [operationOf, operationOf,
      (agreeOn_of_types sameTypes).operation_eq rfl entry.1 (fun _ _ => trivial)]
  have last : (((spec.insertRoute i j r).routes.map bareEntry).filter
      (Route.isAt path method)).getLast? =
        ((spec.routes.map bareEntry).filter (Route.isAt path method)).getLast? := by
    obtain ⟨before, routes, longerRoutes⟩ := exists_split_of_insertRoute inGroup j r
    rw [routes, longerRoutes]
    refine getLast?_filter_insert fun here => ?_
    obtain ⟨later, behind, alsoHere⟩ := givesWay here
    exact ⟨bareEntry later, List.mem_map_of_mem behind, alsoHere⟩
  apply Option.map_injective fun _ _ => Except.ok.inj
  rw [longerWins.operations, wins.operations, map_operationOf_lastRoute?,
    map_operationOf_lastRoute?, last, sameOperations]

/-- A route that is added takes nothing away. -/
theorem document_of_insertRoute (inGroup : spec.service.groups[i]? = some g) {larger : Document}
    (generated : (spec.insertRoute i j r).document.outcome = .ok larger) :
    ∃ d, spec.document.outcome = .ok d ∧
      d.definitions.entries ⊆ larger.definitions.entries ∧
      ∀ path method,
        (Route.isAt path method (g, r) → ∃ later ∈ spec.routesFrom i j,
          Route.isAt path method later) →
        larger.operation? path method = d.operation? path method := by
  have sameTypes : (spec.insertRoute i j r).types = spec.types := rfl
  obtain ⟨longer, longerDefinitions, longerFinished, longerMade, rfl⟩ :=
    document_eq_ok_iff.mp generated
  obtain ⟨longerKeys, longerDefined⟩ := definitions_of_routeTable longerFinished longerMade
  have needed : ∀ n, spec.Needed n → (spec.insertRoute i j r).Needed n :=
    fun _ => Needed.mono sameTypes (exists_supportedRoute_of_insertRoute inGroup)
  have defined : ∀ n, spec.Needed n →
      ∃ schema, (n, schema) ∈ longerDefinitions.entries ∧ spec.Defines n schema := by
    intro n isNeeded
    obtain ⟨⟨_, schema⟩, listed, rfl⟩ := List.mem_map.mp ((longerKeys n).mpr (needed n isNeeded))
    exact ⟨schema, listed, (defines_iff_of_types sameTypes).mp (longerDefined _ _ listed)⟩
  have definable : ∀ n, spec.Needed n → ∃ s, spec.findType? n = some s ∧ spec.IsDefinable s := by
    intro n isNeeded
    obtain ⟨schema, -, makes⟩ := defined n isNeeded
    exact exists_defines_iff.mp ⟨schema, makes⟩
  obtain ⟨t, finished⟩ := exists_routeTable_of_needed definable
  obtain ⟨definitions, made⟩ := exists_definitions_of_needed finished definable
  obtain ⟨keys, values⟩ := definitions_of_routeTable finished made
  refine ⟨spec.assemble t definitions, document_eq_ok_iff.mpr ⟨t, definitions, finished, made, rfl⟩,
    ?_, ?_⟩
  · rintro ⟨n, schema⟩ listed
    have isNeeded : spec.Needed n := (keys n).mp (List.mem_map_of_mem listed)
    obtain ⟨schema', alsoListed, makes⟩ := defined n isNeeded
    obtain rfl : schema = schema' := (values n schema listed).unique makes
    exact alsoListed
  · intro path method givesWay
    exact operation?_of_insertRoute inGroup (isLastWriterWins_of_routeTable finished)
      (isLastWriterWins_of_routeTable longerFinished) givesWay

/-- A route that lists parcels. -/
def listParcels : Route :=
  { method := "get", path := "/parcels", handler := "list", responseType := some "Parcel" }

/-- A route at the same path and method that takes a request. -/
def findParcels : Route :=
  { method := "GET", path := "//parcels", handler := "find", requestType := some "Filter" }

/-- A service that can only list parcels. -/
def parcels : Spec :=
  { service := { name := "parcels", groups := [{ routes := [listParcels] }] }
    types :=
      [{ name := "Filter", members := [{ name := "Text", type := .scalar "string" }] },
        { name := "Parcel", members := [{ name := "Weight", type := .scalar "int" }] }] }

/-- In front of the other route, the new one brings a definition but no operation. -/
theorem parcels_findParcels :
    ∃ larger d, parcels.service.groups[0]? = some { routes := [listParcels] } ∧
      (parcels.insertRoute 0 0 findParcels).document.outcome = .ok larger ∧
      larger.definitions.keys = ["Filter", "Parcel"] ∧ parcels.document.outcome = .ok d ∧
      d.definitions.entries ⊆ larger.definitions.entries ∧
      larger.operation? "/parcels" .get = d.operation? "/parcels" .get := by
  have inGroup : parcels.service.groups[0]? = some { routes := [listParcels] } := rfl
  have run : (parcels.insertRoute 0 0 findParcels).document.outcome.map
      (fun d => d.definitions.keys) = .ok ["Filter", "Parcel"] := by cbv
  obtain ⟨larger, generated, keys⟩ := map_eq_ok_iff.mp run
  obtain ⟨d, smaller, definitions, operations⟩ := document_of_insertRoute inGroup generated
  refine ⟨larger, d, inGroup, generated, keys, smaller, definitions, ?_⟩
  refine operations "/parcels" .get fun _ => ⟨({ routes := [listParcels] }, listParcels), ?_, ?_⟩
  · exact List.mem_singleton_self _
  · decide +kernel

end Spec

end ApiDoc
