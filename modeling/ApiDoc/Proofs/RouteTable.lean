/-
# The last route at a path and method

Routes are entered one after another, and what the table holds at the end can be
said without running them.  Under a path and method stands the operation of the
last route there; paths and named structs come in the order in which routes first
bring them; and a struct keeps the place that first names it.  Routes whose method
is none of the five might as well not be there.
-/

import ApiDoc.Generate.RouteTable
import ApiDoc.Proofs.FirstOccurrence
import ApiDoc.Proofs.Traversal

namespace ApiDoc

/-! ## Routes by path and method -/

/-- The method of a route is the given one, in any case of its letters. -/
def Route.hasMethod (r : Route) (method : Method) : Bool :=
  Method.lower r.method == method.name

/-- The method of a route is one of the five. -/
def Route.isSupported (r : Route) : Bool :=
  Method.all.any r.hasMethod

/-- The path under which a document lists a route. -/
def Route.documentedPath (r : Route) (g : Group) : String :=
  documentPath (r.pathIn g)

/-- A route of a group is listed under the given path and method. -/
def Route.isAt (path : String) (method : Method) (entry : Group × Route) : Bool :=
  entry.2.documentedPath entry.1 == path && entry.2.hasMethod method

/-- The operation of a route in its group, with the placeholders of its path. -/
def Spec.operationOf (spec : Spec) (entry : Group × Route) : Except Error Operation :=
  (spec.operation entry.1 entry.2 (pathTokens (entry.2.pathIn entry.1))).outcome

/-- The routes that a document can list, in order. -/
def Spec.supportedRoutes (spec : Spec) : List (Group × Route) :=
  spec.routes.filter fun entry => entry.2.isSupported

/-- The last route under a path and method. -/
def Spec.lastRoute? (spec : Spec) (path : String) (method : Method) : Option (Group × Route) :=
  (spec.routes.filter (Route.isAt path method)).getLast?

theorem Route.hasMethod_iff {r : Route} {method : Method} :
    r.hasMethod method ↔ Method.read? r.method = some method := by
  rw [hasMethod, beq_iff_eq]
  apply Iff.intro
  · intro same
    -- The five names are distinct, so the search for one of them ends there.
    rw [Method.read?, same]
    cases method <;> decide
  · intro read
    have found := List.find?_some read
    exact (beq_iff_eq.mp found).symm

theorem Route.isSupported_iff {r : Route} :
    r.isSupported ↔ ∃ method, Method.read? r.method = some method := by
  rw [isSupported, List.any_eq_true]
  apply Iff.intro
  · intro supported
    rcases supported with ⟨method, _, named⟩
    exact ⟨method, hasMethod_iff.mp named⟩
  · intro supported
    rcases supported with ⟨method, read⟩
    exact ⟨method, Method.mem_all method, hasMethod_iff.mpr read⟩

theorem Route.isSupported_of_isAt {path : String} {method : Method} {entry : Group × Route}
    (listed : isAt path method entry) : entry.2.isSupported := by
  rw [isAt, Bool.and_eq_true] at listed
  exact isSupported_iff.mpr ⟨method, hasMethod_iff.mp listed.2⟩

theorem Spec.mem_supportedRoutes_of_lastRoute? {spec : Spec} {path : String} {method : Method}
    {entry : Group × Route} (last : spec.lastRoute? path method = some entry) :
    entry ∈ spec.supportedRoutes := by
  obtain ⟨listed, here⟩ := List.mem_filter.mp (List.mem_of_getLast? last)
  exact List.mem_filter.mpr ⟨listed, Route.isSupported_of_isAt here⟩

theorem Spec.lastRoute?_eq (spec : Spec) (path : String) (method : Method) :
    spec.lastRoute? path method =
      (spec.supportedRoutes.filter (Route.isAt path method)).getLast? := by
  have onlySupported : ∀ entry : Group × Route, Route.isAt path method entry =
      (Route.isAt path method entry && entry.2.isSupported) := by
    intro entry
    by_cases listed : Route.isAt path method entry
    · rw [listed, Route.isSupported_of_isAt listed]
      rfl
    · rw [Bool.not_eq_true] at listed
      rw [listed]
      rfl
  rw [lastRoute?, supportedRoutes, List.filter_filter, ← funext onlySupported]

namespace RouteTable

/-! ## One route -/

/-- Enter a route whose operation has been built. -/
def put (t : RouteTable) (built : (Group × Route) × Operation) : RouteTable :=
  match Method.read? built.1.2.method with
  | none => t
  | some method => t.enter (built.1.2.documentedPath built.1.1) method built.2 built.1.2

theorem outcome_add_of_unsupported (spec : Spec) (t : RouteTable) (entry : Group × Route)
    (unsupported : ¬ entry.2.isSupported) : (t.add spec entry.1 entry.2).outcome = .ok t := by
  have unread : Method.read? entry.2.method = none := by
    cases read : Method.read? entry.2.method with
    | none => rfl
    | some method => exact absurd (Route.isSupported_iff.mpr ⟨method, read⟩) unsupported
  rw [add, unread]
  rfl

/-- A route with one of the five methods is entered with its operation. -/
theorem outcome_add_of_supported (spec : Spec) (t : RouteTable) (entry : Group × Route)
    (supported : entry.2.isSupported) :
    (t.add spec entry.1 entry.2).outcome =
      (spec.operationOf entry).map fun o => t.put (entry, o) := by
  obtain ⟨method, read⟩ := Route.isSupported_iff.mp supported
  simp only [add, put, read, Logged.outcome_bind, Logged.outcome_report, Spec.operationOf]
  cases (spec.operation entry.1 entry.2 (pathTokens (entry.2.pathIn entry.1))).outcome with
  | error e => rfl
  | ok o => rfl

/-- A route that is entered is seen under its own path and method and nowhere
else. -/
theorem operation?_put (t : RouteTable) (built : (Group × Route) × Operation) (path : String)
    (method : Method) :
    (t.put built).operation? path method =
      if Route.isAt path method built.1 then some built.2 else t.operation? path method := by
  rcases built with ⟨⟨g, r⟩, o⟩
  have listed : Route.isAt path method (g, r) ↔
      r.documentedPath g = path ∧ Method.read? r.method = some method := by
    rw [Route.isAt, Bool.and_eq_true, beq_iff_eq, Route.hasMethod_iff]
  simp only [listed, put]
  cases read : Method.read? r.method with
  | none => simp
  | some own =>
      simp only [operation?, enter, Table.get?_insert, Option.some.injEq]
      by_cases samePath : r.documentedPath g = path
      · rw [if_pos samePath, Option.bind_some, PathItem.operation?_set, samePath]
        by_cases sameMethod : own = method
        · simp [sameMethod]
        · rw [if_neg sameMethod, if_neg (fun listed => sameMethod listed.2)]
          cases t.paths.get? path with
          | none => cases method <;> rfl
          | some item => rfl
      · rw [if_neg samePath, if_neg (fun listed => samePath listed.1)]

theorem keys_paths_put {t : RouteTable} (distinct : t.paths.keys.Nodup)
    {built : (Group × Route) × Operation} (supported : built.1.2.isSupported) :
    (t.put built).paths.keys =
      (t.paths.keys ++ [built.1.2.documentedPath built.1.1]).eraseDups := by
  obtain ⟨method, read⟩ := Route.isSupported_iff.mp supported
  rw [put, read]
  exact Table.keys_insert_eq_eraseDups distinct _ _

theorem keys_referenced_put {t : RouteTable} (distinct : t.referenced.keys.Nodup)
    {built : (Group × Route) × Operation} (supported : built.1.2.isSupported) :
    (t.put built).referenced.keys = (t.referenced.keys ++ built.1.2.typeNames).eraseDups := by
  obtain ⟨method, read⟩ := Route.isSupported_iff.mp supported
  have adds : ∀ name ∈ built.1.2.typeNames, ∀ names : Table String, names.keys.Nodup →
      (names.insertNew name built.1.2.context).keys = (names.keys ++ [name]).eraseDups :=
    fun name _ names namesDistinct => Table.keys_insertNew_eq_eraseDups namesDistinct name _
  rw [put, read]
  show (built.1.2.typeNames.foldl _ t.referenced).keys = _
  rw [keys_foldl_of_step _ Table.keys (fun name => [name]) adds distinct, ← List.map_eq_flatMap,
    List.map_id']

/-- A route that is entered gives its place to the structs it names that have no
place yet. -/
theorem get?_referenced_put (t : RouteTable) {built : (Group × Route) × Operation}
    (supported : built.1.2.isSupported) (name : String) :
    (t.put built).referenced.get? name =
      (t.referenced.get? name).or
        (if built.1.2.typeNames.contains name then some built.1.2.context else none) := by
  obtain ⟨method, read⟩ := Route.isSupported_iff.mp supported
  have sees : ∀ other ∈ built.1.2.typeNames, ∀ names : Table String,
      (names.insertNew other built.1.2.context).get? name =
        (names.get? name).or (if other == name then some built.1.2.context else none) :=
    fun other _ names => Table.get?_insertNew names other name built.1.2.context
  rw [put, read]
  show (built.1.2.typeNames.foldl _ t.referenced).get? name = _
  rw [lookup_foldl_of_firstWrite _ (fun names : Table String => names.get? name)
    (fun other => other == name) (fun _ => built.1.2.context) sees]
  rw [map_find?_beq]

/-! ## All routes -/

/-- A run enters the operations of the routes with one of the five methods, which
are all built before anything is decided about the table. -/
theorem outcome_addAll (spec : Spec) (t : RouteTable) (routes : List (Group × Route)) :
    (addAll spec t routes).outcome =
      ((routes.filter fun entry => entry.2.isSupported).mapM fun entry =>
        (spec.operationOf entry).map (Prod.mk entry)).map fun built => built.foldl put t := by
  -- The table is not fixed, since every route hands on a table of its own.
  induction routes generalizing t with
  | nil => rfl
  | cons entry rest ih =>
      rcases entry with ⟨g, r⟩
      rw [addAll, Logged.outcome_bind]
      simp only [ih]
      by_cases supported : r.isSupported
      · have first := outcome_add_of_supported spec t (g, r) supported
        rw [first, List.filter_cons_of_pos (a := (g, r)) supported, List.mapM_cons]
        cases spec.operationOf (g, r) with
        | error e => rfl
        | ok o =>
            show Except.map _ _ = Except.map _ (_ >>= _)
            cases (rest.filter fun entry => entry.2.isSupported).mapM fun entry =>
              (spec.operationOf entry).map (Prod.mk entry) with
            | error e => rfl
            | ok built => rfl
      · have first := outcome_add_of_unsupported spec t (g, r) supported
        rw [first, List.filter_cons_of_neg (a := (g, r)) supported]
        rfl

/-- The table in which, under every path and method, the last route wins. -/
structure IsLastWriterWins (spec : Spec) (t : RouteTable) : Prop where
  /-- Under a path and method stands the operation of the last route there, and
  nothing where there is no route. -/
  operations : ∀ path method,
    (t.operation? path method).map Except.ok = (spec.lastRoute? path method).map spec.operationOf
  /-- Paths come in the order in which routes first bring them. -/
  paths : t.paths.keys =
    (spec.supportedRoutes.map fun entry => entry.2.documentedPath entry.1).eraseDups
  /-- No path is without an operation. -/
  inhabited : ∀ path item, (path, item) ∈ t.paths.entries →
    ∃ method, (item.operation? method).isSome
  /-- Named structs come in the order in which routes first name them. -/
  names : t.referenced.keys =
    (spec.supportedRoutes.flatMap fun entry => entry.2.typeNames).eraseDups
  /-- A struct has the place of the first route that names it. -/
  contexts : ∀ name, t.referenced.get? name =
    (spec.supportedRoutes.find? fun entry => entry.2.typeNames.contains name).map
      fun entry => entry.2.context

/-- The last route under a path and method leaves its operation there. -/
theorem operation?_foldl_put (built : List ((Group × Route) × Operation)) (path : String)
    (method : Method) :
    (built.foldl put {}).operation? path method =
      (built.filter fun b => Route.isAt path method b.1).getLast?.map Prod.snd := by
  have sees : ∀ b ∈ built, ∀ t : RouteTable, (t.put b).operation? path method =
      if Route.isAt path method b.1 then some b.2 else t.operation? path method :=
    fun b _ t => operation?_put t b path method
  rw [lookup_foldl_of_lastWrite put (fun t : RouteTable => t.operation? path method)
    (fun b => Route.isAt path method b.1) Prod.snd sees]
  have nothing : ({} : RouteTable).operation? path method = none := rfl
  rw [nothing, Option.or_none]

theorem keys_paths_foldl_put {built : List ((Group × Route) × Operation)}
    (supported : ∀ b ∈ built, b.1.2.isSupported) :
    (built.foldl put {}).paths.keys =
      (built.map fun b => b.1.2.documentedPath b.1.1).eraseDups := by
  have adds : ∀ b ∈ built, ∀ t : RouteTable, t.paths.keys.Nodup →
      (t.put b).paths.keys = (t.paths.keys ++ [b.1.2.documentedPath b.1.1]).eraseDups :=
    fun b inBuilt _ distinct => keys_paths_put distinct (supported b inBuilt)
  have fresh : ({} : RouteTable).paths.keys.Nodup := List.nodup_nil
  rw [keys_foldl_of_step put (fun t : RouteTable => t.paths.keys) _ adds fresh, List.map_eq_flatMap]
  rfl

theorem keys_referenced_foldl_put {built : List ((Group × Route) × Operation)}
    (supported : ∀ b ∈ built, b.1.2.isSupported) :
    (built.foldl put {}).referenced.keys =
      (built.flatMap fun b => b.1.2.typeNames).eraseDups := by
  have adds : ∀ b ∈ built, ∀ t : RouteTable, t.referenced.keys.Nodup →
      (t.put b).referenced.keys = (t.referenced.keys ++ b.1.2.typeNames).eraseDups :=
    fun b inBuilt _ distinct => keys_referenced_put distinct (supported b inBuilt)
  have fresh : ({} : RouteTable).referenced.keys.Nodup := List.nodup_nil
  rw [keys_foldl_of_step put (fun t : RouteTable => t.referenced.keys) _ adds fresh]
  rfl

theorem exists_operation_of_mem_keys {built : List ((Group × Route) × Operation)}
    (supported : ∀ b ∈ built, b.1.2.isSupported) {path : String}
    (listed : path ∈ (built.foldl put {}).paths.keys) :
    ∃ method, ((built.foldl put {}).operation? path method).isSome := by
  rw [keys_paths_foldl_put supported, List.mem_eraseDups, List.mem_map] at listed
  rcases listed with ⟨b, inBuilt, samePath⟩
  obtain ⟨method, named⟩ := Route.isSupported_iff.mp (supported b inBuilt)
  have here : Route.isAt path method b.1 := by
    rw [Route.isAt, samePath, beq_self_eq_true, Bool.true_and]
    exact Route.hasMethod_iff.mpr named
  refine ⟨method, ?_⟩
  rw [operation?_foldl_put, Option.isSome_map, List.getLast?_isSome]
  exact List.ne_nil_of_mem (List.mem_filter.mpr ⟨inBuilt, here⟩)

/-- The first route that names a struct leaves its place with the struct. -/
theorem get?_referenced_foldl_put {built : List ((Group × Route) × Operation)}
    (supported : ∀ b ∈ built, b.1.2.isSupported) (name : String) :
    (built.foldl put {}).referenced.get? name =
      (built.find? fun b => b.1.2.typeNames.contains name).map fun b => b.1.2.context := by
  have sees : ∀ b ∈ built, ∀ t : RouteTable, (t.put b).referenced.get? name =
      (t.referenced.get? name).or
        (if b.1.2.typeNames.contains name then some b.1.2.context else none) :=
    fun b inBuilt t => get?_referenced_put t (supported b inBuilt) name
  rw [lookup_foldl_of_firstWrite put (fun t : RouteTable => t.referenced.get? name)
    (fun b => b.1.2.typeNames.contains name) (fun b => b.1.2.context) sees]
  rfl

namespace IsLastWriterWins

variable {spec : Spec} {t : RouteTable}

theorem operation?_eq_some_iff (wins : IsLastWriterWins spec t) {path : String} {method : Method}
    {o : Operation} :
    t.operation? path method = some o ↔
      ∃ entry, spec.lastRoute? path method = some entry ∧ spec.operationOf entry = .ok o := by
  have same := wins.operations path method
  apply Iff.intro
  · intro present
    rw [present, Option.map_some, eq_comm, Option.map_eq_some_iff] at same
    exact same
  · intro last
    rcases last with ⟨entry, last, built⟩
    rw [last, Option.map_some, built, Option.map_eq_some_iff] at same
    rcases same with ⟨o', present, value⟩
    rw [present, Except.ok.inj value]

theorem nodup_paths (wins : IsLastWriterWins spec t) : t.paths.keys.Nodup := by
  rw [wins.paths]
  exact nodup_eraseDups _

/-- The operations of a table are those that its paths hold. -/
theorem mem_paths_iff (wins : IsLastWriterWins spec t) {path : String} {method : Method}
    {o : Operation} :
    (∃ item, (path, item) ∈ t.paths.entries ∧ item.operation? method = some o) ↔
      t.operation? path method = some o := by
  simp only [operation?, Option.bind_eq_some_iff, Table.get?_eq_some_iff_mem wins.nodup_paths]

end IsLastWriterWins

/-- What a run over built routes leaves is the table in which the last route
wins. -/
theorem isLastWriterWins_of_built {spec : Spec} {built : List ((Group × Route) × Operation)}
    (entries : built.map Prod.fst = spec.supportedRoutes)
    (operations : ∀ b ∈ built, spec.operationOf b.1 = .ok b.2) :
    IsLastWriterWins spec (built.foldl put {}) := by
  have supported : ∀ b ∈ built, b.1.2.isSupported := by
    intro b inBuilt
    have listed : b.1 ∈ spec.supportedRoutes := entries ▸ List.mem_map_of_mem inBuilt
    exact (List.mem_filter.mp listed).2
  have last : ∀ path method, spec.lastRoute? path method =
      (built.filter fun b => Route.isAt path method b.1).getLast?.map Prod.fst := by
    intro path method
    rw [Spec.lastRoute?_eq, ← entries, List.filter_map, List.getLast?_map]
    rfl
  have keys : (built.foldl put {}).paths.keys =
      (spec.supportedRoutes.map fun entry => entry.2.documentedPath entry.1).eraseDups := by
    rw [keys_paths_foldl_put supported, ← entries, List.map_map]
    rfl
  apply IsLastWriterWins.mk
  case operations =>
    intro path method
    rw [operation?_foldl_put, last, Option.map_map, Option.map_map]
    refine Option.map_congr fun b isLast => ?_
    have inBuilt : b ∈ built := (List.mem_filter.mp (List.mem_of_getLast? isLast)).1
    exact (operations b inBuilt).symm
  case paths => exact keys
  case inhabited =>
    intro path item stored
    have distinct : (built.foldl put {}).paths.keys.Nodup := by
      rw [keys]
      exact nodup_eraseDups _
    have listed : path ∈ (built.foldl put {}).paths.keys :=
      List.mem_map.mpr ⟨(path, item), stored, rfl⟩
    obtain ⟨method, present⟩ := exists_operation_of_mem_keys supported listed
    rw [operation?, (Table.get?_eq_some_iff_mem distinct).mpr stored] at present
    exact ⟨method, present⟩
  case names =>
    rw [keys_referenced_foldl_put supported, ← entries, List.flatMap_map]
  case contexts =>
    intro name
    rw [get?_referenced_foldl_put supported, ← entries, List.find?_map, Option.map_map]
    rfl

end RouteTable

namespace Spec

variable {spec : Spec}

/-- A table of routes comes from the operations of all routes with one of the five
methods. -/
theorem exists_built_of_routeTable {t : RouteTable} (finished : spec.routeTable.outcome = .ok t) :
    ∃ built : List ((Group × Route) × Operation), built.map Prod.fst = spec.supportedRoutes ∧
      (∀ b ∈ built, spec.operationOf b.1 = .ok b.2) ∧ built.foldl RouteTable.put {} = t := by
  rw [routeTable, RouteTable.outcome_addAll, map_eq_ok_iff] at finished
  rcases finished with ⟨built, operations, entered⟩
  obtain ⟨entries, values⟩ := entries_of_mapM_pair operations
  exact ⟨built, entries, values, entered⟩

theorem isLastWriterWins_of_routeTable {t : RouteTable}
    (finished : spec.routeTable.outcome = .ok t) : RouteTable.IsLastWriterWins spec t := by
  obtain ⟨built, entries, operations, entered⟩ := exists_built_of_routeTable finished
  rw [← entered]
  exact RouteTable.isLastWriterWins_of_built entries operations

theorem operationOf_of_routeTable {t : RouteTable} (finished : spec.routeTable.outcome = .ok t)
    {entry : Group × Route} (listed : entry ∈ spec.supportedRoutes) :
    ∃ o, spec.operationOf entry = .ok o := by
  obtain ⟨built, entries, operations, -⟩ := exists_built_of_routeTable finished
  rw [← entries] at listed
  obtain ⟨b, inBuilt, rfl⟩ := List.mem_map.mp listed
  exact ⟨b.2, operations b inBuilt⟩

/-- All routes can be entered when the operation of every route with one of the five
methods can be built. -/
theorem exists_routeTable_of_operations
    (operations : ∀ entry ∈ spec.supportedRoutes, ∃ o, spec.operationOf entry = .ok o) :
    ∃ t, spec.routeTable.outcome = .ok t := by
  have pairs : ∀ entry ∈ spec.supportedRoutes,
      ∃ b, (spec.operationOf entry).map (Prod.mk entry) = .ok b := by
    intro entry listed
    obtain ⟨o, value⟩ := operations entry listed
    exact ⟨(entry, o), map_eq_ok_iff.mpr ⟨o, value, rfl⟩⟩
  obtain ⟨built, run⟩ := exists_mapM_eq_ok_iff.mpr pairs
  refine ⟨built.foldl RouteTable.put {}, ?_⟩
  rw [routeTable, RouteTable.outcome_addAll, map_eq_ok_iff]
  exact ⟨built, run, rfl⟩

/-- Entering all routes leaves the table in which the last route wins, or stops at
the first route with one of the five methods whose operation cannot be built.  The
other routes play no part in either. -/
theorem routeTable_lastWriterWins (spec : Spec) :
    (∀ t, spec.routeTable.outcome = .ok t → RouteTable.IsLastWriterWins spec t) ∧
    (∀ e, spec.routeTable.outcome = .error e ↔
      ∃ entry, FailsFirst spec.operationOf spec.supportedRoutes entry e) ∧
    spec.routeTable.outcome = (RouteTable.addAll spec {} spec.supportedRoutes).outcome := by
  have run := RouteTable.outcome_addAll spec {} spec.routes
  refine ⟨fun t finished => isLastWriterWins_of_routeTable finished, ?_, ?_⟩
  · intro e
    rw [routeTable, run, map_eq_error_iff, mapM_eq_error_iff]
    exact exists_congr fun entry => failsFirst_pair_iff
  · have again : spec.supportedRoutes.filter (fun entry => entry.2.isSupported) =
        spec.supportedRoutes := by
      rw [List.filter_eq_self]
      intro entry listed
      exact (List.mem_filter.mp listed).2
    rw [routeTable, run, RouteTable.outcome_addAll, again]
    rfl

end Spec

end ApiDoc
