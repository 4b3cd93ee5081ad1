/-
# What becomes of every route

Entering a route either adds an operation, or puts one in the place of another and says so,
or skips the route and says that.  So after a run the routes can be counted from what was
reported and what the table holds, and none is missing.  What is reported while an operation
is built speaks of types only and cannot be mistaken for any of this.
-/

import ApiDoc.Proofs.RouteTable
import Mathlib

namespace ApiDoc

/-! ## Events -/

namespace Event

/-- A route is skipped. -/
def isUnsupportedMethod : Event → Bool
  | unsupportedMethod _ _ => true
  | _ => false

/-- A route takes the place of an earlier one. -/
def isRouteOverridden : Event → Bool
  | routeOverridden _ _ => true
  | _ => false

/-- The operation of a route is built. -/
def isOperationBuilt : Event → Bool
  | operationBuilt _ _ _ => true
  | _ => false

/-- An event tells what became of a route. -/
def IsAboutRoute (e : Event) : Prop :=
  e.isUnsupportedMethod ∨ e.isRouteOverridden ∨ e.isOperationBuilt

end Event

namespace Logged

variable {α β : Type}

/-- A computation does not report what becomes of routes. -/
def LeavesRoutesOut (x : Logged α) : Prop :=
  ∀ e ∈ x.events, ¬ e.IsAboutRoute

theorem leavesRoutesOut_of_silent {x : Logged α} (silent : x.events = []) :
    x.LeavesRoutesOut := by
  intro e reported
  rw [silent] at reported
  cases reported

theorem LeavesRoutesOut.bind {first : Logged α} {next : α → Logged β}
    (firstOut : first.LeavesRoutesOut) (nextOut : ∀ a, (next a).LeavesRoutesOut) :
    (first >>= next).LeavesRoutesOut := by
  intro e reported
  replace reported : e ∈ (andThen first next).events := reported
  rw [andThen] at reported
  split at reported
  · exact firstOut e reported
  · next a _ =>
      rcases List.mem_append.mp reported with early | late
      · exact firstOut e early
      · exact nextOut a e late

theorem leavesRoutesOut_forEach {f : α → Logged β} (each : ∀ a, (f a).LeavesRoutesOut)
    (l : List α) : (forEach f l).LeavesRoutesOut := by
  induction l with
  | nil => exact leavesRoutesOut_of_silent rfl
  | cons a rest ih =>
      exact (each a).bind fun b => ih.bind fun others => leavesRoutesOut_of_silent rfl

end Logged

open Logged

theorem TypeExpr.not_isAboutRoute_of_schemaEvents {type : TypeExpr} :
    ∀ e ∈ type.schemaEvents, ¬ e.IsAboutRoute := by
  induction type with
  | pointer target ih => exact ih
  | array element ih => exact ih
  | scalar name =>
      intro e reported
      rw [schemaEvents] at reported
      split at reported
      · cases reported
      · rw [List.mem_singleton.mp reported]
        nofun
  | map | reference | dynamic => nofun

theorem TaggedMember.leavesRoutesOut_render (m : TaggedMember) (c : Classification) :
    (m.render c).LeavesRoutesOut := by
  refine LeavesRoutesOut.bind ?_ fun _ => leavesRoutesOut_of_silent rfl
  intro e reported
  replace reported : e ∈ m.parameterEvents c := reported
  rw [parameterEvents] at reported
  split at reported
  · cases reported
  · rcases List.mem_append.mp reported with ofType | ofStruct
    · exact TypeExpr.not_isAboutRoute_of_schemaEvents e ofType
    · split at ofStruct
      · cases ofStruct
      · rw [List.mem_singleton.mp ofStruct]
        nofun

theorem Member.leavesRoutesOut_embeddedQuery (m : Member) : m.embeddedQuery.LeavesRoutesOut := by
  refine LeavesRoutesOut.bind (leavesRoutesOut_of_silent rfl) fun tagged => ?_
  dsimp only
  split
  · exact leavesRoutesOut_of_silent rfl
  · split
    · exact (tagged.leavesRoutesOut_render _).bind fun p => leavesRoutesOut_of_silent rfl
    · exact leavesRoutesOut_of_silent rfl

namespace Spec

theorem leavesRoutesOut_requestPart (spec : Spec) (parent : String) (readOnly : Bool) (m : Member) :
    (spec.requestPart parent readOnly m).LeavesRoutesOut := by
  have embedded : ∀ name, (spec.embeddedQueries name parent).LeavesRoutesOut := fun name =>
    .bind (leavesRoutesOut_of_silent rfl) fun inner =>
      .bind (leavesRoutesOut_forEach Member.leavesRoutesOut_embeddedQuery _) fun parts =>
        leavesRoutesOut_of_silent rfl
  refine LeavesRoutesOut.bind (leavesRoutesOut_of_silent rfl) fun tagged => ?_
  dsimp only
  split
  · split
    · split
      · exact (embedded _).bind fun queries => leavesRoutesOut_of_silent rfl
      · exact leavesRoutesOut_of_silent rfl
    · exact leavesRoutesOut_of_silent rfl
  · split
    · exact (tagged.leavesRoutesOut_render _).bind fun p => leavesRoutesOut_of_silent rfl
    · exact (tagged.leavesRoutesOut_render _).bind fun p => leavesRoutesOut_of_silent rfl
    · exact leavesRoutesOut_of_silent rfl
    · exact leavesRoutesOut_of_silent rfl

/-- Building an operation reports nothing about routes. -/
theorem leavesRoutesOut_operation (spec : Spec) (g : Group) (r : Route) (tokens : List String) :
    (spec.operation g r tokens).LeavesRoutesOut := by
  refine LeavesRoutesOut.bind ?_ fun parameters => leavesRoutesOut_of_silent rfl
  rw [parametersOf]
  split
  · exact leavesRoutesOut_of_silent rfl
  · split
    · exact leavesRoutesOut_of_silent rfl
    · next request _ =>
        exact (leavesRoutesOut_forEach (spec.leavesRoutesOut_requestPart request.name _) _).bind
          fun parts => leavesRoutesOut_of_silent rfl

end Spec

/-! ## The operations of a table -/

/-- Writing adds what the written value gives, and takes away what the value before gave. -/
theorem Table.length_flatMap_write {α β : Type} (give : α → List β) (key : String) (value : α)
    (entries : List (String × α)) :
    ((write key value entries).flatMap fun entry => give entry.2).length +
        (((entries.lookup key).map give).getD []).length =
      (entries.flatMap fun entry => give entry.2).length + (give value).length := by
  induction entries with
  | nil => simp [write]
  | cons entry rest ih =>
      obtain ⟨k, old⟩ := entry
      by_cases same : k = key
      · simp only [write, lookup_cons_eq_if, if_pos same, List.flatMap_cons, List.length_append,
          Option.map_some, Option.getD_some]
        omega
      · simp only [write, lookup_cons_eq_if, if_neg same, List.flatMap_cons, List.length_append]
        omega

/-- The operations on a path. -/
def PathItem.operations (item : PathItem) : List Operation :=
  Method.all.flatMap fun method => (item.operation? method).toList

/-- Setting an operation leaves one more, or as many as before where there was one. -/
theorem PathItem.length_operations_set (item : PathItem) (method : Method) (o : Operation) :
    (item.set method (some o)).operations.length + (item.operation? method).toList.length =
      item.operations.length + 1 := by
  cases method <;>
    simp [operations, Method.all, set, operation?] <;> omega

namespace RouteTable

/-- The operations of all paths. -/
def operations (t : RouteTable) : List Operation :=
  t.paths.entries.flatMap fun entry => entry.2.operations

/-- Entering an operation leaves one more, or as many as before where it takes the place of
another. -/
theorem length_operations_enter (t : RouteTable) (path : String) (method : Method) (o : Operation)
    (r : Route) :
    (t.enter path method o r).operations.length + (t.operation? path method).toList.length =
      t.operations.length + 1 := by
  have replaced := PathItem.length_operations_set ((t.paths.get? path).getD {}) method o
  have written : (t.enter path method o r).operations.length +
      (((t.paths.get? path).map PathItem.operations).getD []).length =
        t.operations.length + (((t.paths.get? path).getD {}).set method (some o)).operations.length :=
    Table.length_flatMap_write PathItem.operations path _ t.paths.entries
  rw [operation?]
  cases stored : t.paths.get? path with
  | none =>
      have nothing : ({} : PathItem).operations = [] := rfl
      have absent : ({} : PathItem).operation? method = none := by cases method <;> rfl
      simp only [stored, Option.getD_none, Option.map_none, nothing, absent, Option.toList_none,
        List.length_nil, Option.bind_none] at replaced written ⊢
      omega
  | some item =>
      simp only [stored, Option.getD_some, Option.map_some, Option.bind_some] at replaced written ⊢
      omega

/-! ## The account -/

/-- What a run over routes reports and leaves accounts for every one of the routes: it is
skipped, or it replaces an operation, or there is one more operation than before. -/
structure Accounts (before : RouteTable) (routes : List (Group × Route)) (events : List Event)
    (after : RouteTable) : Prop where
  total : before.operations.length + routes.length =
    events.countP Event.isUnsupportedMethod + events.countP Event.isRouteOverridden +
      after.operations.length
  /-- The routes with one of the five methods are those whose operations are reported. -/
  built : events.countP Event.isOperationBuilt = routes.countP fun entry => entry.2.isSupported

variable {spec : Spec} {t next last : RouteTable}

theorem accounts_nil (t : RouteTable) : t.Accounts [] [] t :=
  ⟨by simp, rfl⟩

/-- One run after another accounts for the routes of both. -/
theorem Accounts.append {routes others : List (Group × Route)} {events more : List Event}
    (first : t.Accounts routes events next) (second : next.Accounts others more last) :
    t.Accounts (routes ++ others) (events ++ more) last := by
  have firstTotal := first.total
  have secondTotal := second.total
  refine ⟨?_, by rw [List.countP_append, List.countP_append, first.built, second.built]⟩
  simp only [List.length_append, List.countP_append]
  omega

/-- A computation that leaves routes out adds nothing to the account. -/
theorem Accounts.of_leavesRoutesOut {α : Type} {x : Logged α} {routes : List (Group × Route)}
    {events : List Event} (leaves : x.LeavesRoutesOut) (account : t.Accounts routes events next) :
    t.Accounts routes (x.events ++ events) next := by
  have none : ∀ p : Event → Bool, (∀ e, p e = true → e.IsAboutRoute) → x.events.countP p = 0 :=
    fun p about => List.countP_eq_zero.mpr fun e reported isOne => leaves e reported (about e isOne)
  have skips := none Event.isUnsupportedMethod fun e => Or.inl
  have overrides := none Event.isRouteOverridden fun e isOne => Or.inr (Or.inl isOne)
  have builds := none Event.isOperationBuilt fun e isOne => Or.inr (Or.inr isOne)
  refine ⟨?_, ?_⟩
  · rw [List.countP_append, List.countP_append, skips, overrides, Nat.zero_add, Nat.zero_add]
    exact account.total
  · rw [List.countP_append, builds, Nat.zero_add]
    exact account.built

/-- Entering one route accounts for it. -/
theorem accounts_add {g : Group} {r : Route} (run : (t.add spec g r).outcome = .ok next) :
    t.Accounts [(g, r)] (t.add spec g r).events next := by
  cases read : Method.read? r.method with
  | none =>
      have skipped : t.add spec g r = ⟨[.unsupportedMethod r.method r.path], .ok t⟩ := by
        simp only [add, read]
        rfl
      have unsupported : ¬ r.isSupported := by
        simp [Route.isSupported_iff, read]
      rw [skipped] at run ⊢
      obtain rfl := Except.ok.inj run
      refine ⟨?_, by simp [Event.isOperationBuilt, unsupported]⟩
      show t.operations.length + 1 = 1 + 0 + t.operations.length
      omega
  | some method =>
      have supported : r.isSupported := Route.isSupported_iff.mpr ⟨method, read⟩
      simp only [add, read] at run ⊢
      rw [Logged.outcome_bind, bind_eq_ok_iff] at run
      obtain ⟨o, built, run⟩ := run
      rw [Logged.events_bind_of_ok _ built, Logged.events_bind_of_ok _ rfl]
      refine .of_leavesRoutesOut (spec.leavesRoutesOut_operation g r _) ?_
      obtain rfl := Except.ok.inj run
      have entered := t.length_operations_enter (documentPath (r.pathIn g)) method o r
      -- One more operation is there, or an event says which one it replaces.
      cases taken : t.operation? (documentPath (r.pathIn g)) method with
      | none =>
          rw [taken, Option.toList_none, List.length_nil] at entered
          refine ⟨?_, by simp [Event.isOperationBuilt, supported]⟩
          show t.operations.length + 1 = 0 + 0 + (t.enter _ method o r).operations.length
          omega
      | some old =>
          rw [taken, Option.toList_some, List.length_singleton] at entered
          refine ⟨?_, by simp [Event.isOperationBuilt, supported]⟩
          show t.operations.length + 1 = 0 + 1 + (t.enter _ method o r).operations.length
          omega

/-- A run over routes accounts for all of them. -/
theorem accounts_addAll {routes : List (Group × Route)}
    (run : (addAll spec t routes).outcome = .ok last) :
    t.Accounts routes (addAll spec t routes).events last := by
  -- The table is not fixed, since every route hands on a table of its own.
  induction routes generalizing t with
  | nil =>
      obtain rfl := Except.ok.inj run
      exact accounts_nil t
  | cons entry rest ih =>
      rcases entry with ⟨g, r⟩
      rw [addAll] at run ⊢
      rw [Logged.outcome_bind, bind_eq_ok_iff] at run
      obtain ⟨next, first, others⟩ := run
      rw [Logged.events_bind_of_ok _ first]
      exact (accounts_add first).append (ih others)

end RouteTable

namespace Spec

/-- No route is lost without a word: each one is reported as skipped, or replaces an operation
and is reported for that, or has an operation of its own in the table.  The operations that
are reported as built are those of the routes with one of the five methods. -/
theorem routes_accountedFor {spec : Spec} {t : RouteTable}
    (finished : spec.routeTable.outcome = .ok t) :
    (spec.service.groups.map fun g => g.routes.length).sum =
        spec.routeTable.events.countP Event.isUnsupportedMethod +
          spec.routeTable.events.countP Event.isRouteOverridden + t.operations.length ∧
      spec.routeTable.events.countP Event.isOperationBuilt = spec.supportedRoutes.length := by
  have account := RouteTable.accounts_addAll finished
  have all : spec.routes.length = (spec.service.groups.map fun g => g.routes.length).sum := by
    simp [routes, List.length_flatMap]
  refine ⟨?_, ?_⟩
  · rw [← all, ← Nat.zero_add spec.routes.length]
    exact account.total
  · rw [supportedRoutes, ← List.countP_eq_length_filter]
    exact account.built

/-- A service where a route takes the place of another one, and one has a method that a
document does not cover.  Its request has a member whose type is reported. -/
def parcelRoutes : Spec :=
  { service :=
      { name := "parcels"
        groups := [
          { annotation := ⟨[("prefix", "/parcels")]⟩
            routes := [{ method := "get", path := "/:id", handler := "find"
                         requestType := some "Parcel" },
              { method := "trace", path := "/:id", handler := "follow" }] },
          { routes := [{ method := "GET", path := "parcels/:id", handler := "show" },
              { method := "Post", path := "/parcels", handler := "send" }] }] }
    types := [{ name := "Parcel", members := [{ name := "Sent", type := .scalar "time.Time" }] }] }

/-- Two of the four routes have operations in the end. -/
theorem parcelRoutes_accountedFor :
    ∃ t, parcelRoutes.routeTable.outcome = .ok t ∧
      t.operations.map Operation.operationId = ["show", "send"] ∧
      4 = parcelRoutes.routeTable.events.countP Event.isUnsupportedMethod +
        parcelRoutes.routeTable.events.countP Event.isRouteOverridden + t.operations.length ∧
      parcelRoutes.routeTable.events.countP Event.isOperationBuilt =
        parcelRoutes.supportedRoutes.length := by
  have run : parcelRoutes.routeTable.outcome.map
      (fun t => t.operations.map Operation.operationId) = .ok ["show", "send"] := by cbv
  obtain ⟨t, finished, operations⟩ := map_eq_ok_iff.mp run
  obtain ⟨total, built⟩ := routes_accountedFor finished
  exact ⟨t, finished, operations, total, built⟩

end Spec

end ApiDoc
