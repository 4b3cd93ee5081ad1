/-
# What an error says about the description

Generation stops at the first defect it meets, and defects are met in different places:
tags wherever members are read, unknown names at routes, at embedded members and in the
queue of definitions, cycles before a struct is defined.  Wherever an error comes from, it
describes a defect that the description has.  Of several defects it need not be the first
one in the text.
-/

import ApiDoc.Proofs.Success
import Mathlib

namespace ApiDoc

/-- A name that generation looks up: a route names it, a member embeds it, or a definition
refers to it. -/
inductive Spec.LooksUp (spec : Spec) (name : String) : Prop
  | route {entry : Group × Route} (listed : entry ∈ spec.supportedRoutes)
      (named : name ∈ entry.2.typeNames)
  | embedding {s : StructType} {m : Member} (struct : s ∈ spec.types) (member : m ∈ s.members)
      (embeds : m.embedded? = some name)
  | definition {source : String} {schema : Schema} (defined : spec.Defines source schema)
      (refers : name ∈ schema.references)

/-- The defects of a description, each with the error that reports it. -/
inductive Spec.HasDefect (spec : Spec) : Error → Prop
  /-- The tag text of a member cannot be read. -/
  | malformedTag {s : StructType} {m : Member} {fault : TagFault} (struct : s ∈ spec.types)
      (member : m ∈ s.members) (unreadable : Tag.readAll m.tag = .error fault) :
      HasDefect spec (.malformedTag m.name fault.reason)
  /-- A name is looked up that no struct has. -/
  | unresolvedReference {name context : String} (unknown : spec.findType? name = none)
      (sought : spec.LooksUp name) : HasDefect spec (.unresolvedReference name context)
  /-- A chain of embedded structs runs into a cycle. -/
  | cyclicEmbedding {root : String} {chain : List String} (lasso : spec.IsLasso root chain) :
      HasDefect spec (.cyclicEmbedding chain)

/-- Reading the tags of a member fails only on its tag text. -/
theorem Member.exists_fault_of_tagged_error {m : Member} {e : Error}
    (failed : m.tagged = .error e) :
    ∃ fault, Tag.readAll m.tag = .error fault ∧ e = .malformedTag m.name fault.reason := by
  rw [tagged, map_eq_error_iff, Tag.readFor] at failed
  cases read : Tag.readAll m.tag with
  | ok tags =>
      rw [read] at failed
      cases failed
  | error fault =>
      rw [read] at failed
      exact ⟨fault, rfl, (Except.error.inj failed).symm⟩

namespace Spec

variable {spec : Spec} {s : StructType} {m : Member} {name parent : String} {e : Error}

/-! ## Members -/

theorem hasDefect_of_tagged (struct : s ∈ spec.types) (member : m ∈ s.members)
    (failed : m.tagged = .error e) : spec.HasDefect e := by
  obtain ⟨fault, unreadable, rfl⟩ := Member.exists_fault_of_tagged_error failed
  exact HasDefect.malformedTag struct member unreadable

/-- What an embedded struct gives fails when the struct is unknown or the tags of one of its
members cannot be read. -/
theorem hasDefect_of_fromEmbedded {β : Type} {give : TaggedMember → List β}
    (struct : s ∈ spec.types) (member : m ∈ s.members) (embeds : m.embedded? = some name)
    (failed : spec.fromEmbedded give name parent = .error e) : spec.HasDefect e := by
  rcases bind_eq_error_iff.mp failed with unknown | ⟨inner, found, failed⟩
  · rw [findEmbedded] at unknown
    cases found : spec.findType? name with
    | some inner =>
        rw [found] at unknown
        cases unknown
    | none =>
        rw [found] at unknown
        obtain rfl := Except.error.inj unknown
        exact HasDefect.unresolvedReference found (LooksUp.embedding struct member embeds)
  · rw [map_eq_error_iff] at failed
    obtain ⟨n, listed, failed⟩ := exists_mem_of_mapM_eq_error failed
    rw [map_eq_error_iff] at failed
    exact hasDefect_of_tagged (mem_of_findType? (findEmbedded_eq_ok_iff.mp found)) listed failed

theorem hasDefect_of_contribution (struct : s ∈ spec.types) (member : m ∈ s.members)
    (failed : (spec.contribution parent m).outcome = .error e) : spec.HasDefect e := by
  cases embeds : m.embedded? with
  | none =>
      rw [outcome_contribution_of_own embeds, map_eq_error_iff] at failed
      exact hasDefect_of_tagged struct member failed
  | some name =>
      rw [outcome_contribution_of_embedded embeds] at failed
      rcases bind_eq_error_iff.mp failed with unreadable | ⟨tagged, -, failed⟩
      · exact hasDefect_of_tagged struct member unreadable
      · exact hasDefect_of_fromEmbedded struct member embeds failed

theorem hasDefect_of_requestPart {readOnly : Bool} (struct : s ∈ spec.types)
    (member : m ∈ s.members) (failed : (spec.requestPart parent readOnly m).outcome = .error e) :
    spec.HasDefect e := by
  by_cases own : readOnly = true → m.embedded? = none
  · rw [outcome_requestPart_of_own own, map_eq_error_iff] at failed
    exact hasDefect_of_tagged struct member failed
  · rw [Classical.not_imp] at own
    rcases own with ⟨rfl, embeds⟩
    obtain ⟨name, embeds⟩ := Option.ne_none_iff_exists'.mp embeds
    rw [outcome_requestPart_of_embedded embeds] at failed
    rcases bind_eq_error_iff.mp failed with unreadable | ⟨tagged, -, failed⟩
    · exact hasDefect_of_tagged struct member unreadable
    · rw [map_eq_error_iff] at failed
      exact hasDefect_of_fromEmbedded struct member embeds failed

/-! ## Structs and routes -/

theorem hasDefect_of_contributions (struct : s ∈ spec.types)
    (failed : (spec.contributions s).outcome = .error e) : spec.HasDefect e := by
  rw [contributions, Logged.outcome_bind, Logged.outcome_forEach] at failed
  rcases bind_eq_error_iff.mp failed with failed | ⟨parts, -, gathered⟩
  · obtain ⟨m, member, failed⟩ := exists_mem_of_mapM_eq_error failed
    exact hasDefect_of_contribution struct member failed
  · cases gathered

/-- A struct of the description has no definition because it runs into a cycle or because
of a member. -/
theorem hasDefect_of_synthesize (found : spec.findType? name = some s)
    (failed : (spec.synthesize s).outcome = .error e) : spec.HasDefect e := by
  simp only [synthesize, Logged.outcome_bind, Logged.outcome_ofExcept] at failed
  rcases bind_eq_error_iff.mp failed with refused | ⟨-, -, failed⟩
  · obtain rfl : s.name = name := name_of_findType? found
    obtain ⟨final, longer, repeated, trail, suffix, edge, onTrail, rfl⟩ :=
      exists_trail_of_checkEmbedding_error found refused
    exact HasDefect.cyclicEmbedding (trail.isLasso suffix edge onTrail)
  · rcases bind_eq_error_iff.mp failed with failed | ⟨members, -, made⟩
    · exact hasDefect_of_contributions (mem_of_findType? found) failed
    · cases made

theorem hasDefect_of_definitionOf {context : String} (sought : spec.LooksUp name)
    (failed : spec.definitionOf name context = .error e) : spec.HasDefect e := by
  rw [definitionOf] at failed
  cases found : spec.findType? name with
  | none =>
      rw [found] at failed
      obtain rfl := Except.error.inj failed
      exact HasDefect.unresolvedReference found sought
  | some s =>
      rw [found] at failed
      exact hasDefect_of_synthesize found failed

theorem hasDefect_of_requestParameters {request : StructType} {readOnly : Bool}
    (struct : request ∈ spec.types)
    (failed : (spec.requestParameters request readOnly).outcome = .error e) :
    spec.HasDefect e := by
  rw [requestParameters, Logged.outcome_bind, Logged.outcome_forEach] at failed
  rcases bind_eq_error_iff.mp failed with failed | ⟨parts, -, gathered⟩
  · obtain ⟨m, member, failed⟩ := exists_mem_of_mapM_eq_error failed
    exact hasDefect_of_requestPart struct member failed
  · cases gathered

/-- A route has no operation because of its request. -/
theorem hasDefect_of_operationOf {entry : Group × Route} (listed : entry ∈ spec.supportedRoutes)
    (failed : spec.operationOf entry = .error e) : spec.HasDefect e := by
  rw [operationOf, operation, Logged.outcome_bind] at failed
  rcases bind_eq_error_iff.mp failed with failed | ⟨parameters, -, built⟩
  · rw [parametersOf] at failed
    cases request : named? entry.2.requestType with
    | none =>
        rw [request] at failed
        cases failed
    | some name =>
        simp only [request] at failed
        have named : name ∈ entry.2.typeNames := by
          rw [Route.typeNames, request]
          exact List.mem_cons_self
        cases found : spec.findType? name with
        | none =>
            simp only [found] at failed
            obtain rfl := Except.error.inj failed
            exact HasDefect.unresolvedReference found (LooksUp.route listed named)
        | some s =>
            simp only [found] at failed
            exact hasDefect_of_requestParameters (mem_of_findType? found) failed
  · cases built

/-! ## Documents -/

theorem hasDefect_of_routeTable (failed : spec.routeTable.outcome = .error e) :
    spec.HasDefect e := by
  rw [routeTable, RouteTable.outcome_addAll, map_eq_error_iff] at failed
  obtain ⟨entry, listed, failed⟩ := exists_mem_of_mapM_eq_error failed
  rw [map_eq_error_iff] at failed
  exact hasDefect_of_operationOf listed failed

/-- Every name in the queue of definitions comes from a route or from a definition. -/
theorem looksUp_of_mem_closure {t : RouteTable} (finished : spec.routeTable.outcome = .ok t)
    (queued : name ∈ spec.closure (t.referenced.entries.map Prod.fst)) : spec.LooksUp name := by
  rcases (spec.closure_isLimit _).root_or_next queued with root | ⟨source, -, refers⟩
  · obtain ⟨entry, listed, named⟩ := (mem_roots_iff finished name).mp root
    exact LooksUp.route listed named
  · obtain ⟨schema, defined, refers⟩ := mem_referencesOf_iff_defines.mp refers
    exact LooksUp.definition defined refers

theorem hasDefect_of_definitions {t : RouteTable} (finished : spec.routeTable.outcome = .ok t)
    (failed : (spec.definitions t.referenced.entries).outcome = .error e) : spec.HasDefect e := by
  rw [outcome_definitions, map_eq_error_iff] at failed
  obtain ⟨name, queued, failed⟩ := exists_mem_of_mapM_eq_error failed
  rw [Definitions.entryOf, map_eq_error_iff] at failed
  exact hasDefect_of_definitionOf (looksUp_of_mem_closure finished queued) failed

/-- When generation fails, the description has the defect that the error reports. -/
theorem hasDefect_of_document_error (failed : spec.document.outcome = .error e) :
    spec.HasDefect e := by
  rw [document, Logged.outcome_bind] at failed
  rcases bind_eq_error_iff.mp failed with failed | ⟨t, finished, failed⟩
  · exact hasDefect_of_routeTable failed
  · rw [Logged.outcome_bind] at failed
    rcases bind_eq_error_iff.mp failed with failed | ⟨definitions, -, assembled⟩
    · exact hasDefect_of_definitions finished failed
    · cases assembled

/-- A description with two defects: the request of its route embeds a struct that embeds
itself, and no struct has the name of the response. -/
def flawed : Spec :=
  { service :=
      { name := "orders"
        groups := [{ routes := [{ method := "POST", path := "/orders", handler := "create",
                                  requestType := some "Order", responseType := some "Receipt" }] }] }
    types :=
      [{ name := "Order", members := [.embedding "Item"] },
        { name := "Item", members := [.embedding "Item"] }] }

/-- The cycle is reported, since the request is defined first. -/
theorem flawed_hasDefect :
    flawed.document.outcome = .error (.cyclicEmbedding ["Order", "Item", "Item"]) ∧
      flawed.HasDefect (.cyclicEmbedding ["Order", "Item", "Item"]) := by
  have failed : flawed.document.outcome =
      .error (.cyclicEmbedding ["Order", "Item", "Item"]) := by cbv
  exact ⟨failed, hasDefect_of_document_error failed⟩

end Spec

end ApiDoc
