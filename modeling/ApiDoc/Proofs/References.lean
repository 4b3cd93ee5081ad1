/-
# Where the references of a document lead

Responses, bodies and definitions only point to structs that the document defines.
A parameter that is a list of structs points to a definition as well, but its member
need not survive in any definition: it may be a form member of an embedded struct,
or share its property with a later member.  So a document is closed exactly when
every struct whose lists travel as parameters is needed for another reason.
-/

import ApiDoc.Proofs.SentParameters
import ApiDoc.Proofs.Success
import Mathlib

namespace ApiDoc

/-! ## The references of a document -/

/-- The definitions that a parameter points to. -/
def Parameter.pointers (p : Parameter) : List String :=
  (p.items.toList ++ p.schema.toList).flatMap Schema.pointers

/-- The definitions that an operation points to. -/
def Operation.pointers (o : Operation) : List String :=
  (o.responses.entries.flatMap fun response => response.2.schema.pointers) ++
    o.parameters.flatMap Parameter.pointers

/-- The definitions that the operations on a path point to. -/
def PathItem.pointers (item : PathItem) : List String :=
  Method.all.flatMap fun method => (item.operation? method).toList.flatMap Operation.pointers

/-- The definitions that a document points to, wherever it does. -/
def Document.pointers (d : Document) : List String :=
  (d.paths.entries.flatMap fun path => path.2.pointers) ++
    d.definitions.entries.flatMap fun definition => definition.2.pointers

/-- Every reference leads to a definition of the document. -/
def Document.IsClosed (d : Document) : Prop :=
  ∀ n ∈ d.pointers, n ∈ d.definitions.keys

theorem Document.isClosed_iff_of_references {d : Document} {pointers keys : List String}
    (references : (d.pointers, d.definitions.keys) = (pointers, keys)) :
    d.IsClosed ↔ ∀ n ∈ pointers, n ∈ keys := by
  obtain ⟨samePointers, sameKeys⟩ := Prod.mk.inj references
  rw [IsClosed, samePointers, sameKeys]

/-! ## Members that travel alone -/

/-- The struct behind the elements of a list, through pointers to the list and
whatever the elements are. -/
def TypeExpr.elementTarget? : TypeExpr → Option String
  | pointer target => target.elementTarget?
  | array element => element.target?
  | _ => none

/-- A route sends a list of the structs `n` as a parameter of its own. -/
def Spec.SendsListOf (spec : Spec) (r : Route) (n : String) : Prop :=
  ∃ name request m tagged, named? r.requestType = some name ∧
    spec.findType? name = some request ∧ m ∈ request.members ∧
      spec.SendsAlone (isReadOnly r.method) m tagged ∧
        tagged.member.type.elementTarget? = some n

/-- The schema of a list points to the struct behind its elements. -/
theorem TypeExpr.pointers_items_schema (type : TypeExpr) :
    type.schema.items.toList.flatMap Schema.pointers = type.elementTarget?.toList := by
  induction type with
  | scalar name =>
      rw [schema, items_scalarSchema]
      rfl
  | pointer target ih => exact ih
  | array element =>
      rw [schema, elementTarget?, ← pointers_schema]
      simp [Schema.arrayOf]
  | map key value => rfl
  | reference name => rfl
  | dynamic => rfl

namespace TaggedMember

variable {m : TaggedMember}

/-- A parameter outside the path points to the struct behind the elements of its
list. -/
theorem pointers_parameter {c : Classification} (away : c.location ≠ .path) :
    (m.parameter c).pointers = m.member.type.elementTarget?.toList := by
  have parts := m.parts_parameter away
  rw [Parameter.pointers, parts.2.1, parts.2.2, Option.toList_none, List.append_nil,
    TypeExpr.pointers_items_schema]

end TaggedMember

theorem StructType.pointers_bodyParameter (s : StructType) :
    s.bodyParameter.pointers = [s.name] := by
  simp [bodyParameter, Parameter.bodyOf, Parameter.pointers]

namespace Spec

variable {spec : Spec}

/-- A route sends a list of structs when a member that it sends is one. -/
theorem sendsListOf_iff {r : Route} {n : String} :
    spec.SendsListOf r n ↔ ∃ tagged, spec.Sends r tagged ∧ n ∈ (r.parameterOf tagged).pointers := by
  have points : ∀ tagged, spec.Sends r tagged →
      (n ∈ (r.parameterOf tagged).pointers ↔ tagged.member.type.elementTarget? = some n) := by
    intro tagged sends
    rw [Route.parameterOf, TaggedMember.pointers_parameter sends.notInPath, Option.mem_toList]
  apply Iff.intro
  · intro sends
    rcases sends with ⟨name, request, m, tagged, named, found, listed, alone, target⟩
    have sends : spec.Sends r tagged := ⟨name, request, m, named, found, listed, alone⟩
    exact ⟨tagged, sends, (points tagged sends).mpr target⟩
  · intro pointed
    rcases pointed with ⟨tagged, sends, pointed⟩
    have target := (points tagged sends).mp pointed
    rcases sends with ⟨name, request, m, named, found, listed, alone⟩
    exact ⟨name, request, m, tagged, named, found, listed, alone, target⟩

/-! ## Operations and documents -/

/-- The operation of a route points to the structs whose lists it sends, and otherwise
only to structs that the route names. -/
theorem mem_pointers_operationOf {entry : Group × Route} {o : Operation}
    (built : spec.operationOf entry = .ok o) (n : String) :
    (spec.SendsListOf entry.2 n → n ∈ o.pointers) ∧
      (n ∈ o.pointers → spec.SendsListOf entry.2 n ∨ n ∈ entry.2.typeNames) := by
  have responses : (o.responses.entries.flatMap fun response => response.2.schema.pointers) =
      (named? entry.2.responseType).toList := by
    rw [responses_operationOf built, List.flatMap_singleton]
    cases named? entry.2.responseType with
    | none => rfl
    | some name => exact Schema.pointers_referenceTo name
  rw [Operation.pointers, responses, List.mem_append, Option.mem_toList, List.mem_flatMap,
    Route.typeNames, List.mem_append, Option.mem_toList, Option.mem_toList]
  apply And.intro
  · intro sends
    obtain ⟨tagged, sends, points⟩ := sendsListOf_iff.mp sends
    exact Or.inr ⟨_, (mem_parameters_operationOf built).1 ⟨tagged, sends, rfl⟩, points⟩
  · intro points
    rcases points with inResponse | ⟨p, isParameter, points⟩
    · exact Or.inr (Or.inr inResponse)
    · rcases (mem_parameters_operationOf built).2 isParameter with
        ⟨tagged, sends, rfl⟩ | ⟨token, rfl⟩ | ⟨request, named, rfl⟩
      · exact Or.inl (sendsListOf_iff.mpr ⟨tagged, sends, points⟩)
      · cases points
      · rw [StructType.pointers_bodyParameter, List.mem_singleton] at points
        rw [points]
        exact Or.inr (Or.inl named)

end Spec

theorem PathItem.mem_pointers_iff {item : PathItem} {n : String} :
    n ∈ item.pointers ↔ ∃ method o, item.operation? method = some o ∧ n ∈ o.pointers := by
  simp only [pointers, List.mem_flatMap, Option.mem_toList, Method.mem_all, true_and]

/-- A document points to what its operations and its definitions point to. -/
theorem Document.mem_pointers_iff {d : Document} {n : String} :
    n ∈ d.pointers ↔
      (∃ path item method o, (path, item) ∈ d.paths.entries ∧
        item.operation? method = some o ∧ n ∈ o.pointers) ∨
      ∃ name schema, (name, schema) ∈ d.definitions.entries ∧ n ∈ schema.pointers := by
  simp only [pointers, List.mem_append, List.mem_flatMap, PathItem.mem_pointers_iff, Prod.exists,
    exists_and_left]

namespace Spec

variable {spec : Spec}

/-- A document is closed exactly when it needs every struct whose lists a route that
counts sends as a parameter of its own. -/
theorem document_isClosed_iff {d : Document} (generated : spec.document.outcome = .ok d) :
    d.IsClosed ↔ ∀ path method entry n, spec.lastRoute? path method = some entry →
      spec.SendsListOf entry.2 n → spec.Needed n := by
  obtain ⟨t, definitions, finished, made, rfl⟩ := document_eq_ok_iff.mp generated
  have wins := isLastWriterWins_of_routeTable finished
  obtain ⟨keys, defined⟩ := definitions_of_routeTable finished made
  apply Iff.intro
  · intro closed path method entry n last sends
    obtain ⟨o, built⟩ := operationOf_of_routeTable finished (mem_supportedRoutes_of_lastRoute? last)
    obtain ⟨item, stored, present⟩ :=
      wins.mem_paths_iff.mpr (wins.operation?_eq_some_iff.mpr ⟨entry, last, built⟩)
    have points : n ∈ o.pointers := (mem_pointers_operationOf built n).1 sends
    have inDocument : n ∈ (spec.assemble t definitions).pointers :=
      Document.mem_pointers_iff.mpr (Or.inl ⟨path, item, method, o, stored, present, points⟩)
    exact (keys n).mp (closed n inDocument)
  · intro needs n inDocument
    apply (keys n).mpr
    rcases Document.mem_pointers_iff.mp inDocument with
      ⟨path, item, method, o, stored, present, points⟩ | ⟨name, schema, listed, points⟩
    · have entered := wins.mem_paths_iff.mp ⟨item, stored, present⟩
      obtain ⟨entry, last, built⟩ := wins.operation?_eq_some_iff.mp entered
      rcases (mem_pointers_operationOf built n).2 points with sends | names
      · exact needs path method entry n last sends
      · exact Needed.route (mem_supportedRoutes_of_lastRoute? last) names
    -- What a definition points to has been asked for when it was synthesized.
    · have needed : spec.Needed name :=
        (keys name).mp (List.mem_map.mpr ⟨(name, schema), listed, rfl⟩)
      have refers : n ∈ spec.referencesOf name := mem_referencesOf_iff_defines.mpr
        ⟨schema, defined name schema listed, List.mem_eraseDups.mpr points⟩
      exact needed.reference refers

/-- A member that is a list of the structs `Filter`. -/
def filterList (tag : String) : Member :=
  { name := "Filters", type := .array (.reference "Filter"), tag := tag }

/-- A service whose only route reads and takes a request with the given member.  The
struct `Paging` has a form member that is a list of the structs `Filter`. -/
def filtering (member : Member) : Spec :=
  { service :=
      { name := "items"
        groups := [{ routes := [{ method := "get", path := "/items", handler := "list",
                                  requestType := some "ListRequest" }] }] }
    types :=
      [{ name := "ListRequest", members := [member] },
        { name := "Paging", members := [filterList "form:\"filters\""] },
        { name := "Filter", members := [{ name := "Field", type := .scalar "string" }] }] }

/-- When the list is a member of the request itself, its structs are needed. -/
theorem filtering_filterList_needed :
    ∃ d, (filtering (filterList "")).document.outcome = .ok d ∧ d.IsClosed ∧
      ∀ path method entry n, (filtering (filterList "")).lastRoute? path method = some entry →
        (filtering (filterList "")).SendsListOf entry.2 n → (filtering (filterList "")).Needed n := by
  have run : (filtering (filterList "")).document.outcome.map
      (fun d => (d.pointers, d.definitions.keys)) =
        .ok (["Filter", "Filter"], ["ListRequest", "Filter"]) := by cbv
  obtain ⟨d, generated, references⟩ := map_eq_ok_iff.mp run
  have closed : d.IsClosed := by
    rw [Document.isClosed_iff_of_references references]
    decide
  exact ⟨d, generated, closed, (document_isClosed_iff generated).mp closed⟩

/-- When the list is a form member of a struct that the request embeds, the document
points to a definition that it does not have. -/
theorem filtering_embedding_not_isClosed :
    ∃ d, (filtering (.embedding "Paging")).document.outcome = .ok d ∧ ¬ d.IsClosed := by
  have run : (filtering (.embedding "Paging")).document.outcome.map
      (fun d => (d.pointers, d.definitions.keys)) = .ok (["Filter"], ["ListRequest"]) := by cbv
  obtain ⟨d, generated, references⟩ := map_eq_ok_iff.mp run
  refine ⟨d, generated, ?_⟩
  rw [Document.isClosed_iff_of_references references]
  decide

end Spec

end ApiDoc
