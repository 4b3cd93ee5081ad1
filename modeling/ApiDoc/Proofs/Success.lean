/-
# When a description has a document

A document needs the structs that its routes name and, transitively, those that
the definitions of needed structs point to.  Generation succeeds exactly when every
needed struct exists and has a definition.  Routes add nothing to that condition: a
request that has a definition also has parameters.
-/

import ApiDoc.Generate.Document
import ApiDoc.Proofs.DefinitionSet
import ApiDoc.Proofs.Request
import ApiDoc.Proofs.RouteTable

namespace ApiDoc

namespace Spec

/-! ## The structs that a document needs -/

/-- The structs that a document needs: those that a route with one of the five
methods names, and those behind the types of the members that survive in the
definition of a needed struct. -/
inductive Needed (spec : Spec) : String → Prop
  | route {entry : Group × Route} {name : String} (listed : entry ∈ spec.supportedRoutes)
      (named : name ∈ entry.2.typeNames) : Needed spec name
  | property {name target : String} {s : StructType} {members : List TaggedMember}
      {m : TaggedMember} (needed : Needed spec name) (found : spec.findType? name = some s)
      (definable : spec.IsDefinable s)
      (contributed : (spec.contributions s).outcome = .ok members)
      (survives : Survives members m) (points : m.member.type.target? = some target) :
      Needed spec target

variable {spec : Spec} {name target : String}

theorem exists_defines_iff :
    (∃ schema, spec.Defines name schema) ↔
      ∃ s, spec.findType? name = some s ∧ spec.IsDefinable s := by
  have same : ∀ s, spec.findType? name = some s →
      ((∃ schema, (spec.synthesize s).outcome = .ok schema) ↔ spec.IsDefinable s) := by
    intro s found
    apply exists_synthesize_iff
    rw [name_of_findType? found]
    exact found
  apply Iff.intro
  · intro defined
    rcases defined with ⟨schema, s, found, made⟩
    exact ⟨s, found, (same s found).mp ⟨schema, made⟩⟩
  · intro known
    rcases known with ⟨s, found, definable⟩
    obtain ⟨schema, made⟩ := (same s found).mpr definable
    exact ⟨schema, s, found, made⟩

/-- A definition is made of the members that are contributed to it. -/
theorem contributions_of_defines {schema : Schema} (defined : spec.Defines name schema) :
    ∃ s members, spec.findType? name = some s ∧ spec.IsDefinable s ∧
      (spec.contributions s).outcome = .ok members ∧ s.definition members = schema := by
  rcases defined with ⟨s, found, made⟩
  obtain ⟨s', found', definable⟩ := exists_defines_iff.mp ⟨schema, s, found, made⟩
  obtain rfl : s = s' := Option.some.inj (found.symm.trans found')
  obtain ⟨-, members, contributed, result⟩ := synthesize_eq_ok_iff.mp made
  exact ⟨s, members, found, definable, contributed, result⟩

/-- A name refers to what its definition refers to. -/
theorem mem_referencesOf_iff_defines :
    target ∈ spec.referencesOf name ↔
      ∃ schema, spec.Defines name schema ∧ target ∈ schema.references := by
  apply Iff.intro
  · intro refers
    cases found : spec.findType? name with
    | none =>
        rw [referencesOf, found] at refers
        cases refers
    | some s =>
        cases made : (spec.synthesize s).outcome with
        | error e =>
            simp only [referencesOf, found, made] at refers
            cases refers
        | ok schema =>
            rw [referencesOf_eq found made] at refers
            exact ⟨schema, ⟨s, found, made⟩, refers⟩
  · intro reference
    rcases reference with ⟨schema, ⟨s, found, made⟩, refers⟩
    rw [referencesOf_eq found made]
    exact refers

/-- A name refers to what the members point to that survive in its definition. -/
theorem mem_referencesOf_iff :
    target ∈ spec.referencesOf name ↔
      ∃ s members m, spec.findType? name = some s ∧ spec.IsDefinable s ∧
        (spec.contributions s).outcome = .ok members ∧ Survives members m ∧
          m.member.type.target? = some target := by
  rw [mem_referencesOf_iff_defines]
  apply Iff.intro
  · intro reference
    rcases reference with ⟨schema, made, refers⟩
    obtain ⟨s, members, found, definable, contributed, rfl⟩ := contributions_of_defines made
    obtain ⟨m, survives, points⟩ := StructType.mem_references_definition_iff.mp refers
    exact ⟨s, members, m, found, definable, contributed, survives, points⟩
  · intro reference
    rcases reference with ⟨s, members, m, found, definable, contributed, survives, points⟩
    obtain ⟨schema, made⟩ := exists_defines_iff.mpr ⟨s, found, definable⟩
    obtain ⟨s', members', found', -, contributed', rfl⟩ := contributions_of_defines made
    obtain rfl : s = s' := Option.some.inj (found.symm.trans found')
    obtain rfl : members = members' := Except.ok.inj (contributed.symm.trans contributed')
    exact ⟨_, made, StructType.mem_references_definition_iff.mpr ⟨m, survives, points⟩⟩

/-- A document needs what the definition of a needed struct refers to. -/
theorem Needed.reference (needed : spec.Needed name) (refers : target ∈ spec.referencesOf name) :
    spec.Needed target := by
  obtain ⟨s, members, m, found, definable, contributed, survives, points⟩ :=
    mem_referencesOf_iff.mp refers
  exact Needed.property needed found definable contributed survives points

/-- The closure of the structs that routes name is what a document needs. -/
theorem mem_closure_iff_needed {roots : List String}
    (named : ∀ n, n ∈ roots ↔ ∃ entry ∈ spec.supportedRoutes, n ∈ entry.2.typeNames) :
    name ∈ spec.closure roots ↔ spec.Needed name := by
  have limit := spec.closure_isLimit roots
  apply Iff.intro
  · intro reached
    refine Closure.forall_mem_stage ?_ ?_ _ name reached
    · intro n root
      obtain ⟨entry, listed, names⟩ := (named n).mp root
      exact Needed.route listed names
    · intro n needed target refers
      exact needed.reference refers
  -- The induction is on why the document needs the name.
  · intro needed
    induction needed with
    | @route entry name listed names =>
        exact limit.root_mem ((named name).mpr ⟨entry, listed, names⟩)
    | @property name target s members m _ found definable contributed survives points ih =>
        refine limit.next_mem ih ?_
        exact mem_referencesOf_iff.mpr
          ⟨s, members, m, found, definable, contributed, survives, points⟩

/-! ## Definitions and routes -/

/-- The roots that a table of routes hands on are the structs that routes name. -/
theorem mem_roots_iff {t : RouteTable} (finished : spec.routeTable.outcome = .ok t) (n : String) :
    n ∈ t.referenced.entries.map Prod.fst ↔
      ∃ entry ∈ spec.supportedRoutes, n ∈ entry.2.typeNames := by
  have keys := (isLastWriterWins_of_routeTable finished).names
  show n ∈ t.referenced.keys ↔ _
  rw [keys, List.mem_eraseDups, List.mem_flatMap]

/-- The definitions of a document are those of the structs it needs. -/
theorem definitions_of_routeTable {t : RouteTable} {definitions : Table Schema}
    (finished : spec.routeTable.outcome = .ok t)
    (made : (spec.definitions t.referenced.entries).outcome = .ok definitions) :
    (∀ n, n ∈ definitions.keys ↔ spec.Needed n) ∧
      ∀ n schema, (n, schema) ∈ definitions.entries → spec.Defines n schema := by
  let roots := t.referenced.entries
  rw [outcome_definitions, map_eq_ok_iff] at made
  rcases made with ⟨entries, run, rfl⟩
  obtain ⟨keys, values⟩ :=
    entries_of_mapM_pair (f := fun n => spec.definitionOf n (spec.requester roots n)) run
  apply And.intro
  · intro n
    rw [← mem_closure_iff_needed (mem_roots_iff finished), ← keys]
    rfl
  · intro n schema listed
    exact definitionOf_eq_ok_iff.mp (values (n, schema) listed)

/-- When every struct that a document needs has a definition, every route with one of
the five methods has an operation. -/
theorem exists_operationOf_of_needed {entry : Group × Route}
    (listed : entry ∈ spec.supportedRoutes)
    (definable : ∀ n, spec.Needed n → ∃ s, spec.findType? n = some s ∧ spec.IsDefinable s) :
    ∃ o, spec.operationOf entry = .ok o := by
  have parameters : ∃ parameters, (spec.parametersOf entry.2).outcome = .ok parameters := by
    rw [parametersOf]
    cases request : named? entry.2.requestType with
    | none => exact ⟨[], rfl⟩
    | some name =>
        have named : name ∈ entry.2.typeNames := by
          rw [Route.typeNames, request]
          exact List.mem_cons_self
        obtain ⟨s, found, sDefinable⟩ := definable name (Needed.route listed named)
        simp only [found]
        exact exists_requestParameters_of_isDefinable sDefinable _
  rcases parameters with ⟨parameters, run⟩
  rw [operationOf, operation, Logged.outcome_bind, run]
  exact ⟨_, rfl⟩

theorem exists_routeTable_of_needed
    (definable : ∀ n, spec.Needed n → ∃ s, spec.findType? n = some s ∧ spec.IsDefinable s) :
    ∃ t, spec.routeTable.outcome = .ok t :=
  exists_routeTable_of_operations fun _ listed => exists_operationOf_of_needed listed definable

theorem exists_definitions_of_needed {t : RouteTable}
    (finished : spec.routeTable.outcome = .ok t)
    (definable : ∀ n, spec.Needed n → ∃ s, spec.findType? n = some s ∧ spec.IsDefinable s) :
    ∃ definitions, (spec.definitions t.referenced.entries).outcome = .ok definitions := by
  let roots := t.referenced.entries
  have each : ∀ n ∈ spec.closure (roots.map Prod.fst),
      ∃ entry, Definitions.entryOf spec roots n = .ok entry := by
    intro n reached
    have needed : spec.Needed n := (mem_closure_iff_needed (mem_roots_iff finished)).mp reached
    obtain ⟨schema, made⟩ := exists_defines_iff.mpr (definable n needed)
    exact ⟨(n, schema), entryOf_eq_ok_iff.mpr ⟨schema, made, rfl⟩⟩
  obtain ⟨entries, run⟩ := exists_mapM_eq_ok_iff.mpr each
  refine ⟨⟨entries⟩, ?_⟩
  rw [outcome_definitions, map_eq_ok_iff]
  exact ⟨entries, run, rfl⟩

/-- A document is put together from the table of all routes and the definitions of
the structs that routes name. -/
theorem document_eq_ok_iff {d : Document} :
    spec.document.outcome = .ok d ↔
      ∃ t definitions, spec.routeTable.outcome = .ok t ∧
        (spec.definitions t.referenced.entries).outcome = .ok definitions ∧
          spec.assemble t definitions = d := by
  simp only [document, Logged.outcome_bind, Logged.outcome_report, Logged.outcome_pure,
    bind_eq_ok_iff, Except.ok.injEq]
  apply Iff.intro
  · intro generated
    rcases generated with ⟨t, finished, definitions, made, -, -, assembled⟩
    exact ⟨t, definitions, finished, made, assembled⟩
  · intro generated
    rcases generated with ⟨t, definitions, finished, made, assembled⟩
    exact ⟨t, finished, definitions, made, (), trivial, assembled⟩

/-! ## The condition -/

/-- Generation succeeds exactly when every struct that the document needs exists and
has a definition.  Routes never fail when that is so. -/
theorem document_succeeds_iff (spec : Spec) :
    ((∃ d, spec.document.outcome = .ok d) ↔
      ∀ n, spec.Needed n → ∃ s, spec.findType? n = some s ∧ spec.IsDefinable s) ∧
    ((∀ n, spec.Needed n → ∃ s schema, spec.findType? n = some s ∧
        (spec.synthesize s).outcome = .ok schema) →
      ∃ t, spec.routeTable.outcome = .ok t) := by
  apply And.intro
  · apply Iff.intro
    · intro generated n needed
      rcases generated with ⟨d, generated⟩
      obtain ⟨t, definitions, finished, made, rfl⟩ := document_eq_ok_iff.mp generated
      obtain ⟨keys, defined⟩ := definitions_of_routeTable finished made
      obtain ⟨entry, listed, rfl⟩ := List.mem_map.mp ((keys n).mpr needed)
      exact exists_defines_iff.mp ⟨entry.2, defined entry.1 entry.2 listed⟩
    · intro definable
      obtain ⟨t, finished⟩ := exists_routeTable_of_needed definable
      obtain ⟨definitions, made⟩ := exists_definitions_of_needed finished definable
      exact ⟨spec.assemble t definitions, document_eq_ok_iff.mpr
        ⟨t, definitions, finished, made, rfl⟩⟩
  · intro defined
    apply exists_routeTable_of_needed
    intro n needed
    obtain ⟨s, schema, found, made⟩ := defined n needed
    exact exists_defines_iff.mp ⟨schema, s, found, made⟩

end Spec

end ApiDoc
