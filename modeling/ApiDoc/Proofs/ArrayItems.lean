/-
# Where arrays carry items

A list gives a schema of the kind `array` that carries the schema of its elements, and nothing
else has elements.  But a scalar keeps its name as its kind when it is in no table, and a
scalar may be called `array`.  Where a document shows that one there is an array without
items; a property is then marked as unknown.  In all other documents an array carries items
wherever it is.

A parameter for a struct takes the bare name of the struct as its kind.  In what was loaded from
a text such a name starts with a capital, so it is never `array`.
-/

import ApiDoc.Proofs.Expansion
import ApiDoc.Proofs.NestedTypes
import ApiDoc.Proofs.SentParameters
import ApiDoc.Proofs.SpecJson
import ApiDoc.Proofs.Success
import Mathlib

namespace ApiDoc

open Source Text
open Reading (ofResult_eq_value_iff)

/-! ## The schemas and parameters of a document -/

namespace Document

/-- A document has an operation on a path, for a method. -/
def HasOperation (d : Document) (path : String) (method : Method) (o : Operation) : Prop :=
  ∃ item, (path, item) ∈ d.paths.entries ∧ item.operation? method = some o

/-- A document has a schema, at any depth: in a response or a parameter of one of its operations
or in one of its definitions. -/
inductive HasSchema (d : Document) : Schema → Prop
  | response {path status : String} {method : Method} {o : Operation} {response : Response}
      {s : Schema} (present : d.HasOperation path method o)
      (listed : (status, response) ∈ o.responses.entries) (inside : response.schema.Contains s) :
      HasSchema d s
  | parameter {path : String} {method : Method} {o : Operation} {p : Parameter}
      {outer s : Schema} (present : d.HasOperation path method o) (listed : p ∈ o.parameters)
      (given : p.items = some outer ∨ p.schema = some outer) (inside : outer.Contains s) :
      HasSchema d s
  | definition {name : String} {outer s : Schema}
      (listed : (name, outer) ∈ d.definitions.entries) (inside : outer.Contains s) :
      HasSchema d s

/-- Arrays carry items: a schema, and likewise a parameter outside the body, has elements
exactly when its type is `array`. -/
structure CarriesItems (d : Document) : Prop where
  schemas : ∀ s, d.HasSchema s → s.CarriesItems
  parameters : ∀ path method o, d.HasOperation path method o → ∀ p ∈ o.parameters,
    p.location ≠ .body → (p.items.isSome ↔ p.kind = some "array")

end Document

namespace Spec

/-- A member is a property of a definition that a document needs. -/
def ShowsProperty (spec : Spec) (m : TaggedMember) : Prop :=
  ∃ name s members, spec.Needed name ∧ spec.findType? name = some s ∧
    (spec.contributions s).outcome = .ok members ∧ Survives members m

/-- A member is a parameter of its own, on a route that is the last one at its place. -/
def ShowsParameter (spec : Spec) (m : TaggedMember) : Prop :=
  ∃ path method entry, spec.lastRoute? path method = some entry ∧ spec.Sends entry.2 m

end Spec

/-! ## Definitions -/

section Definitions

variable {P : Schema → Prop} {spec : Spec} {d : Document}
  (plain : ∀ s : Schema, s.kind ≠ some "array" → s.items = none → P s)
  (typed : ∀ s t : Schema, s.SameType t → (P s ↔ P t))

include plain in
theorem Schema.everywhere_referenceTo (name : String) : (referenceTo name).Everywhere P :=
  (everywhere_iff_of_plain rfl rfl).mpr (plain _ (Option.some_ne_none _).symm rfl)

include plain in
/-- The schema of a response is a reference, or empty. -/
theorem Schema.everywhere_elim_referenceTo (name? : Option String) :
    (name?.elim {} referenceTo).Everywhere P := by
  cases name? with
  | none => exact (everywhere_iff_of_plain rfl rfl).mpr (plain _ (Option.some_ne_none _).symm rfl)
  | some name => exact everywhere_referenceTo plain name

include plain typed in
/-- What holds of a definition is decided by the types of its properties. -/
theorem StructType.everywhere_definition_iff (s : StructType) (members : List TaggedMember) :
    (s.definition members).Everywhere P ↔
      ∀ m, Survives members m → m.member.type.schema.Everywhere P := by
  have top : P (s.definition members) := plain _ (by simp [definition, Schema.object]) rfl
  have same : ∀ m : TaggedMember,
      m.propertySchema.Everywhere P ↔ m.member.type.schema.Everywhere P :=
    fun m => m.sameType_propertySchema.everywhere_iff (typed _ _ m.sameType_propertySchema)
  rw [Schema.everywhere_iff]
  apply Iff.intro
  · intro holds m survives
    exact (same m).mp (holds.2.2 _ _ _ rfl
      (PropertyList.mem_properties_iff.mpr ⟨m, survives, rfl, rfl⟩))
  · intro holds
    have noItems : (s.definition members).items = none := rfl
    refine ⟨top, by simp [noItems], ?_⟩
    rintro properties key value ⟨⟩ listed
    obtain ⟨m, survives, -, rfl⟩ := PropertyList.mem_properties_iff.mp listed
    exact (same m).mpr (holds m survives)

namespace Spec

/-- The operations of a document are those of the last routes. -/
theorem hasOperation_iff (generated : spec.document.outcome = .ok d) {path : String}
    {method : Method} {o : Operation} :
    d.HasOperation path method o ↔
      ∃ entry, spec.lastRoute? path method = some entry ∧ spec.operationOf entry = .ok o := by
  obtain ⟨t, definitions, finished, -, rfl⟩ := document_eq_ok_iff.mp generated
  have wins := isLastWriterWins_of_routeTable finished
  exact wins.mem_paths_iff.trans wins.operation?_eq_some_iff

/-- The last route at a place has an operation in the document. -/
theorem exists_hasOperation (generated : spec.document.outcome = .ok d) {path : String}
    {method : Method} {entry : Group × Route} (last : spec.lastRoute? path method = some entry) :
    ∃ o, d.HasOperation path method o ∧ spec.operationOf entry = .ok o := by
  obtain ⟨t, definitions, finished, -, -⟩ := document_eq_ok_iff.mp generated
  obtain ⟨o, built⟩ := operationOf_of_routeTable finished (mem_supportedRoutes_of_lastRoute? last)
  exact ⟨o, (hasOperation_iff generated).mpr ⟨entry, last, built⟩, built⟩

/-- The definitions of a document are those of the structs that it needs. -/
theorem mem_definitions_iff (generated : spec.document.outcome = .ok d) {name : String}
    {schema : Schema} :
    (name, schema) ∈ d.definitions.entries ↔ ∃ s members, spec.Needed name ∧
      spec.findType? name = some s ∧ (spec.contributions s).outcome = .ok members ∧
        s.definition members = schema := by
  obtain ⟨t, definitions, finished, made, rfl⟩ := document_eq_ok_iff.mp generated
  obtain ⟨keys, defined⟩ := definitions_of_routeTable finished made
  apply Iff.intro
  · intro listed
    have needed : spec.Needed name := (keys name).mp (List.mem_map.mpr ⟨_, listed, rfl⟩)
    obtain ⟨s, members, found, -, contributed, made⟩ :=
      contributions_of_defines (defined name schema listed)
    exact ⟨s, members, needed, found, contributed, made⟩
  · intro shown
    rcases shown with ⟨s, members, needed, found, contributed, rfl⟩
    obtain ⟨⟨name', schema⟩, listed, rfl⟩ := List.mem_map.mp ((keys name).mpr needed)
    obtain ⟨s', members', found', -, contributed', rfl⟩ :=
      contributions_of_defines (defined name' schema listed)
    obtain rfl : s = s' := Option.some.inj (found.symm.trans found')
    obtain rfl : members = members' := Except.ok.inj (contributed.symm.trans contributed')
    exact listed

include plain typed in
/-- What holds of all schemas of a document is decided by the types of its properties, and by
the elements of its parameters. -/
theorem forall_hasSchema_iff (generated : spec.document.outcome = .ok d) :
    (∀ s, d.HasSchema s → P s) ↔
      (∀ m, spec.ShowsProperty m → m.member.type.schema.Everywhere P) ∧
        ∀ m, spec.ShowsParameter m → ∀ element, m.member.type.schema.items = some element →
          element.Everywhere P := by
  apply Iff.intro
  · intro holds
    apply And.intro
    · intro m shown
      rcases shown with ⟨name, s, members, needed, found, contributed, survives⟩
      have listed := (mem_definitions_iff generated).mpr
        ⟨s, members, needed, found, contributed, rfl⟩
      have inside : (s.definition members).Everywhere P :=
        fun inner inside => holds inner (.definition listed inside)
      exact (s.everywhere_definition_iff plain typed members).mp inside m survives
    · intro m shown element elements inner inside
      rcases shown with ⟨path, method, entry, last, sends⟩
      obtain ⟨o, present, built⟩ := exists_hasOperation generated last
      have listed := (mem_parameters_operationOf built).1 ⟨m, sends, rfl⟩
      refine holds inner (.parameter present listed (Or.inl ?_) inside)
      rw [Route.parameterOf, (m.parts_parameter sends.notInPath).2.1, elements]
  · intro holds s has
    rcases holds with ⟨inProperties, inParameters⟩
    cases has with
    | @response path status method o response s present listed inside =>
        obtain ⟨entry, last, built⟩ := (hasOperation_iff generated).mp present
        rw [responses_operationOf built, List.mem_singleton] at listed
        obtain ⟨rfl, rfl⟩ := Prod.mk.inj listed
        exact Schema.everywhere_elim_referenceTo plain _ s inside
    | @parameter path method o p outer s present listed given inside =>
        obtain ⟨entry, last, built⟩ := (hasOperation_iff generated).mp present
        rcases (mem_parameters_operationOf built).2 listed with
          ⟨m, sends, rfl⟩ | ⟨token, rfl⟩ | ⟨request, -, rfl⟩
        · have parts := m.parts_parameter sends.notInPath
          rw [Route.parameterOf, parts.2.1, parts.2.2] at given
          rcases given with elements | nothing
          · exact inParameters m ⟨path, method, entry, last, sends⟩ outer elements s inside
          · cases nothing
        · rcases given with nothing | nothing <;> cases nothing
        · rcases given with nothing | body
          · cases nothing
          · obtain rfl := Option.some.inj body
            exact Schema.everywhere_referenceTo plain request.name s inside
    | @definition name outer s listed inside =>
        obtain ⟨struct, members, needed, found, contributed, rfl⟩ :=
          (mem_definitions_iff generated).mp listed
        refine (struct.everywhere_definition_iff plain typed members).mpr ?_ s inside
        exact fun m survives =>
          inProperties m ⟨name, struct, members, needed, found, contributed, survives⟩

end Spec

end Definitions

/-! ## Declared members -/

namespace Spec

variable {spec : Spec} {m : TaggedMember}

/-- What stands for a member of a struct is declared, there or in a struct that it embeds. -/
theorem exists_declared_of_mem_expansion {s : StructType} (known : s ∈ spec.types) {n : Member}
    (expanded : n ∈ spec.expansion s) : ∃ inner ∈ spec.types, n ∈ inner.members := by
  obtain ⟨outer, listed, standsIn⟩ := List.mem_flatMap.mp expanded
  rw [standIns] at standsIn
  split at standsIn
  · split at standsIn
    · next inner found => exact ⟨inner, mem_of_findType? found, List.mem_of_mem_filter standsIn⟩
    · cases standsIn
  · split at standsIn
    · cases standsIn
    · rw [List.mem_singleton.mp standsIn]
      exact ⟨s, known, listed⟩

theorem ShowsProperty.declared (shown : spec.ShowsProperty m) :
    ∃ s ∈ spec.types, m.member ∈ s.members := by
  rcases shown with ⟨name, s, members, -, found, contributed, survives⟩
  obtain ⟨n, expanded, read⟩ :=
    (mem_results_iff (mapM_tagged_of_contributions contributed)).mp survives.mem
  rw [Member.member_of_tagged read]
  exact exists_declared_of_mem_expansion (mem_of_findType? found) expanded

theorem ShowsParameter.declared (shown : spec.ShowsParameter m) :
    ∃ s ∈ spec.types, m.member ∈ s.members := by
  rcases shown with ⟨path, method, entry, -, sends⟩
  exact sends.declared

end Spec

/-! ## The kind of a parameter -/

/-- A parameter has the kind of a list exactly when a property of its type has. -/
theorem TaggedMember.kind_parameterType_iff {type : TypeExpr} (wellFormed : type.IsWellFormed) :
    (parameterType type).1 = some "array" ↔ type.schema.kind = some "array" := by
  rw [parameterType]
  split
  · next isArray => rw [isArray]
  · next isKind => rw [isKind]
  · next noKind =>
      obtain ⟨n, denotes⟩ := TypeExpr.kind_schema_eq_none_iff.mp noKind
      obtain ⟨c, head, upper⟩ := (TypeExpr.isWellFormed_of_structName? wellFormed denotes).2.2
      rw [noKind, TypeExpr.dropWhile_text_of_structName? wellFormed denotes, String.ofList_toList]
      refine iff_of_false ?_ (Option.some_ne_none _).symm
      intro same
      obtain rfl : n = "array" := Option.some.inj same
      obtain rfl : 'a' = c := Option.some.inj head
      exact absurd upper (by decide)

namespace Spec

variable {ν : Type} [Source ν] {v : ν} {spec : Spec} {d : Document}

/-- The types of a description that was loaded are those that reading produces. -/
theorem isWellFormed_of_decode (loaded : Spec.decode v = .ok spec) :
    ∀ s ∈ spec.types, ∀ m ∈ s.members, m.type.IsWellFormed := by
  have ofMember : ∀ (v : ν) (m : Member), Member.decode v = .ok m → m.type.IsWellFormed := by
    intro v m read
    obtain ⟨fields, -, -, -, type, -⟩ := Member.decode_eq_ok_iff.mp read
    refine Fields.of_field (P := TypeExpr.IsWellFormed) type nofun fun v t read => ?_
    obtain ⟨s, -, run⟩ := TypeExpr.decode_eq_ok_iff.mp read
    exact TypeExpr.isWellFormed_of_readTrimmed run
  have ofStruct : ∀ (v : ν) (s : StructType), StructType.decode v = .ok s →
      ∀ m ∈ s.members, m.type.IsWellFormed := by
    intro v s read
    obtain ⟨fields, -, -, -, members, -⟩ := StructType.decode_eq_ok_iff.mp read
    refine Fields.of_field (P := fun l => ∀ m ∈ l, m.type.IsWellFormed) members ?_
      fun v l => of_list ofMember
    rintro l ⟨⟩ m ⟨⟩
  obtain ⟨fields, -, -, -, -, types⟩ := Spec.decode_eq_ok_iff.mp loaded
  refine Fields.of_field (P := fun l => ∀ s ∈ l, ∀ m ∈ s.members, m.type.IsWellFormed) types ?_
    fun v l => of_list ofStruct
  rintro l ⟨⟩ s ⟨⟩

/-- A parameter of its own shows kind and elements as a property does. -/
theorem parts_parameterOf (loaded : Spec.decode v = .ok spec) {r : Route} {m : TaggedMember}
    (sends : spec.Sends r m) :
    (r.parameterOf m).items = m.member.type.schema.items ∧
      ((r.parameterOf m).kind = some "array" ↔ m.member.type.schema.kind = some "array") := by
  obtain ⟨s, known, declared⟩ := sends.declared
  have wellFormed := isWellFormed_of_decode loaded s known m.member declared
  have parts := m.parts_parameter sends.notInPath
  rw [Route.parameterOf, parts.1, parts.2.1]
  exact ⟨rfl, TaggedMember.kind_parameterType_iff wellFormed⟩

/-! ## The document -/

/-- A schema of a document has elements exactly when its type is `array` and it is not marked
as unknown. -/
theorem isSome_items_iff_of_hasSchema (generated : spec.document.outcome = .ok d) {s : Schema}
    (has : d.HasSchema s) :
    s.items.isSome ↔ s.kind = some "array" ∧ s.format ≠ some unknownFormat := by
  let Marks (s : Schema) : Prop :=
    s.items.isSome ↔ s.kind = some "array" ∧ s.format ≠ some unknownFormat
  have plain : ∀ s : Schema, s.kind ≠ some "array" → s.items = none → Marks s := by
    intro s notArray noItems
    simp [Marks, notArray, noItems]
  have typed : ∀ s t : Schema, s.SameType t → (Marks s ↔ Marks t) := by
    intro s t same
    simp only [Marks, same.items, same.kind, same.format]
  have everywhere : ∀ type : TypeExpr, type.schema.Everywhere Marks := fun type =>
    type.everywhere_schema_iff.mpr fun layer _ => layer.isSome_items_schema_iff_unmarked
  refine (forall_hasSchema_iff plain typed generated).mpr ⟨?_, ?_⟩ s has
  · exact fun m _ => everywhere m.member.type
  · exact fun m _ => m.member.type.everywhere_element (everywhere m.member.type)

/-- A parameter of a document has elements exactly when its type is `array` and it does not
show the scalar `array`. -/
theorem isSome_items_iff_of_parameter (loaded : Spec.decode v = .ok spec)
    (generated : spec.document.outcome = .ok d) {path : String} {method : Method} {o : Operation}
    (present : d.HasOperation path method o) {p : Parameter} (listed : p ∈ o.parameters)
    (outside : p.location ≠ .body) :
    p.items.isSome ↔ p.kind = some "array" ∧
      ∀ entry m, spec.lastRoute? path method = some entry → spec.Sends entry.2 m →
        p = entry.2.parameterOf m → m.member.type.behindPointers ≠ .scalar "array" := by
  obtain ⟨entry, last, built⟩ := (hasOperation_iff generated).mp present
  rcases (mem_parameters_operationOf built).2 listed with
    ⟨m, sends, rfl⟩ | ⟨token, rfl⟩ | ⟨request, -, rfl⟩
  · obtain ⟨items, kind⟩ := parts_parameterOf loaded sends
    apply Iff.intro
    · intro given
      apply And.intro
      · rw [items] at given
        exact kind.mpr (m.member.type.isSome_items_schema_iff.mp given).1
      -- Whichever member gives the same parameter gives the same elements.
      · intro entry' m' last' sends' same
        rw [same, (parts_parameterOf loaded sends').1] at given
        exact (m'.member.type.isSome_items_schema_iff.mp given).2
    · intro isList
      rw [items, m.member.type.isSome_items_schema_iff]
      exact ⟨kind.mp isList.1, isList.2 entry m last sends rfl⟩
  · exact iff_of_false nofun fun isList => absurd (Option.some.inj isList.1) (by decide)
  · exact absurd rfl outside

/-- Arrays carry items wherever they are exactly when no type that the document shows comes
down to the scalar `array`. -/
theorem carriesItems_iff (loaded : Spec.decode v = .ok spec)
    (generated : spec.document.outcome = .ok d) :
    d.CarriesItems ↔ ∀ m, spec.ShowsProperty m ∨ spec.ShowsParameter m →
      .scalar "array" ∉ m.member.type.layers := by
  have plain : ∀ s : Schema, s.kind ≠ some "array" → s.items = none → s.CarriesItems := by
    intro s notArray noItems
    simp [Schema.CarriesItems, notArray, noItems]
  have everywhere := forall_hasSchema_iff plain (fun s t => Schema.SameType.carriesItems_iff)
    generated
  simp only [← TypeExpr.everywhere_carriesItems_iff]
  apply Iff.intro
  · intro carries m shown
    obtain ⟨inProperties, inParameters⟩ := everywhere.mp carries.schemas
    rcases shown with shown | shown
    · exact inProperties m shown
    · have elements := inParameters m shown
      rcases shown with ⟨path, method, entry, last, sends⟩
      obtain ⟨o, present, built⟩ := exists_hasOperation generated last
      have listed := (mem_parameters_operationOf built).1 ⟨m, sends, rfl⟩
      have top := carries.parameters path method o present _ listed sends.notInBody
      obtain ⟨items, kind⟩ := parts_parameterOf loaded sends
      rw [items, kind] at top
      exact (Schema.everywhere_iff_of_noProperties m.member.type.properties_schema).mpr
        ⟨top, elements⟩
  · intro shows
    apply Document.CarriesItems.mk
    · refine everywhere.mpr ⟨fun m shown => shows m (Or.inl shown), fun m shown => ?_⟩
      exact m.member.type.everywhere_element (shows m (Or.inr shown))
    · intro path method o present p listed outside
      rw [isSome_items_iff_of_parameter loaded generated present listed outside]
      refine and_iff_left fun entry m last sends _ => ?_
      have shown : spec.ShowsParameter m := ⟨path, method, entry, last, sends⟩
      exact m.member.type.carriesItems_schema_iff.mp (shows m (Or.inr shown) _ (.self _))

/-- In the document of a description that was loaded, a schema has elements exactly when its
type is `array` and it is not marked as unknown, and a parameter outside the body exactly when
its type is `array` and it does not show the scalar `array`.  So arrays carry items wherever
they are exactly when no type that the document shows comes down to that scalar. -/
theorem document_carriesItems_unless_scalarArray (loaded : Spec.decode v = .ok spec)
    (generated : spec.document.outcome = .ok d) :
    (∀ s, d.HasSchema s →
      (s.items.isSome ↔ s.kind = some "array" ∧ s.format ≠ some unknownFormat)) ∧
    (∀ path method o, d.HasOperation path method o → ∀ p ∈ o.parameters, p.location ≠ .body →
      (p.items.isSome ↔ p.kind = some "array" ∧
        ∀ entry m, spec.lastRoute? path method = some entry → spec.Sends entry.2 m →
          p = entry.2.parameterOf m → m.member.type.behindPointers ≠ .scalar "array")) ∧
    (d.CarriesItems ↔ ∀ m, spec.ShowsProperty m ∨ spec.ShowsParameter m →
      .scalar "array" ∉ m.member.type.layers) := by
  refine ⟨fun s has => isSome_items_iff_of_hasSchema generated has, ?_,
    carriesItems_iff loaded generated⟩
  intro path method o present p listed outside
  exact isSome_items_iff_of_parameter loaded generated present listed outside

/-- A service whose only route reads: it takes and gives a struct with one member. -/
def pages (type : TypeExpr) : Spec where
  service := { name := "pages"
               groups := [{ routes := [{ method := "get", path := "/pages", handler := "list"
                                         requestType := some "Page"
                                         responseType := some "Page" }] }] }
  types := [{ name := "Page", members := [{ name := "Rows", type := type }] }]

/-- The service as a value, with the text of the type. -/
def pagesJson (text : String) : Json :=
  .object [
    ("service", .object [
      ("name", .string "pages"),
      ("groups", .array [.object [("routes", .array [.object [
        ("method", .string "get"), ("path", .string "/pages"), ("handler", .string "list"),
        ("requestType", .string "Page"), ("responseType", .string "Page")]])]])]),
    ("types", .array [.object [
      ("name", .string "Page"),
      ("members", .array [.object [("name", .string "Rows"), ("type", .string text)]])]])]

theorem decode_pagesJson {text : String} {type : TypeExpr} (read : TypeExpr.read text = .ok type) :
    Spec.decode (pagesJson text) = .ok (pages type) := by
  have rows : Member.decode (Json.object [("name", .string "Rows"), ("type", .string text)]) =
      .ok { name := "Rows", type := type } :=
    Member.decode_eq_ok_iff.mpr ⟨_, rfl, rfl, rfl,
      ofResult_eq_value_iff.mpr (TypeExpr.decode_eq_ok_iff.mpr ⟨_, rfl, read⟩), rfl, rfl, rfl, rfl⟩
  have page : StructType.decode (Json.object [("name", .string "Page"), ("members", .array
      [.object [("name", .string "Rows"), ("type", .string text)]])]) =
      .ok { name := "Page", members := [{ name := "Rows", type := type }] } :=
    StructType.decode_eq_ok_iff.mpr
      ⟨_, rfl, rfl, rfl, ofResult_eq_value_iff.mpr (decodeEach_cons rows rfl), rfl⟩
  exact Spec.decode_eq_ok_iff.mpr
    ⟨_, rfl, rfl, rfl, rfl, ofResult_eq_value_iff.mpr (decodeEach_cons page rfl)⟩

/-- With a list in the struct, arrays carry items wherever the document has one. -/
theorem pages_list_carriesItems :
    Spec.decode (pagesJson "[]any") = .ok (pages (.array .dynamic)) ∧
      ∃ d, (pages (.array .dynamic)).document.outcome = .ok d ∧ d.CarriesItems := by
  have loaded := decode_pagesJson (show TypeExpr.read "[]any" = .ok (.array .dynamic) by cbv)
  have run : (pages (.array .dynamic)).document.outcome.map (fun d => d.definitions.keys) =
      .ok ["Page"] := by cbv
  obtain ⟨d, generated, -⟩ := map_eq_ok_iff.mp run
  refine ⟨loaded, d, generated, ?_⟩
  refine (document_carriesItems_unless_scalarArray loaded generated).2.2.mpr fun m shown => ?_
  obtain ⟨s, known, declared⟩ := shown.elim ShowsProperty.declared ShowsParameter.declared
  obtain rfl := List.mem_singleton.mp known
  rw [List.mem_singleton.mp declared]
  decide

/-- With the scalar `array` in the struct, the property of that type has no items. -/
theorem pages_scalarArray_not_carriesItems :
    Spec.decode (pagesJson "array") = .ok (pages (.scalar "array")) ∧
      ∃ d, (pages (.scalar "array")).document.outcome = .ok d ∧ ¬ d.CarriesItems := by
  have read : TypeExpr.read "array" = .ok (.scalar "array") := by
    have trimmed : trim "array".toList = ['a', 'r', 'r', 'a', 'y'] := by decide
    rw [TypeExpr.read, trimmed, TypeExpr.readTrimmed]
    · decide +kernel
    all_goals simp
  have run : (pages (.scalar "array")).document.outcome.map (fun d =>
      (d.definitions.get? "Page").bind fun page => page.properties.bind fun properties =>
        (properties.get? "Rows").map fun rows => (rows.kind, rows.items.isSome)) =
      .ok (some (some "array", false)) := by cbv
  obtain ⟨d, generated, shown⟩ := map_eq_ok_iff.mp run
  obtain ⟨page, isPage, shown⟩ := Option.bind_eq_some_iff.mp shown
  obtain ⟨properties, object, shown⟩ := Option.bind_eq_some_iff.mp shown
  obtain ⟨rows, isRows, shown⟩ := Option.map_eq_some_iff.mp shown
  obtain ⟨isArray, noItems⟩ := Prod.mk.inj shown
  have inside : d.HasSchema rows := .definition (Table.mem_entries_of_get? isPage)
    (.property object (Table.mem_entries_of_get? isRows) (.self rows))
  refine ⟨decode_pagesJson read, d, generated, fun carries => ?_⟩
  have items := (carries.schemas rows inside).mpr isArray
  rw [noItems] at items
  cases items

end Spec

end ApiDoc
