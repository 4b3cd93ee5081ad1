/-
# Query parameters and properties

The same member can be sent in the query string and be a property of a definition.  The
parameter takes its type from the schema of the member's type and its decorations from the
`form` tag, where the first option that assigns a value counts.  The property has the schema
itself, decorated by the options of all tags, of which the last one counts.  They agree where
the type has the same form in both and no option is assigned in two places.
-/

import ApiDoc.Proofs.NestedTypes
import ApiDoc.Proofs.ParameterLayout
import ApiDoc.Proofs.SentParameters
import ApiDoc.Proofs.TagText

namespace ApiDoc

/-! ## The values that options assign -/

namespace Tag

/-- The keys of the options that decorate a parameter or a property. -/
def decorationKeys : List String :=
  ["default", "options", "example"]

/-- The value that an option assigns to a key. -/
def assigned? (key option : String) : Option String :=
  (assignment? option).bind fun assignment =>
    if assignment.1 = key then some assignment.2 else none

/-- The values that the options of a tag assign to a key, in order. -/
def assigned (t : Tag) (key : String) : List String :=
  t.options.filterMap (assigned? key)

/-- A tag answers with the first value that it assigns. -/
theorem optionValue?_eq_head? (t : Tag) (key : String) :
    t.optionValue? key = (t.assigned key).head? := by
  rw [assigned, List.head?_filterMap, optionValue?]
  congr 1
  funext option
  rw [assigned?]
  cases assignment? option <;> rfl

end Tag

namespace Schema

/-- An option replaces the part of a schema that belongs to the key it assigns to, and nothing
else. -/
theorem decorate_eq (s : Schema) (option : String) :
    s.decorate option =
      { s with
        default? := ((Tag.assigned? "default" option).map some).getD s.default?
        allowed := ((Tag.assigned? "options" option).map listedValues).getD s.allowed
        example? := ((Tag.assigned? "example" option).map some).getD s.example? } := by
  simp only [decorate, Tag.assigned?]
  cases Tag.assignment? option with
  | none =>
      cases s
      rfl
  | some assignment =>
      obtain ⟨key, value⟩ := assignment
      by_cases isDefault : key = "default"
      · subst isDefault
        rfl
      by_cases isOptions : key = "options"
      · subst isOptions
        rfl
      by_cases isExample : key = "example"
      · subst isExample
        rfl
      cases s
      simp [isDefault, isOptions, isExample]

/-- When every option replaces a part of a schema by what it assigns to a key, a run of options
leaves there the last value that is assigned. -/
theorem foldl_decorate_eq {γ : Type} (part : Schema → γ) (key : String) (shown : String → γ)
    (replaces : ∀ (s : Schema) (option : String),
      part (s.decorate option) = ((Tag.assigned? key option).map shown).getD (part s))
    (options : List String) (s : Schema) :
    part (options.foldl decorate s) =
      ((options.filterMap (Tag.assigned? key)).getLast?.map shown).getD (part s) := by
  induction options generalizing s with
  | nil => rfl
  | cons option rest ih =>
      rw [List.foldl_cons, ih, replaces, List.filterMap_cons]
      cases Tag.assigned? key option with
      | none => rfl
      | some value =>
          rw [List.getLast?_cons]
          cases (rest.filterMap (Tag.assigned? key)).getLast? <;> rfl

/-- Two schemas have the same decorations and the same description. -/
structure SameDecorations (s t : Schema) : Prop where
  default? : s.default? = t.default?
  allowed : s.allowed = t.allowed
  example? : s.example? = t.example?
  description : s.description = t.description

theorem SameDecorations.trans {s t u : Schema} (first : s.SameDecorations t)
    (second : t.SameDecorations u) : s.SameDecorations u :=
  ⟨first.default?.trans second.default?, first.allowed.trans second.allowed,
    first.example?.trans second.example?, first.description.trans second.description⟩

/-- The rules of a tag change no decorations. -/
theorem sameDecorations_constrain (s : Schema) (rules : Tag) :
    (s.constrain rules).SameDecorations s := by
  rw [constrain]
  split <;> exact ⟨rfl, rfl, rfl, rfl⟩

/-- A schema without decorations shows the last value that a run of options assigns to each
key. -/
theorem sameDecorations_foldl_decorate {s : Schema} (options : List String)
    (undecorated : s.SameDecorations { description := s.description }) :
    (options.foldl decorate s).SameDecorations
      { default? := (options.filterMap (Tag.assigned? "default")).getLast?
        allowed := ((options.filterMap (Tag.assigned? "options")).getLast?.map listedValues).getD []
        example? := (options.filterMap (Tag.assigned? "example")).getLast?
        description := s.description } := by
  apply SameDecorations.mk
  case default? =>
    rw [foldl_decorate_eq Schema.default? "default" some fun s option => by rw [decorate_eq],
      undecorated.default?]
    cases (options.filterMap (Tag.assigned? "default")).getLast? <;> rfl
  case allowed =>
    rw [foldl_decorate_eq Schema.allowed "options" listedValues fun s option => by rw [decorate_eq],
      undecorated.allowed]
  case example? =>
    rw [foldl_decorate_eq Schema.example? "example" some fun s option => by rw [decorate_eq],
      undecorated.example?]
    cases (options.filterMap (Tag.assigned? "example")).getLast? <;> rfl
  case description =>
    refine List.foldlRecOn (motive := fun t : Schema => t.description = s.description) _ _ rfl ?_
    intro t kept option _
    rw [decorate_eq]
    exact kept

end Schema

/-- The schema of a type has no decorations of its own. -/
theorem TypeExpr.sameDecorations_schema (type : TypeExpr) : type.schema.SameDecorations {} := by
  induction type with
  | pointer target ih => exact ih
  | scalar name =>
      rw [schema, scalarSchema]
      split <;> exact ⟨rfl, rfl, rfl, rfl⟩
  | array | map | reference | dynamic => exact ⟨rfl, rfl, rfl, rfl⟩

namespace TaggedMember

/-- The values that the options of all tags assign to a key, in order. -/
def assigned (m : TaggedMember) (key : String) : List String :=
  m.tags.flatMap fun t => t.assigned key

/-- A property is decorated with the last value that is assigned to each key. -/
theorem decorations_propertySchema (m : TaggedMember) :
    m.propertySchema.SameDecorations
      { default? := (m.assigned "default").getLast?
        allowed := ((m.assigned "options").getLast?.map listedValues).getD []
        example? := (m.assigned "example").getLast?
        description := m.member.commentText? } := by
  have options : ∀ key, (m.tags.flatMap Tag.options).filterMap (Tag.assigned? key) =
      m.assigned key := fun key => List.filterMap_flatMap
  have plain := m.member.type.sameDecorations_schema
  have decorated := Schema.sameDecorations_foldl_decorate (m.tags.flatMap Tag.options)
    (s := { m.member.type.schema with description := m.member.commentText? })
    ⟨plain.default?, plain.allowed, plain.example?, rfl⟩
  simp only [options] at decorated
  rw [propertySchema]
  split
  · exact (Schema.sameDecorations_constrain _ _).trans decorated
  · exact decorated

end TaggedMember

/-! ## The type of a parameter -/

theorem TypeExpr.format_schema_of_array {type : TypeExpr} (isArray : type.schema.kind = some "array")
    (listed : type.behindPointers ≠ .scalar "array") : type.schema.format = none := by
  induction type with
  | pointer target ih => exact ih isArray listed
  | array element => rfl
  | scalar name =>
      obtain rfl := kind_scalarSchema_iff.mp isArray
      exact absurd rfl listed
  | map | reference | dynamic => rfl

namespace TaggedMember

/-- A parameter shows the whole schema of a type that is neither a struct nor the scalar
`array`. -/
theorem parameterType_eq {type : TypeExpr} (plain : type.structName? = none)
    (listed : type.behindPointers ≠ .scalar "array") :
    parameterType type = (type.schema.kind, type.schema.format, type.schema.items) := by
  have shown : (parameterType type).1 = type.schema.kind ∧
      (parameterType type).2.1 = type.schema.format := by
    rw [parameterType]
    split
    · next isArray => exact ⟨isArray.symm, (TypeExpr.format_schema_of_array isArray listed).symm⟩
    · next isKind => exact ⟨isKind.symm, rfl⟩
    · next noKind =>
        obtain ⟨n, denotes⟩ := TypeExpr.kind_schema_eq_none_iff.mp noKind
        rw [plain] at denotes
        cases denotes
  exact Prod.ext shown.1 (Prod.ext shown.2 (items_parameterType type))

end TaggedMember

/-! ## Agreement -/

/-- A parameter shows the same type, the same decorations and the same description as a
schema. -/
structure Parameter.AgreesWith (p : Parameter) (s : Schema) : Prop where
  kind : p.kind = s.kind
  format : p.format = s.format
  items : p.items = s.items
  allowed : p.allowed = s.allowed
  default? : p.default? = s.default?
  example? : p.example? = s.example?
  description : p.description = s.description

namespace TaggedMember

variable {m : TaggedMember}

/-- The options that decorate stand in the `form` tag alone, at most one for each key. -/
structure DecoratesOnce (m : TaggedMember) : Prop where
  inForm : ∀ key ∈ Tag.decorationKeys, ∀ t ∈ m.tags, t.key ≠ Tag.formKey → t.assigned key = []
  once : ∀ key ∈ Tag.decorationKeys, ∀ t ∈ m.tags, (t.assigned key).length ≤ 1

/-- With one option for a key, the first value in the `form` tag is the last one in all tags. -/
theorem DecoratesOnce.optionValue?_eq (decorates : m.DecoratesOnce)
    (distinct : (m.tags.map Tag.key).Nodup) {key : String} (decorated : key ∈ Tag.decorationKeys) :
    ((m.tag? Tag.formKey).bind fun t => t.optionValue? key) = (m.assigned key).getLast? := by
  rw [assigned, flatMap_eq_of_find?_key distinct (decorates.inForm key decorated)]
  show (m.tag? Tag.formKey).bind _ = (((m.tag? Tag.formKey).map _).getD []).getLast?
  cases form : m.tag? Tag.formKey with
  | none => rfl
  | some t =>
      have single := decorates.once key decorated t (List.mem_of_find?_eq_some form)
      show t.optionValue? key = (t.assigned key).getLast?
      rw [Tag.optionValue?_eq_head?]
      match t.assigned key, single with
      | [], _ => rfl
      | [value], _ => rfl

end TaggedMember

/-- On a route that only reads, a member that is not part of the path is shown by its
parameter as it would be by its property.  The exceptions are types that a parameter cannot
show, structs and the scalar `array`, and options that decorate one and not the other. -/
theorem Route.parameterOf_agreesWith {m : Member} {tagged : TaggedMember}
    (read : m.tagged = .ok tagged) (plain : m.isInline = false)
    (offPath : tagged.tag? Tag.pathKey = none) (notStruct : m.type.structName? = none)
    (listed : m.type.behindPointers ≠ .scalar "array") (decorates : tagged.DecoratesOnce)
    {r : Route} (reads : isReadOnly r.method = true) :
    (r.parameterOf tagged).location = .query ∧
      (r.parameterOf tagged).AgreesWith tagged.propertySchema := by
  have itself : tagged.member = m := Member.member_of_tagged read
  have inQuery : (tagged.classify (isReadOnly r.method)).location = .query := by
    simp [TaggedMember.location_classify, itself, plain, offPath, reads]
  have away : (tagged.classify (isReadOnly r.method)).location ≠ .path := by
    rw [inQuery]
    decide
  have distinct := (Tag.areWellFormed_of_tagged read).distinct
  have value : ∀ key ∈ Tag.decorationKeys,
      ((tagged.parameterTag? .query).bind fun t => t.optionValue? key) =
        (tagged.assigned key).getLast? :=
    fun key decorated => decorates.optionValue?_eq distinct decorated
  have sameType := tagged.sameType_propertySchema
  have decorations := tagged.decorations_propertySchema
  rw [itself] at sameType decorations
  refine ⟨by rw [Route.parameterOf, TaggedMember.location_parameter, inQuery], ?_⟩
  rw [Route.parameterOf, tagged.parameter_eq_of_away away, inQuery, itself,
    TaggedMember.parameterType_eq notStruct listed]
  apply Parameter.AgreesWith.mk
  case kind => exact sameType.kind.symm
  case format => exact sameType.format.symm
  case items => exact sameType.items.symm
  case allowed => rw [decorations.allowed, ← value "options" (by decide)]
  case default? => rw [decorations.default?, ← value "default" (by decide)]
  case example? => rw [decorations.example?, ← value "example" (by decide)]
  case description => exact decorations.description.symm

/-- A list of numbers with a comment, a default and a choice of values. -/
def sizes : Member :=
  { name := "Sizes", type := .pointer (.array (.scalar "int64"))
    tag := "json:\"sizes\" form:\"size,optional, default =8,options=8|16\" validate:\"min=1\""
    comment := "// Sizes of a batch." }

/-- The tags of that member. -/
def sizesTags : List Tag :=
  [⟨"json", "sizes", []⟩, ⟨"form", "size", ["optional", "default =8", "options=8|16"]⟩,
    ⟨"validate", "min=1", []⟩]

/-- A route that only reads. -/
def listBatches : Route :=
  { method := "Get", path := "/batches", handler := "list" }

/-- The list is shown alike as a parameter and as a property. -/
theorem sizes_agreesWith :
    sizes.tagged = .ok ⟨sizes, sizesTags⟩ ∧ TaggedMember.DecoratesOnce ⟨sizes, sizesTags⟩ ∧
      isReadOnly listBatches.method = true ∧
      (listBatches.parameterOf ⟨sizes, sizesTags⟩).AgreesWith
        (TaggedMember.propertySchema ⟨sizes, sizesTags⟩) := by
  have read : sizes.tagged = .ok ⟨sizes, sizesTags⟩ := by cbv
  have decorates : TaggedMember.DecoratesOnce ⟨sizes, sizesTags⟩ := ⟨by decide, by decide⟩
  have reads : isReadOnly listBatches.method = true := by cbv
  have agrees := Route.parameterOf_agreesWith read rfl (by cbv) (by cbv) (by decide) decorates reads
  exact ⟨read, decorates, reads, agrees.2⟩

end ApiDoc
