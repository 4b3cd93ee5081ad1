/-
# What a schema says of a type

The type of a member decides what kind of values its schema describes, and of what they
consist.  Comments, options and rules add to that and change none of it, and a parameter
shows the same elements as a property.  Only a list has elements, and only one other type
has the kind of a list: a scalar that happens to be called `array`, which is in no table and
keeps its name.
-/

import ApiDoc.Generate.Classification

namespace ApiDoc

/-! ## Schemas at any depth -/

namespace Schema

/-- A schema stands inside another one, at any depth: it is that one, or it stands inside the
schema of the elements or of a property. -/
inductive Contains : Schema → Schema → Prop
  | self (s : Schema) : Contains s s
  | items {s element inner : Schema} (elements : s.items = some element)
      (inside : Contains element inner) : Contains s inner
  | property {s value inner : Schema} {properties : Table Schema} {name : String}
      (object : s.properties = some properties) (listed : (name, value) ∈ properties.entries)
      (inside : Contains value inner) : Contains s inner

/-- A property of schemas holds at every depth. -/
def Everywhere (P : Schema → Prop) (s : Schema) : Prop :=
  ∀ inner, s.Contains inner → P inner

variable {s t : Schema} {P : Schema → Prop}

/-- What holds at every depth holds at the top, in the elements and in the properties. -/
theorem everywhere_iff :
    s.Everywhere P ↔ P s ∧ (∀ element, s.items = some element → element.Everywhere P) ∧
      ∀ properties name value, s.properties = some properties →
        (name, value) ∈ properties.entries → value.Everywhere P := by
  apply Iff.intro
  · intro holds
    refine ⟨holds s (.self s), ?_, ?_⟩
    · exact fun element elements inner inside => holds inner (.items elements inside)
    · exact fun properties name value object listed inner inside =>
        holds inner (.property object listed inside)
  · intro holds inner inside
    rcases holds with ⟨top, elementwise, propertywise⟩
    cases inside with
    | self => exact top
    | items elements inside => exact elementwise _ elements inner inside
    | property object listed inside => exact propertywise _ _ _ object listed inner inside

/-- A schema without properties contains, besides itself, what its elements contain. -/
theorem everywhere_iff_of_noProperties (noProperties : s.properties = none) :
    s.Everywhere P ↔ P s ∧ ∀ element, s.items = some element → element.Everywhere P := by
  rw [everywhere_iff, noProperties]
  simp

/-- A schema without elements and properties contains nothing but itself. -/
theorem everywhere_iff_of_plain (noItems : s.items = none) (noProperties : s.properties = none) :
    s.Everywhere P ↔ P s := by
  rw [everywhere_iff_of_noProperties noProperties, noItems]
  simp

/-! ## What comes from the type -/

/-- Two schemas describe values of the same type.  They may differ in what comments and tags
add. -/
structure SameType (s t : Schema) : Prop where
  kind : s.kind = t.kind
  format : s.format = t.format
  reference : s.reference = t.reference
  items : s.items = t.items
  properties : s.properties = t.properties

theorem SameType.trans {u : Schema} (first : s.SameType t) (second : t.SameType u) :
    s.SameType u :=
  ⟨first.kind.trans second.kind, first.format.trans second.format,
    first.reference.trans second.reference, first.items.trans second.items,
    first.properties.trans second.properties⟩

/-- An option of a tag changes nothing about the type. -/
theorem sameType_decorate (s : Schema) (option : String) : (s.decorate option).SameType s := by
  rw [decorate]
  split <;> exact ⟨rfl, rfl, rfl, rfl, rfl⟩

/-- The rules of a tag change nothing about the type. -/
theorem sameType_constrain (s : Schema) (rules : Tag) : (s.constrain rules).SameType s := by
  rw [constrain]
  split <;> exact ⟨rfl, rfl, rfl, rfl, rfl⟩

theorem SameType.everywhere_iff (same : s.SameType t) (top : P s ↔ P t) :
    s.Everywhere P ↔ t.Everywhere P := by
  rw [Schema.everywhere_iff, Schema.everywhere_iff (s := t), top, same.items, same.properties]

/-- The type of a schema is `array` exactly when the schema has elements. -/
def CarriesItems (s : Schema) : Prop :=
  s.items.isSome ↔ s.kind = some "array"

theorem SameType.carriesItems_iff (same : s.SameType t) : s.CarriesItems ↔ t.CarriesItems := by
  rw [CarriesItems, CarriesItems, same.items, same.kind]

end Schema

/-- The schema of a property describes values of the type of its member. -/
theorem TaggedMember.sameType_propertySchema (m : TaggedMember) :
    m.propertySchema.SameType m.member.type.schema := by
  have options : ∀ (options : List String) (s : Schema),
      (options.foldl Schema.decorate s).SameType s := by
    intro options
    induction options with
    | nil => exact fun s => ⟨rfl, rfl, rfl, rfl, rfl⟩
    | cons option rest ih =>
        exact fun s => (ih (s.decorate option)).trans (s.sameType_decorate option)
  have plain : ({ m.member.type.schema with description := m.member.commentText? } :
      Schema).SameType m.member.type.schema := ⟨rfl, rfl, rfl, rfl, rfl⟩
  rw [propertySchema]
  split
  · exact ((Schema.sameType_constrain _ _).trans (options _ _)).trans plain
  · exact (options _ _).trans plain

/-! ## Lists and their elements -/

theorem kind_ne_array_of_primitiveType? {name kind : String} {format : Option String}
    (known : primitiveType? name = some (kind, format)) : kind ≠ "array" := by
  have none : ∀ entry ∈ primitiveTypes, entry.2.1 ≠ "array" := by decide
  obtain ⟨before, after, split, -⟩ := List.lookup_eq_some_iff.mp known
  exact none (name, kind, format) (by rw [split]; simp)

@[simp] theorem items_scalarSchema (name : String) : (scalarSchema name).items = none := by
  rw [scalarSchema]
  split <;> rfl

@[simp] theorem properties_scalarSchema (name : String) :
    (scalarSchema name).properties = none := by
  rw [scalarSchema]
  split <;> rfl

/-- Among the scalars only one has the kind of a list. -/
theorem kind_scalarSchema_iff {name : String} :
    (scalarSchema name).kind = some "array" ↔ name = "array" := by
  have unlisted : primitiveType? "array" = none := by decide
  rw [scalarSchema]
  split
  · next kind format known =>
      refine iff_of_false ?_ ?_
      · exact fun same => kind_ne_array_of_primitiveType? known (Option.some.inj same)
      · rintro rfl
        cases unlisted.symm.trans known
  · exact Option.some_inj

namespace TypeExpr

/-- The types that a document shows where it shows a type: the one behind all pointers and,
if that is a list, those that it shows for the elements. -/
def layers : TypeExpr → List TypeExpr
  | pointer target => target.layers
  | array element => array element :: element.layers
  | scalar name => [scalar name]
  | map key value => [map key value]
  | reference name => [reference name]
  | dynamic => [dynamic]

/-- Nothing is a pointer that a document shows. -/
theorem behindPointers_of_mem_layers {type layer : TypeExpr} (shown : layer ∈ type.layers) :
    layer.behindPointers = layer := by
  induction type with
  | pointer target ih => exact ih shown
  | array element ih =>
      rcases List.mem_cons.mp shown with rfl | inside
      · rfl
      · exact ih inside
  | scalar | map | reference | dynamic => rw [List.mem_singleton.mp shown, behindPointers]; nofun

@[simp] theorem properties_schema (type : TypeExpr) : type.schema.properties = none := by
  induction type with
  | pointer target ih => exact ih
  | scalar name => exact properties_scalarSchema name
  | array | map | reference | dynamic => rfl

/-- The schema of a type contains those of its layers and no others. -/
theorem everywhere_schema_iff {P : Schema → Prop} (type : TypeExpr) :
    type.schema.Everywhere P ↔ ∀ layer ∈ type.layers, P layer.schema := by
  induction type with
  | pointer target ih => exact ih
  | array element ih =>
      rw [Schema.everywhere_iff_of_noProperties (properties_schema _), layers,
        List.forall_mem_cons, ← ih]
      simp [schema, Schema.arrayOf]
  | scalar name =>
      rw [layers, List.forall_mem_singleton]
      exact Schema.everywhere_iff_of_plain (items_scalarSchema name) (properties_schema _)
  | map | reference | dynamic =>
      rw [layers, List.forall_mem_singleton]
      exact Schema.everywhere_iff_of_plain rfl rfl

theorem everywhere_element {P : Schema → Prop} (type : TypeExpr)
    (holds : type.schema.Everywhere P) :
    ∀ element, type.schema.items = some element → element.Everywhere P :=
  ((Schema.everywhere_iff_of_noProperties type.properties_schema).mp holds).2

/-- Only lists have elements, and of what has the kind of a list only the scalar `array`
has none. -/
theorem isSome_items_schema_iff (type : TypeExpr) :
    type.schema.items.isSome ↔
      type.schema.kind = some "array" ∧ type.behindPointers ≠ .scalar "array" := by
  induction type with
  | pointer target ih => exact ih
  | array element => simp [schema, Schema.arrayOf, behindPointers]
  | scalar name => simp [schema, behindPointers, kind_scalarSchema_iff]
  | map key value => simp [schema, Schema.object]
  | reference name => simp [schema, Schema.referenceTo]
  | dynamic => simp [schema, Schema.object]

/-- The scalar `array` is the one type whose schema has the kind of a list and is marked as
unknown. -/
theorem isUnknownArray_schema_iff (type : TypeExpr) :
    type.schema.kind = some "array" ∧ type.schema.format = some unknownFormat ↔
      type.behindPointers = .scalar "array" := by
  induction type with
  | pointer target ih => exact ih
  | array element => simp [schema, Schema.arrayOf, behindPointers]
  | scalar name =>
      have marked : (scalarSchema "array").format = some unknownFormat := by decide
      simp only [schema, kind_scalarSchema_iff, behindPointers, scalar.injEq]
      exact and_iff_left_of_imp fun named => by rw [named, marked]
  | map key value => simp [schema, Schema.object, behindPointers]
  | reference name => simp [schema, Schema.referenceTo, behindPointers]
  | dynamic => simp [schema, Schema.object, behindPointers]

theorem carriesItems_schema_iff (type : TypeExpr) :
    type.schema.CarriesItems ↔ type.behindPointers ≠ .scalar "array" := by
  have elements := type.isSome_items_schema_iff
  apply Iff.intro
  · intro carries bare
    have isArray := (type.isUnknownArray_schema_iff.mpr bare).1
    exact (elements.mp (carries.mpr isArray)).2 bare
  · intro listed
    exact ⟨fun given => (elements.mp given).1, fun isArray => elements.mpr ⟨isArray, listed⟩⟩

/-- The schema of a type carries items at every depth unless the type comes down to the
scalar `array`. -/
theorem everywhere_carriesItems_iff (type : TypeExpr) :
    type.schema.Everywhere Schema.CarriesItems ↔ .scalar "array" ∉ type.layers := by
  rw [everywhere_schema_iff]
  apply Iff.intro
  · intro carries shown
    exact (carriesItems_schema_iff _).mp (carries _ shown) (behindPointers_of_mem_layers shown)
  · intro hidden layer shown
    rw [carriesItems_schema_iff, behindPointers_of_mem_layers shown]
    rintro rfl
    exact hidden shown

/-- A schema is an array with elements when it has the kind of one and is not marked as unknown. -/
theorem isSome_items_schema_iff_unmarked (type : TypeExpr) :
    type.schema.items.isSome ↔
      type.schema.kind = some "array" ∧ type.schema.format ≠ some unknownFormat := by
  rw [isSome_items_schema_iff]
  refine and_congr_right fun isArray => not_congr ?_
  rw [← isUnknownArray_schema_iff]
  exact and_iff_right isArray

end TypeExpr

namespace TaggedMember

/-- A parameter shows the elements that a property shows. -/
theorem items_parameterType (type : TypeExpr) :
    (parameterType type).2.2 = type.schema.items := by
  have elements := type.isSome_items_schema_iff
  rw [parameterType]
  split
  · rfl
  · next kind apart isKind =>
      rw [eq_comm, ← Option.not_isSome_iff_eq_none, elements, isKind]
      exact fun isArray => apart (Option.some.inj isArray.1)
  · next noKind =>
      rw [eq_comm, ← Option.not_isSome_iff_eq_none, elements, noKind]
      exact fun isArray => Option.some_ne_none _ isArray.1.symm

@[simp] theorem location_parameter (m : TaggedMember) (c : Classification) :
    (m.parameter c).location = c.location := by
  rw [parameter]
  by_cases inPath : c.location = .path
  · simp only [if_pos inPath]
    rfl
  · simp only [if_neg inPath]
    split <;> rfl

/-- A parameter outside the path shows the type and the comment of its member, and what the
options of one tag assign. -/
theorem parameter_eq_of_away (m : TaggedMember) {c : Classification} (away : c.location ≠ .path) :
    m.parameter c =
      { name := c.name
        location := c.location
        required := c.required
        description := m.member.commentText?
        kind := (parameterType m.member.type).1
        format := (parameterType m.member.type).2.1
        items := (parameterType m.member.type).2.2
        allowed := (((m.parameterTag? c.location).bind fun t => t.optionValue? "options").map
          listedValues).getD []
        default? := (m.parameterTag? c.location).bind fun t => t.optionValue? "default"
        example? := (m.parameterTag? c.location).bind fun t => t.optionValue? "example" } := by
  rw [parameter]
  simp only [if_neg away]
  cases m.parameterTag? c.location <;> rfl

/-- A parameter outside the path shows kind and elements, and it has no schema besides. -/
theorem parts_parameter (m : TaggedMember) {c : Classification} (away : c.location ≠ .path) :
    (m.parameter c).kind = (parameterType m.member.type).1 ∧
      (m.parameter c).items = m.member.type.schema.items ∧ (m.parameter c).schema = none := by
  rw [m.parameter_eq_of_away away, ← items_parameterType]
  exact ⟨rfl, rfl, rfl⟩

end TaggedMember

end ApiDoc
