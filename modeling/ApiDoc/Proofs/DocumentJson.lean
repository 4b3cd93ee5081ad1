/-
# A written document is told from every other

Each record of a document has a layout, so a record is told from every other as soon as its
parts are.  Schemas contain schemas, and for them the argument goes from the inside to the
outside; the other records contain only records of kinds that come before them.  In the end
two documents that are written alike are the same document, the order of every table
included.
-/

import ApiDoc.Document.Basic
import ApiDoc.Proofs.Layout

namespace ApiDoc

open Json

attribute [ext] NumericBounds SizeBounds Schema Parameter

/-! ## Schemas -/

namespace Schema

/-- The schema of the elements is smaller than the schema around it. -/
theorem sizeOf_lt_of_mem_items {s element : Schema} (inside : s.items = some element) :
    sizeOf element < sizeOf s := by
  cases s
  obtain rfl := inside
  simp only [Schema.mk.sizeOf_spec, Option.some.sizeOf_spec]
  omega

/-- The schema of a property is smaller than the schema around it. -/
theorem sizeOf_lt_of_mem_properties {s : Schema} {table : Table Schema}
    (present : s.properties = some table) {entry : String × Schema} (listed : entry ∈ table.entries) :
    sizeOf entry.2 < sizeOf s := by
  have inTable := List.sizeOf_lt_of_mem listed
  obtain ⟨entries⟩ := table
  obtain ⟨name, schema⟩ := entry
  cases s
  obtain rfl := present
  simp only [Schema.mk.sizeOf_spec, Option.some.sizeOf_spec, Table.mk.sizeOf_spec,
    Prod.mk.sizeOf_spec] at inTable ⊢
  omega

theorem itemsMember_eq (items : Option Schema) :
    itemsMember items = Json.optional "items" items toJson := by
  cases items <;> rfl

theorem entriesToJson_eq (entries : List (String × Schema)) :
    entriesToJson entries = entries.map fun entry => (entry.1, entry.2.toJson) := by
  induction entries with
  | nil => rfl
  | cons entry rest ih => rw [entriesToJson, ih, List.map_cons]

theorem propertiesMember_eq (properties : Option (Table Schema)) :
    propertiesMember properties = Json.optional "properties" properties (Json.table toJson) := by
  cases properties with
  | none => rfl
  | some table => rw [propertiesMember, entriesToJson_eq]; rfl

/-- The fields of a schema as it is written. -/
def layout : Layout Schema where
  fields := [
    .optional "type" kind string,
    .optional "format" format string,
    .optional "$ref" reference string,
    .optional "example" example? string,
    .optional "items" items toJson,
    .nonempty "enum" allowed strings,
    .optional "default" default? string,
    .optional "properties" properties (table toJson),
    .optional "description" description string,
    .optional "title" title string,
    -- The parts of the bounds stand among the others, each under a name of its own.
    .optional "minimum" (·.bounds.minimum) number,
    .optional "exclusiveMinimum" (·.bounds.exclusiveMinimum) bool,
    .optional "maximum" (·.bounds.maximum) number,
    .optional "exclusiveMaximum" (·.bounds.exclusiveMaximum) bool,
    .optional "minLength" (·.length.least) ofNat,
    .optional "maxLength" (·.length.most) ofNat,
    .optional "minItems" (·.count.least) ofNat,
    .optional "maxItems" (·.count.most) ofNat,
    .nonempty "required" required strings]
  complete a b same := by
    simp only [List.forall_mem_cons, Field.optional, Field.nonempty] at same
    simp only [Schema.ext_iff, NumericBounds.ext_iff, SizeBounds.ext_iff, same, and_self]

theorem toJson_eq : toJson = layout.write := by
  funext s
  cases s
  rw [toJson, itemsMember_eq, propertiesMember_eq]
  simp [Layout.write, layout, NumericBounds.members, SizeBounds.members]

/-- Nothing else is written as a schema is. -/
@[simp] theorem tells_toJson (s : Schema) : Tells toJson s := by
  -- The only schemas inside a schema are that of its elements and those of its properties.
  have inItems : (Field.optional "items" items toJson).IsTold s :=
    Field.isTold_optional fun element inside => element.tells_toJson
  have inProperties : (Field.optional "properties" properties (table toJson)).IsTold s :=
    Field.isTold_optional fun table present =>
      tells_table fun entry listed => entry.2.tells_toJson
  have told : ∀ field ∈ layout.fields, field.IsTold s := by
    simp [layout, inItems, inProperties]
  rw [toJson_eq]
  exact layout.tells_write told
termination_by sizeOf s
decreasing_by
  · exact sizeOf_lt_of_mem_items inside
  · exact sizeOf_lt_of_mem_properties present listed

end Schema

/-! ## Operations -/

/-- The four locations have different names. -/
theorem Location.name_injective : Function.Injective Location.name := by
  intro a b same
  cases a <;> cases b <;> simp_all [name]

namespace Parameter

def layout : Layout Parameter where
  fields := [
    .required "name" name string,
    .optional "description" description string,
    .required "in" (·.location.name) string,
    .required "required" required bool,
    .optional "type" kind string,
    .optional "format" format string,
    .optional "items" items Schema.toJson,
    .nonempty "enum" allowed strings,
    .optional "default" default? string,
    .optional "example" example? string,
    .optional "schema" schema Schema.toJson]
  complete a b same := by
    simp only [List.forall_mem_cons, Field.required, Field.optional, Field.nonempty] at same
    have location : a.location = b.location := Location.name_injective same.2.2.1
    simp only [Parameter.ext_iff, same, location, and_self]

theorem toJson_eq : toJson = layout.write := by
  funext p
  simp [toJson, Layout.write, layout]

@[simp] theorem tells_toJson (p : Parameter) : Tells toJson p := by
  rw [toJson_eq]
  exact layout.tells_write (by simp [layout])

end Parameter

namespace Response

def layout : Layout Response where
  fields := [.required "description" description string, .required "schema" schema Schema.toJson]

theorem toJson_eq : toJson = layout.write := by
  funext r
  simp [toJson, Layout.write, layout]

@[simp] theorem tells_toJson (r : Response) : Tells toJson r := by
  rw [toJson_eq]
  exact layout.tells_write (by simp [layout])

end Response

namespace Operation

def layout : Layout Operation where
  fields := [
    .optional "summary" summary string,
    .optional "description" description string,
    .required "operationId" operationId string,
    .required "responses" responses (table Response.toJson),
    .nonempty "parameters" parameters (fun ps => array (ps.map Parameter.toJson)),
    .nonempty "tags" tags strings,
    .optional "security" security (fun rs => array (rs.map requirementToJson))]

theorem toJson_eq : toJson = layout.write := by
  funext o
  simp [toJson, Layout.write, layout]

@[simp] theorem tells_requirementToJson (requirement : Table (List String)) :
    Tells requirementToJson requirement :=
  tells_table fun entry _ => tells_strings entry.2

@[simp] theorem tells_toJson (o : Operation) : Tells toJson o := by
  rw [toJson_eq]
  exact layout.tells_write (by simp [layout])

end Operation

namespace PathItem

def layout : Layout PathItem where
  fields := [
    .optional "get" get Operation.toJson,
    .optional "delete" delete Operation.toJson,
    .optional "post" post Operation.toJson,
    .optional "put" put Operation.toJson,
    .optional "patch" patch Operation.toJson]

theorem toJson_eq : toJson = layout.write := by
  funext item
  simp [toJson, Layout.write, layout]

@[simp] theorem tells_toJson (item : PathItem) : Tells toJson item := by
  rw [toJson_eq]
  exact layout.tells_write (by simp [layout])

end PathItem

/-! ## Documents -/

namespace Contact

def layout : Layout Contact where
  fields := [.optional "name" name string, .optional "email" email string]

theorem toJson_eq : toJson = layout.write := by
  funext c
  simp [toJson, Layout.write, layout]

@[simp] theorem tells_toJson (c : Contact) : Tells toJson c := by
  rw [toJson_eq]
  exact layout.tells_write (by simp [layout])

end Contact

namespace Info

def layout : Layout Info where
  fields := [
    .required "title" title string,
    .optional "description" description string,
    .required "version" version string,
    .optional "contact" contact Contact.toJson]

theorem toJson_eq : toJson = layout.write := by
  funext i
  simp [toJson, Layout.write, layout]

@[simp] theorem tells_toJson (i : Info) : Tells toJson i := by
  rw [toJson_eq]
  exact layout.tells_write (by simp [layout])

end Info

namespace SecurityScheme

def layout : Layout SecurityScheme where
  fields := [
    .required "type" kind string,
    .optional "description" description string,
    .optional "name" name string,
    .optional "in" location string]

theorem toJson_eq : toJson = layout.write := by
  funext s
  simp [toJson, Layout.write, layout]

@[simp] theorem tells_toJson (s : SecurityScheme) : Tells toJson s := by
  rw [toJson_eq]
  exact layout.tells_write (by simp [layout])

end SecurityScheme

namespace Document

def layout : Layout Document where
  fields := [
    .required "swagger" swagger string,
    .required "info" info Info.toJson,
    .optional "host" host string,
    .optional "basePath" basePath string,
    .required "schemes" schemes strings,
    .required "consumes" consumes strings,
    .required "produces" produces strings,
    .required "paths" paths (table PathItem.toJson),
    .required "definitions" definitions (table Schema.toJson),
    .required "securityDefinitions" securityDefinitions (table SecurityScheme.toJson)]

theorem toJson_eq : toJson = layout.write := by
  funext d
  simp [toJson, Layout.write, layout]

theorem tells_toJson (d : Document) : Tells toJson d := by
  rw [toJson_eq]
  exact layout.tells_write (by simp [layout])

/-- Two documents that are written alike are the same, with the order of all their tables,
and so are two operations, two parameters and two schemas. -/
theorem toJson_loses_nothing :
    Function.Injective Document.toJson ∧ Function.Injective Operation.toJson ∧
      Function.Injective Parameter.toJson ∧ Function.Injective Schema.toJson :=
  ⟨tells_toJson, Operation.tells_toJson, Parameter.tells_toJson, Schema.tells_toJson⟩

end Document

end ApiDoc
