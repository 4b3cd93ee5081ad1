/-
# Schemas

A schema describes the values of a property, a parameter or a response.  Every
part is optional; what is absent is left out when the schema is written.
-/

import ApiDoc.Json.Basic

namespace ApiDoc

/-- Bounds on a number.  An exclusive bound excludes the value that is stated. -/
structure NumericBounds where
  minimum : Option Number := none
  exclusiveMinimum : Option Bool := none
  maximum : Option Number := none
  exclusiveMaximum : Option Bool := none
  deriving DecidableEq, Repr, Inhabited

/-- Bounds on a length or count, both inclusive. -/
structure SizeBounds where
  least : Option Nat := none
  most : Option Nat := none
  deriving DecidableEq, Repr, Inhabited

/-- A schema. -/
structure Schema where
  /-- The kind of value: a primitive type, `array` or `object`. -/
  kind : Option String := none
  format : Option String := none
  /-- A pointer to a definition that takes the place of the schema. -/
  reference : Option String := none
  example? : Option String := none
  /-- The schema of the elements of an array. -/
  items : Option Schema := none
  /-- The allowed values; none are listed when all are allowed. -/
  allowed : List String := []
  default? : Option String := none
  properties : Option (Table Schema) := none
  description : Option String := none
  title : Option String := none
  bounds : NumericBounds := {}
  length : SizeBounds := {}
  /-- Bounds on the number of elements of an array. -/
  count : SizeBounds := {}
  /-- The names of the properties that must be present. -/
  required : List String := []
  deriving Inhabited

namespace Schema

/-- What stands in front of the name in a pointer to a definition. -/
def definitionPath : String := "#/definitions/"

/-- A value of a primitive kind. -/
def primitive (kind : String) (format : Option String) : Schema :=
  { kind := some kind, format := format }

/-- The definition of a struct. -/
def referenceTo (name : String) : Schema :=
  { reference := some (definitionPath ++ name) }

/-- A list of values. -/
def arrayOf (element : Schema) : Schema :=
  { kind := some "array", items := some element }

/-- An object about which nothing more is said. -/
def object : Schema :=
  { kind := some "object" }

/-- The definition a pointer leads to, if it leads to one. -/
def definitionName? (pointer : String) : Option String :=
  if definitionPath.toList.isPrefixOf pointer.toList then
    some (String.ofList (pointer.toList.drop definitionPath.length))
  else none

end Schema

namespace NumericBounds

/-- The members of an object that state the bounds. -/
def members (b : NumericBounds) : List (String × Json) :=
  Json.optional "minimum" b.minimum .number ++
  Json.optional "exclusiveMinimum" b.exclusiveMinimum .bool ++
  Json.optional "maximum" b.maximum .number ++
  Json.optional "exclusiveMaximum" b.exclusiveMaximum .bool

end NumericBounds

namespace SizeBounds

/-- The members of an object that state the bounds under the given names. -/
def members (least most : String) (b : SizeBounds) : List (String × Json) :=
  Json.optional least b.least .ofNat ++ Json.optional most b.most .ofNat

end SizeBounds

namespace Schema

mutual

/-- The JSON value of a schema; absent parts are left out. -/
def toJson : Schema → Json
  | { kind, format, reference, example?, items, allowed, default?, properties, description,
      title, bounds, length, count, required } =>
    .object <|
      Json.optional "type" kind .string ++
      Json.optional "format" format .string ++
      Json.optional "$ref" reference .string ++
      Json.optional "example" example? .string ++
      itemsMember items ++
      Json.nonempty "enum" allowed .strings ++
      Json.optional "default" default? .string ++
      propertiesMember properties ++
      Json.optional "description" description .string ++
      Json.optional "title" title .string ++
      bounds.members ++
      length.members "minLength" "maxLength" ++
      count.members "minItems" "maxItems" ++
      Json.nonempty "required" required .strings

/-- The member for the elements of an array. -/
def itemsMember : Option Schema → List (String × Json)
  | none => []
  | some element => [("items", element.toJson)]

/-- The member for the properties of an object. -/
def propertiesMember : Option (Table Schema) → List (String × Json)
  | none => []
  | some ⟨entries⟩ => [("properties", .object (entriesToJson entries))]

/-- Entries with the JSON values of their schemas. -/
def entriesToJson : List (String × Schema) → List (String × Json)
  | [] => []
  | (name, schema) :: rest => (name, schema.toJson) :: entriesToJson rest

end

end Schema

end ApiDoc
