/-
# Parameters and operations

An operation is what a document says about one route: its parameters, its
response and its documentation.  This module supplies both types and their JSON
values.
-/

import ApiDoc.Document.Schema

namespace ApiDoc

/-- Where a parameter travels. -/
inductive Location where
  | path
  | query
  | header
  | body
  deriving DecidableEq, Repr

/-- The name of a location in a document. -/
def Location.name : Location → String
  | path => "path"
  | query => "query"
  | header => "header"
  | body => "body"

/-- A parameter of an operation. -/
structure Parameter where
  name : String
  description : Option String := none
  location : Location
  required : Bool := true
  /-- The primitive kind, for parameters outside the body. -/
  kind : Option String := none
  format : Option String := none
  /-- The schema of the elements of a list. -/
  items : Option Schema := none
  /-- The allowed values; none are listed when all are allowed. -/
  allowed : List String := []
  default? : Option String := none
  example? : Option String := none
  schema : Option Schema := none

namespace Parameter

/-- A required string at a location. -/
def text (name : String) (location : Location) : Parameter :=
  { name := name, location := location, kind := some "string" }

/-- The parameter for a body whose schema is the definition of a struct. -/
def bodyOf (definition : String) : Parameter :=
  { name := "body", location := .body, schema := some (.referenceTo definition) }

/-- The JSON value of a parameter; absent parts are left out. -/
def toJson (p : Parameter) : Json :=
  .object <|
    [("name", .string p.name)] ++
    Json.optional "description" p.description .string ++
    [("in", .string p.location.name), ("required", .bool p.required)] ++
    Json.optional "type" p.kind .string ++
    Json.optional "format" p.format .string ++
    Json.optional "items" p.items Schema.toJson ++
    Json.nonempty "enum" p.allowed .strings ++
    Json.optional "default" p.default? .string ++
    Json.optional "example" p.example? .string ++
    Json.optional "schema" p.schema Schema.toJson

end Parameter

/-- A response of an operation. -/
structure Response where
  description : String
  /-- The schema of the body; without any part when there is no body. -/
  schema : Schema := {}

/-- The JSON value of a response. -/
def Response.toJson (r : Response) : Json :=
  .object [("description", .string r.description), ("schema", r.schema.toJson)]

/-- An operation. -/
structure Operation where
  summary : Option String := none
  description : Option String := none
  operationId : String
  responses : Table Response := .empty
  parameters : List Parameter := []
  /-- The tags under which the operation is listed. -/
  tags : List String := []
  /-- What a caller must present: by scheme, the scopes that are needed. -/
  security : Option (List (Table (List String))) := none

namespace Operation

/-- The JSON value of a security requirement. -/
def requirementToJson (requirement : Table (List String)) : Json :=
  .table .strings requirement

/-- The JSON value of an operation; absent parts are left out. -/
def toJson (o : Operation) : Json :=
  .object <|
    Json.optional "summary" o.summary .string ++
    Json.optional "description" o.description .string ++
    [("operationId", .string o.operationId),
      ("responses", .table Response.toJson o.responses)] ++
    Json.nonempty "parameters" o.parameters (fun ps => .array (ps.map Parameter.toJson)) ++
    Json.nonempty "tags" o.tags .strings ++
    Json.optional "security" o.security (fun rs => .array (rs.map requirementToJson))

end Operation

end ApiDoc
