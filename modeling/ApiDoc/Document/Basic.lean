/-
# Documents

The document that is generated from a description: general information, a table
of paths, a table of definitions and the security schemes.  The order of the
members in its JSON value is fixed, and the tables keep their own order.
-/

import ApiDoc.Document.PathItem

namespace ApiDoc

/-- Whom to ask about an API. -/
structure Contact where
  name : Option String := none
  email : Option String := none
  deriving DecidableEq, Repr

/-- General information about an API. -/
structure Info where
  title : String
  description : Option String := none
  version : String
  contact : Option Contact := none
  deriving DecidableEq, Repr

/-- A way for callers to prove who they are. -/
structure SecurityScheme where
  kind : String
  description : Option String := none
  /-- The name of the header or parameter that carries the proof. -/
  name : Option String := none
  location : Option String := none
  deriving DecidableEq, Repr

/-- A document. -/
structure Document where
  swagger : String
  info : Info
  host : Option String := none
  basePath : Option String := none
  schemes : List String
  consumes : List String
  produces : List String
  paths : Table PathItem
  definitions : Table Schema
  securityDefinitions : Table SecurityScheme

/-- The JSON value of a contact. -/
def Contact.toJson (c : Contact) : Json :=
  .object (Json.optional "name" c.name .string ++ Json.optional "email" c.email .string)

/-- The JSON value of the general information. -/
def Info.toJson (i : Info) : Json :=
  .object <|
    [("title", .string i.title)] ++
    Json.optional "description" i.description .string ++
    [("version", .string i.version)] ++
    Json.optional "contact" i.contact Contact.toJson

/-- The JSON value of a security scheme. -/
def SecurityScheme.toJson (s : SecurityScheme) : Json :=
  .object <|
    [("type", .string s.kind)] ++
    Json.optional "description" s.description .string ++
    Json.optional "name" s.name .string ++
    Json.optional "in" s.location .string

/-- The JSON value of a document. -/
def Document.toJson (d : Document) : Json :=
  .object <|
    [("swagger", .string d.swagger), ("info", d.info.toJson)] ++
    Json.optional "host" d.host .string ++
    Json.optional "basePath" d.basePath .string ++
    [("schemes", .strings d.schemes),
      ("consumes", .strings d.consumes),
      ("produces", .strings d.produces),
      ("paths", .table PathItem.toJson d.paths),
      ("definitions", .table Schema.toJson d.definitions),
      ("securityDefinitions", .table SecurityScheme.toJson d.securityDefinitions)]

end ApiDoc
