/-
# The document of a description

Generation enters all routes into a table, defines every struct they reach, and
puts both into a document with the general information of the description.  It
gives a whole document or the first error.
-/

import ApiDoc.Document.Basic
import ApiDoc.Generate.Definitions
import ApiDoc.Generate.RouteTable

namespace ApiDoc

/-- The version of the document format. -/
def formatVersion : String := "2.0"

/-- The media type of requests and responses. -/
def jsonMediaType : String := "application/json"

/-- The general information of a description. -/
def Spec.documentInfo (spec : Spec) : Info :=
  let contact : Contact :=
    { name := spec.infoValue? "contact", email := spec.infoValue? "email" }
  { title := (spec.infoValue? "title").getD ""
    description := spec.infoValue? "desc"
    version := (spec.infoValue? "version").getD ""
    contact := if contact.name.isSome || contact.email.isSome then some contact else none }

/-- The security schemes of generated documents. -/
def securitySchemes : Table SecurityScheme :=
  ⟨[(bearerScheme,
      { kind := "apiKey"
        description := some "Enter JWT Bearer token"
        name := some "Authorization"
        location := some "header" })]⟩

/-- The document made of general information, a table of routes and the
definitions. -/
def Spec.assemble (spec : Spec) (routes : RouteTable) (definitions : Table Schema) : Document :=
  { swagger := formatVersion
    info := spec.documentInfo
    host := spec.infoValue? "host"
    basePath := spec.infoValue? "basePath"
    schemes := ["http", "https"]
    consumes := [jsonMediaType]
    produces := [jsonMediaType]
    paths := routes.paths
    definitions := definitions
    securityDefinitions := securitySchemes }

/-- Generate the document of a description. -/
def Spec.document (spec : Spec) : Logged Document := do
  let routes ← spec.routeTable
  let definitions ← spec.definitions routes.referenced.entries
  Logged.report [.documentAssembled routes.paths.size definitions.size]
  return spec.assemble routes definitions

end ApiDoc
