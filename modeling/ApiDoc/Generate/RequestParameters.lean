/-
# The parameters of a request

On a route that only reads, every member of the request struct that is not part
of the path is a parameter of the query string, and an embedded struct
contributes its own members, one level deep.  On other routes header members are
headers, and one parameter stands for the body if any member belongs there.
-/

import ApiDoc.Generate.Classification
import ApiDoc.Generate.Definition

namespace ApiDoc

/-- What one member of a request struct adds to an operation. -/
structure RequestPart where
  headers : List Parameter := []
  queries : List Parameter := []
  inBody : Bool := false

/-- The parameter of a classified member, after reporting what there is about
it. -/
def TaggedMember.render (m : TaggedMember) (c : Classification) : Logged Parameter := do
  Logged.report (m.parameterEvents c)
  return m.parameter c

/-- The query parameters that a member of an embedded struct adds: none if it is
itself embedded or travels in the path or as a header. -/
def Member.embeddedQuery (m : Member) : Logged (List Parameter) := do
  let tagged ← Logged.ofExcept m.tagged
  if tagged.isPath || tagged.isHeader then return []
  else
    let c := tagged.classify true
    if c.location = .query then
      let p ← tagged.render c
      return [p]
    else return []

/-- The query parameters of a struct embedded in `parent`. -/
def Spec.embeddedQueries (spec : Spec) (name parent : String) : Logged (List Parameter) := do
  let inner ← Logged.ofExcept (spec.findEmbedded name parent)
  let parts ← Logged.forEach Member.embeddedQuery inner.members
  return parts.flatten

/-- What a member of the request struct `parent` adds to an operation. -/
def Spec.requestPart (spec : Spec) (parent : String) (readOnly : Bool) (m : Member) :
    Logged RequestPart := do
  let tagged ← Logged.ofExcept m.tagged
  let plain : RequestPart := { inBody := tagged.isBody }
  if m.isInline then
    match m.embedded? with
    | some name =>
      if readOnly then
        let queries ← spec.embeddedQueries name parent
        return { plain with queries := queries }
      else return plain
    | none => return plain
  else
    let c := tagged.classify readOnly
    match c.location with
    | .header =>
      let p ← tagged.render c
      return { plain with headers := [p] }
    | .query =>
      let p ← tagged.render c
      return { plain with queries := [p] }
    | .path | .body => return plain

/-- The parameter for the body of a request. -/
def StructType.bodyParameter (s : StructType) : Parameter :=
  { Parameter.bodyOf s.name with description := nonempty? s.docText }

/-- The parameters of a request: headers, then the query string, then the body,
which only routes that do more than read have. -/
def Spec.requestParameters (spec : Spec) (request : StructType) (readOnly : Bool) :
    Logged (List Parameter) := do
  let parts ← Logged.forEach (spec.requestPart request.name readOnly) request.members
  let body :=
    if !readOnly && parts.any RequestPart.inBody then [request.bodyParameter] else []
  return parts.flatMap RequestPart.headers ++ parts.flatMap RequestPart.queries ++ body

end ApiDoc
