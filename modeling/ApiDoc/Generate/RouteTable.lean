/-
# The table of routes

Routes are entered one after another, groups and routes in order.  A route whose
method is none of the five is skipped; one whose path and method are taken
replaces the operation that was there.  Along the way the structs that routes
name are noted, each with the first place that names it.
-/

import ApiDoc.Generate.PathText
import ApiDoc.Generate.RequestParameters

namespace ApiDoc

open ApiDoc.Text

/-- The name of the security scheme of generated documents. -/
def bearerScheme : String := "Bearer"

/-- What every response says about itself. -/
def successDescription : String := "A successful response."

/-- A type name without the blanks around it; a blank name names nothing. -/
def named? (name : Option String) : Option String :=
  name.bind fun n => nonempty? (trimmed n)

namespace Route

/-- A documentation property that is not empty. -/
def doc? (r : Route) (key : String) : Option String :=
  (r.docProperty? key).bind nonempty?

/-- The short description of a route. -/
def summary? (r : Route) : Option String :=
  r.doc? "summary" <|> r.doc? "description" <|> r.firstDocLine?

/-- The longer description of a route. -/
def description? (r : Route) : Option String :=
  r.doc? "description" <|> r.doc? "desc" <|> r.firstDocLine?

/-- The tag under which a route is listed. -/
def listTag? (r : Route) (g : Group) (service : String) : Option String :=
  r.doc? "tag" <|> r.doc? "tags" <|> g.annotation? "group" <|> nonempty? (trimmed service)

/-- The parameter for a placeholder of the path. -/
def pathParameter (r : Route) (token : String) : Parameter :=
  { Parameter.text token .path with description := r.doc? token }

/-- The place that a route is when it asks for a definition. -/
def context (r : Route) : String :=
  "route " ++ Method.upper r.method ++ " " ++ r.path

/-- The structs that a route names, request before response. -/
def typeNames (r : Route) : List String :=
  (named? r.requestType).toList ++ (named? r.responseType).toList

/-- The path of a route in the document's own notation, before placeholders are
put in braces. -/
def pathIn (r : Route) (g : Group) : String :=
  fullPath (g.annotation? "prefix") r.path

end Route

/-- The parameters that the request struct of a route gives. -/
def Spec.parametersOf (spec : Spec) (r : Route) : Logged (List Parameter) :=
  match named? r.requestType with
  | none => pure []
  | some name =>
    match spec.findType? name with
    | none =>
      throw (.unresolvedReference name ("request of route " ++ r.method ++ " " ++ r.path))
    | some request => spec.requestParameters request (isReadOnly r.method)

/-- What callers must present on the routes of a group: a bearer token where the
group asks for one. -/
def Group.security (g : Group) : Option (List (Table (List String))) :=
  (g.annotation? "jwt").map fun _ => [⟨[(bearerScheme, [])]⟩]

/-- The operation of a route whose path has the given placeholders. -/
def Spec.operation (spec : Spec) (g : Group) (r : Route) (tokens : List String) :
    Logged Operation := do
  let parameters ← spec.parametersOf r
  let schema : Schema :=
    match named? r.responseType with
    | some name => .referenceTo name
    | none => {}
  return {
    summary := r.summary?
    description := r.description?
    operationId := r.handler
    responses := ⟨[("200", { description := successDescription, schema := schema })]⟩
    parameters := tokens.map r.pathParameter ++ parameters
    tags := (r.listTag? g spec.service.name).toList
    security := g.security }

/-- The operations by path, and the structs that routes name, each with the
first place that names it. -/
structure RouteTable where
  paths : Table PathItem := .empty
  /-- The place that first names a struct, by the name of the struct. -/
  referenced : Table String := .empty
  deriving Inhabited

namespace RouteTable

/-- Enter an operation under a path and method. -/
def enter (t : RouteTable) (path : String) (method : Method) (o : Operation) (r : Route) :
    RouteTable :=
  { paths := t.paths.insert path (((t.paths.get? path).getD {}).set method (some o))
    referenced := r.typeNames.foldl (fun names n => names.insertNew n r.context) t.referenced }

/-- The operation under a path and method. -/
def operation? (t : RouteTable) (path : String) (method : Method) : Option Operation :=
  (t.paths.get? path).bind fun item => item.operation? method

/-- Enter a route. -/
def add (spec : Spec) (t : RouteTable) (g : Group) (r : Route) : Logged RouteTable :=
  match Method.read? r.method with
  | none => do
    Logged.report [.unsupportedMethod r.method r.path]
    return t
  | some method => do
    let path := documentPath (r.pathIn g)
    let o ← spec.operation g r (pathTokens (r.pathIn g))
    Logged.report <|
      (if (t.operation? path method).isSome then [.routeOverridden r.method path] else []) ++
        [.operationBuilt r.method path r.handler]
    return t.enter path method o r

/-- Enter routes one after another. -/
def addAll (spec : Spec) (t : RouteTable) : List (Group × Route) → Logged RouteTable
  | [] => pure t
  | (g, r) :: rest => do
    let next ← t.add spec g r
    next.addAll spec rest

end RouteTable

/-- The table of all routes of a description. -/
def Spec.routeTable (spec : Spec) : Logged RouteTable :=
  RouteTable.addAll spec {} spec.routes

end ApiDoc
