/-
# Descriptions of an API

A description names a service, whose routes stand in groups, and the structs
that requests and responses are made of.  This module supplies the types and the
questions that are answered from one of them alone: values of annotations,
documentation lines, and the struct with a given name.
-/

import ApiDoc.Table
import ApiDoc.Text.Comment
import ApiDoc.TypeExpr.Basic

namespace ApiDoc

open ApiDoc.Text

/-- A member of a struct. -/
structure Member where
  /-- The declared name; for an embedded struct, the name of that struct. -/
  name : String
  type : TypeExpr
  tag : String := ""
  comment : String := ""
  /-- The comment lines in front of the member. -/
  docs : List String := []
  /-- Whether the member embeds a struct instead of holding a value. -/
  isInline : Bool := false
  deriving DecidableEq, Repr

/-- A struct with a name. -/
structure StructType where
  /-- The name, by which other types refer to the struct. -/
  name : String
  members : List Member := []
  /-- The comment lines in front of the struct. -/
  docs : List String := []
  deriving DecidableEq, Repr

/-- A route of the service. -/
structure Route where
  method : String
  /-- The path, in which `:name` marks a placeholder. -/
  path : String
  /-- The name of the handler, which identifies the operation. -/
  handler : String
  /-- The struct of the request; a blank name stands for none. -/
  requestType : Option String := none
  /-- The struct of the response; a blank name stands for none. -/
  responseType : Option String := none
  docProperties : Table String := .empty
  /-- The comment lines in front of the route. -/
  docs : List String := []
  deriving DecidableEq, Repr

/-- Routes that share annotations. -/
structure Group where
  /-- Annotations such as the prefix of the paths. -/
  annotation : Table String := .empty
  routes : List Route := []
  deriving DecidableEq, Repr

/-- A service. -/
structure Service where
  name : String
  /-- The groups of routes in order of declaration. -/
  groups : List Group := []
  deriving DecidableEq, Repr

/-- A description of an API. -/
structure Spec where
  info : Table String := .empty
  service : Service
  types : List StructType := []
  deriving DecidableEq, Repr

/-- A text, unless it is empty. -/
def nonempty? (s : String) : Option String :=
  if s = "" then none else some s

/-- A struct member that embeds the struct `name`. -/
def Member.embedding (name : String) : Member :=
  { name := name, type := .reference name, isInline := true }

/-- The comment of a member without markers, or its documentation lines joined
by commas where there is no comment. -/
def Member.commentText? (m : Member) : Option String :=
  if trimmed m.comment = "" then nonempty? (withoutMarkers (",".intercalate m.docs))
  else nonempty? (withoutMarkers m.comment)

/-- The documentation lines of a struct joined by commas, without markers. -/
def StructType.docText (s : StructType) : String :=
  withoutMarkers (",".intercalate s.docs)

/-- The value of a documentation property, without quotation marks. -/
def Route.docProperty? (r : Route) (key : String) : Option String :=
  (r.docProperties.get? key).map unquote

/-- The first documentation line that is not empty once its markers are gone. -/
def Route.firstDocLine? (r : Route) : Option String :=
  r.docs.findSome? fun line => nonempty? (withoutMarkers line)

/-- The value of an annotation, without quotation marks; an empty value counts
as absent. -/
def Group.annotation? (g : Group) (key : String) : Option String :=
  (g.annotation.get? key).bind fun value => nonempty? (unquote value)

/-- The value of a property of the document, without quotation marks; an empty
value counts as absent. -/
def Spec.infoValue? (spec : Spec) (key : String) : Option String :=
  (spec.info.get? key).bind fun value => nonempty? (unquote value)

/-- The first struct with a given name. -/
def Spec.findType? (spec : Spec) (name : String) : Option StructType :=
  spec.types.find? fun s => s.name == name

/-- The routes of all groups in order, each with its group. -/
def Spec.routes (spec : Spec) : List (Group × Route) :=
  spec.service.groups.flatMap fun g => g.routes.map fun r => (g, r)

/-- The struct that is found has the name that was asked for. -/
theorem Spec.name_of_findType? {spec : Spec} {name : String} {s : StructType}
    (found : spec.findType? name = some s) : s.name = name := by
  simpa using List.find?_some found

/-- The struct that is found is one of the description. -/
theorem Spec.mem_of_findType? {spec : Spec} {name : String} {s : StructType}
    (found : spec.findType? name = some s) : s ∈ spec.types :=
  List.mem_of_find?_eq_some found

end ApiDoc
