/-
# Descriptions as JSON values

A description is written with all its fields, in a fixed order, and with each
type as its text.
-/

import ApiDoc.Json.Basic
import ApiDoc.Spec.Basic

namespace ApiDoc

/-- A text that may be absent. -/
def Json.optionalText (value : Option String) : Json :=
  match value with
  | some s => .string s
  | none => .null

/-- The JSON value of a member. -/
def Member.toJson (m : Member) : Json :=
  .object [
    ("name", .string m.name),
    ("type", .string m.type.text),
    ("tag", .string m.tag),
    ("comment", .string m.comment),
    ("docs", .strings m.docs),
    ("isInline", .bool m.isInline)]

/-- The JSON value of a struct. -/
def StructType.toJson (s : StructType) : Json :=
  .object [
    ("name", .string s.name),
    ("members", .array (s.members.map Member.toJson)),
    ("docs", .strings s.docs)]

/-- The JSON value of a route. -/
def Route.toJson (r : Route) : Json :=
  .object [
    ("method", .string r.method),
    ("path", .string r.path),
    ("handler", .string r.handler),
    ("requestType", .optionalText r.requestType),
    ("responseType", .optionalText r.responseType),
    ("docProperties", .table .string r.docProperties),
    ("docs", .strings r.docs)]

/-- The JSON value of a group. -/
def Group.toJson (g : Group) : Json :=
  .object [
    ("annotation", .table .string g.annotation),
    ("routes", .array (g.routes.map Route.toJson))]

/-- The JSON value of a service. -/
def Service.toJson (s : Service) : Json :=
  .object [
    ("name", .string s.name),
    ("groups", .array (s.groups.map Group.toJson))]

/-- The JSON value of a description. -/
def Spec.toJson (spec : Spec) : Json :=
  .object [
    ("info", .table .string spec.info),
    ("service", spec.service.toJson),
    ("types", .array (spec.types.map StructType.toJson))]

end ApiDoc
