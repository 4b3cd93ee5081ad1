/-
# Reading descriptions

Each type of the model is read as a record: from names, with defaults for most
fields, or from values in the order of declaration where the source has them so.
Names that are no field are ignored.
-/

import ApiDoc.Decode.Record
import ApiDoc.Spec.Basic
import ApiDoc.TypeExpr.Reader

namespace ApiDoc

open Source

variable {ν : Type} [Source ν]

/-- A type, given as its text. -/
def TypeExpr.decode (v : ν) : Except DecodeError TypeExpr :=
  match Source.text v with
  | .error e => .error e
  | .ok s =>
    match TypeExpr.read s with
    | .error fault => .error (.malformedType s fault.reason)
    | .ok t => .ok t

/-- The record of a member. -/
def Member.shape : Shape :=
  ⟨"Member", ["name", "type", "tag", "comment", "docs", "isInline"]⟩

/-- A member. -/
def Member.decode (v : ν) : Except DecodeError Member :=
  Member.shape.decode v fun fields =>
    (((((((Reading.value Member.mk).apply
      (fields.field Member.shape 0 none text)).apply
      (fields.field Member.shape 1 none TypeExpr.decode)).apply
      (fields.field Member.shape 2 (some "") text)).apply
      (fields.field Member.shape 3 (some "") text)).apply
      (fields.field Member.shape 4 (some []) (list text))).apply
      (fields.field Member.shape 5 (some false) flag))

/-- The record of a struct. -/
def StructType.shape : Shape :=
  ⟨"StructType", ["name", "members", "docs"]⟩

/-- A struct. -/
def StructType.decode (v : ν) : Except DecodeError StructType :=
  StructType.shape.decode v fun fields =>
    ((((Reading.value StructType.mk).apply
      (fields.field StructType.shape 0 none text)).apply
      (fields.field StructType.shape 1 (some []) (list Member.decode))).apply
      (fields.field StructType.shape 2 (some []) (list text)))

/-- The record of a route. -/
def Route.shape : Shape :=
  ⟨"Route",
    ["method", "path", "handler", "requestType", "responseType", "docProperties", "docs"]⟩

/-- A route. -/
def Route.decode (v : ν) : Except DecodeError Route :=
  Route.shape.decode v fun fields =>
    ((((((((Reading.value Route.mk).apply
      (fields.field Route.shape 0 none text)).apply
      (fields.field Route.shape 1 none text)).apply
      (fields.field Route.shape 2 none text)).apply
      (fields.field Route.shape 3 (some none) optionalText)).apply
      (fields.field Route.shape 4 (some none) optionalText)).apply
      (fields.field Route.shape 5 (some .empty) textTable)).apply
      (fields.field Route.shape 6 (some []) (list text)))

/-- The record of a group. -/
def Group.shape : Shape :=
  ⟨"Group", ["annotation", "routes"]⟩

/-- A group. -/
def Group.decode (v : ν) : Except DecodeError Group :=
  Group.shape.decode v fun fields =>
    (((Reading.value Group.mk).apply
      (fields.field Group.shape 0 (some .empty) textTable)).apply
      (fields.field Group.shape 1 (some []) (list Route.decode)))

/-- The record of a service. -/
def Service.shape : Shape :=
  ⟨"Service", ["name", "groups"]⟩

/-- A service. -/
def Service.decode (v : ν) : Except DecodeError Service :=
  Service.shape.decode v fun fields =>
    (((Reading.value Service.mk).apply
      (fields.field Service.shape 0 none text)).apply
      (fields.field Service.shape 1 (some []) (list Group.decode)))

/-- The record of a description. -/
def Spec.shape : Shape :=
  ⟨"ApiSpec", ["info", "service", "types"]⟩

/-- A description. -/
def Spec.decode (v : ν) : Except DecodeError Spec :=
  Spec.shape.decode v fun fields =>
    ((((Reading.value Spec.mk).apply
      (fields.field Spec.shape 0 (some .empty) textTable)).apply
      (fields.field Spec.shape 1 none Service.decode)).apply
      (fields.field Spec.shape 2 (some []) (list StructType.decode)))

end ApiDoc
