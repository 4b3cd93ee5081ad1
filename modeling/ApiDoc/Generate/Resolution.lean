/-
# The schema of a type

Every type expression has a schema.  Scalars go through a fixed table of
primitive types; one that is missing there keeps its name as its kind and gets a
format that marks it as unknown.  Pointers leave no trace, and nothing is said
about the inside of a map.
-/

import ApiDoc.Document.Schema
import ApiDoc.Logged
import ApiDoc.TypeExpr.Basic

namespace ApiDoc

/-- The format of a scalar that is not in the table of primitive types. -/
def unknownFormat : String := "UNKNOWN"

/-- The primitive types: the name of a scalar, its kind and its format. -/
def primitiveTypes : List (String × String × Option String) :=
  [ ("string", "string", none),
    ("bool", "boolean", some "boolean"),
    ("int", "integer", some "int32"),
    ("int8", "integer", some "int8"),
    ("int16", "integer", some "int16"),
    ("int32", "integer", some "int32"),
    ("int64", "integer", some "int64"),
    ("uint", "integer", some "uint32"),
    ("uint8", "integer", some "uint8"),
    ("uint16", "integer", some "uint16"),
    ("uint32", "integer", some "uint32"),
    ("uint64", "integer", some "uint64"),
    ("byte", "integer", some "uint8"),
    ("rune", "integer", some "int32"),
    ("float32", "number", some "float"),
    ("float64", "number", some "double") ]

/-- The kind and format of a scalar in the table of primitive types. -/
def primitiveType? (name : String) : Option (String × Option String) :=
  primitiveTypes.lookup name

/-- The schema of a scalar. -/
def scalarSchema (name : String) : Schema :=
  match primitiveType? name with
  | some (kind, format) => .primitive kind format
  | none => .primitive name (some unknownFormat)

namespace TypeExpr

/-- The schema of the values of a type. -/
def schema : TypeExpr → Schema
  | pointer target => target.schema
  | scalar name => scalarSchema name
  | array element => .arrayOf element.schema
  | map _ _ => .object
  | dynamic => .object
  | reference name => .referenceTo name

/-- What there is to report about the schema of a type: the scalar it comes down
to, where that one is unknown. -/
def schemaEvents : TypeExpr → List Event
  | pointer target => target.schemaEvents
  | scalar name => if (primitiveType? name).isSome then [] else [.unknownScalar name]
  | array element => element.schemaEvents
  | _ => []

end TypeExpr

end ApiDoc
