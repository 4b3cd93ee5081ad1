/-
# JSON values

A JSON value whose objects keep their members in order.  Descriptions are read
from such values and documents are written as such values, so the order of
members is part of both.
-/

import ApiDoc.Number.Basic
import ApiDoc.Table

namespace ApiDoc

/-- A JSON value; the members of an object are in order. -/
inductive Json where
  | null
  | bool (value : Bool)
  | number (value : Number)
  | string (value : String)
  | array (items : List Json)
  | object (members : List (String × Json))
  deriving Repr, Inhabited

namespace Json

/-- The JSON number of a count. -/
def ofNat (n : Nat) : Json :=
  number (.int n)

/-- A sequence of texts. -/
def strings (values : List String) : Json :=
  array (values.map string)

/-- A mapping from names to values, in the order of a table. -/
def table {α : Type _} (encode : α → Json) (t : Table α) : Json :=
  object (t.entries.map fun entry => (entry.1, encode entry.2))

/-- A member that is written only when there is a value. -/
def optional {α : Type _} (name : String) (value : Option α) (encode : α → Json) :
    List (String × Json) :=
  match value with
  | none => []
  | some a => [(name, encode a)]

/-- A member that is written only when its list is not empty. -/
def nonempty {α : Type _} (name : String) (values : List α) (encode : List α → Json) :
    List (String × Json) :=
  if values.isEmpty then [] else [(name, encode values)]

end Json

end ApiDoc
