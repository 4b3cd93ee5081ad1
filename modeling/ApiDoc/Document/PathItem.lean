/-
# Path items

The operations on one path, at most one for each of the five methods that a
document covers.
-/

import ApiDoc.Document.Operation

namespace ApiDoc

/-- The methods a document covers. -/
inductive Method where
  | get
  | delete
  | post
  | put
  | patch
  deriving DecidableEq, Repr

namespace Method

/-- The methods in the order in which a document lists them. -/
def all : List Method :=
  [get, delete, post, put, patch]

/-- The name of a method in a document. -/
def name : Method → String
  | get => "get"
  | delete => "delete"
  | post => "post"
  | put => "put"
  | patch => "patch"

/-- A text with its ASCII letters in lower case. -/
def lower (s : String) : String :=
  String.ofList (s.toList.map Char.toLower)

/-- A text with its ASCII letters in upper case. -/
def upper (s : String) : String :=
  String.ofList (s.toList.map Char.toUpper)

/-- The method that a text names, in any case of its ASCII letters. -/
def read? (s : String) : Option Method :=
  all.find? fun m => m.name == lower s

/-- Every method is listed. -/
theorem mem_all (m : Method) : m ∈ all := by
  cases m <;> simp [all]

end Method

/-- The operations on a path. -/
structure PathItem where
  get : Option Operation := none
  delete : Option Operation := none
  post : Option Operation := none
  put : Option Operation := none
  patch : Option Operation := none

namespace PathItem

/-- The operation for a method. -/
def operation? (item : PathItem) : Method → Option Operation
  | .get => item.get
  | .delete => item.delete
  | .post => item.post
  | .put => item.put
  | .patch => item.patch

/-- The path item with the operation for one method replaced. -/
def set (item : PathItem) (m : Method) (o : Option Operation) : PathItem :=
  match m with
  | .get => { item with get := o }
  | .delete => { item with delete := o }
  | .post => { item with post := o }
  | .put => { item with put := o }
  | .patch => { item with patch := o }

/-- After replacing one operation that one is seen, and the others are as
before. -/
theorem operation?_set (item : PathItem) (m other : Method) (o : Option Operation) :
    (item.set m o).operation? other = if m = other then o else item.operation? other := by
  cases m <;> cases other <;> rfl

/-- The JSON value of a path item; methods without an operation are left out. -/
def toJson (item : PathItem) : Json :=
  .object <|
    Json.optional "get" item.get Operation.toJson ++
    Json.optional "delete" item.delete Operation.toJson ++
    Json.optional "post" item.post Operation.toJson ++
    Json.optional "put" item.put Operation.toJson ++
    Json.optional "patch" item.patch Operation.toJson

end PathItem

end ApiDoc
