/-
# Type expressions

The declared type of a member: a scalar, a struct of the same description, or a
pointer, list or map built from other types.  This module supplies the type, its
text, and the two ways of looking through pointers.
-/

namespace ApiDoc

/-- The declared type of a member. -/
inductive TypeExpr where
  /-- A built-in type, or one that is qualified by a package. -/
  | scalar (name : String)
  /-- A pointer, which leaves no trace in a document. -/
  | pointer (target : TypeExpr)
  /-- A list, with or without a declared length. -/
  | array (element : TypeExpr)
  | map (key value : TypeExpr)
  | reference (name : String)
  | dynamic
  deriving DecidableEq, Repr, Inhabited

namespace TypeExpr

/-- The text of a type expression. -/
def text : TypeExpr → String
  | scalar name => name
  | pointer target => "*" ++ target.text
  | array element => "[]" ++ element.text
  | map key value => "map[" ++ key.text ++ "]" ++ value.text
  | reference name => name
  | dynamic => "interface\x7b\x7d"

/-- The type behind every leading pointer. -/
def behindPointers : TypeExpr → TypeExpr
  | pointer target => target.behindPointers
  | t => t

/-- The struct a type denotes, possibly through pointers. -/
def structName? (t : TypeExpr) : Option String :=
  match t.behindPointers with
  | reference name => some name
  | _ => none

end TypeExpr

end ApiDoc
