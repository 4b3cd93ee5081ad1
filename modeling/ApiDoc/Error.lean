/-
# Errors of generation

Generation gives a whole document or one error.  This module lists the causes
and gives each its wording.
-/

namespace ApiDoc

/-- Why no document is produced. -/
inductive Error where
  /-- The tags of a member cannot be read. -/
  | malformedTag (member reason : String)
  | malformedType (input reason : String)
  /-- A struct embeds itself along a chain of embedded members. -/
  | cyclicEmbedding (chain : List String)
  /-- A name is used that no struct has; the context says where. -/
  | unresolvedReference (name context : String)
  /-- A file is not a description of an API. -/
  | serialization (text : String)
  | io (text : String)
  | general (text : String)
  deriving DecidableEq, Repr

namespace Error

/-- The error in words. -/
def message : Error → String
  | malformedTag member reason =>
    "Malformed tag on member '" ++ member ++ "': " ++ reason
  | malformedType input reason => "Malformed type '" ++ input ++ "': " ++ reason
  | cyclicEmbedding chain => "Cyclic embedding detected: " ++ " -> ".intercalate chain
  | unresolvedReference name context =>
    "Unresolved reference '" ++ name ++ "' (" ++ context ++ ")"
  | serialization text => "Serialization Error: " ++ text
  | io text => "IO Error: " ++ text
  | general text => "General Error: " ++ text

end Error

end ApiDoc
