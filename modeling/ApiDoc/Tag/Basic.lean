/-
# Tags of a member

A member of a struct carries tags such as `json:"age,optional"`: a key, the name
under which the member travels, and options.  This module supplies the type and
the questions asked about one tag.  How tags are written is the subject of
`Tag.Reader`.
-/

import ApiDoc.Text.Blank
import ApiDoc.Text.Pieces

namespace ApiDoc

open ApiDoc.Text

/-- One `key:"name,option,..."` group. -/
structure Tag where
  key : String
  /-- The name in first place; `-` stands for the member's own name. -/
  name : String
  options : List String
  deriving DecidableEq, Repr, Inhabited

namespace Tag

/-- The key of the tag for members of a request or response body. -/
def bodyKey : String := "json"

/-- The key of the tag for members of a query string or form. -/
def formKey : String := "form"

/-- The key of the tag for members that are part of the path. -/
def pathKey : String := "path"

/-- The key of the tag for members that travel as a header. -/
def headerKey : String := "header"

/-- The key of the tag that constrains a member's values. -/
def validateKey : String := "validate"

/-- The keys whose tag names the member. -/
def namingKeys : List String := [bodyKey, formKey, pathKey, headerKey]

/-- Whether a text starts with another. -/
def startsWith (s start : String) : Bool :=
  start.toList.isPrefixOf s.toList

/-- A tag makes its member optional when an option starts with `optional` or
`omitempty`. -/
def isOptional (t : Tag) : Bool :=
  t.options.any fun o => startsWith o "optional" || startsWith o "omitempty"

/-- An option of the form `key=value`, with the blanks around the key dropped
and the value as written. -/
def assignment? (o : String) : Option (String × String) :=
  (cutString '=' o).map fun parts => (trimmed parts.1, parts.2)

/-- The value of the first option that assigns to `key`. -/
def optionValue? (t : Tag) (key : String) : Option String :=
  t.options.findSome? fun o =>
    match assignment? o with
    | some (k, value) => if k = key then some value else none
    | none => none

/-- The name the tag gives to a member whose own name is `own`. -/
def resolvedName (t : Tag) (own : String) : String :=
  if t.name = "-" then own else t.name

/-- The tag that a key and the text between its quotation marks stand for: the
pieces between commas without the blanks around them, the first as the name and
the nonempty ones after it as options. -/
def ofValue (key value : List Char) : Tag :=
  let parts := (value.splitOn ',').map trim
  { key := String.ofList key
    name := String.ofList (parts.headD [])
    options := (parts.tail.filter fun p => !p.isEmpty).map String.ofList }

end Tag

end ApiDoc
