/-
# The property a member becomes

The schema of a property is the schema of the member's type, with the comment as
description, decorated by the options of all tags and bounded by the `validate`
tag.
-/

import ApiDoc.Generate.Bounds
import ApiDoc.Generate.Resolution
import ApiDoc.Spec.TaggedMember

namespace ApiDoc

open ApiDoc.Text

/-- The values that the text of an `options` option lists. -/
def listedValues (value : String) : List String :=
  pieceStrings '|' value

/-- Decorate a schema with an option of the form `key=value`: a default, the
allowed values, or an example.  Other options have no effect. -/
def Schema.decorate (s : Schema) (option : String) : Schema :=
  match Tag.assignment? option with
  | some ("default", value) => { s with default? := some value }
  | some ("options", value) => { s with allowed := listedValues value }
  | some ("example", value) => { s with example? := some value }
  | _ => s

namespace TaggedMember

/-- The schema of the property a member becomes. -/
def propertySchema (m : TaggedMember) : Schema :=
  let plain := { m.member.type.schema with description := m.member.commentText? }
  let decorated := (m.tags.flatMap Tag.options).foldl Schema.decorate plain
  match m.tag? Tag.validateKey with
  | some t => decorated.constrain t
  | none => decorated

end TaggedMember

end ApiDoc
