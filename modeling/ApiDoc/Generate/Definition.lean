/-
# The definition of a struct

A definition lists the properties of a struct.  Members of the path are left
out, and an embedded struct contributes its own members in its place, one level
deep and without those that travel elsewhere.  `contributions` is that list of
members; the definition itself is a fold over it.
-/

import ApiDoc.Generate.Embedding
import ApiDoc.Generate.Property

namespace ApiDoc

/-- Run a logged computation on each element of a list in order and collect the
results. -/
def Logged.forEach {α β : Type} (f : α → Logged β) : List α → Logged (List β)
  | [] => pure []
  | a :: rest => do
    let b ← f a
    let others ← Logged.forEach f rest
    return b :: others

/-- Find the struct that a member of `parent` embeds. -/
def Spec.findEmbedded (spec : Spec) (name parent : String) : Except Error StructType :=
  match spec.findType? name with
  | some s => .ok s
  | none => .error (.unresolvedReference name ("embedded in '" ++ parent ++ "'"))

namespace TaggedMember

/-- What there is to report about the property of a member. -/
def propertyEvents (m : TaggedMember) : List Event :=
  m.member.type.schemaEvents

/-- Report what there is about the property of a member and contribute the
member. -/
def contribute (m : TaggedMember) : Logged (List TaggedMember) := do
  Logged.report m.propertyEvents
  return [m]

end TaggedMember

/-- What a member of an embedded struct contributes: itself, unless it travels
as a header, in a form or in the path. -/
def Member.embeddedContribution (m : Member) : Logged (List TaggedMember) := do
  let tagged ← Logged.ofExcept m.tagged
  if tagged.isHeader || tagged.isForm || tagged.isPath then return []
  else tagged.contribute

/-- What a member of the struct `parent` contributes: nothing if it is part of
the path, the members of the struct it embeds, or itself. -/
def Spec.contribution (spec : Spec) (parent : String) (m : Member) :
    Logged (List TaggedMember) := do
  let tagged ← Logged.ofExcept m.tagged
  if tagged.isPath then return []
  else
    match m.embedded? with
    | some name =>
      let inner ← Logged.ofExcept (spec.findEmbedded name parent)
      let parts ← Logged.forEach Member.embeddedContribution inner.members
      return parts.flatten
    | none => tagged.contribute

/-- The members that become properties of the definition of a struct. -/
def Spec.contributions (spec : Spec) (s : StructType) : Logged (List TaggedMember) := do
  let parts ← Logged.forEach (spec.contribution s.name) s.members
  return parts.flatten

/-- The properties of a definition and the names of those that must be
present. -/
structure PropertyList where
  properties : Table Schema := .empty
  /-- The names of the required properties in order. -/
  required : List String := []

/-- Add the property that a member becomes.  A later member of the same name
takes the place of an earlier one, and a name stays required. -/
def PropertyList.add (list : PropertyList) (m : TaggedMember) : PropertyList :=
  { properties := list.properties.insert m.propertyName m.propertySchema
    required :=
      if m.isOptional || list.required.contains m.propertyName then list.required
      else list.required ++ [m.propertyName] }

/-- The definition of a struct with the given contributions. -/
def StructType.definition (s : StructType) (members : List TaggedMember) : Schema :=
  let list := members.foldl PropertyList.add {}
  { Schema.object with
    title := some s.name
    description := nonempty? s.docText
    properties := some list.properties
    required := list.required }

/-- Synthesize the definition of a struct. -/
def Spec.synthesize (spec : Spec) (s : StructType) : Logged Schema := do
  Logged.ofExcept (spec.checkEmbedding s)
  let members ← spec.contributions s
  return s.definition members

end ApiDoc
