/-
# Where the members of a request travel

Each member of a request has one location.  A `path` tag comes first; on routes
that only read, every other member travels in the query string; elsewhere a
`header` tag makes a header, and what remains belongs to the body.  An embedded
struct always counts as body.  This module supplies the classification and the
parameter that a classified member becomes.
-/

import ApiDoc.Document.PathItem
import ApiDoc.Generate.Property

namespace ApiDoc

/-- Where a member travels, under which name, and whether it must be there. -/
structure Classification where
  location : Location
  name : String
  required : Bool
  deriving DecidableEq, Repr

/-- A method only reads when it is `GET`, in any case of its letters. -/
def isReadOnly (method : String) : Bool :=
  Method.read? method == some .get

namespace TaggedMember

/-- Classify a member of a request by its tags and by whether the route only
reads. -/
def classify (m : TaggedMember) (readOnly : Bool) : Classification :=
  let own := m.member.name
  if m.member.isInline then ⟨.body, own, true⟩
  else
    match m.tag? Tag.pathKey with
    | some t => ⟨.path, t.resolvedName own, true⟩
    | none =>
      if readOnly then
        match m.tag? Tag.formKey with
        | some t => ⟨.query, t.resolvedName own, !t.isOptional⟩
        | none => ⟨.query, own, true⟩
      else
        match m.tag? Tag.headerKey with
        | some t => ⟨.header, t.resolvedName own, !t.isOptional⟩
        | none => ⟨.body, m.propertyName, !m.isOptional⟩

/-- What a parameter shows of the type of its member: the kind, the format and
the schema of the elements.  A parameter cannot point to a definition, so a
struct shows its bare name and the format that marks it as unknown. -/
def parameterType (type : TypeExpr) : Option String × Option String × Option Schema :=
  let schema := type.schema
  match schema.kind with
  | some "array" => (some "array", none, schema.items)
  | some kind => (some kind, schema.format, none)
  | none =>
    (some (String.ofList (type.text.toList.dropWhile (· == '*'))), some unknownFormat, none)

/-- The tag whose options decorate a parameter. -/
def parameterTag? (m : TaggedMember) (location : Location) : Option Tag :=
  match location with
  | .header => m.tag? Tag.headerKey
  | _ => m.tag? Tag.formKey

/-- The parameter that a classified member becomes.  A parameter in the path is
a plain string whatever its type. -/
def parameter (m : TaggedMember) (c : Classification) : Parameter :=
  let plain : Parameter :=
    { Parameter.text c.name c.location with
      required := c.required
      description := m.member.commentText? }
  if c.location = .path then plain
  else
    let (kind, format, items) := parameterType m.member.type
    let typed := { plain with kind := kind, format := format, items := items }
    match m.parameterTag? c.location with
    | none => typed
    | some t =>
      { typed with
        default? := t.optionValue? "default"
        example? := t.optionValue? "example"
        allowed := ((t.optionValue? "options").map listedValues).getD [] }

/-- What there is to report about the parameter of a classified member. -/
def parameterEvents (m : TaggedMember) (c : Classification) : List Event :=
  if c.location = .path then []
  else
    let type := m.member.type
    type.schemaEvents ++
      match type.schema.kind with
      | some _ => []
      | none => [.structParameter (String.ofList (type.text.toList.dropWhile (· == '*')))]

end TaggedMember

end ApiDoc
