/-
# Members with their tags

Most questions about a member need its tags.  A tagged member is a member
together with the tags its text stands for; a malformed text is an error that
names the member.
-/

import ApiDoc.Error
import ApiDoc.Spec.Basic
import ApiDoc.Tag.Reader

namespace ApiDoc

/-- The tags of a raw text, where an error is attributed to `owner`. -/
def Tag.readFor (owner raw : String) : Except Error (List Tag) :=
  match Tag.readAll raw with
  | .ok tags => .ok tags
  | .error fault => .error (.malformedTag owner fault.reason)

/-- A member together with its tags. -/
structure TaggedMember where
  member : Member
  tags : List Tag
  deriving DecidableEq, Repr

/-- The member with its tags, or the error that its tag text is malformed. -/
def Member.tagged (m : Member) : Except Error TaggedMember :=
  (Tag.readFor m.name m.tag).map fun tags => ⟨m, tags⟩

namespace TaggedMember

/-- The tag with a given key. -/
def tag? (m : TaggedMember) (key : String) : Option Tag :=
  m.tags.find? fun t => t.key == key

/-- Whether the member holds a value and has a tag with the given key. -/
def isPlainWith (m : TaggedMember) (key : String) : Bool :=
  !m.member.isInline && (m.tag? key).isSome

/-- Whether the member is part of the path. -/
def isPath (m : TaggedMember) : Bool :=
  m.isPlainWith Tag.pathKey

/-- Whether the member belongs to a form or query string. -/
def isForm (m : TaggedMember) : Bool :=
  m.isPlainWith Tag.formKey

/-- Whether the member travels as a header. -/
def isHeader (m : TaggedMember) : Bool :=
  m.isPlainWith Tag.headerKey

/-- Whether the member belongs to a body; an embedded struct always does. -/
def isBody (m : TaggedMember) : Bool :=
  m.member.isInline || (m.tag? Tag.bodyKey).isSome

/-- The first tag that names the member. -/
def namingTag? (m : TaggedMember) : Option Tag :=
  m.tags.find? fun t => Tag.namingKeys.contains t.key

/-- The name of the property the member becomes. -/
def propertyName (m : TaggedMember) : String :=
  match m.namingTag? with
  | some t => t.resolvedName m.member.name
  | none => m.member.name

/-- Whether the tag that names the member makes it optional. -/
def isOptional (m : TaggedMember) : Bool :=
  match m.namingTag? with
  | some t => t.isOptional
  | none => false

end TaggedMember

end ApiDoc
