/-
# A definition as a fold over its expansion

A struct is expanded one level: every member that embeds a struct gives way to members of
that struct, and the members that travel elsewhere are left out.  Which members these are
is said here from the declared types and tags alone, without running anything.

A definition is then made from the expansion in one pass.  Its properties are the names
of the members, each with the schema of the last member that has the name, and the required
names are those of the members that are not optional.
-/

import ApiDoc.Proofs.ParameterLayout
import ApiDoc.Proofs.Required

namespace ApiDoc

/-! ## The expansion of a struct -/

/-- The members that stand for an embedded struct: those that embed a struct themselves,
and those that travel neither as a header nor in a form nor in the path. -/
def StructType.embeddedMembers (s : StructType) : List Member :=
  s.members.filter fun n => n.isInline ||
    !(n.hasTag Tag.headerKey || n.hasTag Tag.formKey || n.hasTag Tag.pathKey)

/-- The members that stand for a member of a struct: those of the struct that it embeds,
none if it is part of the path, and otherwise the member itself. -/
def Spec.standIns (spec : Spec) (m : Member) : List Member :=
  match m.embedded? with
  | some name =>
    match spec.findType? name with
    | some inner => inner.embeddedMembers
    | none => []
  | none => if !m.isInline && m.hasTag Tag.pathKey then [] else [m]

/-- The members of a struct, where each embedded struct gives way to its own members. -/
def Spec.expansion (spec : Spec) (s : StructType) : List Member :=
  s.members.flatMap spec.standIns

/-! ## What is contributed is the expansion -/

namespace TaggedMember

variable {n : Member} {m : TaggedMember}

theorem isPlainWith_eq_hasTag (read : n.tagged = .ok m) (key : String) :
    m.isPlainWith key = (!n.isInline && n.hasTag key) := by
  rw [isPlainWith, Member.member_of_tagged read, Member.hasTag_eq read]

/-- A member that stands for an embedded struct contributes itself, and every other member
of that struct contributes nothing. -/
theorem embeddedContributions_eq (read : n.tagged = .ok m) :
    m.embeddedContributions =
      if n.isInline || !(n.hasTag Tag.headerKey || n.hasTag Tag.formKey || n.hasTag Tag.pathKey)
      then [m] else [] := by
  rw [embeddedContributions, isHeader, isForm, isPath, isPlainWith_eq_hasTag read,
    isPlainWith_eq_hasTag read, isPlainWith_eq_hasTag read]
  cases n.isInline
  · rw [Bool.not_false, Bool.true_and, Bool.true_and, Bool.true_and, Bool.false_or]
    cases n.hasTag Tag.headerKey || n.hasTag Tag.formKey || n.hasTag Tag.pathKey <;> rfl
  · rfl

end TaggedMember

namespace Spec

variable {spec : Spec} {s : StructType} {parent name : String} {m : Member}
  {members part : List TaggedMember} {schema : Schema}

theorem mapM_tagged_of_fromEmbedded {inner : StructType}
    (run : spec.fromEmbedded TaggedMember.embeddedContributions name parent = .ok part)
    (found : spec.findType? name = some inner) :
    inner.embeddedMembers.mapM Member.tagged = .ok part := by
  rw [fromEmbedded, findEmbedded_eq_ok_iff.mpr found] at run
  obtain ⟨parts, each, rfl⟩ := map_eq_ok_iff.mp run
  -- Each member gives a list of none or one, and those that give one are the filtered ones.
  rw [mapM_eq_ok_iff, ← List.flatMap_id]
  apply forall₂_filter_flatMap
  refine (mapM_eq_ok_iff.mp each).imp fun n part value => ?_
  obtain ⟨tagged, read, rfl⟩ := map_eq_ok_iff.mp value
  rw [id_eq, TaggedMember.embeddedContributions_eq read]
  split
  · exact ⟨tagged, rfl, read⟩
  · rfl

/-- What a member contributes to a definition are the members that stand for it. -/
theorem mapM_tagged_of_contribution (run : (spec.contribution parent m).outcome = .ok part) :
    (spec.standIns m).mapM Member.tagged = .ok part := by
  cases embeds : m.embedded? with
  | some name =>
      rw [outcome_contribution_of_embedded embeds, bind_eq_ok_iff] at run
      rcases run with ⟨-, -, given⟩
      obtain ⟨inner, found, -⟩ := exists_fromEmbedded_iff.mp ⟨part, given⟩
      have members : spec.standIns m = inner.embeddedMembers := by
        simp only [standIns, embeds, found]
      rw [members]
      exact mapM_tagged_of_fromEmbedded given found
  | none =>
      rw [outcome_contribution_of_own embeds, map_eq_ok_iff] at run
      rcases run with ⟨tagged, read, rfl⟩
      have members : spec.standIns m = if tagged.isPath then [] else [m] := by
        rw [TaggedMember.isPath, TaggedMember.isPlainWith_eq_hasTag read]
        simp only [standIns, embeds]
      rw [members, TaggedMember.ownContributions, mapM_eq_ok_iff]
      split
      · exact List.Forall₂.nil
      · exact List.Forall₂.cons read List.Forall₂.nil

/-- The members that a definition is made of are the expansion of its struct. -/
theorem mapM_tagged_of_contributions (run : (spec.contributions s).outcome = .ok members) :
    (spec.expansion s).mapM Member.tagged = .ok members := by
  rw [contributions, Logged.outcome_bind, Logged.outcome_forEach, bind_eq_ok_iff] at run
  rcases run with ⟨parts, run, gathered⟩
  obtain rfl : parts.flatten = members := Except.ok.inj gathered
  rw [mapM_eq_ok_iff, expansion, ← List.flatMap_id]
  refine List.rel_flatMap (mapM_eq_ok_iff.mp run) fun m part value => ?_
  exact mapM_eq_ok_iff.mp (mapM_tagged_of_contribution value)

end Spec

/-! ## The definition of a list of members -/

/-- A definition shows a list of members: it has their names as properties, each with the
schema of the last member of that name, and it requires those that are not optional.  Both
the properties and the required names stand in order of first occurrence. -/
structure Schema.Shows (schema : Schema) (properties : Table Schema)
    (members : List TaggedMember) : Prop where
  stored : schema.properties = some properties
  names : properties.keys = (members.map TaggedMember.propertyName).eraseDups
  values : ∀ key, properties.get? key =
    (members.filter fun m => m.propertyName == key).getLast?.map TaggedMember.propertySchema
  required : schema.required =
    ((members.filter fun m => !m.isOptional).map TaggedMember.propertyName).eraseDups

namespace Schema.Shows

variable {schema : Schema} {properties : Table Schema} {members : List TaggedMember}

theorem nodup_required (shows : schema.Shows properties members) : schema.required.Nodup := by
  rw [shows.required]
  exact nodup_eraseDups _

/-- A name that is required is the name of a property. -/
theorem required_subset (shows : schema.Shows properties members) :
    schema.required ⊆ properties.keys := by
  intro key isRequired
  rw [shows.required, List.mem_eraseDups] at isRequired
  obtain ⟨m, mandatory, named⟩ := List.mem_map.mp isRequired
  rw [shows.names, List.mem_eraseDups]
  exact List.mem_map.mpr ⟨m, (List.mem_filter.mp mandatory).1, named⟩

end Schema.Shows

theorem StructType.shows_definition (s : StructType) (members : List TaggedMember) :
    (s.definition members).Shows (members.foldl PropertyList.add {}).properties members where
  stored := rfl
  names := PropertyList.keys_foldl_add members
  values := PropertyList.get?_foldl_add members
  required := PropertyList.required_foldl_add members

namespace Spec

variable {spec : Spec} {s : StructType} {schema : Schema}

/-- The definition of a struct shows the members of its expansion.  No name is required
twice, and only names of properties are. -/
theorem definition_shows_expansion (made : (spec.synthesize s).outcome = .ok schema) :
    ∃ members properties, (spec.expansion s).mapM Member.tagged = .ok members ∧
      schema.Shows properties members ∧ schema.required.Nodup ∧
      schema.required ⊆ properties.keys := by
  obtain ⟨-, members, contributed, rfl⟩ := synthesize_eq_ok_iff.mp made
  have shows := s.shows_definition members
  exact ⟨members, _, mapM_tagged_of_contributions contributed, shows, shows.nodup_required,
    shows.required_subset⟩

/-- A struct that is partly sent in the path, embeds another one behind a pointer, and has
a member of the same name as an embedded one. -/
def invoice : StructType :=
  { name := "Invoice"
    members :=
      [{ name := "Id", type := .scalar "int64", tag := "path:\"id\"" },
        { name := "Base", type := .pointer (.reference "Base"), isInline := true },
        { name := "Trace", type := .scalar "string", tag := "header:\"X-Trace,optional\"" },
        { name := "Labels", type := .map (.scalar "string") .dynamic, isInline := true },
        { name := "note", type := .scalar "int", tag := "json:\"-,omitempty\"" }] }

/-- A description of invoices, where the embedded struct has members that travel elsewhere
and embeds a third struct. -/
def invoices : Spec :=
  { service := { name := "invoices" }
    types := [invoice,
      { name := "Base", members :=
          [{ name := "Token", type := .scalar "string", tag := "header:\"Authorization\"" },
            { name := "Page", type := .scalar "int", tag := "form:\"page\"" },
            { name := "Note", type := .scalar "string", tag := "json:\"note\"" },
            .embedding "Total"] },
      { name := "Total", members := [{ name := "Amount", type := .scalar "float64" }] }] }

/-- The embedded struct stands in its place with the members that it keeps, and the two
members with one name share a property. -/
theorem invoices_shows_expansion :
    ∃ schema members properties, (invoices.synthesize invoice).outcome = .ok schema ∧
      (invoices.expansion invoice).map Member.name = ["Note", "Total", "Trace", "Labels", "note"] ∧
      (invoices.expansion invoice).mapM Member.tagged = .ok members ∧
      schema.Shows properties members ∧
      properties.keys = ["note", "Total", "X-Trace", "Labels"] ∧
      schema.required = ["note", "Total", "Labels"] ∧ schema.required.Nodup ∧
      schema.required ⊆ properties.keys := by
  have run : (invoices.synthesize invoice).outcome.map
      (fun schema => (schema.properties.map Table.keys, schema.required)) =
      .ok (some ["note", "Total", "X-Trace", "Labels"], ["note", "Total", "Labels"]) := by cbv
  have expanded : (invoices.expansion invoice).map Member.name =
      ["Note", "Total", "Trace", "Labels", "note"] := by cbv
  obtain ⟨schema, made, value⟩ := map_eq_ok_iff.mp run
  obtain ⟨names, required⟩ := Prod.mk.inj value
  obtain ⟨members, properties, tagged, shows, distinct, named⟩ := definition_shows_expansion made
  rw [shows.stored, Option.map_some, Option.some.injEq] at names
  exact ⟨schema, members, properties, made, expanded, tagged, shows, names, required, distinct,
    named⟩

end Spec

end ApiDoc
