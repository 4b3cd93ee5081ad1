/-
# The properties that a definition requires

A definition shows one property under each name: that of the last member with the name.
The names of the properties that must be present are kept in a list of their own.  A name
enters that list with the first member that must be present, and it stays there whatever
takes the place of the member later.

So the list is about all members that the definition was made of, and not about those that
it shows.  The two come apart exactly where an optional member has taken the place of one
that must be present.
-/

import ApiDoc.Proofs.Definition
import Mathlib

namespace ApiDoc

namespace PropertyList

/-- The names of the members that must be present are required, each once and in order of
first occurrence. -/
theorem required_foldl_add (members : List TaggedMember) :
    (members.foldl add {}).required =
      ((members.filter fun m => !m.isOptional).map TaggedMember.propertyName).eraseDups := by
  have adds : ∀ m ∈ members, ∀ list : PropertyList, list.required.Nodup →
      (list.add m).required =
        (list.required ++ if m.isOptional then [] else [m.propertyName]).eraseDups := by
    intro m _ list distinct
    by_cases optional : m.isOptional
    · simp [add, optional, eraseDups_eq_self distinct]
    · simp [add, optional, eraseDups_concat distinct]
  have names : ∀ members : List TaggedMember,
      members.flatMap (fun m => if m.isOptional then [] else [m.propertyName]) =
        (members.filter fun m => !m.isOptional).map TaggedMember.propertyName := by
    intro members
    induction members with
    | nil => rfl
    | cons m rest ih => by_cases optional : m.isOptional <;> simp [optional, ih]
  have fresh : ({} : PropertyList).required.Nodup := List.nodup_nil
  rw [keys_foldl_of_step add PropertyList.required _ adds fresh, names]
  rfl

end PropertyList

variable {members : List TaggedMember}

/-- A member that survives is one of the list. -/
theorem Survives.mem {m : TaggedMember} (shown : Survives members m) : m ∈ members := by
  obtain ⟨before, after, rfl, -⟩ := shown
  exact List.mem_append_right before List.mem_cons_self

namespace StructType

/-- A definition requires the names of all members that must be present, whether it shows
them or not. -/
theorem mem_required_definition_iff (s : StructType) {key : String} :
    key ∈ (s.definition members).required ↔
      ∃ m ∈ members, m.isOptional = false ∧ m.propertyName = key := by
  show key ∈ (members.foldl PropertyList.add {}).required ↔ _
  rw [PropertyList.required_foldl_add, List.mem_eraseDups]
  simp [and_assoc]

end StructType

/-- A property is listed as required exactly when the member that it shows must be
present. -/
def RequiresWhatItShows (members : List TaggedMember) (required : List String) : Prop :=
  ∀ m, Survives members m → (m.propertyName ∈ required ↔ m.isOptional = false)

/-- An optional member is shown only under a name that is optional throughout. -/
def KeepsRequired (members : List TaggedMember) : Prop :=
  ∀ shown, Survives members shown → shown.isOptional = true →
    ∀ m ∈ members, m.propertyName = shown.propertyName → m.isOptional = true

theorem survives_iff {m : TaggedMember} :
    Survives members m ↔
      (members.filter fun n => n.propertyName == m.propertyName).getLast? = some m := by
  rw [getLast?_filter_propertyName_iff]
  exact (and_iff_left rfl).symm

instance (m : TaggedMember) : Decidable (Survives members m) :=
  decidable_of_iff _ survives_iff.symm

instance : Decidable (KeepsRequired members) :=
  decidable_of_iff
    (∀ shown ∈ members, Survives members shown → shown.isOptional = true →
      ∀ m ∈ members, m.propertyName = shown.propertyName → m.isOptional = true)
    ⟨fun each m shown => each m shown.mem shown, fun each m _ => each m⟩

/-- A definition requires what it shows exactly when no optional member takes the place of
one that must be present. -/
theorem StructType.requiresWhatItShows_definition_iff (s : StructType) :
    RequiresWhatItShows members (s.definition members).required ↔ KeepsRequired members := by
  apply Iff.intro
  · intro agrees shown survives optional m listed sameName
    by_contra mandatory
    rw [Bool.not_eq_true] at mandatory
    have named : shown.propertyName ∈ (s.definition members).required :=
      s.mem_required_definition_iff.mpr ⟨m, listed, mandatory, sameName⟩
    rw [(agrees shown survives).mp named] at optional
    cases optional
  · intro keeps shown survives
    rw [s.mem_required_definition_iff]
    apply Iff.intro
    · rintro ⟨m, listed, mandatory, sameName⟩
      by_contra optional
      rw [Bool.not_eq_false] at optional
      rw [keeps shown survives optional m listed sameName] at mandatory
      cases mandatory
    · intro mandatory
      exact ⟨shown, survives.mem, mandatory, rfl⟩

namespace Spec

variable {spec : Spec} {s : StructType} {schema : Schema}

/-- A definition shows the property of the last member with each name, and it requires the
names of all members that must be present.  The two agree exactly when no optional member
takes the place of one that must be present. -/
theorem requiresWhatItShows_iff (made : (spec.synthesize s).outcome = .ok schema) :
    ∃ members, (spec.contributions s).outcome = .ok members ∧
      (∃ properties, schema.properties = some properties ∧ ∀ key property,
        (key, property) ∈ properties.entries ↔
          ∃ m, Survives members m ∧ m.propertyName = key ∧ m.propertySchema = property) ∧
      (∀ key, key ∈ schema.required ↔
        ∃ m ∈ members, m.isOptional = false ∧ m.propertyName = key) ∧
      (RequiresWhatItShows members schema.required ↔ KeepsRequired members) := by
  obtain ⟨-, members, contributed, rfl⟩ := synthesize_eq_ok_iff.mp made
  exact ⟨members, contributed, ⟨_, rfl, fun _ _ => PropertyList.mem_properties_iff⟩,
    fun _ => s.mem_required_definition_iff, s.requiresWhatItShows_definition_iff⟩

/-- A struct that embeds another one and has a member with the tag `outer`. -/
def account (outer : String) : StructType :=
  { name := "Account"
    members := [.embedding "Base", { name := "Id", type := .scalar "string", tag := outer }] }

/-- A description of accounts, where the embedded struct has a member of the same name with
the tag `inner`. -/
def accounts (inner outer : String) : Spec :=
  { service := { name := "accounts" }
    types := [account outer,
      { name := "Base", members := [{ name := "Id", type := .scalar "int64", tag := inner }] }] }

/-- When the embedded member is optional and the other is not, the name is required, and so
is the property that it shows. -/
theorem accounts_requiresWhatItShows :
    ∃ schema members,
      ((accounts "json:\"id,optional\"" "json:\"id\"").synthesize
        (account "json:\"id\"")).outcome = .ok schema ∧
      ((accounts "json:\"id,optional\"" "json:\"id\"").contributions
        (account "json:\"id\"")).outcome = .ok members ∧
      members.map TaggedMember.propertyName = ["id", "id"] ∧ schema.required = ["id"] ∧
      KeepsRequired members ∧ RequiresWhatItShows members schema.required := by
  have run : ((accounts "json:\"id,optional\"" "json:\"id\"").synthesize
      (account "json:\"id\"")).outcome.map Schema.required = .ok ["id"] := by cbv
  have parts : ((accounts "json:\"id,optional\"" "json:\"id\"").contributions
      (account "json:\"id\"")).outcome.map
        (fun members => (members.map TaggedMember.propertyName, decide (KeepsRequired members))) =
      .ok (["id", "id"], true) := by cbv
  obtain ⟨schema, made, required⟩ := map_eq_ok_iff.mp run
  obtain ⟨members, contributed, -, -, agrees⟩ := requiresWhatItShows_iff made
  rw [contributed] at parts
  obtain ⟨names, keeps⟩ := Prod.mk.inj (Except.ok.inj parts)
  have keeps : KeepsRequired members := of_decide_eq_true keeps
  exact ⟨schema, members, made, contributed, names, required, keeps, agrees.mpr keeps⟩

/-- When the embedded member must be present and the other is optional, the definition
shows the optional one and requires its name. -/
theorem accounts_not_requiresWhatItShows :
    ∃ schema members,
      ((accounts "json:\"id\"" "json:\"id,optional\"").synthesize
        (account "json:\"id,optional\"")).outcome = .ok schema ∧
      ((accounts "json:\"id\"" "json:\"id,optional\"").contributions
        (account "json:\"id,optional\"")).outcome = .ok members ∧
      ¬ RequiresWhatItShows members schema.required := by
  have passed : (accounts "json:\"id\"" "json:\"id,optional\"").checkEmbedding
      (account "json:\"id,optional\"") = .ok () := by cbv
  have parts : ((accounts "json:\"id\"" "json:\"id,optional\"").contributions
      (account "json:\"id,optional\"")).outcome.map
        (fun members => decide (KeepsRequired members)) = .ok false := by cbv
  obtain ⟨members, contributed, replaced⟩ := map_eq_ok_iff.mp parts
  refine ⟨_, members, synthesize_eq_ok_iff.mpr ⟨passed, members, contributed, rfl⟩,
    contributed, ?_⟩
  rw [StructType.requiresWhatItShows_definition_iff]
  exact of_decide_eq_false replaced

end Spec

end ApiDoc
