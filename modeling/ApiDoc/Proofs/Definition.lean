/-
# What a definition points to, and when there is one

A definition points to the structs behind the types of its properties, through
pointers and lists but not through maps.  Decorations and bounds change nothing
about that, and of several members with the same property only the last one
counts.  The second half says when a struct has a definition: no cycle of
embedded structs, readable tags, and every embedded struct known with readable
tags of its own.
-/

import ApiDoc.Generate.Definitions
import ApiDoc.Proofs.Embedding
import ApiDoc.Proofs.FirstOccurrence
import ApiDoc.Proofs.Traversal
import ApiDoc.Proofs.TypeSchema

namespace ApiDoc

/-! ## The structs behind a type -/

/-- The struct behind all pointers and lists of a type.  A map hides what it
holds. -/
def TypeExpr.target? : TypeExpr → Option String
  | pointer target => target.target?
  | array element => element.target?
  | reference name => some name
  | scalar _ => none
  | map _ _ => none
  | dynamic => none

namespace Schema

/-- A pointer to a definition leads to that definition. -/
@[simp] theorem definitionName?_referenceTo (name : String) :
    definitionName? (definitionPath ++ name) = some name := by
  have starts : definitionPath.toList.isPrefixOf (definitionPath ++ name).toList = true := by
    rw [String.toList_append, List.isPrefixOf_iff_prefix]
    exact List.prefix_append _ _
  have rest : (definitionPath ++ name).toList.drop definitionPath.length = name.toList := by
    rw [String.toList_append]
    exact List.drop_left
  rw [definitionName?, if_pos starts, rest, String.ofList_toList]

/-- Only the reference, the elements and the properties of a schema point
anywhere. -/
theorem pointers_eq (s : Schema) :
    s.pointers = (s.reference.bind definitionName?).toList ++ itemPointers s.items ++
      propertyPointers s.properties := by
  cases s
  rw [pointers]

/-- What entries of a table point to, entry by entry. -/
theorem entryPointers_eq_flatMap (entries : List (String × Schema)) :
    entryPointers entries = entries.flatMap fun entry => entry.2.pointers := by
  induction entries with
  | nil => rw [entryPointers, List.flatMap_nil]
  | cons entry rest ih => rw [entryPointers, List.flatMap_cons, ih]

/-- The schema of another definition points to that definition alone. -/
@[simp] theorem pointers_referenceTo (name : String) : (referenceTo name).pointers = [name] := by
  simp [pointers_eq, referenceTo, itemPointers, propertyPointers]

/-- Schemas of the same type point to the same definitions. -/
theorem SameType.pointers_eq {s t : Schema} (same : s.SameType t) : s.pointers = t.pointers := by
  rw [Schema.pointers_eq, Schema.pointers_eq t, same.reference, same.items, same.properties]

end Schema

/-- The schema of a type points to the struct behind the type, if there is one. -/
theorem TypeExpr.pointers_schema (t : TypeExpr) : t.schema.pointers = t.target?.toList := by
  induction t with
  | scalar name =>
      rw [schema, scalarSchema, target?, Schema.pointers_eq]
      split <;> rfl
  | pointer target ih => exact ih
  | array element ih =>
      rw [schema, target?, ← ih, Schema.pointers_eq]
      simp [Schema.arrayOf, Schema.itemPointers, Schema.propertyPointers]
  | map key value => simp [schema, target?, Schema.object, Schema.pointers_eq,
      Schema.itemPointers, Schema.propertyPointers]
  | reference name => exact Schema.pointers_referenceTo name
  | dynamic => simp [schema, target?, Schema.object, Schema.pointers_eq,
      Schema.itemPointers, Schema.propertyPointers]

/-- A property points to the struct behind the type of its member. -/
theorem TaggedMember.pointers_propertySchema (m : TaggedMember) :
    m.propertySchema.pointers = m.member.type.target?.toList := by
  rw [m.sameType_propertySchema.pointers_eq, TypeExpr.pointers_schema]

/-! ## The properties that survive -/

/-- A member of a list whose property no later member takes. -/
def Survives (members : List TaggedMember) (m : TaggedMember) : Prop :=
  ∃ before after, members = before ++ m :: after ∧
    ∀ later ∈ after, later.propertyName ≠ m.propertyName

/-- The member that survives under a name is the last one with the name. -/
theorem getLast?_filter_propertyName_iff {members : List TaggedMember} {m : TaggedMember}
    {key : String} :
    (members.filter fun n => n.propertyName == key).getLast? = some m ↔
      Survives members m ∧ m.propertyName = key := by
  rw [getLast?_filter_eq_some_iff, beq_iff_eq, and_comm]
  refine and_congr_left fun named => ?_
  subst named
  simp only [Survives, beq_iff_eq, ne_eq]

namespace PropertyList

/-- The properties of a list of members are keyed by their names, each once. -/
theorem keys_foldl_add (members : List TaggedMember) :
    (members.foldl add {}).properties.keys =
      (members.map TaggedMember.propertyName).eraseDups := by
  have adds : ∀ m ∈ members, ∀ list : PropertyList, list.properties.keys.Nodup →
      (list.add m).properties.keys =
        (list.properties.keys ++ [m.propertyName]).eraseDups := by
    intro m _ list distinct
    exact Table.keys_insert_eq_eraseDups distinct m.propertyName m.propertySchema
  have fresh : ({} : PropertyList).properties.keys.Nodup := List.nodup_nil
  rw [keys_foldl_of_step add (fun list : PropertyList => list.properties.keys) _ adds fresh,
    List.map_eq_flatMap]
  rfl

/-- The property under a name is that of the last member with the name. -/
theorem get?_foldl_add (members : List TaggedMember) (key : String) :
    (members.foldl add {}).properties.get? key =
      (members.filter fun m => m.propertyName == key).getLast?.map
        TaggedMember.propertySchema := by
  have sees : ∀ m ∈ members, ∀ list : PropertyList,
      (list.add m).properties.get? key =
        if m.propertyName == key then some m.propertySchema
        else list.properties.get? key := by
    intro m _ list
    simp only [add, Table.get?_insert, beq_iff_eq]
  rw [lookup_foldl_of_lastWrite add (fun list : PropertyList => list.properties.get? key)
    (fun m => m.propertyName == key) TaggedMember.propertySchema sees]
  exact Option.or_none

/-- The properties of a list of members are those of the members that survive. -/
theorem mem_properties_iff {members : List TaggedMember} {key : String} {schema : Schema} :
    (key, schema) ∈ (members.foldl add {}).properties.entries ↔
      ∃ m, Survives members m ∧ m.propertyName = key ∧ m.propertySchema = schema := by
  have distinct : (members.foldl add {}).properties.keys.Nodup := by
    rw [keys_foldl_add]
    exact nodup_eraseDups _
  rw [← Table.get?_eq_some_iff_mem distinct, get?_foldl_add, Option.map_eq_some_iff]
  simp only [getLast?_filter_propertyName_iff, and_assoc]

end PropertyList

/-- A definition points to the structs behind the types of the members that
survive in it. -/
theorem StructType.mem_references_definition_iff {s : StructType} {members : List TaggedMember}
    {target : String} :
    target ∈ (s.definition members).references ↔
      ∃ m, Survives members m ∧ m.member.type.target? = some target := by
  have pointers : (s.definition members).pointers =
      (members.foldl PropertyList.add {}).properties.entries.flatMap
        fun entry => entry.2.pointers := by
    rw [← Schema.entryPointers_eq_flatMap, Schema.pointers_eq]
    simp [definition, Schema.object, Schema.itemPointers, Schema.propertyPointers]
  rw [Schema.references, List.mem_eraseDups, pointers, List.mem_flatMap]
  apply Iff.intro
  · intro pointed
    rcases pointed with ⟨⟨key, schema⟩, entry, pointed⟩
    obtain ⟨m, survives, -, rfl⟩ := PropertyList.mem_properties_iff.mp entry
    rw [TaggedMember.pointers_propertySchema, Option.mem_toList] at pointed
    exact ⟨m, survives, pointed⟩
  · intro surviving
    rcases surviving with ⟨m, survives, points⟩
    refine ⟨(m.propertyName, m.propertySchema),
      PropertyList.mem_properties_iff.mpr ⟨m, survives, rfl, rfl⟩, ?_⟩
    rw [TaggedMember.pointers_propertySchema, Option.mem_toList]
    exact points

/-! ## Members and the structs they embed -/

/-- The tag text of a member can be read. -/
def Member.IsReadable (m : Member) : Prop :=
  ∃ tags, Tag.readAll m.tag = .ok tags

/-- A member whose tag text can be read has tags, and only such a member has. -/
theorem Member.exists_tagged_iff {m : Member} :
    (∃ tagged, m.tagged = .ok tagged) ↔ m.IsReadable := by
  rw [Member.IsReadable, Member.tagged, Tag.readFor]
  cases Tag.readAll m.tag <;> simp [Except.map]

/-- A member with its tags is that member. -/
theorem Member.member_of_tagged {m : Member} {tagged : TaggedMember}
    (read : m.tagged = .ok tagged) : tagged.member = m := by
  obtain ⟨tags, -, rfl⟩ := map_eq_ok_iff.mp read
  rfl

theorem Member.isInline_of_embedded {m : Member} {name : String}
    (embeds : m.embedded? = some name) : m.isInline = true := by
  by_contra plain
  rw [embedded?, if_neg plain] at embeds
  cases embeds

/-- An embedded struct is never part of the path. -/
theorem TaggedMember.isPath_eq_false_of_embedded {m : TaggedMember} {name : String}
    (embeds : m.member.embedded? = some name) : m.isPath = false := by
  have inlined : m.member.isInline = true := Member.isInline_of_embedded embeds
  simp [isPath, isPlainWith, inlined]

/-- Finding an embedded struct succeeds for the structs of the description. -/
theorem Spec.findEmbedded_eq_ok_iff {spec : Spec} {name parent : String} {s : StructType} :
    spec.findEmbedded name parent = .ok s ↔ spec.findType? name = some s := by
  rw [Spec.findEmbedded]
  cases spec.findType? name <;> simp

/-- What the members of an embedded struct give together, when each gives a list. -/
def Spec.fromEmbedded {β : Type} (spec : Spec) (give : TaggedMember → List β)
    (name parent : String) : Except Error (List β) :=
  spec.findEmbedded name parent >>= fun inner =>
    (inner.members.mapM fun n : Member => n.tagged.map give).map List.flatten

/-- The members of an embedded struct can give something when the struct exists and
their tags can be read. -/
theorem Spec.exists_fromEmbedded_iff {β : Type} {spec : Spec} {give : TaggedMember → List β}
    {name parent : String} :
    (∃ given, spec.fromEmbedded give name parent = .ok given) ↔
      ∃ inner, spec.findType? name = some inner ∧ ∀ n ∈ inner.members, n.IsReadable := by
  have each : ∀ inner : StructType,
      (∃ parts, (inner.members.mapM fun n : Member => n.tagged.map give) = .ok parts) ↔
        ∀ n ∈ inner.members, n.IsReadable := by
    intro inner
    simp only [exists_mapM_eq_ok_iff, ← Member.exists_tagged_iff, exists_map_eq_ok_iff]
  simp only [fromEmbedded, bind_eq_ok_iff, findEmbedded_eq_ok_iff, ← each]
  apply Iff.intro
  · intro given
    rcases given with ⟨_, inner, found, run⟩
    obtain ⟨parts, run, _⟩ := map_eq_ok_iff.mp run
    exact ⟨inner, found, parts, run⟩
  · intro run
    rcases run with ⟨inner, found, parts, run⟩
    exact ⟨parts.flatten, inner, found, map_eq_ok_iff.mpr ⟨parts, run, rfl⟩⟩

/-- What the members of an embedded struct give is what one of them gives. -/
theorem Spec.mem_fromEmbedded_iff {β : Type} {spec : Spec} {give : TaggedMember → List β}
    {name parent : String} {given : List β} {inner : StructType}
    (run : spec.fromEmbedded give name parent = .ok given)
    (found : spec.findType? name = some inner) {b : β} :
    b ∈ given ↔ ∃ n ∈ inner.members, ∃ tagged, n.tagged = .ok tagged ∧ b ∈ give tagged := by
  rw [fromEmbedded, findEmbedded_eq_ok_iff.mpr found] at run
  obtain ⟨parts, each, rfl⟩ := map_eq_ok_iff.mp run
  rw [List.mem_flatten]
  apply Iff.intro
  · intro inParts
    rcases inParts with ⟨part, isPart, inPart⟩
    obtain ⟨n, listed, value⟩ := (mem_results_iff each).mp isPart
    obtain ⟨tagged, read, rfl⟩ := map_eq_ok_iff.mp value
    exact ⟨n, listed, tagged, read, inPart⟩
  · intro given
    rcases given with ⟨n, listed, tagged, read, inPart⟩
    have value : n.tagged.map give = .ok (give tagged) := map_eq_ok_iff.mpr ⟨tagged, read, rfl⟩
    exact ⟨give tagged, (mem_results_iff each).mpr ⟨n, listed, value⟩, inPart⟩

/-! ## The members that are contributed -/

/-- What a member contributes to the definition of a struct that embeds its own. -/
def TaggedMember.embeddedContributions (m : TaggedMember) : List TaggedMember :=
  if m.isHeader || m.isForm || m.isPath then [] else [m]

/-- What a member that embeds nothing contributes to the definition of its struct. -/
def TaggedMember.ownContributions (m : TaggedMember) : List TaggedMember :=
  if m.isPath then [] else [m]

theorem Member.outcome_embeddedContribution (m : Member) :
    m.embeddedContribution.outcome = m.tagged.map TaggedMember.embeddedContributions := by
  rw [embeddedContribution, Logged.outcome_bind, Logged.outcome_ofExcept]
  cases m.tagged with
  | error e => rfl
  | ok tagged =>
      show Logged.outcome (if _ then _ else _) = .ok tagged.embeddedContributions
      rw [TaggedMember.embeddedContributions]
      split <;> rfl

theorem Spec.outcome_contribution_of_own {spec : Spec} {parent : String} {m : Member}
    (own : m.embedded? = none) :
    (spec.contribution parent m).outcome = m.tagged.map TaggedMember.ownContributions := by
  rw [contribution, Logged.outcome_bind, Logged.outcome_ofExcept, own]
  cases m.tagged with
  | error e => rfl
  | ok tagged =>
      show Logged.outcome (if _ then _ else _) = .ok tagged.ownContributions
      rw [TaggedMember.ownContributions]
      split <;> rfl

/-- An embedded struct contributes what its members do. -/
theorem Spec.outcome_contribution_of_embedded {spec : Spec} {parent name : String} {m : Member}
    (embeds : m.embedded? = some name) :
    (spec.contribution parent m).outcome = m.tagged >>= fun _ =>
      spec.fromEmbedded TaggedMember.embeddedContributions name parent := by
  rw [contribution, Logged.outcome_bind, Logged.outcome_ofExcept, embeds]
  cases read : m.tagged with
  | error e => rfl
  | ok tagged =>
      have notInPath : ¬ tagged.isPath = true := by
        rw [TaggedMember.isPath_eq_false_of_embedded
          ((congrArg Member.embedded? (Member.member_of_tagged read)).trans embeds)]
        exact Bool.false_ne_true
      show Logged.outcome (if _ then _ else _) =
        spec.fromEmbedded TaggedMember.embeddedContributions name parent
      rw [if_neg notInPath]
      simp only [fromEmbedded, Logged.outcome_bind, Logged.outcome_ofExcept,
        Logged.outcome_forEach, Member.outcome_embeddedContribution]
      rfl

/-- A member contributes to a definition when its tags can be read and the struct
it embeds, if any, exists and has readable tags. -/
theorem Spec.exists_contribution_iff {spec : Spec} {parent : String} {m : Member} :
    (∃ parts, (spec.contribution parent m).outcome = .ok parts) ↔
      m.IsReadable ∧ ∀ name, m.embedded? = some name →
        ∃ inner, spec.findType? name = some inner ∧ ∀ n ∈ inner.members, n.IsReadable := by
  rw [← Member.exists_tagged_iff]
  cases embeds : m.embedded? with
  | none =>
      rw [outcome_contribution_of_own embeds, exists_map_eq_ok_iff]
      exact ⟨fun read => ⟨read, nofun⟩, fun readable => readable.1⟩
  | some name =>
      rw [outcome_contribution_of_embedded embeds]
      simp only [bind_eq_ok_iff, Option.some.injEq, forall_eq']
      apply Iff.intro
      · intro contributed
        rcases contributed with ⟨given, tagged, read, run⟩
        exact ⟨⟨tagged, read⟩, exists_fromEmbedded_iff.mp ⟨given, run⟩⟩
      · intro known
        rcases known with ⟨⟨tagged, read⟩, inner⟩
        obtain ⟨given, run⟩ := exists_fromEmbedded_iff.mpr inner
        exact ⟨given, tagged, read, run⟩

/-- The members of a definition are those that the members of the struct
contribute; all of them must. -/
theorem Spec.exists_contributions_iff {spec : Spec} {s : StructType} :
    (∃ members, (spec.contributions s).outcome = .ok members) ↔
      ∀ m ∈ s.members, ∃ parts, (spec.contribution s.name m).outcome = .ok parts := by
  rw [← exists_mapM_eq_ok_iff, ← Logged.outcome_forEach]
  simp only [Spec.contributions, Logged.outcome_bind, bind_eq_ok_iff]
  apply Iff.intro
  · intro run
    rcases run with ⟨-, parts, run, -⟩
    exact ⟨parts, run⟩
  · intro run
    rcases run with ⟨parts, run⟩
    exact ⟨parts.flatten, parts, run, rfl⟩

/-- What a definition is made of are members of the struct itself or of a struct that it
embeds. -/
theorem Spec.member_of_mem_contributions {spec : Spec} {s : StructType}
    {members : List TaggedMember} (contributed : (spec.contributions s).outcome = .ok members)
    {m : TaggedMember} (listed : m ∈ members) :
    m.member ∈ s.members ∨ ∃ n ∈ s.members, ∃ name inner, n.embedded? = some name ∧
      spec.findType? name = some inner ∧ m.member ∈ inner.members := by
  rw [contributions, Logged.outcome_bind, Logged.outcome_forEach, bind_eq_ok_iff] at contributed
  rcases contributed with ⟨parts, run, gathered⟩
  obtain rfl : parts.flatten = members := Except.ok.inj gathered
  obtain ⟨part, isPart, inPart⟩ := List.mem_flatten.mp listed
  obtain ⟨n, member, value⟩ := (mem_results_iff run).mp isPart
  cases embeds : n.embedded? with
  | none =>
      rw [outcome_contribution_of_own embeds, map_eq_ok_iff] at value
      rcases value with ⟨tagged, read, rfl⟩
      rw [TaggedMember.ownContributions] at inPart
      split at inPart
      · cases inPart
      · obtain rfl := List.mem_singleton.mp inPart
        exact Or.inl (Member.member_of_tagged read ▸ member)
  | some name =>
      rw [outcome_contribution_of_embedded embeds, bind_eq_ok_iff] at value
      rcases value with ⟨-, -, given⟩
      obtain ⟨inner, found, -⟩ := exists_fromEmbedded_iff.mp ⟨part, given⟩
      obtain ⟨k, innerMember, tagged, read, inGiven⟩ := (mem_fromEmbedded_iff given found).mp inPart
      rw [TaggedMember.embeddedContributions] at inGiven
      split at inGiven
      · cases inGiven
      · obtain rfl := List.mem_singleton.mp inGiven
        exact Or.inr ⟨n, member, name, inner, embeds, found,
          Member.member_of_tagged read ▸ innerMember⟩

/-- A definition comes from a check for cycles that passes and the members that
are contributed. -/
theorem Spec.synthesize_eq_ok_iff {spec : Spec} {s : StructType} {schema : Schema} :
    (spec.synthesize s).outcome = .ok schema ↔
      spec.checkEmbedding s = .ok () ∧
        ∃ members, (spec.contributions s).outcome = .ok members ∧
          s.definition members = schema := by
  simp only [Spec.synthesize, Logged.outcome_bind, Logged.outcome_ofExcept, bind_eq_ok_iff,
    Logged.outcome_pure, Except.ok.injEq]
  exact ⟨fun ⟨_, run⟩ => run, fun run => ⟨(), run⟩⟩

/-! ## When a struct has a definition -/

/-- What it takes for a struct to have a definition: it leads to no cycle, its tags
can be read, and each struct it embeds exists and has readable tags too. -/
structure Spec.IsDefinable (spec : Spec) (s : StructType) : Prop where
  /-- No chain of embedded structs leads to a cycle. -/
  acyclic : ¬ spec.LeadsToCycle s.name
  /-- The tags of every member can be read. -/
  readable : ∀ m ∈ s.members, m.IsReadable
  /-- Every embedded struct exists, and the tags of its members can be read. -/
  embedded : ∀ m ∈ s.members, ∀ name, m.embedded? = some name →
    ∃ inner, spec.findType? name = some inner ∧ ∀ n ∈ inner.members, n.IsReadable

/-- A struct of the description has a definition exactly when it is definable. -/
theorem Spec.exists_synthesize_iff {spec : Spec} {s : StructType}
    (found : spec.findType? s.name = some s) :
    (∃ schema, (spec.synthesize s).outcome = .ok schema) ↔ spec.IsDefinable s := by
  have parts : (∃ members, (spec.contributions s).outcome = .ok members) ↔
      (∀ m ∈ s.members, m.IsReadable) ∧ ∀ m ∈ s.members, ∀ name, m.embedded? = some name →
        ∃ inner, spec.findType? name = some inner ∧ ∀ n ∈ inner.members, n.IsReadable := by
    rw [Spec.exists_contributions_iff]
    simp only [Spec.exists_contribution_iff, forall_and]
  simp only [Spec.synthesize_eq_ok_iff]
  apply Iff.intro
  · intro made
    rcases made with ⟨-, passed, members, run, -⟩
    obtain ⟨readable, embedded⟩ := parts.mp ⟨members, run⟩
    exact ⟨(Spec.checkEmbedding_eq_ok_iff found).mp passed, readable, embedded⟩
  · intro definable
    rcases definable with ⟨acyclic, readable, embedded⟩
    obtain ⟨members, run⟩ := parts.mpr ⟨readable, embedded⟩
    exact ⟨s.definition members, (Spec.checkEmbedding_eq_ok_iff found).mpr acyclic,
      members, run, rfl⟩

end ApiDoc
