/-
# The order of tags

Tags are looked up by their keys, and no two tags of a member have the same one.  So the
order in which they stand does not matter for where the member travels, nor for the
parameter that it becomes.  One look-up goes by position: the first tag that can name a
member names it in a body.  Two such tags that change places can change the name there.
-/

import ApiDoc.Proofs.ParameterLayout
import ApiDoc.Proofs.TagText

namespace ApiDoc

namespace TaggedMember

/-- The same tags of the same member, in another order. -/
structure IsReordering (m other : TaggedMember) : Prop where
  member : other.member = m.member
  tags : other.tags.Perm m.tags

/-- The tags that can name a member. -/
def namingTags (m : TaggedMember) : List Tag :=
  m.tags.filter fun t => Tag.namingKeys.contains t.key

namespace IsReordering

variable {m other : TaggedMember}

/-- A key finds the same tag in any order. -/
theorem tag?_eq (reordering : m.IsReordering other) (distinct : (m.tags.map Tag.key).Nodup)
    (key : String) : other.tag? key = m.tag? key :=
  find?_key_eq_of_perm reordering.tags distinct key

/-- A single tag that can name a member is the first one in any order. -/
theorem namingTag?_eq (reordering : m.IsReordering other) (single : m.namingTags.length ≤ 1) :
    other.namingTag? = m.namingTag? := by
  have reordered : other.namingTags.Perm m.namingTags := reordering.tags.filter _
  have same : other.namingTags = m.namingTags := by
    cases naming : m.namingTags with
    | nil =>
        rw [naming] at reordered
        exact reordered.eq_nil
    | cons t rest =>
        have alone : rest = [] := by
          rw [naming, List.length_cons] at single
          exact List.eq_nil_of_length_eq_zero (by omega)
        rw [naming, alone] at reordered
        rw [alone]
        exact List.perm_singleton.mp reordered
  rw [namingTag?, namingTag?, ← List.head?_filter, ← List.head?_filter]
  exact congrArg List.head? same

theorem location_classify_eq (reordering : m.IsReordering other)
    (distinct : (m.tags.map Tag.key).Nodup) (readOnly : Bool) :
    (other.classify readOnly).location = (m.classify readOnly).location := by
  rw [location_classify, location_classify, reordering.member]
  simp only [reordering.tag?_eq distinct]

/-- Where the name in a body does not matter, nothing about a member depends on the order
of its tags. -/
theorem classify_eq (reordering : m.IsReordering other) (distinct : (m.tags.map Tag.key).Nodup)
    {readOnly : Bool} (settled : (m.classify readOnly).location ≠ .body ∨
      other.namingTag? = m.namingTag?) : other.classify readOnly = m.classify readOnly := by
  rcases settled with away | sameNaming
  · rw [location_classify] at away
    simp only [classify, reordering.member, reordering.tag?_eq distinct]
    by_cases inlined : m.member.isInline
    · rw [if_pos inlined] at away
      exact absurd rfl away
    · cases inPath : m.tag? Tag.pathKey with
      | some t => rfl
      | none =>
          cases readOnly with
          | true => rfl
          | false =>
              cases inHeader : m.tag? Tag.headerKey with
              | some t => rfl
              | none => simp [inlined, inPath, inHeader] at away
  · have name : other.propertyName = m.propertyName := by
      rw [propertyName, propertyName, sameNaming, reordering.member]
    have optional : other.isOptional = m.isOptional := by
      rw [isOptional, isOptional, sameNaming]
    simp only [classify, reordering.member, reordering.tag?_eq distinct, name, optional]

/-- A classified member becomes the same parameter in any order of its tags. -/
theorem parameter_eq (reordering : m.IsReordering other) (distinct : (m.tags.map Tag.key).Nodup)
    (c : Classification) : other.parameter c = m.parameter c := by
  simp only [parameter, parameterTag?, reordering.member, reordering.tag?_eq distinct]

end IsReordering

end TaggedMember

/-- The order of the tags of a member never changes where the member travels.  It changes
nothing else either, unless the member belongs in a body and several of its tags could
name it there. -/
theorem Member.classify_of_reordering {m : Member} {tagged other : TaggedMember}
    (read : m.tagged = .ok tagged) (reordering : tagged.IsReordering other) (method : String) :
    (other.classify (isReadOnly method)).location =
        (tagged.classify (isReadOnly method)).location ∧
      ((tagged.classify (isReadOnly method)).location ≠ .body ∨ tagged.namingTags.length ≤ 1 →
        other.classify (isReadOnly method) = tagged.classify (isReadOnly method) ∧
          other.parameter (other.classify (isReadOnly method)) =
            tagged.parameter (tagged.classify (isReadOnly method))) := by
  have distinct := (Tag.areWellFormed_of_tagged read).distinct
  refine ⟨reordering.location_classify_eq distinct _, fun settled => ?_⟩
  have same := reordering.classify_eq distinct (settled.imp_right reordering.namingTag?_eq)
  exact ⟨same, by rw [same, reordering.parameter_eq distinct]⟩

/-- A member that could be part of a body, and is a header. -/
def batchSize : Member :=
  { name := "Batch", type := .array (.scalar "int64")
    tag := "json:\"batch\" header:\"X-Batch,optional,options=8|16\" validate:\"min=1\"" }

/-- The tags of that member. -/
def batchTags : List Tag :=
  [⟨"json", "batch", []⟩, ⟨"header", "X-Batch", ["optional", "options=8|16"]⟩,
    ⟨"validate", "min=1", []⟩]

/-- With its tags in reverse the member is the same header. -/
theorem batchSize_reversed_header :
    batchSize.tagged = .ok ⟨batchSize, batchTags⟩ ∧
      TaggedMember.IsReordering ⟨batchSize, batchTags⟩ ⟨batchSize, batchTags.reverse⟩ ∧
      ((⟨batchSize, batchTags⟩ : TaggedMember).classify (isReadOnly "put")).location ≠ .body ∧
      (⟨batchSize, batchTags.reverse⟩ : TaggedMember).classify (isReadOnly "put") =
        ⟨.header, "X-Batch", false⟩ ∧
      (⟨batchSize, batchTags.reverse⟩ : TaggedMember).parameter ⟨.header, "X-Batch", false⟩ =
        (⟨batchSize, batchTags⟩ : TaggedMember).parameter ⟨.header, "X-Batch", false⟩ := by
  have read : batchSize.tagged = .ok ⟨batchSize, batchTags⟩ := by cbv
  have reordering : TaggedMember.IsReordering ⟨batchSize, batchTags⟩
      ⟨batchSize, batchTags.reverse⟩ := ⟨rfl, List.reverse_perm batchTags⟩
  have asWritten : (⟨batchSize, batchTags⟩ : TaggedMember).classify (isReadOnly "put") =
      ⟨.header, "X-Batch", false⟩ := by cbv
  have away : ((⟨batchSize, batchTags⟩ : TaggedMember).classify (isReadOnly "put")).location ≠
      .body := by
    rw [asWritten]
    decide
  obtain ⟨same, parameter⟩ := (Member.classify_of_reordering read reordering "put").2 (Or.inl away)
  rw [asWritten] at same
  rw [same, asWritten] at parameter
  exact ⟨read, reordering, away, same, parameter⟩

/-- In a body the first of several names counts. -/
example :
    ((⟨{ name := "Batch", type := .dynamic }, [⟨"json", "batch", []⟩, ⟨"form", "size", []⟩]⟩ :
        TaggedMember).classify false).name = "batch" ∧
      ((⟨{ name := "Batch", type := .dynamic }, [⟨"form", "size", []⟩, ⟨"json", "batch", []⟩]⟩ :
        TaggedMember).classify false).name = "size" := by
  decide

end ApiDoc
