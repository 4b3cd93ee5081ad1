/-
# Pointers and lists around a type

Pointers and lists can stand around a type in any order and to any depth.  A schema
shows nothing of the pointers and keeps every list, so it points to the struct in the
middle, if there is one; of a map it shows nothing at all.  Where only pointers stand
around a struct, the schema is the reference to that struct and has no kind.  A
parameter cannot be a reference and shows the bare name instead.
-/

import ApiDoc.Proofs.Definition
import ApiDoc.Proofs.TypeText
import Mathlib.Logic.Relation

namespace ApiDoc

namespace TypeExpr

/-! ## Pointers leave no trace -/

/-- The second type has one pointer more than the first one, outside all maps. -/
inductive AddsPointer : TypeExpr → TypeExpr → Prop
  | here (t : TypeExpr) : AddsPointer t (pointer t)
  | inPointer {t u : TypeExpr} (inside : AddsPointer t u) : AddsPointer (pointer t) (pointer u)
  | inArray {t u : TypeExpr} (inside : AddsPointer t u) : AddsPointer (array t) (array u)

/-- Each type comes from the other one when pointers are added and removed outside all
maps. -/
def DiffersInPointers : TypeExpr → TypeExpr → Prop :=
  Relation.EqvGen AddsPointer

theorem AddsPointer.schema_eq {t u : TypeExpr} (adds : AddsPointer t u) : u.schema = t.schema := by
  induction adds with
  | here t => rfl
  | inPointer inside ih => exact ih
  | inArray inside ih => exact congrArg Schema.arrayOf ih

theorem DiffersInPointers.schema_eq {t u : TypeExpr} (differs : DiffersInPointers t u) :
    u.schema = t.schema := by
  induction differs with
  | rel t u adds => exact adds.schema_eq
  | refl t => rfl
  | symm t u _ ih => exact ih.symm
  | trans t u v _ _ first second => exact second.trans first

/-! ## The struct in the middle -/

/-- The type inside all pointers and lists, in whatever order they stand. -/
def innermost : TypeExpr → TypeExpr
  | pointer target => target.innermost
  | array element => element.innermost
  | scalar name => scalar name
  | map key value => map key value
  | reference name => reference name
  | dynamic => dynamic

theorem target?_eq_some_iff {t : TypeExpr} {n : String} :
    t.target? = some n ↔ t.innermost = reference n := by
  induction t with
  | pointer target ih => exact ih
  | array element ih => exact ih
  | reference name => simp [target?, innermost]
  | scalar | map | dynamic => simp [target?, innermost]

/-- The schema of a type points to the struct inside all pointers and lists, and to nothing
else. -/
theorem references_schema (t : TypeExpr) : t.schema.references = t.target?.toList := by
  rw [Schema.references, pointers_schema]
  cases t.target? <;> rfl

/-! ## Structs behind pointers -/

/-- Only a struct behind pointers has a schema without a kind. -/
theorem kind_schema_eq_none_iff {t : TypeExpr} :
    t.schema.kind = none ↔ ∃ n, t.structName? = some n := by
  induction t with
  | pointer target ih => exact ih
  | scalar name =>
      refine iff_of_false ?_ (by simp [structName?, behindPointers])
      rw [schema, scalarSchema]
      split <;> exact Option.some_ne_none _
  | reference name => simp [schema, Schema.referenceTo, structName?, behindPointers]
  | array | map | dynamic =>
      simp [schema, Schema.arrayOf, Schema.object, structName?, behindPointers]

theorem schema_of_structName? {t : TypeExpr} {n : String} (denotes : t.structName? = some n) :
    t.schema = .referenceTo n := by
  induction t with
  | pointer target ih => exact ih denotes
  | reference name =>
      obtain rfl : name = n := Option.some.inj denotes
      rfl
  | scalar | array | map | dynamic => cases denotes

theorem isWellFormed_of_structName? {t : TypeExpr} {n : String} (wellFormed : t.IsWellFormed)
    (denotes : t.structName? = some n) : (reference n).IsWellFormed := by
  induction t with
  | pointer target ih => exact ih wellFormed denotes
  | reference name =>
      obtain rfl : name = n := Option.some.inj denotes
      exact wellFormed
  | scalar | array | map | dynamic => cases denotes

/-- Without the stars in front, the text of a struct behind pointers is its name: a name
that can be read does not start with a star itself. -/
theorem dropWhile_text_of_structName? {t : TypeExpr} {n : String} (wellFormed : t.IsWellFormed)
    (denotes : t.structName? = some n) : t.text.toList.dropWhile (· == '*') = n.toList := by
  induction t with
  | pointer target ih =>
      rw [toList_text_pointer, List.dropWhile_cons_of_pos (by decide)]
      exact ih wellFormed denotes
  | reference name =>
      obtain rfl : name = n := Option.some.inj denotes
      obtain ⟨c, head, upper⟩ := wellFormed.2.2
      obtain ⟨rest, whole⟩ := List.head?_eq_some_iff.mp head
      have plain : c ≠ '*' := by
        rintro rfl
        exact absurd upper (by decide)
      simp [text, whole, plain]
  | scalar | array | map | dynamic => cases denotes

end TypeExpr

/-! ## Parameters -/

/-- A parameter stands for a struct: it shows the bare name and the format that marks it as
unknown, and it refers to nothing. -/
structure Parameter.NamesStruct (p : Parameter) (name : String) : Prop where
  kind : p.kind = some name
  format : p.format = some unknownFormat
  items : p.items = none
  schema : p.schema = none

namespace TaggedMember

theorem parameterType_of_structName? {t : TypeExpr} {n : String} (wellFormed : t.IsWellFormed)
    (denotes : t.structName? = some n) :
    parameterType t = (some n, some unknownFormat, none) := by
  have bare := TypeExpr.dropWhile_text_of_structName? wellFormed denotes
  have noKind : t.schema.kind = none := TypeExpr.kind_schema_eq_none_iff.mpr ⟨n, denotes⟩
  simp only [parameterType, noKind, bare, String.ofList_toList]

theorem namesStruct_parameter {m : TaggedMember} {c : Classification} {n : String}
    (away : c.location ≠ .path) (wellFormed : m.member.type.IsWellFormed)
    (denotes : m.member.type.structName? = some n) : (m.parameter c).NamesStruct n := by
  rw [m.parameter_eq_of_away away, parameterType_of_structName? wellFormed denotes]
  exact ⟨rfl, rfl, rfl, rfl⟩

end TaggedMember

namespace TypeExpr

/-- What a schema shows of a type that has been read.  Pointers outside maps leave no trace;
the one definition it can point to is that of the struct inside all pointers and lists; and
it lacks a kind exactly for a struct behind pointers, where it is the reference to the
struct.  A parameter of such a type, which cannot be a reference, shows the name instead. -/
theorem schema_of_nested {s : String} {t : TypeExpr} (run : read s = .ok t) :
    (∀ u, t.DiffersInPointers u → u.schema = t.schema) ∧
    (∀ n, t.innermost = reference n → t.schema.references = [n]) ∧
    ((∀ n, t.innermost ≠ reference n) → t.schema.references = []) ∧
    (t.schema.kind = none ↔ ∃ n, t.structName? = some n) ∧
    ∀ n, t.structName? = some n → t.schema = .referenceTo n ∧
      ∀ (m : TaggedMember) (c : Classification), m.member.type = t →
        c.location = .query ∨ c.location = .header → (m.parameter c).NamesStruct n := by
  have wellFormed : t.IsWellFormed := isWellFormed_of_readTrimmed run
  refine ⟨fun u differs => differs.schema_eq, ?target, ?noTarget, kind_schema_eq_none_iff, ?struct⟩
  case target =>
    intro n inside
    rw [references_schema, target?_eq_some_iff.mpr inside, Option.toList_some]
  case noTarget =>
    intro other
    have none : t.target? = none :=
      Option.eq_none_iff_forall_ne_some.mpr fun n some => other n (target?_eq_some_iff.mp some)
    rw [references_schema, none, Option.toList_none]
  case struct =>
    intro n denotes
    refine ⟨schema_of_structName? denotes, ?_⟩
    rintro m c rfl sent
    have away : c.location ≠ .path := by
      rcases sent with inQuery | inHeader
      · simp [inQuery]
      · simp [inHeader]
    exact TaggedMember.namesStruct_parameter away wellFormed denotes

/-- A pointer to a list of pointers to a struct. -/
def listOfItems : TypeExpr :=
  pointer (array (pointer (pointer (reference "Item"))))

/-- A member that holds a struct behind pointers. -/
def itemPointer : TaggedMember :=
  { member := { name := "Item", type := pointer (pointer (reference "Item")) }, tags := [] }

/-- The schema of the list refers to the struct and is the one without pointers.  Behind
pointers alone the struct is a header with its own name as kind. -/
theorem listOfItems_schema :
    read "*[]**Item" = .ok listOfItems ∧ listOfItems.schema.references = ["Item"] ∧
      listOfItems.schema = (array (reference "Item")).schema ∧
      read "**Item" = .ok itemPointer.member.type ∧
      (itemPointer.parameter ⟨.header, "X-Item", true⟩).NamesStruct "Item" := by
  have wellFormed : (reference item.1).IsWellFormed := ⟨item.2.1, by decide, by decide⟩
  have list : read "*[]**Item" = .ok listOfItems := read_text (t := listOfItems) wellFormed
  have alone : read "**Item" = .ok itemPointer.member.type :=
    read_text (t := itemPointer.member.type) wellFormed
  have bare : listOfItems.DiffersInPointers (array (reference "Item")) := by
    have inner : (array (reference "Item")).AddsPointer (array (pointer (reference "Item"))) :=
      .inArray (.here _)
    have outer : (array (pointer (reference "Item"))).AddsPointer
        (array (pointer (pointer (reference "Item")))) := .inArray (.here _)
    exact .symm _ _ (.trans _ _ _ (.rel _ _ inner) (.trans _ _ _ (.rel _ _ outer) (.rel _ _ (.here _))))
  obtain ⟨pointers, target, -⟩ := schema_of_nested list
  obtain ⟨-, -, -, -, struct⟩ := schema_of_nested alone
  have header := (struct "Item" rfl).2 itemPointer ⟨.header, "X-Item", true⟩ rfl (Or.inr rfl)
  exact ⟨list, target "Item" rfl, (pointers _ bare).symm, alone, header⟩

end TypeExpr

end ApiDoc
