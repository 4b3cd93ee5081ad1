/-
# What a written record tells

A record is written as an object, field by field; a part that is absent is left out
together with its name.  The layout of a record lists its fields in order.  Since no name
occurs twice, the object still tells what stands under each of them, absent or not, and
since the fields make up the record, it tells the record.

Whether nothing else is written as a value is asked of one value at a time, so that it can
be shown of nested values from the inside to the outside.
-/

import ApiDoc.Json.Basic
import Mathlib.Data.List.Nodup

namespace ApiDoc

universe u v

/-! ## Values that are told -/

section Tells

variable {α : Type u} {β : Type v} {write : α → β}

/-- Nothing else is written as the value is. -/
def Tells (write : α → β) (a : α) : Prop :=
  ∀ b, write a = write b → a = b

namespace Tells

/-- A value that may be absent is told when the value is. -/
theorem option {a : Option α} (told : ∀ x, a = some x → Tells write x) : Tells (Option.map write) a := by
  intro b same
  cases a with
  | none => exact (Option.map_eq_none_iff.mp same.symm).symm
  | some x =>
      obtain ⟨y, rfl, written⟩ := Option.map_eq_some_iff.mp same.symm
      exact congrArg some (told x rfl y written.symm)

/-- A list is told when its elements are. -/
theorem list {l : List α} (told : ∀ x ∈ l, Tells write x) : Tells (List.map write) l := by
  induction l with
  | nil =>
      intro other same
      exact (List.map_eq_nil_iff.mp same.symm).symm
  | cons x rest ih =>
      intro other same
      obtain ⟨first, others⟩ := List.forall_mem_cons.mp told
      obtain ⟨y, more, rfl, written, behind⟩ := List.map_eq_cons_iff.mp same.symm
      rw [first y written.symm, ih others more behind.symm]

end Tells

end Tells

namespace Json

variable {α : Type u}

@[simp] theorem tells_string (s : String) : Tells string s :=
  fun _ => string.inj

@[simp] theorem tells_bool (b : Bool) : Tells bool b :=
  fun _ => bool.inj

@[simp] theorem tells_number (n : Number) : Tells number n :=
  fun _ => number.inj

@[simp] theorem tells_ofNat (n : Nat) : Tells ofNat n :=
  fun _ same => Int.ofNat.inj (Number.int.inj (number.inj same))

/-- An array tells its elements when each of them is told. -/
@[simp] theorem tells_array {write : α → Json} {l : List α} (told : ∀ x ∈ l, Tells write x) :
    Tells (fun l => array (l.map write)) l :=
  fun other same => Tells.list told other (array.inj same)

@[simp] theorem tells_strings (l : List String) : Tells strings l :=
  tells_array fun s _ => tells_string s

/-- A table is told, with the order of its entries, when its values are. -/
@[simp] theorem tells_table {write : α → Json} {t : Table α}
    (told : ∀ entry ∈ t.entries, Tells write entry.2) : Tells (table write) t := by
  have entries : ∀ entry ∈ t.entries, Tells (fun e : String × α => (e.1, write e.2)) entry := by
    intro entry listed other same
    obtain ⟨name, value⟩ := Prod.mk.inj same
    exact Prod.ext name (told entry listed other.2 value)
  intro other same
  exact congrArg Table.mk (Tells.list entries other.entries (object.inj same))

/-! ## Fields -/

/-- A part of a record with its name in an object. -/
structure Field (α : Type) where
  name : String
  {Part : Type}
  /-- The part of the record. -/
  part : α → Part
  /-- What is written for the part, if anything is. -/
  write : Part → Option Json

namespace Field

variable {α Part : Type}

/-- A field that is always written. -/
def required (name : String) (part : α → Part) (write : Part → Json) : Field α :=
  ⟨name, part, fun x => some (write x)⟩

/-- A field that is written only when there is a value. -/
def optional (name : String) (part : α → Option Part) (write : Part → Json) : Field α :=
  ⟨name, part, Option.map write⟩

/-- A field that is written only when its list is not empty. -/
def nonempty (name : String) (part : α → List Part) (write : List Part → Json) : Field α :=
  ⟨name, part, fun l => if l.isEmpty then none else some (write l)⟩

/-- The part of the record is told by what is written for it. -/
def IsTold (field : Field α) (a : α) : Prop :=
  Tells field.write (field.part a)

@[simp] theorem isTold_required {name : String} {part : α → Part} {write : Part → Json} {a : α}
    (told : Tells write (part a)) : (required name part write).IsTold a :=
  fun b same => told b (Option.some.inj same)

@[simp] theorem isTold_optional {name : String} {part : α → Option Part} {write : Part → Json} {a : α}
    (told : ∀ x, part a = some x → Tells write x) : (optional name part write).IsTold a :=
  Tells.option told

/-- An empty list is told from every other. -/
@[simp] theorem isTold_nonempty {name : String} {part : α → List Part} {write : List Part → Json}
    {a : α} (told : Tells write (part a)) : (nonempty name part write).IsTold a := by
  intro (other : List Part) same
  replace same : (if (part a).isEmpty then none else some (write (part a))) =
      if other.isEmpty then none else some (write other) := same
  show part a = other
  split at same
  · next empty =>
      split at same
      · next otherEmpty =>
          rw [List.isEmpty_iff.mp empty, List.isEmpty_iff.mp otherEmpty]
      · cases same
  · split at same
    · cases same
    · exact told other (Option.some.inj same)

/-- The member for a field, where there is something to write. -/
def member (field : Field α) (a : α) : List (String × Json) :=
  ((field.write (field.part a)).map (Prod.mk field.name)).toList

@[simp] theorem member_required (name : String) (part : α → Part) (write : Part → Json) (a : α) :
    (required name part write).member a = [(name, write (part a))] :=
  rfl

@[simp] theorem member_optional (name : String) (part : α → Option Part) (write : Part → Json)
    (a : α) : (optional name part write).member a = Json.optional name (part a) write := by
  show ((part a).map write |>.map (Prod.mk name)).toList = _
  cases part a <;> rfl

@[simp] theorem member_nonempty (name : String) (part : α → List Part) (write : List Part → Json)
    (a : α) : (nonempty name part write).member a = Json.nonempty name (part a) write := by
  show (Option.map (Prod.mk name) (if (part a).isEmpty then none else _)).toList = _
  rw [Json.nonempty]
  split <;> rfl

theorem lookup_member (field : Field α) (a : α) (name : String) :
    (field.member a).lookup name =
      if field.name = name then field.write (field.part a) else none := by
  rw [member]
  cases field.write (field.part a) with
  | none => simp
  | some value =>
      by_cases same : field.name = name
      · simp [same]
      · have apart : (name == field.name) = false := beq_false_of_ne (Ne.symm same)
        simp [List.lookup_cons, same, apart]

end Field

/-! ## Layouts -/

/-- How a record is written as an object. -/
structure Layout (α : Type) where
  /-- The fields in the order in which they are written. -/
  fields : List (Field α)
  /-- No name is used twice. -/
  distinct : (fields.map Field.name).Nodup := by decide
  /-- The parts in the fields make up the record. -/
  complete : ∀ a b : α, (∀ field ∈ fields, field.part a = field.part b) → a = b := by
    rintro ⟨⟩ ⟨⟩ same
    simpa [Field.required, Field.optional, Field.nonempty] using same

namespace Layout

variable {α : Type}

/-- The object that a record is written as. -/
def write (layout : Layout α) (a : α) : Json :=
  object (layout.fields.flatMap fun field => field.member a)

/-- Under each of its names an object has what is written for that field. -/
theorem lookup_members {fields : List (Field α)} (distinct : (fields.map Field.name).Nodup)
    {field : Field α} (listed : field ∈ fields) (a : α) :
    (fields.flatMap fun field => field.member a).lookup field.name =
      field.write (field.part a) := by
  induction fields with
  | nil => cases listed
  | cons first rest ih =>
      obtain ⟨fresh, restDistinct⟩ := List.nodup_cons.mp distinct
      rw [List.flatMap_cons, List.lookup_append, Field.lookup_member]
      rcases List.mem_cons.mp listed with rfl | inRest
      · have absent : (rest.flatMap fun other => other.member a).lookup field.name = none := by
          rw [List.lookup_eq_none_iff]
          intro entry inEntries
          obtain ⟨other, inRest, isMember⟩ := List.mem_flatMap.mp inEntries
          rw [Field.member, Option.mem_toList, Option.map_eq_some_iff] at isMember
          obtain ⟨value, -, rfl⟩ := isMember
          have apart : field.name ≠ other.name := fun same =>
            fresh (List.mem_map.mpr ⟨other, inRest, same.symm⟩)
          simpa using apart
        rw [if_pos rfl, absent, Option.or_none]
      · have apart : first.name ≠ field.name := fun same =>
          fresh (List.mem_map.mpr ⟨field, inRest, same.symm⟩)
        rw [if_neg apart, Option.none_or, ih restDistinct inRest]

/-- The object tells the record when the parts of the record are told. -/
theorem tells_write (layout : Layout α) {a : α} (told : ∀ field ∈ layout.fields, field.IsTold a) :
    Tells layout.write a := by
  intro b same
  refine layout.complete a b fun field listed => ?_
  have written : field.write (field.part a) = field.write (field.part b) := by
    rw [← lookup_members layout.distinct listed a, ← lookup_members layout.distinct listed b,
      object.inj same]
  exact told field listed _ written

end Layout

end Json

end ApiDoc
