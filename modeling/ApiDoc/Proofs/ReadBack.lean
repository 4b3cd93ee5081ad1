/-
# Reading back what was written

A record is read field by field, and what is read in a field either is the default of the
field or comes from a value.  So what is known of everything that a field's values are read
as is known of the fields of every record that is read.  The lemmas here say this of records,
lists and tables, and say of the JSON values of texts, lists and tables that they are read
as what they were written for.
-/

import ApiDoc.Decode.Record
import ApiDoc.Json.Source
import ApiDoc.Proofs.FirstOccurrence
import ApiDoc.Proofs.Traversal

namespace ApiDoc

variable {ν α β : Type}

/-! ## Records -/

namespace Reading

/-- A function is applied where both it and its argument are read. -/
theorem exists_apply_iff {f : Reading (α → β)} {x : Reading α} {P : β → Prop} :
    (∃ b, f.apply x = value b ∧ P b) ↔ ∃ g, f = value g ∧ ∃ a, x = value a ∧ P (g a) := by
  cases f <;> cases x <;> simp [apply]
  split <;> simp

theorem outcome_eq_ok_iff {r : Reading α} {a : α} :
    r.outcome = .ok a ↔ ∃ b, r = value b ∧ b = a := by
  cases r <;> simp [outcome]

theorem ofResult_eq_value_iff {place : Nat} {result : Except DecodeError α} {a : α} :
    ofResult place result = value a ↔ result = .ok a := by
  cases result <;> simp [ofResult]

end Reading

/-- A record is read when its fields are, none of them is given twice and there are no more
values than fields. -/
theorem Shape.decode_eq_ok_iff [Source ν] {shape : Shape} {v : ν} {build : Fields ν → Reading α}
    {a : α} :
    shape.decode v build = .ok a ↔ ∃ fields, Source.fields shape.expected v = .ok fields ∧
      fields.wellFormed shape = .value () ∧ ∃ b, build fields = .value b ∧ b = a := by
  rw [decode]
  cases Source.fields shape.expected v with
  | error cause => simp
  | ok fields =>
      simp only [Reading.outcome_eq_ok_iff, Reading.exists_apply_iff, Reading.value.injEq,
        exists_eq_left', Except.ok.injEq]
      constructor
      · rintro ⟨b, built, ⟨⟩, wellFormed, rfl⟩
        exact ⟨wellFormed, b, built, rfl⟩
      · rintro ⟨wellFormed, b, built, rfl⟩
        exact ⟨b, built, (), wellFormed, rfl⟩

/-- A field has a property that its default has and everything its values are read as. -/
theorem Fields.of_field {P : α → Prop} {shape : Shape} {fields : Fields ν} {index : Nat}
    {default? : Option α} {decode : ν → Except DecodeError α} {a : α}
    (read : fields.field shape index default? decode = .value a)
    (default : ∀ b, default? = some b → P b) (given : ∀ v b, decode v = .ok b → P b) : P a := by
  cases fields with
  | named entries =>
      simp only [field] at read
      split at read
      · exact given _ a (Reading.ofResult_eq_value_iff.mp read)
      · cases read
        exact default a rfl
      · cases read
  | inOrder values =>
      simp only [field] at read
      split at read
      · exact given _ a (Reading.ofResult_eq_value_iff.mp read)
      · cases read
        exact default a rfl
      · cases read

namespace Source

/-! ## Lists -/

theorem of_decodeEach {P : α → Prop} {decode : ν → Except DecodeError α}
    (given : ∀ v a, decode v = .ok a → P a) {values : List ν} {l : List α}
    (read : decodeEach decode values = .ok l) : ∀ a ∈ l, P a := by
  induction values generalizing l with
  | nil =>
      obtain rfl : [] = l := Except.ok.inj read
      rintro a ⟨⟩
  | cons v rest ih =>
      rw [decodeEach] at read
      split at read
      · cases read
      · next a first =>
          obtain ⟨more, others, rfl⟩ := map_eq_ok_iff.mp read
          exact List.forall_mem_cons.mpr ⟨given v a first, ih others⟩

/-- The elements of a list have a property that everything has that is read as one. -/
theorem of_list [Source ν] {P : α → Prop} {decode : ν → Except DecodeError α}
    (given : ∀ v a, decode v = .ok a → P a) {v : ν} {l : List α} (read : list decode v = .ok l) :
    ∀ a ∈ l, P a := by
  rw [list] at read
  split at read
  · cases read
  · exact of_decodeEach given read

theorem decodeEach_cons {decode : ν → Except DecodeError α} {v : ν} {values : List ν} {a : α}
    {l : List α} (first : decode v = .ok a) (others : decodeEach decode values = .ok l) :
    decodeEach decode (v :: values) = .ok (a :: l) := by
  rw [decodeEach, first]
  exact map_eq_ok_iff.mpr ⟨l, others, rfl⟩

/-- A list is read back when its elements are. -/
theorem list_array {write : α → Json} {decode : Json → Except DecodeError α} {l : List α}
    (back : ∀ a ∈ l, decode (write a) = .ok a) :
    list decode (Json.array (l.map write)) = .ok l := by
  show decodeEach decode (l.map write) = .ok l
  induction l with
  | nil => rfl
  | cons a rest ih =>
      obtain ⟨first, others⟩ := List.forall_mem_cons.mp back
      exact decodeEach_cons first (ih others)

theorem list_strings (l : List String) : list text (Json.strings l) = .ok l :=
  list_array fun _ _ => rfl

/-! ## Tables -/

theorem nodup_keys_of_decodeTable {decode : ν → Except DecodeError α} {start t : Table α}
    {given : List (String × ν)} (distinct : start.keys.Nodup)
    (read : decodeTable decode start given = .ok t) : t.keys.Nodup := by
  induction given generalizing start with
  | nil =>
      obtain rfl : start = t := Except.ok.inj read
      exact distinct
  | cons entry rest ih =>
      rw [decodeTable] at read
      split at read
      · cases read
      · refine ih ?_ read
        rw [Table.keys_insert_eq_eraseDups distinct]
        exact nodup_eraseDups _

/-- In a table that is read no name occurs twice. -/
theorem nodup_keys_of_textTable [Source ν] {v : ν} {t : Table String}
    (read : textTable v = .ok t) : t.keys.Nodup := by
  have fresh : (Table.empty : Table String).keys.Nodup := List.nodup_nil
  rw [textTable] at read
  split at read
  · cases read
  · exact nodup_keys_of_decodeTable fresh read

/-- Texts under new names are entered behind what is there. -/
theorem decodeTable_strings {start : Table String} {entries : List (String × String)}
    (distinct : (start.keys ++ entries.map Prod.fst).Nodup) :
    decodeTable text start (entries.map fun entry => (entry.1, Json.string entry.2)) =
      .ok ⟨start.entries ++ entries⟩ := by
  induction entries generalizing start with
  | nil =>
      rw [List.append_nil]
      rfl
  | cons entry rest ih =>
      have fresh : entry.1 ∉ start.keys := fun present =>
        List.disjoint_of_nodup_append distinct present List.mem_cons_self
      have inserted := start.entries_insert_of_not_mem fresh entry.2
      have keys : (start.insert entry.1 entry.2).keys = start.keys ++ [entry.1] := by
        rw [Table.keys, inserted, List.map_append]
        rfl
      rw [List.map_cons, List.append_cons, ← keys] at distinct
      show decodeTable text (start.insert entry.1 entry.2) _ = _
      rw [ih distinct, inserted, List.append_assoc]
      rfl

/-- A table in which no name occurs twice is read back, with its order. -/
theorem textTable_table {t : Table String} (distinct : t.keys.Nodup) :
    textTable (Json.table .string t) = .ok t :=
  decodeTable_strings distinct

end Source

end ApiDoc
