/-
# Tables in order of insertion

Properties, paths, definitions and annotations are tables keyed by name whose
order is part of the document.  A table is the list of its entries.  Writing to
a key that is present changes the value and keeps the place; writing to a new
key appends.  The lemmas say what a write does to the keys and to every lookup.
-/

namespace ApiDoc

universe u

/-- Entries keyed by name, in order of insertion. -/
structure Table (α : Type u) where
  entries : List (String × α)
  deriving DecidableEq, Repr

namespace Table

variable {α : Type u}

/-- The table without entries. -/
def empty : Table α := ⟨[]⟩

instance : Inhabited (Table α) := ⟨empty⟩

/-- The keys in order. -/
def keys (t : Table α) : List String :=
  t.entries.map Prod.fst

/-- The number of entries. -/
def size (t : Table α) : Nat :=
  t.entries.length

/-- Put a value into the first entry with a key, or append an entry. -/
def write (key : String) (value : α) : List (String × α) → List (String × α)
  | [] => [(key, value)]
  | (k, old) :: rest =>
    if k = key then (k, value) :: rest else (k, old) :: write key value rest

/-- The value stored under a key: that of the first entry with it. -/
def get? (t : Table α) (key : String) : Option α :=
  t.entries.lookup key

/-- Write a value: in place if the key is present, at the end otherwise. -/
def insert (t : Table α) (key : String) (value : α) : Table α :=
  ⟨write key value t.entries⟩

/-- Write a value only where the key is absent. -/
def insertNew (t : Table α) (key : String) (value : α) : Table α :=
  if (t.get? key).isSome then t else t.insert key value

@[simp] theorem keys_empty : (empty : Table α).keys = [] := rfl

@[simp] theorem get?_empty (key : String) : (empty : Table α).get? key = none := rfl

/-- A lookup stops at the first entry if that has the key. -/
theorem lookup_cons_eq_if (key k : String) (value : α) (rest : List (String × α)) :
    ((k, value) :: rest).lookup key = if k = key then some value else rest.lookup key := by
  by_cases same : k = key
  · rw [if_pos same, same, List.lookup_cons_self]
  · rw [if_neg same, List.lookup_cons, beq_eq_false_iff_ne.mpr (Ne.symm same)]

/-- A lookup right after a write sees the written value, and every other lookup
is as before. -/
theorem lookup_write (key other : String) (value : α) (entries : List (String × α)) :
    (write key value entries).lookup other =
      if key = other then some value else entries.lookup other := by
  induction entries with
  | nil => rw [write, lookup_cons_eq_if]
  | cons entry rest ih =>
    obtain ⟨k, old⟩ := entry
    by_cases same : k = key
    · subst same
      by_cases hit : k = other <;> simp [write, lookup_cons_eq_if, hit]
    · by_cases hit : k = other
      · subst hit
        simp [write, same, Ne.symm same]
      · simp [write, lookup_cons_eq_if, same, hit, ih]

/-- A lookup right after an insertion sees the inserted value, and every other
lookup is as before. -/
theorem get?_insert (t : Table α) (key other : String) (value : α) :
    (t.insert key value).get? other = if key = other then some value else t.get? other :=
  lookup_write key other value t.entries

/-- A key is present exactly when a lookup finds a value. -/
theorem mem_keys_iff (t : Table α) (key : String) : key ∈ t.keys ↔ (t.get? key).isSome := by
  have named : (∃ entry ∈ t.entries, entry.1 = key) ↔ ∃ entry ∈ t.entries, key = entry.1 := by
    simp only [eq_comm]
  rw [keys, get?, List.lookup_isSome_iff, List.mem_map, named]
  simp only [beq_iff_eq]

/-- What a lookup finds is the value of an entry. -/
theorem mem_entries_of_get? {t : Table α} {key : String} {value : α}
    (found : t.get? key = some value) : (key, value) ∈ t.entries := by
  obtain ⟨before, after, whole, -⟩ := List.lookup_eq_some_iff.mp found
  rw [whole]
  exact List.mem_append_right before List.mem_cons_self

/-- Where no key occurs twice, a lookup finds the value of an entry exactly when
the table holds that entry. -/
theorem get?_eq_some_iff_mem {t : Table α} (distinct : t.keys.Nodup) {key : String}
    {value : α} : t.get? key = some value ↔ (key, value) ∈ t.entries := by
  refine ⟨mem_entries_of_get?, fun listed => ?_⟩
  obtain ⟨before, after, whole⟩ := List.append_of_mem listed
  refine List.lookup_eq_some_iff.mpr ⟨before, after, whole, fun entry inFront => ?_⟩
  -- An entry in front with the same key would make the key occur twice.
  rw [keys, whole, List.map_append, List.nodup_append] at distinct
  have apart := distinct.2.2 entry.1 (List.mem_map_of_mem inFront) key (by simp)
  simpa using apart.symm

/-- Writing to a present key keeps the keys, and writing to a new one appends
it. -/
theorem keys_insert (t : Table α) (key : String) (value : α) :
    (t.insert key value).keys = if key ∈ t.keys then t.keys else t.keys ++ [key] := by
  obtain ⟨entries⟩ := t
  show (write key value entries).map Prod.fst =
    if key ∈ entries.map Prod.fst then entries.map Prod.fst
    else entries.map Prod.fst ++ [key]
  induction entries with
  | nil => simp [write]
  | cons entry rest ih =>
    obtain ⟨k, old⟩ := entry
    by_cases same : k = key
    · simp [write, same]
    · have apart : ¬ key = k := fun h => same h.symm
      simp only [write, same, if_false, List.map_cons, ih, List.mem_cons, apart, false_or]
      by_cases present : key ∈ rest.map Prod.fst <;> simp [present]

/-- Writing to a new key appends an entry and leaves the others alone. -/
theorem entries_insert_of_not_mem (t : Table α) {key : String} (absent : key ∉ t.keys)
    (value : α) : (t.insert key value).entries = t.entries ++ [(key, value)] := by
  obtain ⟨entries⟩ := t
  replace absent : key ∉ entries.map Prod.fst := absent
  show write key value entries = entries ++ [(key, value)]
  induction entries with
  | nil => rfl
  | cons entry rest ih =>
      obtain ⟨k, old⟩ := entry
      rw [List.map_cons, List.mem_cons, not_or] at absent
      obtain ⟨apart, restAbsent⟩ := absent
      have other : ¬ k = key := fun same => apart same.symm
      rw [write, if_neg other, ih restAbsent, List.cons_append]

end Table

end ApiDoc
