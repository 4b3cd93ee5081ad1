/-
# The definitions of a document

A document holds the definition of every struct that its routes name and,
transitively, of every struct those definitions point to, in order of first
appearance.  The queue holds names that still have to be defined; it may hold a
name twice, and only the first occurrence counts.  Every step either shortens
the queue or defines one more struct of the description.
-/

import ApiDoc.Generate.Definition

namespace ApiDoc

namespace Schema

mutual

/-- The definitions that a schema points to, at any depth, in order and with
repetitions. -/
def pointers : Schema → List String
  | { reference, items, properties, .. } =>
    (reference.bind definitionName?).toList ++ itemPointers items ++ propertyPointers properties

/-- The definitions that the schema of array elements points to. -/
def itemPointers : Option Schema → List String
  | none => []
  | some element => element.pointers

/-- The definitions that properties point to. -/
def propertyPointers : Option (Table Schema) → List String
  | none => []
  | some ⟨entries⟩ => entryPointers entries

/-- The definitions that entries of a table point to. -/
def entryPointers : List (String × Schema) → List String
  | [] => []
  | (_, schema) :: rest => schema.pointers ++ entryPointers rest

end

/-- The definitions that a schema points to, each once, in order of first
appearance. -/
def references (s : Schema) : List String :=
  s.pointers.eraseDups

end Schema

namespace Definitions

/-- The number of structs of a description that are not defined yet. -/
def undefinedCount (spec : Spec) (done : Table Schema) : Nat :=
  (spec.types.filter fun s => (done.get? s.name).isNone).length

/-- Defining a struct leaves fewer to define. -/
theorem undefinedCount_insert_lt {spec : Spec} {done : Table Schema} {name : String}
    {s : StructType} (schema : Schema) (fresh : (done.get? name).isSome = false)
    (found : spec.findType? name = some s) :
    undefinedCount spec (done.insert name schema) < undefinedCount spec done := by
  have member := Spec.mem_of_findType? found
  have named := Spec.name_of_findType? found
  unfold undefinedCount
  have narrower : ∀ t : StructType,
      ((done.insert name schema).get? t.name).isNone =
        ((t.name != name) && (done.get? t.name).isNone) := by
    intro t
    rw [Table.get?_insert]
    by_cases same : name = t.name
    · simp [same]
    · have apart : ¬ t.name = name := fun h => same h.symm
      simp [same, apart]
  simp only [narrower]
  rw [← List.filter_filter]
  refine List.length_filter_lt_length_iff_exists.2 ⟨s, ?_, ?_⟩
  · simpa [named, member] using fresh
  · simp [named]

/-- The names that the definition of `name` adds to the queue. -/
def added (done : Table Schema) (name : String) (schema : Schema) : List (String × String) :=
  (schema.references.filter fun r => r != name && (done.get? r).isNone).map fun r =>
    (r, "referenced by definition '" ++ name ++ "'")

/-- Define the structs in the queue, each entry a name and the place that asks
for it, on top of those already defined. -/
def close (spec : Spec) (done : Table Schema) (queue : List (String × String)) :
    Logged (Table Schema) :=
  match queue with
  | [] => pure done
  | (name, context) :: rest =>
    if _ : (done.get? name).isSome then close spec done rest
    else
      match _ : spec.findType? name with
      | none => throw (.unresolvedReference name context)
      | some s => do
        let schema ← spec.synthesize s
        Logged.report [.definitionSynthesized name]
        close spec (done.insert name schema) (rest ++ added done name schema)
termination_by (undefinedCount spec done, queue.length)
decreasing_by
  · exact Prod.Lex.right _ (by simp)
  · rename_i fresh found
    exact Prod.Lex.left _ _ (undefinedCount_insert_lt _ (by simpa using fresh) found)

end Definitions

/-- The definitions of the structs in `roots` and of all they point to.  Each
root is a name and the place that asks for it. -/
def Spec.definitions (spec : Spec) (roots : List (String × String)) :
    Logged (Table Schema) :=
  Definitions.close spec .empty roots

end ApiDoc
