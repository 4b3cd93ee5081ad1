/-
# Chains of embedded structs

A struct may embed others, but never itself along a chain.  The check follows
embedded members depth first from a struct.  It keeps the chain that leads to
the struct at hand and the names already searched without finding a cycle, so a
struct that is embedded twice is searched once.  Names that no struct has are
passed over here; synthesis reports them.
-/

import ApiDoc.Error
import ApiDoc.Spec.Basic

namespace ApiDoc

/-- The struct that a member embeds, if it embeds one. -/
def Member.embedded? (m : Member) : Option String :=
  if m.isInline then m.type.structName? else none

/-- The structs that a struct embeds, in order of declaration. -/
def StructType.embeds (s : StructType) : List String :=
  s.members.filterMap Member.embedded?

namespace Embedding

/-- The number of structs whose name is not on the chain.  It bounds how much
further a chain can grow. -/
def offChain (spec : Spec) (chain : List String) : Nat :=
  (spec.types.filter fun s => !chain.contains s.name).length

/-- A struct that is not on a chain no longer counts once its name is added. -/
theorem offChain_cons_lt {spec : Spec} {chain : List String} {name : String} {s : StructType}
    (fresh : chain.contains name = false) (found : spec.findType? name = some s) :
    offChain spec (name :: chain) < offChain spec chain := by
  have member := Spec.mem_of_findType? found
  have named := Spec.name_of_findType? found
  unfold offChain
  have narrower : ∀ t : StructType,
      (!(name :: chain).contains t.name) = ((t.name != name) && !chain.contains t.name) := by
    intro t
    by_cases same : t.name = name <;> simp [same]
  simp only [narrower]
  rw [← List.filter_filter]
  refine List.length_filter_lt_length_iff_exists.2 ⟨s, ?_, ?_⟩
  · simpa [named, member] using fresh
  · simp [named]

/-- Search the structs named in `pending`, which the last struct of the chain
embeds.  The chain is kept with its last name in front, and `cleared` holds the
names that lead to no cycle.  The result is `cleared` with the names of this
search added. -/
def search (spec : Spec) (chain : List String) (pending cleared : List String) :
    Except Error (List String) :=
  match pending with
  | [] => .ok cleared
  | name :: rest =>
    if _ : chain.contains name then
      .error (.cyclicEmbedding (chain.reverse ++ [name]))
    else if cleared.contains name then search spec chain rest cleared
    else
      match _ : spec.findType? name with
      | none => search spec chain rest cleared
      | some s =>
        match search spec (name :: chain) s.embeds cleared with
        | .error e => .error e
        | .ok below => search spec chain rest (name :: below)
termination_by (offChain spec chain, pending.length)
decreasing_by
  · exact Prod.Lex.right _ (by simp)
  · exact Prod.Lex.right _ (by simp)
  · rename_i fresh _ found
    exact Prod.Lex.left _ _ (offChain_cons_lt (by simpa using fresh) found)
  · exact Prod.Lex.right _ (by simp)

end Embedding

/-- Refuse a struct from which a chain of embedded structs leads back to a name
on the chain. -/
def Spec.checkEmbedding (spec : Spec) (root : StructType) : Except Error Unit :=
  (Embedding.search spec [root.name] root.embeds []).map fun _ => ()

end ApiDoc
