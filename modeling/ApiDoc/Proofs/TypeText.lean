/-
# Types and their texts

The text of a type can be read back, and what comes back is the type.  This holds of
exactly the types that reading produces: those whose names could not be taken for
anything else.  Among the texts that the grammar derives for a type, its own is the one
without blanks and lengths.
-/

import ApiDoc.Proofs.TypeGrammar

namespace ApiDoc

open ApiDoc.Text

namespace TypeExpr

/-! ## The types that have a text of their own -/

/-- The names of a type cannot be taken for anything else: a struct has a capital in
front and no dot, and a scalar neither looks like a struct nor stands for any value. -/
def IsWellFormed : TypeExpr → Prop
  | scalar name => IsName name ∧ name ≠ "any" ∧ ('.' ∈ name.toList ∨ ¬ StartsUpper name)
  | pointer target => target.IsWellFormed
  | array element => element.IsWellFormed
  | map key value => key.IsWellFormed ∧ value.IsWellFormed
  | reference name => IsName name ∧ '.' ∉ name.toList ∧ StartsUpper name
  | dynamic => True

/-! ## What the text of a type is made of -/

theorem toList_text_pointer (target : TypeExpr) :
    (pointer target).text.toList = '*' :: target.text.toList := by
  simp [text]

theorem toList_text_array (element : TypeExpr) :
    (array element).text.toList = '[' :: ']' :: element.text.toList := by
  simp [text]

theorem toList_text_map (key value : TypeExpr) :
    (map key value).text.toList =
      'm' :: 'a' :: 'p' :: '[' :: (key.text.toList ++ ']' :: value.text.toList) := by
  simp [text]

theorem toList_text_dynamic : dynamic.text.toList =
    ['i', 'n', 't', 'e', 'r', 'f', 'a', 'c', 'e', '\x7b', '\x7d'] :=
  rfl

/-! ## Types and derivations -/

/-- The text of a type is derived. -/
theorem exists_derivation_text {t : TypeExpr} (wellFormed : t.IsWellFormed) :
    ∃ d : Derivation, d.text = t.text.toList ∧ d.type = t := by
  let noGap : Gap := ⟨[], nofun⟩
  induction t with
  | scalar name =>
      obtain ⟨isName, other, apart⟩ := wellFormed
      refine ⟨.named ⟨name, isName, other⟩, rfl, if_neg ?_⟩
      rwa [not_and_or, not_not]
  | reference name =>
      obtain ⟨isName, looksLikeStruct⟩ := wellFormed
      have other : name ≠ "any" := by
        rintro rfl
        obtain ⟨c, first, isUpper⟩ := looksLikeStruct.2
        obtain rfl : 'a' = c := Option.some.inj first
        exact absurd isUpper (by decide)
      exact ⟨.named ⟨name, isName, other⟩, rfl, if_pos looksLikeStruct⟩
  | pointer target ih =>
      obtain ⟨d, derived, rfl⟩ := ih wellFormed
      exact ⟨.pointer noGap d, by rw [toList_text_pointer, ← derived]; rfl, rfl⟩
  | array element ih =>
      obtain ⟨d, derived, rfl⟩ := ih wellFormed
      exact ⟨.list noGap d, by rw [toList_text_array, ← derived]; rfl, rfl⟩
  | map key value ihKey ihValue =>
      obtain ⟨k, keyDerived, rfl⟩ := ihKey wellFormed.1
      obtain ⟨v, valueDerived, rfl⟩ := ihValue wellFormed.2
      refine ⟨.map noGap k noGap noGap v, ?_, rfl⟩
      rw [toList_text_map, ← keyDerived, ← valueDerived, Derivation.text]
      simp [noGap]
  | dynamic => exact ⟨.interface noGap noGap, toList_text_dynamic.symm, rfl⟩

/-- The type of a derivation has a text of its own. -/
theorem Derivation.isWellFormed_type (d : Derivation) : d.type.IsWellFormed := by
  induction d with
  | pointer gap target ih => exact ih
  | list gap element ih => exact ih
  | listOfLength before length after gap element ih => exact ih
  | map before key after gap value ihKey ihValue => exact ⟨ihKey, ihValue⟩
  | any => trivial
  | interface before inside => trivial
  | named name =>
      rw [Derivation.type, ofName]
      split
      next looksLikeStruct => exact ⟨name.2.1, looksLikeStruct⟩
      next apart =>
        rw [not_and_or, not_not] at apart
        exact ⟨name.2.1, name.2.2, apart⟩

theorem read_text {t : TypeExpr} (wellFormed : t.IsWellFormed) : read t.text = .ok t := by
  obtain ⟨d, derived, rfl⟩ := exists_derivation_text wellFormed
  rw [read, ← derived, d.isTrimmed_text.trim_eq, readTrimmed_derivation]

theorem isWellFormed_of_readTrimmed {s : List Char} {t : TypeExpr}
    (run : readTrimmed (trim s) = .ok t) : t.IsWellFormed := by
  obtain ⟨d, -, rfl⟩ := exists_derivation_of_readTrimmed (isTrimmed_trim s) run
  exact d.isWellFormed_type

/-! ## Types and texts belong together -/

/-- Types and their texts belong together: the text of a well-formed type is read as that
type, and whatever is read from any text is well formed.  So the text of what has been
read is read the same way. -/
theorem read_text_roundTrip :
    (∀ t : TypeExpr, t.IsWellFormed → read t.text = .ok t) ∧
      (∀ s t, read s = .ok t → t.IsWellFormed) ∧
      ∀ s t, read s = .ok t → read t.text = read s := by
  have image : ∀ s t, read s = .ok t → t.IsWellFormed :=
    fun s t run => isWellFormed_of_readTrimmed run
  refine ⟨fun t wellFormed => read_text wellFormed, image, fun s t run => ?_⟩
  rw [read_text (image s t run), run]

end TypeExpr

end ApiDoc
