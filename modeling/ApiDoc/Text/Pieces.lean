/-
# Cutting a text at a separator

`cut` splits a text at the first separator, and `List.splitOn` at every one.  What
they leave is everything but the separators: joining it gives the text back.
-/

namespace ApiDoc.Text

/-- Split a text at the first `sep`, if there is one: what stands before it and
what stands after it. -/
def cut (sep : Char) : List Char → Option (List Char × List Char)
  | [] => none
  | c :: rest =>
    if c = sep then some ([], rest)
    else (cut sep rest).map fun found => (c :: found.1, found.2)

/-- The number of bytes a text takes in UTF-8. -/
def byteSize : List Char → Nat
  | [] => 0
  | c :: rest => c.utf8Size + byteSize rest

/-- What a cut finds is the text, with the separator put back. -/
theorem eq_append_of_cut {sep : Char} {s before after : List Char}
    (found : cut sep s = some (before, after)) : s = before ++ sep :: after := by
  induction s generalizing before with
  | nil => simp [cut] at found
  | cons c rest ih =>
    rw [cut] at found
    split at found
    next same =>
      obtain ⟨rfl, rfl⟩ := Prod.mk.inj (Option.some.inj found)
      simp [same]
    next =>
      obtain ⟨⟨b, a⟩, inner, result⟩ := Option.map_eq_some_iff.1 found
      obtain ⟨rfl, rfl⟩ := Prod.mk.inj result
      simp [ih inner]

/-- Cutting a string: the parts before and after the first separator. -/
def cutString (sep : Char) (s : String) : Option (String × String) :=
  (cut sep s.toList).map fun found => (String.ofList found.1, String.ofList found.2)

/-- The pieces of a string between its separators. -/
def pieceStrings (sep : Char) (s : String) : List String :=
  (s.toList.splitOn sep).map String.ofList

end ApiDoc.Text
