/-
# Names and brackets of type expressions

The text of a type is made of names and brackets.  A name has characters of its own, none of
them a blank, a bracket or a brace, so it is never taken for anything else.  Brackets close
one another: the search for a closing bracket passes over a text that closes all it opens.
-/

import ApiDoc.Proofs.TextParts
import ApiDoc.TypeExpr.Reader

namespace ApiDoc

open ApiDoc.Text

/-! ## Blanks and letters -/

namespace Text

/-- The codes of the blank characters. -/
def blankCodes : List Nat :=
  [9, 10, 11, 12, 13, 0x20, 0x85, 0xA0, 0x1680, 0x2000, 0x2001, 0x2002, 0x2003, 0x2004, 0x2005,
    0x2006, 0x2007, 0x2008, 0x2009, 0x200A, 0x2028, 0x2029, 0x202F, 0x205F, 0x3000]

theorem mem_blankCodes_of_isBlank {c : Char} (blank : isBlank c) : c.toNat ∈ blankCodes := by
  simp only [isBlank, isBlankCode, Bool.or_eq_true, Bool.and_eq_true, decide_eq_true_iff,
    beq_iff_eq] at blank
  simp only [blankCodes, List.mem_cons, List.not_mem_nil, or_false]
  omega

/-- No blank character is a letter or a number. -/
theorem isAlphanumeric_eq_false_of_isBlank {c : Char} (blank : isBlank c) :
    isAlphanumeric c = false := by
  have outside : ∀ code ∈ blankCodes, alphanumericCodes.contains code = false := by
    decide +kernel
  exact outside c.toNat (mem_blankCodes_of_isBlank blank)

end Text

namespace TypeExpr

/-! ## Names -/

/-- A name that a type can have: letters, numbers, low lines and dots, with no digit in
front and no dot at either end. -/
structure IsName (name : String) : Prop where
  nonempty : name ≠ ""
  characters : ∀ c ∈ name.toList, isAlphanumeric c ∨ c = '_' ∨ c = '.'
  noDigit : ∀ c, name.toList.head? = some c → c.isDigit = false
  noDotInFront : name.toList.head? ≠ some '.'
  noDotAtEnd : name.toList.getLast? ≠ some '.'

/-- The first character of a name is upper case. -/
def StartsUpper (name : String) : Prop :=
  ∃ c, name.toList.head? = some c ∧ isUppercase c

theorem isNameChar_iff {c : Char} :
    isNameChar c = true ↔ isAlphanumeric c ∨ c = '_' ∨ c = '.' := by
  simp [isNameChar, or_assoc]

theorem isBlank_eq_false_of_isNameChar {c : Char} (inName : isNameChar c) : isBlank c = false := by
  by_contra blank
  rw [Bool.not_eq_false] at blank
  rcases isNameChar_iff.mp inName with letter | rfl | rfl
  · rw [isAlphanumeric_eq_false_of_isBlank blank] at letter
    cases letter
  · exact absurd blank (by decide)
  · exact absurd blank (by decide)

theorem IsName.all_isNameChar {name : String} (isName : IsName name) :
    ∀ c ∈ name.toList, isNameChar c = true :=
  fun c inName => isNameChar_iff.mpr (isName.characters c inName)

/-- What passes the checks of the reader is a name. -/
theorem isName_ofList {s : List Char} (nonempty : s ≠ []) (characters : s.all isNameChar)
    (ends : ¬ (s.head?.any Char.isDigit || s.head? == some '.' || s.getLast? == some '.') = true) :
    IsName (String.ofList s) := by
  simp only [Bool.or_eq_true, beq_iff_eq, not_or] at ends
  rcases ends with ⟨⟨noDigit, noDotInFront⟩, noDotAtEnd⟩
  apply IsName.mk
  case nonempty => simpa using nonempty
  case characters =>
    rw [String.toList_ofList]
    exact fun c inName => isNameChar_iff.mp (List.all_eq_true.mp characters c inName)
  case noDigit =>
    rw [String.toList_ofList]
    intro c first
    rw [first] at noDigit
    simpa using noDigit
  case noDotInFront => rwa [String.toList_ofList]
  case noDotAtEnd => rwa [String.toList_ofList]

/-! ## Brackets -/

/-- A text closes exactly the brackets that it opens, so the search for a closing bracket
passes over it at any depth. -/
def IsBalanced (s : List Char) : Prop :=
  ∀ depth rest, splitClosing depth (s ++ rest) =
    (splitClosing depth rest).map fun found => (s ++ found.1, found.2)

namespace IsBalanced

variable {s before after : List Char} {c : Char}

theorem nil : IsBalanced [] := by
  intro depth rest
  simp

theorem append (first : IsBalanced before) (second : IsBalanced after) :
    IsBalanced (before ++ after) := by
  intro depth rest
  rw [List.append_assoc, first, second, Option.map_map]
  simp [Function.comp_def]

/-- A character that is no bracket changes nothing. -/
theorem cons (noOpening : c ≠ '[') (noClosing : c ≠ ']') (balanced : IsBalanced s) :
    IsBalanced (c :: s) := by
  intro depth rest
  have step : splitClosing depth (c :: (s ++ rest)) =
      (splitClosing depth (s ++ rest)).map fun found => (c :: found.1, found.2) := by
    cases depth <;> simp [splitClosing, noOpening, noClosing]
  rw [List.cons_append, step, balanced, Option.map_map]
  rfl

/-- A bracket that is opened is closed again behind a balanced text. -/
theorem bracket (balanced : IsBalanced s) : IsBalanced ('[' :: (s ++ [']'])) := by
  intro depth rest
  have opened : splitClosing depth ('[' :: (s ++ ([']'] ++ rest))) =
      (splitClosing (depth + 1) (s ++ ([']'] ++ rest))).map fun found =>
        ('[' :: found.1, found.2) := by
    cases depth <;> simp [splitClosing]
  have closed : splitClosing (depth + 1) ([']'] ++ rest) =
      (splitClosing depth rest).map fun found => (']' :: found.1, found.2) := by
    simp [splitClosing]
  rw [List.cons_append, List.append_assoc, opened, balanced, closed, Option.map_map,
    Option.map_map]
  simp [Function.comp_def]

theorem of_noBrackets (plain : ∀ c ∈ s, c ≠ '[' ∧ c ≠ ']') : IsBalanced s := by
  induction s with
  | nil => exact nil
  | cons c rest ih =>
      obtain ⟨⟨noOpening, noClosing⟩, others⟩ := List.forall_mem_cons.mp plain
      exact cons noOpening noClosing (ih others)

/-- The bracket that closes a balanced text is the one right behind it. -/
theorem splitClosing_eq (balanced : IsBalanced s) (rest : List Char) :
    splitClosing 0 (s ++ ']' :: rest) = some (s, rest) := by
  rw [balanced]
  simp [splitClosing]

end IsBalanced

/-! ## Reading a name -/

/-- A text that starts neither like a pointer nor like a list or a map is read as a
name. -/
theorem readTrimmed_eq_readName {s : List Char} (nonempty : s ≠ [])
    (noPointer : s.head? ≠ some '*') (noList : s.head? ≠ some '[')
    (noMap : ¬ ['m', 'a', 'p', '['] <+: s) : readTrimmed s = readName s := by
  rw [readTrimmed.eq_def]
  split
  · exact absurd rfl nonempty
  · exact absurd rfl noPointer
  · exact absurd rfl noList
  · exact absurd rfl noList
  · next rest => exact absurd ⟨rest, rfl⟩ noMap
  · rfl

/-- The text of a name is read as a name. -/
theorem readTrimmed_of_isName {name : String} (isName : IsName name) :
    readTrimmed name.toList = readName name.toList := by
  have characters := isName.all_isNameChar
  have nonempty : name.toList ≠ [] := by
    rw [ne_eq, String.toList_eq_nil_iff]
    exact isName.nonempty
  apply readTrimmed_eq_readName nonempty
  · intro star
    exact absurd (characters '*' (List.mem_of_mem_head? star)) (by decide)
  · intro opening
    exact absurd (characters '[' (List.mem_of_mem_head? opening)) (by decide)
  · intro start
    exact absurd (characters '[' (start.subset (by decide))) (by decide)

theorem isEmptyInterface_eq_false_of_isName {name : String} (isName : IsName name) :
    isEmptyInterface name.toList = false := by
  rw [isEmptyInterface, Bool.and_eq_false_iff, beq_eq_false_iff_ne]
  right
  intro braces
  -- A brace that survives the filter stands in the name itself.
  have brace : '\x7b' ∈ (name.toList.drop "interface".length).filter (!isBlank ·) := by
    rw [braces]
    exact List.mem_cons_self
  have inName := List.mem_of_mem_drop (List.mem_filter.mp brace).1
  exact absurd (isName.all_isNameChar _ inName) (by decide)

/-- What a name is read as depends on whether it looks like a struct. -/
theorem readName_of_isName {name : String} (isName : IsName name) (other : name ≠ "any") :
    readName name.toList =
      if !name.toList.contains '.' && name.toList.head?.any isUppercase then
        .ok (.reference name) else .ok (.scalar name) := by
  have named : ¬ (name.toList = "any".toList ∨ isEmptyInterface name.toList) := by
    rw [isEmptyInterface_eq_false_of_isName isName, String.toList_inj]
    simpa using other
  have characters : ¬ (!name.toList.all isNameChar) = true := by
    simpa using isName.all_isNameChar
  have ends : ¬ ((name.toList.head?.any Char.isDigit || name.toList.head? == some '.' ||
      name.toList.getLast? == some '.') = true) := by
    simp only [Bool.or_eq_true, Option.any_eq_true, beq_iff_eq, not_or]
    refine ⟨⟨?_, isName.noDotInFront⟩, isName.noDotAtEnd⟩
    rintro ⟨c, first, digit⟩
    rw [isName.noDigit c first] at digit
    cases digit
  rw [readName, if_neg named, if_neg characters, if_neg ends, String.ofList_toList]

theorem looksLikeStruct_iff (name : String) :
    (!name.toList.contains '.' && name.toList.head?.any isUppercase) = true ↔
      '.' ∉ name.toList ∧ StartsUpper name := by
  rw [Bool.and_eq_true, Bool.not_eq_true', List.contains_eq_mem, decide_eq_false_iff_not,
    Option.any_eq_true]
  rfl

end TypeExpr

end ApiDoc
