/-
# Reading type expressions

`TypeExpr.read` reads the text of a type: `*T`, `[]T`, `[n]T`, `map[K]V`, `any`,
`interface{}` or a name.  Blanks are allowed between the parts.  A name with a
capital in front and no dot in it is a struct; every other name is a scalar.
-/

import ApiDoc.Text.Alphanumeric
import ApiDoc.Text.Blank
import ApiDoc.Text.Pieces
import ApiDoc.Text.Uppercase
import ApiDoc.TypeExpr.Basic

namespace ApiDoc

open ApiDoc.Text

/-- Why a text is not a type expression. -/
inductive TypeFault where
  /-- A type is expected and the text has ended. -/
  | empty
  /-- The bracket of a list length is not closed. -/
  | unclosedLength
  /-- A list length is not a decimal number. -/
  | invalidLength (length : String)
  /-- The bracket of a map key is not closed. -/
  | unclosedKey
  /-- A name holds a character that names do not have. -/
  | unexpectedCharacters (name : String)
  /-- A name starts with a digit, or starts or ends with a dot. -/
  | invalidName (name : String)
  deriving DecidableEq, Repr

/-- The fault in words. -/
def TypeFault.reason : TypeFault → String
  | .empty => "empty type expression"
  | .unclosedLength => "unterminated array length"
  | .invalidLength length => "invalid array length '" ++ length ++ "'"
  | .unclosedKey => "unterminated map key"
  | .unexpectedCharacters name => "unexpected characters in '" ++ name ++ "'"
  | .invalidName name => "invalid identifier '" ++ name ++ "'"

namespace TypeExpr

/-- Characters a name is made of. -/
def isNameChar (c : Char) : Bool :=
  isAlphanumeric c || c == '_' || c == '.'

/-- Split a text at the `]` that closes a bracket already opened, where `depth`
further brackets have been opened since. -/
def splitClosing : Nat → List Char → Option (List Char × List Char)
  | _, [] => none
  | 0, ']' :: rest => some ([], rest)
  | depth + 1, ']' :: rest => (splitClosing depth rest).map fun r => (']' :: r.1, r.2)
  | depth, c :: rest =>
    (splitClosing (if c = '[' then depth + 1 else depth) rest).map fun r => (c :: r.1, r.2)

/-- The text before a closing bracket and the text after it, with the bracket
between them, are the whole. -/
theorem eq_append_of_splitClosing {depth : Nat} {s inside after : List Char}
    (split : splitClosing depth s = some (inside, after)) : s = inside ++ ']' :: after := by
  fun_induction splitClosing depth s generalizing inside with
  | case1 => simp at split
  | case2 =>
    obtain ⟨rfl, rfl⟩ := Prod.mk.inj (Option.some.inj split)
    rfl
  | case3 depth rest ih =>
    obtain ⟨⟨i, a⟩, inner, result⟩ := Option.map_eq_some_iff.1 split
    obtain ⟨rfl, rfl⟩ := Prod.mk.inj result
    simp [ih inner]
  | case4 depth c rest _ _ ih =>
    obtain ⟨⟨i, a⟩, inner, result⟩ := Option.map_eq_some_iff.1 split
    obtain ⟨rfl, rfl⟩ := Prod.mk.inj result
    simp [ih inner]

/-- Whether a text spells the type of any value: `interface` and then, blanks
aside, a pair of braces. -/
def isEmptyInterface (s : List Char) : Bool :=
  "interface".toList.isPrefixOf s &&
    ((s.drop "interface".length).filter (!isBlank ·)) == ['\x7b', '\x7d']

/-- Read a type that is neither a pointer nor a list nor a map. -/
def readName (s : List Char) : Except TypeFault TypeExpr :=
  if s = "any".toList ∨ isEmptyInterface s then .ok .dynamic
  else if !s.all isNameChar then .error (.unexpectedCharacters (String.ofList s))
  else if (s.head?.any Char.isDigit) || s.head? == some '.' || s.getLast? == some '.' then
    .error (.invalidName (String.ofList s))
  else if !s.contains '.' && s.head?.any isUppercase then .ok (.reference (String.ofList s))
  else .ok (.scalar (String.ofList s))

/-- Whether a text is a list length: one or more decimal digits. -/
def isLength (s : List Char) : Bool :=
  !s.isEmpty && s.all Char.isDigit

/-- Read a type from a text without blanks at its ends. -/
def readTrimmed (s : List Char) : Except TypeFault TypeExpr :=
  match s with
  | [] => .error .empty
  | '*' :: rest => (readTrimmed (trimStart rest)).map pointer
  | '[' :: ']' :: rest => (readTrimmed (trimStart rest)).map array
  | '[' :: rest =>
    match _ : cut ']' rest with
    | none => .error .unclosedLength
    | some (length, element) =>
      if isLength (trim length) then (readTrimmed (trimStart element)).map array
      else .error (.invalidLength (String.ofList (trim length)))
  | 'm' :: 'a' :: 'p' :: '[' :: rest =>
    match _ : splitClosing 0 rest with
    | none => .error .unclosedKey
    | some (keyText, valueText) => do
      let key ← readTrimmed (trim keyText)
      let value ← readTrimmed (trimStart valueText)
      return map key value
  | name => readName name
termination_by s.length
decreasing_by
  · have := length_trimStart_le rest
    simp only [List.length_cons]
    omega
  · have := length_trimStart_le rest
    simp only [List.length_cons]
    omega
  · rename_i bracket _
    have := length_trimStart_le element
    rw [eq_append_of_cut bracket]
    simp only [List.length_cons, List.length_append]
    omega
  · rename_i bracket
    have := length_trim_le keyText
    rw [eq_append_of_splitClosing bracket]
    simp only [List.length_cons, List.length_append]
    omega
  · rename_i bracket
    have := length_trimStart_le valueText
    rw [eq_append_of_splitClosing bracket]
    simp only [List.length_cons, List.length_append]
    omega

/-- Read the text of a type expression. -/
def read (s : String) : Except TypeFault TypeExpr :=
  readTrimmed (trim s.toList)

end TypeExpr

end ApiDoc
