/-
# Blank characters and trimming

The characters that count as white space are those with the Unicode property
`White_Space`.  This module supplies the class, trimming at either end, and the
handful of facts about trimming that readers of tags and type expressions need.
Everything is stated on lists of characters; `trimmed` carries it to strings.
-/

namespace ApiDoc.Text

/-- The code points with the Unicode property `White_Space`. -/
def isBlankCode (code : Nat) : Bool :=
  (9 ≤ code && code ≤ 13) || code == 0x20 || code == 0x85 || code == 0xA0 ||
    code == 0x1680 || (0x2000 ≤ code && code ≤ 0x200A) || code == 0x2028 ||
    code == 0x2029 || code == 0x202F || code == 0x205F || code == 0x3000

/-- A character is blank when it is Unicode white space. -/
def isBlank (c : Char) : Bool :=
  isBlankCode c.toNat

/-- Remove the longest run at the end of a text whose characters all satisfy
`p`. -/
def dropEndWhile {α : Type _} (p : α → Bool) : List α → List α
  | [] => []
  | c :: rest =>
    match dropEndWhile p rest with
    | [] => if p c then [] else [c]
    | kept => c :: kept

/-- Remove leading blanks. -/
def trimStart (s : List Char) : List Char :=
  s.dropWhile isBlank

/-- Remove trailing blanks. -/
def trimEnd (s : List Char) : List Char :=
  dropEndWhile isBlank s

/-- Remove blanks at both ends. -/
def trim (s : List Char) : List Char :=
  trimEnd (trimStart s)

/-- A string without the blanks at its ends. -/
def trimmed (s : String) : String :=
  String.ofList (trim s.toList)

/-- Trimming the end never makes a list longer. -/
theorem length_dropEndWhile_le {α : Type _} (p : α → Bool) (s : List α) :
    (dropEndWhile p s).length ≤ s.length := by
  induction s with
  | nil => simp [dropEndWhile]
  | cons c rest ih =>
    simp only [dropEndWhile]
    split
    · split <;> simp
    · simpa using ih

/-- Trimming the start never makes a text longer. -/
theorem length_trimStart_le (s : List Char) : (trimStart s).length ≤ s.length :=
  (List.dropWhile_sublist _).length_le

/-- Trimming never makes a text longer. -/
theorem length_trim_le (s : List Char) : (trim s).length ≤ s.length :=
  Nat.le_trans (length_dropEndWhile_le isBlank _) (length_trimStart_le s)

end ApiDoc.Text
