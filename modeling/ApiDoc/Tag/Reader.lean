/-
# Reading tags

The text of a tag list is a sequence of groups `key:"value"` set apart by
blanks, the whole possibly between backticks.  `Tag.readAll` reads such a text
or names the first place where it departs from the form.  Offsets in faults are
counted in UTF-8 bytes from the start of the text without backticks.
-/

import ApiDoc.Tag.Basic

namespace ApiDoc

open ApiDoc.Text

/-- Why a text is not a list of tags. -/
inductive TagFault where
  /-- A quotation mark stands where a key is expected. -/
  | quoteInKey (offset : Nat)
  | missingColon (key : String)
  /-- A colon stands where a key is expected. -/
  | emptyKey (offset : Nat)
  /-- What follows the colon is not a quotation mark. -/
  | unquotedValue (key : String)
  | unclosedValue (key : String)
  /-- A group follows another without a blank between them. -/
  | missingBlank (key : String) (offset : Nat)
  | duplicateKey (key : String)
  deriving DecidableEq, Repr

/-- The fault in words. -/
def TagFault.reason : TagFault → String
  | .quoteInKey offset => "unexpected quote in key at offset " ++ toString offset
  | .missingColon key => "missing ':' after key '" ++ key ++ "'"
  | .emptyKey offset => "empty key at offset " ++ toString offset
  | .unquotedValue key => "value of '" ++ key ++ "' must be double-quoted"
  | .unclosedValue key => "unbalanced quote in value of '" ++ key ++ "'"
  | .missingBlank key offset =>
    "expected whitespace after '" ++ key ++ "' at offset " ++ toString offset
  | .duplicateKey key => "duplicate key '" ++ key ++ "'"

namespace Tag

/-- Characters a key is made of. -/
def isKeyChar (c : Char) : Bool :=
  c != ':' && c != '"' && !isBlank c

/-- Read the inside of a quoted value up to its closing quotation mark.  A
backslash gives the next character, whatever it is.  The result is the value and
the text after the mark. -/
def readQuoted : List Char → Option (List Char × List Char)
  | [] => none
  | ['\\'] => none
  | '\\' :: c :: rest => (readQuoted rest).map fun r => (c :: r.1, r.2)
  | '"' :: rest => some ([], rest)
  | c :: rest => (readQuoted rest).map fun r => (c :: r.1, r.2)

/-- What follows a closed value is nothing or starts with a blank. -/
def startsBlank : List Char → Bool
  | [] => true
  | c :: _ => isBlank c

/-- Read one group at the start of `s`, where `offset` tells the position of a
remainder.  The result is the tag and the text after it. -/
def readGroup (offset : List Char → Nat) (s : List Char) :
    Except TagFault (Tag × List Char) :=
  let key := s.takeWhile isKeyChar
  match s.dropWhile isKeyChar with
  | [] => .error (.missingColon (String.ofList key))
  | '"' :: rest => .error (.quoteInKey (offset ('"' :: rest)))
  | ':' :: rest =>
    if key.isEmpty then .error (.emptyKey (offset s))
    else
      match rest with
      | '"' :: quoted =>
        match readQuoted quoted with
        | none => .error (.unclosedValue (String.ofList key))
        | some (value, after) =>
          if startsBlank after then .ok (ofValue key value, after)
          else .error (.missingBlank (String.ofList key) (offset after))
      | _ => .error (.unquotedValue (String.ofList key))
  | _ => .error (.missingColon (String.ofList key))

/-- A quoted value is shorter than the text it starts. -/
theorem length_lt_of_readQuoted {s value after : List Char}
    (read : readQuoted s = some (value, after)) : after.length < s.length := by
  fun_induction readQuoted s generalizing value with
  | case1 => simp at read
  | case2 => simp at read
  | case3 c rest ih =>
    obtain ⟨⟨v, a⟩, inner, result⟩ := Option.map_eq_some_iff.1 read
    obtain ⟨_, rfl⟩ := Prod.mk.inj result
    have shorter : a.length < rest.length := ih inner
    simp only [List.length_cons]
    omega
  | case4 rest =>
    obtain ⟨_, rfl⟩ := Prod.mk.inj (Option.some.inj read)
    simp
  | case5 c rest _ _ _ ih =>
    obtain ⟨⟨v, a⟩, inner, result⟩ := Option.map_eq_some_iff.1 read
    obtain ⟨_, rfl⟩ := Prod.mk.inj result
    have shorter : a.length < rest.length := ih inner
    simp only [List.length_cons]
    omega

/-- A group takes up at least one character. -/
theorem length_lt_of_readGroup {offset : List Char → Nat} {s after : List Char} {t : Tag}
    (read : readGroup offset s = .ok (t, after)) : after.length < s.length := by
  have shorter := (List.dropWhile_sublist (l := s) isKeyChar).length_le
  unfold readGroup at read
  dsimp only at read
  split at read
  · simp at read
  · simp at read
  next rest atColon =>
    split at read
    · simp at read
    · split at read
      next quoted =>
        split at read
        · simp at read
        next value left inside =>
          split at read
          · obtain ⟨_, rfl⟩ := Prod.mk.inj (Except.ok.inj read)
            have := length_lt_of_readQuoted inside
            rw [atColon] at shorter
            simp only [List.length_cons] at shorter
            omega
          · simp at read
      · simp at read
  · simp at read

/-- Read groups up to the end of the text; `earlier` are the tags already read,
in order. -/
def readGroups (offset : List Char → Nat) (earlier : List Tag) (s : List Char) :
    Except TagFault (List Tag) :=
  match _ : trimStart s with
  | [] => .ok earlier
  | c :: more =>
    match _ : readGroup offset (c :: more) with
    | .error fault => .error fault
    | .ok (t, after) =>
      if earlier.any (·.key == t.key) then .error (.duplicateKey t.key)
      else readGroups offset (earlier ++ [t]) after
termination_by s.length
decreasing_by
  rename_i start group _
  have shorter := length_lt_of_readGroup group
  have bound := length_trimStart_le s
  rw [start] at bound
  omega

/-- Remove one backtick at each end when both are there. -/
def withoutBackticks (s : List Char) : List Char :=
  match s with
  | '`' :: inner =>
    match inner.getLast? with
    | some '`' => inner.dropLast
    | _ => s
  | _ => s

/-- Read the text of a tag list. -/
def readAll (raw : String) : Except TagFault (List Tag) :=
  let body := withoutBackticks (trim raw.toList)
  readGroups (fun rest => byteSize body - byteSize rest) [] body

end Tag

end ApiDoc
