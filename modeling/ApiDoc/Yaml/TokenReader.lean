/-
# Reading tokens

A text is read from left to right.  Whether a scalar is the key of a member shows
only at the colon after it, so the place where a key could have started is
remembered, one place for the block and one for each open bracket.  A colon turns
the remembered place into a key; a new line makes the reader forget it.  Where a
key is the only thing that could stand, forgetting is an error.
-/

import ApiDoc.Yaml.ScalarReader
import ApiDoc.Yaml.Token

namespace ApiDoc.Yaml

/-- A place where a key may have started. -/
structure Candidate where
  /-- Whether nothing else than a key can stand here. -/
  required : Bool
  position : Nat
  line : Nat
  column : Nat
  index : Nat

/-- What has been read and what remains. -/
structure Scan where
  cursor : Cursor
  tokens : Array Token := #[]
  /-- The column of the innermost block, less than zero where there is none. -/
  indent : Int := -1
  outer : List Int := []
  keyAllowed : Bool := true
  /-- The candidates for a key, that of the innermost bracket first and that of the
  block last. -/
  candidates : List (Option Candidate) := [none]

namespace Scan

/-- Whether the place is inside brackets. -/
def inFlow (s : Scan) : Bool :=
  1 < s.candidates.length

/-- Add a token at the end. -/
def push (s : Scan) (t : Token) : Scan :=
  { s with tokens := s.tokens.push t }

/-- Add a token of one or more characters at the end and pass over it. -/
def take (s : Scan) (size : Nat) (t : Token) : Scan :=
  { s with tokens := s.tokens.push t, cursor := s.cursor.skip size }

/-- Put a token before the one at a position. -/
def insertAt (s : Scan) (position : Nat) (t : Token) : Scan :=
  { s with tokens := s.tokens.insertIdxIfInBounds position t }

/-- End the blocks that stand right of a column. -/
def closeBlocks (column : Int) (indent : Int) (outer : List Int) (s : Scan) : Scan :=
  if indent ≤ column then { s with indent := indent, outer := outer }
  else
    match outer with
    | [] => { s with indent := -1, outer := [] }
    | next :: others => closeBlocks column next others (s.push .blockEnd)

/-- End the blocks that stand right of a column, unless the place is inside
brackets. -/
def unindent (s : Scan) (column : Int) : Scan :=
  if s.inFlow then s else closeBlocks column s.indent s.outer s

/-- Start a block at a column that is right of the innermost block, with its start
token before the one at `position`. -/
def beginBlock (s : Scan) (column : Nat) (position : Nat) (t : Token) : Scan :=
  if s.inFlow || (column : Int) ≤ s.indent then s
  else
    { s.insertAt position t with
      indent := column
      outer := s.indent :: s.outer }

/-- Forget the innermost candidate; nothing if it was required. -/
def forget? (s : Scan) : Option Scan :=
  match s.candidates with
  | some k :: others =>
    if k.required then none else some { s with candidates := none :: others }
  | _ => some s

/-- Remember the place as a candidate for a key, where one may start. -/
def remember? (s : Scan) : Option Scan :=
  if !s.keyAllowed then some s
  else
    s.forget?.map fun s =>
      let k : Candidate :=
        { required := !s.inFlow && s.indent == (s.cursor.column : Int)
          position := s.tokens.size
          line := s.cursor.line
          column := s.cursor.column
          index := s.cursor.index }
      { s with candidates := some k :: s.candidates.tail }

/-- Forget the candidates of earlier lines and those that are more than 1024
characters away; nothing if one of them was required. -/
def forgetStale? (s : Scan) : Option Scan :=
  let stale (k : Candidate) : Bool :=
    k.line < s.cursor.line || k.index + 1024 < s.cursor.index
  if s.candidates.any fun k => k.any fun k => stale k && k.required then none
  else some { s with candidates := s.candidates.map fun k => k.filter (!stale ·) }

/-- The place of the next token, past blanks, comments and line ends.  The result
tells whether a line end in block context was passed. -/
def nextPlace (inFlow : Bool) : (fuel : Nat) → (keyAllowed : Bool) → Cursor → Cursor × Bool
  | 0, keyAllowed, c => (c, keyAllowed)
  | fuel + 1, keyAllowed, c =>
    let c := if c.column == 0 && c.rest.head?.any (·.toNat == 0xFEFF) then c.advance else c
    let c := (c.run fun x => x == ' ' || ((inFlow || !keyAllowed) && x == '\t')).2
    let c := if c.rest.head? == some '#' then (c.run fun x => !isBreak x).2 else c
    match c.rest with
    | x :: _ =>
      if isBreak x then nextPlace inFlow fuel (keyAllowed || !inFlow) c.advance
      else (c, keyAllowed)
    | [] => (c, keyAllowed)

/-- The characters of the text of a tag. -/
def isTagChar (verbatim : Bool) (c : Char) : Bool :=
  isWordChar c || ";/?:@&=+$.%!~*'()".toList.contains c ||
    (verbatim && [',', '[', ']'].contains c)

/-- Whether every percent sign is followed by two hexadecimal digits. -/
def percentsComplete : List Char → Bool
  | [] => true
  | '%' :: a :: b :: rest => isDigitOf 16 a && isDigitOf 16 b && percentsComplete rest
  | c :: rest => c != '%' && percentsComplete rest

/-- The text of a tag at the start of `s`. -/
def tagText? (verbatim : Bool) (s : List Char) : Option (List Char) :=
  let text := s.takeWhile (isTagChar verbatim)
  if percentsComplete text then some text else none

/-- Read a tag: its handle, the rest of it, and how many characters it takes. -/
def readTag? (inFlow : Bool) (s : List Char) : Option (List Char × List Char × Nat) := do
  let (handle, suffix, size) ←
    match s with
    | '!' :: '<' :: rest => do
      let text ← tagText? true rest
      if text.isEmpty || (rest.drop text.length).head? != some '>' then none
      else some ([], text, text.length + 3)
    | '!' :: rest => do
      let word := rest.takeWhile isWordChar
      let after := rest.drop word.length
      if after.head? == some '!' then
        let text ← tagText? false after.tail
        if text.isEmpty then none
        else some ('!' :: word ++ ['!'], text, word.length + 2 + text.length)
      else
        let text ← tagText? false after
        let suffix := word ++ text
        if suffix.isEmpty then some ([], ['!'], 1)
        else some (['!'], suffix, 1 + suffix.length)
    | _ => none
  let after := s.drop size
  if atSeparation after || (inFlow && after.head? == some ',') then some (handle, suffix, size)
  else none

/-- Read an anchor or alias behind its sign. -/
def readAnchor? (s : List Char) : Option (List Char) :=
  let word := s.takeWhile isWordChar
  let after := s.drop word.length
  if word.isEmpty then none
  else if atSeparation after || after.head?.any (fun c => "?:,]\x7d%@\x60".toList.contains c) then
    some word
  else none

/-- The version that a directive states and the text after it. -/
def readVersion? (s : List Char) : Option (Token × List Char) := do
  let s := s.dropWhile isGapChar
  let major ← Decimal.natural? (s.takeWhile Char.isDigit)
  match s.dropWhile Char.isDigit with
  | '.' :: rest =>
    let minor ← Decimal.natural? (rest.takeWhile Char.isDigit)
    some (.version major minor, rest.dropWhile Char.isDigit)
  | _ => none

/-- The handle that a directive defines and the text after the definition. -/
def readHandle? (s : List Char) : Option (Token × List Char) := do
  match s.dropWhile isGapChar with
  | '!' :: rest =>
    let word := rest.takeWhile isWordChar
    let after := rest.drop word.length
    let closed : Bool := after.head? == some '!'
    let after := if closed then after.tail else after
    let handle := '!' :: word ++ (if closed then ['!'] else [])
    if (!closed && !word.isEmpty) || !after.head?.any isGapChar then none
    else
      let after := after.dropWhile isGapChar
      let text ← tagText? true after
      let next := after.drop text.length
      if text.isEmpty || !atSeparation next then none
      else some (.handle (String.ofList handle) (String.ofList text), next)
  | _ => none

/-- Read a directive, behind its percent sign, up to the end of its line. -/
def readDirective? (c : Cursor) : Option (Token × Cursor) := do
  let name := c.rest.takeWhile isWordChar
  let after := c.rest.drop name.length
  if !atSeparation after then none
  else
    let (t, next) ←
      if name = "YAML".toList then readVersion? after
      else if name = "TAG".toList then readHandle? after
      else none
    let gap := next.dropWhile isGapChar
    let finish := if gap.head? == some '#' then gap.dropWhile (!isBreak ·) else gap
    if atLineEnd finish then
      some (t, (c.skip (c.rest.length - finish.length)).advance)
    else none

/-- Read the next token at a place where one starts; nothing if none can. -/
def token? (s : Scan) : Option Scan := do
  let c := s.cursor
  let fuel := c.rest.length + 1
  let next := c.rest.tail
  let inFlow := s.inFlow
  match c.rest with
  | [] => none
  | x :: _ =>
    if c.column = 0 ∧ x = '%' then
      let s ← (s.unindent (-1)).forget?
      let (t, after) ← readDirective? c.advance
      return { s.push t with cursor := after, keyAllowed := false }
    else if c.atDocumentMark then
      let s ← (s.unindent (-1)).forget?
      return { s.take 3 (if x = '-' then .documentStart else .documentEnd) with
        keyAllowed := false }
    else if x = '[' ∨ x = '\x7b' then
      let s ← s.remember?
      return { s.take 1 (if x = '[' then .flowSequence else .flowMapping) with
        candidates := none :: s.candidates
        keyAllowed := true }
    else if x = ']' ∨ x = '\x7d' then
      let s ← s.forget?
      return { s.take 1 (if x = ']' then .flowSequenceEnd else .flowMappingEnd) with
        candidates := if inFlow then s.candidates.tail else s.candidates
        keyAllowed := false }
    else if x = ',' then
      let s ← s.forget?
      return { s.take 1 .flowEntry with keyAllowed := true }
    else if x = '-' ∧ atSeparation next then
      if !inFlow && !s.keyAllowed then none
      else
        let s ← (s.beginBlock c.column s.tokens.size .blockSequence).forget?
        return { s.take 1 .blockEntry with keyAllowed := true }
    else if x = '?' ∧ (inFlow ∨ atSeparation next) then
      if !inFlow && !s.keyAllowed then none
      else
        let s ← (s.beginBlock c.column s.tokens.size .blockMapping).forget?
        return { s.take 1 .key with keyAllowed := !inFlow }
    else if x = ':' ∧ (inFlow ∨ atSeparation next) then
      match s.candidates with
      | some k :: others =>
        let s := (s.insertAt k.position .key).beginBlock k.column k.position .blockMapping
        return { s.take 1 .value with candidates := none :: others, keyAllowed := false }
      | _ =>
        if !inFlow && !s.keyAllowed then none
        else
          let s := s.beginBlock c.column s.tokens.size .blockMapping
          return { s.take 1 .value with keyAllowed := !inFlow }
    else if x = '*' ∨ x = '&' then
      let s ← s.remember?
      let name ← readAnchor? next
      let text := String.ofList name
      return { s.take (1 + name.length) (if x = '*' then .alias text else .anchor text) with
        keyAllowed := false }
    else if x = '!' then
      let s ← s.remember?
      let (handle, suffix, size) ← readTag? inFlow c.rest
      return { s.take size (.tag (String.ofList handle) (String.ofList suffix)) with
        keyAllowed := false }
    else if (x = '|' ∨ x = '>') ∧ !inFlow then
      let s ← s.forget?
      let (text, after) ← readBlock (x == '>') s.indent fuel c.advance
      return { s.push (.scalar (if x = '>' then .folded else .literal) (String.ofList text)) with
        cursor := after
        keyAllowed := true }
    else if x = '\'' ∨ x = '"' then
      let s ← s.remember?
      let (text, after) ←
        if x = '"' then readDouble fuel c.advance else readSingle fuel c.advance
      return { s.push (.scalar .quoted (String.ofList text)) with
        cursor := after
        keyAllowed := false }
    else if (!isSeparating x && !("-?:,[]#&*!|>'\"%@\x60".toList ++ ['\x7b', '\x7d']).contains x) ||
        (x == '-' && !next.head?.any isGapChar) ||
        (!inFlow && (x == '?' || x == ':') && !atSeparation next) then
      let s ← s.remember?
      let (text, after, lineEnded) ← readPlain inFlow (s.indent + 1).toNat fuel {} c
      return { s.push (.scalar .plain (String.ofList text)) with
        cursor := after
        keyAllowed := lineEnded }
    else none

/-- Read tokens up to the end of the text. -/
def readTokens : (fuel : Nat) → Scan → Option (Array Token)
  | 0, _ => none
  | fuel + 1, s => do
    let (c, keyAllowed) := nextPlace s.inFlow (s.cursor.rest.length + 1) s.keyAllowed s.cursor
    let s ← { s with cursor := c, keyAllowed := keyAllowed }.forgetStale?
    if c.rest.isEmpty then
      let s ← (s.unindent (-1)).forget?
      return s.tokens
    else
      let s ← (s.unindent c.column).token?
      readTokens fuel s

end Scan

/-- The tokens of a text, if it is made of allowed characters and every token can
be read.  A byte order mark in front does not count. -/
def tokens? (text : String) : Option (List Token) :=
  let chars := text.toList
  let body := if chars.head?.any (·.toNat == 0xFEFF) then chars.tail else chars
  if !body.all isAllowed then none
  else
    (Scan.readTokens (body.length + 2) { cursor := { rest := uniformLines body } }).map
      Array.toList

end ApiDoc.Yaml
