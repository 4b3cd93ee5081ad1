/-
# Names of files

A name is a path of parts between slashes.  Empty parts and single dots say
nothing, except for a dot in front.  The last part decides the format of a file,
and what stands before it is the directory the file is in.
-/

import ApiDoc.Text.Pieces

namespace ApiDoc

open ApiDoc.Text

/-- The format of a file. -/
inductive Format where
  | json
  | yaml
  deriving DecidableEq, Repr

namespace FileName

/-- Whether a name starts at the root. -/
def isAbsolute (name : String) : Bool :=
  name.toList.head? == some '/'

/-- The parts of a name that say something. -/
def parts (name : String) : List String :=
  (pieceStrings '/' name).filter fun p => p != "" && p != "."

/-- The path that one more part of a name leads to: two dots lead back to the
directory above, and at the root they lead nowhere else. -/
def step (path : List String) (part : String) : List String :=
  if part = ".." then path.dropLast else path ++ [part]

/-- Whether a name can only be that of a directory. -/
def asksDirectory (name : String) : Bool :=
  match (pieceStrings '/' name).getLast? with
  | some last => last == "" || last == "."
  | none => true

/-- What stands behind the last dot of a text, if something stands before that
dot. -/
def afterLastDot (s : List Char) : Option (List Char) :=
  match cut '.' s.reverse with
  | some (ending, start) => if start.isEmpty then none else some ending.reverse
  | none => none

/-- The extension of a file. -/
def extension? (name : String) : Option String :=
  match (parts name).getLast? with
  | some last =>
    if last = ".." then none else (afterLastDot last.toList).map String.ofList
  | none => none

/-- The format of a file: YAML if its extension is `yaml` or `yml` in any case of
their letters, otherwise JSON. -/
def format (name : String) : Format :=
  match (extension? name).map fun e => String.ofList (e.toList.map Char.toLower) with
  | some "yaml" => .yaml
  | some "yml" => .yaml
  | _ => .json

/-- The directory a file is in; none where the name is a single part. -/
def parent? (name : String) : Option String :=
  let inside := "/".intercalate (parts name).dropLast
  if isAbsolute name then some ("/" ++ inside)
  else if inside != "" then some inside
  else if (parts name).length = 1 && name.toList.head? == some '.' &&
      (name.toList.drop 1).head? == some '/' then some "."
  else none

end FileName

end ApiDoc
