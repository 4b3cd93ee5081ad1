/-
# YAML text

A value is written in block style.  The members of a mapping stand below each
other, set in by two spaces a level; a sequence below a name is not set in
further.  A name that cannot stand in front of a colon is marked with a question
mark.  Only empty mappings and sequences are written with brackets.
-/

import ApiDoc.Json.Basic
import ApiDoc.Yaml.Scalar

namespace ApiDoc.Yaml

/-- The spaces in front of a line. -/
def pad (indent : Nat) : List Char :=
  List.replicate indent ' '

/-- The text of a scalar value, up to the end of its line. -/
def atomLine (indent : Nat) : Json → List Char
  | .null => "null\n".toList
  | .bool true => "true\n".toList
  | .bool false => "false\n".toList
  | .number value => (value.text .yaml).toList ++ ['\n']
  | .string value => scalarLine indent value.toList
  | .array _ => "[]\n".toList
  | .object _ => ['\x7b', '\x7d', '\n']

mutual

/-- A value behind the colon after a name, in a mapping set in by `indent`. -/
def afterColon (indent : Nat) : Json → List Char
  | .object (member :: rest) =>
    '\n' :: writeMembers (indent + 2) (pad (indent + 2)) (member :: rest)
  | .array (item :: rest) => '\n' :: writeItems indent (pad indent) (item :: rest)
  | v => ' ' :: atomLine (indent + 2) v

/-- A value behind a dash or behind a colon on a line of its own; it starts on
that line. -/
def afterMark (indent : Nat) : Json → List Char
  | .object (member :: rest) => writeMembers (indent + 2) [' '] (member :: rest)
  | .array (item :: rest) => writeItems (indent + 2) [' '] (item :: rest)
  | v => ' ' :: atomLine (indent + 2) v

/-- The members of a mapping; `lead` stands in front of the first. -/
def writeMembers (indent : Nat) (lead : List Char) : List (String × Json) → List Char
  | [] => []
  | (name, v) :: rest =>
    lead ++
      (if isSimpleKey name.toList then
        scalarText (indent + 2) name.toList ++ ':' :: afterColon indent v
      else
        '?' :: ' ' :: scalarLine (indent + 2) name.toList ++ pad indent ++
          ':' :: afterMark indent v) ++
      writeMembers indent (pad indent) rest

/-- The elements of a sequence; `lead` stands in front of the first. -/
def writeItems (indent : Nat) (lead : List Char) : List Json → List Char
  | [] => []
  | item :: rest => lead ++ '-' :: afterMark indent item ++ writeItems indent (pad indent) rest

end

/-- The YAML text of a value. -/
def render (v : Json) : String :=
  String.ofList <|
    match v with
    | .object (member :: rest) => writeMembers 0 [] (member :: rest)
    | .array (item :: rest) => writeItems 0 [] (item :: rest)
    | atom => atomLine 2 atom

end ApiDoc.Yaml
