/-
# YAML nodes

A YAML text denotes a tree of scalars, sequences and mappings.  Scalars keep how
they were written, because a plain scalar may denote something else than its
text.  An alias keeps the number of the node it stands for, so the tree is finite
even where a node repeats itself.  Descriptions are read from a node together
with the numbered ones: any scalar serves as a text, only a plain one as a truth
value or an absent value, and an empty plain one as an empty collection.  A
record is a mapping; a sequence does not serve as one.
-/

import ApiDoc.Decode.Source
import ApiDoc.Yaml.Plain
import ApiDoc.Yaml.Token

namespace ApiDoc.Yaml

/-- A node of a YAML text. -/
inductive Node where
  | scalar (form : ScalarForm) (tag : Option String) (text : String)
  | sequence (items : List Node)
  /-- A mapping from nodes to nodes, in order and with repetitions. -/
  | mapping (members : List (Node × Node))
  /-- A repetition of the node with a number. -/
  | alias (number : Nat)
  deriving Repr, Inhabited

namespace Node

/-- What stands where nothing is written. -/
def empty : Node :=
  scalar .plain none ""

/-- The tag of truth values. -/
def truthTag : String := "tag:yaml.org,2002:bool"

/-- The tag of the absent value. -/
def nullTag : String := "tag:yaml.org,2002:null"

/-- A node as it is shown where another is expected. -/
def unexpected : Node → Unexpected
  | scalar _ _ text => .string text
  | sequence _ => .sequence
  | mapping _ => .mapping
  | .alias _ => .null

/-- Whether a node is an empty plain scalar. -/
def isEmpty : Node → Bool
  | scalar .plain _ text => text == ""
  | _ => false

/-- The text of a node. -/
def text? : Node → Except DecodeError String
  | scalar _ _ text => .ok text
  | v => .error (.invalidType v.unexpected "a string")

/-- The truth value of a node. -/
def flag? (v : Node) : Except DecodeError Bool :=
  let refused := Except.error (.invalidType v.unexpected "a boolean")
  match v with
  | scalar form tag text =>
    if form = .plain ∨ (form = .literal ∧ tag = some truthTag) then
      match truth? text.toList with
      | some b => .ok b
      | none => refused
    else refused
  | _ => refused

/-- Whether a node denotes an absent value.  One that is tagged as such must
spell it out. -/
def isAbsent? (v : Node) : Except DecodeError Bool :=
  match v with
  | scalar .plain none text => .ok (isNull text.toList)
  | scalar .plain (some tag) text =>
    if tag ≠ nullTag then .ok false
    else if text ≠ "" ∧ isNull text.toList then .ok true
    else .error (.invalidType v.unexpected "null")
  | _ => .ok false

mutual

/-- The number of marks that spell out a node: one for a scalar or an alias, and
one at either end of a collection. -/
def marks : Node → Nat
  | scalar _ _ _ => 1
  | .alias _ => 1
  | sequence items => 2 + itemMarks items
  | mapping members => 2 + memberMarks members

/-- The number of marks of several nodes. -/
def itemMarks : List Node → Nat
  | [] => 0
  | item :: rest => item.marks + itemMarks rest

/-- The number of marks of the members of a mapping. -/
def memberMarks : List (Node × Node) → Nat
  | [] => 0
  | (k, v) :: rest => k.marks + v.marks + memberMarks rest

end

end Node

/-- A node of a text, with the nodes that the aliases of the text stand for. -/
structure Part where
  node : Node
  /-- The nodes that have numbers; of two with one number the first counts. -/
  numbered : List (Nat × Node)

namespace Part

/-- Another node of the same text. -/
def other (p : Part) (node : Node) : Part :=
  { p with node := node }

/-- The node itself, or the one that it stands for if it is an alias. -/
def target (p : Part) : Node :=
  match p.node with
  | .alias number => (p.numbered.lookup number).getD .empty
  | node => node

/-- The members of a mapping by the texts of their keys. -/
def namedMembers (p : Part) : List (Node × Node) → Except DecodeError (List (String × Part))
  | [] => .ok []
  | (k, v) :: rest =>
    match (p.other k).target.text? with
    | .error e => .error e
    | .ok name => (p.namedMembers rest).map ((name, p.other v) :: ·)

instance : Source Part where
  text p := p.target.text?
  flag p := p.target.flag?
  isAbsent p := p.target.isAbsent?
  elements expected p :=
    match p.target with
    | .sequence items => .ok (items.map p.other)
    | v => if v.isEmpty then .ok [] else .error (.invalidType v.unexpected expected)
  entries p :=
    match p.target with
    | .mapping members => p.namedMembers members
    | v => if v.isEmpty then .ok [] else .error (.invalidType v.unexpected "a map")
  fields expected p :=
    match p.target with
    | .mapping members => (p.namedMembers members).map .named
    | v => if v.isEmpty then .ok (.named []) else .error (.invalidType v.unexpected expected)

end Part

end ApiDoc.Yaml
