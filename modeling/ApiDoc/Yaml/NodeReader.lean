/-
# Reading nodes

The tokens of a text are put together into the node of its only document.  An
alias stands for a node whose anchor comes before it.  A node with an anchor is
numbered by how many names are known before it.  A name that is given again adds
no name, so the next anchor can take over the number of that node, and then the
aliases with this number stand for the node that has taken it over.
-/

import ApiDoc.Yaml.Node
import ApiDoc.Yaml.TokenReader

namespace ApiDoc.Yaml

/-- What has been read of a document besides the node at hand. -/
structure Scope where
  /-- The names of nodes and the numbers they stand for. -/
  names : Table Nat := .empty
  /-- The nodes that have numbers, in the order in which they start.  A node that
  is not complete has its number and no content yet. -/
  numbered : Array (Nat × Node) := #[]
  handles : List (String × String) := []
  /-- Whether the version of the format has been stated. -/
  versioned : Bool := false

namespace Scope

/-- Number the node that starts here, if it has a name.  The result tells its
place among the numbered nodes. -/
def start (scope : Scope) (name : Option String) : Scope × Option Nat :=
  match name with
  | none => (scope, none)
  | some n =>
    let number := scope.names.size
    ({ scope with
        names := scope.names.insert n number
        numbered := scope.numbered.push (number, .empty) },
      some scope.numbered.size)

/-- Enter the content of the numbered node at a place. -/
def complete (scope : Scope) (place : Option Nat) (node : Node) : Scope :=
  match place with
  | none => scope
  | some i => { scope with numbered := scope.numbered.modify i fun entry => (entry.1, node) }

/-- A node of the text that has been read up to here. -/
def part (scope : Scope) (node : Node) : Part :=
  ⟨node, scope.numbered.toList.reverse⟩

/-- The tag that a handle and a suffix make, if the handle is known. -/
def tag? (scope : Scope) (handle suffix : String) : Option String :=
  if handle = "" then some suffix
  else
    match scope.handles.lookup handle with
    | some lead => some (lead ++ suffix)
    | none =>
      if handle = "!" then some ("!" ++ suffix)
      else if handle = "!!" then some ("tag:yaml.org,2002:" ++ suffix)
      else none

end Scope

/-- The anchor and the tag in front of a node, in either order. -/
structure Properties where
  anchor : Option String := none
  tag : Option String := none

namespace Properties

/-- Whether there is neither anchor nor tag. -/
def isNone (p : Properties) : Bool :=
  p.anchor.isNone && p.tag.isNone

/-- Read the properties in front of a node. -/
def read? (scope : Scope) : List Token → Option (Properties × List Token)
  | .anchor name :: .tag handle suffix :: rest =>
    (scope.tag? handle suffix).map fun tag => (⟨some name, some tag⟩, rest)
  | .anchor name :: rest => some (⟨some name, none⟩, rest)
  | .tag handle suffix :: .anchor name :: rest =>
    (scope.tag? handle suffix).map fun tag => (⟨some name, some tag⟩, rest)
  | .tag handle suffix :: rest =>
    (scope.tag? handle suffix).map fun tag => (⟨none, some tag⟩, rest)
  | rest => some ({}, rest)

end Properties

namespace Node

/-- Where a node stands, which decides what it can be. -/
inductive Context where
  | flow
  | block
  /-- In a member of a block mapping, where a sequence need not be set in. -/
  | member
  deriving DecidableEq, Repr

/-- Whether a token can follow an absent element or member. -/
def endsAbsent (context : Context) : Token → Bool
  | .blockEntry => context = .block
  | .key => context = .member
  | .value => context = .member
  | .blockEnd => true
  | _ => false

/-- A value that has been read, with what is known after it and the tokens after
it. -/
abbrev Read (α : Type) := Option (α × Scope × List Token)

mutual

/-- Read a node. -/
def read (context : Context) : (fuel : Nat) → Scope → List Token → Read Node
  | 0, _, _ => none
  | fuel + 1, scope, ts =>
    match ts with
    | .alias name :: rest =>
      (scope.names.get? name).map fun number => (.alias number, scope, rest)
    | _ =>
      match Properties.read? scope ts with
      | none => none
      | some (p, rest) =>
        let (inside, place) := scope.start p.anchor
        let named (r : Node × Scope × List Token) : Node × Scope × List Token :=
          (r.1, r.2.1.complete place r.1, r.2.2)
        match rest with
        | .blockEntry :: _ =>
          if context = .member then (readLooseItems fuel inside rest).map named
          else if p.isNone then none
          else some (named (.scalar .plain p.tag "", inside, rest))
        | .scalar form text :: after =>
          some (named (.scalar form (p.tag.filter (· != "!")) text, inside, after))
        | .flowSequence :: after => (readFlowItems true fuel inside after).map named
        | .flowMapping :: after => (readFlowMembers true fuel inside after).map named
        | .blockSequence :: after =>
          if context = .flow then none else (readBlockItems fuel inside after).map named
        | .blockMapping :: after =>
          if context = .flow then none else (readBlockMembers fuel inside after).map named
        | _ =>
          if p.isNone then none
          else some (named (.scalar .plain p.tag "", inside, rest))

/-- Read a node, or the empty one where the next token leaves it out. -/
def readOptional (context : Context) (absent : Token → Bool) :
    (fuel : Nat) → Scope → List Token → Read Node
  | 0, _, _ => none
  | fuel + 1, scope, ts =>
    match ts with
    | [] => read context fuel scope ts
    | t :: _ => if absent t then some (.empty, scope, ts) else read context fuel scope ts

/-- Read the elements of a block sequence and its end. -/
def readBlockItems : (fuel : Nat) → Scope → List Token → Read Node
  | 0, _, _ => none
  | fuel + 1, scope, ts =>
    match ts with
    | .blockEnd :: rest => some (.sequence [], scope, rest)
    | .blockEntry :: rest =>
      match readOptional .block (endsAbsent .block) fuel scope rest with
      | none => none
      | some (item, scope, rest) =>
        match readBlockItems fuel scope rest with
        | some (.sequence items, scope, rest) => some (.sequence (item :: items), scope, rest)
        | _ => none
    | _ => none

/-- Read the elements of a sequence that is not set in; it ends before the first
token that is no dash. -/
def readLooseItems : (fuel : Nat) → Scope → List Token → Read Node
  | 0, _, _ => none
  | fuel + 1, scope, ts =>
    match ts with
    | .blockEntry :: rest =>
      let absent (t : Token) : Bool := endsAbsent .block t || endsAbsent .member t
      match readOptional .block absent fuel scope rest with
      | none => none
      | some (item, scope, rest) =>
        match readLooseItems fuel scope rest with
        | some (.sequence items, scope, rest) => some (.sequence (item :: items), scope, rest)
        | _ => none
    | _ => some (.sequence [], scope, ts)

/-- Read the members of a block mapping and its end. -/
def readBlockMembers : (fuel : Nat) → Scope → List Token → Read Node
  | 0, _, _ => none
  | fuel + 1, scope, ts =>
    match ts with
    | .blockEnd :: rest => some (.mapping [], scope, rest)
    | .key :: rest =>
      match readOptional .member (endsAbsent .member) fuel scope rest with
      | none => none
      | some (name, scope, rest) => readBlockValue name fuel scope rest
    | _ => none

/-- Read the value of a member of a block mapping and the members after it. -/
def readBlockValue (name : Node) : (fuel : Nat) → Scope → List Token → Read Node
  | 0, _, _ => none
  | fuel + 1, scope, ts =>
    let value : Read Node :=
      match ts with
      | .value :: rest => readOptional .member (endsAbsent .member) fuel scope rest
      | _ => some (.empty, scope, ts)
    match value with
    | none => none
    | some (value, scope, rest) =>
      match readBlockMembers fuel scope rest with
      | some (.mapping members, scope, rest) =>
        some (.mapping ((name, value) :: members), scope, rest)
      | _ => none

/-- Read the elements of a sequence in brackets and the closing bracket; between
two elements stands a comma. -/
def readFlowItems (first : Bool) : (fuel : Nat) → Scope → List Token → Read Node
  | 0, _, _ => none
  | fuel + 1, scope, ts =>
    match ts with
    | .flowSequenceEnd :: rest => some (.sequence [], scope, rest)
    | _ =>
      let start : Option (List Token) :=
        match ts with
        | .flowEntry :: rest => if first then none else some rest
        | _ => if first then some ts else none
      match start with
      | none => none
      | some (.flowSequenceEnd :: rest) => some (.sequence [], scope, rest)
      | some ts =>
        let item : Read Node :=
          match ts with
          | .key :: rest => readPair fuel scope rest
          | _ => read .flow fuel scope ts
        match item with
        | none => none
        | some (item, scope, rest) =>
          match readFlowItems false fuel scope rest with
          | some (.sequence items, scope, rest) =>
            some (.sequence (item :: items), scope, rest)
          | _ => none

/-- Read a mapping of one member that stands without braces in a sequence. -/
def readPair : (fuel : Nat) → Scope → List Token → Read Node
  | 0, _, _ => none
  | fuel + 1, scope, ts =>
    let key : Read Node :=
      match ts with
      | .value :: rest => some (.empty, scope, rest)
      | .flowEntry :: rest => some (.empty, scope, rest)
      | .flowSequenceEnd :: rest => some (.empty, scope, rest)
      | _ => read .flow fuel scope ts
    match key with
    | none => none
    | some (key, scope, ts) =>
      let value : Read Node :=
        match ts with
        | .value :: rest =>
          readOptional .flow (fun t => t == .flowEntry || t == .flowSequenceEnd) fuel scope rest
        | _ => some (.empty, scope, ts)
      value.map fun r => (.mapping [(key, r.1)], r.2)

/-- Read the members of a mapping in braces and the closing brace; between two
members stands a comma. -/
def readFlowMembers (first : Bool) : (fuel : Nat) → Scope → List Token → Read Node
  | 0, _, _ => none
  | fuel + 1, scope, ts =>
    match ts with
    | .flowMappingEnd :: rest => some (.mapping [], scope, rest)
    | _ =>
      let start : Option (List Token) :=
        match ts with
        | .flowEntry :: rest => if first then none else some rest
        | _ => if first then some ts else none
      match start with
      | none => none
      | some (.flowMappingEnd :: rest) => some (.mapping [], scope, rest)
      | some ts =>
        let absent (t : Token) : Bool :=
          t == .value || t == .flowEntry || t == .flowMappingEnd
        let member : Option ((Node × Node) × Scope × List Token) :=
          match ts with
          | .key :: rest =>
            match readOptional .flow absent fuel scope rest with
            | none => none
            | some (key, scope, rest) =>
              match rest with
              | .value :: rest =>
                (readOptional .flow (fun t => t == .flowEntry || t == .flowMappingEnd) fuel
                  scope rest).map fun r => ((key, r.1), r.2)
              | _ => some ((key, .empty), scope, rest)
          | _ => (read .flow fuel scope ts).map fun r => ((r.1, .empty), r.2)
        match member with
        | none => none
        | some (member, scope, rest) =>
          match readFlowMembers false fuel scope rest with
          | some (.mapping members, scope, rest) =>
            some (.mapping (member :: members), scope, rest)
          | _ => none

end

/-- Read the directives in front of a document.  A version is stated at most once
and must be one that is known, and a handle is defined at most once. -/
def readDirectives (scope : Scope) : List Token → Option (Scope × List Token)
  | .version major minor :: rest =>
    if scope.versioned || major ≠ 1 || (minor ≠ 1 && minor ≠ 2) then none
    else readDirectives { scope with versioned := true } rest
  | .handle name lead :: rest =>
    if (scope.handles.lookup name).isSome then none
    else readDirectives { scope with handles := (name, lead) :: scope.handles } rest
  | rest => some (scope, rest)

/-- Whether a token ends the content of a document. -/
def endsDocument : Token → Bool
  | .documentStart => true
  | .documentEnd => true
  | .version _ _ => true
  | .handle _ _ => true
  | _ => false

/-- Read the node of a document and everything up to the end of the text, which
must hold no second document. -/
def readDocument (scope : Scope) (ts : List Token) : Option Part :=
  match read .block (4 * ts.length + 8) scope ts with
  | some (node, scope, rest) =>
    if rest.all (· == .documentEnd) then some (scope.part node) else none
  | none => none

end Node

namespace Part

/-- The node of the only document of a text. -/
def ofTokens? (ts : List Token) : Option Part :=
  let nothing : Part := ⟨.empty, []⟩
  match ts with
  | [] => some nothing
  | _ =>
    match Node.readDirectives {} ts with
    | none => none
    | some (scope, .documentStart :: rest) =>
      if rest.head?.all Node.endsDocument then
        if rest.all (· == .documentEnd) then some nothing else none
      else Node.readDocument scope rest
    | some (scope, rest) =>
      if scope.versioned || !scope.handles.isEmpty then none else Node.readDocument scope rest

/-- Read a YAML text. -/
def read? (text : String) : Option Part :=
  (tokens? text).bind ofTokens?

end Part

end ApiDoc.Yaml
