/-
# Tokens of YAML text

A YAML text is read into tokens, and the structure that indentation gives is made
explicit among them: a block sequence or mapping has a start and an end token
like one in brackets.
-/

namespace ApiDoc.Yaml

/-- How a scalar is written in a text. -/
inductive ScalarForm where
  | plain
  | quoted
  | literal
  | folded
  deriving DecidableEq, Repr

/-- A token. -/
inductive Token where
  | version (major minor : Nat)
  | handle (name lead : String)
  /-- The mark at the start of a document. -/
  | documentStart
  /-- The mark at the end of a document. -/
  | documentEnd
  /-- The start of a sequence that is set out by indentation. -/
  | blockSequence
  /-- The start of a mapping that is set out by indentation. -/
  | blockMapping
  | blockEnd
  | flowSequence
  | flowSequenceEnd
  | flowMapping
  | flowMappingEnd
  | blockEntry
  | flowEntry
  /-- What follows is the key of a member. -/
  | key
  /-- What follows is the value of a member. -/
  | value
  /-- A repetition of a node that has an anchor. -/
  | alias (name : String)
  | anchor (name : String)
  /-- A tag for the node that follows: a handle and the rest. -/
  | tag (handle suffix : String)
  | scalar (form : ScalarForm) (text : String)
  deriving DecidableEq, Repr

end ApiDoc.Yaml
