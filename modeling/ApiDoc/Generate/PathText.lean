/-
# Paths and their placeholders

A route's path is written after the prefix of its group, with exactly one slash
in front.  A segment `:name` is a placeholder and appears in the document as the
name in braces.  The text is read once from left to right into parts; the path of
the document and the list of placeholders are two views of those parts.
-/

namespace ApiDoc

/-- Join a prefix and a path, with exactly one slash in front. -/
def fullPath (lead : Option String) (path : String) : String :=
  let joined := (lead.getD "").toList ++ path.toList
  String.ofList ('/' :: joined.dropWhile (· == '/'))

/-- A part of a path. -/
inductive PathPart where
  | char (c : Char)
  /-- A placeholder together with the slash in front of it. -/
  | placeholder (token : List Char)
  deriving DecidableEq, Repr

namespace PathPart

/-- The part as a document shows it. -/
def text : PathPart → List Char
  | char c => [c]
  | placeholder token => '/' :: '\x7b' :: token ++ ['\x7d']

/-- The name of a placeholder. -/
def token? : PathPart → Option (List Char)
  | char _ => none
  | placeholder token => some token

/-- Read the parts of a path.  A placeholder starts with a slash and a colon and
takes all characters up to the next slash, of which there must be one. -/
def read : List Char → List PathPart
  | [] => []
  | '/' :: ':' :: rest =>
    let token := rest.takeWhile (· != '/')
    if token.isEmpty then char '/' :: read (':' :: rest)
    else placeholder token :: read (rest.dropWhile (· != '/'))
  | c :: rest => char c :: read rest
termination_by s => s.length
decreasing_by
  · simp
  · have := (List.dropWhile_sublist (l := rest) (· != '/')).length_le
    simp only [List.length_cons]
    omega
  · simp

end PathPart

/-- A path with its placeholders in braces. -/
def documentPath (path : String) : String :=
  String.ofList ((PathPart.read path.toList).flatMap PathPart.text)

/-- The names of the placeholders of a path in order. -/
def pathTokens (path : String) : List String :=
  ((PathPart.read path.toList).filterMap PathPart.token?).map String.ofList

end ApiDoc
