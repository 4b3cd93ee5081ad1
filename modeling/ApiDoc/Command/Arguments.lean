/-
# The command line

The program has one command, `generate`, with an input and an output, and a flag
for verbosity that may stand before or behind the command and may be repeated.
This module reads the words of a command line.  Words are judged from left to
right, so the first that asks for help or does not fit decides.
-/

import ApiDoc.Text.Pieces

namespace ApiDoc

open ApiDoc.Text

/-- What a command line asks for. -/
inductive Invocation where
  /-- It asks for nothing that the program can do. -/
  | misuse (reason : String)
  /-- It asks for a text about the program. -/
  | information (text : String)
  | generate (verbosity : Nat) (input : String) (output : Option String)
  deriving DecidableEq, Repr

/-- A word of a command line by its shape. -/
inductive Word where
  | stop
  /-- A flag with a name, and the value attached to it behind an equals sign. -/
  | named (name : String) (attached : Option String)
  /-- Flags of one letter each behind a single dash. -/
  | letters (flags : List Char)
  | plain
  deriving DecidableEq, Repr

/-- The shape of a word.  A single dash alone is no flag. -/
def Word.ofText (word : String) : Word :=
  match word.toList with
  | ['-', '-'] => .stop
  | '-' :: '-' :: flag =>
    match cut '=' flag with
    | some (name, value) => .named (String.ofList name) (some (String.ofList value))
    | none => .named (String.ofList flag) none
  | '-' :: c :: rest => .letters (c :: rest)
  | _ => .plain

namespace Invocation

/-- The name and version of the program. -/
def versionText : String := "swagger-gen-cli 0.1.0\n"

/-- What the program says about itself. -/
def helpText : String :=
  "\n".intercalate [
    "Swagger 2.0 document generator",
    "",
    "Usage: swagger-gen [OPTIONS] <COMMAND>",
    "",
    "Commands:",
    "  generate  Generate a Swagger document from a serialized API description",
    "  help      Print this message or the help of the given subcommand(s)",
    "",
    "Options:",
    "  -v, --verbose...  Increase log verbosity (-v debug, -vv trace). " ++
      "\x60RUST_LOG\x60 takes precedence",
    "  -h, --help        Print help",
    "  -V, --version     Print version",
    ""]

/-- What the program says about its command, where `standIn` is the input to take
when none is given. -/
def generateHelpText (standIn : Option String) : String :=
  "\n".intercalate [
    "Generate a Swagger document from a serialized API description",
    "",
    "Usage: swagger-gen generate [OPTIONS] --input <INPUT>",
    "",
    "Options:",
    "      --input <INPUT>    Path to the API description " ++
      "(\x60.json\x60, \x60.yaml\x60 or \x60.yml\x60) [env: SWAGGER_GEN_INPUT=" ++
      standIn.getD "" ++ "]",
    "  -v, --verbose...       Increase log verbosity (-v debug, -vv trace). " ++
      "\x60RUST_LOG\x60 takes precedence",
    "      --output <OUTPUT>  Output path. JSON unless the extension is " ++
      "\x60.yaml\x60/\x60.yml\x60; stdout when omitted",
    "  -h, --help             Print help",
    ""]

/-- A word that no flag and no value fits. -/
def unexpectedWord (word : String) : Invocation :=
  misuse ("unexpected argument '" ++ word ++ "' found")

/-- An option without the value it needs. -/
def missingValue (name : String) : Invocation :=
  misuse ("a value is required for '--" ++ name ++ "' but none was supplied")

/-- The number of steps in verbosity that flags of one letter ask for, or the
answer to the first of them that is something else. -/
def readLetters (other : Char → Invocation) : List Char → Except Invocation Nat
  | [] => .ok 0
  | c :: rest => if c = 'v' then (readLetters other rest).map (· + 1) else .error (other c)

/-- The answer to a flag of one letter in front of the command. -/
def leadingLetter (c : Char) : Invocation :=
  if c = 'h' then information helpText
  else if c = 'V' then information versionText
  else unexpectedWord (String.ofList ['-', c])

/-- The answer to a flag of one letter behind the command. -/
def trailingLetter (standIn : Option String) (c : Char) : Invocation :=
  if c = 'h' then information (generateHelpText standIn)
  else unexpectedWord (String.ofList ['-', c])

/-- Settings of the command that have been read. -/
structure Settings where
  /-- The steps in verbosity asked for in front of the command. -/
  leading : Nat := 0
  /-- The steps in verbosity asked for behind the command. -/
  trailing : Nat := 0
  input : Option String := none
  output : Option String := none
  deriving DecidableEq, Repr

namespace Settings

/-- Whether a name is that of an option with a value. -/
def takesValue (name : String) : Bool :=
  name == "input" || name == "output"

/-- Take the value of an option, which must not be empty and must be given only
once. -/
def assign (s : Settings) (name value : String) : Except Invocation Settings :=
  let again := misuse ("the argument '--" ++ name ++ "' cannot be used multiple times")
  if value = "" then .error (missingValue name)
  else if name = "input" then
    if s.input.isSome then .error again else .ok { s with input := some value }
  else
    if s.output.isSome then .error again else .ok { s with output := some value }

/-- The verbosity: steps behind the command count instead of those in front. -/
def verbosity (s : Settings) : Nat :=
  if s.trailing = 0 then s.leading else s.trailing

/-- What the settings ask for, with the input that stands in where none is
given. -/
def invocation (s : Settings) (standIn : Option String) : Invocation :=
  match s.input <|> standIn with
  | some "" => missingValue "input"
  | some input => generate s.verbosity input s.output
  | none => misuse "the argument '--input' is required"

end Settings

/-- Read the words behind the command. -/
def readSettings (standIn : Option String) (s : Settings) : List String → Invocation
  | [] => s.invocation standIn
  | word :: rest =>
    match Word.ofText word with
    | .stop => rest.head?.elim (s.invocation standIn) unexpectedWord
    | .plain => unexpectedWord word
    | .letters flags =>
      match readLetters (trailingLetter standIn) flags with
      | .ok steps => readSettings standIn { s with trailing := s.trailing + steps } rest
      | .error answer => answer
    | .named "verbose" none => readSettings standIn { s with trailing := s.trailing + 1 } rest
    | .named "help" none => information (generateHelpText standIn)
    | .named name (some value) =>
      if !Settings.takesValue name then unexpectedWord word
      else
        match s.assign name value with
        | .ok next => readSettings standIn next rest
        | .error answer => answer
    | .named name none =>
      if !Settings.takesValue name then unexpectedWord word
      else
        match rest with
        | [] => missingValue name
        | value :: more =>
          if Word.ofText value != .plain then missingValue name
          else
            match s.assign name value with
            | .ok next => readSettings standIn next more
            | .error answer => answer

/-- Read the words in front of the command and then those behind it. -/
def readWords (standIn : Option String) (leading : Nat) : List String → Invocation
  | [] => misuse "a subcommand is required but none was supplied"
  | "generate" :: rest => readSettings standIn { leading := leading } rest
  | ["help"] => information helpText
  | ["help", "generate"] => information (generateHelpText standIn)
  | word :: rest =>
    match Word.ofText word with
    | .plain => misuse ("unrecognized subcommand '" ++ word ++ "'")
    | .stop => unexpectedWord word
    | .letters flags =>
      match readLetters leadingLetter flags with
      | .ok steps => readWords standIn (leading + steps) rest
      | .error answer => answer
    | .named "verbose" none => readWords standIn (leading + 1) rest
    | .named "help" none => information helpText
    | .named "version" none => information versionText
    | .named _ _ => unexpectedWord word

/-- Read a command line, where `standIn` is the input to take when none is
given. -/
def ofWords (standIn : Option String) (words : List String) : Invocation :=
  readWords standIn 0 words

end Invocation

end ApiDoc
