/-
# The command that generates a document

The command reads a description from a file, generates its document and writes
it to a file or to the standard output.  Nothing is written unless everything
before has succeeded.  The file system is a parameter: the same command runs on a
tree of files and on a disk.
-/

import ApiDoc.Command.FileTree
import ApiDoc.Generate.Document
import ApiDoc.Json.Printer
import ApiDoc.Json.Reader
import ApiDoc.Spec.Decode
import ApiDoc.Text.Quoted
import ApiDoc.Yaml.NodeReader
import ApiDoc.Yaml.Printer
import ApiDoc.Yaml.Repetition

namespace ApiDoc

/-- What the command needs of a file system.  A text in place of a change says why
it is refused. -/
structure FileSystem (m : Type → Type) where
  readText : String → m (Except ReadFailure String)
  /-- Make a directory and those it is in, as far as they are missing. -/
  makeDirectories : String → m (Except String Unit)
  writeText : String → String → m (Except String Unit)

/-- What a run of the command leaves besides files. -/
structure CommandResult where
  events : List Event := []
  /-- What has been written to the standard output. -/
  output : String := ""
  /-- The error that ended the run, if one did. -/
  error : Option Error := none

/-- Read a description from the text of a file in a format. -/
def Spec.ofText (name : String) (format : Format) (text : String) : Except Error Spec :=
  let invalid (kind reason : String) : Error :=
    .serialization ("Invalid " ++ kind ++ " in " ++ Text.quoted name ++ ": " ++ reason)
  match format with
  | .json =>
    match JsonText.read? text with
    | none => .error (invalid "JSON" "the text is not a JSON value")
    | some v => (Spec.decode v).mapError fun e => invalid "JSON" e.message
  | .yaml =>
    match Yaml.Part.read? text with
    | none => .error (invalid "YAML" "the text is not a YAML document")
    | some v =>
      if v.repeatsTooOften then .error (invalid "YAML" "aliases are repeated too often")
      else (Spec.decode v).mapError fun e => invalid "YAML" e.message

/-- The text of a document in a format. -/
def Document.render (d : Document) : Format → String
  | .json => d.toJson.pretty
  | .yaml => Yaml.render d.toJson

namespace CommandResult

/-- A run that ended with an error. -/
def failed (events : List Event) (e : Error) : CommandResult :=
  { events := events, error := some e }

variable {m : Type → Type} [Monad m]

/-- Read the description in a file. -/
def load (fs : FileSystem m) (input : String) : m (Except Error Spec) := do
  match ← fs.readText input with
  | .error .missing =>
    return .error (.general ("API description not found: " ++ Text.quoted input))
  | .error (.refused reason) => return .error (.io reason)
  | .ok text => return Spec.ofText input (FileName.format input) text

/-- Write a text to a file, making the directory it is in. -/
def save (fs : FileSystem m) (output text : String) : m (Except Error Unit) := do
  let ready ←
    match FileName.parent? output with
    | some directory => fs.makeDirectories directory
    | none => pure (.ok ())
  match ready with
  | .error reason => return .error (.io reason)
  | .ok () =>
    match ← fs.writeText output text with
    | .error reason => return .error (.io reason)
    | .ok () => return .ok ()

/-- Run the command. -/
def run (fs : FileSystem m) (input : String) (output : Option String) : m CommandResult := do
  match ← load fs input with
  | .error e => return failed [] e
  | .ok spec =>
    let generated := spec.document
    match generated.outcome with
    | .error e => return failed generated.events e
    | .ok d =>
      match output with
      | none => return { events := generated.events, output := d.render .json ++ "\n" }
      | some name =>
        match ← save fs name (d.render (FileName.format name)) with
        | .error e => return failed generated.events e
        | .ok () => return { events := generated.events ++ [.documentWritten name] }

end CommandResult

/-- The file system that a tree of files is. -/
def FileTree.system : FileSystem (StateM FileTree) where
  readText name := return (← get).readText name
  makeDirectories name := modifyGet fun t => t.makeDirectories name
  writeText name content := modifyGet fun t => t.writeText name content

end ApiDoc
