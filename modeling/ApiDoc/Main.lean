/-
# The executable

Runs the program on the disk: the log and the errors go to the standard error,
the document to the standard output or to a file.
-/

import ApiDoc.Command.Program

namespace ApiDoc

/-- Catch a refusal of the file system as a text. -/
def refusalOf {α : Type} (action : IO α) : IO (Except String α) := do
  try
    return .ok (← action)
  catch e =>
    return .error (toString e)

/-- Read a file of the disk.  A name that runs through something other than a
directory leads to nothing. -/
def readDisk (name : String) : IO (Except ReadFailure String) := do
  try
    return .ok (← IO.FS.readFile name)
  catch
    | .noFileOrDirectory .. => return .error .missing
    | .inappropriateType _ 20 _ => return .error .missing
    | e => return .error (.refused (toString e))

/-- The disk as a file system. -/
def diskSystem : FileSystem IO where
  readText := readDisk
  makeDirectories name := refusalOf (IO.FS.createDirAll name)
  writeText name content := refusalOf (IO.FS.writeFile name content)

/-- A line of the log. -/
def Event.line (e : Event) : String :=
  let fields := e.fields.map fun f => " " ++ f.1 ++ "=" ++ f.2.compact
  e.target ++ ": " ++ e.message ++ String.join fields

end ApiDoc

open ApiDoc in
/-- Run the program on the disk and in the environment of the process. -/
def main (words : List String) : IO UInt32 := do
  let env : Environment :=
    { logFilter := ← IO.getEnv Environment.logFilterName
      input := ← IO.getEnv Environment.inputName }
  let exit ← Exit.ofRun diskSystem env words
  for e in exit.shown do
    IO.eprintln e.line
  IO.print exit.output
  if let some e := exit.error then
    IO.eprintln ("Error: " ++ e.message)
  if let some reason := exit.misuse then
    IO.eprintln ("error: " ++ reason)
  return exit.code.toUInt32
