/-
# The program

A run of the program is given by its words and two variables of its environment.
It ends with an exit code, the text on its standard output and the events that
its log shows.
-/

import ApiDoc.Command.Arguments
import ApiDoc.Command.Generate
import ApiDoc.Command.LogFilter

namespace ApiDoc

/-- What the program looks at in its environment. -/
structure Environment where
  /-- The filter of the log, which comes before any verbosity. -/
  logFilter : Option String := none
  /-- The input to take when none is given. -/
  input : Option String := none

/-- The name of the variable for the filter of the log. -/
def Environment.logFilterName : String := "RUST_LOG"

/-- The name of the variable for the input. -/
def Environment.inputName : String := "SWAGGER_GEN_INPUT"

/-- How a run of the program ends. -/
structure Exit where
  /-- The exit code: zero for success, one for an error, two for misuse. -/
  code : Nat
  output : String := ""
  shown : List Event := []
  /-- The error of the command, if it failed. -/
  error : Option Error := none
  /-- What is wrong with the command line, if it was misused. -/
  misuse : Option String := none

/-- The filter of the log for a verbosity. -/
def Environment.filter (env : Environment) (verbosity : Nat) : LogFilter :=
  match env.logFilter with
  | some text => LogFilter.ofText text
  | none => LogFilter.ofVerbosity verbosity

/-- Run the program. -/
def Exit.ofRun {m : Type → Type} [Monad m] (fs : FileSystem m) (env : Environment)
    (words : List String) : m Exit := do
  match Invocation.ofWords env.input words with
  | .misuse reason => return { code := 2, misuse := some reason }
  | .information text => return { code := 0, output := text }
  | .generate verbosity input output =>
    let result ← CommandResult.run fs input output
    return {
      code := if result.error.isSome then 1 else 0
      output := result.output
      shown := result.events.filter (env.filter verbosity).shows
      error := result.error }

end ApiDoc
