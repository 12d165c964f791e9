import RecordSchema.CommandLine.Run

/-!
# The program

Looks at the environment, reads the files that the arguments and the environment name, and shows
the outcome of the run.
-/

namespace RecordSchema

/-- The entries of an environment as the system lists them: a name, an equals sign and a text, each
entry with a null character at its end. -/
def environmentEntries (listing : String) : List (String × String) :=
  (listing.toList.splitOn '\x00').filterMap fun entry =>
    match entry.dropWhile (· ≠ '=') with
    | _ :: value => some (String.ofList (entry.takeWhile (· ≠ '=')), String.ofList value)
    | [] => none

/-- The directory of the user's own settings. -/
def settingsDirectory (environment : List (String × String)) : String :=
  match environment.lookup "XDG_CONFIG_HOME" with
  | some directory =>
    if directory.toList.head? = some '/' then directory ++ "/cql-schema"
    else (environment.lookup "HOME").getD "" ++ "/.config/cql-schema"
  | none => (environment.lookup "HOME").getD "" ++ "/.config/cql-schema"

/-- The text of a file, if it can be read. -/
def readIfPossible (name : String) : IO (Option (String × String)) := do
  try return some (name, ← IO.FS.readFile name)
  catch _ => return none

end RecordSchema

open RecordSchema in
/-- Runs the program. -/
def main (arguments : List String) : IO UInt32 := do
  let listing ← readIfPossible "/proc/self/environ"
  let environment := environmentEntries (listing.getD ("", "")).2
  let directory := settingsDirectory environment
  let files ← match Invocation.ofArguments arguments with
    | .ok invocation =>
      let empty := Workspace.ofFiles [] [] environment directory
      (invocation.fileNames empty).filterMapM readIfPossible
    | .error _ => pure []
  let outcome := Outcome.ofArguments arguments (Workspace.ofFiles files [] environment directory)
  IO.print outcome.output
  match outcome.message with
  | some message => IO.eprintln ("Error: " ++ message)
  | none => pure ()
  return outcome.exitCode.toUInt32
