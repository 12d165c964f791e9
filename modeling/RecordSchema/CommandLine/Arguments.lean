import RecordSchema.CommandLine.Options
import RecordSchema.Decimal.Reader

/-!
# The arguments of a run

A run names a schema and a command. Options of the run come before the name of the command and
options of the command after it.

## Main definitions

* `Command`: what a run does.
* `Invocation`: everything that the arguments say.
* `Invocation.ofArguments`: the invocation of a list of arguments.
-/

namespace RecordSchema

/-- What a run does. -/
inductive Command where
  /-- Lists the declared fields. -/
  | paths
  /-- Compiles a SELECT statement. -/
  | select (table : String) (criteria : Option String) (fields : List String) (limit : Nat)
  /-- Compiles an INSERT statement. -/
  | insert (table record : String) (fields : List String)
  /-- Builds a default document. -/
  | build (projection : Option String)
deriving DecidableEq, Repr

/-- What the arguments of a run say. -/
structure Invocation where
  /-- The name of the file with the declaration. -/
  schema : String
  /-- The name of a configuration file. -/
  config : Option String
  /-- Whether column names are in lower case whatever the configuration says. -/
  insensitive : Bool
  /-- What is to be done. -/
  command : Command
deriving DecidableEq, Repr

namespace Invocation

/-- The options before the command. -/
def runOptions : List OptionShape :=
  [{ name := "schema", accepts := fun value => !value.isEmpty },
    { name := "config" },
    { name := "insensitive", letter := none, takesValue := false }]

/-- The names of the commands; `help` is one as well. -/
def commandNames : List String :=
  ["paths", "select", "insert", "build", "help"]

/-- The options after the name of a command. -/
def commandOptions : String → List OptionShape
  | "select" =>
    [{ name := "table" }, { name := "where" }, { name := "fields", repeats := true },
      { name := "limit", accepts := fun value => (readUInt64? value).isSome }]
  | "insert" => [{ name := "table" }, { name := "record" }, { name := "fields", repeats := true }]
  | "build" => [{ name := "projection" }]
  | _ => []

/-- The fields of lists with commas between them. -/
def splitFields (lists : List String) : List String :=
  lists.flatMap fun list => (list.toList.splitOn ',').map String.ofList

/-- The command with a name and the options that were given for it. -/
def commandOf (name : String) (reading : Reading) : Except Halt Command := do
  match name with
  | "select" =>
    return .select (← reading.require "table") (reading.value? "where")
      (splitFields (reading.values "fields"))
      (((reading.value? "limit").bind readUInt64?).getD 0)
  | "insert" =>
    return .insert (← reading.require "table") (← reading.require "record")
      (splitFields (reading.values "fields"))
  | "build" => return .build (reading.value? "projection")
  | _ => return .paths

/-- Reads the arguments after the name of a command. -/
def readCommand (name : String) (arguments : List String) : Except Halt Command := do
  let (reading, _) ← readLevel (commandOptions name) [] {} arguments
  commandOf name (← reading.settle)

/-- What `help` does with the arguments after it: it may be followed by the name of a command. -/
def haltOfHelp : List String → Halt
  | [] => .help
  | [name] => if commandNames.contains name then .help else .misuse
  | _ => .misuse

/-- The invocation of a list of arguments. -/
def ofArguments (arguments : List String) : Except Halt Invocation := do
  match ← readLevel runOptions commandNames {} arguments with
  | (_, none) => throw .misuse
  | (_, some ("help", rest)) => throw (haltOfHelp rest)
  | (reading, some (name, rest)) =>
    let command ← readCommand name rest
    let reading ← reading.settle
    return {
      schema := ← reading.require "schema"
      config := reading.value? "config"
      insensitive := (reading.value? "insensitive").isSome
      command }

/-- How the program is used. -/
def usage : String :=
  "Compile CQL statements from a JSON schema declaration\n\n"
    ++ "Usage: schema-compile [OPTIONS] --schema <SCHEMA> <COMMAND>\n"

end Invocation

end RecordSchema
