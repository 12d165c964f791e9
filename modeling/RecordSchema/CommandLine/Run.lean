import RecordSchema.CommandLine.Arguments
import RecordSchema.Config.Sources
import RecordSchema.Document
import RecordSchema.Json.Parser
import RecordSchema.Schema.Declaration
import RecordSchema.Statement

/-!
# Running a command

A run loads the configuration, reads the declaration of the schema, and does what the command says.
The first step that fails ends the run with a message and exit code 1. A configuration that breaks
the run off ends it with exit code 101 and no message. A statement whose record has
failures is printed all the same, with exit code 2. Arguments that do not fit end with exit code 2
and print nothing.

## Main definitions

* `RunError`, `RunError.message?`: why a run fails.
* `Invocation.perform`: the result of a run.
* `Outcome`, `Outcome.ofArguments`: what a run shows.
-/

namespace RecordSchema

/-- Why a run fails. -/
inductive RunError where
  /-- The configuration cannot be loaded. -/
  | configuration (fault : ConfigFault)
  /-- A file cannot be read. -/
  | unreadable (name : String)
  /-- The declaration is not JSON. -/
  | declarationText
  /-- The declaration declares no schema. -/
  | declaration (name : String) (cause : SchemaError)
  /-- An argument is not JSON. -/
  | argumentText
  /-- The schema refuses an argument. -/
  | refused (cause : SchemaError)

namespace RunError

/-- The wording of an error, if it is reported. -/
def message? : RunError → Option String
  | configuration .unusable => some "failed to load configuration"
  | configuration .broken => none
  | unreadable name => some ("failed to read " ++ name)
  | declarationText => some "invalid schema JSON"
  | declaration name cause => some ("invalid schema " ++ name ++ ": " ++ cause.message)
  | argumentText => some "invalid JSON"
  | refused cause => some cause.message

/-- The exit code of a run that fails. -/
def exitCode : RunError → UInt8
  | configuration .broken => 101
  | _ => 1

end RunError

/-- What a successful run prints, and whether the record it was given is valid. -/
structure Printout where
  /-- The text. -/
  text : String
  /-- Whether no failures are reported in it. -/
  valid : Bool := true

/-- A value over several lines, with an end of line. -/
def Printout.ofJson (value : Json) : Printout :=
  { text := value.indented ++ "\n" }

/-- A statement over several lines. -/
def Printout.ofStatement (statement : Statement) : Printout :=
  { Printout.ofJson statement.toJson with valid := statement.isValid }

/-- A text filled up with blanks at its end. -/
def filled (width : Nat) (s : String) : String :=
  s ++ String.ofList (List.replicate (width - s.length) ' ')

/-- The line of the field declared at a path: path, column and type. -/
def Descriptor.line (path : String) (field : Descriptor) : String :=
  filled 30 path ++ " " ++ filled 30 field.column ++ " " ++ field.type.name
    ++ (if field.isRequired then " (required)" else "") ++ "\n"

/-- What the library answers to a run, with its errors as those of the run. -/
def refuse {α : Type} : Except SchemaError α → Except RunError α
  | .ok result => .ok result
  | .error cause => .error (.refused cause)

namespace Workspace

/-- The text of a file that must be there. -/
def require (workspace : Workspace) (name : String) : Except RunError String :=
  match workspace.read? name with
  | some text => .ok text
  | none => .error (.unreadable name)

/-- The value of an argument: JSON, or after an at sign the name of a file with JSON. -/
def argumentValue (workspace : Workspace) (argument : String) : Except RunError Json := do
  let text ← match argument.toList with
    | '@' :: name => workspace.require (String.ofList name)
    | _ => .ok argument
  match Json.parse text with
  | some value => .ok value
  | none => .error .argumentText

end Workspace

namespace Command

/-- The argument of a command that is a value, if it has one. -/
def argument? : Command → Option String
  | .paths => none
  | .select _ criteria _ _ => criteria
  | .insert _ record _ => some record
  | .build projection => projection

end Command

namespace Invocation

/-- The names of the files that a run may read. -/
def fileNames (invocation : Invocation) (workspace : Workspace) : List String :=
  let configs := Config.standardFiles ++ Config.userFile workspace :: invocation.config.toList
  let endings := ConfigFormat.endings.map Prod.fst
  let argument := match (invocation.command.argument?.getD "").toList with
    | '@' :: name => [String.ofList name]
    | _ => []
  configs ++ configs.flatMap (fun name => endings.filterMap (Config.withEnding? name))
    ++ invocation.schema :: argument

/-- The configuration of a run; the arguments may ask for lower case. -/
def configuration (invocation : Invocation) (workspace : Workspace) : Except RunError Config :=
  match Config.load workspace invocation.config with
  | .error fault => .error (.configuration fault)
  | .ok config => .ok { config with
      schema := { config.schema with
        insensitive := config.schema.insensitive || invocation.insensitive } }

/-- The schema of a run. -/
def loadSchema (invocation : Invocation) (workspace : Workspace) (options : SchemaOptions) :
    Except RunError Schema := do
  let text ← workspace.require invocation.schema
  match Json.parse text with
  | none => .error .declarationText
  | some declaration =>
    match Schema.ofDeclaration declaration options with
    | .ok schema => .ok schema
    | .error cause => .error (.declaration invocation.schema cause)

/-- What a command prints for a schema. -/
def execute (command : Command) (schema : Schema) (settings : CompilerSettings)
    (workspace : Workspace) : Except RunError Printout := do
  match command with
  | .paths =>
    return { text := String.join (schema.leafPaths.filterMap fun path =>
      (schema.find? path).map (Descriptor.line path)) }
  | .select table criteria fields limit =>
    let criteria ← match criteria with
      | some argument => workspace.argumentValue argument
      | none => .ok .null
    return .ofStatement (← refuse (schema.select settings table criteria fields limit))
  | .insert table record fields =>
    let record ← workspace.argumentValue record
    return .ofStatement (← refuse (schema.insert table record fields))
  | .build projection =>
    let projection ← match projection with
      | some argument => do
        let value ← workspace.argumentValue argument
        (refuse (Projection.ofJson value)).map some
      | none => .ok none
    return .ofJson (schema.build projection).1

/-- The result of a run. -/
def perform (invocation : Invocation) (workspace : Workspace) : Except RunError Printout := do
  let config ← invocation.configuration workspace
  let schema ← invocation.loadSchema workspace config.schema
  execute invocation.command schema config.compiler workspace

end Invocation

/-- What a run shows. -/
structure Outcome where
  /-- The exit code. -/
  exitCode : UInt8
  /-- What is printed. -/
  output : String := ""
  /-- The message of an error. -/
  message : Option String := none
deriving DecidableEq, Repr

namespace Outcome

/-- What the result of a run shows. -/
def ofResult : Except RunError Printout → Outcome
  | .ok printout => { exitCode := if printout.valid then 0 else 2, output := printout.text }
  | .error e => { exitCode := e.exitCode, message := e.message? }

/-- What a run with these arguments shows. -/
def ofArguments (arguments : List String) (workspace : Workspace) : Outcome :=
  match Invocation.ofArguments arguments with
  | .ok invocation => ofResult (invocation.perform workspace)
  | .error .help => { exitCode := 0, output := Invocation.usage }
  | .error .misuse => { exitCode := 2 }

end Outcome

end RecordSchema
