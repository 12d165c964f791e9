import RecordSchema.Config.Format
import RecordSchema.Config.KeyPath
import RecordSchema.Config.Reading
import RecordSchema.Text.Replace

/-!
# The sources of a configuration

A configuration is gathered from several sources, and a later one wins: the files in the directory
of the run, the user's own file, a file that the run names, and the environment. The files that a
run does not name may be missing. A file that is there must be readable in its format.

A file is looked up under its exact name when it is there, and otherwise with the endings of the
known formats. The first source that cannot be read ends the loading.

## Main definitions

* `Config.findFile?`: the file that a name stands for.
* `Config.addFile`, `Config.addVariable`: setting what a file and a variable hold.
* `Config.load`: the configuration of a run.
-/

namespace RecordSchema

namespace Config

/-- The files of the directory of a run, in the order in which they are read. -/
def standardFiles : List String :=
  ["cql-schema.toml", ".cql-schema.toml", "config/cql-schema.toml"]

/-- The start of the names of environment variables with settings, in lower case. -/
def variableStart : String := "cql_schema__"

/-- The segments of a name up to its last one that leads somewhere, in reverse. -/
def ownSegments (name : String) : List String :=
  (Place.segments name).reverse.dropWhile fun segment => segment = "" || segment = "."

/-- The format that the ending of a name tells. Something must come before the ending. -/
def formatOf? (name : String) : Option ConfigFormat :=
  let own := (ownSegments name).head?.getD ""
  (ConfigFormat.endings.find? fun (ending, _) =>
    ending.length < own.length && ending.toList.isSuffixOf own.toList).map Prod.snd

/-- A name with an ending behind its own segment; there is none if it leads up or nowhere. -/
def withEnding? (name ending : String) : Option String :=
  match ownSegments name with
  | [] | ".." :: _ => none
  | segments => some (String.intercalate "/" segments.reverse ++ ending)

/-- The file that a name stands for, and its format: the exact name when such a file is there, else
the first known ending that leads to a file. -/
def findFile? (workspace : Workspace) (name : String) : Option (ConfigFormat × String) :=
  match workspace.read? name with
  | some text => (formatOf? name).map fun format => (format, text)
  | none => ConfigFormat.endings.findSome? fun (ending, format) =>
      ((withEnding? name ending).bind workspace.read?).map fun text => (format, text)

/-- The text without a byte order mark at its start. -/
def withoutMark (text : String) : String :=
  match text.toList with
  | '\uFEFF' :: rest => String.ofList rest
  | _ => text

/-- Sets the value at a path. -/
def assign (settings : Json) (path : KeyPath) (value : Json) : Except ConfigFault Json :=
  match path.set? value settings with
  | some settings => .ok settings
  | none => .error .broken

/-- Sets what a file holds; its keys are key paths. -/
def addFile (settings : Json) (file : ConfigFormat × String) : Except ConfigFault Json := do
  let fields ← file.1.parse (withoutMark file.2)
  fields.foldlM (fun settings (key, value) => assign settings (KeyPath.ofText key) value) settings

/-- Sets what the file with a name holds, if there is one. -/
def addOptional (workspace : Workspace) (settings : Json) (name : String) :
    Except ConfigFault Json :=
  match findFile? workspace name with
  | some file => addFile settings file
  | none => .ok settings

/-- Sets what the file with a name holds; it has to be there. -/
def addRequired (workspace : Workspace) (settings : Json) (name : String) :
    Except ConfigFault Json :=
  match findFile? workspace name with
  | some file => addFile settings file
  | none => .error .unusable

/-- The value that a text in the environment stands for: a truth value, a number, or itself. -/
def variableValue (text : String) : Json :=
  let word := lowerText text
  if word = "true" then .bool true
  else if word = "false" then .bool false
  else
    match readInt64? text, readFloat? text with
    | some n, _ => .ofInt n
    | none, some x => .num (.float x)
    | none, none => .str text

/-- The key path that the name of a variable stands for, if it is the name of a setting: two
underscores stand between the parts of the path. -/
def variablePath? (name : String) : Option KeyPath :=
  let lower := lowerText name
  if variableStart.toList.isPrefixOf lower.toList then
    let rest := String.ofList (lower.toList.drop variableStart.length)
    some (KeyPath.ofText (replaceWord rest "__" "."))
  else none

/-- Sets what a variable holds, if its name is that of a setting. -/
def addVariable (settings : Json) (entry : String × String) : Except ConfigFault Json :=
  match variablePath? entry.1 with
  | some path => assign settings path (variableValue entry.2)
  | none => .ok settings

/-- The name of the user's own file. -/
def userFile (workspace : Workspace) : String :=
  workspace.userDirectory ++ "/cql-schema.toml"

/-- The files that a run may go without, in the order in which they are read: the user's own file is
looked for only under its exact name, which may be that of a directory. -/
def optionalFiles (workspace : Workspace) : List String :=
  standardFiles ++ if workspace.has (userFile workspace) then [userFile workspace] else []

/-- The settings of a run from all its sources; `named` is the file that the run names, if any. -/
def gather (workspace : Workspace) (named : Option String) : Except ConfigFault Json := do
  let settings ← (optionalFiles workspace).foldlM (addOptional workspace) (.obj [])
  let settings ← named.toList.foldlM (addRequired workspace) settings
  workspace.environment.foldlM addVariable settings

/-- The configuration of a run; `named` is the file that the run names, if any. -/
def load (workspace : Workspace) (named : Option String) : Except ConfigFault Config := do
  let settings ← gather workspace named
  match ofFields? (settings.asFields?.getD []) with
  | some config => .ok config
  | none => .error .unusable

end Config

end RecordSchema
