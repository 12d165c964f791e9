import RecordSchema.Statement
import RecordSchema.Workspace

/-!
# Configuration

A configuration says how column names are derived and how statements are compiled. It is saved as
a TOML document with one table for each of the two.

## Main definitions

* `ConfigFault`: why a configuration cannot be loaded.
* `Config`: the two groups of settings.
* `Config.document`: the configuration as a TOML document.
* `Config.save?`: writing it to a file.
-/

namespace RecordSchema

/-- Why a configuration cannot be loaded. -/
inductive ConfigFault where
  /-- A file is missing or cannot be read in its format, or a setting does not fit. -/
  | unusable
  /-- A list has no such position, or a key in a file is neither a text nor a whole number. The run
  breaks off. -/
  | broken
deriving DecidableEq, Repr

/-- How schemas are built and statements are compiled. -/
structure Config where
  /-- How schemas are built. -/
  schema : SchemaOptions := {}
  /-- How statements are compiled. -/
  compiler : CompilerSettings := {}
deriving DecidableEq, Repr

namespace Config

/-- The configuration as an object. -/
def toJson (config : Config) : Json :=
  .obj [("schema", .obj [("insensitive", .bool config.schema.insensitive)]),
    ("compiler", config.compiler.toJson)]

/-- A truth value as a word. -/
def flagText (flag : Bool) : String :=
  if flag then "true" else "false"

/-- The configuration as a TOML document. -/
def document (config : Config) : String :=
  "[schema]\ninsensitive = " ++ flagText config.schema.insensitive
    ++ "\n\n[compiler]\ntrace_queries = " ++ flagText config.compiler.traceQueries
    ++ "\ndefault_limit = " ++ decimalText config.compiler.defaultLimit ++ "\n"

/-- The surroundings after the configuration was saved under a name. The whole numbers of a TOML
document are signed 64-bit words, so a limit of `2 ^ 63` or more cannot be saved. -/
def save? (config : Config) (name : String) (workspace : Workspace) : Option Workspace :=
  if Word64.fitsSigned config.compiler.defaultLimit then workspace.write? name config.document
  else none

end Config

end RecordSchema
