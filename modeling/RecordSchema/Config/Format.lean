import RecordSchema.Config.Basic
import RecordSchema.Decimal.Layout
import RecordSchema.Ini
import RecordSchema.Json5
import RecordSchema.Ron
import RecordSchema.Toml.Parser
import RecordSchema.Yaml.Node

/-!
# Formats of configuration files

A file is read in the format that its name ends in. Each format has values of its own; here they all
become the values of an object.

## Main definitions

* `ConfigFormat`: the formats and their endings.
* `Yaml.Node.toJson`: the value of a YAML node.
* `ConfigFormat.parse`: the settings in a text.

## Termination

The values of nodes descend on the nodes.
-/

namespace RecordSchema

namespace Yaml.Node

/-- The key that a node is in an object. -/
def asKey? : Node → Option String
  | text s => some s
  | int n => some (integerText n)
  | _ => none

mutual

/-- The value of a node. The words for infinity are no numbers here, and keys have to be texts or
whole numbers. -/
def toJson : Node → Except ConfigFault Json
  | null | invalid => .ok .null
  | bool b => .ok (.bool b)
  | int n => .ok (.ofInt n)
  | float s =>
    match readFloat? s with
    | some x => .ok (.num (.float x))
    | none => .error .unusable
  | text s => .ok (.str s)
  | list items => (itemsToJson items).map .arr
  | map pairs => (pairsToFields pairs []).map .obj

/-- The values of nodes. -/
def itemsToJson : List Node → Except ConfigFault (List Json)
  | [] => .ok []
  | item :: rest => do
    let item ← toJson item
    return item :: (← itemsToJson rest)

/-- The fields of pairs behind those that are there. -/
def pairsToFields : List (Node × Node) → Fields → Except ConfigFault Fields
  | [], fields => .ok fields
  | (key, value) :: rest, fields =>
    match key.asKey? with
    | none => .error .broken
    | some name => do
      let value ← toJson value
      pairsToFields rest (fields.put name value)

end

end Yaml.Node

/-- The formats of configuration files. -/
inductive ConfigFormat where
  /-- TOML documents. -/
  | toml
  /-- JSON texts. -/
  | json
  /-- YAML documents. -/
  | yaml
  /-- INI documents. -/
  | ini
  /-- RON texts. -/
  | ron
  /-- JSON5 texts. -/
  | json5
deriving DecidableEq, Repr

namespace ConfigFormat

/-- The endings of names of files and their formats, in the order in which they are tried. -/
def endings : List (String × ConfigFormat) :=
  [(".toml", toml), (".json", json), (".yaml", yaml), (".yml", yaml), (".ini", ini), (".ron", ron),
    (".json5", json5)]

/-- The settings in a value, which has to be an object. -/
def settings (value : Option Json) : Except ConfigFault Fields :=
  match value.bind Json.asFields? with
  | some fields => .ok fields
  | none => .error .unusable

/-- The settings in a YAML text. A text without a document has none. -/
def parseYaml (text : String) : Except ConfigFault Fields :=
  match Yaml.documents? text with
  | none => .error .unusable
  | some none => .ok []
  | some (some node) => do
    settings (some (← node.toJson))

/-- The settings in a text. -/
def parse (format : ConfigFormat) (text : String) : Except ConfigFault Fields :=
  match format with
  | toml => settings ((Toml.parse? text).map .obj)
  | json => settings (Json.parse text)
  | yaml => parseYaml text
  | ini => settings ((Ini.parse? text).map .obj)
  | ron => settings (Ron.parse? text)
  | json5 => settings (Json5.parse? text)

end ConfigFormat

end RecordSchema
