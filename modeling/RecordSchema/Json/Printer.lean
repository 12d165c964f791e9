import RecordSchema.Json.Basic
import RecordSchema.Decimal.Layout

/-!
# JSON text

A value is written on one line without spaces, or indented by two spaces a level. Both forms
keep the order of keys and write characters outside ASCII as they are.

## Main definitions

* `Json.compact`: the text on one line.
* `Json.indented`: the text over several lines; an empty list is `[]`, an empty object two braces.

## Termination

All functions descend on the value.
-/

namespace RecordSchema

/-- The four hexadecimal digits of an escaped control character. -/
def hexEscape (c : Char) : List Char :=
  let digit (n : Nat) : Char := (Nat.toDigits 16 n).headD '0'
  ['\\', 'u', '0', '0', digit (c.toNat / 16), digit (c.toNat % 16)]

/-- A character inside quotation marks. -/
def escapeChar (c : Char) : List Char :=
  if c = '"' then ['\\', '"']
  else if c = '\\' then ['\\', '\\']
  else if c = '\x08' then ['\\', 'b']
  else if c = '\x0c' then ['\\', 'f']
  else if c = '\n' then ['\\', 'n']
  else if c = '\r' then ['\\', 'r']
  else if c = '\t' then ['\\', 't']
  else if c.toNat < 0x20 then hexEscape c
  else [c]

/-- A text between quotation marks. -/
def quoted (s : String) : String :=
  String.ofList ('"' :: s.toList.flatMap escapeChar ++ ['"'])

/-- The text of a number. -/
def Number.text : Number → String
  | .int n => integerText n
  | .float x => FloatLayout.json.write x

namespace Json

mutual

/-- The value on one line, without spaces. -/
def compact : Json → String
  | null => "null"
  | bool b => if b then "true" else "false"
  | num n => n.text
  | str s => quoted s
  | arr items => "[" ++ compactItems items ++ "]"
  | obj fields => "\x7b" ++ compactFields fields ++ "\x7d"

/-- Items separated by commas. -/
def compactItems : List Json → String
  | [] => ""
  | [item] => compact item
  | item :: rest => compact item ++ "," ++ compactItems rest

/-- Key–value pairs separated by commas. -/
def compactFields : List (String × Json) → String
  | [] => ""
  | [(key, value)] => quoted key ++ ":" ++ compact value
  | (key, value) :: rest => quoted key ++ ":" ++ compact value ++ "," ++ compactFields rest

end

/-- A new line at the given level. -/
def lineAt (level : Nat) : String :=
  String.ofList ('\n' :: List.replicate (2 * level) ' ')

mutual

/-- The value over several lines, its closing bracket at `level`. -/
def indentedAt (level : Nat) : Json → String
  | arr [] => "[]"
  | arr items => "[" ++ indentedItems (level + 1) items ++ lineAt level ++ "]"
  | obj [] => "\x7b\x7d"
  | obj fields => "\x7b" ++ indentedFields (level + 1) fields ++ lineAt level ++ "\x7d"
  | null => "null"
  | bool b => if b then "true" else "false"
  | num n => n.text
  | str s => quoted s

/-- Items, each on a line of its own. -/
def indentedItems (level : Nat) : List Json → String
  | [] => ""
  | [item] => lineAt level ++ indentedAt level item
  | item :: rest => lineAt level ++ indentedAt level item ++ "," ++ indentedItems level rest

/-- Key–value pairs, each on a line of its own. -/
def indentedFields (level : Nat) : List (String × Json) → String
  | [] => ""
  | [(key, value)] => lineAt level ++ quoted key ++ ": " ++ indentedAt level value
  | (key, value) :: rest =>
    lineAt level ++ quoted key ++ ": " ++ indentedAt level value ++ "," ++ indentedFields level rest

end

/-- The value over several lines, indented by two spaces a level. -/
def indented (value : Json) : String :=
  value.indentedAt 0

/-- The value as it stands in a sentence: a text without its quotation marks, every other value
as compact JSON. -/
def shown : Json → String
  | str s => s
  | other => other.compact

end Json

end RecordSchema
