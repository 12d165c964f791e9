/-!
# Tokens of YAML

A document is made of tokens: marks of its structure, scalars, and names. Indented blocks have marks
where they start and end, although nothing is written there.

## Main definitions

* `Yaml.Token`: the tokens.
-/

namespace RecordSchema

namespace Yaml

/-- A token. -/
inductive Token where
  /-- The line that tells the version of the notation. -/
  | version
  /-- A line that tells what a handle of tags stands for. -/
  | handle (name meaning : String)
  /-- The start of a document, three hyphens. -/
  | documentStart
  /-- The end of a document, three points. -/
  | documentEnd
  /-- The start of an indented list. -/
  | blockList
  /-- The start of an indented map. -/
  | blockMap
  /-- The end of an indented list or map. -/
  | blockEnd
  /-- An opening bracket. -/
  | flowList
  /-- A closing bracket. -/
  | flowListEnd
  /-- An opening brace. -/
  | flowMap
  /-- A closing brace. -/
  | flowMapEnd
  /-- The hyphen before an item of an indented list. -/
  | item
  /-- The comma between the parts of a list in brackets or a map in braces. -/
  | comma
  /-- The start of a key. -/
  | key
  /-- The colon before a value. -/
  | value
  /-- A name that stands for a node. -/
  | alias (name : String)
  /-- The name of the node that follows. -/
  | anchor (name : String)
  /-- The tag of the node that follows. -/
  | tag (handle suffix : String)
  /-- A scalar; a plain one has no quotation marks and is not set off as a block. -/
  | scalar (isPlain : Bool) (text : String)
deriving DecidableEq, Repr

end Yaml

end RecordSchema
