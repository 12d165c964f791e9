import RecordSchema.Decimal.Reader
import RecordSchema.Yaml.Lexer

/-!
# Nodes of YAML

A document is a node: a scalar, a list or a map, whose keys are nodes as well. A node may have a
name, and an alias with this name stands for the same node; inside of the node that has the name it
stands for nothing. A plain scalar is what its text looks like, unless a tag tells what it is to be.

## Main definitions

* `Yaml.Node`: the nodes.
* `Yaml.Node.ofPlain`: what a plain scalar is.
* `Yaml.documents?`: the node of a text, or `none` when the text is not a single document.

## Termination

The readers of nodes take a bound on the number of their steps, each of which takes at least one
token or goes into a node.
-/

namespace RecordSchema

namespace Yaml

/-- A node. -/
inductive Node where
  /-- The absent value. -/
  | null
  /-- A truth value. -/
  | bool (value : Bool)
  /-- A whole number that fits a signed 64-bit word. -/
  | int (value : Int)
  /-- The text of a floating point number. -/
  | float (text : String)
  /-- A text. -/
  | text (value : String)
  /-- A list. -/
  | list (items : List Node)
  /-- A map, its keys in order. -/
  | map (pairs : List (Node × Node))
  /-- A scalar that is not what its tag says, or an alias within its own node. -/
  | invalid

instance : Inhabited Node := ⟨.null⟩

namespace Node

mutual

/-- Whether two nodes are the same. -/
def same : Node → Node → Bool
  | null, null | invalid, invalid => true
  | bool a, bool b => a == b
  | int a, int b => a == b
  | float a, float b | text a, text b => a == b
  | list as, list bs => sameItems as bs
  | map as, map bs => samePairs as bs
  | _, _ => false

/-- Whether two lists of nodes are the same. -/
def sameItems : List Node → List Node → Bool
  | [], [] => true
  | a :: as, b :: bs => same a b && sameItems as bs
  | _, _ => false

/-- Whether two lists of pairs are the same. -/
def samePairs : List (Node × Node) → List (Node × Node) → Bool
  | [], [] => true
  | (k, v) :: as, (k', v') :: bs => same k k' && same v v' && samePairs as bs
  | _, _ => false

end

/-! ## Scalars -/

/-- Whether a node is no node. -/
def isInvalid : Node → Bool
  | invalid => true
  | _ => false

/-- The words for infinity and for what is no number. -/
def floatWords : List String :=
  [".inf", ".Inf", ".INF", "+.inf", "+.Inf", "+.INF", "-.inf", "-.Inf", "-.INF",
    ".nan", ".NaN", ".NAN"]

/-- Whether a text is a floating point number: one of the words, or a number with a digit. -/
def isFloat (s : String) : Bool :=
  floatWords.contains s || (s.toList.any Char.isDigit && (readFloat? s).isSome)

/-- A whole number in a base other than ten, which may have a sign. -/
def readBased? (base : Nat) (digits : List Char) : Option Int := do
  let (negative, body) := spanSign digits
  let values := body.filterMap Json.hexValue?
  if body.isEmpty || values.length ≠ body.length || values.any (base ≤ ·) then none
  let size : Int := (values.foldl (fun n d => n * base + d) 0 : Nat)
  let value := if negative then -size else size
  if Word64.fitsSigned value then some value else none

/-- The whole number that a plain scalar is: hexadecimal after `0x`, octal after `0o`, and decimal
otherwise, where another sign may follow a plus sign. -/
def readWhole? (s : String) : Option Int :=
  let marked := match s.toList with
    | '0' :: 'x' :: digits => readBased? 16 digits
    | '0' :: 'o' :: digits => readBased? 8 digits
    | '+' :: digits => readInt64? (String.ofList digits)
    | _ => none
  marked.or (readInt64? s)

/-- What a plain scalar is. -/
def ofPlain (s : String) : Node :=
  match s with
  | "~" | "null" => null
  | "true" => bool true
  | "false" => bool false
  | _ =>
    match readWhole? s with
    | some n => int n
    | none => if isFloat s then float s else text s

/-- What a plain scalar is whose tag says that it is a value of a kind that every document knows. -/
def ofKind (kind s : String) : Node :=
  match kind with
  | "bool" => if s = "true" then bool true else if s = "false" then bool false else invalid
  | "int" => ((readInt64? s).map int).getD invalid
  | "float" => if isFloat s then float s else invalid
  | "null" => if s = "~" || s = "null" then null else invalid
  | _ => text s

/-- What the handle of the kinds that every document knows stands for. -/
def commonHandle : String := "tag:yaml.org,2002:"

/-- What a scalar is that has the given tag, if any; `meaning` is what its handle stands for. Only
a plain one is anything but a text. -/
def ofScalar (isPlain : Bool) (s : String) (tag : Option (String × String)) : Node :=
  match isPlain, tag with
  | false, _ => text s
  | true, none => ofPlain s
  | true, some (meaning, suffix) => if meaning = commonHandle then ofKind suffix s else text s

/-- The pairs of keys and values that come in turn; a key that is invalid is passed over. A key
must not come twice. -/
def pairUp? (pairs : List (Node × Node)) (key : Option Node) :
    List Node → Option (List (Node × Node))
  | [] => some pairs
  | node :: rest =>
    match key with
    | none => pairUp? pairs (if node.isInvalid then none else some node) rest
    | some key =>
      if pairs.any fun pair => same pair.1 key then none
      else pairUp? (pairs ++ [(key, node)]) none rest

end Node

/-! ## Nodes from tokens -/

/-- A reader of tokens: the tokens to come and what has been named. -/
structure Reading where
  /-- The tokens to come. -/
  rest : List Token
  /-- What handles of tags stand for. -/
  handles : List (String × String) := []
  /-- The named nodes, the last name first; a node that is not finished is left out. -/
  named : List (String × Option Node) := []

/-- A step of reading tokens; it may fail. -/
abbrev NodeReader := StateT Reading Option

namespace NodeReader

/-- The next token. -/
def peek? : NodeReader (Option Token) := do
  return (← get).rest.head?

/-- Goes over a token. -/
def skip : NodeReader Unit :=
  modify fun reading => { reading with rest := reading.rest.tail }

/-- Goes over a given token if it comes next. -/
def accept (token : Token) : NodeReader Bool := do
  if (← peek?) = some token then
    skip
    return true
  else return false

/-- Whether one of the given tokens comes next. -/
def comes (tokens : List Token) : NodeReader Bool := do
  return ((← peek?).map tokens.contains).getD false

/-- The tag with the given parts: what its handle stands for, and its suffix. -/
def meaningOf (handle suffix : String) : NodeReader (String × String) := do
  match (← get).handles.lookup handle with
  | some meaning => return (meaning, suffix)
  | none =>
    if handle = "!!" then return (Node.commonHandle, suffix)
    else if Scan.isNamedHandle handle then failure
    else return (handle, suffix)

/-- The tag that comes next, if one does. -/
def tag? : NodeReader (Option (String × String)) := do
  match ← peek? with
  | some (.tag handle suffix) => skip; return some (← meaningOf handle suffix)
  | _ => return none

/-- Reads the anchor that comes next, if one does: opens its name and tells how many names there
were before. -/
def anchor? : NodeReader (Option Nat) := do
  match ← peek? with
  | some (.anchor name) =>
    skip
    let before := (← get).named.length
    modify fun reading => { reading with named := (name, none) :: reading.named }
    return some before
  | _ => return none

/-- The anchor and the tag before a node in either order. -/
def properties : NodeReader (Option Nat × Option (String × String)) := do
  match ← anchor? with
  | some before => return (some before, ← tag?)
  | none =>
    match ← tag? with
    | some tag => return (← anchor?, some tag)
    | none => return (none, none)

/-- Gives the node its name, if it has one. -/
def finish (anchor : Option Nat) (node : Node) : NodeReader Node := do
  match anchor with
  | none => return node
  | some before =>
    modify fun reading =>
      let place := reading.named.length - before - 1
      { reading with named := reading.named.modify place fun (name, _) => (name, some node) }
    return node

mutual

/-- A node. In a block it may be an indented one, and as a part of a map a list may start without
further indentation. -/
def node (inBlock inMap : Bool) : Nat → NodeReader Node
  | 0 => failure
  | fuel + 1 => do
    if let some (.alias name) ← peek? then
      skip
      match (← get).named.lookup name with
      | some found => return found.getD .invalid
      | none => failure
    let (anchor, tag) ← properties
    match ← peek? with
    | some (.scalar isPlain s) =>
      skip
      finish anchor (.ofScalar isPlain s tag)
    | some .flowList =>
      skip
      finish anchor (.list (← flowItems true [] fuel))
    | some .flowMap =>
      skip
      finish anchor (.map (← Node.pairUp? [] none (← flowParts true [] fuel)))
    | token =>
      if token = some .item && inMap then
        finish anchor (.list (← looseItems [] fuel))
      else if token = some .blockList && inBlock then
        skip
        finish anchor (.list (← blockItems [] fuel))
      else if token = some .blockMap && inBlock then
        skip
        finish anchor (.map (← Node.pairUp? [] none (← blockParts [] fuel)))
      else if anchor.isSome || tag.isSome then
        finish anchor (.ofScalar true "" tag)
      else failure

/-- A node, or null when one of the given tokens comes next. -/
def nodeOrNull (inBlock inMap : Bool) (ends : List Token) : Nat → NodeReader Node
  | 0 => failure
  | fuel + 1 => do
    if ← comes ends then return .null else node inBlock inMap fuel

/-- The items of an indented list, collected in reverse. -/
def blockItems (collected : List Node) : Nat → NodeReader (List Node)
  | 0 => failure
  | fuel + 1 => do
    if ← accept .blockEnd then return collected.reverse
    if !(← accept .item) then failure
    let item ← nodeOrNull true false [.item, .blockEnd] fuel
    blockItems (item :: collected) fuel

/-- The items of a list without further indentation, collected in reverse. -/
def looseItems (collected : List Node) : Nat → NodeReader (List Node)
  | 0 => failure
  | fuel + 1 => do
    if ← accept .item then
      let item ← nodeOrNull true false [.item, .key, .value, .blockEnd] fuel
      looseItems (item :: collected) fuel
    else return collected.reverse

/-- The keys and values of an indented map in turn, collected in reverse. -/
def blockParts (collected : List Node) : Nat → NodeReader (List Node)
  | 0 => failure
  | fuel + 1 => do
    if ← accept .blockEnd then return collected.reverse
    let key ←
      if ← accept .key then nodeOrNull true true [.key, .value, .blockEnd] fuel
      else if ← comes [.value] then pure .null
      else failure
    let value ←
      if ← accept .value then nodeOrNull true true [.key, .value, .blockEnd] fuel
      else pure .null
    blockParts (value :: key :: collected) fuel

/-- The items of a list in brackets, collected in reverse. A key with its value is a map. -/
def flowItems (isFirst : Bool) (collected : List Node) : Nat → NodeReader (List Node)
  | 0 => failure
  | fuel + 1 => do
    if ← accept .flowListEnd then return collected.reverse
    if !isFirst then
      if !(← accept .comma) then failure
      if ← accept .flowListEnd then return collected.reverse
    if ← comes [.key, .value] then
      let key ←
        if ← accept .key then nodeOrNull false false [.value, .comma, .flowListEnd] fuel
        else pure .null
      let value ←
        if ← accept .value then nodeOrNull false false [.comma, .flowListEnd] fuel
        else pure .null
      let pair ← Node.pairUp? [] none [key, value]
      flowItems false (.map pair :: collected) fuel
    else
      let item ← node false false fuel
      flowItems false (item :: collected) fuel

/-- The keys and values of a map in braces in turn, collected in reverse. -/
def flowParts (isFirst : Bool) (collected : List Node) : Nat → NodeReader (List Node)
  | 0 => failure
  | fuel + 1 => do
    if ← accept .flowMapEnd then return collected.reverse
    if !isFirst then
      if !(← accept .comma) then failure
      if ← accept .flowMapEnd then return collected.reverse
    if ← comes [.key, .value] then
      let key ←
        if ← accept .key then nodeOrNull false false [.value, .comma, .flowMapEnd] fuel
        else pure .null
      let value ←
        if ← accept .value then nodeOrNull false false [.comma, .flowMapEnd] fuel
        else pure .null
      flowParts false (value :: key :: collected) fuel
    else
      let key ← node false false fuel
      flowParts false (.null :: key :: collected) fuel

end

/-- The lines before a document: at most one version, and the handles of tags. The last handle
counts. -/
def directives (hasVersion : Bool) : Nat → NodeReader Unit
  | 0 => failure
  | fuel + 1 => do
    match ← peek? with
    | some .version =>
      if hasVersion then failure
      skip
      modify fun reading => { reading with handles := [] }
      directives true fuel
    | some (.handle name meaning) =>
      skip
      modify fun reading => { reading with handles := [(name, meaning)] }
      directives hasVersion fuel
    | _ => return

/-- Goes over the ends of documents. -/
def skipEnds : NodeReader Unit :=
  modify fun reading => { reading with rest := reading.rest.dropWhile (· = .documentEnd) }

/-- The node of the only document, or nothing when there is no document at all. -/
def document? (fuel : Nat) : NodeReader (Option Node) := do
  skipEnds
  if (← peek?).isNone then return none
  let before := (← get).rest.length
  directives false fuel
  let hasDirectives := (← get).rest.length < before
  let isExplicit ← accept .documentStart
  if hasDirectives && !isExplicit then failure
  let isEmpty ← do pure ((← peek?).isNone || (← comes [.version, .documentStart, .documentEnd]))
  let root ← if isExplicit && isEmpty then pure .null else node true false fuel
  skipEnds
  if (← peek?).isSome then failure
  return some root

end NodeReader

/-- The node of a text, or nothing when it holds no document. `none` when the text cannot be read or
holds several documents. -/
def documents? (text : String) : Option (Option Node) := do
  let tokens ← tokens? text
  let (found, _) ← (NodeReader.document? (3 * tokens.length + 4)).run { rest := tokens }
  return found

end Yaml

end RecordSchema
