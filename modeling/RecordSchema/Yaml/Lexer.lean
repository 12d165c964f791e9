import RecordSchema.Yaml.Scalar

/-!
# Reading the tokens of YAML

Tokens are read one after the other. Before each of them blanks, comments and line ends are passed
over, and the column that is reached closes the blocks to the right of it. A key opens a block when
the colon behind it is reached; a hyphen opens one at once.

## Main definitions

* `Yaml.Scan.nextToken`: reading one token and what its place implies.
* `Yaml.tokens?`: the tokens of a whole text, or `none` when it cannot be read.

## Termination

The loops take a bound on the number of their rounds; each round takes at least one character.
-/

namespace RecordSchema

namespace Yaml

namespace Scan

/-- Goes over blanks, comments and line ends up to the next token. A tab must not indent a line with
content in a block. -/
def toNextToken : Nat → Scan Unit
  | 0 => failure
  | fuel + 1 => do
    let c ← peek 0
    let cursor ← get
    if c = '\t' && !cursor.indents.isEmpty && cursor.lineBlank && cursor.column < cursor.indent then
      let _ ← skipToEnd true
      if !isEnd (← peek 0) then failure
      toNextToken fuel
    else if isBlank c then
      stepBlank
      toNextToken fuel
    else if isBreak c then
      stepBreak
      if !(← inFlow) then allowKey true
      toNextToken fuel
    else if c = '#' then
      skipComment
      toNextToken fuel

/-- Goes over everything up to the next token. -/
def skipGap : Scan Unit := do
  toNextToken ((← get).rest.length + 1)

/-! ## Directives and tags -/

/-- Whether a character may be part of a tag. -/
def isTagChar (c : Char) : Bool :=
  c.isAlphanum || "-#;/?:@&=+$_.~*'()%".toList.contains c

/-- Whether a character may be part of what a handle stands for. -/
def isMeaningChar (c : Char) : Bool :=
  isTagChar c || ",![]".toList.contains c

/-- An octet of an escape in a tag. -/
def octet : Scan Nat := do
  match (← get).rest with
  | '%' :: a :: b :: _ =>
    let high ← Json.hexValue? a
    let low ← Json.hexValue? b
    steps 3
    return 16 * high + low
  | _ => failure

/-- The value of further octets of an escape in a tag behind the bits of the first one. -/
def octets : Nat → Nat → Scan Nat
  | 0, value => return value
  | count + 1, value => do
    let next ← octet
    if next / 64 ≠ 2 then failure
    octets count (value * 64 + next % 64)

/-- The character of an escape in a tag. -/
def tagEscape : Scan Char := do
  let first ← octet
  let code ←
    if first < 0x80 then pure first
    else if first / 32 = 6 then octets 1 (first % 32)
    else if first / 16 = 14 then octets 2 (first % 16)
    else if first / 8 = 30 then octets 3 (first % 8)
    else failure
  if code < 0xD800 || (0xE000 ≤ code && code < 0x110000) then return Char.ofNat code else failure

/-- Characters of a kind without escapes, the last one first. -/
def tagRun (isKind : Char → Bool) : Nat → List Char → Scan (List Char)
  | 0, _ => failure
  | fuel + 1, run => do
    let c ← peek 0
    if !isKind c then return run
    else if c = '%' then tagRun isKind fuel ((← tagEscape) :: run)
    else
      step
      tagRun isKind fuel (c :: run)

/-- Characters of a kind without escapes. -/
def tagText (isKind : Char → Bool) : Scan String := do
  return String.ofList (← tagRun isKind ((← get).rest.length + 1) []).reverse

/-- A handle: an exclamation mark, and a word with another one behind it or not. -/
def tagHandle : Scan String := do
  if (← peek 0) ≠ '!' then failure
  step
  let word ← takeRun isWordChar
  if (← peek 0) = '!' then
    step
    return String.ofList ('!' :: word ++ ['!'])
  else return String.ofList ('!' :: word)

/-- Whether a handle has an exclamation mark at its end that is not its first one. -/
def isNamedHandle (handle : String) : Bool :=
  2 ≤ handle.length && handle.toList.getLast? = some '!'

/-- The handle and the suffix of a tag. -/
def tag : Scan Token := do
  if (← peek 1) = '<' then
    steps 2
    let suffix ← tagText isMeaningChar
    if (← peek 0) ≠ '>' then failure
    step
    return .tag "" suffix
  let handle ← tagHandle
  let rest ← tagText isTagChar
  if isNamedHandle handle then
    if rest.isEmpty then failure
    return .tag handle rest
  else
    let suffix := String.ofList handle.toList.tail ++ rest
    return if suffix.isEmpty then .tag "" "!" else .tag "!" suffix

/-- A number of a version. -/
def versionNumber : Scan Unit := do
  let digits ← takeRun Char.isDigit
  if digits.isEmpty || 9 < digits.length then failure

/-- A directive from its name on. -/
def directive : Scan Token := do
  step
  let name ← takeRun isWordChar
  if name.isEmpty || !isGap (← peek 0) then failure
  if name = "YAML".toList then
    let _ ← takeBlanks isBlank
    versionNumber
    if (← peek 0) ≠ '.' then failure
    step
    versionNumber
    return .version
  else if name = "TAG".toList then
    let _ ← takeBlanks isBlank
    let handle ← tagHandle
    if handle ≠ "!" && !isNamedHandle handle then failure
    let _ ← takeBlanks isBlank
    let first ← peek 0
    if first ≠ '!' && !isTagChar first then failure
    let meaning ← tagText isMeaningChar
    if !isGap (← peek 0) then failure
    return .handle handle meaning
  else
    skipComment
    return .handle "" ""

/-! ## Structure -/

/-- Reads a directive and its line. -/
def readDirective : Scan Unit := do
  closeBlocks (-1)
  dropKey
  allowKey false
  let token ← directive
  let _ ← skipToEnd true
  if !isEnd (← peek 0) then failure
  if isBreak (← peek 0) then stepBreak
  emit token

/-- Reads the three characters at the start or end of a document. -/
def readDocumentMark (token : Token) : Scan Unit := do
  closeBlocks (-1)
  dropKey
  allowKey false
  steps 3
  emit token

/-- Reads an opening bracket or brace. -/
def readOpening (isList : Bool) : Scan Unit := do
  startKey
  indentContent
  if (← get).flows.length = 255 then failure
  modify fun cursor => { cursor with
    flows := isList :: cursor.flows, keys := none :: cursor.keys }
  allowKey true
  step
  let _ ← skipToEnd true
  emit (if isList then .flowList else .flowMap)

/-- Reads a closing bracket or brace. A value may follow at once if what it closes is a key. -/
def readClosing (isList : Bool) : Scan Unit := do
  dropKey
  if ← inFlow then
    modify fun cursor => { cursor with flows := cursor.flows.tail, keys := cursor.keys.tail }
  allowKey false
  step
  let _ ← skipToEnd true
  if ← inFlow then modify fun cursor => { cursor with adjacent := cursor.index }
  emit (if isList then .flowListEnd else .flowMapEnd)

/-- Reads a comma. -/
def readComma : Scan Unit := do
  dropKey
  allowKey true
  step
  let _ ← skipToEnd true
  emit .comma

/-- Reads the hyphen before an item. The name or tag of a list must not stand at the start of a line
when the list does so within a block. -/
def readItem : Scan Unit := do
  let column := (← get).column
  if (← inFlow) || !(← get).keyAllowed then failure
  if (← get).endsInProperty && column = 0 && 0 ≤ (← get).indent then failure
  step
  openBlock column none .blockList
  let tabs := (← skipToEnd true).contains '\t'
  if tabs && (← peek 0) = '-' && isGap (← peek 1) then failure
  if isBreak (← peek 0) || isFlowMark (← peek 0) then indentContent
  dropKey
  allowKey true
  emit .item

/-- Goes over blanks, comments and line ends behind a question mark, of which there must be some. -/
def skipAfterKeyMark : Nat → Bool → Scan Bool
  | 0, _ => failure
  | fuel + 1, found => do
    match ← peek 0 with
    | ' ' => stepBlank; skipAfterKeyMark fuel true
    | '#' => skipComment; skipAfterKeyMark fuel found
    | c =>
      if isBreak c then
        stepBreak
        if !(← inFlow) then allowKey true
        skipAfterKeyMark fuel true
      else return found

/-- Reads the question mark before a key. -/
def readKeyMark : Scan Unit := do
  let flow ← inFlow
  if !flow then
    if !(← get).keyAllowed then failure
    openBlock (← get).column none .blockMap
  dropKey
  allowKey (!flow)
  step
  if !(← skipAfterKeyMark ((← get).rest.length + 1) false) || (← peek 0) = '\t' then failure
  emit .key

/-- Reads the colon before a value. The key may have started at a place that was remembered; in
brackets it must be on the same line. -/
def readValueMark : Scan Unit := do
  let start ← get
  step
  if (← peek 0) = '\t' then
    let blanks ← skipToEnd true
    if !blanks.contains ' ' && isWordChar (← peek 0) then failure
  match start.keys.head?.join with
  | some mark =>
    if start.flows.head? = some true && mark.line < start.line then failure
    emitAt mark.token .key
    openBlock mark.column (some mark.token) .blockMap
    indentContent
    modify fun cursor => { cursor with keys := none :: cursor.keys.tail }
    allowKey false
  | none =>
    if start.flows.isEmpty then
      if !start.keyAllowed then failure
      openBlock start.column none .blockMap
    indentContent
    allowKey start.flows.isEmpty
  emit .value

/-- The name of a node after the mark before it. -/
def nodeName : Scan String := do
  startKey
  allowKey false
  step
  let name ← takeRun fun c => !isGap c && !isFlowMark c && c ≠ '\uFEFF'
  if name.isEmpty then failure
  return String.ofList name

/-- Reads an alias. -/
def readAlias : Scan Unit := do
  emit (.alias (← nodeName))

/-- Reads an anchor. -/
def readAnchor : Scan Unit := do
  let column := (← get).column
  emitProperty column (.anchor (← nodeName))

/-- Reads a tag. -/
def readTag : Scan Unit := do
  let column := (← get).column
  startKey
  allowKey false
  let token ← tag
  let c ← peek 0
  if !isGap c && !((← inFlow) && isFlowMark c) then failure
  emitProperty column token

/-- Reads an indented block of text. -/
def readBlock (literal : Bool) : Scan Unit := do
  startKey
  allowKey true
  let text ← block literal
  emit (.scalar false text)

/-- Reads a quoted scalar. A value may follow at once if it is a key. -/
def readQuoted (mark : Char) : Scan Unit := do
  startKey
  allowKey false
  let text ← quoted mark
  skipGap
  modify fun cursor => { cursor with adjacent := cursor.index }
  emit (.scalar false text)

/-- Reads a plain scalar. -/
def readPlain : Scan Unit := do
  startKey
  allowKey false
  let text ← plain
  emit (.scalar true text)

/-- Whether the colon here stands before a value. -/
def atValueMark : Scan Bool := do
  let following ← peek 1
  return isGap following || ((← inFlow)
    && (isFlowMark following || (← get).index = (← get).adjacent))

/-- Reads the token that starts here. -/
def readToken : Scan Unit := do
  let gapFollows := isGap (← peek 1)
  let flow ← inFlow
  match ← peek 0 with
  | '[' => readOpening true
  | '\x7b' => readOpening false
  | ']' => readClosing true
  | '\x7d' => readClosing false
  | ',' => readComma
  | '*' => readAlias
  | '&' => readAnchor
  | '!' => readTag
  | '\'' => readQuoted '\''
  | '"' => readQuoted '"'
  | '-' => if gapFollows then readItem else readPlain
  | '?' => if gapFollows then readKeyMark else readPlain
  | ':' => if ← atValueMark then readValueMark else readPlain
  | '|' => if flow then readPlain else readBlock true
  | '>' => if flow then readPlain else readBlock false
  | '%' | '@' | '\x60' => failure
  | _ => readPlain

/-- Goes to the next token and reads it; tells whether there was one. At the end of the text all
blocks are closed. -/
def nextToken : Scan Bool := do
  skipGap
  dropStaleKey
  closeBlocks (← get).column
  let c ← peek 0
  if c = '\x00' then
    if (← get).keys.any fun mark => (mark.map KeyMark.required).getD false then failure
    closeBlocks (-1)
    return false
  else if (← get).column = 0 && c = '%' then
    readDirective
    return true
  else if ← atMark '-' then
    readDocumentMark .documentStart
    return true
  else if ← atMark '.' then
    readDocumentMark .documentEnd
    let _ ← skipToEnd true
    if isEnd (← peek 0) then return true else failure
  else if (← get).column < (← get).indent then failure
  else
    readToken
    return true

/-- Reads tokens up to the end of the text. -/
def allTokens : Nat → Scan Unit
  | 0 => failure
  | fuel + 1 => do
    if ← nextToken then allTokens fuel

end Scan

/-- The tokens of a text. A zero character ends it. -/
def tokens? (text : String) : Option (List Token) :=
  let rest := text.toList.takeWhile (· ≠ '\x00')
  ((Scan.allTokens (rest.length + 2)).run { rest }).map fun (_, cursor) => cursor.tokens.toList

end Yaml

end RecordSchema
