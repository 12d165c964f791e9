import RecordSchema.Yaml.Token

/-!
# The place in a YAML text

The structure of a YAML text follows from the columns in which its parts stand. A cursor is a place
in the text together with what has been read before it: the tokens, the columns of the open blocks,
the open brackets and braces, and the places where a key may have started. Whether a scalar is a key
shows only when the colon behind it is reached, so its place is kept until then.

## Main definitions

* `Yaml.Cursor`: the place and what has been read.
* `Yaml.Scan`: the steps that move a cursor; a step may fail.
* `Yaml.Scan.skipToEnd`: going over blanks and a comment up to the end of a line.
* `Yaml.Scan.openBlock`, `Yaml.Scan.closeBlocks`: how columns open and close blocks.
* `Yaml.Scan.startKey`, `Yaml.Scan.dropKey`: the place where a key may have started.
-/

namespace RecordSchema

namespace Yaml

/-! ## Kinds of characters -/

/-- Whether a character ends a line. -/
def isBreak (c : Char) : Bool :=
  c = '\n' || c = '\r'

/-- Whether a character ends a line or the text; the zero character stands for the end. -/
def isEnd (c : Char) : Bool :=
  isBreak c || c = '\x00'

/-- Whether a character is a blank or a tab. -/
def isBlank (c : Char) : Bool :=
  c = ' ' || c = '\t'

/-- Whether a character stands between the parts of a text. -/
def isGap (c : Char) : Bool :=
  isBlank c || isEnd c

/-- Whether a character is a mark in brackets and braces. -/
def isFlowMark (c : Char) : Bool :=
  c = ',' || c = '[' || c = ']' || c = '\x7b' || c = '\x7d'

/-- Whether a character may be part of a word. -/
def isWordChar (c : Char) : Bool :=
  c.isAlphanum || c = '_' || c = '-'

/-! ## The cursor -/

/-- The column of a block that lies around an open one, or of content that is indented in it. -/
structure Indent where
  /-- The column to go back to. -/
  column : Int
  /-- Whether the column was left for a block. -/
  isBlock : Bool

/-- A place where a key may have started. -/
structure KeyMark where
  /-- The number of the token there. -/
  token : Nat
  /-- The number of characters before it. -/
  index : Nat
  /-- Its line. -/
  line : Nat
  /-- Its column. -/
  column : Nat
  /-- Whether nothing but a key can stand there. -/
  required : Bool

/-- A place in a text and what has been read before it. -/
structure Cursor where
  /-- The characters to come. -/
  rest : List Char
  /-- The number of characters before. -/
  index : Nat := 0
  /-- The line. -/
  line : Nat := 0
  /-- The column. -/
  column : Nat := 0
  /-- Whether there are only blanks before on the line. -/
  lineBlank : Bool := true
  /-- The tokens so far. -/
  tokens : Array Token := #[]
  /-- Whether the last of them is an anchor or a tag at the start of a line. -/
  endsInProperty : Bool := false
  /-- The column of the open block, or one less than zero. -/
  indent : Int := -1
  /-- The columns around it, the nearest one first. -/
  indents : List Indent := []
  /-- The open brackets and braces, the nearest one first; true stands for a bracket. -/
  flows : List Bool := []
  /-- Whether a key may start here. -/
  keyAllowed : Bool := true
  /-- Where keys may have started outside of all brackets and in each of them, the nearest first. -/
  keys : List (Option KeyMark) := [none]
  /-- The place where a value may follow its key without a blank. -/
  adjacent : Nat := 0

/-- A step that moves a cursor; it may fail. -/
abbrev Scan := StateT Cursor Option

namespace Scan

/-- A character to come; the zero character stands for the end. -/
def peek (n : Nat) : Scan Char := do
  return (← get).rest[n]?.getD '\x00'

/-- Whether the cursor is inside of brackets or braces. -/
def inFlow : Scan Bool := do
  return !(← get).flows.isEmpty

/-- Goes over a blank. -/
def stepBlank : Scan Unit :=
  modify fun cursor => { cursor with
    rest := cursor.rest.tail, index := cursor.index + 1, column := cursor.column + 1 }

/-- Goes over a character that is no blank. -/
def step : Scan Unit := do
  stepBlank
  modify fun cursor => { cursor with lineBlank := false }

/-- Goes over several characters that are no blanks. -/
def steps : Nat → Scan Unit
  | 0 => return
  | count + 1 => do step; steps count

/-- Goes over the end of a line. -/
def stepBreak : Scan Unit := do
  if (← peek 0) = '\r' && (← peek 1) = '\n' then stepBlank
  modify fun cursor => { cursor with
    rest := cursor.rest.tail, index := cursor.index + 1, column := 0, line := cursor.line + 1,
    lineBlank := true }

/-- Goes over characters of a kind and collects them. -/
def takeRun (isKind : Char → Bool) : Scan (List Char) := do
  let run := (← get).rest.takeWhile isKind
  steps run.length
  return run

/-- Goes over blanks of a kind and collects them. -/
def takeBlanks (isKind : Char → Bool) : Scan (List Char) := do
  let run := (← get).rest.takeWhile isKind
  modify fun cursor => { cursor with
    rest := cursor.rest.drop run.length, index := cursor.index + run.length,
    column := cursor.column + run.length }
  return run

/-- Adds a token at the end. -/
def emit (token : Token) : Scan Unit :=
  modify fun cursor => { cursor with tokens := cursor.tokens.push token, endsInProperty := false }

/-- Adds an anchor or a tag that starts in a column at the end. -/
def emitProperty (column : Nat) (token : Token) : Scan Unit := do
  emit token
  modify fun cursor => { cursor with endsInProperty := column = 0 }

/-- Adds a token before the one with the given number. -/
def emitAt (place : Nat) (token : Token) : Scan Unit :=
  modify fun cursor => { cursor with
    tokens := (cursor.tokens.extract 0 place).push token ++ cursor.tokens.extract place }

/-- Says whether a key may start from here on. -/
def allowKey (allowed : Bool) : Scan Unit :=
  modify fun cursor => { cursor with keyAllowed := allowed }

/-- Goes over a comment up to the end of its line. -/
def skipComment : Scan Unit := do
  let _ ← takeRun fun c => !isEnd c

/-- Goes over blanks, over tabs if they are allowed, and over a comment behind them, and gives the
blanks. A comment needs a blank before it. -/
def skipToEnd (tabs : Bool) : Scan (List Char) := do
  let blanks ← takeBlanks fun c => c = ' ' || (tabs && c = '\t')
  if (← peek 0) = '#' then
    if blanks.isEmpty then failure
    skipComment
  return blanks

/-- Whether three given characters and a gap come next at the start of a line. -/
def atMark (mark : Char) : Scan Bool := do
  return (← get).column = 0 && (← get).rest.take 3 = [mark, mark, mark] && isGap (← peek 3)

/-- Whether a document starts or ends here. -/
def atDocumentMark : Scan Bool := do
  return (← atMark '-') || (← atMark '.')

/-! ## Columns -/

/-- Leaves the columns of indented content that opened no block. -/
def leaveContent : Scan Unit :=
  modify fun cursor =>
    match cursor.indents.takeWhile (!·.isBlock) with
    | [] => cursor
    | content => { cursor with
        indent := (content.getLast?.map Indent.column).getD cursor.indent
        indents := cursor.indents.drop content.length }

/-- Opens a block at a column if it is to the right of the open one; the token for it comes before
the token with the given number, or at the end. Brackets and braces hold no blocks. -/
def openBlock (column : Int) (place : Option Nat) (token : Token) : Scan Unit := do
  if ← inFlow then return
  match (← get).indents with
  | content :: outer =>
    if (← get).indent ≤ column && !content.isBlock then
      modify fun cursor => { cursor with indent := content.column, indents := outer }
  | [] => pure ()
  if (← get).indent < column then
    modify fun cursor => { cursor with
      indent := column, indents := ⟨cursor.indent, true⟩ :: cursor.indents }
    match place with
    | some place => emitAt place token
    | none => emit token

/-- Makes content that is indented in the open block start one column further to the right. -/
def indentContent : Scan Unit := do
  if !(← inFlow) then
    match (← get).indents with
    | ⟨_, true⟩ :: _ => modify fun cursor => { cursor with
        indent := cursor.indent + 1, indents := ⟨cursor.indent, false⟩ :: cursor.indents }
    | _ => return

/-- Closes blocks up to one at the given column. The blocks are the given ones, the open one
first. -/
def closeThrough (column : Int) : List Indent → Scan Unit
  | [] => return
  | outer :: rest => do
    if (← get).indent > column then
      modify fun cursor => { cursor with indent := outer.column, indents := rest }
      if outer.isBlock then emit .blockEnd
      closeThrough column rest

/-- Closes the blocks to the right of a column. -/
def closeBlocks (column : Int) : Scan Unit := do
  if !(← inFlow) then closeThrough column (← get).indents

/-! ## Keys -/

/-- Remembers that a key may start here, if one may. -/
def startKey : Scan Unit :=
  modify fun cursor =>
    if cursor.keyAllowed then
      let atBlock := (cursor.indents.head?.map Indent.isBlock).getD false
      { cursor with keys := some {
          token := cursor.tokens.size
          index := cursor.index
          line := cursor.line
          column := cursor.column
          required := cursor.flows.isEmpty && cursor.indent = cursor.column && atBlock }
        :: cursor.keys.tail }
    else cursor

/-- Forgets where a key may have started; it must not have had to. -/
def dropKey : Scan Unit := do
  match (← get).keys with
  | some mark :: rest =>
    if mark.required then failure
    modify fun cursor => { cursor with keys := none :: rest }
  | _ => return

/-- Forgets a key that did not end on its line or within 1024 characters. Keys in brackets and
braces have no such bound. -/
def dropStaleKey : Scan Unit := do
  let cursor ← get
  match cursor.keys with
  | some mark :: _ =>
    if cursor.flows.isEmpty && (mark.line < cursor.line || mark.index + 1024 < cursor.index) then
      dropKey
  | _ => return

end Scan

end Yaml

end RecordSchema
