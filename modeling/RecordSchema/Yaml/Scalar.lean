import RecordSchema.Json.Parser
import RecordSchema.Yaml.Cursor

/-!
# Scalars of YAML

A scalar is written plainly, in one of two kinds of quotation marks, or as an indented block after a
bar or an angle. Line ends inside of the first three are folded: one stands for a blank, and of
several the first one is dropped. A block that starts with a bar keeps its line ends.

## Main definitions

* `Yaml.Scan.plain`, `Yaml.Scan.quoted`, `Yaml.Scan.block`: the texts of scalars.

## Termination

The loops take a bound on the number of their rounds; each round takes at least one character.
-/

namespace RecordSchema

namespace Yaml

/-- What stands between two words of a scalar. -/
structure Gap where
  /-- The blanks up to the first line end, the last one first. -/
  blanks : List Char := []
  /-- Whether there is a line end, or a backslash that joins two lines. -/
  isBroken : Bool := false
  /-- Whether the first line end counts. -/
  folds : Bool := false
  /-- The number of line ends after it. -/
  breaks : Nat := 0

namespace Gap

/-- The gap with one more blank; after a line end it does not count. -/
def addBlank (gap : Gap) (c : Char) : Gap :=
  if gap.isBroken then gap else { gap with blanks := c :: gap.blanks }

/-- The gap with one more line end. -/
def addBreak (gap : Gap) : Gap :=
  if gap.isBroken then { gap with breaks := gap.breaks + 1 }
  else { blanks := [], isBroken := true, folds := true, breaks := gap.breaks }

/-- What the gap stands for, the last character first. -/
def text (gap : Gap) : List Char :=
  if !gap.isBroken then gap.blanks
  else if gap.folds && gap.breaks = 0 then [' ']
  else List.replicate gap.breaks '\n'

end Gap

namespace Scan

/-! ## Plain scalars -/

/-- Whether a character may be part of a plain scalar before another one. -/
def isPlainChar (flow : Bool) (c following : Char) : Bool :=
  !(c = ':' && (isGap following || (flow && isFlowMark following))) && !(flow && isFlowMark c)

/-- The word of a plain scalar at the front, the last character first. -/
def plainWord (flow : Bool) (word : List Char) : List Char → List Char
  | [] => word
  | c :: rest =>
    if isGap c || !isPlainChar flow c (rest.head?.getD '\x00') then word
    else plainWord flow (c :: word) rest

/-- Goes over the gap after a word of a plain scalar. A tab must not indent a line with content. -/
def plainGap (indent : Int) : Nat → Gap → Scan Gap
  | 0, _ => failure
  | fuel + 1, gap => do
    let c ← peek 0
    if isBreak c then
      let gap := if (← get).lineBlank then { gap with breaks := gap.breaks + 1 } else gap.addBreak
      stepBreak
      plainGap indent fuel gap
    else if isBlank c then
      if !(← get).lineBlank then
        stepBlank
        plainGap indent fuel (gap.addBlank c)
      else if c = '\t' && (← get).column < indent then
        let _ ← skipToEnd true
        if !isEnd (← peek 0) then failure
        plainGap indent fuel gap
      else
        stepBlank
        plainGap indent fuel gap
    else return gap

/-- The words of a plain scalar, the last character first. -/
def plainWords (indent : Int) : Nat → List Char → Gap → Scan (List Char)
  | 0, _, _ => failure
  | fuel + 1, text, gap => do
    let flow ← inFlow
    let c ← peek 0
    if (← atDocumentMark) || c = '#' then return text
    if flow && c = '-' && isFlowMark (← peek 1) then failure
    let word := plainWord flow [] (← get).rest
    let text := if word.isEmpty then text else word ++ (gap.text ++ text)
    let gap := if word.isEmpty then gap else {}
    steps word.length
    if !isBlank (← peek 0) && !isBreak (← peek 0) then return text
    let gap ← plainGap indent fuel gap
    if !flow && (← get).column < indent then return text
    plainWords indent fuel text gap

/-- The text of a plain scalar. A scalar over several lines has to be indented further than the
block that it stands in, and a key may start where it ends at the end of a line. -/
def plain : Scan String := do
  leaveContent
  let indent := (← get).indent + 1
  if (← inFlow) && (← get).column < indent then failure
  let text ← plainWords indent ((← get).rest.length + 1) [] {}
  if text.isEmpty then failure
  if (← get).lineBlank then allowKey true
  return String.ofList text.reverse

/-! ## Quoted scalars -/

/-- The character with a code given by a fixed number of hexadecimal digits after the escape. -/
def codeEscape (digits : Nat) : Scan Char := do
  let values := ((← get).rest.take digits).filterMap Json.hexValue?
  if values.length ≠ digits then failure
  steps digits
  let code := values.foldl (fun n d => 16 * n + d) 0
  if code < 0xD800 || (0xE000 ≤ code && code < 0x110000) then return Char.ofNat code else failure

/-- The characters of escapes that stand for one character. -/
def namedEscapes : List (Char × Nat) :=
  [('0', 0), ('a', 7), ('b', 8), ('t', 9), ('\t', 9), ('n', 10), ('v', 11), ('f', 12), ('r', 13),
    ('e', 27), (' ', 32), ('"', 34), ('/', 47), ('\\', 92), ('N', 0x85), ('_', 0xA0),
    ('L', 0x2028), ('P', 0x2029)]

/-- The character of an escape. -/
def escape : Scan Char := do
  step
  let c ← peek 0
  step
  match namedEscapes.lookup c, c with
  | some code, _ => return Char.ofNat code
  | none, 'x' => codeEscape 2
  | none, 'u' => codeEscape 4
  | none, 'U' => codeEscape 8
  | none, _ => failure

/-- A word of a quoted scalar up to a gap, to the closing mark or to a backslash that joins two
lines, the last character first, and whether it ends with such a backslash. -/
def quotedWord (mark : Char) : Nat → List Char → Scan (List Char × Bool)
  | 0, _ => failure
  | fuel + 1, word => do
    let c ← peek 0
    let following ← peek 1
    if isGap c then return (word, false)
    else if c = '\'' && mark = '\'' && following = '\'' then
      steps 2
      quotedWord mark fuel ('\'' :: word)
    else if c = mark then return (word, false)
    else if c = '\\' && mark = '"' then
      if isBreak following then
        step
        stepBreak
        return (word, true)
      else quotedWord mark fuel ((← escape) :: word)
    else
      step
      quotedWord mark fuel (c :: word)

/-- Goes over the gap after a word of a quoted scalar. A tab must not indent a line. -/
def quotedGap : Nat → Gap → Scan Gap
  | 0, _ => failure
  | fuel + 1, gap => do
    let c ← peek 0
    if isBreak c then
      stepBreak
      quotedGap fuel gap.addBreak
    else if isBlank c then
      if gap.isBroken && c = '\t' && (← get).column < (← get).indent then failure
      stepBlank
      quotedGap fuel (gap.addBlank c)
    else return gap

/-- The words of a quoted scalar up to its closing mark, the last character first. -/
def quotedWords (mark : Char) : Nat → List Char → Scan (List Char)
  | 0, _ => failure
  | fuel + 1, text => do
    if (← atDocumentMark) || (← peek 0) = '\x00' || (← get).column < (← get).indent then failure
    let (word, joins) ← quotedWord mark fuel []
    let text := word ++ text
    if (← peek 0) = mark then return text
    let gap ← quotedGap fuel { isBroken := joins }
    quotedWords mark fuel (gap.text ++ text)

/-- The text of a quoted scalar. Nothing but the end of a key or of a part in brackets or braces may
follow it on its line, and a key outside of these must not run over the end of a line. -/
def quoted (mark : Char) : Scan String := do
  let line := (← get).line
  step
  let text ← quotedWords mark ((← get).rest.length + 1) []
  step
  let _ ← skipToEnd true
  let c ← peek 0
  let flow ← inFlow
  if isEnd c || (flow && (c = ',' || c = ']' || c = '\x7d'))
      || (c = ':' && (flow || line = (← get).line)) then
    return String.ofList text.reverse
  else failure

/-! ## Blocks -/

/-- What becomes of the line ends at the end of a block. -/
inductive Ending where
  /-- One is kept. -/
  | clip
  /-- None is kept. -/
  | strip
  /-- All are kept. -/
  | keep
deriving DecidableEq

/-- The sign that tells the ending of a block. -/
def ending? : Scan (Option Ending) := do
  match ← peek 0 with
  | '+' => step; return some .keep
  | '-' => step; return some .strip
  | _ => return none

/-- The digit that tells the indentation of a block. -/
def indentation? : Scan (Option Nat) := do
  let c ← peek 0
  if c = '0' then failure
  if c.isDigit then
    step
    return some (c.toNat - '0'.toNat)
  else return none

/-- The ending and the indentation of a block, which may be told in either order. -/
def blockHeader : Scan (Ending × Option Nat) := do
  match ← ending? with
  | some ending => return (ending, ← indentation?)
  | none =>
    let indentation ← indentation?
    if indentation.isSome then return ((← ending?).getD .clip, indentation)
    else return (.clip, none)

/-- Goes over blank lines and the indentation of the line after them, up to the given column if
there is one; gives the number of blank lines and the greatest column. -/
def blockIndent (column : Option Nat) : Nat → Nat → Nat → Scan (Nat × Nat)
  | 0, _, _ => failure
  | fuel + 1, breaks, widest => do
    let here := (← get).column
    let blanks := ((← get).rest.takeWhile (· = ' ')).length
    let wanted := match column with
      | some column => min blanks (column - here)
      | none => blanks
    modify fun cursor => { cursor with
      rest := cursor.rest.drop wanted, index := cursor.index + wanted, column := here + wanted }
    let widest := max widest (here + wanted)
    if isBreak (← peek 0) then
      stepBreak
      blockIndent column fuel (breaks + 1) widest
    else return (breaks, widest)

/-- The lines of a block in a column, the last character first. `broken` tells that a line end is to
come before the next line and `blankStart` that the line before started with a blank; `breaks` is
the number of blank lines in between. Gives the text and the line ends that are left over. -/
def blockLines (literal : Bool) (column : Nat) :
    Nat → List Char → Bool → Bool → Nat → Scan (List Char × Bool × Nat)
  | 0, _, _, _, _ => failure
  | fuel + 1, text, broken, blankStart, breaks => do
    let c ← peek 0
    if (← get).column ≠ column || c = '\x00' || (column = 0 && (← atMark '.')) then
      return (text, broken, breaks)
    let text :=
      if !literal && broken && !blankStart && !isBlank c then
        if breaks = 0 then ' ' :: text else List.replicate breaks '\n' ++ text
      else List.replicate (breaks + broken.toNat) '\n' ++ text
    let text := (← takeRun fun c => !isEnd c).reverse ++ text
    if (← peek 0) = '\x00' then return (text, false, 0)
    stepBreak
    let (breaks, _) ← blockIndent (some column) fuel 0 0
    blockLines literal column fuel text true (isBlank c) breaks

/-- The text of an indented block from the mark that opens it on. -/
def block (literal : Bool) : Scan String := do
  let line := (← get).line
  step
  leaveContent
  let (ending, indentation) ← blockHeader
  let _ ← skipToEnd true
  if !isEnd (← peek 0) then failure
  let broken := isBreak (← peek 0)
  if broken then stepBreak
  if (← peek 0) = '\t' then failure
  let fuel := (← get).rest.length + 1
  let indent := (← get).indent
  let (breaks, column) ← match indentation with
    | some width => do
      let column := (max indent 0).toNat + width
      let (breaks, _) ← blockIndent (some column) fuel 0 0
      pure (breaks, column)
    | none => do
      let (breaks, widest) ← blockIndent none fuel 0 0
      let column := max widest (indent + 1).toNat
      pure (breaks, if 0 < indent then max column 1 else column)
  let lineEnds (count : Nat) : String := String.ofList (List.replicate count '\n')
  if (← peek 0) = '\x00' then
    if ending = .strip || (← get).line = line then return ""
    else if ending = .clip || breaks = 0 then return lineEnds broken.toNat
    else return lineEnds breaks
  if (← get).column < column && indent < (← get).column then failure
  let (text, isOpen, breaks) ← blockLines literal column fuel [] false false breaks
  let last := (← peek 0) = '\x00' && max column 1 ≤ (← get).column
  let ended := if ending = .strip then 0 else isOpen.toNat + last.toNat
  return String.ofList text.reverse ++ lineEnds (ended + if ending = .keep then breaks else 0)

end Scan

end Yaml

end RecordSchema
