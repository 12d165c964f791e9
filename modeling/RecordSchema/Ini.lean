import RecordSchema.Json.Basic
import RecordSchema.Json.Parser
import RecordSchema.Text.Blank

/-!
# INI documents

A document is a list of sections with headers in brackets, and each section is a list of pairs of
a key and a text. Pairs before the first header belong to the document itself. A key reaches to the
next equals sign or colon, and a value to the end of its line; it may start with a part in
quotation marks. A backslash starts an escape everywhere. Comments are lines that start with a
semicolon or a number sign, with nothing before it.

A key that is repeated has its last value, and a section that is repeated its last pairs.

## Main definitions

* `Ini.parse?`: the document of a text as fields, or `none` when the text is no document.

## Termination

`Ini.textUntil?` descends on the text. `Ini.sections?` takes a bound on the number of its steps,
each of which takes at least one character.
-/

namespace RecordSchema

namespace Ini

/-- The character with a code in hexadecimal digits, which may follow a plus sign. -/
def codeEscape? (code : List Char) : Option Char :=
  let digits := match code with
    | '+' :: rest => rest
    | code => code
  let values := digits.filterMap Json.hexValue?
  let code := values.foldl (fun n d => 16 * n + d) 0
  if values.length = digits.length && (code < 0xD800 || 0xE000 ≤ code) then some (Char.ofNat code)
  else none

/-- What a character after a backslash stands for; the end of a line stands for nothing. -/
def escape : Char → List Char
  | '0' => ['\x00']
  | 'a' => ['\x07']
  | 'b' => ['\x08']
  | 't' => ['\t']
  | 'r' => ['\r']
  | 'n' => ['\n']
  | '\n' => []
  | c => [c]

/-- The text up to a character that ends it, without escapes, and what follows from that character
on. The end of the document ends the text only if it may. The text is collected in reverse. -/
def textUntil? (isEnd : Char → Bool) (mayEnd : Bool) (collected : List Char) :
    List Char → Option (List Char × List Char)
  | [] => if mayEnd then some (collected.reverse, []) else none
  | '\\' :: 'x' :: a :: b :: c :: d :: rest =>
    match codeEscape? [a, b, c, d] with
    | some c => textUntil? isEnd mayEnd (c :: collected) rest
    | none => none
  | ['\\'] | '\\' :: 'x' :: _ => none
  | '\\' :: c :: rest => textUntil? isEnd mayEnd (escape c ++ collected) rest
  | c :: rest =>
    if isEnd c then some (collected.reverse, c :: rest)
    else textUntil? isEnd mayEnd (c :: collected) rest

/-- The text without the blanks at its two ends. -/
def trimmed (s : List Char) : String :=
  trimBlank (String.ofList s)

/-- Whether a character ends a line. -/
def isLineEnd (c : Char) : Bool :=
  c = '\n' || c = '\r'

/-- The value after the mark behind its key, and what follows. -/
def value? (s : List Char) : Option (String × List Char) :=
  let toEnd (start s : List Char) : Option (String × List Char) :=
    (textUntil? isLineEnd true [] s).map fun (body, rest) => (trimmed (start ++ body), rest)
  match s.dropWhile fun c => isBlank c && !isLineEnd c with
  | '"' :: rest => (textUntil? (· = '"') false [] rest).bind fun (start, rest) =>
      toEnd start rest.tail
  | '\'' :: rest => (textUntil? (· = '\'') false [] rest).bind fun (start, rest) =>
      toEnd start rest.tail
  | s => toEnd [] s

/-- A section: its name, or none for the document itself, and its pairs. -/
structure Section where
  /-- The name. -/
  name : Option String := none
  /-- The pairs. -/
  pairs : Entries Json := []

/-- The sections of a text, read from within the last one of `finished` on. `lineStart` tells
whether the text is at the start of a line. -/
def sections? (finished : List Section) (current : Section) :
    Nat → Bool → List Char → Option (List Section)
  | 0, _, _ => none
  | fuel + 1, lineStart, s =>
    let blanks := s.takeWhile isBlank
    let lineStart : Bool := match blanks.getLast? with
      | some c => c = '\n'
      | none => lineStart
    match s.drop blanks.length with
    | [] => some (finished ++ [current])
    | '[' :: rest =>
      (textUntil? (· = ']') false [] rest).bind fun (name, rest) =>
        sections? (finished ++ [current]) ⟨some (trimmed name), []⟩ fuel false rest.tail
    | c :: rest =>
      if c = ';' || c = '#' then
        if lineStart then
          sections? finished current fuel true ((rest.dropWhile (· ≠ '\n')).drop 1)
        else none
      else do
        let (key, rest) ← textUntil? (fun c => c = '=' || c = ':') false [] (c :: rest)
        if (trimmed key).isEmpty then none
        let (text, rest) ← value? rest.tail
        sections? finished { current with pairs := current.pairs.put (trimmed key) (.str text) }
          fuel false rest

/-- The fields of sections. -/
def toFields (sections : List Section) : Fields :=
  sections.foldl (fun fields part =>
    match part.name with
    | none => part.pairs
    | some name => Entries.put fields name (.obj part.pairs)) []

/-- The document of a text. -/
def parse? (text : String) : Option Fields :=
  (sections? [] {} (text.length + 1) true text.toList).map toFields

end Ini

end RecordSchema
