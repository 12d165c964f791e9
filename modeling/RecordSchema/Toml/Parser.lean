import RecordSchema.Json.Parser
import RecordSchema.Text.Reader
import RecordSchema.Toml.Document
import RecordSchema.Toml.Moment
import RecordSchema.Toml.Scalar

/-!
# Reading TOML

A document is a list of lines: blank ones, comments, headers of tables and of items of lists of
tables, and pairs of a key and a value. Values are bare words, texts in four kinds of quotation
marks, lists and inline tables.

## Main definitions

* `Toml.parse?`: the document of a text as fields, or `none` when the text is no document.

## Termination

The readers of texts, values and lines take a bound on the number of steps; every step takes at
least one character, so one more than the length of the text is always enough.
-/

namespace RecordSchema

namespace TomlText

open Reader (accept skipRun)

/-- The number of levels of lists and inline tables, and of parts of a dotted key, that is too
many. -/
def depthLimit : Nat := 80

/-- Drops blanks and tabs. -/
def skipBlanks : Reader Unit :=
  skipRun fun c => c = ' ' || c = '\t'

/-- Whether a character may not stand in comments and texts of one line. -/
def isControl (c : Char) : Bool :=
  (c.toNat < 0x20 && c ≠ '\t') || c.toNat = 0x7F

/-- Goes over the end of a line if it comes next. -/
def acceptLineEnd : Reader Bool := do
  if ← accept ['\n'] then return true else accept ['\r', '\n']

/-- Goes over a comment if one comes next. -/
def skipComment : Reader Unit := do
  if ← accept ['#'] then
    skipRun fun c => !isControl c

/-- Goes over blanks, comments and ends of lines. -/
def skipLines : Nat → Reader Unit
  | 0 => return
  | fuel + 1 => do
    skipBlanks
    skipComment
    if ← acceptLineEnd then skipLines fuel

/-- The character with a code given by a fixed number of hexadecimal digits. -/
def codeEscape (digits : Nat) : Reader Char := do
  let s ← get
  let values := (s.take digits).filterMap Json.hexValue?
  if values.length ≠ digits then failure
  set (s.drop digits)
  let code := values.foldl (fun n d => 16 * n + d) 0
  if code < 0xD800 || (0xE000 ≤ code && code < 0x110000) then return Char.ofNat code else failure

/-- The character of an escape after its backslash. -/
def escape : Reader Char := do
  match ← get with
  | [] => failure
  | c :: rest =>
    set rest
    match c with
    | 'b' => return '\x08'
    | 't' => return '\t'
    | 'n' => return '\n'
    | 'f' => return '\x0c'
    | 'r' => return '\r'
    | '"' => return '"'
    | '\\' => return '\\'
    | 'u' => codeEscape 4
    | 'U' => codeEscape 8
    | _ => failure

/-- A text in double quotation marks after the first of them, collected in reverse. -/
def basicText : Nat → List Char → Reader String
  | 0, _ => failure
  | fuel + 1, collected => do
    match ← get with
    | [] => failure
    | '"' :: rest => set rest; return String.ofList collected.reverse
    | '\\' :: rest => set rest; basicText fuel ((← escape) :: collected)
    | c :: rest => if isControl c then failure else set rest; basicText fuel (c :: collected)

/-- A text in single quotation marks after the first of them. -/
def literalText : Reader String := do
  let s ← get
  let body := s.takeWhile (· ≠ '\'')
  if body.any isControl then failure
  match s.drop body.length with
  | _ :: rest => set rest; return String.ofList body
  | [] => failure

/-- Blanks and ends of lines after a backslash at the end of a line; `none` when something else
follows on the line. -/
def lineJoin? (s : List Char) : Option (List Char) :=
  match s.dropWhile fun c => c = ' ' || c = '\t' with
  | '\n' :: rest => some (rest.dropWhile fun c => c = ' ' || c = '\t' || c = '\n' || c = '\r')
  | '\r' :: '\n' :: rest =>
    some (rest.dropWhile fun c => c = ' ' || c = '\t' || c = '\n' || c = '\r')
  | _ => none

/-- A text of several lines between three marks, collected in reverse. Up to two more marks may
stand before the closing ones. Only double marks know escapes. Every line ends in a line feed. -/
def longText (mark : Char) : Nat → List Char → Reader String
  | 0, _ => failure
  | fuel + 1, collected => do
    match ← get with
    | [] => failure
    | c :: rest =>
      let marks := ((c :: rest).takeWhile (· = mark)).length
      if 3 ≤ marks then
        let extra := min (marks - 3) 2
        set ((c :: rest).drop (extra + 3))
        return String.ofList (collected.reverse ++ List.replicate extra mark)
      else if c = '\\' && mark = '"' then
        match lineJoin? rest with
        | some after => set after; longText mark fuel collected
        | none => set rest; longText mark fuel ((← escape) :: collected)
      else if c = '\r' && rest.head? = some '\n' then set rest; longText mark fuel collected
      else if isControl c && c ≠ '\n' then failure
      else set rest; longText mark fuel (c :: collected)

/-- A text in any quotation marks that the place allows. -/
def quotedText (long : Bool) : Reader String := do
  let s ← get
  if ← accept ['"', '"', '"'] then
    if !long then failure
    let _ ← acceptLineEnd
    longText '"' s.length []
  else if ← accept ['\'', '\'', '\''] then
    if !long then failure
    let _ ← acceptLineEnd
    longText '\'' s.length []
  else if ← accept ['"'] then basicText s.length []
  else if ← accept ['\''] then literalText
  else failure

/-- A key without dots. -/
def simpleKey : Reader String := do
  let s ← get
  match s.head? with
  | some '"' | some '\'' => quotedText false
  | _ =>
    let isBare (c : Char) : Bool := c.isAlphanum || c = '_' || c = '-'
    let word := s.takeWhile isBare
    if word.isEmpty then failure
    set (s.drop word.length)
    return String.ofList word

/-- A key with dots: its parents and its last part. -/
def dottedKey : Nat → List String → Reader (List String × String)
  | 0, _ => failure
  | fuel + 1, parents => do
    skipBlanks
    let key ← simpleKey
    skipBlanks
    if ← accept ['.'] then dottedKey fuel (parents ++ [key])
    else if parents.length + 1 < depthLimit then return (parents, key)
    else failure

/-- A bare word. A date may be followed by one blank and a time of day. -/
def bareWord : Reader Json := do
  let s ← get
  let isWord (c : Char) : Bool :=
    c.isAlphanum || c = '+' || c = '-' || c = '_' || c = '.' || c = ':'
  let word := s.takeWhile isWord
  let rest := s.drop word.length
  let time := rest.tail.takeWhile isWord
  if Moment.afterDate? word = some [] && rest.head? = some ' '
      && (Moment.afterTime? 23 time).isSome then
    set (rest.drop (time.length + 1))
    TomlScalar.ofWord? (word ++ 'T' :: time)
  else
    set rest
    TomlScalar.ofWord? word

mutual

/-- A value, in which lists and inline tables may be nested `depth` levels deep. -/
def value (depth : Nat) : Nat → Reader Json
  | 0 => failure
  | fuel + 1 => do
    match (← get).head?, depth with
    | some '"', _ | some '\'', _ => return .str (← quotedText true)
    | some '[', depth + 1 =>
      let _ ← accept ['[']
      return .arr (← items depth fuel [])
    | some '\x7b', depth + 1 =>
      let _ ← accept ['\x7b']
      skipBlanks
      if ← accept ['\x7d'] then return .obj [] else inlinePairs depth fuel {}
    | _, _ => bareWord

/-- The items of a list up to its closing bracket, collected in reverse. -/
def items (depth : Nat) : Nat → List Json → Reader (List Json)
  | 0, _ => failure
  | fuel + 1, collected => do
    skipLines (← get).length
    if ← accept [']'] then return collected.reverse
    let item ← value depth fuel
    skipLines (← get).length
    if ← accept [','] then items depth fuel (item :: collected)
    else if ← accept [']'] then return (item :: collected).reverse
    else failure

/-- The pairs of an inline table up to its closing brace. -/
def inlinePairs (depth : Nat) : Nat → TomlTable → Reader Json
  | 0, _ => failure
  | fuel + 1, table => do
    let (parents, key) ← dottedKey (← get).length []
    if !(← accept ['=']) then failure
    skipBlanks
    let json ← value depth fuel
    let table ← table.addPair parents key json
    skipBlanks
    if ← accept [','] then inlinePairs depth fuel table
    else if ← accept ['\x7d'] then return .obj table.toFields
    else failure

end

/-- A document under construction: its tables and the path of the open one. -/
structure Draft where
  /-- The whole document. -/
  root : TomlTable := {}
  /-- The path of the open table. -/
  place : List String := []

/-- Reads one line into the document. -/
def line (draft : Draft) : Reader Draft := do
  skipBlanks
  let length := (← get).length
  if ← accept ['[', '['] then
    let (parents, key) ← dottedKey length []
    if !(← accept [']', ']']) then failure
    return ⟨← draft.root.openItem parents key, parents ++ [key]⟩
  else if ← accept ['['] then
    let (parents, key) ← dottedKey length []
    if !(← accept [']']) then failure
    return ⟨← draft.root.openTable parents key, parents ++ [key]⟩
  else
    match (← get).head? with
    | none | some '\n' | some '\r' | some '#' => return draft
    | _ =>
      let (parents, key) ← dottedKey length []
      if !(← accept ['=']) then failure
      skipBlanks
      let json ← value (depthLimit - 1) (length + 1)
      let root ← draft.root.change false (·.addPair parents key json) draft.place
      return { draft with root }

/-- Reads lines up to the end of the text. -/
def document : Nat → Draft → Reader Draft
  | 0, _ => failure
  | fuel + 1, draft => do
    let draft ← line draft
    skipBlanks
    skipComment
    if ← acceptLineEnd then document fuel draft
    else if (← get).isEmpty then return draft
    else failure

end TomlText

/-- The document of a text. A byte order mark at its start does not count. -/
def Toml.parse? (text : String) : Option Fields :=
  let chars := match text.toList with
    | '\uFEFF' :: rest => rest
    | chars => chars
  ((TomlText.document (chars.length + 1) {}).run chars).bind fun (draft, _) =>
    (Json.obj draft.root.toFields).withMoments?.bind Json.asFields?

end RecordSchema
