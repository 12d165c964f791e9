import RecordSchema.Json.Parser
import RecordSchema.Text.Reader

/-!
# RON texts

RON writes records as names and values in parentheses, maps in braces, lists in brackets and
options as `Some(value)` and `None`. Names of types may stand before parentheses; they do not
matter. Parentheses hold the fields of a record if a name and a colon come first, and otherwise the
items of a list. Comments may stand wherever blanks may, also inside each other.

A record and a map are read as an object, whose keys are names, texts or characters. An absent
option and a type without fields are null.

Lists, records, maps and options can be nested only so deep: each of them takes one level, and so
does each part of a list, a record or a map.

## Main definitions

* `Ron.identifier?`, `Ron.number?`: names and numbers at the front of a text.
* `Ron.parse?`: the value of a whole text.

## Termination

The readers of texts and comments descend on the text; the readers of values take a bound on the
number of their steps, each of which takes at least one character.
-/

namespace RecordSchema

namespace Ron

open Reader (accept expect skipRun)

/-! ## Blanks and names -/

/-- The number of levels. -/
def depthLimit : Nat := 128

/-- Blanks between the parts of a text. -/
def isBlank (c : Char) : Bool :=
  c = ' ' || c = '\t' || c = '\n' || c = '\r'

/-- What follows a comment between asterisks in which `level` more comments are open. -/
def afterComment? (level : Nat) : List Char → Option (List Char)
  | [] => none
  | '/' :: '*' :: rest => afterComment? (level + 1) rest
  | '*' :: '/' :: rest =>
    match level with
    | 0 => some rest
    | level + 1 => afterComment? level rest
  | _ :: rest => afterComment? level rest

/-- Goes over blanks and comments. -/
def skipBlanks : Nat → Reader Unit
  | 0 => failure
  | fuel + 1 => do
    skipRun isBlank
    match ← get with
    | '/' :: '/' :: rest =>
      set (rest.dropWhile (· ≠ '\n'))
      skipBlanks fuel
    | '/' :: '*' :: rest =>
      set (← afterComment? 0 rest)
      skipBlanks fuel
    | '/' :: _ => failure
    | _ => return

/-- Goes over blanks and comments up to the next part. -/
def toNextPart : Reader Unit := do
  skipBlanks ((← get).length + 1)

/-- Goes over a comma between parts if there is one. -/
def acceptComma : Reader Bool := do
  toNextPart
  if ← accept [','] then
    toNextPart
    return true
  else return false

/-- Whether a character may be part of a name. -/
def isNameChar (c : Char) : Bool :=
  c.isAlphanum || c = '_'

/-- Whether a character may be part of a name after `r#`. -/
def isRawNameChar (c : Char) : Bool :=
  isNameChar c || c = '.' || c = '+' || c = '-'

/-- The name at the front. A name after `r#` may hold points and signs; they must not follow any
other name. -/
def identifier? (s : List Char) : Option (List Char × List Char) :=
  match s with
  | ['r'] | 'r' :: '"' :: _ => none
  | 'r' :: '#' :: rest =>
    let name := rest.takeWhile isRawNameChar
    if name.isEmpty then none else some (name, rest.drop name.length)
  | c :: _ =>
    let name := s.takeWhile isNameChar
    if !c.isDigit && isNameChar c && name.length = (s.takeWhile isRawNameChar).length then
      some (name, s.drop name.length)
    else none
  | [] => none

/-- Goes over a given word if it comes next and no longer name does. -/
def acceptWord (word : String) : Reader Bool := do
  match (← get).drop word.length with
  | c :: _ => if isNameChar c then return false else accept word.toList
  | [] => accept word.toList

/-- A name. -/
def name : Reader String := do
  let (name, rest) ← identifier? (← get)
  set rest
  return String.ofList name

/-! ## Texts and characters -/

/-- The code of up to six hexadecimal digits in braces, and what follows. -/
def bracedCode? (s : List Char) : Option (Nat × List Char) :=
  match s with
  | '\x7b' :: rest =>
    let digits := (rest.take 6).takeWhile (· ≠ '\x7d')
    let values := digits.filterMap Json.hexValue?
    match rest.drop digits.length with
    | '\x7d' :: rest =>
      if digits.isEmpty || values.length ≠ digits.length then none
      else some (values.foldl (fun n d => 16 * n + d) 0, rest)
    | _ => none
  | _ => none

/-- The character of an escape after its backslash, and what follows. -/
def escape? : List Char → Option (Char × List Char)
  | '\'' :: rest => some ('\'', rest)
  | '"' :: rest => some ('"', rest)
  | '\\' :: rest => some ('\\', rest)
  | 'n' :: rest => some ('\n', rest)
  | 'r' :: rest => some ('\r', rest)
  | 't' :: rest => some ('\t', rest)
  | '0' :: rest => some ('\x00', rest)
  | 'x' :: a :: b :: rest => do
    let high ← Json.hexValue? a
    let low ← Json.hexValue? b
    return (Char.ofNat (16 * high + low), rest)
  | 'u' :: rest => do
    let (code, rest) ← bracedCode? rest
    if code < 0xD800 || (0xE000 ≤ code && code < 0x110000) then return (Char.ofNat code, rest)
    else none
  | _ => none

/-- A text after its opening quotation mark, collected in reverse. -/
def textBody (collected : List Char) : Nat → Reader String
  | 0 => failure
  | fuel + 1 => do
    match ← get with
    | [] => failure
    | '"' :: rest => set rest; return String.ofList collected.reverse
    | '\\' :: rest =>
      let (c, rest) ← escape? rest
      set rest
      textBody (c :: collected) fuel
    | c :: rest => set rest; textBody (c :: collected) fuel

/-- The text up to a given end, and what follows it. -/
def textBefore? (mark : List Char) (collected : List Char) :
    List Char → Option (String × List Char)
  | [] => none
  | c :: rest =>
    if mark.isPrefixOf (c :: rest) then
      some (String.ofList collected.reverse, (c :: rest).drop mark.length)
    else textBefore? mark (c :: collected) rest

/-- A text without escapes after its `r`: it ends with as many number signs as it starts with. -/
def rawText : Reader String := do
  let hashes ← Reader.takeRun (· = '#')
  expect ['"']
  let (text, rest) ← textBefore? ('"' :: hashes) [] (← get)
  set rest
  return text

/-- A character after its opening quotation mark. -/
def character : Reader String := do
  match ← get with
  | '\\' :: rest =>
    let (c, rest) ← escape? rest
    set rest
    expect ['\'']
    return String.singleton c
  | c :: rest =>
    if c = '\'' then failure
    set rest
    expect ['\'']
    return String.singleton c
  | [] => failure

/-- A text or a character. -/
def text : Reader String := do
  if ← accept ['"'] then textBody [] ((← get).length + 1)
  else if ← accept ['\''] then character
  else
    expect ['r']
    rawText

/-! ## Numbers -/

/-- The value of digits in a base; single underscores may stand anywhere but at the start. -/
def digitsIn? (base : Nat) (s : List Char) : Option Nat :=
  if s.isEmpty || s.head? = some '_' then none
  else s.foldlM (fun n c =>
    if c = '_' then some n
    else (Json.hexValue? c).bind fun d => if d < base then some (n * base + d) else none) 0

/-- A whole number without its sign at the front, and what follows. -/
def whole? (s : List Char) : Option (Nat × List Char) :=
  let isDigit (c : Char) : Bool := (Json.hexValue? c).isSome || c = '_'
  let digits (base : Nat) (s : List Char) : Option (Nat × List Char) :=
    (digitsIn? base (s.takeWhile isDigit)).map fun n => (n, s.dropWhile isDigit)
  match s with
  | '0' :: 'x' :: rest => digits 16 rest
  | '0' :: 'b' :: rest => digits 2 rest
  | '0' :: 'o' :: rest => digits 8 rest
  | s => digits 10 s

/-- A floating point number at the front, and what follows. -/
def float? (s : List Char) : Option (Number × List Char) :=
  let isPart (c : Char) : Bool :=
    c.isDigit || c = '.' || c = 'e' || c = 'E' || c = '+' || c = '-' || c = '_'
  let word? (word : String) : Option (Number × List Char) :=
    let rest := s.drop word.length
    if word.toList.isPrefixOf s && !(rest.head?.map isNameChar).getD false then
      (readFloat? word).map fun x => (.float x, rest)
    else none
  (["inf", "+inf", "-inf", "NaN", "+NaN", "-NaN"].findSome? word?).or
    ((readFloat? (String.ofList (s.takeWhile isPart))).map fun x =>
      (.float x, s.dropWhile isPart))

/-- The number at the front, and what follows. A whole number that fits no 64-bit word is read as a
floating point one, and so is one of which only the unsigned words have room. -/
def number? (s : List Char) : Option (Number × List Char) :=
  let (negative, body) := spanSign s
  let isSigned := body.length < s.length
  let isFloat := ((body.takeWhile fun c =>
    c.isDigit || c = '.' || c = 'e' || c = 'E' || c = '+' || c = '-' || c = '_').length
      > (body.takeWhile fun c => (Json.hexValue? c).isSome || c = '_').length : Bool)
  if isFloat then float? s
  else match whole? body with
    | some (n, rest) =>
      let value : Int := if negative then -n else n
      if Word64.fitsSigned value then some (.int value, rest)
      else if !isSigned && Word64.fitsUnsigned value then some (.float (Float.ofNat n), rest)
      else float? s
    | none => float? s

/-! ## Values -/

/-- Goes over a name, blanks and the character after them, and tells whether it is a colon. -/
def passName : Reader Bool := do
  match identifier? (← get) with
  | some (_, rest) =>
    set rest
    toNextPart
    return (← Reader.next) = ':'
  | none => return false

/-- Whether what follows an opening parenthesis are the fields of a record. The text stays as it
is. -/
def startsRecord : Reader Bool := do
  let s ← get
  toNextPart
  let found ← passName
  set s
  return found

mutual

/-- A value that may take so many levels. -/
def value (room : Nat) : Nat → Reader Json
  | 0 => failure
  | fuel + 1 => do
    if ← acceptWord "true" then return .bool true
    else if ← acceptWord "false" then return .bool false
    else if ← acceptWord "None" then return .null
    else if ← acceptWord "Some" then
      toNextPart
      expect ['(']
      toNextPart
      let inner ← match room with
        | 0 => failure
        | room + 1 => value room fuel
      let _ ← acceptComma
      expect [')']
      return inner
    else if ← accept ['(', ')'] then return .null
    else if ← acceptWord "inf" then return .num (.float (1.0 / 0.0))
    else if ← acceptWord "NaN" then return .num (.float (0.0 / 0.0))
    else match identifier? (← get), (← get).head? with
      | some (_, rest), _ => do
        set rest
        toNextPart
        if (← get).head? = some '(' then parenthesized room fuel else return .null
      | none, some '(' => parenthesized room fuel
      | none, some '[' =>
        expect ['[']
        match room with
        | 0 => failure
        | room + 1 => .arr <$> items room ']' [] fuel
      | none, some '\x7b' =>
        expect ['\x7b']
        match room with
        | 0 => failure
        | room + 1 => .obj <$> members room '\x7d' text [] fuel
      | none, some c =>
        if c = '"' || c = '\'' || c = 'r' then .str <$> text
        else
          let (n, rest) ← number? (← get)
          set rest
          return .num n
      | none, none => failure

/-- A record or a list in parentheses. -/
def parenthesized (room : Nat) : Nat → Reader Json
  | 0 => failure
  | fuel + 1 => do
    expect ['(']
    match room, ← startsRecord with
    | 0, _ => failure
    | room + 1, true => .obj <$> members room ')' name [] fuel
    | room + 1, false => .arr <$> items room ')' [] fuel

/-- The items of a list up to its closing mark, collected in reverse. -/
def items (room : Nat) (mark : Char) (collected : List Json) : Nat → Reader (List Json)
  | 0 => failure
  | fuel + 1 => do
    toNextPart
    if ← accept [mark] then return collected.reverse
    let item ← match room with
      | 0 => failure
      | room + 1 => value room fuel
    if ← acceptComma then items room mark (item :: collected) fuel
    else
      expect [mark]
      return (item :: collected).reverse

/-- The members of a record or a map up to its closing mark. -/
def members (room : Nat) (mark : Char) (key : Reader String) (fields : Fields) :
    Nat → Reader Fields
  | 0 => failure
  | fuel + 1 => do
    toNextPart
    if ← accept [mark] then return fields
    let key' ← key
    toNextPart
    expect [':']
    toNextPart
    let item ← match room with
      | 0 => failure
      | room + 1 => value room fuel
    if ← acceptComma then members room mark key (fields.put key' item) fuel
    else
      expect [mark]
      return fields.put key' item

end

/-- The extensions of the notation that a document may ask for; none of them matters here. -/
def extensions : List String :=
  ["unwrap_newtypes", "implicit_some", "unwrap_variant_newtypes"]

/-- The names of extensions with commas between them. -/
def extensionNames : Nat → Reader Unit
  | 0 => failure
  | fuel + 1 => do
    if !extensions.contains (← name) then failure
    let comma ← acceptComma
    let more := ((← get).head?.map isNameChar).getD false
    if comma && more then extensionNames fuel
    else if more then failure

/-- The lists of extensions before the value of a document. -/
def header : Nat → Reader Unit
  | 0 => failure
  | fuel + 1 => do
    toNextPart
    if (← get).head? = some '#' then
      for part in ["#", "!", "[", "enable", "("] do
        expect part.toList
        toNextPart
      extensionNames fuel
      toNextPart
      for part in [")", "]"] do
        expect part.toList
        toNextPart
      header fuel

/-- The value of a whole text. -/
def parse? (text : String) : Option Json :=
  let fuel := text.length + 1
  Reader.readAll? (do
    header fuel
    let json ← value depthLimit fuel
    toNextPart
    return json) text.toList

end Ron

end RecordSchema
