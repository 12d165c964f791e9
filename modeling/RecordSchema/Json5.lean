import RecordSchema.Json.Parser
import RecordSchema.Text.Categories
import RecordSchema.Text.Properties
import RecordSchema.Text.Reader

/-!
# JSON5 texts

JSON5 is JSON with the comforts of a written notation: comments, commas at the end of lists,
identifiers as keys, texts in either kind of quotation marks that run on over the end of a line,
hexadecimal numbers, signs, and the numbers `Infinity` and `NaN`.

Whole numbers have to fit a signed 64-bit word, and hexadecimal ones an unsigned 32-bit word without
a sign. Floating point numbers must not be too large.

## Main definitions

* `Json5.number?`: the value of a written number.
* `Json5.parse?`: the value of a whole text.

## Termination

The readers of texts and names descend on the length of the text; the readers of values take a
bound on the number of their steps, each of which takes at least one character.
-/

namespace RecordSchema

namespace Json5

open Reader (accept expect skipRun)

/-- Whether a character ends a line. -/
def isLineEnd (c : Char) : Bool :=
  c = '\n' || c = '\r' || c = '\u2028' || c = '\u2029'

/-- The separators of words in the Unicode standard. -/
def separators : CharSet := categorySet "Zs"

/-- Whether a character may stand between the parts of a text. -/
def isBlank (c : Char) : Bool :=
  isLineEnd c || c = '\t' || c = '\x0b' || c = '\x0c' || c = '\uFEFF' || separators.contains c

/-- What follows a comment from after the asterisk that opens it. -/
def afterComment? : List Char → Option (List Char)
  | [] => none
  | '*' :: '/' :: rest => some rest
  | _ :: rest => afterComment? rest

/-- Goes over blanks and comments. -/
def skipBlanks : Nat → Reader Unit
  | 0 => failure
  | fuel + 1 => do
    skipRun isBlank
    match ← get with
    | '/' :: '/' :: rest =>
      set (rest.dropWhile fun c => !isLineEnd c)
      skipBlanks fuel
    | '/' :: '*' :: rest =>
      set (← afterComment? rest)
      skipBlanks fuel
    | _ => return

/-- Goes over blanks and comments up to the next part. -/
def toNextPart : Reader Unit := do
  skipBlanks ((← get).length + 1)

/-- The characters of an escape after its backslash. The end of a line stands for nothing. -/
def escape? : (s : List Char) → Option (List Char × Json.Shorter s)
  | [] => none
  | '\r' :: '\n' :: rest => some ([], ⟨rest, Nat.lt_succ_of_lt (Nat.lt_succ_self _)⟩)
  | 'u' :: rest => (Json.unitEscape? rest).map fun (c, r) =>
      ([c], ⟨r.val, Nat.lt_succ_of_lt r.property⟩)
  | 'x' :: a :: b :: rest => do
    let high ← Json.hexValue? a
    let low ← Json.hexValue? b
    return ([Char.ofNat (16 * high + low)],
      ⟨rest, Nat.lt_succ_of_lt (Nat.lt_succ_of_lt (Nat.lt_succ_self _))⟩)
  | c :: rest =>
    let single (cs : List Char) : Option (List Char × Json.Shorter (c :: rest)) :=
      some (cs, ⟨rest, Nat.lt_succ_self _⟩)
    if isLineEnd c then single []
    else match c with
      | 'b' => single ['\x08']
      | 'f' => single ['\x0c']
      | 'n' => single ['\n']
      | 'r' => single ['\r']
      | 't' => single ['\t']
      | 'v' => single ['\x0b']
      | '0' => single ['\x00']
      | 'x' => none
      | c => if c.isDigit then none else single [c]

/-- The text up to its closing quotation mark, collected in reverse, and what follows it. -/
def textBody? (mark : Char) (collected : List Char) (s : List Char) :
    Option (String × List Char) :=
  match s with
  | [] => none
  | '\\' :: rest =>
    match escape? rest with
    | none => none
    | some (cs, r) =>
      have := r.property
      textBody? mark (cs ++ collected) r.val
  | c :: rest =>
    if c = mark then some (String.ofList collected.reverse, rest)
    else if isLineEnd c then none
    else textBody? mark (c :: collected) rest
termination_by s.length

/-- Letters and other characters with which a key without quotes may start. -/
def keyStart : CharSet :=
  .unions [categoriesSet ["Lu", "Ll", "Lt", "Lm", "Lo", "Nl"], .ofText "24 5f"]

/-- The characters of which a key without quotes may consist. -/
def keyPart : CharSet :=
  .unions [keyStart, categoriesSet ["Mn", "Nd", "Pc"], propertySet "Diacritic",
    .ofText "200c 200d"]

/-- A key without quotes, collected in reverse, and what follows it. -/
def keyBody? (collected : List Char) (s : List Char) : Option (String × List Char) :=
  let finish : Option (String × List Char) :=
    if collected.isEmpty then none else some (String.ofList collected.reverse, s)
  match s with
  | '\\' :: 'u' :: rest =>
    match Json.unitEscape? rest with
    | none => none
    | some (c, r) =>
      have := r.property
      keyBody? (c :: collected) r.val
  | c :: rest =>
    if (if collected.isEmpty then keyStart else keyPart).contains c then
      keyBody? (c :: collected) rest
    else finish
  | [] => finish
termination_by s.length

/-- Hands on what was read, and goes on with the rest. -/
def resume {α : Type} (result : Option (α × List Char)) : Reader α := do
  let (found, rest) ← result
  set rest
  return found

/-- A text in quotation marks. -/
def quoted : Reader String := do
  match ← get with
  | '"' :: rest => resume (textBody? '"' [] rest)
  | '\'' :: rest => resume (textBody? '\'' [] rest)
  | _ => failure

/-- A key. -/
def key : Reader String := do
  match ← get with
  | '"' :: _ | '\'' :: _ => quoted
  | s => resume (keyBody? [] s)

/-- A word at the front. -/
def word? (word s : List Char) : Option (List Char) :=
  if word.isPrefixOf s then some word else none

/-- A hexadecimal number at the front. -/
def hexadecimal? : List Char → Option (List Char)
  | '0' :: x :: rest =>
    let digits := rest.takeWhile fun c => (Json.hexValue? c).isSome
    if (x = 'x' || x = 'X') && !digits.isEmpty then some ('0' :: x :: digits) else none
  | _ => none

/-- The exponent of a number at the front, or nothing. -/
def exponentOf : List Char → List Char
  | e :: rest =>
    let sign := (rest.take 1).filter fun c => c = '+' || c = '-'
    let digits := (spanDigits (rest.drop sign.length)).1
    if (e = 'e' || e = 'E') && !digits.isEmpty then e :: (sign ++ digits) else []
  | [] => []

/-- A decimal number at the front; nothing follows a leading zero. -/
def decimal? (s : List Char) : Option (List Char) :=
  let (whole, rest) := if s.head? = some '0' then (['0'], s.tail) else spanDigits s
  match rest with
  | '.' :: rest =>
    let (fraction, rest) := spanDigits rest
    if whole.isEmpty && fraction.isEmpty then none
    else some (whole ++ '.' :: fraction ++ exponentOf rest)
  | rest => if whole.isEmpty then none else some (whole ++ exponentOf rest)

/-- A number without its sign at the front. -/
def numeral? (s : List Char) : Option (List Char) :=
  (hexadecimal? s).or ((decimal? s).or
    ((word? "Infinity".toList s).or (word? "NaN".toList s)))

/-- The value of a written number. -/
def number? (text : List Char) : Option Number :=
  let (negative, body) := spanSign text
  let isSigned := body.length < text.length
  let signed (x : Float) : Number := .float (if negative then -x else x)
  if body = "Infinity".toList then
    if isSigned && !negative then none else some (signed (1.0 / 0.0))
  else if body = "NaN".toList then if isSigned && !negative then none else some (signed (0.0 / 0.0))
  else match body with
    | '0' :: 'x' :: digits | '0' :: 'X' :: digits =>
      let value : Nat := (digits.filterMap Json.hexValue?).foldl (fun n d => 16 * n + d) 0
      if isSigned || 0x100000000 ≤ value then none else some (.int (value : Nat))
    | _ =>
      if body.any fun c => c = '.' || c = 'e' || c = 'E' then
        (readFloat? (String.ofList text)).bind fun x => if x.isInf then none else some (.float x)
      else (readInt64? (String.ofList text)).map Number.int

/-- A number. -/
def number : Reader Json := do
  let s ← get
  let sign := (s.take 1).filter fun c => c = '+' || c = '-'
  let numeral ← numeral? (s.drop sign.length)
  set (s.drop (sign.length + numeral.length))
  return .num (← number? (sign ++ numeral))

mutual

/-- A value. -/
def value : Nat → Reader Json
  | 0 => failure
  | fuel + 1 => do
    if ← accept "null".toList then return .null
    else if ← accept "true".toList then return .bool true
    else if ← accept "false".toList then return .bool false
    else match (← get).head? with
      | some '"' | some '\'' => return .str (← quoted)
      | some '[' => expect ['[']; items fuel []
      | some '\x7b' => expect ['\x7b']; members fuel []
      | _ => number

/-- The items of a list up to its closing bracket, collected in reverse. -/
def items : Nat → List Json → Reader Json
  | 0, _ => failure
  | fuel + 1, collected => do
    toNextPart
    if ← accept [']'] then return .arr collected.reverse
    if !collected.isEmpty then
      expect [',']
      toNextPart
      if ← accept [']'] then return .arr collected.reverse
    let item ← value fuel
    items fuel (item :: collected)

/-- The members of an object up to its closing brace. -/
def members : Nat → Fields → Reader Json
  | 0, _ => failure
  | fuel + 1, fields => do
    toNextPart
    if ← accept ['\x7d'] then return .obj fields
    if !fields.isEmpty then
      expect [',']
      toNextPart
      if ← accept ['\x7d'] then return .obj fields
    let name ← key
    toNextPart
    expect [':']
    toNextPart
    let item ← value fuel
    members fuel (Entries.put fields name item)

end

/-- The value of a whole text. -/
def parse? (text : String) : Option Json :=
  Reader.readAll? (do
    toNextPart
    let json ← value (text.length + 1)
    toNextPart
    return json) text.toList

end Json5

end RecordSchema
