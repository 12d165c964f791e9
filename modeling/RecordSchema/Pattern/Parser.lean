import RecordSchema.Decimal.Reader
import RecordSchema.Pattern.Class
import RecordSchema.Pattern.Expression
import RecordSchema.Text.Blank
import RecordSchema.Text.Letters

/-!
# Reading regular expressions

The written form knows alternation, groups (plain, named, or with flags), classes in brackets with
ranges, nesting, intersection, difference and symmetric difference, named classes, anchors, escapes
and counted repetition. Back references and look-around are refused.

The reader is a fold over the text with a `Cursor` as its state: the characters to come, whether
blanks and comments are skipped, the number of groups and the names already taken.

## Main definitions

* `Expression.parse?`: the expression of a text, or `none` when the text is none or is nested too
  deeply.

## Termination

`PatternText.classBody` and `PatternText.branches` take a bound on the number of steps; every step
takes at least one character, so one more than the length of the text is always enough. All other
functions descend on the characters to come.
-/

namespace RecordSchema

namespace PatternText

/-- The state of the reader. -/
structure Cursor where
  /-- The characters to come. -/
  rest : List Char
  /-- Whether blanks and comments are skipped. -/
  verbose : Bool := false
  /-- The number of groups opened so far whose matches are kept. -/
  groups : Nat := 0
  /-- The names of those groups. -/
  names : List String := []

/-- A step of the reader; it may fail. -/
abbrev Reader := StateT Cursor Option

/-- The next character, if there is one. -/
def peek? : Reader (Option Char) := do
  return (← get).rest.head?

/-- Takes the next character. -/
def next : Reader Char := do
  let cursor ← get
  match cursor.rest with
  | c :: rest => set { cursor with rest }; return c
  | [] => failure

/-- Goes over the given characters if they come next. -/
def accept (word : List Char) : Reader Bool := do
  let cursor ← get
  if word.isPrefixOf cursor.rest then
    set { cursor with rest := cursor.rest.drop word.length }
    return true
  else return false

/-- Goes over the given character or fails. -/
def expect (c : Char) : Reader Unit := do
  if (← next) ≠ c then failure

/-- Drops blanks and comments: `comment` says whether the front lies in a comment. -/
def dropVerbose (comment : Bool) : List Char → List Char
  | [] => []
  | c :: rest =>
    if comment then dropVerbose (c ≠ '\n') rest
    else if isBlank c then dropVerbose false rest
    else if c = '#' then dropVerbose true rest
    else c :: rest

/-- Skips blanks and comments where they are to be skipped. -/
def skipVerbose : Reader Unit :=
  modify fun cursor =>
    if cursor.verbose then { cursor with rest := dropVerbose false cursor.rest } else cursor

/-- The characters at the front that satisfy a test, at most `limit` of them, and the rest. Blanks
and comments among them and after them are dropped if `verbose` is set. -/
def spanLoosely (verbose : Bool) (test : Char → Bool) (limit : Nat) (comment : Bool) :
    List Char → List Char × List Char
  | [] => ([], [])
  | c :: rest =>
    if comment then spanLoosely verbose test limit (c ≠ '\n') rest
    else if verbose && isBlank c then spanLoosely verbose test limit false rest
    else if verbose && c = '#' then spanLoosely verbose test limit true rest
    else if limit ≠ 0 && test c then
      let (found, rest) := spanLoosely verbose test (limit - 1) false rest
      (c :: found, rest)
    else ([], c :: rest)

/-- Takes the characters at the front that satisfy a test, at most `limit` of them. -/
def takeLoosely (test : Char → Bool) (limit : Nat) : Reader (List Char) := do
  let cursor ← get
  let (found, rest) := spanLoosely cursor.verbose test limit false cursor.rest
  set { cursor with rest }
  return found

/-- Takes what stands before the next closing brace, and the brace. -/
def takeBraced : Reader (List Char) := do
  let found ← takeLoosely (· ≠ '\x7d') (← get).rest.length
  expect '\x7d'
  return found

/-- Whether a character is a hexadecimal digit. -/
def isHexDigit (c : Char) : Bool :=
  c.isDigit || ('a' ≤ c && c ≤ 'f') || ('A' ≤ c && c ≤ 'F')

/-- The character whose code is written in hexadecimal digits, unless it is a surrogate or too
large. -/
def charOfDigits? (digits : List Char) : Option Char :=
  let code := CharSet.hexNumber (digits.map Char.toLower)
  if digits.isEmpty then none
  else if code < 0xD800 || (0xE000 ≤ code && code ≤ CharSet.maxCode) then some (Char.ofNat code)
  else none

/-- The character of a hexadecimal escape: a fixed number of digits, or any number in braces. Two
digits without braces write a byte. -/
def hexEscape (digits : Nat) : Reader WrittenChar := do
  skipVerbose
  if ← accept ['\x7b'] then
    let found ← takeBraced
    skipVerbose
    if !found.all isHexDigit then failure
    return { char := ← (charOfDigits? found : Option Char) }
  else
    let found ← takeLoosely isHexDigit digits
    if found.length ≠ digits then failure
    return { char := ← (charOfDigits? found : Option Char), isByte := digits == 2 }

/-- Splits a text at the first place where a mark stands. -/
def splitAtMark? (mark : List Char) : List Char → Option (List Char × List Char)
  | [] => none
  | c :: rest =>
    if mark.isPrefixOf (c :: rest) then some ([], (c :: rest).drop mark.length)
    else (splitAtMark? mark rest).map fun (before, after) => (c :: before, after)

/-- The class named between braces after `\p`, and whether its name negates it. -/
def className (name : List Char) : ClassName × Bool :=
  let valued (parts : List Char × List Char) : ClassName :=
    .valued (String.ofList parts.1) (String.ofList parts.2)
  match splitAtMark? ['!', '='] name with
  | some parts => (valued parts, true)
  | none =>
    match (splitAtMark? [':'] name).or (splitAtMark? ['='] name) with
    | some parts => (valued parts, false)
    | none => (.single (String.ofList name), false)

/-- The class after `\p` or `\P`. -/
def unicodeEscape (negated : Bool) : Reader Members := do
  skipVerbose
  if ← accept ['\x7b'] then
    let (name, flipped) := className (← takeBraced)
    return .named name (negated != flipped)
  else
    let c ← next
    if c = '\\' then failure
    return .named (.single (String.singleton c)) negated

/-- What an escape stands for. -/
inductive Escape where
  /-- A single character. -/
  | char (written : WrittenChar)
  /-- A class of characters. -/
  | members (set : Members)
  /-- A condition on the position. -/
  | position (sign : PositionSign)

/-- The sides of words that can be named between braces after `\b`. -/
def wordSides : List (String × PositionSign) :=
  [("start", .wordStart), ("end", .wordEnd), ("start-half", .noWordBefore),
    ("end-half", .noWordAfter)]

/-- Whether a character may stand in the name of a side of words. -/
def isSideChar (c : Char) : Bool := c.isAlpha || c = '-'

/-- The sign after `\b`: the edge of a word, or the side of a word named between braces. Braces
that do not start with a letter belong to a repetition. -/
def wordSign : Reader PositionSign := do
  let cursor ← get
  if ← accept ['\x7b'] then
    skipVerbose
    match ← peek? with
    | none => failure
    | some c =>
      if isSideChar c then
        let name ← takeLoosely isSideChar cursor.rest.length
        expect '\x7d'
        (wordSides.lookup (String.ofList name) : Option _)
      else
        set cursor
        return .wordEdge
  else return .wordEdge

/-- Reads what stands after a backslash. -/
def escape : Reader Escape := do
  let c ← next
  let char (c : Char) : Escape := .char { char := c }
  match c with
  | 'x' => return .char (← hexEscape 2)
  | 'u' => return .char (← hexEscape 4)
  | 'U' => return .char (← hexEscape 8)
  | 'p' => return .members (← unicodeEscape false)
  | 'P' => return .members (← unicodeEscape true)
  | 'd' => return .members (.letter .digit false)
  | 'D' => return .members (.letter .digit true)
  | 's' => return .members (.letter .blank false)
  | 'S' => return .members (.letter .blank true)
  | 'w' => return .members (.letter .word false)
  | 'W' => return .members (.letter .word true)
  | 'a' => return char '\x07'
  | 'f' => return char '\x0c'
  | 't' => return char '\t'
  | 'n' => return char '\n'
  | 'r' => return char '\r'
  | 'v' => return char '\x0b'
  | 'A' => return .position .textStart
  | 'z' => return .position .textEnd
  | 'b' => return .position (← wordSign)
  | 'B' => return .position .notWordEdge
  | '<' => return .position .wordStart
  | '>' => return .position .wordEnd
  | _ => if c.toNat < 128 && !c.isAlphanum then return char c else failure

/-- An ASCII class of the form `[:name:]` whose bracket is next; the cursor stays where it is when
there is none. -/
def asciiClass : Reader (Option Members) := do
  let cursor ← get
  match cursor.rest with
  | '[' :: ':' :: rest =>
    let (negated, rest) := match rest with
      | '^' :: rest => (true, rest)
      | rest => (false, rest)
    let name := rest.takeWhile (· ≠ ':')
    match asciiClass? (String.ofList name), rest.drop name.length with
    | some _, ':' :: ']' :: after =>
      set { cursor with rest := after }
      return some (.ascii (String.ofList name) negated)
    | _, _ => return none
  | _ => return none

/-- One member of a class in brackets: a character, or a class that cannot bound a range. -/
def classItem : Reader (WrittenChar ⊕ Members) := do
  let c ← next
  if c ≠ '\\' then return .inl { char := c }
  match ← escape with
  | .char written => return .inl written
  | .members set => return .inr set
  | .position _ => failure

/-- The character that decides whether the hyphen at the front stands for itself: the one after
it, blanks and the sign that starts a comment left out. -/
def afterHyphen? (verbose : Bool) (chars : List Char) : Option Char :=
  let rest := chars.tail
  if !verbose then rest.head?
  else
    let shown := rest.dropWhile isBlank
    let shown := match shown with
      | '#' :: comment => comment.dropWhile isBlank
      | _ => shown
    (shown.head?).or rest.head?

/-- One member or range of a class in brackets. A hyphen before the closing bracket, or before
another hyphen, stands for itself. -/
def classRange : Reader Members := do
  let first ← classItem
  skipVerbose
  let cursor ← get
  let following := afterHyphen? cursor.verbose cursor.rest
  if cursor.rest.isEmpty then failure
  if cursor.rest.head? ≠ some '-' || following = some ']' || following = some '-' then
    match first with
    | .inl written => return .char written
    | .inr set => return set
  else
    let _ ← next
    skipVerbose
    match first, ← classItem with
    | .inl low, .inl high =>
      if high.char < low.char then failure
      return .range low high
    | _, _ => failure

/-- The parts of a class as one; they come in reverse. -/
def partsOf (parts : List Members) : Members :=
  match parts with
  | [part] => part
  | parts => .union parts.reverse

/-- The operands of a class so far: the result up to the last operator, that operator, and the
parts collected since, in reverse. -/
structure Operands where
  /-- The left operand and the operator that waits for its right one. -/
  pending : Option (Members × ClassOp) := none
  /-- The parts of the operand being read. -/
  current : List Members := []

/-- Applies the waiting operator, if any. -/
def Operands.close (operands : Operands) : Members :=
  match operands.pending with
  | none => partsOf operands.current
  | some (left, op) => .joined op left (partsOf operands.current)

/-- The operator that comes next in a class, if one does. -/
def classOp? : Reader (Option ClassOp) := do
  if ← accept ['&', '&'] then return some .inter
  else if ← accept ['-', '-'] then return some .diff
  else if ← accept ['~', '~'] then return some .symmDiff
  else return none

/-- The start of a class after its bracket: negation, then hyphens or one closing bracket that
stand for themselves. -/
def classOpening : Reader (Bool × List Members) := do
  skipVerbose
  let negated ← accept ['^']
  skipVerbose
  let hyphens ← takeLoosely (· = '-') (← get).rest.length
  let parts := hyphens.map fun c => Members.char { char := c }
  if parts.isEmpty then
    if ← accept [']'] then return (negated, [.char { char := ']' }])
  return (negated, parts)

/-- Reads a class up to its closing bracket. -/
def classBody : Nat → Operands → Reader Members
  | 0, _ => failure
  | fuel + 1, operands => do
    skipVerbose
    let add (part : Members) := { operands with current := part :: operands.current }
    match ← peek? with
    | none => failure
    | some ']' =>
      let _ ← next
      return operands.close
    | some '[' =>
      match ← asciiClass with
      | some part => classBody fuel (add part)
      | none =>
        let _ ← next
        let (negated, opening) ← classOpening
        let inner ← classBody fuel { current := opening }
        classBody fuel (add (.bracketed inner negated))
    | some _ =>
      match ← classOp? with
      | some op => classBody fuel { pending := some (operands.close, op) }
      | none => classBody fuel (add (← classRange))

/-- A class whose opening bracket is next. -/
def bracketed : Reader Members := do
  let _ ← next
  let (negated, opening) ← classOpening
  let members ← classBody ((← get).rest.length + 1) { current := opening }
  return .bracketed members negated

/-- Whether a character may stand in a group name, at its start or later. -/
def isNameChar (first : Bool) (c : Char) : Bool :=
  c = '_' || nameLetters.contains c
    || (!first && (c = '.' || c = '[' || c = ']' || nameNumbers.contains c))

/-- Counts a group whose match is kept. -/
def captured : Reader GroupKind := do
  modify fun cursor => { cursor with groups := cursor.groups + 1 }
  return .captured (← get).groups

/-- Reads a group name up to its closing angle bracket; a name may be taken once only. -/
def groupName : Reader Unit := do
  let cursor ← get
  let name := cursor.rest.takeWhile (· ≠ '>')
  set { cursor with rest := cursor.rest.drop name.length }
  expect '>'
  let text := String.ofList name
  match name with
  | [] => failure
  | c :: more =>
    if !isNameChar true c || !more.all (isNameChar false) || cursor.names.contains text then failure
    modify fun cursor => { cursor with names := text :: cursor.names }

/-- The flag with a letter. -/
def flagOf? (c : Char) : Option PatternFlag :=
  [('i', PatternFlag.ignoreCase), ('m', .multiLine), ('s', .dotAll), ('U', .swapGreed),
    ('u', .unicode), ('R', .crlf), ('x', .verbose)].lookup c

/-- The flags after a question mark: `seen` holds those so far in reverse, `on` says that no minus
sign has passed, `dangling` that none followed it. They end at a colon or a closing parenthesis. -/
def flagSetting? (seen : FlagSetting) (on dangling : Bool) :
    List Char → Option (FlagSetting × Char × List Char)
  | [] => none
  | c :: rest =>
    if c = ':' || c = ')' then if dangling then none else some (seen.reverse, c, rest)
    else if c = '-' then if on then flagSetting? seen false true rest else none
    else
      match flagOf? c with
      | none => none
      | some flag =>
        if seen.any (·.1 = flag) then none else flagSetting? ((flag, on) :: seen) on false rest

/-- What an opening parenthesis starts: flags for the rest of the enclosing group, or a group. -/
inductive GroupHead where
  /-- A setting of flags. -/
  | settings (setting : FlagSetting)
  /-- A group with a body. -/
  | group (kind : GroupKind)

/-- Takes up the flag that the reader itself looks at. -/
def noteVerbose (setting : FlagSetting) : Reader Unit :=
  modify fun cursor => { cursor with verbose := (setting.lookup .verbose).getD cursor.verbose }

/-- Reads what follows an opening parenthesis up to the body of the group. -/
def groupHead : Reader GroupHead := do
  skipVerbose
  for look in ["?=", "?!", "?<=", "?<!"] do
    if ← accept look.toList then failure
  for start in ["?P<", "?<"] do
    if ← accept start.toList then
      let kind ← captured
      groupName
      return .group kind
  if ← accept ['?'] then
    let (setting, mark, rest) ← (flagSetting? [] true false (← get).rest : Option _)
    if mark = ')' && setting.isEmpty then failure
    modify fun cursor => { cursor with rest }
    noteVerbose setting
    return if mark = ')' then .settings setting else .group (.flagged setting)
  return .group (← captured)

/-- A decimal count with blanks around it, below `2 ^ 32`. -/
def count? : Reader (Option Nat) := do
  modify fun cursor => { cursor with rest := cursor.rest.dropWhile isBlank }
  let digits ← takeLoosely Char.isDigit (← get).rest.length
  modify fun cursor => { cursor with rest := cursor.rest.dropWhile isBlank }
  if digits.isEmpty then return none
  if digitsValue digits < 0x100000000 then return some (digitsValue digits) else failure

/-- The bounds of a counted repetition after its opening brace. -/
def bounds : Reader (Nat × Option Nat) := do
  skipVerbose
  let some least ← count? | failure
  if ← accept [','] then
    skipVerbose
    if ← accept ['\x7d'] then return (least, none)
    let some most ← count? | failure
    expect '\x7d'
    if most < least then failure
    return (least, some most)
  expect '\x7d'
  return (least, some least)

/-- The expression of a single character or escape. -/
def primitive (c : Char) : Reader Expression := do
  match c with
  | '.' => return .dot
  | '^' => return .position .lineStart
  | '$' => return .position .lineEnd
  | '\\' =>
    match ← escape with
    | .char written => return .char written
    | .members set => return .members set
    | .position sign => return .position sign
  | c => return .char { char := c }

/-- The items of a branch as one expression; they come in reverse. -/
def branchOf (items : List Expression) : Expression :=
  match items with
  | [] => .empty
  | [item] => item
  | items => .sequence items.reverse

/-- The branches of a group as one expression; they come in reverse. -/
def groupBody (branches : List Expression) : Expression :=
  match branches with
  | [branch] => branch
  | branches => .choice branches.reverse

/-- Repeats the last item, which must be there and not be a setting of flags. -/
def repeatLast (items : List Expression) (least : Nat) (most : Option Nat) :
    Reader (List Expression) := do
  let isLazy ← accept ['?']
  match items with
  | .settings _ :: _ | [] => failure
  | item :: before => return .repeated item least most isLazy :: before

/-- Reads branches up to the end of the text or the closing parenthesis of the group, which is
left for the caller. The branches done and the items of the current one come in reverse. -/
def branches : Nat → List Expression → List Expression → Reader Expression
  | 0, _, _ => failure
  | fuel + 1, done, items => do
    skipVerbose
    match ← peek? with
    | none | some ')' => return groupBody (branchOf items :: done)
    | some '[' => branches fuel done (.members (← bracketed) :: items)
    | some c =>
      let _ ← next
      match c with
      | '|' => branches fuel (branchOf items :: done) []
      | '(' =>
        let verbose := (← get).verbose
        match ← groupHead with
        | .settings setting => branches fuel done (.settings setting :: items)
        | .group kind =>
          let body ← branches fuel [] []
          expect ')'
          modify fun cursor => { cursor with verbose }
          branches fuel done (.group kind body :: items)
      | '*' => branches fuel done (← repeatLast items 0 none)
      | '+' => branches fuel done (← repeatLast items 1 none)
      | '?' => branches fuel done (← repeatLast items 0 (some 1))
      | '\x7b' =>
        let (least, most) ← bounds
        skipVerbose
        branches fuel done (← repeatLast items least most)
      | c => branches fuel done ((← primitive c) :: items)

end PatternText

/-- The expression of a whole text. -/
def Expression.parse? (text : String) : Option Expression :=
  let chars := text.toList
  match (PatternText.branches (chars.length + 1) [] []).run { rest := chars } with
  | some (expression, cursor) =>
    if cursor.rest.isEmpty && expression.depth ≤ depthLimit then some expression else none
  | none => none

end RecordSchema
