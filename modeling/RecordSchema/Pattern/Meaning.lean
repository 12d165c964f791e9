import RecordSchema.Pattern.Class
import RecordSchema.Pattern.Construction
import RecordSchema.Pattern.Expression
import RecordSchema.Text.CaseClasses

/-!
# What written expressions mean

Flags change what characters, classes and anchors stand for. They are in force from where they are
set to the end of the enclosing group. Outside Unicode mode classes hold ASCII characters only; what
would match anything else, such as a complement or the dot, has no meaning there.

## Main definitions

* `PatternFlags`: what the flags in force say.
* `Members.set?`: the characters of a class.
* `Expression.pattern?`: the pattern of an expression.

## Termination

Both functions descend on what is written.
-/

namespace RecordSchema

/-- The flags in force. -/
structure PatternFlags where
  /-- Letter case does not matter. -/
  ignoreCase : Bool := false
  /-- Anchors look at lines. -/
  multiLine : Bool := false
  /-- The dot matches a line feed too. -/
  dotAll : Bool := false
  /-- Repetitions prefer few rounds unless marked otherwise. -/
  swapGreed : Bool := false
  /-- Classes hold more than ASCII. -/
  unicode : Bool := true
  /-- A carriage return ends a line too. -/
  crlf : Bool := false
deriving DecidableEq, Repr

namespace PatternFlags

/-- The flags after one of them was set. Skipping blanks is over when an expression is read. -/
def set (flags : PatternFlags) : PatternFlag × Bool → PatternFlags
  | (.ignoreCase, on) => { flags with ignoreCase := on }
  | (.multiLine, on) => { flags with multiLine := on }
  | (.dotAll, on) => { flags with dotAll := on }
  | (.swapGreed, on) => { flags with swapGreed := on }
  | (.unicode, on) => { flags with unicode := on }
  | (.crlf, on) => { flags with crlf := on }
  | (.verbose, _) => flags

/-- The flags after a setting. -/
def apply (flags : PatternFlags) (setting : FlagSetting) : PatternFlags :=
  setting.foldl set flags

/-- The set together with the case variants that the flags ask for. -/
def folded (flags : PatternFlags) (set : CharSet) : CharSet :=
  if !flags.ignoreCase then set
  else if flags.unicode then set.ignoringCase
  else set.ignoringAsciiCase

/-- A set as it is meant: with case variants and then, if asked for, complemented. -/
def finished? (flags : PatternFlags) (set : CharSet) (negated : Bool) : Option CharSet :=
  let set := flags.folded set
  let set := if negated then set.compl else set
  if flags.unicode || set.isAscii then some set else none

/-- The code of a character inside a class. -/
def classCode? (flags : PatternFlags) (written : WrittenChar) : Option Nat :=
  let code := written.char.toNat
  if flags.unicode || code < 128 then some code else none

end PatternFlags

/-- The members of a class with a one-letter escape. -/
def LetterClass.set (kind : LetterClass) (unicode : Bool) : CharSet :=
  match kind with
  | .digit => digitClass unicode
  | .blank => blankClass unicode
  | .word => wordClass unicode

/-- The members of a class of the Unicode standard. -/
def ClassName.set? : ClassName → Option CharSet
  | .single name => unicodeClass? name
  | .valued property value => unicodeValueClass? property value

mutual

/-- The characters of a class under the flags in force. -/
def Members.set? (flags : PatternFlags) : Members → Option CharSet
  | .char written => (flags.classCode? written).map .single
  | .range first last => do
    let first ← flags.classCode? first
    let last ← flags.classCode? last
    return ⟨[(first, last)]⟩
  | .ascii name negated => do flags.finished? (← asciiClass? name) negated
  | .letter kind negated =>
    let set := kind.set flags.unicode
    if negated then if flags.unicode then some set.compl else none else some set
  | .named name negated =>
    if flags.unicode then do flags.finished? (← name.set?) negated else none
  | .bracketed members negated => do flags.finished? (← members.set? flags) negated
  | .union parts => Members.unionSet? flags parts
  | .joined op left right => do
    let left ← left.set? flags
    let right ← right.set? flags
    let (left, right) := (flags.folded left, flags.folded right)
    match op with
    | .inter => return left.inter right
    | .diff => return left.diff right
    | .symmDiff => return left.symmDiff right

/-- The characters of all parts. -/
def Members.unionSet? (flags : PatternFlags) : List Members → Option CharSet
  | [] => some .empty
  | part :: parts => do
    return (← part.set? flags).union (← Members.unionSet? flags parts)

end

/-- The condition that a sign stands for. -/
def PositionSign.anchor (flags : PatternFlags) : PositionSign → Anchor
  | .lineStart => if flags.multiLine then .lineStart flags.crlf else .textStart
  | .lineEnd => if flags.multiLine then .lineEnd flags.crlf else .textEnd
  | .textStart => .textStart
  | .textEnd => .textEnd
  | .wordEdge => .wordEdge flags.unicode
  | .notWordEdge => .notWordEdge flags.unicode
  | .wordStart => .wordStart flags.unicode
  | .wordEnd => .wordEnd flags.unicode
  | .noWordBefore => .noWordBefore flags.unicode
  | .noWordAfter => .noWordAfter flags.unicode

/-- The pattern of a single character. -/
def WrittenChar.pattern? (flags : PatternFlags) (written : WrittenChar) : Option Pattern :=
  let code := written.char.toNat
  if flags.unicode then some (.char (flags.folded (.single code)))
  else if written.isByte && 128 ≤ code then none
  else if code < 128 then some (.char (flags.folded (.single code)))
  else some (.char (.single code))

/-- The pattern of the dot. -/
def dotPattern? (flags : PatternFlags) : Option Pattern :=
  if !flags.unicode then none
  else if flags.dotAll then some (.char .all)
  else if flags.crlf then some (.char (CharSet.ofText "a d").compl)
  else some (.char (CharSet.single 10).compl)

mutual

/-- The pattern of an expression under the flags in force, and the flags in force after it. -/
def Expression.meaning? (flags : PatternFlags) : Expression → Option (Pattern × PatternFlags)
  | .empty => some (.empty, flags)
  | .char written => (written.pattern? flags).map (·, flags)
  | .dot => (dotPattern? flags).map (·, flags)
  | .position sign => some (.anchor (sign.anchor flags), flags)
  | .members set => (set.set? flags).map fun set => (.char set, flags)
  | .settings setting => some (.empty, flags.apply setting)
  | .group (.captured index) body => do
    let (pattern, _) ← body.meaning? flags
    return (.group index pattern, flags)
  | .group (.flagged setting) body => do
    let (pattern, _) ← body.meaning? (flags.apply setting)
    return (pattern, flags)
  | .repeated body least most isLazy => do
    let (pattern, flags) ← body.meaning? flags
    return (.repetition pattern least most (isLazy == flags.swapGreed), flags)
  | .sequence items => do
    let (patterns, flags) ← Expression.meanings? flags items
    return (.sequence patterns, flags)
  | .choice branches => do
    let (patterns, flags) ← Expression.meanings? flags branches
    return (.choice patterns, flags)

/-- The patterns of expressions in turn: flags that one sets are in force for the next. -/
def Expression.meanings? (flags : PatternFlags) :
    List Expression → Option (List Pattern × PatternFlags)
  | [] => some ([], flags)
  | e :: rest => do
    let (pattern, flags) ← e.meaning? flags
    let (patterns, flags) ← Expression.meanings? flags rest
    return (pattern :: patterns, flags)

end

/-- The pattern of a whole expression. -/
def Expression.pattern? (expression : Expression) : Option Pattern :=
  (expression.meaning? {}).map Prod.fst

end RecordSchema
