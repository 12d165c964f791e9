/-!
# Regular expressions as they are written

An expression keeps what is written: groups, flags, names of classes. What it means under the flags
in force is said by `RecordSchema.Pattern.Meaning`; here only its nesting is measured, which is
bounded so that expressions can be worked on by recursion.

## Main definitions

* `Members`: the classes of characters, named or in brackets.
* `Expression`: the expressions.
* `Members.depth`, `Expression.depth`: how deeply they are nested.
-/

namespace RecordSchema

/-- A flag that an expression can turn on or off. -/
inductive PatternFlag where
  /-- Letter case does not matter. -/
  | ignoreCase
  /-- Anchors look at lines. -/
  | multiLine
  /-- The dot matches a line feed too. -/
  | dotAll
  /-- Repetitions prefer few rounds unless marked otherwise. -/
  | swapGreed
  /-- Classes hold more than ASCII. -/
  | unicode
  /-- A carriage return ends a line too. -/
  | crlf
  /-- Blanks and comments are skipped. -/
  | verbose
deriving DecidableEq, Repr

/-- Flags in the order in which they are set, each with whether it is turned on. -/
abbrev FlagSetting := List (PatternFlag × Bool)

/-- A character as it is written. -/
structure WrittenChar where
  /-- The character. -/
  char : Char
  /-- Whether it is written as a byte, with two hexadecimal digits. -/
  isByte : Bool := false
deriving DecidableEq, Repr

/-- The classes with a one-letter escape. -/
inductive LetterClass where
  /-- Digits. -/
  | digit
  /-- White space. -/
  | blank
  /-- Characters of words. -/
  | word
deriving DecidableEq, Repr

/-- The name of a class of the Unicode standard. -/
inductive ClassName where
  /-- A property, category or script. -/
  | single (name : String)
  /-- A value of a property. -/
  | valued (property value : String)
deriving DecidableEq, Repr

/-- How two operands of a class are joined. -/
inductive ClassOp where
  /-- Members of both. -/
  | inter
  /-- Members of the first only. -/
  | diff
  /-- Members of exactly one. -/
  | symmDiff
deriving DecidableEq, Repr

/-- A class of characters, or a part of one. -/
inductive Members where
  /-- One character. -/
  | char (written : WrittenChar)
  /-- All characters from one to another. -/
  | range (first last : WrittenChar)
  /-- An ASCII class by its name between colons. -/
  | ascii (name : String) (negated : Bool)
  /-- A class with a one-letter escape. -/
  | letter (kind : LetterClass) (negated : Bool)
  /-- A class of the Unicode standard. -/
  | named (name : ClassName) (negated : Bool)
  /-- A class in brackets. -/
  | bracketed (members : Members) (negated : Bool)
  /-- The members of all parts; there are none or at least two. -/
  | union (parts : List Members)
  /-- Two operands joined. -/
  | joined (op : ClassOp) (left right : Members)

/-- A sign for a condition on a position. -/
inductive PositionSign where
  /-- The start of the text or of a line. -/
  | lineStart
  /-- The end of the text or of a line. -/
  | lineEnd
  /-- The start of the text. -/
  | textStart
  /-- The end of the text. -/
  | textEnd
  /-- The edge of a word. -/
  | wordEdge
  /-- No edge of a word. -/
  | notWordEdge
  /-- Where a word starts. -/
  | wordStart
  /-- Where a word ends. -/
  | wordEnd
  /-- Where no word character precedes. -/
  | noWordBefore
  /-- Where no word character follows. -/
  | noWordAfter
deriving DecidableEq, Repr

/-- What a group is for. -/
inductive GroupKind where
  /-- Its match is kept under a number. -/
  | captured (index : Nat)
  /-- It sets flags for its body. -/
  | flagged (setting : FlagSetting)
deriving DecidableEq, Repr

/-- An expression. -/
inductive Expression where
  /-- Nothing. -/
  | empty
  /-- One character. -/
  | char (written : WrittenChar)
  /-- The dot. -/
  | dot
  /-- A condition on the position. -/
  | position (sign : PositionSign)
  /-- A class of characters. -/
  | members (set : Members)
  /-- Flags for the rest of the enclosing group. -/
  | settings (setting : FlagSetting)
  /-- A group. -/
  | group (kind : GroupKind) (body : Expression)
  /-- A repetition; `lazy` when it is marked by a question mark. -/
  | repeated (body : Expression) (least : Nat) (most : Option Nat) (lazy : Bool)
  /-- Two expressions or more in turn. -/
  | sequence (items : List Expression)
  /-- One of two expressions or more. -/
  | choice (branches : List Expression)

mutual

/-- How deeply a class is nested: brackets, operators and lists of parts count. -/
def Members.depth : Members → Nat
  | .bracketed members _ => members.depth + 1
  | .union [] => 0
  | .union (part :: parts) => max part.depth (Members.depthOfAll parts) + 1
  | .joined _ left right => max left.depth right.depth + 1
  | _ => 0

/-- The greatest depth of the parts. -/
def Members.depthOfAll : List Members → Nat
  | [] => 0
  | part :: parts => max part.depth (Members.depthOfAll parts)

end

mutual

/-- How deeply an expression is nested: groups, repetitions, sequences, choices and classes in
brackets count. -/
def Expression.depth : Expression → Nat
  | .members set => set.depth
  | .group _ body => body.depth + 1
  | .repeated body _ _ _ => body.depth + 1
  | .sequence items => Expression.depthOfAll items + 1
  | .choice branches => Expression.depthOfAll branches + 1
  | _ => 0

/-- The greatest depth of the expressions. -/
def Expression.depthOfAll : List Expression → Nat
  | [] => 0
  | e :: rest => max e.depth (Expression.depthOfAll rest)

end

/-- The greatest depth that an expression may have. -/
def Expression.depthLimit : Nat := 250

end RecordSchema
