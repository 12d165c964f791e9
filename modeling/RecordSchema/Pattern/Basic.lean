import RecordSchema.Text.CharSet

/-!
# Regular expressions

A pattern is built from sets of characters, anchors, sequences, choices and repetitions. Flags leave
no trace: they have already changed the sets and anchors that they govern. Groups whose match is
kept and the preference of a repetition are recorded, although only the existence of a match is
asked for, because the size of a pattern depends on them.

## Main definitions

* `Anchor`: a condition on a position in the text.
* `Pattern`: the expressions.
* `Pattern.items`, `Pattern.branches`: a sequence or choice as a list.
-/

namespace RecordSchema

/-- A condition on a position between two characters of a text. The flag `unicode` says whether
words are made of all word characters or of the ASCII ones only. -/
inductive Anchor where
  /-- The start of the text. -/
  | textStart
  /-- The end of the text. -/
  | textEnd
  /-- The start of a line; with `crlf` a carriage return ends a line too. -/
  | lineStart (crlf : Bool)
  /-- The end of a line. -/
  | lineEnd (crlf : Bool)
  /-- Between a word character and none. -/
  | wordEdge (unicode : Bool)
  /-- Between two word characters or two others. -/
  | notWordEdge (unicode : Bool)
  /-- Where a word starts. -/
  | wordStart (unicode : Bool)
  /-- Where a word ends. -/
  | wordEnd (unicode : Bool)
  /-- Where no word character precedes. -/
  | noWordBefore (unicode : Bool)
  /-- Where no word character follows. -/
  | noWordAfter (unicode : Bool)
deriving DecidableEq, Repr

/-- A regular expression. -/
inductive Pattern where
  /-- Matches the empty text. -/
  | empty
  /-- Matches one character of a set. -/
  | char (set : CharSet)
  /-- Matches the empty text at certain positions. -/
  | anchor (condition : Anchor)
  /-- Matches a pattern and keeps the match under a number. -/
  | group (index : Nat) (body : Pattern)
  /-- Matches one pattern and then another. -/
  | seq (first second : Pattern)
  /-- Matches either of two patterns. -/
  | alt (left right : Pattern)
  /-- Matches a pattern at least `least` times and, if given, at most `most` times; `eager` when
  many times are preferred. -/
  | repeated (body : Pattern) (least : Nat) (most : Option Nat) (eager : Bool)
deriving DecidableEq

namespace Pattern

/-- The pattern that matches nothing. -/
def never : Pattern := .char .empty

/-- The patterns that a pattern matches one after the other. -/
def items : Pattern → List Pattern
  | empty => []
  | seq first second => items first ++ items second
  | p => [p]

/-- The patterns any of which a pattern matches. -/
def branches : Pattern → List Pattern
  | alt left right => branches left ++ branches right
  | p => [p]

/-- The patterns one after the other. -/
def ofItems : List Pattern → Pattern
  | [] => empty
  | [p] => p
  | p :: rest => seq p (ofItems rest)

/-- Any one of the patterns. -/
def ofBranches : List Pattern → Pattern
  | [] => never
  | [p] => p
  | p :: rest => alt p (ofBranches rest)

/-- The code of the only character that a pattern matches. -/
def singleCode? : Pattern → Option Nat
  | char ⟨[(first, last)]⟩ => if first = last then some first else none
  | _ => none

end Pattern

end RecordSchema
