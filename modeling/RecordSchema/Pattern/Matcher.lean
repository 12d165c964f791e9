import RecordSchema.Pattern.Basic
import RecordSchema.Pattern.Class

/-!
# Searching a text for a pattern

A text of `n` characters has the positions `0` to `n`. A set of positions is a natural number
whose bit `i` says whether position `i` is in the set. For a text, a pattern becomes a `Trail`, in
which the sets of characters and the anchors are replaced by the positions at which they hold.
`Trail.reach` maps a set of positions to the set of those at which a match may end that starts in
the given set; it follows the trail, so a sequence is a composition and a choice a union. A
repetition without an upper bound is iterated until nothing new is reached, which takes at most as
many rounds as there are positions.

## Main definitions

* `Pattern.Text`, `Pattern.Text.trail`: a text and the pattern as it looks there.
* `Pattern.Trail.reach`: the ends of matches that start at given positions.
* `Pattern.occursIn`: whether the pattern matches anywhere in a text.

## Termination

`trail` and `reach` descend on the pattern, `grow` and `upTo` on a number of rounds.
-/

namespace RecordSchema

namespace Pattern

/-- A set of positions: bit `i` stands for position `i`. -/
abbrev Positions := Nat

/-- The positions whose following character satisfies a test. -/
def positionsBefore (test : Char → Bool) : List Char → Positions
  | [] => 0
  | c :: rest => 2 * positionsBefore test rest + (if test c then 1 else 0)

/-- A text that is searched. -/
structure Text where
  /-- The characters. -/
  chars : List Char

namespace Text

/-- All positions of a text. -/
def positions (text : Text) : Positions :=
  Nat.pow 2 (text.chars.length + 1) - 1

/-- The positions at which a condition on the neighbours holds. -/
def positionsWhere (test : Option Char → Option Char → Bool) (before : Option Char) :
    List Char → Positions
  | [] => if test before none then 1 else 0
  | c :: rest =>
    2 * positionsWhere test (some c) rest + (if test before (some c) then 1 else 0)

/-- Whether an anchor holds between two neighbours; `none` is the end of the text. -/
def holdsBetween (condition : Anchor) (words : CharSet) (before after : Option Char) : Bool :=
  let word (c : Option Char) : Bool := c.any words.contains
  match condition with
  | .textStart => before.isNone
  | .textEnd => after.isNone
  | .lineStart false => before.isNone || before == some '\n'
  | .lineStart true =>
    before.isNone || before == some '\n' || (before == some '\r' && after != some '\n')
  | .lineEnd false => after.isNone || after == some '\n'
  | .lineEnd true =>
    after.isNone || after == some '\r' || (after == some '\n' && before != some '\r')
  | .wordEdge _ => word before != word after
  | .notWordEdge _ => word before == word after
  | .wordStart _ => !word before && word after
  | .wordEnd _ => word before && !word after
  | .noWordBefore _ => !word before
  | .noWordAfter _ => !word after

/-- The word characters that an anchor looks at. -/
def wordsOf : Anchor → CharSet
  | .wordEdge unicode | .notWordEdge unicode | .wordStart unicode | .wordEnd unicode
  | .noWordBefore unicode | .noWordAfter unicode => wordClass unicode
  | _ => .empty

/-- The positions at which an anchor holds. -/
def anchored (text : Text) (condition : Anchor) : Positions :=
  positionsWhere (holdsBetween condition (wordsOf condition)) none text.chars

/-- Adds what one more step reaches until nothing new comes, for at most the given rounds. -/
def grow (step : Positions → Positions) : Nat → Positions → Positions
  | 0, reached => reached
  | rounds + 1, reached =>
    let next := reached ||| step reached
    if next = reached then reached else grow step rounds next

/-- What exactly the given number of steps reaches. -/
def after (step : Positions → Positions) : Nat → Positions → Positions
  | 0, reached => reached
  | count + 1, reached => if reached = 0 then 0 else after step count (step reached)

/-- What at most the given number of steps reaches. -/
def upTo (step : Positions → Positions) : Nat → Positions → Positions
  | 0, reached => reached
  | count + 1, reached =>
    let next := reached ||| step reached
    if next = reached then reached else upTo step count next

end Text

/-- A pattern as it looks in one text. -/
inductive Trail where
  /-- Stays at a position. -/
  | stay
  /-- Goes over the character after any of the positions. -/
  | step (positions : Positions)
  /-- Stays at any of the positions. -/
  | hold (positions : Positions)
  /-- One trail and then another. -/
  | seq (first second : Trail)
  /-- Either of two trails. -/
  | alt (left right : Trail)
  /-- A trail at least `least` times and, if given, at most `most` times. -/
  | repeated (body : Trail) (least : Nat) (most : Option Nat)

/-- The pattern as it looks in a text. -/
def Text.trail (text : Text) : Pattern → Trail
  | .empty => .stay
  | .char set => .step (positionsBefore set.contains text.chars)
  | .anchor condition => .hold (text.anchored condition)
  | .group _ body => text.trail body
  | .seq first second => .seq (text.trail first) (text.trail second)
  | .alt left right => .alt (text.trail left) (text.trail right)
  | .repeated body least most _ => .repeated (text.trail body) least most

/-- The positions at which a match may end that starts at one of the given positions; `rounds` is
the number of positions of the text. -/
def Trail.reach (rounds : Nat) : Trail → Positions → Positions
  | stay, starts => starts
  | step positions, starts => (starts &&& positions) <<< 1
  | hold positions, starts => starts &&& positions
  | seq first second, starts => second.reach rounds (first.reach rounds starts)
  | alt left right, starts => left.reach rounds starts ||| right.reach rounds starts
  | repeated body least most, starts =>
    let started := Text.after (body.reach rounds) least starts
    match most with
    | none => Text.grow (body.reach rounds) rounds started
    | some most => Text.upTo (body.reach rounds) (most - least) started

/-- Whether the pattern matches somewhere in a text. -/
def occursIn (pattern : Pattern) (s : String) : Bool :=
  let text : Text := ⟨s.toList⟩
  (text.trail pattern).reach (text.chars.length + 1) text.positions != 0

end Pattern

end RecordSchema
