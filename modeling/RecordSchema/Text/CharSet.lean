/-!
# Sets of characters as ranges of code points

A set is a list of ranges. The operations keep the ranges sorted and apart from each other, so its
complement is the list of the gaps.

## Main definitions

* `CharSet.contains`: membership.
* `CharSet.ofRanges`, `CharSet.ofText`, `CharSet.ofRows`: a set from ranges in any order, or from a
  table in text.
* `CharSet.union`, `CharSet.compl`, `CharSet.inter`, `CharSet.diff`, `CharSet.symmDiff`.

## Termination

All functions descend on lists of ranges or characters.
-/

namespace RecordSchema

/-- A set of code points: each pair is a first and a last member. -/
structure CharSet where
  /-- The ranges, in increasing order. -/
  ranges : List (Nat × Nat)
deriving DecidableEq

namespace CharSet

/-- The largest code point. -/
def maxCode : Nat := 0x10FFFF

/-- The set without members. -/
def empty : CharSet := ⟨[]⟩

/-- The set of all code points. -/
def all : CharSet := ⟨[(0, maxCode)]⟩

/-- Whether a code point is a member. -/
def holds (set : CharSet) (code : Nat) : Bool :=
  set.ranges.any fun (first, last) => first ≤ code && code ≤ last

/-- Whether a character is a member. -/
def contains (set : CharSet) (c : Char) : Bool :=
  set.holds c.toNat

/-- Joins neighbouring ranges of a list sorted by first member; `current` is the range at hand. -/
def joinRanges (current : Nat × Nat) : List (Nat × Nat) → List (Nat × Nat)
  | [] => [current]
  | (first, last) :: rest =>
    if first ≤ current.2 + 1 then joinRanges (current.1, max current.2 last) rest
    else current :: joinRanges (first, last) rest

/-- The set of the members of all ranges, given in any order. -/
def ofRanges (ranges : List (Nat × Nat)) : CharSet :=
  match ranges.mergeSort (fun a b => a.1 ≤ b.1) with
  | [] => empty
  | range :: rest => ⟨joinRanges range rest⟩

/-- Whether all members are ASCII characters. -/
def isAscii (set : CharSet) : Bool :=
  set.ranges.all fun (_, last) => last < 128

/-- The members of either set. -/
def union (a b : CharSet) : CharSet :=
  ofRanges (a.ranges ++ b.ranges)

/-- The code of the character after one: the surrogates are no characters. -/
def after (code : Nat) : Nat :=
  if code = 0xD7FF then 0xE000 else code + 1

/-- The code of the character before one. -/
def before (code : Nat) : Nat :=
  if code = 0xE000 then 0xD7FF else code - 1

/-- The gaps after a range that ends with `last`. A gap goes from the character after one range to
the character before the next; where only surrogates lie between them, so that these two come in the
other order, it goes from the lesser to the greater. -/
def gapsAfter (last : Nat) : List (Nat × Nat) → List (Nat × Nat)
  | [] => if last < maxCode then [(after last, maxCode)] else []
  | (first, nextLast) :: rest =>
    (min (after last) (before first), max (after last) (before first)) :: gapsAfter nextLast rest

/-- The characters that are not members, as the gaps between the ranges. -/
def compl (set : CharSet) : CharSet :=
  match set.ranges with
  | [] => all
  | (first, last) :: rest =>
    ⟨(if 0 < first then [(0, before first)] else []) ++ gapsAfter last rest⟩

/-- The members of both sets. -/
def inter (a b : CharSet) : CharSet :=
  ⟨a.ranges.flatMap fun (first, last) => b.ranges.filterMap fun (first', last') =>
    if max first first' ≤ min last last' then some (max first first', min last last') else none⟩

/-- What is left of a range without the members of other ranges. -/
def cut (first last : Nat) : List (Nat × Nat) → List (Nat × Nat)
  | [] => [(first, last)]
  | (first', last') :: rest =>
    if last' < first then cut first last rest
    else if last < first' then [(first, last)]
    else
      (if first < first' then [(first, before first')] else []) ++
        (if last' < last then cut (after last') last rest else [])

/-- The members of the first set that are not in the second. -/
def diff (a b : CharSet) : CharSet :=
  ⟨a.ranges.flatMap fun (first, last) => cut first last b.ranges⟩

/-- The members of exactly one of the sets. -/
def symmDiff (a b : CharSet) : CharSet :=
  (a.union b).diff (a.inter b)

/-- The value of lower-case hexadecimal digits. -/
def hexNumber (digits : List Char) : Nat :=
  digits.foldl (fun n c => 16 * n + (if c.isDigit then c.toNat - '0'.toNat else c.toNat - 87)) 0

/-- A range written `first-last`, or a single member. -/
def rangeOfText (text : List Char) : Nat × Nat :=
  match text.splitOn '-' with
  | [first, last] => (hexNumber first, hexNumber last)
  | _ => (hexNumber text, hexNumber text)

/-- The set of one code point. -/
def single (code : Nat) : CharSet := ⟨[(code, code)]⟩

/-- The members of all the sets. -/
def unions (sets : List CharSet) : CharSet :=
  ofRanges (sets.flatMap CharSet.ranges)

/-- The set of a table: ranges in hexadecimal, separated by blanks. -/
def ofText (text : String) : CharSet :=
  ofRanges (((text.toList.splitOn ' ').filter (!·.isEmpty)).map rangeOfText)

/-- The set of a table in several rows. -/
def ofRows (rows : List String) : CharSet :=
  ofRanges (rows.flatMap fun row => (ofText row).ranges)

end CharSet

end RecordSchema
