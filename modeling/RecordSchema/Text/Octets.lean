import RecordSchema.Text.CharSet

/-!
# Ranges of characters as sequences of octets

In UTF-8 a character is one to four octets. A range of characters is cut so that the characters of
each part are all sequences with their first octet in one range, their second in another, and so
on. The parts are as large as possible and in increasing order; surrogates are left out.

## Main definitions

* `octets`: the octets of a code point.
* `octetRanges`: the parts of a range.

## Termination

`cutRange` stops at a range that needs no cut; each part is smaller than the range.
-/

namespace RecordSchema

/-- The octets of a code point. -/
def octets (code : Nat) : List Nat :=
  if code < 0x80 then [code]
  else if code < 0x800 then [0xC0 + code / 0x40, 0x80 + code % 0x40]
  else if code < 0x10000 then
    [0xE0 + code / 0x1000, 0x80 + code / 0x40 % 0x40, 0x80 + code % 0x40]
  else [0xF0 + code / 0x40000, 0x80 + code / 0x1000 % 0x40, 0x80 + code / 0x40 % 0x40,
    0x80 + code % 0x40]

/-- Where a range must be cut so that the octets after the first range freely in both parts:
`size` is the number of characters that differ in the last octets only. -/
def cutAtBlock? (first last size : Nat) : Option Nat :=
  if first / size = last / size then none
  else if first % size ≠ 0 then some ((first / size + 1) * size)
  else if last % size ≠ size - 1 then some (last / size * size)
  else none

/-- The first code point of the second part of a range that must be cut: between characters with
different numbers of octets, or between blocks. -/
def cut? (first last : Nat) : Option Nat :=
  match [0x80, 0x800, 0x10000].find? fun start => first < start && start ≤ last with
  | some start => some start
  | none =>
    if last < 0x80 then none
    else [0x40, 0x1000, 0x40000].findSome? (cutAtBlock? first last)

/-- The parts of a range without surrogates. -/
def cutRange (first last : Nat) : List (List (Nat × Nat)) :=
  match cut? first last with
  | some middle =>
    if _h : first < middle ∧ middle ≤ last then
      cutRange first (middle - 1) ++ cutRange middle last
    else []
  | none => if first ≤ last then [(octets first).zip (octets last)] else []
termination_by last + 1 - first

/-- The parts of a range, each as the ranges of its octets. -/
def octetRanges (range : Nat × Nat) : List (List (Nat × Nat)) :=
  let (first, last) := range
  if first < 0xE000 && 0xD800 ≤ last then
    (if first < 0xD800 then cutRange first 0xD7FF else [])
      ++ (if 0xE000 ≤ last then cutRange 0xE000 last else [])
  else cutRange first last

end RecordSchema
