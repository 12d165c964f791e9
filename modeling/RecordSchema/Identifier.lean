/-!
# Written identifiers

Two kinds of identifiers are stored as text in one canonical form each: document identifiers are
24 lower-case hexadecimal digits, universally unique identifiers 32 of them in five groups.

## Main definitions

* `documentId?`: the canonical form of a document identifier.
* `uuid?`: the canonical form of a universally unique identifier, which may be written plainly, in
  groups, in groups between braces or in groups after `urn:uuid:`.
-/

namespace RecordSchema

/-- A hexadecimal digit in either letter case. -/
def isHexDigit (c : Char) : Bool :=
  c.isDigit || ('a' ≤ c && c ≤ 'f') || ('A' ≤ c && c ≤ 'F')

/-- The canonical form of a document identifier: 24 hexadecimal digits in lower case. -/
def documentId? (s : String) : Option String :=
  if s.toList.length = 24 && s.toList.all isHexDigit then
    some (String.ofList (s.toList.map Char.toLower))
  else none

namespace Uuid

/-- The lengths of the five groups. -/
def groupLengths : List Nat := [8, 4, 4, 4, 12]

/-- Cuts a run of digits into groups. -/
def cut : List Nat → List Char → List (List Char)
  | [], _ => []
  | n :: ns, s => s.take n :: cut ns (s.drop n)

/-- The digits of five groups joined by hyphens. -/
def grouped? (s : List Char) : Option (List Char) :=
  let groups := s.splitOn '-'
  if groups.map List.length = groupLengths && groups.all (·.all isHexDigit) then
    some groups.flatten
  else none

/-- The 32 digits of an identifier in any of its written forms. -/
def digits? (s : List Char) : Option (List Char) :=
  let urn := "urn:uuid:".toList
  if s.length = 32 then if s.all isHexDigit then some s else none
  else if s.length = 38 && s.head? = some '\x7b' && s.getLast? = some '\x7d' then
    grouped? (s.drop 1).dropLast
  else if s.length = 45 && (s.take urn.length).map Char.toLower = urn then
    grouped? (s.drop urn.length)
  else grouped? s

/-- Five groups of lower-case digits, joined by hyphens. -/
def canonical (digits : List Char) : String :=
  String.ofList (['-'].intercalate (cut groupLengths (digits.map Char.toLower)))

end Uuid

/-- The canonical form of a universally unique identifier. -/
def uuid? (s : String) : Option String :=
  (Uuid.digits? s.toList).map Uuid.canonical

end RecordSchema
