import RecordSchema.Text.CaseRules
import RecordSchema.Text.Letters

/-!
# Lower and upper case of a text

Case is mapped character by character with the tables of the Unicode standard; a character may
become several. The one mapping that looks at its neighbours is the Greek capital sigma, which
becomes a final sigma at the end of a word.

## Main definitions

* `lowerChar`, `upperChar`: the characters that stand for one character.
* `lowerText`, `upperText`: the mapped text.
* `capitalized`: the text with its first character in upper case.

## Termination

`lowerFrom` descends on the characters still to come and keeps those already passed.
-/

namespace RecordSchema

/-- The characters that stand for `c` under runs of single images and a list of longer ones. -/
def mapCase (rules : List CaseRule) (expansions : List (Nat × List Nat)) (c : Char) : List Char :=
  match expansions.lookup c.toNat with
  | some codes => codes.map Char.ofNat
  | none => [((rules.findSome? (·.image? c.toNat)).map Char.ofNat).getD c]

/-- The lower case of a character on its own. -/
def lowerChar (c : Char) : List Char :=
  mapCase lowerRules lowerExpansions c

/-- The upper case of a character. -/
def upperChar (c : Char) : List Char :=
  mapCase upperRules upperExpansions c

/-- Whether the nearest neighbour that counts has a case; what belongs to no word is passed over. -/
def meetsCased (neighbours : List Char) : Bool :=
  match neighbours.dropWhile passedOver.contains with
  | c :: _ => casedLetters.contains c
  | [] => false

/-- The lower case of a capital sigma between what precedes it, nearest first, and what follows. -/
def lowerSigma (before after : List Char) : Char :=
  if meetsCased before && !meetsCased after then 'ς' else 'σ'

/-- Lower case from one place on; `before` holds the characters already passed, nearest first. -/
def lowerFrom (before : List Char) : List Char → List Char
  | [] => []
  | c :: after =>
    (if c = 'Σ' then [lowerSigma before after] else lowerChar c) ++ lowerFrom (c :: before) after

/-- The text in lower case. -/
def lowerText (s : String) : String :=
  String.ofList (lowerFrom [] s.toList)

/-- The text in upper case. -/
def upperText (s : String) : String :=
  String.ofList (s.toList.flatMap upperChar)

/-- The text with its first character in upper case and the rest as it is. -/
def capitalized (s : String) : String :=
  match s.toList with
  | [] => ""
  | c :: rest => String.ofList (upperChar c ++ rest)

end RecordSchema
