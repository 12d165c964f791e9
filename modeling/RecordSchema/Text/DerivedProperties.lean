import RecordSchema.Text.CaseRules
import RecordSchema.Text.Categories
import RecordSchema.Text.Properties

/-!
# Properties of characters that follow from others

The Unicode standard defines most properties from the general category, from properties given by a
table, and from the case mappings. Each set below is written as its definition there, so the sets
agree with each other by construction.

## Main definitions

* `alphabetic`, `lowercase`, `uppercase`, `cased`, `caseIgnorable`: letters and their case.
* `graphemeExtend`: characters that are drawn with the one before.
* `derivedProperty?`: every such property by its name.
-/

namespace RecordSchema

/-- Letters and marks that belong to words. -/
def alphabetic : CharSet :=
  .unions [categoriesSet ["Lu", "Ll", "Lt", "Lm", "Lo", "Nl"], propertySet "Other_Alphabetic"]

/-- Lower-case letters in the wide sense. -/
def lowercase : CharSet :=
  .unions [categorySet "Ll", propertySet "Other_Lowercase"]

/-- Upper-case letters in the wide sense. -/
def uppercase : CharSet :=
  .unions [categorySet "Lu", propertySet "Other_Uppercase"]

/-- Characters that have a case. -/
def cased : CharSet :=
  .unions [lowercase, uppercase, categorySet "Lt"]

/-- Characters that are passed over when looking for a cased neighbour: marks, modifiers, format
characters and the punctuation inside words. -/
def caseIgnorable : CharSet :=
  .unions [categoriesSet ["Mn", "Me", "Cf", "Lm", "Sk"],
    .ofText "27 2e 3a b7 387 55f 5f4 2018-2019 2024 2027 fe13 fe52 fe55 ff07 ff0e ff1a"]

/-- Characters that are drawn with the one before. -/
def graphemeExtend : CharSet :=
  .unions [categoriesSet ["Me", "Mn"], propertySet "Other_Grapheme_Extend"]

/-- Syntax and blanks of patterns, which are no part of identifiers. -/
def patternCharacters : CharSet :=
  .unions [propertySet "Pattern_Syntax", propertySet "Pattern_White_Space"]

/-- Characters with which an identifier may start. -/
def identifierStart : CharSet :=
  .diff (.unions [categoriesSet ["Lu", "Ll", "Lt", "Lm", "Lo", "Nl"],
    propertySet "Other_ID_Start"]) patternCharacters

/-- Characters of which an identifier may consist. -/
def identifierContinue : CharSet :=
  .diff (.unions [identifierStart, categoriesSet ["Mn", "Mc", "Nd", "Pc"],
    propertySet "Other_ID_Continue"]) patternCharacters

/-- Characters that compatibility forms take out of identifiers. -/
def unstableInIdentifiers : CharSet :=
  .ofText "37a 309b-309c fc5e-fc63 fdfa-fdfb fe70 fe72 fe74 fe76 fe78 fe7a fe7c fe7e"

/-- Characters that compatibility forms keep inside identifiers but not at their start. -/
def unstableAtStart : CharSet :=
  .ofText "e33 eb3 ff9e-ff9f"

/-- The letters that a list of mappings changes, as far as letter and image are assigned. -/
def changedBy (rules : List CaseRule) (expansions : List (Nat × List Nat)) : CharSet :=
  let assigned := assignedSet
  let runs := rules.flatMap fun rule =>
    (List.range ((rule.last - rule.first) / rule.step + 1)).map fun i => rule.first + i * rule.step
  let moved := runs.filter fun code =>
    ((rules.findSome? (·.image? code)).map assigned.holds).getD false
  let all := CharSet.ofRanges ((moved ++ expansions.map Prod.fst).map fun code => (code, code))
  all.inter assigned

/-- Letters that are not their own lower case. -/
def changesWhenLowercased : CharSet := changedBy lowerRules lowerExpansions

/-- Letters that are not their own upper case. -/
def changesWhenUppercased : CharSet := changedBy upperRules upperExpansions

/-- Letters that are not their own title case: those that are not their own upper case, except
that pairs of letters have a title case of their own and that Georgian letters have none. -/
def changesWhenTitlecased : CharSet :=
  .diff (.union changesWhenUppercased (.ofText "1c4 1c7 1ca 1f1"))
    (.unions [.ofText "10d0-10fa 10fd-10ff", categorySet "Lt"])

/-- Characters that folding of case changes: upper-case letters, and those that stand for one or
more other lower-case letters. Cherokee folds to upper case. -/
def changesWhenCasefolded : CharSet :=
  .union (.diff changesWhenLowercased (.ofText "13a0-13f5"))
    (.ofRows ["b5 df 149 17f 345 3c2 3d0-3d1 3d5-3d6 3f0-3f1 3f5 587 13f8-13fd 1c80-1c88 1e9a-1e9b",
      "1f80-1f87 1f90-1f97 1fa0-1fa7 1fb2-1fb4 1fb7 1fc2-1fc4 1fc7 1ff2-1ff4 1ff7 ab70-abbf",
      "fb00-fb06 fb13-fb17"])

/-- Characters that are not shown where they have no effect. -/
def defaultIgnorable : CharSet :=
  .union (propertySet "Other_Default_Ignorable_Code_Point")
    (.diff (.unions [categorySet "Cf", propertySet "Variation_Selector"])
      (.unions [propertySet "White_Space", .ofText "fff9-fffb 13430-13440",
        propertySet "Prepended_Concatenation_Mark"]))

/-- Characters that are drawn on their own. -/
def graphemeBase : CharSet :=
  .diff assignedSet (.unions [categoriesSet ["Cc", "Cf", "Co", "Zl", "Zp"], graphemeExtend])

/-- The names of the properties that follow from others, short and long. -/
def derivedPropertyNames : List String := [
  "Alphabetic", "Alpha", "Case_Ignorable", "CI", "Cased", "Changes_When_Casefolded", "CWCF",
  "Changes_When_Casemapped", "CWCM", "Changes_When_Lowercased", "CWL", "Changes_When_Titlecased",
  "CWT", "Changes_When_Uppercased", "CWU", "Default_Ignorable_Code_Point", "DI", "Grapheme_Base",
  "Gr_Base", "Grapheme_Extend", "Gr_Ext", "ID_Continue", "IDC", "ID_Start", "IDS", "Lowercase",
  "Lower", "Math", "Uppercase", "Upper", "XID_Continue", "XIDC", "XID_Start", "XIDS"]

/-- The property that follows from others with a name of the standard, short or long. -/
def derivedProperty? (name : String) : Option CharSet :=
  match name with
  | "Alphabetic" | "Alpha" => some alphabetic
  | "Case_Ignorable" | "CI" => some caseIgnorable
  | "Cased" => some cased
  | "Changes_When_Casefolded" | "CWCF" => some changesWhenCasefolded
  | "Changes_When_Casemapped" | "CWCM" =>
    some (.unions [changesWhenLowercased, changesWhenUppercased, changesWhenTitlecased])
  | "Changes_When_Lowercased" | "CWL" => some changesWhenLowercased
  | "Changes_When_Titlecased" | "CWT" => some changesWhenTitlecased
  | "Changes_When_Uppercased" | "CWU" => some changesWhenUppercased
  | "Default_Ignorable_Code_Point" | "DI" => some defaultIgnorable
  | "Grapheme_Base" | "Gr_Base" => some graphemeBase
  | "Grapheme_Extend" | "Gr_Ext" => some graphemeExtend
  | "ID_Continue" | "IDC" => some identifierContinue
  | "ID_Start" | "IDS" => some identifierStart
  | "Lowercase" | "Lower" => some lowercase
  | "Math" => some (.unions [categorySet "Sm", propertySet "Other_Math"])
  | "Uppercase" | "Upper" => some uppercase
  | "XID_Continue" | "XIDC" => some (identifierContinue.diff unstableInIdentifiers)
  | "XID_Start" | "XIDS" =>
    some (identifierStart.diff (.unions [unstableInIdentifiers, unstableAtStart]))
  | _ => none

end RecordSchema
