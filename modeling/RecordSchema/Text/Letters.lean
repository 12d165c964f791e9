import RecordSchema.Text.DerivedProperties

/-!
# Letters of names and of words with a case

Names and the case of letters follow edition 17 of the Unicode standard, one edition after the
tables of properties. The tables here hold what that edition adds.

## Main definitions

* `nameLetters`, `nameNumbers`: the characters that names are made of.
* `casedLetters`, `passedOver`: the neighbours that decide how a final sigma is written.
-/

namespace RecordSchema

/-- Letters and marks of words that edition 17 adds. -/
def addedLetters : CharSet :=
  .ofRows ["88f c5c cdc a7ce-a7cf a7d2 a7d4 a7f1 10940-10959 10ec5-10ec7 10efa-10efb 11b60-11b67",
    "11db0-11ddb 16ea0-16eb8 16ebb-16ed3 16ff2-16ff6 187f8-187ff 18d09-18d1e 18d80-18df2",
    "1e6c0-1e6de 1e6e0-1e6f5 1e6fe-1e6ff 2b73a-2b73f 2cea2-2cead 323b0-33479"]

/-- Letters and marks that belong to words. -/
def nameLetters : CharSet :=
  alphabetic.union addedLetters

/-- Digits and other numbers. -/
def nameNumbers : CharSet :=
  .union (categoriesSet ["Nd", "Nl", "No"]) (.ofText "11de0-11de9 16ff4-16ff6")

/-- Characters that have a case. Edition 17 takes it from the Latin letter at U+0295. -/
def casedLetters : CharSet :=
  .diff (.union cased (.ofText "a7ce-a7cf a7d2 a7d4 a7f1 16ea0-16eb8 16ebb-16ed3")) (.ofText "295")

/-- Characters that are passed over when looking for a cased neighbour. -/
def passedOver : CharSet :=
  .union caseIgnorable (.ofRows ["1acf-1add 1ae0-1aeb a7f1 10ec5 10efa-10efb 11b60 11b62-11b64",
    "11b66 11dd9 16ff2-16ff3 1e6e3 1e6e6 1e6ee-1e6ef 1e6f5 1e6ff"])

end RecordSchema
