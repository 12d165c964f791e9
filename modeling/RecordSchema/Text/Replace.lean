/-!
# Replacing a word in a text

## Main definitions

* `replaceWord`: every occurrence of a word replaced, from left to right and without overlap.

## Termination

`replaceFrom` descends on the characters; those of an occurrence already replaced are counted down.
-/

namespace RecordSchema

/-- Replaces the word from one place on; the next `skip` characters belong to an occurrence that
has been replaced already. -/
def replaceFrom (word replacement : List Char) : Nat → List Char → List Char
  | _, [] => []
  | skip + 1, _ :: rest => replaceFrom word replacement skip rest
  | 0, c :: rest =>
    if word.isPrefixOf (c :: rest) then
      replacement ++ replaceFrom word replacement (word.length - 1) rest
    else c :: replaceFrom word replacement 0 rest

/-- The text with every occurrence of a non-empty word replaced. -/
def replaceWord (s word replacement : String) : String :=
  String.ofList (replaceFrom word.toList replacement.toList 0 s.toList)

end RecordSchema
