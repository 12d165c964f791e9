import RecordSchema.Text.Ages
import RecordSchema.Text.ScriptExtensions
import RecordSchema.Text.Segmentation

/-!
# Named classes of characters

The sets that a pattern can name: digits, blanks and word characters, the bracketed ASCII classes,
and the general categories, scripts and properties of the Unicode standard. Names of the last kind
are compared without regard to case, blanks, hyphens and underscores.

## Main definitions

* `digitClass`, `blankClass`, `wordClass`: the classes with a one-letter escape.
* `asciiClass?`: the classes of the form `[:name:]`.
* `unicodeClass?`: the classes of the form `\p` with a name.
* `unicodeValueClass?`: the classes of the form `\p` with a property and a value.
-/

namespace RecordSchema

/-- Decimal digits; of ASCII only unless `unicode` is set. -/
def digitClass (unicode : Bool) : CharSet :=
  if unicode then categorySet "Nd" else .ofText "30-39"

/-- White space; of ASCII only unless `unicode` is set. -/
def blankClass (unicode : Bool) : CharSet :=
  if unicode then propertySet "White_Space" else .ofText "9-d 20"

/-- Characters that words are made of; of ASCII only unless `unicode` is set. -/
def wordClass (unicode : Bool) : CharSet :=
  if unicode then
    .unions [alphabetic, categoriesSet ["Mn", "Mc", "Me", "Nd", "Pc"], propertySet "Join_Control"]
  else .ofText "30-39 41-5a 5f 61-7a"

/-- The ASCII classes by name. -/
def asciiClass? (name : String) : Option CharSet :=
  [("alnum", "30-39 41-5a 61-7a"), ("alpha", "41-5a 61-7a"), ("ascii", "0-7f"), ("blank", "9 20"),
    ("cntrl", "0-1f 7f"), ("digit", "30-39"), ("graph", "21-7e"), ("lower", "61-7a"),
    ("print", "20-7e"), ("punct", "21-2f 3a-40 5b-60 7b-7e"), ("space", "9-d 20"),
    ("upper", "41-5a"), ("word", "30-39 41-5a 5f 61-7a"), ("xdigit", "30-39 41-46 61-66")].lookup
    name |>.map .ofText

/-- A name in the form in which names are compared: lower case, without blanks, hyphens,
underscores and characters beyond ASCII, and without a leading `is`. What is left of `is-c` keeps
its start, since the standard has a property of that name. -/
def symbolicName (name : String) : String :=
  let plain (chars : List Char) : List Char :=
    (chars.filter fun c => c ≠ ' ' && c ≠ '-' && c ≠ '_' && c.toNat < 128).map Char.toLower
  match name.toList with
  | i :: s :: rest =>
    if i.toLower = 'i' && s.toLower = 's' then
      if plain rest = ['c'] then "isc" else String.ofList (plain rest)
    else String.ofList (plain (i :: s :: rest))
  | chars => String.ofList (plain chars)

/-- The entry of a table under any of whose names a name in compared form is found. -/
def findNamed? {α : Type} (table : List (List String × α)) (name : String) : Option α :=
  (table.find? fun (names, _) => names.any (symbolicName · == name)).map Prod.snd

/-- The general categories, single and grouped, under each of their names. -/
def categoryNames : List (List String × List String) := [
  (["Lu", "Uppercase_Letter"], ["Lu"]), (["Ll", "Lowercase_Letter"], ["Ll"]),
  (["Lt", "Titlecase_Letter"], ["Lt"]), (["Lm", "Modifier_Letter"], ["Lm"]),
  (["Lo", "Other_Letter"], ["Lo"]), (["LC", "Cased_Letter"], ["Lu", "Ll", "Lt"]),
  (["L", "Letter"], ["Lu", "Ll", "Lt", "Lm", "Lo"]),
  (["Mn", "Nonspacing_Mark"], ["Mn"]), (["Mc", "Spacing_Mark"], ["Mc"]),
  (["Me", "Enclosing_Mark"], ["Me"]), (["M", "Mark", "Combining_Mark"], ["Mn", "Mc", "Me"]),
  (["Nd", "Decimal_Number", "digit"], ["Nd"]), (["Nl", "Letter_Number"], ["Nl"]),
  (["No", "Other_Number"], ["No"]), (["N", "Number"], ["Nd", "Nl", "No"]),
  (["Pc", "Connector_Punctuation"], ["Pc"]), (["Pd", "Dash_Punctuation"], ["Pd"]),
  (["Ps", "Open_Punctuation"], ["Ps"]), (["Pe", "Close_Punctuation"], ["Pe"]),
  (["Pi", "Initial_Punctuation"], ["Pi"]), (["Pf", "Final_Punctuation"], ["Pf"]),
  (["Po", "Other_Punctuation"], ["Po"]),
  (["P", "Punctuation", "punct"], ["Pc", "Pd", "Ps", "Pe", "Pi", "Pf", "Po"]),
  (["Sm", "Math_Symbol"], ["Sm"]), (["Sc", "Currency_Symbol"], ["Sc"]),
  (["Sk", "Modifier_Symbol"], ["Sk"]), (["So", "Other_Symbol"], ["So"]),
  (["S", "Symbol"], ["Sm", "Sc", "Sk", "So"]),
  (["Zs", "Space_Separator"], ["Zs"]), (["Zl", "Line_Separator"], ["Zl"]),
  (["Zp", "Paragraph_Separator"], ["Zp"]), (["Z", "Separator"], ["Zs", "Zl", "Zp"]),
  (["Cc", "Control", "cntrl"], ["Cc"]), (["Cf", "Format"], ["Cf"]),
  (["Co", "Private_Use"], ["Co"])]

/-- The code points without a category, surrogates left out. -/
def unassignedSet : CharSet :=
  (assignedSet.union surrogates).compl

/-- The general category, or group of them, with a name in compared form. -/
def categoryClass? (name : String) : Option CharSet :=
  match findNamed? categoryNames name with
  | some members => some (categoriesSet members)
  | none =>
    if name = "cn" || name = "unassigned" then some unassignedSet
    else if name = "c" || name = "other" then
      some (.unions [unassignedSet, surrogates, categoriesSet ["Cc", "Cf", "Co"]])
    else if name = "any" then some .all
    else if name = "ascii" then some (.ofText "0-7f")
    else if name = "assigned" then some unassignedSet.compl
    else none

/-- The script with a name in compared form. -/
def scriptClass? (name : String) : Option CharSet :=
  (findNamed? scripts name).map .ofRows

/-- The characters that the script with a name in compared form uses: those listed as shared with
it, and those that belong to it and are not listed at all. -/
def scriptExtensionClass? (name : String) : Option CharSet := do
  let (names, own) ← scripts.find? fun (names, _) => names.any (symbolicName · == name)
  let short ← names.head?
  let listed := CharSet.ofRows (scriptExtensions.flatMap Prod.fst)
  let shared := CharSet.ofRows
    ((scriptExtensions.filter (·.2.contains short)).flatMap Prod.fst)
  return (CharSet.ofRows own).diff listed |>.union shared

/-- The characters that an edition of the standard, or one before it, assigned. The edition has a
name in compared form: its number, or the letter `v` and its digits. -/
def ageClass? (name : String) : Option CharSet :=
  let names (edition : String) : List String :=
    [edition, String.ofList ('v' :: edition.toList.filter (· ≠ '.'))]
  match ages.findIdx? fun (edition, _) => (names edition).contains name with
  | some last => some (.ofRows ((ages.take (last + 1)).flatMap Prod.snd))
  | none => none

/-- The property of characters with a name in compared form. -/
def propertyClass? (name : String) : Option CharSet :=
  ((findNamed? properties name).map .ofRows).or
    ((derivedPropertyNames.find? (symbolicName · == name)).bind derivedProperty?)

/-- The class of the characters that have a value under one of the divisions of texts; the value
has a name in compared form. -/
def breakClass? (values : List String) (members? : String → Option CharSet) (name : String) :
    Option CharSet :=
  (values.find? (symbolicName · == name)).bind members?

/-- The class with a single name: a property, a general category or a script. The short names of
three categories are also those of properties that are no sets of characters; the categories are
meant. -/
def unicodeClass? (name : String) : Option CharSet :=
  let name := symbolicName name
  (propertyClass? name).or ((categoryClass? name).or (scriptClass? name))

/-- The class of the characters for which a property has a value. -/
def unicodeValueClass? (property value : String) : Option CharSet :=
  let value := symbolicName value
  match symbolicName property with
  | "gc" | "generalcategory" => categoryClass? value
  | "sc" | "script" => scriptClass? value
  | "scx" | "scriptextensions" => scriptExtensionClass? value
  | "age" => ageClass? value
  | "gcb" | "graphemeclusterbreak" => breakClass? clusterBreakNames clusterBreak? value
  | "wb" | "wordbreak" => breakClass? wordBreakNames wordBreak? value
  | "sb" | "sentencebreak" => breakClass? sentenceBreakNames sentenceBreak? value
  | _ => none

end RecordSchema
