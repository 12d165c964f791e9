import RecordSchema.Decimal.Layout
import RecordSchema.Pattern.Matcher
import RecordSchema.Pattern.Reading
import RecordSchema.Schema.Basic

/-!
# Field options

The options beside a type say what a field is by default, how its text is styled, and which checks
it has to pass: `required`, `enum`, `match`, `min` and `max`, which run in this order. An option
with an unusable value is an error of the declaration.

## Main definitions

* `Descriptor.scalar`: the descriptor of a field from its options.
* `Descriptor.collection`: the descriptor of a collection from its items and options.
-/

namespace RecordSchema

/-- Whether an option is set to true. -/
def flagOption (options : Fields) (key : String) : Bool :=
  ((options.get? key).bind Json.asBool?).getD false

/-- The check of a required field. -/
def requiredValidator (type : FieldType) (message : String) : Validator where
  kind := .required
  message := message
  check value _ := .ok (type.holds value)

/-- The check that a value is absent or equal to one of those listed. -/
def enumValidator (allowed : List Json) : Validator where
  kind := .enum
  message := "`\x7bVALUE\x7d` is not a valid enum value for path `\x7bPATH\x7d`."
  check value _ := .ok (value.isNull || allowed.any (·.same value))

/-- The check that a text matches a pattern; what is no text passes. -/
def matchValidator (pattern : Pattern) : Validator where
  kind := .regexp
  message := "Path `\x7bPATH\x7d` is invalid (\x7bVALUE\x7d)."
  check value _ := .ok ((value.asText?.map pattern.occursIn).getD true)

/-- The number that a value of a field is compared by, if it stands for one. -/
def comparable? (type : FieldType) (value : Json) : Option Float :=
  match type with
  | .date => (FieldType.millis? value).map Float.ofInt
  | .number => (FieldType.storedNumber? value).bind Json.asFloat?
  | _ => value.asFloat?

/-- The check that a number is not below a bound; what stands for no number passes. -/
def minValidator (type : FieldType) (bound : Float) : Validator where
  kind := .min
  message := "Path `\x7bPATH\x7d` (\x7bVALUE\x7d) is less than minimum allowed value ("
    ++ FloatLayout.plain.write bound ++ ")."
  check value _ := .ok (((comparable? type value).map fun n => decide (bound ≤ n)).getD true)

/-- The check that a number is not above a bound; what stands for no number passes. -/
def maxValidator (type : FieldType) (bound : Float) : Validator where
  kind := .max
  message := "Path `\x7bPATH\x7d` (\x7bVALUE\x7d) is more than maximum allowed value ("
    ++ FloatLayout.plain.write bound ++ ")."
  check value _ := .ok (((comparable? type value).map fun n => decide (n ≤ bound)).getD true)

/-- The checks that the option `required` asks for. -/
def requiredOption (type : FieldType) (path : String) (options : Fields) :
    Except SchemaError (List Validator) :=
  match options.get? "required" with
  | none | some (.bool false) | some .null => .ok []
  | some (.bool true) => .ok [requiredValidator type "Path `\x7bPATH\x7d` is required."]
  | some (.str message) => .ok [requiredValidator type message]
  | some _ => .error (.invalidOption path "required" "expected a boolean or message")

/-- The checks that the option `enum` asks for. -/
def enumOption (path : String) (options : Fields) : Except SchemaError (List Validator) :=
  match options.get? "enum" with
  | none => .ok []
  | some (.arr allowed) => .ok [enumValidator allowed]
  | some _ => .error (.invalidOption path "enum" "expected a list of values")

/-- The checks that the option `match` asks for. -/
def matchOption (path : String) (options : Fields) : Except SchemaError (List Validator) :=
  match options.get? "match" with
  | none => .ok []
  | some (.str text) =>
    match Pattern.ofText text with
    | .ok pattern => .ok [matchValidator pattern]
    | .error fault => .error (.invalidOption path "match" fault.message)
  | some _ => .error (.invalidOption path "match" "expected a regular expression")

/-- The checks that a bound asks for. -/
def boundOption (key : String) (validator : Float → Validator) (path : String)
    (options : Fields) : Except SchemaError (List Validator) :=
  match options.get? key with
  | none => .ok []
  | some value =>
    match value.asFloat? with
    | some bound => .ok [validator bound]
    | none => .error (.invalidOption path key "expected a number")

/-- The checks that the options of a field ask for, in the order in which they run. The first
option with an unusable value decides the error. -/
def optionValidators (type : FieldType) (path : String) (options : Fields) :
    Except SchemaError (List Validator) := do
  let required ← requiredOption type path options
  let enum ← enumOption path options
  let pattern ← matchOption path options
  let min ← boundOption "min" (minValidator type) path options
  let max ← boundOption "max" (maxValidator type) path options
  return required ++ enum ++ pattern ++ min ++ max

/-- The descriptor of a field of a type, its items not yet said, from its options. -/
def Descriptor.scalar (path column : String) (type : FieldType) (options : Fields) :
    Except SchemaError Descriptor := do
  let validators ← optionValidators type path options
  return {
    path := path
    column := column
    type := type
    element := none
    default := (options.get? "default").map Default.literal
    validators := validators
    style := {
      lowercase := flagOption options "lowercase"
      uppercase := flagOption options "uppercase"
      trim := flagOption options "trim" }
    options := options }

/-- The descriptor of a collection of items of one kind, from its options. -/
def Descriptor.collection (path column : String) (element : Element) (options : Fields) :
    Except SchemaError Descriptor := do
  let descriptor ← Descriptor.scalar path column .collection options
  return { descriptor with element := some element }

end RecordSchema
