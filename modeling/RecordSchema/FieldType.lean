import RecordSchema.Decimal.Reader
import RecordSchema.Error
import RecordSchema.Identifier
import RecordSchema.Text.Blank
import RecordSchema.Text.Case
import RecordSchema.Time.Timestamp

/-!
# Field types and their stored forms

Every field has one of eight types. A type knows which values it can store and in which form:
numbers may come as text, points in time become milliseconds, identifiers get one spelling. `null`
is stored as `null` by every type. Collections are converted item by item elsewhere, so here they
are left alone.

## Main definitions

* `FieldType`, `FieldType.name`: the types and their names.
* `FieldType.lookup`: the type of a declared name, whose first letter may be in either case.
* `FieldType.stored?`: the stored form of a value other than `null`.
* `FieldType.cast`: the stored form of any value, or an error that names the field.
* `FieldType.holds`: whether a value satisfies a required field.
-/

namespace RecordSchema

/-- The type of a declared field. -/
inductive FieldType where
  /-- A text. -/
  | string
  /-- A whole or floating point number. -/
  | number
  /-- A truth value. -/
  | boolean
  /-- A point in time, stored as milliseconds since the start of 1970. -/
  | date
  /-- A document identifier of 24 hexadecimal digits. -/
  | objectId
  /-- A universally unique identifier. -/
  | uuid
  /-- Any value, stored as given. -/
  | mixed
  /-- A list of values of one kind. -/
  | collection
deriving DecidableEq, Repr

namespace FieldType

/-- The name of a type. -/
def name : FieldType → String
  | string => "String"
  | number => "Number"
  | boolean => "Boolean"
  | date => "Date"
  | objectId => "ObjectId"
  | uuid => "Uuid"
  | mixed => "Mixed"
  | collection => "Collection"

/-- The names that a declaration may use. -/
def registry : List (String × FieldType) :=
  [("String", string), ("Number", number), ("Boolean", boolean), ("Date", date),
    ("ObjectId", objectId), ("ObjectID", objectId), ("Uuid", uuid), ("Mixed", mixed)]

/-- The type of a declared name; its first letter is put in upper case first. -/
def lookup (typeName : String) : Option FieldType :=
  registry.lookup (capitalized typeName)

/-- The type of a name declared at a path. -/
def resolve (path typeName : String) : Except SchemaError FieldType :=
  match lookup typeName with
  | some type => .ok type
  | none => .error (.unknownType path typeName)

/-- Identifier types are never part of a projected column list. -/
def isIdentifier (type : FieldType) : Bool :=
  type == objectId

/-- The stored form of a text field: texts as they are, numbers and truth values as written. -/
def storedString? : Json → Option Json
  | .str s => some (.str s)
  | .num n => some (.str n.text)
  | .bool b => some (.str (if b then "true" else "false"))
  | _ => none

/-- The number that a text stands for. A blank text stands for no value. -/
def numberOfText? (s : String) : Option Json :=
  let body := trimBlank s
  if body.isEmpty then some .null
  else match readInt64? body with
    | some n => some (.ofInt n)
    | none => (readFloat? body).bind fun x => if x.isFinite then some (.num (.float x)) else none

/-- The stored form of a number field. -/
def storedNumber? : Json → Option Json
  | .num n => some (.num n)
  | .bool b => some (.ofInt (if b then 1 else 0))
  | .str s => numberOfText? s
  | _ => none

/-- The stored form of a truth value: also the words and the digits for true and false. -/
def storedBoolean? : Json → Option Json
  | .bool b => some (.bool b)
  | .str s =>
    if s = "true" || s = "1" then some (.bool true)
    else if s = "false" || s = "0" then some (.bool false)
    else none
  | .num n =>
    match n.toInt64? with
    | some 1 => some (.bool true)
    | some 0 => some (.bool false)
    | _ => none
  | _ => none

/-- The milliseconds since the start of 1970 that a value stands for: a whole number, its text, or
a written point in time. -/
def millis? : Json → Option Int
  | .num n => n.toInt64?
  | .str s => (readInt64? s).or ((Timestamp.parse? s).map Timestamp.millis)
  | _ => none

/-- The stored form of a value other than `null`. -/
def stored? : FieldType → Json → Option Json
  | string, value => storedString? value
  | number, value => storedNumber? value
  | boolean, value => storedBoolean? value
  | date, value => (millis? value).map .ofInt
  | objectId, value => (value.asText?.bind documentId?).map .str
  | uuid, value => (value.asText?.bind uuid?).map .str
  | mixed, value => some value
  | collection, value => some value

/-- The stored form of a value of the field at `path`. -/
def cast (type : FieldType) (path : String) (value : Json) : Except SchemaError Json :=
  if value.isNull then .ok .null
  else match type.stored? value with
    | some result => .ok result
    | none => .error (.cast path type.name value)

/-- Whether a value satisfies a required field of this type. -/
def holds : FieldType → Json → Bool
  | _, .null => false
  | string, .str s => !s.isEmpty
  | string, _ => false
  | number, .num _ => true
  | number, _ => false
  | boolean, .bool _ => true
  | boolean, _ => false
  | collection, .arr items => !items.isEmpty
  | _, _ => true

end FieldType

end RecordSchema
