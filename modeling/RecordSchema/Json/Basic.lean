import RecordSchema.Decimal.Word64
import RecordSchema.Entries

/-!
# JSON values

A value is null, a boolean, a number, a text, a list or an object. Objects are lists of
key–value pairs in the order in which they were written. Numbers come in two kinds, whole numbers
and binary floating point numbers, and a whole number is never equal to a floating point one.

## Main definitions

* `Json`, `Number`: the values.
* `Json.same`: equality of values; the order of an object's keys does not matter.
* `Json.isTruthy`: `null`, `false`, zero and the empty text count as absent.

## Termination

`Json.same` descends on its left value; the mutual functions over items and fields descend on
the list they walk.
-/

namespace RecordSchema

/-- A number is whole or floating point. -/
inductive Number where
  /-- A whole number. -/
  | int (value : Int)
  /-- A binary floating point number. -/
  | float (value : Float)

namespace Number

/-- The nearest floating point number. -/
def toFloat : Number → Float
  | int n => Float.ofInt n
  | float x => x

/-- The value of a whole number that fits a signed 64-bit word. -/
def toInt64? : Number → Option Int
  | int n => if Word64.fitsSigned n then some n else none
  | float _ => none

/-- Equality within one kind: `1` and `1.0` differ, `0.0` and `-0.0` do not. -/
def same : Number → Number → Bool
  | int m, int n => m == n
  | float x, float y => x == y
  | _, _ => false

end Number

/-- A JSON value. -/
inductive Json where
  /-- The absent value. -/
  | null
  /-- A truth value. -/
  | bool (value : Bool)
  /-- A number. -/
  | num (value : Number)
  /-- A text. -/
  | str (value : String)
  /-- A list. -/
  | arr (items : List Json)
  /-- An object, its keys in order. -/
  | obj (fields : List (String × Json))

instance : Inhabited Json := ⟨.null⟩

/-- The key–value pairs of an object, in order. -/
abbrev Fields := Entries Json

namespace Json

/-- A whole number as a value. -/
def ofInt (n : Int) : Json := .num (.int n)

/-- Whether the value is `null`. -/
def isNull : Json → Bool
  | null => true
  | _ => false

/-- The text, if the value is one. -/
def asText? : Json → Option String
  | str s => some s
  | _ => none

/-- The truth value, if the value is one. -/
def asBool? : Json → Option Bool
  | bool b => some b
  | _ => none

/-- The items, if the value is a list. -/
def asItems? : Json → Option (List Json)
  | arr items => some items
  | _ => none

/-- The key–value pairs, if the value is an object. -/
def asFields? : Json → Option Fields
  | obj fields => some fields
  | _ => none

/-- The number as floating point, if the value is a number. -/
def asFloat? : Json → Option Float
  | num n => some n.toFloat
  | _ => none

/-- The value of a key, if the value is an object that has it. -/
def get? (value : Json) (key : String) : Option Json :=
  match value with
  | obj fields => Entries.get? fields key
  | _ => none

/-- Loose truth of a value: `null`, `false`, zero and the empty text are false, every other
value is true. -/
def isTruthy : Json → Bool
  | null => false
  | bool b => b
  | num n => n.toFloat != 0.0
  | str s => !s.isEmpty
  | arr _ => true
  | obj _ => true

mutual

/-- Equality of values. Lists are compared item by item, objects key by key in any order. -/
def same : Json → Json → Bool
  | null, null => true
  | bool a, bool b => a == b
  | num a, num b => a.same b
  | str a, str b => a == b
  | arr a, arr b => sameItems a b
  | obj a, obj b => a.length == b.length && sameFields a b
  | _, _ => false

/-- Equality of lists, item by item. -/
def sameItems : List Json → List Json → Bool
  | [], [] => true
  | a :: as, b :: bs => same a b && sameItems as bs
  | _, _ => false

/-- Whether each pair on the left has an equal value under the same key on the right. -/
def sameFields : List (String × Json) → Fields → Bool
  | [], _ => true
  | (key, value) :: rest, other =>
    (match Entries.get? other key with
      | some found => same value found
      | none => false) && sameFields rest other

end

end Json

end RecordSchema
