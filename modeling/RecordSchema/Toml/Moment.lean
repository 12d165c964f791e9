import RecordSchema.Json.Basic
import RecordSchema.Time.Timestamp

/-!
# Points in time in TOML

A date, a time of day, or both with or without an offset, is a value of its own kind in a document.
It stands for a table with a single key of a reserved name, so a table that starts with this key is
read as a point in time as well, and it is refused when the text of the key is none. In the finished
document a point in time is its text.

## Main definitions

* `Moment.isWord`: the points in time that are written without quotes.
* `Moment.isText`: the wider rule for the text under the reserved key.
* `Json.withMoments?`: the document with points in time as texts.

## Termination

`Json.withMoments?` descends on the value.
-/

namespace RecordSchema

namespace Moment

/-- The reserved key. -/
def key : String := "$__toml_private_datetime"

/-- The table that a point in time stands for. -/
def table (text : String) : Json := .obj [(key, .str text)]

/-- The time of day at the front: what follows it. -/
def afterTime? (lastHour : Nat) (s : List Char) : Option (List Char) := do
  let (hour, s) ← Timestamp.digits? 2 s
  let s ← Timestamp.mark? ':' s
  let (minute, s) ← Timestamp.digits? 2 s
  let s ← Timestamp.mark? ':' s
  let (second, s) ← Timestamp.digits? 2 s
  let (_, s) ← Timestamp.fraction? s
  if hour ≤ lastHour && minute < 60 && second ≤ 60 then some s else none

/-- The date at the front: what follows it. -/
def afterDate? (s : List Char) : Option (List Char) := do
  let (year, s) ← Timestamp.digits? 4 s
  let s ← Timestamp.mark? '-' s
  let (month, s) ← Timestamp.digits? 2 s
  let s ← Timestamp.mark? '-' s
  let (day, s) ← Timestamp.digits? 2 s
  if 1 ≤ day && day ≤ daysInMonth year month then some s else none

/-- Whether a text is a date, a time of day, or both with an offset of the given form, where the
form takes in that there is none. -/
def hasForm (lastHour : Nat) (isOffset : List Char → Bool) (s : List Char) : Bool :=
  match afterDate? s with
  | some [] => true
  | some rest =>
    match (Timestamp.separator? rest).bind (afterTime? lastHour) with
    | some offset => isOffset offset
    | none => false
  | none => afterTime? lastHour s = some []

/-- Whether a text is no offset or one that is written without quotes. -/
def isWordOffset (s : List Char) : Bool :=
  s.isEmpty || ((Timestamp.offset? s).map fun (_, rest) => rest.isEmpty).getD false

/-- Whether a word without quotes is a point in time. -/
def isWord (s : List Char) : Bool :=
  hasForm 23 isWordOffset s

/-- Whether a text is no offset, `Z`, or one of at most a day in either direction, in which the
minutes may be more than an hour. -/
def isTextOffset : List Char → Bool
  | [] | ['Z'] | ['z'] => true
  | sign :: rest => (sign = '+' || sign = '-') && (do
      let (hours, rest) ← Timestamp.digits? 2 rest
      let rest ← Timestamp.mark? ':' rest
      let (minutes, rest) ← Timestamp.digits? 2 rest
      return rest.isEmpty && hours * 60 + minutes ≤ 1440).getD false

/-- Whether the text under the reserved key is a point in time. The hour may be 24. -/
def isText (text : String) : Bool :=
  hasForm 24 isTextOffset text.toList

end Moment

namespace Json

mutual

/-- The value with all points in time as texts; `none` when a table starts with the reserved key
and is no point in time. -/
def withMoments? : Json → Option Json
  | arr items => (itemsWithMoments? items).map arr
  | obj ((name, value) :: rest) =>
    if name = Moment.key then
      match value with
      | str text => if Moment.isText text then some (str text) else none
      | _ => none
    else do
      let value ← withMoments? value
      return obj ((name, value) :: (← fieldsWithMoments? rest))
  | value => some value

/-- The items of a list with all points in time as texts. -/
def itemsWithMoments? : List Json → Option (List Json)
  | [] => some []
  | item :: rest => do
    let item ← withMoments? item
    return item :: (← itemsWithMoments? rest)

/-- The fields of an object with all points in time as texts. -/
def fieldsWithMoments? : List (String × Json) → Option (List (String × Json))
  | [] => some []
  | (name, value) :: rest => do
    let value ← withMoments? value
    return (name, value) :: (← fieldsWithMoments? rest)

end

end Json

end RecordSchema
