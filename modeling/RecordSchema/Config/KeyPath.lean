import RecordSchema.Decimal.Reader
import RecordSchema.Json.Basic
import RecordSchema.Text.Case

/-!
# Setting values by key path

A key path leads from an object through its keys and through positions in lists, as in
`compiler.default_limit`, `list[2]` or `list[-1]`, where a negative position counts from the end.
A value that is set on the way to which something else stands takes its place. An object that is
set is merged key by key into the object that is there. Keys that are set are in lower case.

## Main definitions

* `KeyPath`, `KeyPath.ofText`: paths and their written form.
* `Json.merge`: setting one key.
* `KeyPath.set?`: setting the value at a path.

## Termination

`Json.merge` descends on the value that is set, `KeyPath.change?` on the path.
-/

namespace RecordSchema

/-- One step of a key path. -/
inductive KeyStep where
  /-- To the value of a key. -/
  | key (name : String)
  /-- To the item at a position, counted from the end when it is negative. -/
  | position (index : Int)
deriving DecidableEq, Repr

/-- The steps to the place of a value: those of its parents, and the last one. -/
structure KeyPath where
  /-- The steps to the parent. -/
  parents : List KeyStep
  /-- The step from the parent. -/
  last : KeyStep
deriving DecidableEq, Repr

mutual

/-- Sets a key. What is no object gives way to one. -/
def Json.merge (target : Json) (key : String) : Json → Json
  | .obj fields =>
    let entries := target.asFields?.getD []
    let inner := (Entries.get? entries (lowerText key)).getD (.obj [])
    .obj (Entries.put entries (lowerText key) (mergeAll inner fields))
  | value => .obj (Entries.put (target.asFields?.getD []) (lowerText key) value)

/-- Sets several keys in turn. -/
def Json.mergeAll (target : Json) : List (String × Json) → Json
  | [] => target
  | (key, value) :: rest => mergeAll (merge target key value) rest

end

namespace KeyPath

/-- Whether a character may stand in a name. -/
def isNameChar (c : Char) : Bool :=
  c.isAlphanum || c = '_' || c = '-' || c = ' '

/-- The steps after the first name of a written path, read from the front with a bound on their
number. Names are taken in lower case. -/
def readSteps? : Nat → List Char → Option (List KeyStep)
  | _, [] => some []
  | 0, _ => none
  | fuel + 1, '.' :: rest =>
    let name := rest.takeWhile isNameChar
    if name.isEmpty then none
    else (readSteps? fuel (rest.dropWhile isNameChar)).map
      (.key (lowerText (String.ofList name)) :: ·)
  | fuel + 1, '[' :: rest =>
    let isBlank (c : Char) : Bool := c = ' ' || c = '\t' || c = '\r' || c = '\n'
    let (sign, rest) := (rest.dropWhile isBlank).span (· = '-')
    let (digits, rest) := spanDigits rest
    match rest.dropWhile isBlank, readInt64? (String.ofList (sign ++ digits)) with
    | ']' :: rest, some index => (readSteps? fuel rest).map (.position index :: ·)
    | _, _ => none
  | _, _ => none

/-- The path that a text stands for: names with dots before them and positions in brackets. A text
of any other form is a single key. -/
def ofText (text : String) : KeyPath :=
  match readSteps? (text.length + 1) ('.' :: text.toList) with
  | some steps =>
    match steps.getLast? with
    | some last => ⟨steps.dropLast, last⟩
    | none => ⟨[], .key text⟩
  | none => ⟨[], .key text⟩

/-- The place of a position in a list of a given length. A place before the start is none, and
neither is one that no list reaches. -/
def placeOf? (index : Int) (length : Nat) : Option Nat :=
  if index < 0 then if -index ≤ length then some (length - index.natAbs) else none
  else if index < 0x100000000 then some index.toNat
  else none

/-- Changes the item at a position of a list, which grows when it is too short. What is no list
gives way to one. -/
def changeItem? (index : Int) (act : Json → Option Json) (target : Json) : Option Json := do
  let items := target.asItems?.getD []
  let place ← placeOf? index items.length
  let items := items ++ List.replicate (place + 1 - items.length) .null
  return .arr (items.set place (← act (items[place]?.getD .null)))

/-- Changes what stands at the end of some steps; what is in the way gives way. `none` when a list
has no place for a position. -/
def change? (act : Json → Option Json) : List KeyStep → Json → Option Json
  | [], target => act target
  | .key name :: rest, target =>
    let entries := target.asFields?.getD []
    (change? act rest ((Entries.get? entries name).getD .null)).map fun value =>
      .obj (Entries.put entries name value)
  | .position index :: rest, target => changeItem? index (change? act rest) target

/-- Sets the value at a path. -/
def set? (path : KeyPath) (value target : Json) : Option Json :=
  change? (fun parent =>
    match path.last with
    | .key name => some (parent.merge name value)
    | .position index => changeItem? index (fun _ => some value) parent)
    path.parents target

end KeyPath

end RecordSchema
