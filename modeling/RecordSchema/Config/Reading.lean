import RecordSchema.Config.Basic
import RecordSchema.Decimal.Reader
import RecordSchema.Text.Case

/-!
# Reading a configuration

Settings come from files and from the environment, where everything may be a text, so they are
converted loosely: words such as `yes` and `off` are truth values, a number other than zero is
true, and a floating point number is rounded to a count.

A group of settings is an object, whose unknown keys do not matter, or a list of settings in their
order. What is left out has its default.

## Main definitions

* `Json.asSetting?`, `Json.asCount?`: the loose conversions.
* `Config.ofFields?`: the configuration in an object.
-/

namespace RecordSchema

namespace Json

/-- A truth value by loose conversion. -/
def asSetting? : Json → Option Bool
  | .bool b => some b
  | .num (.int n) => some (n != 0)
  | .num (.float x) => some (x != 0.0)
  | .str s =>
    let word := lowerText s
    if ["1", "true", "on", "yes"].contains word then some true
    else if ["0", "false", "off", "no"].contains word then some false
    else none
  | _ => none

/-- A floating point number as a count below `2 ^ 64`: rounded, a half away from zero, and kept
within the bounds. -/
def countOfFloat (x : Float) : Nat :=
  x.round.toUInt64.toNat

/-- A count below `2 ^ 64` by loose conversion. A whole number beyond the signed 64-bit words
counts as floating point. -/
def asCount? : Json → Option Nat
  | .bool b => some b.toNat
  | .num (.int n) =>
    if n < 0 then none
    else if Word64.fitsSigned n then some n.toNat
    else some (countOfFloat (Float.ofInt n))
  | .num (.float x) => some (countOfFloat x)
  | .str s =>
    let word := lowerText s
    if ["true", "on", "yes"].contains word then some 1
    else if ["false", "off", "no"].contains word then some 0
    else readUInt64? s
  | _ => none

end Json

namespace Config

/-- The settings of a group by their names; `none` stands for one that is left out. -/
def settings? (names : List String) : Option Json → Option (List (Option Json))
  | none => some (names.map fun _ => none)
  | some (.obj fields) => some (names.map (Entries.get? fields))
  | some (.arr items) => some ((List.range names.length).map fun i => items[i]?)
  | some _ => none

/-- A setting, the given one when it is left out. -/
def read? {α : Type} (convert : Json → Option α) (absent : α) : Option Json → Option α
  | none => some absent
  | some value => convert value

/-- The settings of schemas in their group. -/
def schemaOptions? (group : Option Json) : Option SchemaOptions := do
  match ← settings? ["insensitive"] group with
  | [insensitive] => return { insensitive := ← read? Json.asSetting? false insensitive }
  | _ => none

/-- The settings of statements in their group. -/
def compilerSettings? (group : Option Json) : Option CompilerSettings := do
  match ← settings? ["trace_queries", "default_limit"] group with
  | [traceQueries, defaultLimit] =>
    return {
      traceQueries := ← read? Json.asSetting? true traceQueries
      defaultLimit := ← read? Json.asCount? 0 defaultLimit }
  | _ => none

/-- The configuration in an object. -/
def ofFields? (fields : Fields) : Option Config := do
  return {
    schema := ← schemaOptions? (fields.get? "schema")
    compiler := ← compilerSettings? (fields.get? "compiler") }

end Config

end RecordSchema
