import RecordSchema.Statement

/-!
# Reading compiler settings

Settings may be written as an object by name, or as a list in the order `trace_queries`,
`default_limit`. What is left out has its default.

## Main definitions

* `CompilerSettings.ofJson?`: the settings that a value stands for.
-/

namespace RecordSchema

/-- A truth value, the given one when absent. -/
def readFlag? (absent : Bool) : Option Json → Option Bool
  | none => some absent
  | some (.bool b) => some b
  | some _ => none

/-- A count below `2 ^ 64`, the given one when absent. -/
def readCount? (absent : Nat) : Option Json → Option Nat
  | none => some absent
  | some (.num (.int n)) => if Word64.fitsUnsigned n then some n.toNat else none
  | some _ => none

namespace CompilerSettings

/-- The settings with the given parts. -/
def ofParts? (traceQueries defaultLimit : Option Json) : Option CompilerSettings := do
  let traceQueries ← readFlag? true traceQueries
  let defaultLimit ← readCount? 0 defaultLimit
  return { traceQueries, defaultLimit }

/-- The settings that a value stands for: an object, whose unknown keys do not matter, or a list of
at most two parts. -/
def ofJson? : Json → Option CompilerSettings
  | .obj fields =>
    ofParts? (Entries.get? fields "trace_queries") (Entries.get? fields "default_limit")
  | .arr [] => ofParts? none none
  | .arr [traceQueries] => ofParts? (some traceQueries) none
  | .arr [traceQueries, defaultLimit] => ofParts? (some traceQueries) (some defaultLimit)
  | _ => none

end CompilerSettings

end RecordSchema
