import RecordSchema.Pattern.Machine
import RecordSchema.Pattern.Meaning
import RecordSchema.Pattern.Parser

/-!
# Patterns in options

A pattern is given as a text. It is refused when the text is no expression, and when a search for it
would take too much memory.

## Main definitions

* `PatternFault`: why a text is refused.
* `Pattern.ofText`: the pattern of a text.
-/

namespace RecordSchema

/-- Why a text is refused as a pattern. -/
inductive PatternFault where
  /-- It is no expression, or one without a meaning. -/
  | malformed
  /-- A search for it would take too much memory. -/
  | tooLarge
deriving DecidableEq, Repr

/-- The wording of a fault. -/
def PatternFault.message : PatternFault → String
  | malformed => "regex parse error"
  | tooLarge =>
    "Compiled regex exceeds size limit of " ++ toString Machine.sizeLimit ++ " bytes."

/-- The pattern of a text. -/
def Pattern.ofText (text : String) : Except PatternFault Pattern :=
  match (Expression.parse? text).bind Expression.pattern? with
  | none => .error .malformed
  | some pattern => if pattern.fitsMachine then .ok pattern else .error .tooLarge

end RecordSchema
