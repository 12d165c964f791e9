import RecordSchema.Json.Printer

/-!
# Errors of schemas and statements

Six causes arise while a schema is declared, three while it is used. The wording of each is fixed
by `SchemaError.message`.

## Main definitions

* `SchemaError`: the causes.
* `SchemaError.message`: their wording.
* `SchemaError.isDeclaration`: whether the cause lies in a declaration.
-/

namespace RecordSchema

/-- Why a declaration, a cast or a compilation was refused. -/
inductive SchemaError where
  /-- A declared path has no usable declaration or an empty segment. -/
  | invalidPath (path : String)
  /-- A declared path is the name of a document accessor. -/
  | reservedName (path : String)
  /-- A declared type name is not known. -/
  | unknownType (path typeName : String)
  /-- A declared path would continue past a declared field. -/
  | pathConflict (path parent typeName : String)
  /-- A declared path is already the parent of declared fields. -/
  | nestedConflict (path : String)
  /-- A declared option has an unusable value. -/
  | invalidOption (path option reason : String)
  /-- A criterion or a listed field is not declared. -/
  | unknownField (field : String)
  /-- An argument has the wrong shape. -/
  | invalidInput (reason : String)
  /-- A value has no stored form of the expected type. -/
  | cast (path expected : String) (value : Json)

namespace SchemaError

/-- The wording of an error. -/
def message : SchemaError → String
  | invalidPath path => s!"Invalid value for schema path `{path}`"
  | reservedName path => s!"`{path}` may not be used as a schema pathname"
  | unknownType path typeName =>
    s!"Undefined type `{typeName}` at `{path}`\n  "
      ++ "Did you try nesting Schemas? You can only nest using refs or arrays."
  | pathConflict path parent typeName =>
    s!"Cannot set nested path `{path}`. Parent path `{parent}` already set to type {typeName}."
  | nestedConflict path => s!"`{path}` is already a nested path and cannot be declared as a field"
  | invalidOption path option reason => s!"Invalid option `{option}` at `{path}`: {reason}"
  | unknownField field => s!"Unknown field `{field}`"
  | invalidInput reason => s!"Invalid input: {reason}"
  | cast path expected value =>
    "Cast to " ++ expected ++ " failed for value " ++ value.compact ++ " at path `" ++ path ++ "`"

/-- Whether the error was raised while a schema was being declared. -/
def isDeclaration : SchemaError → Bool
  | invalidPath _ | reservedName _ | unknownType .. | pathConflict .. | nestedConflict _
  | invalidOption .. => true
  | unknownField _ | invalidInput _ | cast .. => false

end SchemaError

end RecordSchema
