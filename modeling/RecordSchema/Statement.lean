import RecordSchema.Schema.Cast

/-!
# Statements

A schema turns criteria into a SELECT statement and a record into an INSERT statement. Values never
stand in the text of a statement: each has a placeholder, and the parameters come in the order of
their placeholders.

A SELECT stops at the first criterion that is not declared or has no stored form. An INSERT stops
for no value: every declared field is checked, each field with a value that counts is bound in its
stored form, and what fails is reported beside the statement.

A list of fields restricts the columns. An entry stands for a declared field or for all fields
below a parent; an empty list stands for every field.

## Main definitions

* `CompilerSettings`: the limit of a SELECT that names none.
* `Statement`: the text, the parameters and the failures.
* `Draft`: an INSERT that is being compiled.
* `Schema.columnList`, `Schema.select`, `Schema.insert`: compilation.
* `Json.valueAt?`: the value of a record at a path.
-/

namespace RecordSchema

/-- How statements are compiled. -/
structure CompilerSettings where
  /-- Whether compiled statements are traced. -/
  traceQueries : Bool := true
  /-- The limit of a SELECT that names none; zero stands for no limit. -/
  defaultLimit : Nat := 0
deriving DecidableEq, Repr

/-- A compiled statement. -/
structure Statement where
  /-- The text, with a question mark for each parameter. -/
  query : String
  /-- The parameters, in the order of their placeholders. -/
  params : List Json
  /-- The failures of the record, if any. -/
  failures : Option FailureReport

/-- Whether nothing in the record failed. -/
def Statement.isValid (statement : Statement) : Bool :=
  statement.failures.isNone

/-- A statement as an object; the failures are left out when there are none. -/
def Statement.toJson (statement : Statement) : Json :=
  .obj ([("query", .str statement.query), ("params", .arr statement.params)]
    ++ (statement.failures.map fun report => ("errors", report.toJson)).toList)

/-- The settings as an object. -/
def CompilerSettings.toJson (settings : CompilerSettings) : Json :=
  .obj [("trace_queries", .bool settings.traceQueries),
    ("default_limit", .ofInt settings.defaultLimit)]

/-- The fields of an argument that has to be an object; `null` stands for an empty one. -/
def argumentFields (argument : Json) (what : String) : Except SchemaError Fields :=
  match argument with
  | .obj fields => .ok fields
  | .null => .ok []
  | other => .error (.invalidInput (what ++ " must be a JSON object, got " ++ other.compact))

/-- Whether a list of fields covers a path. -/
def isListed (listed : List String) (path : String) : Bool :=
  listed.isEmpty || listed.any (Path.covers · path)

/-- The value of a record at a path: under the path itself as a key, or else by following the
segments through nested objects. -/
def Json.valueAt? (record : Json) (path : String) : Option Json :=
  match record.get? path with
  | some value => some value
  | none => (Path.segments path).foldlM Json.get? record

namespace Schema

/-- Refuses a list of fields with an entry that is neither declared nor a parent of fields. -/
def checkListed (schema : Schema) : List String → Except SchemaError Unit
  | [] => .ok ()
  | field :: rest =>
    if schema.declares field || schema.nested.contains field then schema.checkListed rest
    else .error (.unknownField field)

/-- The columns that a SELECT projects under a list of fields, in the order of the tree. -/
def selectedColumns (schema : Schema) (listed : List String) : List String :=
  (((schema.leafPaths.filter (isListed listed)).filterMap schema.find?).filter
    Descriptor.isSelectable).map Descriptor.column

/-- The column list of a SELECT; a star when no column can be projected. -/
def columnList (schema : Schema) (listed : List String) : Except SchemaError String := do
  schema.checkListed listed
  let columns := schema.selectedColumns listed
  return if columns.isEmpty then "*" else ", ".intercalate columns

/-- The conditions of a SELECT: for each criterion the column and the stored value. -/
def conditions (schema : Schema) : List (String × Json) → Except SchemaError (List (String × Json))
  | [] => .ok []
  | (key, value) :: rest => do
    let field ← match schema.find? key with
      | some field => .ok field
      | none => .error (.unknownField key)
    let param ← field.cast value
    let rest ← schema.conditions rest
    return (field.column, param) :: rest

/-- Compiles a SELECT of the listed fields from a table, for the records that meet all criteria.
A limit of zero stands for the limit of the settings. -/
def select (schema : Schema) (settings : CompilerSettings) (table : String) (criteria : Json)
    (listed : List String) (limit : Nat) : Except SchemaError Statement := do
  let criteria ← argumentFields criteria "criteria"
  let columns ← schema.columnList listed
  let conditions ← schema.conditions criteria
  let filter :=
    if conditions.isEmpty then ""
    else " WHERE " ++ " AND ".intercalate (conditions.map fun condition => condition.1 ++ " = ?")
  let limit := if 0 < limit then limit else settings.defaultLimit
  let cut := if 0 < limit then " LIMIT " ++ decimalText limit else ""
  return {
    query := "SELECT " ++ columns ++ " FROM " ++ table ++ filter ++ cut
    params := conditions.map Prod.snd
    failures := none }

end Schema

/-- An INSERT that is being compiled. -/
structure Draft where
  /-- The columns so far. -/
  columns : List String := []
  /-- The stored values so far. -/
  params : List Json := []
  /-- The failures so far; a report is begun with the first one. -/
  failures : Option FailureReport := none

namespace Draft

/-- The draft with one more column and its stored value. -/
def bind (draft : Draft) (column : String) (param : Json) : Draft :=
  { draft with columns := draft.columns ++ [column], params := draft.params ++ [param] }

/-- The draft with one more failure. -/
def report (draft : Draft) (failure : Failure) : Draft :=
  { draft with failures := some ((draft.failures.getD {}).insert failure) }

/-- The draft with one more failure, if there is one. -/
def reportAny (draft : Draft) : Option Failure → Draft
  | some failure => draft.report failure
  | none => draft

end Draft

namespace Schema

/-- The draft after the field at one path: the field is checked in any case; it is bound when it
has a value that counts, is listed and has a stored form. -/
def draftField (schema : Schema) (record : Json) (listed : List String) (draft : Draft)
    (path : String) : Draft :=
  match schema.find? path with
  | none => draft
  | some field =>
    let value := record.valueAt? path
    let draft := draft.reportAny (field.check (value.getD .null) record)
    match value.filter Json.isTruthy with
    | none => draft
    | some value =>
      if !isListed listed path then draft
      else match field.cast value with
        | .ok param => draft.bind field.column param
        | .error e => draft.report ⟨path, e.message, .cast, value⟩

/-- Compiles an INSERT of the listed fields of a record into a table. -/
def insert (schema : Schema) (table : String) (record : Json) (listed : List String) :
    Except SchemaError Statement := do
  let _ ← argumentFields record "record"
  schema.checkListed listed
  let draft := schema.leafPaths.foldl (schema.draftField record listed) {}
  return {
    query := "INSERT INTO " ++ table ++ " (" ++ ", ".intercalate draft.columns
      ++ ") VALUES (" ++ ", ".intercalate (List.replicate draft.columns.length "?") ++ ")"
    params := draft.params
    failures := draft.failures }

end Schema

end RecordSchema
