import RecordSchema.Schema.Options

/-!
# Declarations

A declaration is an object whose keys are paths. An object without a type is a shape: its keys are
declared below its own. Everything else is a field: the name of a type, an object with a type and
options, a list with the type of its items, or an empty object for any value. An object whose type
is itself an object with a type declares a field named `type`, so it is a shape again.

Declaring goes on until the first error and keeps what was declared before it.

## Main definitions

* `reservedNames`: the paths that cannot be declared.
* `isShape`: whether a declaration is a shape.
* `interpret`: the descriptor that a declaration means at a path.
* `Schema.define`: declares one field.
* `Schema.add`: declares the keys of an object.
* `Schema.ofDeclaration`: the schema of a declaration.

## Termination

Interpretation goes from a declaration to a part of it, by the size of the value.
-/

namespace RecordSchema

/-- Paths that cannot be declared because they name accessors of a document. -/
def reservedNames : List String :=
  ["on", "db", "set", "get", "init", "isNew", "errors", "schema", "options", "modelName",
    "collection", "toObject", "emit", "_events", "_pres", "_posts"]

/-- Whether an object has a type that counts. -/
def hasTypeKey (value : Json) : Bool :=
  ((value.get? "type").map Json.isTruthy).getD false

/-- Whether an object describes a shape and not a field: its type is absent, does not count, or is
itself an object with a type. -/
def isShape : Json → Bool
  | .obj fields =>
    match Entries.get? fields "type" with
    | some type => !type.isTruthy || hasTypeKey type
    | none => true
  | _ => false

/-- Whether an object describes a shape that has keys. -/
def isFilledShape (value : Json) : Bool :=
  isShape value && !(value.asFields?.getD []).isEmpty

/-- The options of a field; a declaration that is no object is a type alone. -/
def fieldOptions : Json → Fields
  | .obj fields => fields
  | other => [("type", other)]

/-- The type part of a field's options; an empty object when there is none that counts, or when it
declares a field named `type`. -/
def typePart (options : Fields) : Json :=
  match options.get? "type" with
  | some type => if type.isTruthy && !hasTypeKey type then type else .obj []
  | none => .obj []

/-- Whether a type part is the word for a list. -/
def isListWord : Json → Bool
  | .str word => word = "Array" || word = "array"
  | _ => false

/-- Whether a field is a collection. -/
def isCollection (options : Fields) : Bool :=
  match typePart options with
  | .arr _ => true
  | type => isListWord type || options.has "cast"

/-- What the items of a collection are declared as. -/
def itemPart (options : Fields) : Option Json :=
  match typePart options with
  | .arr items => items.head?
  | _ => options.get? "cast"

/-- The type name of a field that is no collection; an empty name when there is none. -/
def typeNamePart : Json → String
  | .str name => name
  | .obj [] => "Mixed"
  | .obj fields => ((Entries.get? fields "name").bind Json.asText?).getD ""
  | _ => ""

/-- The column of a field: the one it names, or else its path, in lower case if so asked. -/
def columnOf (schemaOptions : SchemaOptions) (path : String) (options : Fields) : String :=
  let derived := if schemaOptions.insensitive then lowerText path else path
  match (options.get? "name").bind Json.asText? with
  | some name => if name.isEmpty then derived else name
  | none => derived

/-- The descriptor of a field that is no collection. -/
def interpretScalar (schemaOptions : SchemaOptions) (path : String) (options : Fields) :
    Except SchemaError Descriptor :=
  let type := typePart options
  let name := typeNamePart type
  if name.isEmpty then .error (.unknownType path type.compact)
  else do
    let type ← FieldType.resolve path name
    Descriptor.scalar path (columnOf schemaOptions path options) type options

/-- Why a path cannot be declared, whatever is declared at it. -/
def pathFault? (path : String) : Option SchemaError :=
  if reservedNames.contains path then some (.reservedName path)
  else if (Path.segments path).any String.isEmpty then some (.invalidPath path)
  else none

/-- Registers a field: the schema afterwards, and the error, if any. The fault of its path comes
first, then that of its meaning, then a clash with a declared path. -/
def Schema.register (schema : Schema) (path : String) (declaration : Json)
    (meaning : Except SchemaError Descriptor) : Schema × Option SchemaError :=
  match pathFault? path with
  | some fault => (schema, some fault)
  | none =>
    match meaning with
    | .error e => (schema, some e)
    | .ok descriptor =>
      match schema.tree.insert path declaration with
      | (tree, .error e) => ({ schema with tree }, some e)
      | (tree, .ok _) =>
        ({ schema with tree, fields := Entries.put schema.fields path descriptor }, none)

theorem sizeOf_get?_lt (fields : Fields) {key : String} {value : Json}
    (h : fields.get? key = some value) : sizeOf value < sizeOf fields := by
  induction fields with
  | nil => simp [Entries.get?] at h
  | cons head rest ih =>
    obtain ⟨k, v⟩ := head
    unfold Entries.get? at h
    split at h
    · simp only [Option.some.injEq] at h
      subst h
      simp only [List.cons.sizeOf_spec, Prod.mk.sizeOf_spec]
      omega
    · have := ih h
      simp only [List.cons.sizeOf_spec]
      omega

theorem sizeOf_typePart_arr_lt {declaration : Json} {items : List Json}
    (h : typePart (fieldOptions declaration) = .arr items) :
    sizeOf items < sizeOf declaration := by
  unfold typePart at h
  split at h
  · rename_i type htype
    split at h
    · subst h
      cases declaration with
      | obj fields =>
        have := sizeOf_get?_lt fields htype
        simp only [Json.arr.sizeOf_spec, Json.obj.sizeOf_spec] at this ⊢
        omega
      | arr _ =>
        simp only [fieldOptions, Entries.get?, if_true, Option.some.injEq] at htype
        cases htype
        simp
      | _ => simp [fieldOptions, Entries.get?] at htype
    · simp at h
  · simp at h

theorem sizeOf_itemPart_lt {declaration item : Json}
    (h : itemPart (fieldOptions declaration) = some item) : sizeOf item < sizeOf declaration := by
  unfold itemPart at h
  split at h
  · rename_i items htype
    have hlt := sizeOf_typePart_arr_lt htype
    cases items with
    | nil => simp at h
    | cons first rest =>
      simp only [List.head?_cons, Option.some.injEq] at h
      subst h
      simp only [List.cons.sizeOf_spec] at hlt
      omega
  · cases declaration with
    | obj fields =>
      have := sizeOf_get?_lt fields h
      simp only [Json.obj.sizeOf_spec]
      omega
    | _ => simp [fieldOptions, Entries.get?] at h

mutual

/-- The descriptor that a declaration means at a path. -/
def interpret (options : SchemaOptions) (path : String) (declaration : Json) :
    Except SchemaError Descriptor :=
  if isCollection (fieldOptions declaration) then do
    let element ←
      match h : itemPart (fieldOptions declaration) with
      | some item =>
        have := sizeOf_itemPart_lt h
        interpretItem options path item
      | none => (interpretScalar options path [("type", .str "Mixed")]).map Element.caster
    Descriptor.collection path (columnOf options path (fieldOptions declaration)) element
      (fieldOptions declaration)
  else interpretScalar options path (fieldOptions declaration)
termination_by (sizeOf declaration, 0)

/-- What the items of the collection at a path are declared as: documents when they have a shape
with keys, any values when nothing is said. -/
def interpretItem (options : SchemaOptions) (path : String) (item : Json) :
    Except SchemaError Element :=
  match item with
  | .null => (interpretScalar options path [("type", .str "Mixed")]).map Element.caster
  | .obj fields =>
    if isFilledShape (.obj fields) then
      match addFields (Schema.empty options) "" fields with
      | (schema, none) => .ok (.document schema)
      | (_, some e) => .error e
    else (interpret options path (.obj fields)).map Element.caster
  | item => (interpret options path item).map Element.caster
termination_by (sizeOf item, 1)

/-- Declares keys below a lead, which is empty or ends in a dot. Goes on until the first error and
keeps what was declared before it. -/
def addFields (schema : Schema) (lead : String) :
    List (String × Json) → Schema × Option SchemaError
  | [] => (schema, none)
  | (key, declaration) :: rest =>
    let path := lead ++ key
    let outcome :=
      match declaration with
      | .null => (schema, some (SchemaError.invalidPath path))
      | .obj fields =>
        if isFilledShape (.obj fields) then
          addFields (schema.addNested path) (path ++ ".") fields
        else schema.register path (.obj fields) (interpret schema.options path (.obj fields))
      | declaration =>
        schema.register path declaration (interpret schema.options path declaration)
    match outcome with
    | (schema, none) => addFields schema lead rest
    | (schema, some e) => (schema, some e)
termination_by fields => (sizeOf fields, 0)

end

namespace Schema

/-- Declares one field: the schema afterwards, and the error, if any. A field declared before is
replaced in its place. -/
def define (schema : Schema) (path : String) (declaration : Json) :
    Schema × Option SchemaError :=
  schema.register path declaration (interpret schema.options path declaration)

/-- A lead without the dots at its end. -/
def trimDots (lead : String) : String :=
  String.ofList (lead.toList.reverse.dropWhile (· = '.')).reverse

/-- Declares the keys of an object below a lead, which is empty or ends in a dot: the schema
afterwards, and the error that stopped it, if any. -/
def add (schema : Schema) (declaration : Json) (lead : String) : Schema × Option SchemaError :=
  match declaration with
  | .obj fields => addFields schema lead fields
  | _ => (schema, some (.invalidPath (trimDots lead)))

/-- The schema of a declaration. -/
def ofDeclaration (declaration : Json) (options : SchemaOptions) : Except SchemaError Schema :=
  match (empty options).add declaration "" with
  | (schema, none) => .ok schema
  | (_, some e) => .error e

end Schema

end RecordSchema
