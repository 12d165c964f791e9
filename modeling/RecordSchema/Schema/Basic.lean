import RecordSchema.FieldType
import RecordSchema.PathTree
import RecordSchema.Validation

/-!
# Field descriptors and schemas

A schema maps paths to field descriptors, in the order of their first declaration, and keeps the
tree of the paths beside them. A descriptor says under which column a field is stored, of which
type it is, what it is when nothing is given, how its text is styled and which checks it has to
pass. A collection also says what its items are: values with a descriptor of their own, or
documents with a schema of their own.

## Main definitions

* `Default`: a fixed value, or a producer that is asked anew for each document.
* `TextStyle`: trimming and letter case of a text field.
* `Descriptor`, `Element`, `Schema`: the three types, which refer to each other.
* `Descriptor.validate`, `Descriptor.validateWith`, `Descriptor.setDefault`,
  `Descriptor.defaultWith`: what may be attached to a declared field.
* `Schema.find?`, `Schema.modify`: reading and changing a descriptor by its path.

## Termination

`Descriptor.isSelectable` descends along the item descriptors of nested collections.
-/

namespace RecordSchema

/-- What a field is when a document is built without a value for it. -/
inductive Default where
  /-- A fixed value. -/
  | literal (value : Json)
  /-- A producer: its answer to each call in turn, counted from zero, and the number of calls made
  so far. It may answer that there is no default. -/
  | producer (answer : Nat → Option Json) (calls : Nat)

/-- The default for the next document. -/
def Default.value : Default → Option Json
  | literal value => some value
  | producer answer calls => answer calls

/-- The default after it has been asked once. -/
def Default.advance : Default → Default
  | literal value => literal value
  | producer answer calls => producer answer (calls + 1)

/-- How the text of a field is styled when it is stored. -/
structure TextStyle where
  /-- Letters are put in lower case. -/
  lowercase : Bool := false
  /-- Letters are put in upper case. -/
  uppercase : Bool := false
  /-- Blanks at the ends are dropped. -/
  trim : Bool := false
deriving DecidableEq, Repr

namespace TextStyle

/-- The styled text: trimmed first, then in lower case, then in upper case. -/
def applyText (style : TextStyle) (s : String) : String :=
  let s := if style.trim then trimBlank s else s
  let s := if style.lowercase then lowerText s else s
  if style.uppercase then upperText s else s

/-- The styled value; only texts have a style. -/
def apply (style : TextStyle) : Json → Json
  | .str s => .str (style.applyText s)
  | value => value

end TextStyle

/-- Options of a whole schema. -/
structure SchemaOptions where
  /-- Columns are named after the path in lower case. -/
  insensitive : Bool := false
deriving DecidableEq, Repr

mutual

/-- What is known about a declared field. -/
structure Descriptor where
  /-- The path of the field. -/
  path : String
  /-- The column in which it is stored. -/
  column : String
  /-- Its type. -/
  type : FieldType
  /-- What the items of a collection are. -/
  element : Option Element
  /-- What the field is when nothing is given. -/
  default : Option Default
  /-- The checks, in the order in which they run. -/
  validators : List Validator
  /-- How its text is styled. -/
  style : TextStyle
  /-- The declaration it was made from. -/
  options : List (String × Json)

/-- What the items of a collection are. -/
inductive Element where
  /-- Values with a descriptor of their own. -/
  | caster (descriptor : Descriptor)
  /-- Documents with a schema of their own. -/
  | document (schema : Schema)

/-- A declared record shape. -/
structure Schema where
  /-- The descriptors by path, in the order of first declaration. -/
  fields : List (String × Descriptor)
  /-- The tree of declared paths with their declarations. -/
  tree : PathTree
  /-- The parents of declared fields, in the order of their first mention. -/
  nested : List String
  /-- The options of the schema. -/
  options : SchemaOptions

end

namespace Descriptor

/-- Whether the field has to have a value. -/
def isRequired (descriptor : Descriptor) : Bool :=
  descriptor.validators.any fun validator => validator.kind = .required

/-- Whether the field belongs in a projected column list: neither identifiers nor collections of
identifiers do. -/
def isSelectable : Descriptor → Bool
  | ⟨_, _, type, some (.caster item), _, _, _, _⟩ => !type.isIdentifier && isSelectable item
  | ⟨_, _, type, _, _, _, _, _⟩ => !type.isIdentifier

/-- The schema of the documents in a collection of documents. -/
def embedded? (descriptor : Descriptor) : Option Schema :=
  match descriptor.element with
  | some (.document schema) => some schema
  | _ => none

/-- What the field is in the next document; a collection is empty unless something else is
declared. -/
def defaultValue (descriptor : Descriptor) : Option Json :=
  match descriptor.default with
  | some default => default.value
  | none => if descriptor.type = .collection then some (.arr []) else none

/-- The descriptor after its default has been asked once. -/
def advance (descriptor : Descriptor) : Descriptor :=
  { descriptor with default := descriptor.default.map Default.advance }

/-- The first failure of a value within a record, the checks taken in order. -/
def check (descriptor : Descriptor) (value record : Json) : Option Failure :=
  descriptor.validators.findSome? fun validator => validator.run descriptor.path value record

/-- Attaches a check behind those present. -/
def attach (descriptor : Descriptor) (validator : Validator) : Descriptor :=
  { descriptor with validators := descriptor.validators ++ [validator] }

/-- Attaches a check that tells valid values by true and fails with a message. -/
def validate (descriptor : Descriptor) (accepts : Json → Json → Bool) (message : String) :
    Descriptor :=
  descriptor.attach (.ofTest accepts message)

/-- Attaches a check that says itself why it rejects a value. -/
def validateWith (descriptor : Descriptor) (accepts : Json → Json → Except String Unit) :
    Descriptor :=
  descriptor.attach (.ofReason accepts)

/-- Sets what the field is when nothing is given. -/
def setDefault (descriptor : Descriptor) (value : Json) : Descriptor :=
  { descriptor with default := some (.literal value) }

/-- Has a producer say what the field is when nothing is given. -/
def defaultWith (descriptor : Descriptor) (answer : Nat → Option Json) : Descriptor :=
  { descriptor with default := some (.producer answer 0) }

end Descriptor

namespace Schema

/-- The schema without fields. -/
def empty (options : SchemaOptions) : Schema where
  fields := []
  tree := .empty
  nested := []
  options := options

/-- The declared paths, in the order of first declaration. -/
def paths (schema : Schema) : List String :=
  Entries.keys schema.fields

/-- The descriptor declared at exactly this path. -/
def find? (schema : Schema) (path : String) : Option Descriptor :=
  Entries.get? schema.fields path

/-- Whether a field is declared at exactly this path. -/
def declares (schema : Schema) (path : String) : Bool :=
  Entries.has schema.fields path

/-- Changes the descriptor declared at exactly this path, if there is one. -/
def modify (schema : Schema) (path : String) (change : Descriptor → Descriptor) : Schema :=
  { schema with fields := Entries.modify schema.fields path change }

theorem find?_modify (schema : Schema) (path other : String) (change : Descriptor → Descriptor) :
    (schema.modify path change).find? other
      = (schema.find? other).map fun field => if other = path then change field else field :=
  Entries.get?_modify schema.fields path other change

@[simp] theorem paths_modify (schema : Schema) (path : String) (change : Descriptor → Descriptor) :
    (schema.modify path change).paths = schema.paths :=
  Entries.keys_modify schema.fields path change

/-- Registers the parent of declared fields, once. -/
def addNested (schema : Schema) (path : String) : Schema :=
  if schema.nested.contains path then schema
  else { schema with nested := schema.nested ++ [path] }

@[simp] theorem paths_addNested (schema : Schema) (path : String) :
    (schema.addNested path).paths = schema.paths := by
  unfold addNested
  split <;> rfl

@[simp] theorem tree_addNested (schema : Schema) (path : String) :
    (schema.addNested path).tree = schema.tree := by
  unfold addNested
  split <;> rfl

@[simp] theorem options_addNested (schema : Schema) (path : String) :
    (schema.addNested path).options = schema.options := by
  unfold addNested
  split <;> rfl

theorem nested_addNested_of_mem {schema : Schema} {path : String} (h : path ∈ schema.nested) :
    (schema.addNested path).nested = schema.nested := by
  rw [addNested, if_pos (List.contains_iff_mem.2 h)]

theorem nested_addNested_of_not_mem {schema : Schema} {path : String} (h : path ∉ schema.nested) :
    (schema.addNested path).nested = schema.nested ++ [path] := by
  rw [addNested, if_neg (mt List.contains_iff_mem.1 h)]

theorem mem_nested_addNested {schema : Schema} {path other : String} :
    other ∈ (schema.addNested path).nested ↔ other ∈ schema.nested ∨ other = path := by
  by_cases h : path ∈ schema.nested
  · rw [nested_addNested_of_mem h]
    refine ⟨.inl, ?_⟩
    rintro (hother | rfl)
    · exact hother
    · exact h
  · rw [nested_addNested_of_not_mem h, List.mem_append, List.mem_singleton]

/-- The declared paths in the order of the tree. -/
def leafPaths (schema : Schema) : List String :=
  schema.tree.leafPaths

end Schema

end RecordSchema
