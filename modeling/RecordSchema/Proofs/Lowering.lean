import RecordSchema.Proofs.Flattening
import RecordSchema.Proofs.Reshaping

/-!
# Schemas with columns in lower case

A schema that is asked to name its columns in lower case differs from the same schema without this
option in its columns only. The change goes through all levels: the items of a collection have
columns of their own, and so have the fields of embedded documents.

## Main definitions

* `namesColumn`: whether the options of a field name its column.
* `lowering`: the change of a single descriptor and of a single schema.
* `Descriptor.lowered`, `Element.lowered`, `Schema.lowered`: columns in lower case, on all levels.

## Main statements

* `Schema.performAll_lowered`: events lead from a lowered schema to the lowered one.
* `interpret_lowered`, `interpretItem_lowered`: what a declaration means with the option is what it
  means without it, lowered.
* `ofDeclaration_lowered`: the same of whole schemas.
-/

namespace RecordSchema

/-! ## Lowering -/

/-- Whether the options of a field name its column, by a text that is not empty. -/
def namesColumn (options : Fields) : Bool :=
  match (options.get? "name").bind Json.asText? with
  | some name => !name.isEmpty
  | none => false

/-- A column in lower case, unless the options name it. -/
def loweredColumn (options : Fields) (column : String) : String :=
  if namesColumn options then column else lowerText column

/-- Columns in lower case, which a conversion does not see. -/
def lowering : Reshaping where
  onField field := { field with column := loweredColumn field.options field.column }
  onSchema schema := { schema with options := { insensitive := true } }
  path_onField _ := rfl
  type_onField _ := rfl
  style_onField _ := rfl
  element_onField _ := rfl
  fields_onSchema _ := rfl
  nested_onSchema _ := rfl

/-- The descriptor with its columns in lower case. -/
def Descriptor.lowered (descriptor : Descriptor) : Descriptor :=
  lowering.descriptor descriptor

/-- The items with their columns in lower case. -/
def Element.lowered (element : Element) : Element :=
  lowering.element element

/-- The schema with its columns in lower case. -/
def Schema.lowered (schema : Schema) : Schema :=
  lowering.schema schema

section equations

variable (descriptor : Descriptor) (schema : Schema)

/-- Only the column and the items of a descriptor change. -/
theorem Descriptor.lowered_eq : descriptor.lowered = { descriptor with
    column := loweredColumn descriptor.options descriptor.column
    element := descriptor.element.map Element.lowered } :=
  lowering.descriptor_eq descriptor

/-- Only the descriptors and the options of a schema change. -/
theorem Schema.lowered_eq : schema.lowered = { schema with
    fields := schema.fields.map fun entry => (entry.1, entry.2.lowered)
    options := { insensitive := true } } :=
  lowering.schema_eq schema

@[simp] theorem Descriptor.path_lowered : descriptor.lowered.path = descriptor.path :=
  lowering.path_eq descriptor

@[simp] theorem Descriptor.type_lowered : descriptor.lowered.type = descriptor.type :=
  lowering.type_eq descriptor

@[simp] theorem Descriptor.default_lowered : descriptor.lowered.default = descriptor.default := by
  rw [lowered_eq]

@[simp] theorem Descriptor.validators_lowered :
    descriptor.lowered.validators = descriptor.validators := by
  rw [lowered_eq]

@[simp] theorem Schema.tree_lowered : schema.lowered.tree = schema.tree := by
  rw [lowered_eq]

@[simp] theorem Schema.nested_lowered : schema.lowered.nested = schema.nested :=
  lowering.nested_eq schema

@[simp] theorem Schema.options_lowered : schema.lowered.options = { insensitive := true } := by
  rw [lowered_eq]

@[simp] theorem Schema.paths_lowered : schema.lowered.paths = schema.paths :=
  lowering.paths_eq schema

theorem Schema.lowered_empty (options : SchemaOptions) :
    (empty options).lowered = empty { insensitive := true } :=
  rfl

end equations

/-! ## Fields -/

/-- The column that is derived without the option comes out as the one derived with it. -/
theorem loweredColumn_columnOf (path : String) (options : Fields) :
    loweredColumn options (columnOf {} path options)
      = columnOf { insensitive := true } path options := by
  unfold loweredColumn namesColumn columnOf
  cases (options.get? "name").bind Json.asText? with
  | none => rfl
  | some name => cases hname : name.isEmpty <;> simp [hname]

theorem scalar_lowered (path : String) (type : FieldType) (options : Fields) :
    Descriptor.scalar path (columnOf { insensitive := true } path options) type options
      = (Descriptor.scalar path (columnOf {} path options) type options).map
        Descriptor.lowered := by
  rw [← loweredColumn_columnOf]
  unfold Descriptor.scalar
  cases optionValidators type path options <;> rfl

theorem collection_lowered (path : String) (element : Element) (options : Fields) :
    Descriptor.collection path (columnOf { insensitive := true } path options) element.lowered
        options
      = (Descriptor.collection path (columnOf {} path options) element options).map
        Descriptor.lowered := by
  unfold Descriptor.collection
  rw [scalar_lowered]
  cases Descriptor.scalar path (columnOf {} path options) .collection options with
  | error e => rfl
  | ok descriptor =>
    cases descriptor
    rfl

theorem interpretScalar_lowered (path : String) (options : Fields) :
    interpretScalar { insensitive := true } path options
      = (interpretScalar {} path options).map Descriptor.lowered := by
  unfold interpretScalar
  simp only
  split
  · rfl
  · cases FieldType.resolve path (typeNamePart (typePart options)) with
    | error e => rfl
    | ok type => exact scalar_lowered path type options

/-! ## Declarations -/

namespace Schema

variable {schema : Schema}

theorem addNested_lowered (path : String) :
    (schema.addNested path).lowered = schema.lowered.addNested path := by
  unfold addNested
  rw [nested_lowered]
  split
  · rfl
  · rw [lowered_eq, lowered_eq]

theorem register_lowered (path : String) (declaration : Json)
    (meaning : Except SchemaError Descriptor) :
    schema.lowered.register path declaration (meaning.map Descriptor.lowered)
      = ((schema.register path declaration meaning).1.lowered,
        (schema.register path declaration meaning).2) := by
  unfold register
  cases pathFault? path with
  | some fault => rfl
  | none =>
    cases meaning with
    | error e => rfl
    | ok descriptor =>
      simp only [Except.map, tree_lowered]
      rcases schema.tree.insert path declaration with ⟨tree, e | leaf⟩
      · simp only [lowered_eq]
      · simp only [lowered_eq, Prod.mk.injEq, Schema.mk.injEq, and_true]
        exact Entries.put_map Descriptor.lowered schema.fields path descriptor

/-- Events lead from a lowered schema to the lowered one, if what they define is meant so. -/
theorem performAll_lowered {run : List Event} (hoptions : schema.options = {})
    (hmeant : ∀ path declaration, .define path declaration ∈ run →
      interpret { insensitive := true } path declaration
        = (interpret {} path declaration).map Descriptor.lowered) :
    schema.lowered.performAll run
      = ((schema.performAll run).1.lowered, (schema.performAll run).2) := by
  induction run generalizing schema with
  | nil => rfl
  | cons event rest ih =>
    have hplain := (options_perform schema event).trans hoptions
    have hlowered : schema.lowered.perform event
        = ((schema.perform event).1.lowered, (schema.perform event).2) := by
      cases event with
      | nest path => exact congrArg (·, none) (addNested_lowered path).symm
      | define path declaration =>
        rw [perform, perform, define, define, options_lowered,
          hmeant path declaration List.mem_cons_self, hoptions]
        exact register_lowered path declaration _
      | refuse path => rfl
    rw [performAll, performAll, hlowered]
    rcases hdone : schema.perform event with ⟨next, _ | e⟩
    · rw [hdone] at hplain
      exact ih hplain fun path declaration hmem => hmeant path declaration (.tail _ hmem)
    · rfl

end Schema

mutual

/-- The descriptor of a declaration with the option is the lowered one without it. -/
theorem interpret_lowered (path : String) (declaration : Json) :
    interpret { insensitive := true } path declaration
      = (interpret {} path declaration).map Descriptor.lowered := by
  rw [interpret, interpret]
  split
  · simp only
    split
    · rename_i item hitem
      have hlt := sizeOf_itemPart_lt hitem
      rw [interpretItem_lowered path item]
      cases interpretItem {} path item with
      | error e => rfl
      | ok element => exact collection_lowered path element (fieldOptions declaration)
    · rw [interpretScalar_lowered]
      cases interpretScalar {} path [("type", .str "Mixed")] with
      | error e => rfl
      | ok descriptor =>
        exact collection_lowered path (.caster descriptor) (fieldOptions declaration)
  · exact interpretScalar_lowered path (fieldOptions declaration)
termination_by (sizeOf declaration, 0)

/-- The items of a declaration with the option are the lowered ones without it. -/
theorem interpretItem_lowered (path : String) (item : Json) :
    interpretItem { insensitive := true } path item
      = (interpretItem {} path item).map Element.lowered := by
  rcases itemKind_cases item with rfl | ⟨fields, rfl, hshape⟩ | ⟨hdeclared, hfield⟩
  · rw [interpretItem_null, interpretItem_null, interpretScalar_lowered]
    cases interpretScalar {} path [("type", .str "Mixed")] <;> rfl
  · rw [interpretItem_of_shape _ _ hshape, interpretItem_of_shape _ _ hshape,
      addFields_eq_performAll, addFields_eq_performAll, ← Schema.lowered_empty {},
      Schema.performAll_lowered rfl fun path declaration hmem => ?_]
    · rcases (Schema.empty {}).performAll (events "" fields) with ⟨schema, _ | e⟩ <;> rfl
    · have hlt : sizeOf declaration < sizeOf (Json.obj fields) := by
        have := (flattens_events "" fields).sizeOf_lt hmem
        rw [Json.obj.sizeOf_spec]
        omega
      exact interpret_lowered path declaration
  · rw [interpretItem_of_field _ _ hdeclared hfield, interpretItem_of_field _ _ hdeclared hfield,
      interpret_lowered path item]
    cases interpret {} path item <;> rfl
termination_by (sizeOf item, 1)

end

/-- The schema of a declaration with the option is the lowered one without it. -/
theorem ofDeclaration_lowered (declaration : Json) :
    Schema.ofDeclaration declaration { insensitive := true }
      = (Schema.ofDeclaration declaration {}).map Schema.lowered := by
  unfold Schema.ofDeclaration
  rw [Schema.add_eq_performAll, Schema.add_eq_performAll, ← Schema.lowered_empty {},
    Schema.performAll_lowered rfl fun path declaration _ => interpret_lowered path declaration]
  rcases (Schema.empty {}).performAll (Edit.add declaration "").events with ⟨schema, _ | e⟩ <;> rfl

end RecordSchema
