import RecordSchema.Document
import RecordSchema.Proofs.SelectStatement

/-!
# Changes that a conversion does not see

A conversion reads the types, paths and styles of descriptors and what their items are, and it looks
fields up by path. A change of descriptors and schemas that keeps all of these at every level, and
may change columns, defaults, checks, options or trees, commutes with every look-up and leaves every
stored form as it is. Which fields may be projected or listed, and what a projection means, stays
the same too.

A change is given by what it does to a single descriptor and to a single schema. It goes through the
items and the embedded documents from the innermost ones outwards.

## Main definitions

* `Reshaping`: such a change of a single descriptor and of a single schema.
* `Reshaping.descriptor`, `Reshaping.element`, `Reshaping.schema`: the change on all levels.

## Main statements

* `Reshaping.descriptor_eq`, `Reshaping.schema_eq`: one level of the change.
* `Reshaping.path?_eq`: a path leads to the changed descriptor.
* `Reshaping.isSelectable_eq`, `Reshaping.checkListed_eq`: the same fields may be projected and
  listed.
* `Reshaping.ofProjection_eq`: a projection means the same.
* `Reshaping.cast_eq`, `Reshaping.castItem_eq`: stored forms stay as they are.
-/

namespace RecordSchema

/-- A change of a single descriptor and of a single schema that keeps what a conversion looks at. -/
structure Reshaping where
  /-- The change of a descriptor whose items are already changed. -/
  onField : Descriptor → Descriptor
  /-- The change of a schema whose descriptors are already changed. -/
  onSchema : Schema → Schema
  /-- Descriptors keep their paths. -/
  path_onField : ∀ field, (onField field).path = field.path
  /-- Descriptors keep their types. -/
  type_onField : ∀ field, (onField field).type = field.type
  /-- Descriptors keep their styles. -/
  style_onField : ∀ field, (onField field).style = field.style
  /-- Descriptors keep their items. -/
  element_onField : ∀ field, (onField field).element = field.element
  /-- Schemas keep their descriptors. -/
  fields_onSchema : ∀ inner, (onSchema inner).fields = inner.fields
  /-- Schemas keep the parents of their fields. -/
  nested_onSchema : ∀ inner, (onSchema inner).nested = inner.nested

namespace Reshaping

variable (r : Reshaping)

/-! ## All levels -/

mutual

/-- The changed descriptor, its items changed first. -/
def descriptor : Descriptor → Descriptor
  | ⟨path, column, type, items, default, validators, style, options⟩ =>
    r.onField ⟨path, column, type, elementAny items, default, validators, style, options⟩

/-- The changed items, if there are any. -/
def elementAny : Option Element → Option Element
  | none => none
  | some items => some (element items)

/-- The changed items. -/
def element : Element → Element
  | .caster field => .caster (descriptor field)
  | .document inner => .document (schema inner)

/-- The changed schema, its descriptors changed first. -/
def schema : Schema → Schema
  | ⟨fields, tree, nested, options⟩ => r.onSchema ⟨fieldsBelow fields, tree, nested, options⟩

/-- The changed descriptors. -/
def fieldsBelow : List (String × Descriptor) → List (String × Descriptor)
  | [] => []
  | (path, field) :: rest => (path, descriptor field) :: fieldsBelow rest

end

theorem elementAny_eq (items : Option Element) : r.elementAny items = items.map r.element := by
  cases items <;> rfl

theorem fieldsBelow_eq (fields : List (String × Descriptor)) :
    r.fieldsBelow fields = fields.map fun entry => (entry.1, r.descriptor entry.2) := by
  induction fields with
  | nil => rfl
  | cons head rest ih => rw [fieldsBelow, ih, List.map_cons]

/-- One level of a descriptor. -/
theorem descriptor_eq (field : Descriptor) :
    r.descriptor field = r.onField { field with element := field.element.map r.element } := by
  cases field
  rw [descriptor, elementAny_eq]

/-- One level of a schema. -/
theorem schema_eq (inner : Schema) : r.schema inner = r.onSchema { inner with
    fields := inner.fields.map fun entry => (entry.1, r.descriptor entry.2) } := by
  cases inner
  rw [schema, fieldsBelow_eq]

/-- Items with a descriptor have the changed one. -/
theorem caster_eq (field : Descriptor) :
    r.element (.caster field) = .caster (r.descriptor field) :=
  rfl

/-- Documents have the changed schema. -/
theorem document_eq (inner : Schema) : r.element (.document inner) = .document (r.schema inner) :=
  rfl

theorem path_eq (field : Descriptor) : (r.descriptor field).path = field.path := by
  rw [descriptor_eq, path_onField]

theorem type_eq (field : Descriptor) : (r.descriptor field).type = field.type := by
  rw [descriptor_eq, type_onField]

theorem style_eq (field : Descriptor) : (r.descriptor field).style = field.style := by
  rw [descriptor_eq, style_onField]

theorem element_eq (field : Descriptor) :
    (r.descriptor field).element = field.element.map r.element := by
  rw [descriptor_eq, element_onField]

theorem fields_eq (inner : Schema) :
    (r.schema inner).fields = inner.fields.map fun entry => (entry.1, r.descriptor entry.2) := by
  rw [schema_eq, fields_onSchema]

theorem nested_eq (inner : Schema) : (r.schema inner).nested = inner.nested := by
  rw [schema_eq, nested_onSchema]

theorem paths_eq (inner : Schema) : (r.schema inner).paths = inner.paths := by
  rw [Schema.paths, Schema.paths, fields_eq, Entries.keys, List.map_map]
  rfl

/-- The fields of a schema are the changed ones. -/
theorem find?_eq (inner : Schema) (path : String) :
    (r.schema inner).find? path = (inner.find? path).map r.descriptor := by
  rw [Schema.find?, fields_eq]
  exact Entries.get?_map r.descriptor inner.fields path

/-! ## Finding fields -/

/-- The same fields may be listed. -/
theorem checkListed_eq (inner : Schema) (listed : List String) :
    (r.schema inner).checkListed listed = inner.checkListed listed :=
  Schema.checkListed_congr (r.paths_eq inner) (r.nested_eq inner) listed

/-- A descriptor found by path, changed. -/
def located (here : Located) : Located :=
  { here with descriptor := r.descriptor here.descriptor }

theorem embedded?_eq (field : Descriptor) :
    (r.descriptor field).embedded? = field.embedded?.map r.schema := by
  rw [Descriptor.embedded?, Descriptor.embedded?, r.element_eq]
  rcases field.element with _ | field | inner
  · rfl
  · rw [Option.map_some, r.caster_eq]
    rfl
  · rw [Option.map_some, r.document_eq]
    rfl

/-- A name behind a position leads to the changed field of the embedded documents. -/
theorem embedded?_find? (field : Descriptor) (path : String) :
    (r.descriptor field).embedded?.bind (·.find? path)
      = (field.embedded?.bind (·.find? path)).map r.descriptor := by
  rw [r.embedded?_eq]
  cases field.embedded? with
  | none => rfl
  | some inner => exact r.find?_eq inner path

/-- The parts of a path lead to the changed descriptor. -/
theorem follow_eq (here : Located) (parts : List Path.Part) :
    (r.located here).follow parts = (here.follow parts).map r.located := by
  induction here, parts using Located.follow.induct with
  | case1 here => rw [Located.follow, Located.follow, Option.map_some]
  | case2 here item hitem =>
    rw [Located.follow, Located.follow, located, r.element_eq, hitem, Option.map_some, r.caster_eq]
    rfl
  | case3 here inner hinner =>
    rw [Located.follow, Located.follow, located, r.element_eq, hinner, Option.map_some,
      r.document_eq]
    rfl
  | case4 here hnone =>
    rw [Located.follow, Located.follow, located, r.element_eq, hnone]
    rfl
  | case5 here rest hrest ih =>
    rw [Located.follow, Located.follow, ih]
    all_goals exact hrest
  | case6 here path rest field hfield ih =>
    have hchanged : (r.located here).descriptor.embedded?.bind (·.find? path)
        = some (r.descriptor field) := by
      rw [located, r.embedded?_find?, hfield, Option.map_some]
    rw [Located.follow, Located.follow, hfield, hchanged]
    exact ih
  | case7 here path rest hnone =>
    have hchanged : (r.located here).descriptor.embedded?.bind (·.find? path) = none := by
      rw [located, r.embedded?_find?, hnone, Option.map_none]
    rw [Located.follow, Located.follow, hnone, hchanged]
    rfl

theorem positional?_eq (inner : Schema) (path : String) :
    (r.schema inner).positional? path = (inner.positional? path).map r.located := by
  unfold Schema.positional?
  split
  · rename_i head rest _
    rw [r.find?_eq]
    cases inner.find? head with
    | none => rfl
    | some field => exact r.follow_eq ⟨field, true⟩ rest
  · rfl

/-- A path leads to the changed descriptor. -/
theorem path?_eq (inner : Schema) (path : String) :
    (r.schema inner).path? path = (inner.path? path).map r.descriptor := by
  unfold Schema.path? Schema.locate?
  rw [r.find?_eq]
  cases inner.find? path with
  | some field => rfl
  | none =>
    simp only [Option.map_none]
    split
    · rw [r.positional?_eq, Option.map_map, Option.map_map]
      rfl
    · rfl

/-! ## Projected fields -/

/-- The same fields may be projected. -/
theorem isSelectable_eq (field : Descriptor) :
    (r.descriptor field).isSelectable = field.isSelectable := by
  by_cases hcaster : ∃ item, field.element = some (.caster item)
  · obtain ⟨item, hitem⟩ := hcaster
    have hchanged : (r.descriptor field).element = some (.caster (r.descriptor item)) := by
      rw [r.element_eq, hitem, Option.map_some, r.caster_eq]
    rw [Descriptor.isSelectable_of_caster hitem, Descriptor.isSelectable_of_caster hchanged,
      r.type_eq, isSelectable_eq item]
  · have hchanged : ∀ item, (r.descriptor field).element ≠ some (.caster item) := by
      intro item hitem
      rw [r.element_eq, Option.map_eq_some_iff] at hitem
      obtain ⟨element, helement, hcast⟩ := hitem
      cases element with
      | caster inner => exact hcaster ⟨inner, helement⟩
      | document inner =>
        rw [r.document_eq] at hcast
        cases hcast
    rw [Descriptor.isSelectable_of_not_caster (not_exists.1 hcaster),
      Descriptor.isSelectable_of_not_caster hchanged, r.type_eq]
termination_by sizeOf field
decreasing_by exact Descriptor.sizeOf_lt_of_caster hitem

/-! ## Projections -/

/-- A projection means the same. -/
theorem ofProjection_eq (inner : Schema) (projection : Option Projection) :
    Selection.ofProjection (r.schema inner) projection
      = Selection.ofProjection inner projection := by
  have hexclusive : ∀ projection : Projection,
      projection.isExclusive (r.schema inner) = projection.isExclusive inner := by
    intro projection
    unfold Projection.isExclusive
    simp only [find?_eq, Option.map_map, Function.comp_def, type_eq]
  unfold Selection.ofProjection
  simp only [hexclusive]

/-! ## Stored forms -/

mutual

/-- The stored form of a value stays as it is. -/
theorem cast_eq (field : Descriptor) (value : Json) :
    (r.descriptor field).cast value = field.cast value := by
  have hlt := field.sizeOf_element_lt
  unfold Descriptor.cast
  rw [r.type_eq, r.path_eq, r.style_eq, r.element_eq]
  cases value with
  | null => rfl
  | arr items =>
    dsimp only
    rw [castItems_eq field.path field.element items]
  | bool | num | str | obj =>
    dsimp only
    rw [castItem_eq field.path field.element _]
termination_by (sizeOf value, sizeOf field)

theorem castItems_eq (path : String) (items : Option Element) (values : List Json) :
    castItems path (items.map r.element) values = castItems path items values := by
  match values with
  | [] => rw [castItems, castItems]
  | value :: rest =>
    rw [castItems, castItems, castItem_eq path items value, castItems_eq path items rest]
termination_by (sizeOf values, sizeOf items)

/-- The stored form of an item stays as it is. -/
theorem castItem_eq (path : String) (items : Option Element) (value : Json) :
    castItem path (items.map r.element) value = castItem path items value := by
  match items with
  | none => rfl
  | some (.caster field) =>
    rw [Option.map_some, r.caster_eq, castItem, castItem, cast_eq field value]
  | some (.document inner) =>
    rw [Option.map_some, r.document_eq]
    cases value with
    | obj fields => rw [castItem, castItem, castFields_eq inner fields]
    | null => rw [castItem, castItem]
    | bool | num | str | arr => rw [castItem, castItem] <;> simp
termination_by (sizeOf value, sizeOf items)

theorem castFields_eq (inner : Schema) (fields : List (String × Json)) :
    castFields (r.schema inner) fields = castFields inner fields := by
  match fields with
  | [] => rw [castFields, castFields]
  | (key, value) :: rest =>
    have hvalue : ∀ field : Descriptor, (r.descriptor field).cast value = field.cast value :=
      fun field => cast_eq field value
    rw [castFields, castFields, castFields_eq inner rest, r.path?_eq]
    cases inner.path? key with
    | none => rfl
    | some field => simp only [Option.map_some, hvalue]
termination_by (sizeOf fields, 0)

end

end Reshaping

end RecordSchema
