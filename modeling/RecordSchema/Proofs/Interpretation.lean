import RecordSchema.Schema.Declaration

/-!
# What a declaration means

A descriptor that comes from a declaration stands at its path and keeps the options, column and
style that the declaration gives. Its checks are those of the options `required`, `enum`, `match`,
`min` and `max`, in this order. Items are documents when a shape with keys declares them, and values
otherwise.

## Main definitions

* `Schema.result`: the schema of a run of declarations, unless it stops.

## Main statements

* `interpret_described`: the parts of an interpreted descriptor.
* `optionValidators_eq_ok_iff`: the checks that options ask for.
* `itemKind_cases`, `interpretItem_null`, `interpretItem_of_shape`, `interpretItem_of_field`: what
  items mean, in each of three cases.
* `interpret_collection`: what a collection means.
-/

namespace RecordSchema

/-! ## Sequencing -/

theorem bind_eq_ok_iff {ε α β : Type} {x : Except ε α} {f : α → Except ε β} {b : β} :
    (x >>= f) = .ok b ↔ ∃ a, x = .ok a ∧ f a = .ok b := by
  cases x with
  | error e => simp [bind, Except.bind]
  | ok a => simp [bind, Except.bind]

/-! ## Checks of options -/

theorem optionValidators_eq_ok_iff {type : FieldType} {path : String} {options : Fields}
    {validators : List Validator} : optionValidators type path options = .ok validators ↔
      ∃ required enum pattern min max,
        requiredOption type path options = .ok required ∧
        enumOption path options = .ok enum ∧
        matchOption path options = .ok pattern ∧
        boundOption "min" (minValidator type) path options = .ok min ∧
        boundOption "max" (maxValidator type) path options = .ok max ∧
        validators = required ++ enum ++ pattern ++ min ++ max := by
  unfold optionValidators
  simp only [bind_eq_ok_iff]
  constructor
  · rintro ⟨required, hrequired, enum, henum, pattern, hpattern, min, hmin, max, hmax, hall⟩
    cases hall
    exact ⟨required, enum, pattern, min, max, hrequired, henum, hpattern, hmin, hmax, rfl⟩
  · rintro ⟨required, enum, pattern, min, max, hrequired, henum, hpattern, hmin, hmax, rfl⟩
    exact ⟨required, hrequired, enum, henum, pattern, hpattern, min, hmin, max, hmax, rfl⟩

/-! ## Parts of a descriptor -/

/-- What options give to a descriptor at a path, whatever its type and items are. -/
structure Descriptor.Described (descriptor : Descriptor) (path column : String)
    (options : Fields) : Prop where
  path_eq : descriptor.path = path
  column_eq : descriptor.column = column
  options_eq : descriptor.options = options
  default_eq : descriptor.default = (options.get? "default").map Default.literal
  style_eq : descriptor.style = {
    lowercase := flagOption options "lowercase"
    uppercase := flagOption options "uppercase"
    trim := flagOption options "trim" }
  validators_eq : optionValidators descriptor.type path options = .ok descriptor.validators

theorem scalar_described {path column : String} {type : FieldType} {options : Fields}
    {descriptor : Descriptor} (h : Descriptor.scalar path column type options = .ok descriptor) :
    descriptor.Described path column options ∧ descriptor.type = type := by
  obtain ⟨validators, hvalidators, hrest⟩ := bind_eq_ok_iff.1 h
  cases hrest
  exact ⟨⟨rfl, rfl, rfl, rfl, rfl, hvalidators⟩, rfl⟩

theorem collection_described {path column : String} {element : Element} {options : Fields}
    {descriptor : Descriptor}
    (h : Descriptor.collection path column element options = .ok descriptor) :
    descriptor.Described path column options ∧ descriptor.type = .collection := by
  obtain ⟨scalar, hscalar, hrest⟩ := bind_eq_ok_iff.1 h
  cases hrest
  obtain ⟨⟨hpath, hcolumn, hoptions, hdefault, hstyle, hvalidators⟩, htype⟩ :=
    scalar_described hscalar
  exact ⟨⟨hpath, hcolumn, hoptions, hdefault, hstyle, hvalidators⟩, htype⟩

theorem interpretScalar_described {schemaOptions : SchemaOptions} {path : String}
    {options : Fields} {descriptor : Descriptor}
    (h : interpretScalar schemaOptions path options = .ok descriptor) :
    descriptor.Described path (columnOf schemaOptions path options) options := by
  unfold interpretScalar at h
  simp only at h
  split at h
  · cases h
  · obtain ⟨type, _, hscalar⟩ := bind_eq_ok_iff.1 h
    exact (scalar_described hscalar).1

/-- An interpreted descriptor has the parts that its declaration gives. -/
theorem interpret_described {schemaOptions : SchemaOptions} {path : String} {declaration : Json}
    {descriptor : Descriptor} (h : interpret schemaOptions path declaration = .ok descriptor) :
    descriptor.Described path (columnOf schemaOptions path (fieldOptions declaration))
      (fieldOptions declaration) := by
  rw [interpret] at h
  split at h
  · simp only at h
    split at h
    · obtain ⟨element, _, hcollection⟩ := bind_eq_ok_iff.1 h
      exact (collection_described hcollection).1
    · obtain ⟨element, _, hcollection⟩ := bind_eq_ok_iff.1 h
      exact (collection_described hcollection).1
  · exact interpretScalar_described h

/-! ## Items -/

/-- The schema of a run of declarations, unless it stops. -/
def Schema.result : Schema × Option SchemaError → Except SchemaError Schema
  | (schema, none) => .ok schema
  | (_, some e) => .error e

/-- Items are declared by nothing, by a shape with keys or as a field. -/
theorem itemKind_cases (item : Json) : item = .null ∨
    (∃ fields, item = .obj fields ∧ isFilledShape (.obj fields) = true) ∨
    (item ≠ .null ∧ isFilledShape item = false) := by
  cases item with
  | null => exact .inl rfl
  | obj fields =>
    cases hshape : isFilledShape (.obj fields) with
    | true => exact .inr (.inl ⟨fields, rfl, hshape⟩)
    | false => exact .inr (.inr ⟨nofun, rfl⟩)
  | bool | num | str | arr => exact .inr (.inr ⟨nofun, rfl⟩)

section items

variable (options : SchemaOptions) (path : String)

theorem interpretItem_null : interpretItem options path .null
    = (interpretScalar options path [("type", .str "Mixed")]).map Element.caster := by
  rw [interpretItem]

/-- Items that are declared by a shape with keys are documents. -/
theorem interpretItem_of_shape {fields : Fields} (hshape : isFilledShape (.obj fields) = true) :
    interpretItem options path (.obj fields)
      = (Schema.result (addFields (Schema.empty options) "" fields)).map Element.document := by
  rw [interpretItem, if_pos hshape]
  rcases addFields (Schema.empty options) "" fields with ⟨schema, _ | e⟩ <;> rfl

/-- Items that are declared as a field are values. -/
theorem interpretItem_of_field {item : Json} (hdeclared : item ≠ .null)
    (hfield : isFilledShape item = false) : interpretItem options path item
      = (interpret options path item).map Element.caster := by
  cases item with
  | null => exact absurd rfl hdeclared
  | obj fields => rw [interpretItem, if_neg (by simp [hfield])]
  | bool | num | str | arr => rw [interpretItem] <;> simp

/-- A collection is made of its items and its options. Without a declaration of items they are as
declared by null. -/
theorem interpret_collection {declaration : Json}
    (h : isCollection (fieldOptions declaration) = true) : interpret options path declaration
      = interpretItem options path ((itemPart (fieldOptions declaration)).getD .null) >>=
        fun element => Descriptor.collection path
          (columnOf options path (fieldOptions declaration)) element
          (fieldOptions declaration) := by
  rw [interpret, if_pos h]
  simp only
  split
  · rename_i item hitem
    rw [hitem]
    rfl
  · rename_i hnone
    rw [hnone, Option.getD_none, interpretItem_null]

end items

end RecordSchema
