import RecordSchema.Schema.Position

/-!
# Stored forms of field values

A scalar field stores its value in the form of its type, with its text style. A collection stores
a list: each item in the form of its own descriptor, a document field by field, and a value that is
no list as a list of one. The first value without a stored form decides the error.

## Main definitions

* `Descriptor.cast`: the stored form of a value.

## Termination

Either the value gets smaller, or it stays and the descriptor becomes that of an item.
-/

namespace RecordSchema

theorem Descriptor.sizeOf_element_lt (descriptor : Descriptor) :
    sizeOf descriptor.element < sizeOf descriptor := by
  cases descriptor
  simp only [Descriptor.mk.sizeOf_spec]
  omega

mutual

/-- The stored form of a value of a field. -/
def Descriptor.cast (descriptor : Descriptor) (value : Json) : Except SchemaError Json :=
  if descriptor.type = .collection then
    match value with
    | .null => .ok .null
    | .arr items => (castItems descriptor.path descriptor.element items).map .arr
    | single => (castItem descriptor.path descriptor.element single).map fun item => .arr [item]
  else (descriptor.type.cast descriptor.path value).map descriptor.style.apply
termination_by (sizeOf value, sizeOf descriptor)
decreasing_by
  all_goals simp_wf
  · left; omega
  · right; exact descriptor.sizeOf_element_lt

/-- The stored forms of the items of the collection at `path`. -/
def castItems (path : String) (element : Option Element) :
    List Json → Except SchemaError (List Json)
  | [] => .ok []
  | item :: rest =>
    match castItem path element item with
    | .error e => .error e
    | .ok item =>
      match castItems path element rest with
      | .error e => .error e
      | .ok rest => .ok (item :: rest)
termination_by items => (sizeOf items, sizeOf element)

/-- The stored form of one item of the collection at `path`. -/
def castItem (path : String) (element : Option Element) (item : Json) : Except SchemaError Json :=
  match element with
  | some (.caster descriptor) => descriptor.cast item
  | some (.document schema) =>
    match item with
    | .null => .ok .null
    | .obj fields => (castFields schema fields).map .obj
    | other => .error (.cast path "Document" other)
  | none => .ok item
termination_by (sizeOf item, sizeOf element)

/-- The stored forms of the fields of a document; what the schema does not know stays as it is. -/
def castFields (schema : Schema) :
    List (String × Json) → Except SchemaError (List (String × Json))
  | [] => .ok []
  | (key, value) :: rest =>
    let stored := match schema.path? key with
      | some field => field.cast value
      | none => .ok value
    match stored with
    | .error e => .error e
    | .ok value =>
      match castFields schema rest with
      | .error e => .error e
      | .ok rest => .ok ((key, value) :: rest)
termination_by fields => (sizeOf fields, 0)

end

end RecordSchema
