import RecordSchema.Proofs.Casting
import RecordSchema.Schema.Position

/-!
# The items of collections

Every collection that comes from a declaration says what its items are, at every depth: values with
a descriptor of their own, or documents with a schema of their own. What a path leads to inside
such a descriptor says so too.

## Main definitions

* `Descriptor.IsWhole`, `Element.IsWhole`, `Schema.IsWhole`: whether all collections in a
  descriptor, an item or a schema say what their items are.

## Main statements

* `interpret_isWhole`, `interpretItem_isWhole`, `addFields_isWhole`: so do those of declarations.
* `Schema.IsWhole.path?`: so does what a path leads to.
-/

namespace RecordSchema

mutual

/-- Whether the collections in a descriptor say what their items are. -/
inductive Descriptor.IsWhole : Descriptor → Prop
  | intro {descriptor : Descriptor}
      (collection : descriptor.type = .collection → descriptor.element.isSome)
      (element : ∀ element, descriptor.element = some element → element.IsWhole) :
      descriptor.IsWhole

/-- Whether the collections in an item say what their items are. -/
inductive Element.IsWhole : Element → Prop
  | caster {descriptor : Descriptor} (descriptorWhole : descriptor.IsWhole) :
      (Element.caster descriptor).IsWhole
  | document {schema : Schema}
      (fieldsWhole : ∀ path field, (path, field) ∈ schema.fields → field.IsWhole) :
      (Element.document schema).IsWhole

end

/-- Whether the collections in a schema say what their items are. -/
def Schema.IsWhole (schema : Schema) : Prop :=
  ∀ path field, (path, field) ∈ schema.fields → field.IsWhole

/-! ## Declarations -/

theorem FieldType.ne_collection_of_resolve {path typeName : String} {type : FieldType}
    (h : FieldType.resolve path typeName = .ok type) : type ≠ .collection := by
  have hregistry : ∀ entry ∈ FieldType.registry, entry.2 ≠ .collection := by decide
  unfold FieldType.resolve FieldType.lookup at h
  split at h
  · rename_i hlookup
    cases h
    obtain ⟨front, back, hentry, _⟩ := List.lookup_eq_some_iff.1 hlookup
    exact hregistry (_, type) (hentry ▸ List.mem_append_right front (.head back))
  · cases h

theorem interpretScalar_isWhole {schemaOptions : SchemaOptions} {path : String} {options : Fields}
    {field : Descriptor} (h : interpretScalar schemaOptions path options = .ok field) :
    field.IsWhole := by
  unfold interpretScalar at h
  simp only at h
  split at h
  · cases h
  · obtain ⟨type, htype, h⟩ := bind_eq_ok_iff.1 h
    obtain ⟨validators, _, h⟩ := bind_eq_ok_iff.1 h
    cases h
    refine .intro (fun hcollection => ?_) fun element helement => ?_
    · exact absurd hcollection (FieldType.ne_collection_of_resolve htype)
    · cases helement

theorem collection_isWhole {path column : String} {element : Element} {options : Fields}
    {field : Descriptor} (h : Descriptor.collection path column element options = .ok field)
    (helement : element.IsWhole) : field.IsWhole := by
  obtain ⟨descriptor, _, h⟩ := bind_eq_ok_iff.1 h
  cases h
  refine .intro (fun _ => rfl) fun other hother => ?_
  cases hother
  exact helement

theorem Schema.IsWhole.register {schema : Schema} (h : schema.IsWhole) (path : String)
    (declaration : Json) {meaning : Except SchemaError Descriptor}
    (hmeaning : ∀ field, meaning = .ok field → field.IsWhole) :
    (schema.register path declaration meaning).1.IsWhole := by
  unfold Schema.register
  split
  · exact h
  · split
    · exact h
    · rename_i descriptor
      split
      · exact h
      · intro other field hmem
        rcases Entries.mem_put hmem with hmem | hput
        · exact h other field hmem
        · cases hput
          exact hmeaning _ rfl

theorem Schema.IsWhole.addNested {schema : Schema} (h : schema.IsWhole) (path : String) :
    (schema.addNested path).IsWhole := by
  unfold Schema.addNested
  split <;> exact h

mutual

/-- The descriptor of a declaration is whole. -/
theorem interpret_isWhole {options : SchemaOptions} {path : String} {declaration : Json}
    {field : Descriptor} (h : interpret options path declaration = .ok field) :
    field.IsWhole := by
  rw [interpret] at h
  split at h
  · simp only at h
    split at h
    · rename_i item hitem
      have hlt := sizeOf_itemPart_lt hitem
      obtain ⟨element, helement, hcollection⟩ := bind_eq_ok_iff.1 h
      exact collection_isWhole hcollection (interpretItem_isWhole helement)
    · obtain ⟨element, helement, hcollection⟩ := bind_eq_ok_iff.1 h
      obtain ⟨item, hitem, rfl⟩ := map_eq_ok_iff.1 helement
      exact collection_isWhole hcollection (.caster (interpretScalar_isWhole hitem))
  · exact interpretScalar_isWhole h
termination_by (sizeOf declaration, 0)

/-- What a declaration says about items is whole. -/
theorem interpretItem_isWhole {options : SchemaOptions} {path : String} {item : Json}
    {element : Element} (h : interpretItem options path item = .ok element) :
    element.IsWhole := by
  rcases itemKind_cases item with rfl | ⟨fields, rfl, hshape⟩ | ⟨hdeclared, hfield⟩
  · rw [interpretItem_null] at h
    obtain ⟨field, hfield, rfl⟩ := map_eq_ok_iff.1 h
    exact .caster (interpretScalar_isWhole hfield)
  · rw [interpretItem_of_shape _ _ hshape] at h
    obtain ⟨schema, hschema, rfl⟩ := map_eq_ok_iff.1 h
    have hwhole : (addFields (Schema.empty options) "" fields).1.IsWhole :=
      addFields_isWhole "" fields fun path field hmem => absurd hmem List.not_mem_nil
    rcases hadd : addFields (Schema.empty options) "" fields with ⟨after, _ | e⟩ <;>
      rw [hadd] at hschema hwhole <;> cases hschema
    exact .document hwhole
  · rw [interpretItem_of_field _ _ hdeclared hfield] at h
    obtain ⟨field, hvalue, rfl⟩ := map_eq_ok_iff.1 h
    exact .caster (interpret_isWhole hvalue)
termination_by (sizeOf item, 1)

/-- Declaring keys keeps a schema whole. -/
theorem addFields_isWhole {schema : Schema} (lead : String) (fields : List (String × Json))
    (h : schema.IsWhole) : (addFields schema lead fields).1.IsWhole := by
  match fields with
  | [] =>
    rw [addFields]
    exact h
  | (key, declaration) :: rest =>
    have hregister : (schema.register (lead ++ key) declaration
        (interpret schema.options (lead ++ key) declaration)).1.IsWhole :=
      h.register _ _ fun field hfield => interpret_isWhole hfield
    have hbelow : ∀ below, declaration = .obj below →
        (addFields (schema.addNested (lead ++ key)) (lead ++ key ++ ".") below).1.IsWhole := by
      intro below hobj
      have hlt : sizeOf below < sizeOf declaration := by
        rw [hobj, Json.obj.sizeOf_spec]
        omega
      exact addFields_isWhole _ below (h.addNested _)
    have hrest : ∀ after : Schema, after.IsWhole → (addFields after lead rest).1.IsWhole :=
      fun after => addFields_isWhole lead rest
    -- what a key has done is kept when it fails, so the outcome's schema counts in both cases
    have hstep : ∀ outcome : Schema × Option SchemaError, outcome.1.IsWhole →
        (match outcome with
          | (schema, none) => addFields schema lead rest
          | (schema, some e) => (schema, some e)).1.IsWhole := by
      rintro ⟨after, _ | e⟩ hafter
      · exact hrest after hafter
      · exact hafter
    unfold addFields
    refine hstep _ ?_
    cases declaration with
    | null => exact h
    | obj below =>
      dsimp only
      split
      · exact hbelow below rfl
      · exact hregister
    | bool | num | str | arr => exact hregister
termination_by (sizeOf fields, 0)

end

/-! ## Paths -/

theorem Descriptor.IsWhole.of_element {descriptor : Descriptor} {element : Element}
    (h : descriptor.IsWhole) (helement : descriptor.element = some element) : element.IsWhole := by
  obtain ⟨-, hwhole⟩ := h
  exact hwhole element helement

theorem Descriptor.element_of_embedded? {descriptor : Descriptor} {schema : Schema}
    (h : descriptor.embedded? = some schema) : descriptor.element = some (.document schema) := by
  unfold embedded? at h
  split at h
  · rename_i helement
    cases h
    exact helement
  · cases h

theorem Schema.IsWhole.find? {schema : Schema} (h : schema.IsWhole) {path : String}
    {field : Descriptor} (hfind : schema.find? path = some field) : field.IsWhole :=
  h path field (Entries.mem_of_get? hfind)

/-- What the parts of a path lead to from a whole descriptor is whole. -/
theorem Located.follow_isWhole {parts : List Path.Part} {here found : Located}
    (h : here.descriptor.IsWhole) (hfound : here.follow parts = some found) :
    found.descriptor.IsWhole := by
  induction here, parts using Located.follow.induct with
  | case1 here =>
    rw [follow] at hfound
    cases hfound
    exact h
  | case2 here item hitem =>
    rw [follow, hitem] at hfound
    cases hfound
    cases h.of_element hitem with
    | caster hwhole => exact hwhole
  | case3 here schema hschema =>
    rw [follow, hschema] at hfound
    cases hfound
    exact h
  | case4 here hnone =>
    rw [follow, hnone] at hfound
    cases hfound
  | case5 here rest hrest ih =>
    rw [follow] at hfound
    · exact ih h hfound
    · exact hrest
  | case6 here path rest field hfield ih =>
    rw [follow, hfield] at hfound
    refine ih ?_ hfound
    obtain ⟨schema, hschema, hfind⟩ := Option.bind_eq_some_iff.1 hfield
    cases h.of_element (Descriptor.element_of_embedded? hschema) with
    | document hwhole => exact Schema.IsWhole.find? hwhole hfind
  | case7 here path rest hnone =>
    rw [follow, hnone] at hfound
    cases hfound

/-- What a path leads to in a whole schema is whole. -/
theorem Schema.IsWhole.path? {schema : Schema} (h : schema.IsWhole) {path : String}
    {field : Descriptor} (hpath : schema.path? path = some field) : field.IsWhole := by
  obtain ⟨located, hlocated, rfl⟩ := Option.map_eq_some_iff.1 hpath
  unfold Schema.locate? at hlocated
  split at hlocated
  · rename_i hfind
    cases hlocated
    exact h.find? hfind
  · split at hlocated
    · unfold Schema.positional? at hlocated
      split at hlocated
      · obtain ⟨field, hfind, hfollow⟩ := Option.bind_eq_some_iff.1 hlocated
        have hwhole : (⟨field, true⟩ : Located).descriptor.IsWhole := h.find? hfind
        exact Located.follow_isWhole hwhole hfollow
      · cases hlocated
    · cases hlocated

end RecordSchema
