import Mathlib
import RecordSchema.Proofs.Elements

/-!
# Storage forms

Whatever a declared field stores has the form of its type, at every depth: a scalar in the form of
its type, a collection as a list with one item for each of the value, a document with the keys that
it had. A value without such a form is refused.

## Main definitions

* `StorageForm`, `StorageItem`: the forms in which the value of a field and an item are stored.

## Main statements

* `Descriptor.IsWhole.storageForm_of_cast`: a conversion gives a storage form.
* `cast_sound`: a conversion gives a storage form or a cast error, and a collection fails just when
  one of its items does.
-/

namespace RecordSchema

mutual

/-- The forms in which a value of a field is stored. -/
inductive StorageForm : Descriptor → Json → Json → Prop
  /-- A scalar has the form of its type, identifiers in the letter case of the field. -/
  | scalar {field : Descriptor} {value stored : Json} (htype : field.type ≠ .collection)
      (hform : StoredScalar field.style.uppercase field.type stored) :
      StorageForm field value stored
  /-- A collection that is null stays null. -/
  | null {field : Descriptor} (htype : field.type = .collection) : StorageForm field .null .null
  /-- Any other value of a collection becomes a list: the items of a list keep their number and
  order, and a value that is no list becomes the only item. -/
  | list {field : Descriptor} {element : Element} {value : Json} {stored : List Json}
      (htype : field.type = .collection) (helement : field.element = some element)
      (hvalue : value ≠ .null) (hlength : stored.length = value.members.length)
      (hitems : ∀ item result, (item, result) ∈ value.members.zip stored →
        StorageItem element item result) :
      StorageForm field value (.arr stored)

/-- The forms in which an item of a collection is stored. -/
inductive StorageItem : Element → Json → Json → Prop
  /-- A value has the form of its own descriptor. -/
  | caster {descriptor : Descriptor} {item stored : Json}
      (hform : StorageForm descriptor item stored) : StorageItem (.caster descriptor) item stored
  /-- A document may be absent. -/
  | absent (schema : Schema) : StorageItem (.document schema) .null .null
  /-- A document keeps its keys in their order: what a known key holds has the form of its
  descriptor, everything else stays as it is. -/
  | document {schema : Schema} {fields stored : List (String × Json)}
      (hkeys : stored.map Prod.fst = fields.map Prod.fst)
      (hknown : ∀ key value result field, ((key, value), (key, result)) ∈ fields.zip stored →
        schema.path? key = some field → StorageForm field value result)
      (hunknown : ∀ key value result, ((key, value), (key, result)) ∈ fields.zip stored →
        schema.path? key = none → result = value) :
      StorageItem (.document schema) (.obj fields) (.obj stored)

end

theorem storageItem_of_itemForm {element : Element} {item result : Json}
    (h : ItemForm (fun field value stored => field.IsWhole → StorageForm field value stored)
      (some element) item result) (hwhole : element.IsWhole) : StorageItem element item result := by
  cases h with
  | caster hform =>
    cases hwhole with
    | caster hwhole => exact .caster (hform hwhole)
  | absent schema => exact .absent schema
  | @document schema fields stored hfields =>
    have hschema : schema.IsWhole := by
      cases hwhole with
      | document hwhole => exact hwhole
    refine .document ?_ ?_ ?_
    · have hkeys : List.Forall₂ (fun field result => Prod.fst result = Prod.fst field)
          fields stored := hfields.imp fun field result hfield => by cases hfield <;> rfl
      rw [← List.forall₂_eq_eq_eq, List.forall₂_map_left_iff, List.forall₂_map_right_iff]
      exact hkeys.flip
    · intro key value result field hmem hpath
      cases (List.forall₂_iff_zip.1 hfields).2 hmem with
      | known hfound hform =>
        cases hfound.symm.trans hpath
        exact hform (hschema.path? hpath)
      | unknown hnone => cases hnone.symm.trans hpath
    · intro key value result hmem hpath
      cases (List.forall₂_iff_zip.1 hfields).2 hmem with
      | known hfound => cases hfound.symm.trans hpath
      | unknown => rfl

/-- A conversion by a whole descriptor gives a storage form. -/
theorem Descriptor.IsWhole.storageForm_of_cast {field : Descriptor} {value stored : Json}
    (hwhole : field.IsWhole) (h : field.cast value = .ok stored) :
    StorageForm field value stored := by
  revert hwhole
  refine cast_induction (motive := fun field value stored =>
    field.IsWhole → StorageForm field value stored) (fun field value stored hform hwhole => ?_) h
  cases hform with
  | scalar htype hraw =>
    exact .scalar htype ((FieldType.storedScalar_of_cast htype hraw).styled field.style)
  | null htype => exact .null htype
  | list htype hvalue hitems =>
    obtain ⟨hsome, helement⟩ := hwhole
    obtain ⟨element, hfound⟩ := Option.isSome_iff_exists.1 (hsome htype)
    rw [hfound] at hitems
    refine .list htype hfound ?_ hitems.length_eq.symm fun item result hmem => ?_
    · rintro rfl
      cases hvalue
    · exact storageItem_of_itemForm ((List.forall₂_iff_zip.1 hitems).2 hmem)
        (helement element hfound)

/-- The descriptor of a declaration stores each value in the storage form of its type or refuses it
with a cast error; a collection refuses a value just when it refuses one of its items. -/
theorem cast_sound {options : SchemaOptions} {path : String} {declaration : Json}
    {field : Descriptor} (h : interpret options path declaration = .ok field) (value : Json) :
    ((∃ place expected rejected, field.cast value = .error (.cast place expected rejected)) ∨
      ∃ stored, field.cast value = .ok stored ∧ StorageForm field value stored) ∧
    (field.type = .collection →
      ((∃ e, field.cast value = .error e) ↔
        ∃ item ∈ value.members, ∃ e, castItem field.path field.element item = .error e)) := by
  refine ⟨?_, fun htype => ?_⟩
  · cases hcast : field.cast value with
    | error e =>
      obtain ⟨place, expected, rejected, rfl⟩ := Descriptor.cast_error hcast
      exact .inl ⟨place, expected, rejected, rfl⟩
    | ok stored => exact .inr ⟨stored, rfl, (interpret_isWhole h).storageForm_of_cast hcast⟩
  · cases hvalue : value.isNull with
    | true =>
      obtain rfl := Json.eq_null_of_isNull hvalue
      simp [Descriptor.cast_null htype, Json.members]
    | false =>
      rw [Descriptor.cast_members htype hvalue, castItems_eq_mapM, ← exists_mapM_eq_error_iff]
      simp only [map_eq_error_iff]

/-- In a list of dates a text that is no list is stored as a list of one point in time, and a list
with a text that stands for none is refused, for this text. -/
theorem cast_sound_dates : ∃ field, interpret {} "visits" (.arr [.str "Date"]) = .ok field ∧
    field.cast (.str "7") = .ok (.arr [.num (.int 7)]) ∧
    StorageForm field (.str "7") (.arr [.num (.int 7)]) ∧
    field.cast (.arr [.str "7", .str "soon"]) = .error (.cast "visits" "Date" (.str "soon")) ∧
    ∃ item ∈ (Json.arr [.str "7", .str "soon"]).members,
      ∃ e, castItem field.path field.element item = .error e := by
  have hruns : (interpret {} "visits" (.arr [.str "Date"])).map (fun field =>
        (field.type, field.cast (.str "7"), field.cast (.arr [.str "7", .str "soon"])))
      = .ok (.collection, .ok (.arr [.num (.int 7)]),
        .error (.cast "visits" "Date" (.str "soon"))) := by
    cbv
  obtain ⟨field, hfield, hrun⟩ := map_eq_ok_iff.1 hruns
  simp only [Prod.mk.injEq] at hrun
  obtain ⟨htype, hsingle, hlist⟩ := hrun
  refine ⟨field, hfield, hsingle, ?_, hlist, ?_⟩
  · rcases (cast_sound hfield (.str "7")).1 with ⟨_, _, _, herror⟩ | ⟨stored, hstored, hform⟩
    · cases hsingle.symm.trans herror
    · cases hsingle.symm.trans hstored
      exact hform
  · exact ((cast_sound hfield _).2 htype).1 ⟨_, hlist⟩

end RecordSchema
