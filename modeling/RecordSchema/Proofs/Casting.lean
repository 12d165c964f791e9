import Mathlib.Data.List.Forall2
import RecordSchema.Proofs.Interpretation
import RecordSchema.Proofs.ScalarForms
import RecordSchema.Schema.Cast

/-!
# How values are converted

A conversion goes down the descriptor and the value at once. One level of it is a relation between
the value and its stored form, given such a relation for the levels below; the conversion is the
least one that holds at every level, which is what an induction over it uses.

## Main definitions

* `Json.members`: the items of a collection's value.
* `castField`: the stored form of one field of a document, with its key.
* `ValueForm`, `ItemForm`, `FieldForm`: one level of a conversion.

## Main statements

* `castItems_eq_mapM`, `castFields_eq_mapM`: lists are converted one by one.
* `exists_mapM_eq_error_iff`: a list fails as soon as one of its values does.
* `Descriptor.cast_eq_ok_iff`: a conversion is one level over conversions.
* `Descriptor.cast_induction`: what holds at each level holds of every conversion.
* `Descriptor.cast_error`: every failure names a value that has no stored form.
-/

namespace RecordSchema

/-! ## Lists -/

theorem map_eq_ok_iff {α β ε : Type} {f : α → β} {outcome : Except ε α} {result : β} :
    outcome.map f = .ok result ↔ ∃ value, outcome = .ok value ∧ f value = result := by
  cases outcome <;> simp [Except.map]

theorem map_eq_error_iff {α β ε : Type} {f : α → β} {outcome : Except ε α} {e : ε} :
    outcome.map f = .error e ↔ outcome = .error e := by
  cases outcome <;> simp [Except.map]

theorem Json.eq_null_of_isNull {value : Json} (h : value.isNull = true) : value = .null := by
  cases value <;> first | rfl | cases h

theorem Json.isNull_of_isTruthy {value : Json} (h : value.isTruthy = true) :
    value.isNull = false := by
  cases value <;> first | rfl | cases h

/-- The items of a collection's value: those of a list, none of `null`, otherwise the value. -/
def Json.members : Json → List Json
  | .null => []
  | .arr items => items
  | single => [single]

theorem Json.sizeOf_le_of_mem_members {value item : Json} (h : item ∈ value.members) :
    sizeOf item ≤ sizeOf value := by
  cases value with
  | null => cases h
  | arr items =>
    have hlt : sizeOf item < sizeOf items := List.sizeOf_lt_of_mem h
    simp only [Json.arr.sizeOf_spec]
    omega
  | bool | num | str | obj => exact Nat.le_of_eq (congrArg sizeOf (List.mem_singleton.1 h))

/-- What a document among the items holds is smaller than the value. -/
theorem Json.sizeOf_lt_of_mem_document {value : Json} {fields : List (String × Json)}
    {field : String × Json} (hitem : obj fields ∈ value.members) (hfield : field ∈ fields) :
    sizeOf field.2 < sizeOf value := by
  have hle := sizeOf_le_of_mem_members hitem
  have hlt := List.sizeOf_lt_of_mem hfield
  obtain ⟨key, inner⟩ := field
  simp only [obj.sizeOf_spec] at hle
  simp only [Prod.mk.sizeOf_spec] at hlt
  dsimp only
  omega

/-- The descriptor of the items is smaller than that of their list. -/
theorem Descriptor.sizeOf_lt_of_caster {descriptor inner : Descriptor}
    (h : descriptor.element = some (.caster inner)) : sizeOf inner < sizeOf descriptor := by
  have hlt := descriptor.sizeOf_element_lt
  rw [h] at hlt
  simp only [Option.some.sizeOf_spec, Element.caster.sizeOf_spec] at hlt
  omega

section

variable {α β ε : Type} {f : α → Except ε β} {values : List α}

theorem mapM_eq_ok_iff {results : List β} : values.mapM f = .ok results ↔
    List.Forall₂ (fun value result => f value = .ok result) values results := by
  induction values generalizing results with
  | nil =>
    rw [List.mapM_nil, List.forall₂_nil_left_iff]
    exact (Except.ok.injEq [] results).to_iff.trans eq_comm
  | cons value rest ih =>
    simp only [List.mapM_cons, bind_eq_ok_iff, List.forall₂_cons_left_iff, ih]
    constructor
    · rintro ⟨result, hresult, results, hresults, h⟩
      cases h
      exact ⟨result, results, hresult, hresults, rfl⟩
    · rintro ⟨result, results, hresult, hresults, rfl⟩
      exact ⟨result, hresult, results, hresults, rfl⟩

/-- The error of a list is that of one of its values. -/
theorem exists_of_mapM_eq_error {e : ε} (h : values.mapM f = .error e) :
    ∃ value ∈ values, f value = .error e := by
  induction values with
  | nil => cases h
  | cons value rest ih =>
    rw [List.mapM_cons] at h
    cases hvalue : f value with
    | error e' =>
      rw [hvalue] at h
      cases h
      exact ⟨value, .head _, hvalue⟩
    | ok result =>
      cases hrest : rest.mapM f with
      | error e' =>
        rw [hvalue, hrest] at h
        cases h
        obtain ⟨failing, hmem, hfails⟩ := ih hrest
        exact ⟨failing, .tail _ hmem, hfails⟩
      | ok results =>
        rw [hvalue, hrest] at h
        cases h

/-- A list fails as soon as one of its values does. -/
theorem exists_mapM_eq_error_iff :
    (∃ e, values.mapM f = .error e) ↔ ∃ value ∈ values, ∃ e, f value = .error e := by
  constructor
  · rintro ⟨e, h⟩
    obtain ⟨value, hmem, hvalue⟩ := exists_of_mapM_eq_error h
    exact ⟨value, hmem, e, hvalue⟩
  · rintro ⟨value, hmem, e, hvalue⟩
    cases h : values.mapM f with
    | error e => exact ⟨e, rfl⟩
    | ok results =>
      obtain ⟨i, hi, rfl⟩ := List.getElem_of_mem hmem
      have hlen := (mapM_eq_ok_iff.1 h).length_eq
      cases hvalue.symm.trans ((mapM_eq_ok_iff.1 h).get hi (hlen ▸ hi))

end

theorem castItems_eq_mapM (path : String) (element : Option Element) (items : List Json) :
    castItems path element items = items.mapM (castItem path element) := by
  induction items with
  | nil => rw [castItems]; rfl
  | cons item rest ih =>
    rw [castItems, ih, List.mapM_cons]
    cases castItem path element item with
    | error e => rfl
    | ok result => cases rest.mapM (castItem path element) <;> rfl

/-- The stored form of one field of a document, with its key. -/
def castField (schema : Schema) (field : String × Json) : Except SchemaError (String × Json) :=
  match schema.path? field.1 with
  | some descriptor => (descriptor.cast field.2).map (field.1, ·)
  | none => .ok field

theorem castFields_eq_mapM (schema : Schema) (fields : List (String × Json)) :
    castFields schema fields = fields.mapM (castField schema) := by
  induction fields with
  | nil => rw [castFields]; rfl
  | cons field rest ih =>
    obtain ⟨key, value⟩ := field
    rw [castFields, ih, List.mapM_cons, castField]
    cases schema.path? key with
    | none => cases rest.mapM (castField schema) <;> rfl
    | some descriptor =>
      cases hcast : descriptor.cast value with
      | error e => simp [hcast, Except.map, bind, Except.bind]
      | ok stored =>
        cases rest.mapM (castField schema) <;>
          simp [hcast, Except.map, bind, Except.bind, pure, Except.pure]

/-! ## One level -/

/-- One field of a document: converted where the key leads to a descriptor, otherwise kept. -/
inductive FieldForm (form : Descriptor → Json → Json → Prop) (schema : Schema) :
    String × Json → String × Json → Prop
  | known {key : String} {field : Descriptor} {value stored : Json}
      (hpath : schema.path? key = some field) (hform : form field value stored) :
      FieldForm form schema (key, value) (key, stored)
  | unknown {key : String} {value : Json} (hpath : schema.path? key = none) :
      FieldForm form schema (key, value) (key, value)

/-- One item of a collection. -/
inductive ItemForm (form : Descriptor → Json → Json → Prop) : Option Element → Json → Json → Prop
  | caster {descriptor : Descriptor} {item stored : Json} (hform : form descriptor item stored) :
      ItemForm form (some (.caster descriptor)) item stored
  | absent (schema : Schema) : ItemForm form (some (.document schema)) .null .null
  | document {schema : Schema} {fields stored : List (String × Json)}
      (hfields : List.Forall₂ (FieldForm form schema) fields stored) :
      ItemForm form (some (.document schema)) (.obj fields) (.obj stored)
  | bare (item : Json) : ItemForm form none item item

/-- One value: a styled scalar, nothing, or a list of items. -/
inductive ValueForm (form : Descriptor → Json → Json → Prop) (descriptor : Descriptor) :
    Json → Json → Prop
  | scalar {value raw : Json} (htype : descriptor.type ≠ .collection)
      (hraw : descriptor.type.cast descriptor.path value = .ok raw) :
      ValueForm form descriptor value (descriptor.style.apply raw)
  | null (htype : descriptor.type = .collection) : ValueForm form descriptor .null .null
  | list {value : Json} {stored : List Json} (htype : descriptor.type = .collection)
      (hvalue : value.isNull = false)
      (hitems : List.Forall₂ (ItemForm form descriptor.element) value.members stored) :
      ValueForm form descriptor value (.arr stored)

theorem castField_eq_ok_iff {schema : Schema} {field stored : String × Json} :
    castField schema field = .ok stored ↔
      FieldForm (fun field value stored => field.cast value = .ok stored) schema field stored := by
  obtain ⟨key, value⟩ := field
  constructor
  · intro h
    unfold castField at h
    split at h
    · rename_i hpath
      obtain ⟨result, hresult, rfl⟩ := map_eq_ok_iff.1 h
      exact .known hpath hresult
    · rename_i hpath
      cases h
      exact .unknown hpath
  · intro h
    cases h with
    | known hpath hform => simp [castField, hpath, hform, Except.map]
    | unknown hpath => simp [castField, hpath]

theorem castItem_eq_ok_iff {path : String} {element : Option Element} {item stored : Json} :
    castItem path element item = .ok stored ↔
      ItemForm (fun field value stored => field.cast value = .ok stored) element item stored := by
  constructor
  · intro h
    unfold castItem at h
    split at h
    · exact .caster h
    · split at h
      · cases h
        exact .absent _
      · obtain ⟨fields, hfields, rfl⟩ := map_eq_ok_iff.1 h
        rw [castFields_eq_mapM] at hfields
        exact .document ((mapM_eq_ok_iff.1 hfields).imp fun _ _ => castField_eq_ok_iff.1)
      · cases h
    · cases h
      exact .bare _
  · intro h
    cases h with
    | caster hform => rw [castItem, hform]
    | absent => rw [castItem]
    | document hfields =>
      rw [castItem, castFields_eq_mapM,
        mapM_eq_ok_iff.2 (hfields.imp fun _ _ => castField_eq_ok_iff.2)]
      rfl
    | bare => rw [castItem]

namespace Descriptor

variable {descriptor : Descriptor} {value stored : Json}

theorem cast_scalar (htype : descriptor.type ≠ .collection) (value : Json) : descriptor.cast value
    = (descriptor.type.cast descriptor.path value).map descriptor.style.apply := by
  unfold cast
  rw [if_neg htype]

theorem cast_null (htype : descriptor.type = .collection) : descriptor.cast .null = .ok .null := by
  rw [cast, if_pos htype]

/-- A value of a collection is stored item by item. -/
theorem cast_members (htype : descriptor.type = .collection) (hvalue : value.isNull = false) :
    descriptor.cast value
      = (castItems descriptor.path descriptor.element value.members).map .arr := by
  have hsingle : ∀ single, (castItem descriptor.path descriptor.element single).map
      (fun item => .arr [item])
        = (castItems descriptor.path descriptor.element [single]).map Json.arr := by
    intro single
    rw [castItems, castItems]
    cases castItem descriptor.path descriptor.element single <;> rfl
  unfold cast
  rw [if_pos htype]
  cases value with
  | null => cases hvalue
  | arr items => rfl
  | bool | num | str | obj => exact hsingle _

/-- A conversion is one level over conversions. -/
theorem cast_eq_ok_iff : descriptor.cast value = .ok stored ↔ ValueForm
    (fun field value stored => field.cast value = .ok stored) descriptor value stored := by
  constructor
  · intro h
    by_cases htype : descriptor.type = .collection
    · cases hvalue : value.isNull with
      | true =>
        obtain rfl := Json.eq_null_of_isNull hvalue
        rw [cast_null htype] at h
        cases h
        exact .null htype
      | false =>
        rw [cast_members htype hvalue, castItems_eq_mapM] at h
        obtain ⟨items, hitems, rfl⟩ := map_eq_ok_iff.1 h
        exact .list htype hvalue ((mapM_eq_ok_iff.1 hitems).imp fun _ _ => castItem_eq_ok_iff.1)
    · rw [cast_scalar htype] at h
      obtain ⟨raw, hraw, rfl⟩ := map_eq_ok_iff.1 h
      exact .scalar htype hraw
  · intro h
    cases h with
    | scalar htype hraw => rw [cast_scalar htype, hraw]; rfl
    | null htype => exact cast_null htype
    | list htype hvalue hitems =>
      rw [cast_members htype hvalue, castItems_eq_mapM,
        mapM_eq_ok_iff.2 (hitems.imp fun _ _ => castItem_eq_ok_iff.2)]
      rfl

end Descriptor

/-! ## Induction over a conversion -/

theorem forall₂_imp_of_mem {α β : Type} {R S : α → β → Prop} {as : List α} {bs : List β}
    (h : List.Forall₂ R as bs) (himp : ∀ a b, a ∈ as → R a b → S a b) : List.Forall₂ S as bs :=
  ((List.forall₂_and_left as bs).2 ⟨fun _ ha => ha, h⟩).imp fun a b hab => himp a b hab.1 hab.2

namespace Descriptor

/-- What holds at each level of a conversion, given that it holds below, holds of every
conversion. -/
theorem cast_induction {motive : Descriptor → Json → Json → Prop}
    (level : ∀ descriptor value stored, ValueForm motive descriptor value stored →
      motive descriptor value stored) {descriptor : Descriptor} {value stored : Json}
    (h : descriptor.cast value = .ok stored) : motive descriptor value stored := by
  refine level descriptor value stored ?_
  cases cast_eq_ok_iff.1 h with
  | scalar htype hraw => exact .scalar htype hraw
  | null htype => exact .null htype
  | list htype hvalue hitems =>
    -- an item is not larger than the value, and a value inside it is smaller: where the value
    -- stays, the descriptor becomes that of the item
    refine .list htype hvalue (forall₂_imp_of_mem hitems fun item stored hitem hform => ?_)
    generalize helement : descriptor.element = element at hform
    cases hform with
    | caster hcast => exact .caster (cast_induction level hcast)
    | absent => exact .absent _
    | document hfields =>
      refine .document (forall₂_imp_of_mem hfields fun field stored hfield hform => ?_)
      cases hform with
      | known hpath hcast => exact .known hpath (cast_induction level hcast)
      | unknown hpath => exact .unknown hpath
    | bare => exact .bare _
termination_by (sizeOf value, sizeOf descriptor)
decreasing_by
  · exact Prod.Lex.right' _ (Json.sizeOf_le_of_mem_members hitem) (sizeOf_lt_of_caster helement)
  · exact Prod.Lex.left _ _ (Json.sizeOf_lt_of_mem_document hitem hfield)

/-- Every failure of a conversion names a value that has no stored form of the expected type. -/
theorem cast_error {descriptor : Descriptor} {value : Json} {e : SchemaError}
    (h : descriptor.cast value = .error e) : ∃ path expected rejected,
      e = .cast path expected rejected := by
  by_cases htype : descriptor.type = .collection
  · have hvalue : value.isNull = false := by
      cases value with
      | null => cases (cast_null htype).symm.trans h
      | bool | num | str | arr | obj => rfl
    rw [cast_members htype hvalue, castItems_eq_mapM] at h
    obtain ⟨item, hitem, hfails⟩ := exists_of_mapM_eq_error (map_eq_error_iff.1 h)
    -- the failing item lies as deep as an item in `cast_induction`, and the measure is the same
    generalize helement : descriptor.element = element at hfails
    unfold castItem at hfails
    split at hfails
    · exact cast_error hfails
    · split at hfails
      · cases hfails
      · rw [map_eq_error_iff, castFields_eq_mapM] at hfails
        obtain ⟨field, hmem, hfield⟩ := exists_of_mapM_eq_error hfails
        unfold castField at hfield
        split at hfield
        · exact cast_error (map_eq_error_iff.1 hfield)
        · cases hfield
      · cases hfails
        exact ⟨_, _, _, rfl⟩
    · cases hfails
  · rw [cast_scalar htype, map_eq_error_iff] at h
    exact ⟨_, _, _, FieldType.eq_of_cast_eq_error h⟩
termination_by (sizeOf value, sizeOf descriptor)
decreasing_by
  · exact Prod.Lex.right' _ (Json.sizeOf_le_of_mem_members hitem) (sizeOf_lt_of_caster helement)
  · exact Prod.Lex.left _ _ (Json.sizeOf_lt_of_mem_document hitem hmem)

end Descriptor

end RecordSchema
