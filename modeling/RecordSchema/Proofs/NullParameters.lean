import Mathlib
import RecordSchema.Proofs.Casting
import RecordSchema.Proofs.InsertContents

/-!
# Null parameters

An INSERT skips a value that does not count, and what counts is decided before the value is
converted. Of the values that count only one kind is stored as null: a text of blanks in a number
field, which stands for no number. So an INSERT binds null for such a text and for nothing else.

## Main definitions

* `Json.isBlankText`: whether a value is a text of blanks, and of at least one.

## Main statements

* `FieldType.stored?_eq_null_iff`: the values that a scalar type stores as null.
* `Descriptor.cast_eq_null_iff`: the values that count and are stored as null.
* `null_parameters`: the parameters of an INSERT that are null.
* `blank_number_binds_null`: an INSERT with such a parameter.
-/

namespace RecordSchema

/-- Whether a value is a text of blanks, and of at least one. -/
def Json.isBlankText : Json → Bool
  -- blank as white space of texts is, not as the space between the tokens of a document
  | .str text => !text.isEmpty && text.toList.all RecordSchema.isBlank
  | _ => false

theorem Json.isBlankText_str_iff {text : String} : (Json.str text).isBlankText = true ↔
    text ≠ "" ∧ ∀ c ∈ text.toList, RecordSchema.isBlank c = true := by
  simp [isBlankText]

theorem Json.isTruthy_of_isBlankText {value : Json} (h : value.isBlankText = true) :
    value.isTruthy = true := by
  cases value with
  | str text => exact (Bool.and_eq_true_iff.1 h).1
  | null | bool | num | arr | obj => cases h

/-! ## Values stored as null -/

namespace FieldType

/-- A text stands for no number just when it is all blank. -/
theorem numberOfText?_eq_null_iff {text : String} :
    numberOfText? text = some .null ↔ ∀ c ∈ text.toList, isBlank c = true := by
  rw [← isEmpty_trimBlank_iff]
  unfold numberOfText?
  dsimp only
  split
  · rename_i hempty
    simp [hempty]
  · rename_i hfilled
    refine iff_of_false ?_ hfilled
    split
    · simp [Json.ofInt]
    · simp [Option.bind_eq_some_iff]

/-- Of the scalar types only numbers store a value that counts as null, and only a text of
blanks. -/
theorem stored?_eq_null_iff {type : FieldType} {value : Json} (hscalar : type ≠ .collection)
    (hcounts : value.isTruthy = true) :
    type.stored? value = some .null ↔ type = .number ∧ value.isBlankText = true := by
  cases type with
  | number =>
    cases value with
    | str text =>
      have hfilled : text ≠ "" := by simpa [Json.isTruthy] using hcounts
      simp [stored?, storedNumber?, numberOfText?_eq_null_iff, Json.isBlankText_str_iff, hfilled]
    | null | num | bool | arr | obj => simp [stored?, storedNumber?, Json.isBlankText, Json.ofInt]
  | string => cases value <;> simp [stored?, storedString?]
  | boolean =>
    have htruth : storedBoolean? value ≠ some .null := by
      unfold storedBoolean?
      split <;> (repeat' split) <;> simp
    simp [stored?, htruth]
  | date => simp [stored?, Json.ofInt]
  | objectId => simp [stored?, Option.bind_eq_some_iff]
  | uuid => simp [stored?, Option.bind_eq_some_iff]
  | mixed => cases value <;> simp [stored?, Json.isTruthy] at hcounts ⊢
  | collection => exact absurd rfl hscalar

end FieldType

theorem TextStyle.apply_eq_null_iff {style : TextStyle} {value : Json} :
    style.apply value = .null ↔ value = .null := by
  cases value <;> simp [apply]

namespace Descriptor

variable {field : Descriptor} {value : Json}

/-- A value that counts is stored as null just when it is a text of blanks in a number field. -/
theorem cast_eq_null_iff (hcounts : value.isTruthy = true) :
    field.cast value = .ok .null ↔ field.type = .number ∧ value.isBlankText = true := by
  have hnull := Json.isNull_of_isTruthy hcounts
  by_cases htype : field.type = .collection
  · -- a collection stores a list
    simp [cast_members htype hnull, map_eq_ok_iff, htype]
  · rw [cast_scalar htype, ← FieldType.stored?_eq_null_iff htype hcounts, FieldType.cast,
      if_neg (by simp [hnull])]
    cases hstored : field.type.stored? value with
    | none => simp [Except.map]
    | some stored => simp [Except.map, TextStyle.apply_eq_null_iff]

end Descriptor

/-! ## The parameters of an INSERT -/

namespace Schema

variable {schema : Schema} {record param : Json} {path : String}

/-- Whether a path is that of a number field and has a text of blanks in a record. -/
def HasBlankNumber (schema : Schema) (record : Json) (path : String) : Prop :=
  ∃ field value, schema.find? path = some field ∧ field.type = .number ∧
    record.valueAt? path = some value ∧ value.isBlankText = true

theorem HasBlankNumber.stores_null (h : schema.HasBlankNumber record path) :
    schema.Stores record path .null := by
  obtain ⟨field, value, hfind, htype, hvalue, hblank⟩ := h
  have hcounts := Json.isTruthy_of_isBlankText hblank
  exact ⟨field, value, hfind, hvalue, hcounts,
    (Descriptor.cast_eq_null_iff hcounts).2 ⟨htype, hblank⟩⟩

/-- What a path stores is null just when it has a text of blanks in a number field. -/
theorem Stores.eq_null_iff (h : schema.Stores record path param) :
    param = .null ↔ schema.HasBlankNumber record path := by
  obtain ⟨field, value, hfind, hvalue, hcounts, hcast⟩ := h
  constructor
  · rintro rfl
    obtain ⟨htype, hblank⟩ := (Descriptor.cast_eq_null_iff hcounts).1 hcast
    exact ⟨field, value, hfind, htype, hvalue, hblank⟩
  · intro hblank
    obtain ⟨field', value', hfind', hvalue', _, hnull⟩ := hblank.stores_null
    cases hfind.symm.trans hfind'
    cases hvalue.symm.trans hvalue'
    cases hcast.symm.trans hnull
    rfl

/-- The values that an INSERT binds are those that covered paths store. -/
theorem Tracks.mem_params_iff {options : SchemaOptions} {log : List Change}
    (h : schema.Tracks options log) {table : String} {listed : List String} {statement : Statement}
    (hinsert : schema.insert table record listed = .ok statement) :
    param ∈ statement.params ↔ ∃ path, Covered listed path ∧ schema.Stores record path param := by
  simp only [(h.insert_parts hinsert).2.1, List.mem_map, List.mem_filterMap]
  constructor
  · rintro ⟨⟨column, param⟩, ⟨path, _, hbound⟩, rfl⟩
    obtain ⟨hcovered, _, hstores⟩ := boundAt?_eq_some_iff.1 hbound
    exact ⟨path, hcovered, hstores⟩
  · rintro ⟨path, hcovered, hstores⟩
    obtain ⟨field, _, hfind, _⟩ := id hstores
    exact ⟨(field.column, param),
      ⟨path, h.mem_leafPaths_of_find? hfind,
        boundAt?_eq_some_iff.2 ⟨hcovered, ⟨field, hfind, rfl⟩, hstores⟩⟩, rfl⟩

end Schema

/-- An INSERT that is not refused binds null for each covered number field whose value in the record
is a text of blanks, and for no other path. -/
theorem null_parameters (options : SchemaOptions) (edits : List Edit) (table : String)
    (record : Json) (listed : List String) :
    let schema := Schema.reached options edits
    (∃ e, InsertRefusal schema record listed e) ∨ ∃ statement bound columns,
      schema.insert table record listed = .ok statement ∧
      statement.query = "INSERT INTO " ++ table ++ " (" ++ ", ".intercalate columns ++ ") VALUES ("
        ++ ", ".intercalate (List.replicate columns.length "?") ++ ")" ∧
      bound.Sublist schema.leafPaths ∧
      List.Forall₂ (fun path column =>
        ∃ field, schema.find? path = some field ∧ field.column = column) bound columns ∧
      List.Forall₂ (fun path param => schema.Stores record path param ∧
        (param = .null ↔ schema.HasBlankNumber record path)) bound statement.params ∧
      (.null ∈ statement.params ↔
        ∃ path, Covered listed path ∧ schema.HasBlankNumber record path) := by
  intro schema
  have h : schema.Tracks options (history options edits) := Schema.reached_tracks options edits
  rcases h.insert_cases table record listed with
    ⟨e, hrefusal, _⟩ | ⟨_, _, statement, hinsert, _⟩
  · exact .inl ⟨e, hrefusal⟩
  · obtain ⟨bound, columns, hquery, hsublist, _, hparams, hcolumns⟩ := h.insert_bound hinsert
    refine .inr ⟨statement, bound, columns, hinsert, hquery, hsublist, hcolumns,
      hparams.imp fun path param hstores => ⟨hstores, hstores.eq_null_iff⟩, ?_⟩
    rw [h.mem_params_iff hinsert]
    refine exists_congr fun path => and_congr_right fun _ => ?_
    exact ⟨fun hstores => hstores.eq_null_iff.1 rfl, Schema.HasBlankNumber.stores_null⟩

/-- A blank is given for a number and counts as a value, and null is bound for it. -/
theorem blank_number_binds_null :
    (Schema.reached {} [.define "age" (.str "number")]).insert "people"
        (.obj [("age", .str " ")]) []
      = .ok ⟨"INSERT INTO people (age) VALUES (?)", [.null], none⟩ := by
  cbv

end RecordSchema
