import RecordSchema.Proofs.Casting
import RecordSchema.Proofs.InsertContents

/-!
# Stored values are stable

A stored form is stored as itself, at every level: a scalar in the form of its type keeps it, and a
list keeps its items. So a record is found by the value that was inserted as well as by the value
that is stored: both ask for the same parameter.

## Main statements

* `Descriptor.cast_stored`: a stored form is stored as itself.
* `Schema.select_single`: a SELECT with one criterion.
* `stored_values_stable`: what an INSERT binds is what a SELECT asks for.
-/

namespace RecordSchema

/-! ## Stored forms -/

theorem forall_mem_of_forall₂ {α β : Type} {R : α → β → Prop} {p : β → Prop} {as : List α}
    {bs : List β} (h : List.Forall₂ R as bs) (himp : ∀ a b, R a b → p b) : ∀ b ∈ bs, p b := by
  induction h with
  | nil => exact fun b hb => absurd hb List.not_mem_nil
  | cons hab _ ih => exact List.forall_mem_cons.2 ⟨himp _ _ hab, ih⟩

section

variable {form form' : Descriptor → Json → Json → Prop}

theorem FieldForm.stored {schema : Schema} {field result : String × Json}
    (h : FieldForm form schema field result)
    (himp : ∀ field value stored, form field value stored → form' field stored stored) :
    FieldForm form' schema result result := by
  cases h with
  | known hpath hform => exact .known hpath (himp _ _ _ hform)
  | unknown hpath => exact .unknown hpath

theorem ItemForm.stored {element : Option Element} {item result : Json}
    (h : ItemForm form element item result)
    (himp : ∀ field value stored, form field value stored → form' field stored stored) :
    ItemForm form' element result result := by
  cases h with
  | caster hform => exact .caster (himp _ _ _ hform)
  | absent => exact .absent _
  | document hfields =>
    exact .document (List.forall₂_same.2 (forall_mem_of_forall₂ hfields fun _ _ h => h.stored himp))
  | bare => exact .bare _

end

/-- A stored form is stored as itself. -/
theorem Descriptor.cast_stored {descriptor : Descriptor} {value stored : Json}
    (h : descriptor.cast value = .ok stored) : descriptor.cast stored = .ok stored := by
  refine cast_induction (motive := fun field _ stored => field.cast stored = .ok stored)
    (fun field value stored hform => ?_) h
  cases hform with
  | scalar htype hraw =>
    rw [cast_scalar htype]
    exact (FieldType.storedScalar_of_cast htype hraw).cast_styled field.style field.path
  | null htype => exact cast_null htype
  | list htype _ hitems =>
    -- a list is its own list of members, so each item only has to be stored as itself
    refine cast_eq_ok_iff.2 (.list htype rfl (List.forall₂_same.2 ?_))
    exact forall_mem_of_forall₂ hitems fun _ _ h => h.stored fun _ _ _ hcast => hcast

/-! ## Looking a value up -/

/-- A SELECT with one criterion asks for its stored form, whatever the value was before. -/
theorem Schema.select_single {schema : Schema} {path : String} {field : Descriptor}
    {selected : List String} (hfind : schema.find? path = some field)
    (hselected : ∀ entry ∈ selected, entry ∈ schema.paths ∨ entry ∈ schema.nested)
    (settings : CompilerSettings) (source : String) (limit : Nat) (param : Json) :
    ∃ query, ∀ value, field.cast value = .ok param →
      schema.select settings source (.obj [(path, value)]) selected limit
        = .ok { query, params := [param], failures := none } := by
  obtain ⟨columns, hcolumns⟩ : ∃ columns, schema.columnList selected = .ok columns := by
    rcases schema.checkListed_cases selected with ⟨hok, _⟩ | ⟨known, entry, rest, rfl, _, hunknown⟩
    · exact ⟨_, by rw [columnList, hok]; rfl⟩
    · rcases hselected entry (List.mem_append_right known (.head rest)) with h | h
      · exact absurd h hunknown.1
      · exact absurd h hunknown.2
  have hconditions : ∀ value, field.cast value = .ok param →
      schema.conditions [(path, value)] = .ok [(field.column, param)] := by
    intro value hcast
    simp [conditions, hfind, hcast, bind, Except.bind, pure, Except.pure]
  let count := if 0 < limit then limit else settings.defaultLimit
  refine ⟨"SELECT " ++ columns ++ " FROM " ++ source
    ++ (" WHERE " ++ " AND ".intercalate [field.column ++ " = ?"])
    ++ (if 0 < count then " LIMIT " ++ decimalText count else ""), fun value hcast => ?_⟩
  simp only [select, argumentFields, hcolumns, bind, Except.bind, hconditions value hcast]
  rfl

/-- A stored form is stored as itself. So where an INSERT binds a parameter for a path, a SELECT
with the record's value at this path and a SELECT with the parameter both bind the parameter. -/
theorem stored_values_stable (options : SchemaOptions) (edits : List Edit) (table : String)
    (record : Json) (listed : List String) :
    let schema := Schema.reached options edits
    (∀ (field : Descriptor) (value stored : Json), field.cast value = .ok stored →
      field.cast stored = .ok stored) ∧
    ∀ statement, schema.insert table record listed = .ok statement → ∃ bound columns,
      statement.query = "INSERT INTO " ++ table ++ " (" ++ ", ".intercalate columns ++ ") VALUES ("
        ++ ", ".intercalate (List.replicate columns.length "?") ++ ")" ∧
      bound.Sublist schema.leafPaths ∧
      List.Forall₂ (fun path column =>
        ∃ field, schema.find? path = some field ∧ field.column = column) bound columns ∧
      List.Forall₂ (fun path param => ∃ value, record.valueAt? path = some value ∧
        ∀ settings source selected limit,
          (∀ entry ∈ selected, entry ∈ schema.paths ∨ entry ∈ schema.nested) → ∃ found,
            schema.select settings source (.obj [(path, value)]) selected limit = .ok found ∧
            schema.select settings source (.obj [(path, param)]) selected limit = .ok found ∧
            found.params = [param]) bound statement.params := by
  intro schema
  have h : schema.Tracks options (history options edits) := Schema.reached_tracks options edits
  refine ⟨fun field value stored => Descriptor.cast_stored, fun statement hinsert => ?_⟩
  obtain ⟨bound, columns, hquery, hsublist, -, hparams, hcolumns⟩ := h.insert_bound hinsert
  refine ⟨bound, columns, hquery, hsublist, hcolumns, hparams.imp ?_⟩
  rintro path param ⟨field, value, hfind, hvalue, -, hcast⟩
  refine ⟨value, hvalue, fun settings source selected limit hselected => ?_⟩
  obtain ⟨query, hselect⟩ := Schema.select_single hfind hselected settings source limit param
  exact ⟨_, hselect value hcast, hselect param (Descriptor.cast_stored hcast), rfl⟩

end RecordSchema
