import RecordSchema.Proofs.DefaultDocument
import RecordSchema.Proofs.InsertContents

/-!
# Inserting a default document

A default document is written segment by segment in the order of declaration and read by its paths
in the order of the tree. Both meet at the same places: what is read at a declared path is the
default that was put there. So an INSERT of the document binds just the defaults that count and
have a stored form, and checks each field with its default.

## Main statements

* `Schema.insert_build`: asking for defaults does not change what an INSERT does.
* `Schema.PrefixFree.valueAt?_build`: what is read at a declared path.
* `build_insert`: the INSERT of a default document.
-/

namespace RecordSchema

open RecordSchema.Path

/-! ## Asking for defaults -/

theorem Descriptor.cast_advance (field : Descriptor) (value : Json) :
    field.advance.cast value = field.cast value := by
  unfold cast
  rfl

namespace Schema

variable (schema : Schema) (projection : Option Projection)

theorem checkListed_build (listed : List String) :
    (schema.build projection).2.checkListed listed = schema.checkListed listed :=
  checkListed_congr (schema.paths_build projection) rfl listed

theorem draftField_build (record : Json) (listed : List String) :
    (schema.build projection).2.draftField record listed = schema.draftField record listed := by
  funext draft path
  unfold draftField
  rw [find?_build]
  cases schema.find? path with
  | none => rfl
  | some field =>
    cases (Selection.ofProjection schema projection).wants path with
    | false => simp
    | true =>
      simp only [Option.map_some, if_true, Descriptor.cast_advance]
      rfl

/-- Asking for defaults does not change what an INSERT does. -/
theorem insert_build (table : String) (record : Json) (listed : List String) :
    (schema.build projection).2.insert table record listed = schema.insert table record listed := by
  unfold insert
  rw [checkListed_build, draftField_build]
  rfl

/-! ## Reading the document -/

variable {schema}

/-- What is read at a declared path is the default that was put there. -/
theorem PrefixFree.valueAt?_build (h : schema.PrefixFree) {path : String}
    (hpath : path ∈ schema.paths) :
    (schema.build projection).1.valueAt? path = schema.populated? projection path := by
  rw [← h.at?_build projection hpath, Json.valueAt?]
  cases hget : (schema.build projection).1.get? path with
  | none => rfl
  | some value =>
    -- a key of the document is a single segment, so both ways of reading agree
    have hkey : (schema.build projection).1.at? [path] = some value := by
      rw [Json.at?_cons, hget]
      rfl
    have hsegs : segments path = [path] := by
      rcases h.at?_build_cases projection hkey with
        hnil | ⟨parent, _, _, _, _, hparent⟩ | ⟨other, _, rest, _, hother, _⟩
      · cases hnil
      · have hmem : path ∈ segments parent := by simp [← hparent]
        exact segments_of_mem_segments hmem
      · obtain ⟨first, back, hfirst⟩ := List.exists_cons_of_ne_nil (segments_ne_nil other)
        rw [hfirst, List.cons_append, List.cons.injEq] at hother
        have hmem : path ∈ segments other := by simp [hfirst, hother.1]
        exact segments_of_mem_segments hmem
    rw [hsegs, hkey]

end Schema

/-- What is read from a default document at a declared path is the default that was put there: what
is declared for the path, where it is wanted, and nothing where it is not. So an INSERT of the
document without a list of fields binds the defaults that count and have a stored form, each once
and in the order of the tree; a default that counts and has no stored form is reported; and each
field is checked with its default, or with null where it has none. -/
theorem build_insert (options : SchemaOptions) (edits : List Edit) (table : String)
    (projection : Option Projection) :
    let schema := Schema.reached options edits
    let document := (schema.build projection).1
    (∀ path ∈ schema.paths,
      document.at? (segments path) = schema.populated? projection path ∧
      document.valueAt? path = schema.populated? projection path) ∧
    (∀ path field, schema.find? path = some field →
      (Wanted schema projection path →
        GivesDefault field.type 0 (declaredDefault? path (history options edits))
          (schema.populated? projection path)) ∧
      (¬ Wanted schema projection path → schema.populated? projection path = none)) ∧
    ∃ statement bound columns failures,
      (schema.build projection).2.insert table document [] = .ok statement ∧
      statement.query = "INSERT INTO " ++ table ++ " (" ++ ", ".intercalate columns ++ ") VALUES ("
        ++ ", ".intercalate (List.replicate columns.length "?") ++ ")" ∧
      bound.Sublist schema.leafPaths ∧ bound.Nodup ∧
      (∀ path, path ∈ bound ↔ ∃ field value param, schema.find? path = some field ∧
        schema.populated? projection path = some value ∧ value.isTruthy = true ∧
        field.cast value = .ok param) ∧
      List.Forall₂ (fun path column =>
        ∃ field, schema.find? path = some field ∧ field.column = column) bound columns ∧
      List.Forall₂ (fun path param => ∃ field value, schema.find? path = some field ∧
        schema.populated? projection path = some value ∧ field.cast value = .ok param)
        bound statement.params ∧
      statement.failures.map FailureReport.failures
        = (if failures = [] then none else some failures) ∧
      (∀ path field, schema.find? path = some field →
        ((∃ failure ∈ failures, failure.path = path) ↔
          (∃ validator ∈ field.validators, validator.check
            ((schema.populated? projection path).getD .null) document ≠ .ok true) ∨
          ∃ value e, schema.populated? projection path = some value ∧ value.isTruthy = true ∧
            field.cast value = .error e)) ∧
      ∀ failure ∈ failures, FailsAt schema document [] failure.path failure := by
  intro schema document
  have h : schema.Tracks options (history options edits) := Schema.reached_tracks options edits
  have hread : ∀ path field, schema.find? path = some field →
      document.valueAt? path = schema.populated? projection path :=
    fun path field hfind => h.prefixFree.valueAt?_build projection (Schema.mem_paths_of_find? hfind)
  refine ⟨fun path hpath => ⟨h.prefixFree.at?_build projection hpath,
    h.prefixFree.valueAt?_build projection hpath⟩, fun path field hfind => ⟨fun hwanted => ?_,
      Schema.populated?_of_not_wanted hfind⟩, ?_⟩
  · rw [Schema.populated?_of_wanted hfind hwanted]
    exact h.givesDefault_rebuilt [] hfind
  rw [Schema.insert_build]
  rcases h.insert_cases table document [] with
    ⟨e, hrefusal, _⟩ | ⟨_, _, statement, hinsert, _, _, hfailures⟩
  · -- a document is an object, and no field is listed
    cases hrefusal with
    | no_object _ hobject => exact absurd (schema.build_fst projection) (hobject _)
    | unknown_field _ hlisted => exact absurd hlisted (by simp)
  · obtain ⟨bound, columns, hquery, hsublist, hbound, hparams, hcolumns⟩ := h.insert_bound hinsert
    refine ⟨statement, bound, columns, _, hinsert, hquery, hsublist,
      hsublist.nodup h.nodup_leafPaths, fun path => ?_, hcolumns, hparams.imp ?_, hfailures,
      fun path field hfind => ?_, fun failure hmem => ?_⟩
    · rw [hbound]
      constructor
      · rintro ⟨_, param, field, value, hfind, hvalue, hcounts, hcast⟩
        exact ⟨field, value, param, hfind, hread path field hfind ▸ hvalue, hcounts, hcast⟩
      · rintro ⟨field, value, param, hfind, hvalue, hcounts, hcast⟩
        exact ⟨.inl rfl, param, field, value, hfind, (hread path field hfind).trans hvalue,
          hcounts, hcast⟩
    · rintro path param ⟨field, value, hfind, hvalue, _, hcast⟩
      exact ⟨field, value, hfind, hread path field hfind ▸ hvalue, hcast⟩
    · rw [h.exists_failure_at_iff, exists_failsAt_iff, hread path field hfind]
      simp [hfind, Covered]
    · obtain ⟨path, _, hfailure⟩ := List.mem_filterMap.1 hmem
      have hfails := h.failureAt?_eq_some_iff.1 hfailure
      rw [hfails.path_eq]
      exact hfails

end RecordSchema
