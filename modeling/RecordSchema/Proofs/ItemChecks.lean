import Mathlib
import RecordSchema.Proofs.Casting
import RecordSchema.Proofs.InsertContents
import RecordSchema.Proofs.Reshaping

/-!
# Checks of items

The items of a collection have descriptors of their own, and the fields of embedded documents have
too, with checks made from the options of their declarations. An INSERT runs the checks of declared
paths only. It converts the items, so their types are enforced, but none of their checks: a schema
without them compiles the same statements and reports the same failures.

## Main definitions

* `unchecking`, `Element.unchecked`: without checks, on a single level and on all levels.
* `Descriptor.withoutItemChecks`, `Schema.withoutItemChecks`: with the checks of declared paths
  only.

## Main statements

* `Schema.insert_withoutItemChecks`: the checks of items change nothing in an INSERT.
* `items_unchecked`: what a valid INSERT says of its record.
* `rejected_items_inserted`: items that their own checks reject.
-/

namespace RecordSchema

/-! ## Dropping checks -/

/-- Dropped checks, which a conversion does not see. -/
def unchecking : Reshaping where
  onField field := { field with validators := [] }
  onSchema schema := schema
  path_onField _ := rfl
  type_onField _ := rfl
  style_onField _ := rfl
  element_onField _ := rfl
  fields_onSchema _ := rfl
  nested_onSchema _ := rfl

/-- The items without checks, on all levels. -/
def Element.unchecked (element : Element) : Element :=
  unchecking.element element

/-- The descriptor with its own checks, and its items without theirs. -/
def Descriptor.withoutItemChecks (descriptor : Descriptor) : Descriptor :=
  { descriptor with element := descriptor.element.map Element.unchecked }

/-- The schema with the checks of its declared paths, and without those of items. -/
def Schema.withoutItemChecks (schema : Schema) : Schema :=
  { schema with fields := schema.fields.map fun entry => (entry.1, entry.2.withoutItemChecks) }

theorem Schema.find?_withoutItemChecks (schema : Schema) (path : String) :
    schema.withoutItemChecks.find? path = (schema.find? path).map Descriptor.withoutItemChecks :=
  Entries.get?_map Descriptor.withoutItemChecks schema.fields path

/-! ## What a schema does without the checks of items -/

/-- Items are converted as before. -/
theorem Descriptor.cast_withoutItemChecks (field : Descriptor) (value : Json) :
    field.withoutItemChecks.cast value = field.cast value := by
  -- the descriptor keeps its own checks, so the change without them applies to its items only
  by_cases htype : field.type = .collection
  · have htype' : field.withoutItemChecks.type = .collection := htype
    cases hvalue : value.isNull with
    | true =>
      obtain rfl := Json.eq_null_of_isNull hvalue
      rw [cast_null htype', cast_null htype]
    | false =>
      rw [cast_members htype' hvalue, cast_members htype hvalue]
      exact congrArg (Except.map Json.arr) (unchecking.castItems_eq field.path field.element _)
  · have htype' : field.withoutItemChecks.type ≠ .collection := htype
    rw [cast_scalar htype', cast_scalar htype]
    rfl

namespace Schema

variable (schema : Schema)

theorem checkListed_withoutItemChecks (listed : List String) :
    schema.withoutItemChecks.checkListed listed = schema.checkListed listed := by
  have hpaths : schema.withoutItemChecks.paths = schema.paths := by
    simp [paths, withoutItemChecks, Entries.keys, Function.comp_def]
  exact checkListed_congr hpaths rfl listed

/-- One turn of the loop runs the checks of its path, and no others. -/
theorem draftField_withoutItemChecks (record : Json) (listed : List String) :
    schema.withoutItemChecks.draftField record listed = schema.draftField record listed := by
  funext draft path
  unfold draftField
  rw [find?_withoutItemChecks]
  cases schema.find? path with
  | none => rfl
  | some field =>
    simp only [Option.map_some, Descriptor.cast_withoutItemChecks]
    rfl

/-- The checks of items change nothing in an INSERT. -/
theorem insert_withoutItemChecks (table : String) (record : Json) (listed : List String) :
    schema.withoutItemChecks.insert table record listed = schema.insert table record listed := by
  unfold insert
  rw [checkListed_withoutItemChecks, draftField_withoutItemChecks]
  rfl

end Schema

/-! ## What a valid INSERT says -/

/-- The items of a value that is stored have stored forms. -/
theorem Descriptor.castItem_of_cast {field : Descriptor} {value stored item : Json}
    (h : field.cast value = .ok stored) (htype : field.type = .collection)
    (hitem : item ∈ value.members) :
    ∃ result, castItem field.path field.element item = .ok result := by
  have hvalue : value.isNull = false := by
    cases value with
    | null => cases hitem
    | bool | num | str | arr | obj => rfl
  rw [cast_members htype hvalue, castItems_eq_mapM] at h
  obtain ⟨results, hresults, _⟩ := map_eq_ok_iff.1 h
  cases hcast : castItem field.path field.element item with
  | ok result => exact ⟨result, rfl⟩
  | error e =>
    obtain ⟨e', herror⟩ := exists_mapM_eq_error_iff.2 ⟨item, hitem, e, hcast⟩
    cases hresults.symm.trans herror

/-- A declared path has no failure when it passes its checks, and has a stored form where it is
covered and its value counts. -/
theorem not_exists_failsAt_iff {schema : Schema} {record : Json} {listed : List String}
    {path : String} : (¬∃ failure, FailsAt schema record listed path failure) ↔
      ∀ field, schema.find? path = some field →
        field.check ((record.valueAt? path).getD .null) record = none ∧
        ∀ value, Covered listed path → record.valueAt? path = some value →
          value.isTruthy = true → ∃ stored, field.cast value = .ok stored := by
  rw [exists_failsAt_iff]
  constructor
  · intro hnone field hfind
    refine ⟨?_, fun value hcovered hvalue hcounts => ?_⟩
    · rw [Descriptor.check, Validator.findSome?_run_eq_none_iff]
      intro validator hmem
      by_contra hrejected
      exact hnone ⟨field, hfind, .inl ⟨validator, hmem, hrejected⟩⟩
    · cases hcast : field.cast value with
      | ok stored => exact ⟨stored, rfl⟩
      | error e =>
        exact absurd ⟨field, hfind, .inr ⟨hcovered, value, e, hvalue, hcounts, hcast⟩⟩ hnone
  · rintro hpassed ⟨field, hfind, hfails⟩
    obtain ⟨hcheck, hstored⟩ := hpassed field hfind
    rcases hfails with ⟨validator, hmem, hrejected⟩ | ⟨hcovered, value, e, hvalue, hcounts, hcast⟩
    · rw [Descriptor.check, Validator.findSome?_run_eq_none_iff] at hcheck
      exact hrejected (hcheck validator hmem)
    · obtain ⟨stored, hok⟩ := hstored value hcovered hvalue hcounts
      cases hcast.symm.trans hok

/-- An INSERT is valid just when no path has a failure. -/
theorem Schema.Tracks.isValid_iff {schema : Schema} {options : SchemaOptions} {log : List Change}
    (h : schema.Tracks options log) {table : String} {record : Json} {listed : List String}
    {statement : Statement} (hinsert : schema.insert table record listed = .ok statement) :
    statement.isValid = true ↔ ∀ path, ¬∃ failure, FailsAt schema record listed path failure := by
  rw [Statement.isValid, Option.isNone_iff_eq_none, ← Option.map_eq_none_iff,
    (h.insert_parts hinsert).2.2, reported_eq_none_iff, List.eq_nil_iff_forall_not_mem]
  simp only [← h.exists_failure_at_iff]
  constructor
  · rintro hnone path ⟨failure, hmem, _⟩
    exact hnone failure hmem
  · exact fun hnone failure hmem => hnone failure.path ⟨failure, hmem, rfl⟩

/-- An INSERT does the same without the checks of items and of the fields of embedded documents,
whatever they say. So when it is valid, each declared path passes its own checks, and each item of a
covered collection has a stored form; that is all. -/
theorem items_unchecked (options : SchemaOptions) (edits : List Edit) (table : String)
    (record : Json) (listed : List String) :
    let schema := Schema.reached options edits
    schema.withoutItemChecks.insert table record listed = schema.insert table record listed ∧
    ((∃ e, InsertRefusal schema record listed e) ∨ ∃ statement,
      schema.insert table record listed = .ok statement ∧
      (statement.isValid = true ↔ ∀ path field, schema.find? path = some field →
        field.check ((record.valueAt? path).getD .null) record = none ∧
        ∀ value, Covered listed path → record.valueAt? path = some value →
          value.isTruthy = true → ∃ stored, field.cast value = .ok stored) ∧
      (statement.isValid = true → ∀ path field items, schema.find? path = some field →
        field.type = .collection → Covered listed path →
        record.valueAt? path = some (.arr items) → ∀ item ∈ items,
          ∃ stored, castItem path field.element item = .ok stored)) := by
  intro schema
  have h : schema.Tracks options (history options edits) := Schema.reached_tracks options edits
  refine ⟨schema.insert_withoutItemChecks table record listed, ?_⟩
  rcases h.insert_cases table record listed with
    ⟨e, hrefusal, _⟩ | ⟨_, _, statement, hinsert, _⟩
  · exact .inl ⟨e, hrefusal⟩
  · have hvalid := h.isValid_iff hinsert
    simp only [not_exists_failsAt_iff] at hvalid
    refine .inr ⟨statement, hinsert, hvalid, ?_⟩
    intro hok path field items hfind htype hcovered hvalue item hitem
    obtain ⟨stored, hcast⟩ := (hvalid.1 hok path field hfind).2 _ hcovered hvalue rfl
    have hresult := Descriptor.castItem_of_cast hcast htype hitem
    rwa [h.path_eq hfind] at hresult

/-- A text that the options of a list of texts do not list, and a document without a field that it
requires: the checks reject both, and an INSERT binds them and reports nothing. -/
theorem rejected_items_inserted : ∃ tag name,
    let schema := Schema.reached {} [
      .define "tags" (.arr [.obj [("type", .str "string"), ("enum", .arr [.str "a"])]]),
      .define "c" (.arr [.obj [("a", .obj [("type", .str "string"), ("required", .bool true)])]])]
    let record := Json.obj [("tags", .arr [.str "b"]), ("c", .arr [.obj []])]
    schema.path? "tags.0" = some tag ∧ (tag.check (.str "b") record).isSome ∧
    schema.path? "c.0.a" = some name ∧ (name.check .null record).isSome ∧
    schema.insert "t" record [] = .ok
      ⟨"INSERT INTO t (tags, c) VALUES (?, ?)", [.arr [.str "b"], .arr [.obj []]], none⟩ := by
  have hruns : (fun schema : Schema =>
      ((schema.path? "tags.0").bind fun tag => (schema.path? "c.0.a").map fun name =>
        ((tag.check (.str "b") (.obj [("tags", .arr [.str "b"]), ("c", .arr [.obj []])])).isSome,
          (name.check .null (.obj [("tags", .arr [.str "b"]), ("c", .arr [.obj []])])).isSome),
        schema.insert "t" (.obj [("tags", .arr [.str "b"]), ("c", .arr [.obj []])]) []))
      (Schema.reached {} [
        .define "tags" (.arr [.obj [("type", .str "string"), ("enum", .arr [.str "a"])]]),
        .define "c" (.arr [.obj [
          ("a", .obj [("type", .str "string"), ("required", .bool true)])]])])
      = (some (true, true), .ok
        ⟨"INSERT INTO t (tags, c) VALUES (?, ?)", [.arr [.str "b"], .arr [.obj []]], none⟩) := by
    cbv
  simp only [Prod.mk.injEq, Option.bind_eq_some_iff, Option.map_eq_some_iff] at hruns
  obtain ⟨⟨tag, htag, name, hname, hlist, hrequired⟩, hinsert⟩ := hruns
  exact ⟨tag, name, htag, hlist, hname, hrequired, hinsert⟩

end RecordSchema
