import RecordSchema.Proofs.InsertStatement

/-!
# What an INSERT binds and reports

An INSERT that is not refused binds each covered field whose value counts and has a stored form,
once and in the order of the tree, and reports each field whose checks fail or whose value is
covered, counts and has no stored form. Checks run whether a field is covered or not.

## Main definitions

* `Covered`: whether a list of fields covers a path.
* `Schema.Stores`: the stored form of a record's value at a declared path.
* `Validator.Rejects`: what a check reports that does not answer true.
* `FailsAt`: the failure that belongs to a path.

## Main statements

* `isListed_iff`: the test for covered paths.
* `Validator.run_eq_none_iff`, `Validator.run_eq_some_iff`: the two outcomes of a check.
* `Schema.offeredAt?_eq_some_iff`, `Schema.boundAt?_eq_some_iff`,
  `Schema.Tracks.failureAt?_eq_some_iff`: one path.
* `insert_binds`: the statement and its parameters.
* `insert_reports`: the failures.
-/

namespace RecordSchema

open RecordSchema.Path

/-- Whether a list of fields covers a path: it is empty, or names the path or a path above it. -/
def Covered (listed : List String) (path : String) : Prop :=
  listed = [] ∨ ∃ entry ∈ listed, path = entry ∨ IsAbove entry path

theorem isListed_iff {listed : List String} {path : String} :
    isListed listed path = true ↔ Covered listed path := by
  simp only [isListed, Covered, Bool.or_eq_true, List.isEmpty_iff, List.any_eq_true, covers_iff]

/-- A list as those of its members that have an image, side by side with the images. -/
theorem forall₂_filter_filterMap {α β : Type} (f : α → Option β) (l : List α) :
    List.Forall₂ (fun a b => f a = some b) (l.filter fun a => (f a).isSome) (l.filterMap f) := by
  induction l with
  | nil => exact .nil
  | cons a rest ih =>
    cases hf : f a with
    | none =>
      rw [List.filterMap_cons_none hf, List.filter_cons_of_neg (by simp [hf])]
      exact ih
    | some b =>
      rw [List.filterMap_cons_some hf, List.filter_cons_of_pos (by simp [hf])]
      exact .cons hf ih

namespace Schema

variable {schema : Schema} {record : Json} {listed : List String} {path : String}

/-- Whether a path is declared and the value of a record there counts and has this stored form. -/
def Stores (schema : Schema) (record : Json) (path : String) (param : Json) : Prop :=
  ∃ field value, schema.find? path = some field ∧ record.valueAt? path = some value ∧
    value.isTruthy = true ∧ field.cast value = .ok param

/-- A path offers its value when the value is covered and counts. -/
theorem offeredAt?_eq_some_iff {field : Descriptor} {value : Json} :
    schema.offeredAt? record listed path = some (field, value) ↔
      Covered listed path ∧ schema.find? path = some field ∧
        record.valueAt? path = some value ∧ value.isTruthy = true := by
  simp only [offeredAt?, Option.bind_eq_bind, Option.bind_eq_some_iff, Option.filter_eq_some_iff]
  constructor
  · rintro ⟨field', hfind, value', ⟨hvalue, hcounts⟩, hoffered⟩
    split at hoffered
    · rename_i hlisted
      cases hoffered
      exact ⟨isListed_iff.1 hlisted, hfind, hvalue, hcounts⟩
    · cases hoffered
  · rintro ⟨hcovered, hfind, hvalue, hcounts⟩
    exact ⟨field, hfind, value, ⟨hvalue, hcounts⟩, if_pos (isListed_iff.2 hcovered)⟩

theorem boundAt?_eq_some_iff {column : String} {param : Json} :
    schema.boundAt? record listed path = some (column, param) ↔
      Covered listed path ∧ (∃ field, schema.find? path = some field ∧ field.column = column) ∧
        schema.Stores record path param := by
  constructor
  · intro h
    obtain ⟨⟨field, value⟩, hoffered, h⟩ := Option.bind_eq_some_iff.1 h
    obtain ⟨hcovered, hfind, hvalue, hcounts⟩ := offeredAt?_eq_some_iff.1 hoffered
    cases hcast : field.cast value with
    | error e => simp [hcast, Except.toOption] at h
    | ok stored =>
      simp only [hcast, Except.toOption, Option.map_some, Option.some.injEq, Prod.mk.injEq] at h
      obtain ⟨rfl, rfl⟩ := h
      exact ⟨hcovered, ⟨field, hfind, rfl⟩, field, value, hfind, hvalue, hcounts, hcast⟩
  · rintro ⟨hcovered, ⟨field, hfind, rfl⟩, field', value, hfind', hvalue, hcounts, hcast⟩
    obtain rfl : field = field' := Option.some.inj (hfind.symm.trans hfind')
    have hoffered := offeredAt?_eq_some_iff.2 ⟨hcovered, hfind, hvalue, hcounts⟩
    simp [boundAt?, hoffered, hcast, Except.toOption]

theorem isSome_boundAt?_iff : (schema.boundAt? record listed path).isSome = true ↔
    Covered listed path ∧ ∃ param, schema.Stores record path param := by
  rw [Option.isSome_iff_exists]
  constructor
  · rintro ⟨⟨column, param⟩, hbound⟩
    obtain ⟨hcovered, _, hstores⟩ := boundAt?_eq_some_iff.1 hbound
    exact ⟨hcovered, param, hstores⟩
  · rintro ⟨hcovered, param, hstores⟩
    obtain ⟨field, _, hfind, _⟩ := id hstores
    exact ⟨(field.column, param), boundAt?_eq_some_iff.2 ⟨hcovered, ⟨field, hfind, rfl⟩, hstores⟩⟩

theorem castFailureAt?_eq_some_iff {failure : Failure} :
    schema.castFailureAt? record listed path = some failure ↔
      Covered listed path ∧ ∃ field value e, schema.find? path = some field ∧
        record.valueAt? path = some value ∧ value.isTruthy = true ∧ field.cast value = .error e ∧
        failure = ⟨path, e.message, .cast, value⟩ := by
  constructor
  · intro h
    obtain ⟨⟨field, value⟩, hoffered, h⟩ := Option.bind_eq_some_iff.1 h
    obtain ⟨hcovered, hfind, hvalue, hcounts⟩ := offeredAt?_eq_some_iff.1 hoffered
    simp only at h
    split at h
    · cases h
    · rename_i e hcast
      cases h
      exact ⟨hcovered, field, value, e, hfind, hvalue, hcounts, hcast, rfl⟩
  · rintro ⟨hcovered, field, value, e, hfind, hvalue, hcounts, hcast, rfl⟩
    have hoffered := offeredAt?_eq_some_iff.2 ⟨hcovered, hfind, hvalue, hcounts⟩
    simp [castFailureAt?, hoffered, hcast]

end Schema

/-! ## Failures -/

/-- What a check reports of a value at a path when it does not answer true. -/
inductive Validator.Rejects (validator : Validator) (path : String) (value record : Json) :
    Failure → Prop
  /-- It answers false: its message is given, with the path and the value put in. -/
  | refused (hcheck : validator.check value record = .ok false) :
      Rejects validator path value record
        ⟨path, filledMessage validator.message path value, validator.kind, value⟩
  /-- It breaks off: its reason is given as it is. -/
  | broken {reason : String} (hcheck : validator.check value record = .error reason) :
      Rejects validator path value record ⟨path, reason, validator.kind, value⟩

namespace Validator

variable {validator : Validator} {path : String} {value record : Json}

/-- A check accepts a value just when it answers true. -/
theorem run_eq_none_iff :
    validator.run path value record = none ↔ validator.check value record = .ok true := by
  unfold run
  split
  · rename_i hcheck
    exact iff_of_true rfl hcheck
  · rename_i hcheck
    simp [hcheck]
  · rename_i reason hcheck
    simp [hcheck]

/-- A failure of a check is what it reports when it does not answer true. -/
theorem run_eq_some_iff {failure : Failure} :
    validator.run path value record = some failure
      ↔ validator.Rejects path value record failure := by
  constructor
  · intro hrun
    unfold run at hrun
    split at hrun
    · cases hrun
    · rename_i hcheck
      cases hrun
      exact .refused hcheck
    · rename_i reason hcheck
      cases hrun
      exact .broken hcheck
  · rintro (hcheck | hcheck) <;> rw [run, hcheck]

variable {validators : List Validator}

theorem findSome?_run_eq_none_iff :
    (validators.findSome? fun validator => validator.run path value record) = none ↔
      ∀ validator ∈ validators, validator.check value record = .ok true := by
  simp only [List.findSome?_eq_none_iff, run_eq_none_iff]

/-- The first failure of several checks is that of the first one that does not answer true. -/
theorem findSome?_run_eq_some_iff {failure : Failure} :
    (validators.findSome? fun validator => validator.run path value record) = some failure ↔
      ∃ before validator after, validators = before ++ validator :: after ∧
        validator.Rejects path value record failure ∧
        ∀ earlier ∈ before, earlier.check value record = .ok true := by
  simp only [List.findSome?_eq_some_iff, run_eq_some_iff, run_eq_none_iff]

theorem Rejects.path_eq {failure : Failure} (h : validator.Rejects path value record failure) :
    failure.path = path := by
  cases h <;> rfl

theorem Rejects.not_accepted {failure : Failure}
    (h : validator.Rejects path value record failure) :
    validator.check value record ≠ .ok true := by
  intro haccepted
  cases h with
  | refused hcheck => cases hcheck.symm.trans haccepted
  | broken hcheck => cases hcheck.symm.trans haccepted

end Validator

/-- The failure that belongs to a path. -/
inductive FailsAt (schema : Schema) (record : Json) (listed : List String) (path : String) :
    Failure → Prop
  /-- A check does not answer true for the value, or for null where there is none, and those before
  it do. -/
  | rejected {field : Descriptor} {before after : List Validator} {validator : Validator}
      {failure : Failure} (hfind : schema.find? path = some field)
      (hchecks : field.validators = before ++ validator :: after)
      (hpassed : ∀ earlier ∈ before,
        earlier.check ((record.valueAt? path).getD .null) record = .ok true)
      (hrejected : validator.Rejects path ((record.valueAt? path).getD .null) record failure) :
      FailsAt schema record listed path failure
  /-- All checks answer true, but the value is covered, counts and has no stored form. -/
  | uncast {field : Descriptor} {value : Json} {e : SchemaError}
      (hfind : schema.find? path = some field)
      (hpassed : ∀ validator ∈ field.validators,
        validator.check ((record.valueAt? path).getD .null) record = .ok true)
      (hcovered : Covered listed path) (hvalue : record.valueAt? path = some value)
      (hcounts : value.isTruthy = true) (hcast : field.cast value = .error e) :
      FailsAt schema record listed path ⟨path, e.message, .cast, value⟩

theorem FailsAt.path_eq {schema : Schema} {record : Json} {listed : List String} {path : String}
    {failure : Failure} (h : FailsAt schema record listed path failure) : failure.path = path := by
  cases h with
  | rejected _ _ _ hrejected => exact hrejected.path_eq
  | uncast => rfl

/-- A path has a failure when a check does not answer true for its value, or its value is covered,
counts and has no stored form. -/
theorem exists_failsAt_iff {schema : Schema} {record : Json} {listed : List String}
    {path : String} : (∃ failure, FailsAt schema record listed path failure) ↔
      ∃ field, schema.find? path = some field ∧
        ((∃ validator ∈ field.validators,
          validator.check ((record.valueAt? path).getD .null) record ≠ .ok true) ∨
        Covered listed path ∧ ∃ value e, record.valueAt? path = some value ∧
          value.isTruthy = true ∧ field.cast value = .error e) := by
  constructor
  · rintro ⟨failure, hfails⟩
    cases hfails with
    | rejected hfind hchecks _ hrejected =>
      refine ⟨_, hfind, .inl ⟨_, ?_, hrejected.not_accepted⟩⟩
      rw [hchecks]
      exact List.mem_append_right _ List.mem_cons_self
    | uncast hfind _ hcovered hvalue hcounts hcast =>
      exact ⟨_, hfind, .inr ⟨hcovered, _, _, hvalue, hcounts, hcast⟩⟩
  · rintro ⟨field, hfind, hfails⟩
    cases hfirst : field.validators.findSome? fun validator =>
        validator.run path ((record.valueAt? path).getD .null) record with
    | some failure =>
      obtain ⟨before, validator, after, hchecks, hrejected, hpassed⟩ :=
        Validator.findSome?_run_eq_some_iff.1 hfirst
      exact ⟨failure, .rejected hfind hchecks hpassed hrejected⟩
    | none =>
      have hpassed := Validator.findSome?_run_eq_none_iff.1 hfirst
      rcases hfails with ⟨validator, hmem, hrun⟩ | ⟨hcovered, value, e, hvalue, hcounts, hcast⟩
      · exact absurd (hpassed validator hmem) hrun
      · exact ⟨_, .uncast hfind hpassed hcovered hvalue hcounts hcast⟩

namespace Schema.Tracks

variable {schema : Schema} {options : SchemaOptions} {log : List Change} {record : Json}
  {listed : List String} {path : String}

theorem failureAt?_eq_some_iff (h : schema.Tracks options log) {failure : Failure} :
    schema.failureAt? record listed path = some failure
      ↔ FailsAt schema record listed path failure := by
  rw [failureAt?, Option.or_eq_some_iff]
  constructor
  · rintro (hcheck | ⟨hnone, huncast⟩)
    · obtain ⟨field, hfind, hcheck⟩ := Option.bind_eq_some_iff.1 hcheck
      rw [Descriptor.check, h.path_eq hfind] at hcheck
      obtain ⟨before, validator, after, hchecks, hrejected, hpassed⟩ :=
        Validator.findSome?_run_eq_some_iff.1 hcheck
      exact .rejected hfind hchecks hpassed hrejected
    · obtain ⟨hcovered, field, value, e, hfind, hvalue, hcounts, hcast, rfl⟩ :=
        castFailureAt?_eq_some_iff.1 huncast
      rw [hfind, Option.bind_some, Descriptor.check, Validator.findSome?_run_eq_none_iff] at hnone
      exact .uncast hfind hnone hcovered hvalue hcounts hcast
  · intro hfails
    cases hfails with
    | rejected hfind hchecks hpassed hrejected =>
      refine .inl ?_
      rw [hfind, Option.bind_some, Descriptor.check, h.path_eq hfind]
      exact Validator.findSome?_run_eq_some_iff.2 ⟨_, _, _, hchecks, hrejected, hpassed⟩
    | uncast hfind hpassed hcovered hvalue hcounts hcast =>
      refine .inr ⟨?_, castFailureAt?_eq_some_iff.2
        ⟨hcovered, _, _, _, hfind, hvalue, hcounts, hcast, rfl⟩⟩
      rw [hfind, Option.bind_some, Descriptor.check, Validator.findSome?_run_eq_none_iff]
      exact hpassed

/-- The failures of all leaves are those of all paths: only declared paths fail. -/
theorem exists_failure_at_iff (h : schema.Tracks options log) :
    (∃ failure ∈ schema.leafPaths.filterMap (schema.failureAt? record listed),
      failure.path = path) ↔ ∃ failure, FailsAt schema record listed path failure := by
  simp only [List.mem_filterMap, h.failureAt?_eq_some_iff]
  constructor
  · rintro ⟨failure, ⟨other, _, hother⟩, rfl⟩
    exact ⟨failure, hother.path_eq ▸ hother⟩
  · rintro ⟨failure, hfailure⟩
    obtain ⟨field, hfind, _⟩ := exists_failsAt_iff.1 ⟨failure, hfailure⟩
    exact ⟨failure, ⟨path, h.mem_leafPaths_of_find? hfind, hfailure⟩, hfailure.path_eq⟩

/-- The checks of a declared field: those of its options in their fixed order, and after them those
attached since it was declared last. -/
theorem validators_eq (h : schema.Tracks options log) {field : Descriptor}
    (hfind : schema.find? path = some field) : ∃ required enum pattern min max,
      requiredOption field.type path field.options = .ok required ∧
      enumOption path field.options = .ok enum ∧
      matchOption path field.options = .ok pattern ∧
      boundOption "min" (minValidator field.type) path field.options = .ok min ∧
      boundOption "max" (maxValidator field.type) path field.options = .ok max ∧
      field.validators = required ++ enum ++ pattern ++ min ++ max
        ++ (attachments path log).filterMap Attachment.validator? := by
  obtain ⟨_, declaration, meaning, _, hmeaning, rfl⟩ := h.find?_described hfind
  obtain ⟨default, happlied⟩ := Attachment.foldl_applyTo meaning (attachments path log)
  have hdescribed := interpret_described hmeaning
  obtain ⟨required, enum, pattern, min, max, hrequired, henum, hpattern, hmin, hmax, hall⟩ :=
    optionValidators_eq_ok_iff.1 hdescribed.validators_eq
  rw [happlied, hdescribed.options_eq]
  exact ⟨required, enum, pattern, min, max, hrequired, henum, hpattern, hmin, hmax, by rw [hall]⟩

/-- The paths that an INSERT binds, with their columns and parameters. -/
theorem insert_bound (h : schema.Tracks options log) {table : String} {statement : Statement}
    (hinsert : schema.insert table record listed = .ok statement) : ∃ bound columns,
      statement.query = insertText table columns ∧ bound.Sublist schema.leafPaths ∧
      (∀ path, path ∈ bound ↔ Covered listed path ∧ ∃ param, schema.Stores record path param) ∧
      List.Forall₂ (schema.Stores record) bound statement.params ∧
      List.Forall₂ (fun path column =>
        ∃ field, schema.find? path = some field ∧ field.column = column) bound columns := by
  obtain ⟨hquery, hparams, _⟩ := h.insert_parts hinsert
  have hbinds := forall₂_filter_filterMap (schema.boundAt? record listed) schema.leafPaths
  refine ⟨schema.leafPaths.filter fun path => (schema.boundAt? record listed path).isSome, _,
    hquery, List.filter_sublist, fun path => ?_, ?_, ?_⟩
  · rw [List.mem_filter, isSome_boundAt?_iff]
    refine ⟨And.right, fun hbound => ⟨?_, hbound⟩⟩
    obtain ⟨_, _, field, _, hfind, _⟩ := hbound
    exact h.mem_leafPaths_of_find? hfind
  · rw [hparams, List.forall₂_map_right_iff]
    exact hbinds.imp fun path bound hbound => (boundAt?_eq_some_iff.1 hbound).2.2
  · rw [List.forall₂_map_right_iff]
    exact hbinds.imp fun path bound hbound => (boundAt?_eq_some_iff.1 hbound).2.1

end Schema.Tracks

/-! ## The statement -/

/-- An INSERT is refused just for a cause of refusal. Otherwise it binds the declared paths that are
covered and whose values count and have a stored form, each once and in the order of the tree, with
as many placeholders as parameters. -/
theorem insert_binds (options : SchemaOptions) (edits : List Edit) (table : String)
    (record : Json) (listed : List String) :
    let schema := Schema.reached options edits
    (∀ e, schema.insert table record listed = .error e ↔ InsertRefusal schema record listed e) ∧
    ((∃ e, InsertRefusal schema record listed e) ∨ ∃ bound columns params failures,
      schema.insert table record listed = .ok {
        query := "INSERT INTO " ++ table ++ " (" ++ ", ".intercalate columns ++ ") VALUES ("
          ++ ", ".intercalate (List.replicate params.length "?") ++ ")"
        params := params
        failures := failures } ∧
      bound.Sublist schema.leafPaths ∧ bound.Nodup ∧
      (∀ path, path ∈ bound ↔ Covered listed path ∧ ∃ param field value,
        schema.find? path = some field ∧ record.valueAt? path = some value ∧
        value.isTruthy = true ∧ field.cast value = .ok param) ∧
      List.Forall₂ (schema.Stores record) bound params ∧
      List.Forall₂ (fun path column =>
        ∃ field, schema.find? path = some field ∧ field.column = column) bound columns) := by
  intro schema
  have h : schema.Tracks options (history options edits) := Schema.reached_tracks options edits
  rcases h.insert_cases table record listed with
    ⟨e, hrefusal, hinsert⟩ | ⟨_, _, ⟨query, params, failures⟩, hinsert, _⟩
  · refine ⟨fun e' => ⟨fun herror => ?_, fun hcause => Schema.insert_eq_error hcause table⟩,
      .inl ⟨e, hrefusal⟩⟩
    cases hinsert.symm.trans herror
    exact hrefusal
  · refine ⟨fun e => ⟨fun herror => ?_, fun hcause => Schema.insert_eq_error hcause table⟩, .inr ?_⟩
    · cases hinsert.symm.trans herror
    · obtain ⟨bound, columns, hquery, hsublist, hbound, hparams, hcolumns⟩ :=
        h.insert_bound hinsert
      refine ⟨bound, columns, params, failures, ?_, hsublist, hsublist.nodup h.nodup_leafPaths,
        hbound, hparams, hcolumns⟩
      -- columns and parameters belong to the same paths, so their numbers agree
      have hlength : params.length = columns.length :=
        hparams.length_eq.symm.trans hcolumns.length_eq
      obtain rfl : query = _ := hquery
      rw [hinsert, hlength]
      rfl

/-- An INSERT that is not refused reports each declared path whose checks do not all answer true,
covered or not, and each covered path whose value counts and has no stored form: one failure for
each path, in the order of the tree, that of the first check that fails before that of the cast. The
failure of a check has its kind and the value, and as message that of the check with the path and
the value put in, or the reason for which the check breaks off. Checks run in the order of the
options `required`, `enum`, `match`, `min` and `max`, and after them as they were attached. -/
theorem insert_reports (options : SchemaOptions) (edits : List Edit) (table : String)
    (record : Json) (listed : List String) :
    let schema := Schema.reached options edits
    (∃ e, InsertRefusal schema record listed e) ∨ ∃ statement failing failures,
      schema.insert table record listed = .ok statement ∧
      statement.failures.map FailureReport.failures
        = (if failures = [] then none else some failures) ∧
      failing.Sublist schema.leafPaths ∧ failing.Nodup ∧
      (∀ path, path ∈ failing ↔ ∃ field, schema.find? path = some field ∧
        ((∃ validator ∈ field.validators,
          validator.check ((record.valueAt? path).getD .null) record ≠ .ok true) ∨
        Covered listed path ∧ ∃ value e, record.valueAt? path = some value ∧
          value.isTruthy = true ∧ field.cast value = .error e)) ∧
      List.Forall₂ (FailsAt schema record listed) failing failures ∧
      failures.map Failure.path = failing ∧
      (statement.isValid = true ↔ failing = []) ∧
      ∀ path field, schema.find? path = some field → ∃ required enum pattern min max,
        requiredOption field.type path field.options = .ok required ∧
        enumOption path field.options = .ok enum ∧
        matchOption path field.options = .ok pattern ∧
        boundOption "min" (minValidator field.type) path field.options = .ok min ∧
        boundOption "max" (maxValidator field.type) path field.options = .ok max ∧
        field.validators = required ++ enum ++ pattern ++ min ++ max
          ++ (attachments path (history options edits)).filterMap Attachment.validator? := by
  intro schema
  have h : schema.Tracks options (history options edits) := Schema.reached_tracks options edits
  rcases h.insert_cases table record listed with
    ⟨e, hrefusal, _⟩ | ⟨_, _, statement, hinsert, _, _, hfailures⟩
  · exact .inl ⟨e, hrefusal⟩
  · have hfails : List.Forall₂ (FailsAt schema record listed)
        (schema.leafPaths.filter fun path => (schema.failureAt? record listed path).isSome)
        (schema.leafPaths.filterMap (schema.failureAt? record listed)) :=
      (forall₂_filter_filterMap (schema.failureAt? record listed) _).imp
        fun path failure => h.failureAt?_eq_some_iff.1
    refine .inr ⟨statement, _, _, hinsert, hfailures, List.filter_sublist,
      h.nodup_leafPaths.filter _, fun path => ?_, hfails, ?_, ?_, fun path field => h.validators_eq⟩
    · rw [List.mem_filter, Option.isSome_iff_exists, ← exists_failsAt_iff]
      simp only [h.failureAt?_eq_some_iff]
      refine ⟨And.right, fun hfailure => ⟨?_, hfailure⟩⟩
      obtain ⟨field, hfind, _⟩ := exists_failsAt_iff.1 hfailure
      exact h.mem_leafPaths_of_find? hfind
    · have hpaths : List.Forall₂ (· = ·) _ _ :=
        List.forall₂_map_right_iff.2 (hfails.imp fun path failure hfailure => hfailure.path_eq.symm)
      exact (List.forall₂_eq_eq_eq ▸ hpaths).symm
    · rw [Statement.isValid, Option.isNone_iff_eq_none, ← Option.map_eq_none_iff, hfailures,
        reported_eq_none_iff, ← List.length_eq_zero_iff, ← hfails.length_eq,
        List.length_eq_zero_iff]

end RecordSchema
