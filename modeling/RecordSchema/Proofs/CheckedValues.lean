import Mathlib
import RecordSchema.Proofs.Casting
import RecordSchema.Proofs.OptionChecks

/-!
# Checked values and stored values

The checks of a field look at the value that a record has, and an INSERT binds the form in which the
value is stored. Bounds compare a number or a point in time by the number that it is stored as, so
what passes them is stored within them. Lists of values and patterns look at the value as it stands:
a text is compared before its style is applied, and a pattern passes over everything that is no
text. So what passes them is stored as it was checked only where it is stored as it stands.

## Main definitions

* `Statement.failure?`: the failure that a statement reports for a path.
* `Descriptor.WithinBounds`, `Descriptor.Enumerates`, `Descriptor.Matches`: what the options `min`
  and `max`, `enum` and `match` ask of a number, a value and a text.

## Main statements

* `Schema.Tracks.insert_passed`: where no failure is reported, all checks of the field accept the
  value.
* `Descriptor.comparable?_eq_asFloat?`: a value is compared by the number that is stored.
* `stored_within_bounds`: bounds hold of what is stored.
* `texts_checked_as_given`: lists and patterns hold of what the record has.
* `styled_texts_unchecked`: texts that are stored though neither the list nor the pattern has them.
-/

namespace RecordSchema

/-! ## Reports -/

/-- The failure that a statement reports for a path. -/
def Statement.failure? (statement : Statement) (path : String) : Option Failure :=
  statement.failures.bind (·.get? path)

theorem Statement.failure?_eq_find? {statement : Statement} {failures : List Failure}
    (h : statement.failures.map FailureReport.failures = reported failures) (path : String) :
    statement.failure? path = failures.find? fun failure => failure.path = path := by
  unfold failure?
  unfold reported at h
  split at h
  · rename_i hnil
    rw [Option.map_eq_none_iff.1 h, hnil]
    rfl
  · obtain ⟨report, hreport, rfl⟩ := Option.map_eq_some_iff.1 h
    rw [hreport]
    rfl

namespace Schema.Tracks

variable {schema : Schema} {options : SchemaOptions} {log : List Change} {record : Json}
  {listed : List String}

/-- Where a statement reports no failure, the path has none. -/
theorem not_failsAt_of_failure?_eq_none (h : schema.Tracks options log) {statement : Statement}
    (hfailures : statement.failures.map FailureReport.failures
      = reported (schema.leafPaths.filterMap (schema.failureAt? record listed)))
    {path : String} (hnone : statement.failure? path = none) (failure : Failure) :
    ¬FailsAt schema record listed path failure := by
  intro hfails
  obtain ⟨found, hmem, hpath⟩ := h.exists_failure_at_iff.2 ⟨failure, hfails⟩
  rw [Statement.failure?_eq_find? hfailures, List.find?_eq_none] at hnone
  exact hnone found hmem (decide_eq_true hpath)

/-- Where all checks of a field accept a value, so do those of its options. -/
theorem optionValidators_passed (h : schema.Tracks options log) {path : String}
    {field : Descriptor} {value : Json} (hfind : schema.find? path = some field)
    (hpassed : ∀ validator ∈ field.validators, validator.check value record = .ok true) :
    ∃ validators, optionValidators field.type path field.options = .ok validators ∧
      ∀ validator ∈ validators, validator.check value record = .ok true := by
  obtain ⟨validators, hoptions, hall⟩ := h.exists_optionValidators hfind
  refine ⟨validators, hoptions, fun validator hmem => hpassed validator ?_⟩
  rw [hall]
  exact List.mem_append_left _ hmem

/-- What an INSERT binds for a path, with what has been checked there: where no failure is reported,
all checks of the field accept the value. -/
theorem insert_passed (h : schema.Tracks options log) (table : String) (record : Json)
    (listed : List String) :
    (∃ e, InsertRefusal schema record listed e) ∨ ∃ statement bound columns,
      schema.insert table record listed = .ok statement ∧
      statement.query = insertText table columns ∧
      bound.Sublist schema.leafPaths ∧
      (∀ path, path ∈ bound ↔ Covered listed path ∧ ∃ param, schema.Stores record path param) ∧
      List.Forall₂ (fun path column =>
        ∃ field, schema.find? path = some field ∧ field.column = column) bound columns ∧
      List.Forall₂ (fun path param => ∃ field value, schema.find? path = some field ∧
        record.valueAt? path = some value ∧ value.isTruthy = true ∧ field.cast value = .ok param ∧
        (statement.failure? path = none →
          ∀ validator ∈ field.validators, validator.check value record = .ok true))
        bound statement.params := by
  rcases h.insert_cases table record listed with
    ⟨e, hrefusal, _⟩ | ⟨_, _, statement, hinsert, _, _, hfailures⟩
  · exact .inl ⟨e, hrefusal⟩
  · obtain ⟨bound, columns, hquery, hsublist, hbound, hparams, hcolumns⟩ := h.insert_bound hinsert
    refine .inr ⟨statement, bound, columns, hinsert, hquery, hsublist, hbound, hcolumns,
      hparams.imp ?_⟩
    rintro path param ⟨field, value, hfind, hvalue, hcounts, hcast⟩
    refine ⟨field, value, hfind, hvalue, hcounts, hcast, fun hnone validator hmem => ?_⟩
    by_contra hrejected
    obtain ⟨failure, hfails⟩ : ∃ failure, FailsAt schema record listed path failure :=
      exists_failsAt_iff.2 ⟨field, hfind, .inl ⟨validator, hmem, by rwa [hvalue]⟩⟩
    exact h.not_failsAt_of_failure?_eq_none hfailures hnone failure hfails

end Schema.Tracks

/-! ## Bounds -/

namespace Descriptor

variable {field : Descriptor} {validators : List Validator} {path : String}
  {value record param : Json}

/-- Whether a number lies within the bounds that the options of a field give. -/
structure WithinBounds (field : Descriptor) (x : Float) : Prop where
  /-- It is not below the option `min`. -/
  min_le : ∀ option, Entries.get? field.options "min" = some option →
    ∃ bound, option.asFloat? = some bound ∧ bound ≤ x
  /-- It is not above the option `max`. -/
  le_max : ∀ option, Entries.get? field.options "max" = some option →
    ∃ bound, option.asFloat? = some bound ∧ x ≤ bound

theorem asFloat?_apply (style : TextStyle) (value : Json) :
    (style.apply value).asFloat? = value.asFloat? := by
  cases value <;> rfl

/-- A value is compared by the number that is stored, if one is. -/
theorem comparable?_eq_asFloat? (htype : field.type = .number ∨ field.type = .date)
    (hcast : field.cast value = .ok param) : comparable? field.type value = param.asFloat? := by
  have hscalar : field.type ≠ .collection := by
    rcases htype with htype | htype <;> simp [htype]
  rw [cast_scalar hscalar] at hcast
  obtain ⟨raw, hraw, rfl⟩ := map_eq_ok_iff.1 hcast
  rw [asFloat?_apply]
  unfold FieldType.cast at hraw
  split at hraw
  · -- null stands for no number, and neither does what is stored for it
    rename_i hnull
    cases hraw
    obtain rfl := Json.eq_null_of_isNull hnull
    rcases htype with htype | htype <;> rw [htype] <;> rfl
  · split at hraw
    · rename_i stored hstored
      cases hraw
      rcases htype with htype | htype
      · rw [htype] at hstored ⊢
        have hnumber : FieldType.storedNumber? value = some raw := hstored
        simp [comparable?, hnumber]
      · rw [htype] at hstored ⊢
        obtain ⟨n, hn, rfl⟩ := Option.map_eq_some_iff.1 hstored
        simp [comparable?, hn, Json.ofInt, Json.asFloat?, Number.toFloat]
    · cases hraw

/-- A number or a point in time is stored as a number, unless it is stored as null. -/
theorem exists_asFloat? (htype : field.type = .number ∨ field.type = .date)
    (hcast : field.cast value = .ok param) : param = .null ∨ ∃ x, param.asFloat? = some x := by
  have hscalar : field.type ≠ .collection := by
    rcases htype with htype | htype <;> simp [htype]
  rw [cast_scalar hscalar] at hcast
  obtain ⟨raw, hraw, rfl⟩ := map_eq_ok_iff.1 hcast
  rw [asFloat?_apply]
  have hform := FieldType.storedScalar_of_cast hscalar hraw
  rcases htype with htype | htype
  · rw [htype] at hform
    cases hform with
    | null => exact .inl rfl
    | number n => exact .inr ⟨n.toFloat, rfl⟩
  · rw [htype] at hform
    cases hform with
    | null => exact .inl rfl
    | date n => exact .inr ⟨Float.ofInt n, rfl⟩

/-- What passes the checks of the bounds is stored within them. -/
theorem withinBounds_of_passed
    (hoptions : optionValidators field.type path field.options = .ok validators)
    (hpassed : ∀ validator ∈ validators, validator.check value record = .ok true)
    (htype : field.type = .number ∨ field.type = .date) (hcast : field.cast value = .ok param) :
    param = .null ∨ ∃ x, param.asFloat? = some x ∧ field.WithinBounds x := by
  rcases exists_asFloat? htype hcast with hnull | ⟨x, hx⟩
  · exact .inl hnull
  · have hcompared : comparable? field.type value = some x :=
      (comparable?_eq_asFloat? htype hcast).trans hx
    refine .inr ⟨x, hx, fun option hoption => ?_, fun option hoption => ?_⟩
    · obtain ⟨bound, hbound, hmem⟩ := exists_bound_check .min hoptions hoption
      refine ⟨bound, hbound, ?_⟩
      simpa [minValidator, hcompared] using hpassed _ hmem
    · obtain ⟨bound, hbound, hmem⟩ := exists_bound_check .max hoptions hoption
      refine ⟨bound, hbound, ?_⟩
      simpa [maxValidator, hcompared] using hpassed _ hmem

end Descriptor

/-- An INSERT that is not refused binds for each number and each point in time whose path has no
failure null or a number within the bounds of the field, whichever form the record's value has. -/
theorem stored_within_bounds (options : SchemaOptions) (edits : List Edit) (table : String)
    (record : Json) (listed : List String) :
    let schema := Schema.reached options edits
    (∃ e, InsertRefusal schema record listed e) ∨ ∃ statement bound columns,
      schema.insert table record listed = .ok statement ∧
      statement.query = "INSERT INTO " ++ table ++ " (" ++ ", ".intercalate columns ++ ") VALUES ("
        ++ ", ".intercalate (List.replicate columns.length "?") ++ ")" ∧
      bound.Sublist schema.leafPaths ∧
      (∀ path, path ∈ bound ↔ Covered listed path ∧ ∃ param, schema.Stores record path param) ∧
      List.Forall₂ (fun path column =>
        ∃ field, schema.find? path = some field ∧ field.column = column) bound columns ∧
      List.Forall₂ (fun path param => ∃ field, schema.find? path = some field ∧
        (field.type = .number ∨ field.type = .date → statement.failure? path = none →
          param = .null ∨ ∃ x, param.asFloat? = some x ∧ field.WithinBounds x))
        bound statement.params := by
  intro schema
  have h : schema.Tracks options (history options edits) := Schema.reached_tracks options edits
  rcases h.insert_passed table record listed with
    hrefusal | ⟨statement, bound, columns, hinsert, hquery, hsublist, hbound, hcolumns, hparams⟩
  · exact .inl hrefusal
  · refine .inr ⟨statement, bound, columns, hinsert, hquery, hsublist, hbound, hcolumns,
      hparams.imp ?_⟩
    rintro path param ⟨field, value, hfind, _, _, hcast, hpassed⟩
    refine ⟨field, hfind, fun htype hnone => ?_⟩
    obtain ⟨validators, hoptions, hchecked⟩ := h.optionValidators_passed hfind (hpassed hnone)
    exact Descriptor.withinBounds_of_passed hoptions hchecked htype hcast

/-! ## Lists of values and patterns -/

namespace Descriptor

variable {field : Descriptor} {validators : List Validator} {path : String}
  {value record param : Json}

/-- Whether a value is one of those that the option `enum` lists. -/
def Enumerates (field : Descriptor) (value : Json) : Prop :=
  ∀ option, Entries.get? field.options "enum" = some option →
    ∃ allowed, option = .arr allowed ∧ allowed.any (·.same value) = true

/-- Whether a text matches the pattern of the option `match`. -/
def Matches (field : Descriptor) (text : String) : Prop :=
  ∀ option, Entries.get? field.options "match" = some option →
    ∃ source pattern, option = .str source ∧ Pattern.ofText source = .ok pattern ∧
      pattern.occursIn text = true

/-- What passes the check of a list is one of the values listed. -/
theorem enumerates_of_passed
    (hoptions : optionValidators field.type path field.options = .ok validators)
    (hpassed : ∀ validator ∈ validators, validator.check value record = .ok true)
    (hnull : value.isNull = false) : field.Enumerates value := by
  intro option hoption
  obtain ⟨allowed, rfl, hmem⟩ := exists_enum_check hoptions hoption
  refine ⟨allowed, rfl, ?_⟩
  simpa [enumValidator, hnull] using hpassed _ hmem

/-- A text that passes the check of a pattern matches it. -/
theorem matches_of_passed {text : String}
    (hoptions : optionValidators field.type path field.options = .ok validators)
    (hpassed : ∀ validator ∈ validators, validator.check (.str text) record = .ok true) :
    field.Matches text := by
  intro option hoption
  obtain ⟨source, pattern, rfl, htext, hmem⟩ := exists_match_check hoptions hoption
  refine ⟨source, pattern, rfl, htext, ?_⟩
  simpa [matchValidator, Json.asText?] using hpassed _ hmem

/-- A text field stores the text of its value, styled. -/
theorem exists_storedString? (htype : field.type = .string) (hnull : value.isNull = false)
    (hcast : field.cast value = .ok param) : ∃ text,
      FieldType.storedString? value = some (.str text) ∧
      param = .str (field.style.applyText text) := by
  have hscalar : field.type ≠ .collection := by simp [htype]
  rw [cast_scalar hscalar, htype, FieldType.cast, if_neg (by simp [hnull])] at hcast
  obtain ⟨raw, hraw, rfl⟩ := map_eq_ok_iff.1 hcast
  split at hraw
  · rename_i stored hstored
    cases hraw
    have htext : FieldType.storedString? value = some raw := hstored
    cases value with
    | str _ | num _ | bool _ =>
      cases htext
      exact ⟨_, rfl, rfl⟩
    | null | arr _ | obj _ => cases htext
  · cases hraw

end Descriptor

/-- An INSERT that is not refused binds for each text field whose path has no failure the text of
the record's value in the style of the field. That value is one of those listed, and a text matches
the pattern; so does what is stored where it is the value as it stands. -/
theorem texts_checked_as_given (options : SchemaOptions) (edits : List Edit) (table : String)
    (record : Json) (listed : List String) :
    let schema := Schema.reached options edits
    (∃ e, InsertRefusal schema record listed e) ∨ ∃ statement bound columns,
      schema.insert table record listed = .ok statement ∧
      statement.query = "INSERT INTO " ++ table ++ " (" ++ ", ".intercalate columns ++ ") VALUES ("
        ++ ", ".intercalate (List.replicate columns.length "?") ++ ")" ∧
      bound.Sublist schema.leafPaths ∧
      (∀ path, path ∈ bound ↔ Covered listed path ∧ ∃ param, schema.Stores record path param) ∧
      List.Forall₂ (fun path column =>
        ∃ field, schema.find? path = some field ∧ field.column = column) bound columns ∧
      List.Forall₂ (fun path param => ∃ field value, schema.find? path = some field ∧
        record.valueAt? path = some value ∧
        (field.type = .string → statement.failure? path = none → ∃ text,
          FieldType.storedString? value = some (.str text) ∧
          param = .str (field.style.applyText text) ∧
          field.Enumerates value ∧ (value = .str text → field.Matches text) ∧
          (param = value → field.Enumerates param ∧
            field.Matches (field.style.applyText text))))
        bound statement.params := by
  intro schema
  have h : schema.Tracks options (history options edits) := Schema.reached_tracks options edits
  rcases h.insert_passed table record listed with
    hrefusal | ⟨statement, bound, columns, hinsert, hquery, hsublist, hbound, hcolumns, hparams⟩
  · exact .inl hrefusal
  · refine .inr ⟨statement, bound, columns, hinsert, hquery, hsublist, hbound, hcolumns,
      hparams.imp ?_⟩
    rintro path param ⟨field, value, hfind, hvalue, hcounts, hcast, hpassed⟩
    refine ⟨field, value, hfind, hvalue, fun htype hnone => ?_⟩
    have hnull := Json.isNull_of_isTruthy hcounts
    obtain ⟨text, htext, hparam⟩ := Descriptor.exists_storedString? htype hnull hcast
    obtain ⟨validators, hoptions, hchecked⟩ := h.optionValidators_passed hfind (hpassed hnone)
    have hlist : field.Enumerates value :=
      Descriptor.enumerates_of_passed hoptions hchecked hnull
    have hpattern : ∀ given, value = .str given → field.Matches given := by
      rintro given rfl
      exact Descriptor.matches_of_passed hoptions hchecked
    refine ⟨text, htext, hparam, hlist, hpattern text, fun hsame => ⟨hsame ▸ hlist, ?_⟩⟩
    exact hpattern _ (hsame.symm.trans hparam)

/-- A text is compared before it is put in lower case, and a truth value is written as a text
without being matched: what is stored then is neither listed nor does it match. -/
theorem styled_texts_unchecked :
    let schema := Schema.reached {} [.define "code" (.obj [("type", .str "string"),
      ("enum", .arr [.str "A", .bool true]), ("match", .str "^[A-Z]$"), ("lowercase", .bool true)])]
    ∃ field, schema.find? "code" = some field ∧ field.type = .string ∧
      (∃ statement, schema.insert "parts" (.obj [("code", .str "A")]) [] = .ok statement ∧
        statement.query = "INSERT INTO parts (code) VALUES (?)" ∧
        statement.params = [.str "a"] ∧ statement.failure? "code" = none ∧
        ¬field.Enumerates (.str "a") ∧ ¬field.Matches "a") ∧
      (∃ statement, schema.insert "parts" (.obj [("code", .bool true)]) [] = .ok statement ∧
        statement.query = "INSERT INTO parts (code) VALUES (?)" ∧
        statement.params = [.str "true"] ∧ statement.failure? "code" = none ∧
        ¬field.Enumerates (.str "true") ∧ ¬field.Matches "true") := by
  have hruns : (fun schema : Schema =>
      ((schema.find? "code").map (fun field => (field.type == .string,
        Entries.get? field.options "enum", Entries.get? field.options "match")),
      schema.insert "parts" (.obj [("code", .str "A")]) [],
      schema.insert "parts" (.obj [("code", .bool true)]) [])) (Schema.reached {}
        [.define "code" (.obj [("type", .str "string"), ("enum", .arr [.str "A", .bool true]),
          ("match", .str "^[A-Z]$"), ("lowercase", .bool true)])])
      = (some (true, some (.arr [.str "A", .bool true]), some (.str "^[A-Z]$")),
        .ok ⟨"INSERT INTO parts (code) VALUES (?)", [.str "a"], none⟩,
        .ok ⟨"INSERT INTO parts (code) VALUES (?)", [.str "true"], none⟩) := by
    cbv
  have hpattern : (Pattern.ofText "^[A-Z]$").toOption.map (fun pattern =>
      (pattern.occursIn "a", pattern.occursIn "true")) = some (false, false) := by
    cbv
  simp only [Prod.mk.injEq, Option.map_eq_some_iff] at hruns hpattern
  obtain ⟨⟨field, hfind, htype, henum, hmatch⟩, htext, htruth⟩ := hruns
  obtain ⟨pattern, hread, hlower, hword⟩ := hpattern
  have hunlisted : ∀ text, text ≠ "A" → ¬field.Enumerates (.str text) := by
    intro text hne hlisted
    obtain ⟨allowed, hallowed, hmem⟩ := hlisted _ henum
    cases hallowed
    simp [Json.same, hne.symm] at hmem
  have hunmatched : ∀ text, pattern.occursIn text = false → ¬field.Matches text := by
    intro text hfalse hmatches
    obtain ⟨source, found, hsource, hfound, hoccurs⟩ := hmatches _ hmatch
    cases hsource
    rw [hfound] at hread
    cases hread
    cases hfalse.symm.trans hoccurs
  exact ⟨field, hfind, eq_of_beq htype,
    ⟨_, htext, rfl, rfl, rfl, hunlisted "a" (by decide), hunmatched "a" hlower⟩,
    ⟨_, htruth, rfl, rfl, rfl, hunlisted "true" (by decide), hunmatched "true" hword⟩⟩

end RecordSchema
