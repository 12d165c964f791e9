import Mathlib.Data.List.Forall2
import RecordSchema.Proofs.Consistency

/-!
# The loop of an INSERT

Compiling an INSERT goes over the leaves of the tree once. Each leaf on its own decides what it
binds and what it reports, so the columns, the parameters and the failures come out as lists over
the leaves, aligned with each other.

## Main definitions

* `Schema.offeredAt?`: the field and the value that a path offers.
* `Schema.boundAt?`: the column and the parameter that a path binds.
* `Schema.failureAt?`: the failure that a path reports.
* `Schema.Covers`: whether a draft has taken up some paths.
* `InsertRefusal`: why a record is refused as a whole.

## Main statements

* `Schema.Covers.draftField`, `Schema.Covers.foldl`: one turn of the loop, and the loop.
* `Schema.insert_eq_error`: a cause of refusal comes out as its error.
* `Schema.Tracks.insert_cases`, `Schema.Tracks.insert_parts`: what is compiled otherwise.
-/

namespace RecordSchema

open RecordSchema.Path

/-! ## What one path contributes -/

namespace Schema

variable (schema : Schema) (record : Json) (listed : List String)

/-- The field at a path with its value, where the path is listed and the value counts. -/
def offeredAt? (path : String) : Option (Descriptor × Json) := do
  let field ← schema.find? path
  let value ← (record.valueAt? path).filter Json.isTruthy
  if isListed listed path then some (field, value) else none

/-- The column and the parameter that a path binds. -/
def boundAt? (path : String) : Option (String × Json) := do
  let (field, value) ← schema.offeredAt? record listed path
  (field.cast value).toOption.map fun param => (field.column, param)

/-- The failure of a value that is offered and has no stored form. -/
def castFailureAt? (path : String) : Option Failure := do
  let (field, value) ← schema.offeredAt? record listed path
  match field.cast value with
  | .ok _ => none
  | .error e => some ⟨path, e.message, .cast, value⟩

/-- The failure that a path reports: that of its checks, or else that of its cast. -/
def failureAt? (path : String) : Option Failure :=
  ((schema.find? path).bind fun field => field.check ((record.valueAt? path).getD .null) record).or
    (schema.castFailureAt? record listed path)

end Schema

/-- Failures as a report, which is not begun before the first one. -/
def reported (failures : List Failure) : Option (List Failure) :=
  if failures = [] then none else some failures

theorem reported_eq_none_iff {failures : List Failure} :
    reported failures = none ↔ failures = [] := by
  unfold reported
  split
  · rename_i hnil
    exact iff_of_true rfl hnil
  · rename_i hne
    exact iff_of_false (by simp) hne

namespace Draft

variable {draft : Draft} {failures : List Failure} {failure : Failure}

theorem failures_getD (h : draft.failures.map FailureReport.failures = reported failures) :
    (draft.failures.getD {}).failures = failures := by
  unfold reported at h
  cases hdraft : draft.failures with
  | none =>
    rw [hdraft] at h
    split at h
    · rename_i hnil
      exact hnil.symm
    · cases h
  | some report =>
    rw [hdraft] at h
    split at h
    · cases h
    · exact Option.some.inj h

theorem report_new (h : draft.failures.map FailureReport.failures = reported failures)
    (hnew : failure.path ∉ failures.map Failure.path) :
    (draft.report failure).failures.map FailureReport.failures
      = reported (failures ++ [failure]) := by
  have hpaths : failure.path ∉ (draft.failures.getD {}).paths := by
    rwa [FailureReport.paths, failures_getD h]
  rw [report, Option.map_some, FailureReport.failures_insert_of_not_mem hpaths, failures_getD h,
    reported, if_neg (by simp)]

/-- A path that has failed already keeps its failure. -/
theorem report_known (h : draft.failures.map FailureReport.failures = reported failures)
    (hknown : failure.path ∈ failures.map Failure.path) :
    (draft.report failure).failures.map FailureReport.failures = reported failures := by
  have hpaths : failure.path ∈ (draft.failures.getD {}).paths := by
    rwa [FailureReport.paths, failures_getD h]
  have hne : failures ≠ [] := by
    rintro rfl
    exact absurd hknown List.not_mem_nil
  rw [report, Option.map_some, FailureReport.failures_insert_of_mem hpaths, failures_getD h,
    reported, if_neg hne]

end Draft

/-! ## The loop -/

namespace Schema

variable {schema : Schema} {record : Json} {listed : List String}

/-- A failure is reported under its own path. -/
theorem path_of_check {field : Descriptor} {value : Json} {failure : Failure}
    (h : field.check value record = some failure) : failure.path = field.path := by
  obtain ⟨validator, _, hrun⟩ := List.exists_of_findSome?_eq_some h
  exact Validator.path_of_run hrun

theorem path_of_castFailureAt? {path : String} {failure : Failure}
    (h : schema.castFailureAt? record listed path = some failure) : failure.path = path := by
  obtain ⟨⟨field, value⟩, _, h⟩ := Option.bind_eq_some_iff.1 h
  simp only at h
  split at h
  · cases h
  · cases h
    rfl

theorem path_of_failureAt? {path : String} {failure : Failure}
    (hfields : ∀ field, schema.find? path = some field → field.path = path)
    (h : schema.failureAt? record listed path = some failure) : failure.path = path := by
  rcases Option.or_eq_some_iff.1 h with hcheck | ⟨_, hcast⟩
  · obtain ⟨field, hfind, hcheck⟩ := Option.bind_eq_some_iff.1 hcheck
    rw [path_of_check hcheck, hfields field hfind]
  · exact path_of_castFailureAt? hcast

/-- One turn of the loop, with the checks apart from what is offered. -/
theorem draftField_eq {draft : Draft} {path : String} {field : Descriptor}
    (hfind : schema.find? path = some field) : schema.draftField record listed draft path =
      match schema.offeredAt? record listed path with
      | none => draft.reportAny (field.check ((record.valueAt? path).getD .null) record)
      | some (field', value) =>
        match field'.cast value with
        | .ok param =>
          (draft.reportAny (field.check ((record.valueAt? path).getD .null) record)).bind
            field'.column param
        | .error e =>
          (draft.reportAny (field.check ((record.valueAt? path).getD .null) record)).report
            ⟨path, e.message, .cast, value⟩ := by
  unfold Schema.draftField
  rw [hfind]
  cases hvalue : (record.valueAt? path).filter Json.isTruthy with
  | none => simp [offeredAt?, hfind, hvalue]
  | some value =>
    cases hlisted : isListed listed path with
    | false => simp [offeredAt?, hfind, hvalue, hlisted]
    | true => cases hcast : field.cast value <;> simp [offeredAt?, hfind, hvalue, hlisted, hcast]

/-- Whether a draft holds what some paths contribute, and nothing else. -/
structure Covers (schema : Schema) (record : Json) (listed : List String) (draft : Draft)
    (paths : List String) : Prop where
  /-- The columns. -/
  columns_eq : draft.columns = (paths.filterMap (schema.boundAt? record listed)).map Prod.fst
  /-- The parameters. -/
  params_eq : draft.params = (paths.filterMap (schema.boundAt? record listed)).map Prod.snd
  /-- The failures. -/
  failures_eq : draft.failures.map FailureReport.failures
    = reported (paths.filterMap (schema.failureAt? record listed))

namespace Covers

theorem empty : Covers schema record listed {} [] :=
  ⟨rfl, rfl, rfl⟩

/-- A draft that has grown by what one more path contributes. -/
theorem grow {draft after : Draft} {paths : List String} {path : String}
    (h : Covers schema record listed draft paths)
    (hcolumns : after.columns
      = draft.columns ++ ((schema.boundAt? record listed path).map Prod.fst).toList)
    (hparams : after.params
      = draft.params ++ ((schema.boundAt? record listed path).map Prod.snd).toList)
    (hfailures : after.failures.map FailureReport.failures
      = reported (paths.filterMap (schema.failureAt? record listed)
        ++ (schema.failureAt? record listed path).toList)) :
    Covers schema record listed after (paths ++ [path]) := by
  refine ⟨?_, ?_, ?_⟩
  · rw [hcolumns, h.columns_eq, List.filterMap_append, List.map_append]
    cases hbound : schema.boundAt? record listed path <;> simp [hbound]
  · rw [hparams, h.params_eq, List.filterMap_append, List.map_append]
    cases hbound : schema.boundAt? record listed path <;> simp [hbound]
  · rw [hfailures, List.filterMap_append]
    cases hfailure : schema.failureAt? record listed path <;> simp [hfailure]

/-- The draft after the checks of one field. -/
theorem failures_checked {draft : Draft} {paths : List String} {field : Descriptor}
    (h : Covers schema record listed draft paths) (value : Json)
    (hnew : field.path ∉ (paths.filterMap (schema.failureAt? record listed)).map Failure.path) :
    (draft.reportAny (field.check value record)).failures.map FailureReport.failures
      = reported (paths.filterMap (schema.failureAt? record listed)
        ++ (field.check value record).toList) := by
  cases hcheck : field.check value record with
  | none => rw [Draft.reportAny, Option.toList_none, List.append_nil, h.failures_eq]
  | some failure =>
    refine Draft.report_new h.failures_eq ?_
    rwa [path_of_check hcheck]

/-- One turn of the loop. -/
theorem draftField {draft : Draft} {paths : List String} {path : String} {field : Descriptor}
    (h : Covers schema record listed draft paths) (hfind : schema.find? path = some field)
    (hpath : field.path = path)
    (hnew : path ∉ (paths.filterMap (schema.failureAt? record listed)).map Failure.path) :
    Covers schema record listed (schema.draftField record listed draft path) (paths ++ [path]) := by
  have hfailures := h.failures_checked ((record.valueAt? path).getD .null) (hpath ▸ hnew)
  rw [draftField_eq hfind]
  generalize hcheck : field.check ((record.valueAt? path).getD .null) record = check at hfailures ⊢
  have hcolumns : (draft.reportAny check).columns = draft.columns := by cases check <;> rfl
  have hparams : (draft.reportAny check).params = draft.params := by cases check <;> rfl
  cases hoffered : schema.offeredAt? record listed path with
  | none =>
    refine h.grow ?_ ?_ ?_
    · simp [boundAt?, hoffered, hcolumns]
    · simp [boundAt?, hoffered, hparams]
    · simp [failureAt?, castFailureAt?, hfind, hoffered, hcheck, hfailures]
  | some offer =>
    obtain ⟨field', value⟩ := offer
    cases hcast : field'.cast value with
    | ok param =>
      simp only [hcast]
      refine h.grow ?_ ?_ ?_
      · simp [boundAt?, hoffered, hcast, Except.toOption, Draft.bind, hcolumns]
      · simp [boundAt?, hoffered, hcast, Except.toOption, Draft.bind, hparams]
      · simp [failureAt?, castFailureAt?, hfind, hoffered, hcast, Draft.bind, hcheck, hfailures]
    | error e =>
      simp only [hcast]
      refine h.grow ?_ ?_ ?_
      · simp [boundAt?, hoffered, hcast, Except.toOption, Draft.report, hcolumns]
      · simp [boundAt?, hoffered, hcast, Except.toOption, Draft.report, hparams]
      · have hat : schema.failureAt? record listed path
            = check.or (some ⟨path, e.message, .cast, value⟩) := by
          simp [failureAt?, castFailureAt?, hfind, hoffered, hcast, hcheck]
        rw [hat]
        -- a failed check has reported the path already
        cases check with
        | none =>
          rw [Option.toList_none, List.append_nil] at hfailures
          refine Draft.report_new hfailures ?_
          exact hnew
        | some failure =>
          refine Draft.report_known hfailures ?_
          simp [path_of_check hcheck, hpath]

/-- The loop over paths that are described and come up once. -/
theorem foldl {paths : List String}
    (hfields : ∀ path field, schema.find? path = some field → field.path = path) :
    ∀ {draft : Draft} {done : List String}, Covers schema record listed draft done →
      (done ++ paths).Nodup → (∀ path ∈ paths, ∃ field, schema.find? path = some field) →
      Covers schema record listed (paths.foldl (schema.draftField record listed) draft)
        (done ++ paths) := by
  induction paths with
  | nil =>
    intro draft done h _ _
    rwa [List.append_nil]
  | cons path rest ih =>
    intro draft done h hnodup hfound
    obtain ⟨field, hfind⟩ := hfound path List.mem_cons_self
    have hnew : path ∉ (done.filterMap (schema.failureAt? record listed)).map Failure.path := by
      intro hmem
      obtain ⟨failure, hfailure, heq⟩ := List.mem_map.1 hmem
      obtain ⟨other, hother, hat⟩ := List.mem_filterMap.1 hfailure
      have hsame : other = path := (path_of_failureAt? (hfields other) hat).symm.trans heq
      exact (List.nodup_append.1 hnodup).2.2 other hother path List.mem_cons_self hsame
    rw [List.foldl_cons, List.append_cons]
    exact ih (h.draftField hfind (hfields path field hfind) hnew) (by rwa [← List.append_cons])
      fun other hother => hfound other (.tail _ hother)

end Covers

end Schema

/-! ## Refusals -/

/-- Why an INSERT is refused as a whole. -/
inductive InsertRefusal (schema : Schema) (record : Json) (listed : List String) :
    SchemaError → Prop
  /-- The record is neither an object nor null. -/
  | no_object (hnull : record ≠ .null) (hobject : ∀ fields, record ≠ .obj fields) :
      InsertRefusal schema record listed
        (.invalidInput ("record must be a JSON object, got " ++ record.compact))
  /-- A listed field is neither declared nor a parent of fields, and it is the first one. -/
  | unknown_field {known rest : List String} {field : String}
      (hrecord : record = .null ∨ ∃ fields, record = .obj fields)
      (hlisted : listed = known ++ field :: rest)
      (hknown : ∀ entry ∈ known, entry ∈ schema.paths ∨ entry ∈ schema.nested)
      (hpath : field ∉ schema.paths) (hnested : field ∉ schema.nested) :
      InsertRefusal schema record listed (.unknownField field)

/-- An argument is taken when it is an object or null. -/
theorem argumentFields_cases (argument : Json) (what : String) :
    ((argument = .null ∨ ∃ fields, argument = .obj fields) ∧
      ∃ fields, argumentFields argument what = .ok fields) ∨
    (argument ≠ .null ∧ (∀ fields, argument ≠ .obj fields) ∧ argumentFields argument what
      = .error (.invalidInput (what ++ " must be a JSON object, got " ++ argument.compact))) := by
  cases argument with
  | null => exact .inl ⟨.inl rfl, _, rfl⟩
  | obj fields => exact .inl ⟨.inr ⟨fields, rfl⟩, _, rfl⟩
  | bool | num | str | arr => exact .inr ⟨by simp, by simp, rfl⟩

theorem argumentFields_of_refused {argument : Json} {what : String} (hnull : argument ≠ .null)
    (hobject : ∀ fields, argument ≠ .obj fields) : argumentFields argument what
      = .error (.invalidInput (what ++ " must be a JSON object, got " ++ argument.compact)) := by
  rcases argumentFields_cases argument what with ⟨htaken, _⟩ | ⟨_, _, hrefused⟩
  · rcases htaken with hargument | ⟨fields, hargument⟩
    · exact absurd hargument hnull
    · exact absurd hargument (hobject fields)
  · exact hrefused

theorem argumentFields_of_taken {argument : Json} (what : String)
    (h : argument = .null ∨ ∃ fields, argument = .obj fields) :
    ∃ fields, argumentFields argument what = .ok fields := by
  rcases h with rfl | ⟨fields, rfl⟩
  · exact ⟨[], rfl⟩
  · exact ⟨fields, rfl⟩

namespace Schema

variable {schema : Schema} {record : Json} {listed : List String} {e : SchemaError}

theorem declares_iff {path : String} : schema.declares path = true ↔ path ∈ schema.paths :=
  Entries.has_iff_mem_keys schema.fields path

/-- Which fields may be listed depends on the declared paths and the parents only. -/
theorem checkListed_congr {other : Schema} (hpaths : schema.paths = other.paths)
    (hnested : schema.nested = other.nested) (listed : List String) :
    schema.checkListed listed = other.checkListed listed := by
  have hdeclares : ∀ path, schema.declares path = other.declares path := fun path => by
    rw [Bool.eq_iff_iff, declares_iff, declares_iff, hpaths]
  induction listed with
  | nil => rfl
  | cons path rest ih => rw [checkListed, checkListed, hdeclares, hnested, ih]

theorem checkListed_of_unknown {known rest : List String} {field : String}
    (hknown : ∀ entry ∈ known, entry ∈ schema.paths ∨ entry ∈ schema.nested)
    (hpath : field ∉ schema.paths) (hnested : field ∉ schema.nested) :
    schema.checkListed (known ++ field :: rest) = .error (.unknownField field) := by
  induction known with
  | nil =>
    rw [List.nil_append, checkListed, if_neg]
    simp [declares_iff, hpath, hnested]
  | cons entry known ih =>
    obtain ⟨hentry, hknown⟩ := List.forall_mem_cons.1 hknown
    rw [List.cons_append, checkListed, if_pos (by simpa [declares_iff] using hentry), ih hknown]

/-- The first entry that is not known decides the error. -/
theorem checkListed_cases (schema : Schema) (listed : List String) :
    (schema.checkListed listed = .ok () ∧
      ∀ entry ∈ listed, entry ∈ schema.paths ∨ entry ∈ schema.nested) ∨
    ∃ known field rest, listed = known ++ field :: rest ∧
      (∀ entry ∈ known, entry ∈ schema.paths ∨ entry ∈ schema.nested) ∧
      field ∉ schema.paths ∧ field ∉ schema.nested := by
  induction listed with
  | nil => exact .inl ⟨rfl, fun entry h => absurd h List.not_mem_nil⟩
  | cons field rest ih =>
    by_cases hfield : field ∈ schema.paths ∨ field ∈ schema.nested
    · rcases ih with ⟨hok, hall⟩ | ⟨known, other, back, rfl, hknown, hunknown⟩
      · rw [checkListed, if_pos (by simpa [declares_iff] using hfield)]
        exact .inl ⟨hok, List.forall_mem_cons.2 ⟨hfield, hall⟩⟩
      · exact .inr ⟨field :: known, other, back, rfl, List.forall_mem_cons.2 ⟨hfield, hknown⟩,
          hunknown⟩
    · exact .inr ⟨[], field, rest, rfl, fun entry h => absurd h List.not_mem_nil,
        not_or.1 hfield⟩

/-- A cause of refusal comes out as its error. -/
theorem insert_eq_error (h : InsertRefusal schema record listed e) (table : String) :
    schema.insert table record listed = .error e := by
  unfold insert
  cases h with
  | no_object hnull hobject =>
    rw [argumentFields_of_refused hnull hobject]
    rfl
  | unknown_field hrecord hlisted hknown hpath hnested =>
    obtain ⟨fields, hfields⟩ := argumentFields_of_taken "record" hrecord
    rw [hfields, hlisted, checkListed_of_unknown hknown hpath hnested]
    rfl

/-- The text of an INSERT. -/
def insertText (table : String) (columns : List String) : String :=
  "INSERT INTO " ++ table ++ " (" ++ ", ".intercalate columns ++ ") VALUES ("
    ++ ", ".intercalate (List.replicate columns.length "?") ++ ")"

/-- An INSERT is refused by a cause, or it is compiled from what the leaves contribute. -/
theorem Tracks.insert_cases {options : SchemaOptions} {log : List Change}
    (h : schema.Tracks options log) (table : String) (record : Json) (listed : List String) :
    (∃ e, InsertRefusal schema record listed e ∧ schema.insert table record listed = .error e) ∨
    ((record = .null ∨ ∃ fields, record = .obj fields) ∧
      (∀ entry ∈ listed, entry ∈ schema.paths ∨ entry ∈ schema.nested) ∧
      ∃ statement, schema.insert table record listed = .ok statement ∧
        statement.query = insertText table
          ((schema.leafPaths.filterMap (schema.boundAt? record listed)).map Prod.fst) ∧
        statement.params
          = (schema.leafPaths.filterMap (schema.boundAt? record listed)).map Prod.snd ∧
        statement.failures.map FailureReport.failures
          = reported (schema.leafPaths.filterMap (schema.failureAt? record listed))) := by
  rcases argumentFields_cases record "record" with
    ⟨hrecord, fields, hfields⟩ | ⟨hnull, hobject, _⟩
  · rcases schema.checkListed_cases listed with
      ⟨hok, hall⟩ | ⟨known, field, rest, hlisted, hknown, hpath, hnested⟩
    · unfold insert
      rw [hfields, hok]
      have hloop : schema.Covers record listed _ ([] ++ schema.leafPaths) :=
        Covers.foldl (fun _ _ => h.path_eq) Covers.empty h.nodup_leafPaths
          fun path hpath => h.exists_find? (h.mem_leafPaths_iff.1 hpath)
      rw [List.nil_append] at hloop
      refine .inr ⟨hrecord, hall, _, rfl, ?_, hloop.params_eq, hloop.failures_eq⟩
      exact congrArg (insertText table) hloop.columns_eq
    · have hrefusal := InsertRefusal.unknown_field hrecord hlisted hknown hpath hnested
      exact .inl ⟨_, hrefusal, insert_eq_error hrefusal table⟩
  · have hrefusal : InsertRefusal schema record listed _ := .no_object hnull hobject
    exact .inl ⟨_, hrefusal, insert_eq_error hrefusal table⟩

/-- The text, the parameters and the failures of an INSERT are what the leaves contribute. -/
theorem Tracks.insert_parts {options : SchemaOptions} {log : List Change}
    (h : schema.Tracks options log) {table : String} {record : Json} {listed : List String}
    {statement : Statement} (hinsert : schema.insert table record listed = .ok statement) :
    statement.query = insertText table
      ((schema.leafPaths.filterMap (schema.boundAt? record listed)).map Prod.fst) ∧
    statement.params = (schema.leafPaths.filterMap (schema.boundAt? record listed)).map Prod.snd ∧
    statement.failures.map FailureReport.failures
      = reported (schema.leafPaths.filterMap (schema.failureAt? record listed)) := by
  rcases h.insert_cases table record listed with
    ⟨e, _, herror⟩ | ⟨_, _, compiled, hcompiled, hparts⟩
  · cases hinsert.symm.trans herror
  · cases hinsert.symm.trans hcompiled
    exact hparts

end Schema

end RecordSchema
