import Mathlib
import RecordSchema.Proofs.OptionChecks
import RecordSchema.Proofs.SelectStatement

/-!
# Lists of fields

A list of fields only restricts what an INSERT binds and what a SELECT projects: each path decides
on its own what it contributes, and a path that is not covered contributes nothing but the failures
of its checks. So the statement under a list is the one under the empty list without what belongs to
paths that are not covered. Of a list nothing else matters than which declared paths it covers.

## Main definitions

* `Schema.Accepts`: whether all entries of a list are known.
* `Statement.Inserts`: the INSERT with these columns, parameters and failures.
* `columnText`: the column list of a SELECT.
* `Schema.Restricts`: whether a list leads to the statements of the empty list without what belongs
  to paths that are not covered.
* `Schema.SameStatements`: whether two lists lead to the same statements.

## Main statements

* `Schema.boundAt?_eq_ite`, `Schema.projectedAt?_eq_ite`, `Schema.Tracks.failureAt?_eq_filter`: what
  one path contributes under a list.
* `Schema.Tracks.restricts`: an accepted list only restricts.
* `Schema.Tracks.sameStatements`: lists that cover the same declared paths.
* `lists_only_restrict`: all this after any run of edits.
-/

namespace RecordSchema

open RecordSchema.Path

/-! ## Images beside their origins -/

section

variable {α β : Type}

/-- The images of a list under a partial map, each beside its origin. -/
def labelled (f : α → Option β) (l : List α) : List (α × β) :=
  l.filterMap fun a => (f a).map (a, ·)

theorem map_snd_labelled (f : α → Option β) (l : List α) :
    (labelled f l).map Prod.snd = l.filterMap f := by
  rw [labelled, List.map_filterMap]
  refine List.filterMap_congr fun a _ => ?_
  cases f a <;> rfl

theorem mem_labelled_iff {f : α → Option β} {l : List α} {a : α} {b : β} :
    (a, b) ∈ labelled f l ↔ a ∈ l ∧ f a = some b := by
  simp only [labelled, List.mem_filterMap, Option.map_eq_some_iff, Prod.mk.injEq]
  constructor
  · rintro ⟨_, hmem, _, himage, rfl, rfl⟩
    exact ⟨hmem, himage⟩
  · rintro ⟨hmem, himage⟩
    exact ⟨a, hmem, b, himage, rfl, rfl⟩

theorem map_fst_labelled_sublist (f : α → Option β) (l : List α) :
    ((labelled f l).map Prod.fst).Sublist l := by
  induction l with
  | nil => exact .slnil
  | cons a rest ih =>
    cases himage : f a with
    | none =>
      rw [labelled, List.filterMap_cons_none (by rw [himage]; rfl)]
      exact ih.cons a
    | some b =>
      rw [labelled, List.filterMap_cons_some (by rw [himage]; rfl)]
      exact ih.cons_cons a

/-- A map restricted to some origins has the images of these. -/
theorem labelled_restrict {f g : α → Option β} {p : α → Prop} [DecidablePred p]
    (h : ∀ a, g a = if p a then f a else none) (l : List α) :
    labelled g l = (labelled f l).filter fun pair => p pair.1 := by
  rw [labelled, labelled, List.filter_filterMap]
  refine List.filterMap_congr fun a _ => ?_
  rw [h]
  by_cases hp : p a <;> cases f a <;> simp [hp, Option.filter_some]

end

/-! ## What one path contributes -/

instance (listed : List String) : DecidablePred (Covered listed) :=
  fun _ => decidable_of_iff _ isListed_iff

theorem covered_nil (path : String) : Covered [] path :=
  .inl rfl

namespace Schema

variable (schema : Schema) (record : Json) (listed : List String) (path : String)

theorem offeredAt?_eq_ite : schema.offeredAt? record listed path
    = if Covered listed path then schema.offeredAt? record [] path else none := by
  have hall : isListed [] path = true := rfl
  simp only [offeredAt?, ← isListed_iff, hall, if_true]
  cases isListed listed path with
  | true => rfl
  | false => cases schema.find? path <;> simp

theorem boundAt?_eq_ite : schema.boundAt? record listed path
    = if Covered listed path then schema.boundAt? record [] path else none := by
  rw [boundAt?, boundAt?, offeredAt?_eq_ite]
  split <;> rfl

theorem castFailureAt?_eq_ite : schema.castFailureAt? record listed path
    = if Covered listed path then schema.castFailureAt? record [] path else none := by
  rw [castFailureAt?, castFailureAt?, offeredAt?_eq_ite]
  split <;> rfl

theorem projectedAt?_eq_ite : schema.projectedAt? listed path
    = if Covered listed path then schema.projectedAt? [] path else none := by
  have hall : isListed [] path = true := rfl
  simp only [projectedAt?, ← isListed_iff, hall, Bool.true_and]
  cases isListed listed path with
  | true => rfl
  | false => cases schema.find? path <;> simp

end Schema

theorem Validator.kind_of_run {validator : Validator} {path : String} {value record : Json}
    {failure : Failure} (h : validator.run path value record = some failure) :
    failure.kind = validator.kind := by
  unfold run at h
  split at h <;> cases h <;> rfl

theorem Attachment.kind_of_validator? {attachment : Attachment} {validator : Validator}
    (h : attachment.validator? = some validator) : validator.kind = .userDefined := by
  cases attachment with
  | validate | validateWith =>
    cases h
    rfl
  | setDefault | defaultWith => cases h

namespace Schema.Tracks

variable {schema : Schema} {options : SchemaOptions} {log : List Change} {record : Json}
  {listed : List String} {path : String}

/-- No check of a field reports failures of the kind that a value without a stored form has. -/
theorem kind_ne_cast (h : schema.Tracks options log) {field : Descriptor}
    (hfind : schema.find? path = some field) {validator : Validator}
    (hmem : validator ∈ field.validators) : validator.kind ≠ .cast := by
  obtain ⟨validators, hoptions, hall⟩ := h.exists_optionValidators hfind
  rw [hall, List.mem_append] at hmem
  rcases hmem with hoption | hattached
  · exact (optionCheck_of_mem hoptions hoption).kind_ne_cast
  · obtain ⟨attachment, _, hcheck⟩ := List.mem_filterMap.1 hattached
    rw [Attachment.kind_of_validator? hcheck]
    exact ValidatorKind.noConfusion

/-- Under a list, a path keeps its failure unless that is one of a cast and the path is not
covered. -/
theorem failureAt?_eq_filter (h : schema.Tracks options log) (record : Json) (listed : List String)
    (path : String) : schema.failureAt? record listed path
      = (schema.failureAt? record [] path).filter fun failure =>
        failure.kind ≠ .cast ∨ Covered listed failure.path := by
  rw [failureAt?, failureAt?, castFailureAt?_eq_ite]
  cases hcheck : (schema.find? path).bind fun field =>
      field.check ((record.valueAt? path).getD .null) record with
  | some failure =>
    obtain ⟨field, hfind, hfails⟩ := Option.bind_eq_some_iff.1 hcheck
    obtain ⟨validator, hmem, hrun⟩ := List.exists_of_findSome?_eq_some hfails
    have hkind : failure.kind ≠ .cast :=
      Validator.kind_of_run hrun ▸ h.kind_ne_cast hfind hmem
    simp [hkind, Option.filter_some]
  | none =>
    rw [Option.none_or, Option.none_or]
    cases hcast : schema.castFailureAt? record [] path with
    | none => simp
    | some failure =>
      obtain ⟨_, _, _, _, _, _, _, _, rfl⟩ := castFailureAt?_eq_some_iff.1 hcast
      by_cases hcovered : Covered listed path <;> simp [hcovered, Option.filter_some]

end Schema.Tracks

/-! ## Whole statements -/

/-- Whether all entries of a list of fields are known: declared paths, or parents of such. -/
def Schema.Accepts (schema : Schema) (listed : List String) : Prop :=
  ∀ entry ∈ listed, entry ∈ schema.paths ∨ entry ∈ schema.nested

/-- Whether a statement is the INSERT with these columns and parameters, which stand beside their
paths, and these failures. -/
structure Statement.Inserts (statement : Statement) (table : String)
    (bound : List (String × String × Json)) (failures : List Failure) : Prop where
  /-- There are as many placeholders as columns. -/
  query_eq : statement.query = Schema.insertText table (bound.map fun entry => entry.2.1)
  /-- The parameters are in the order of the columns. -/
  params_eq : statement.params = bound.map fun entry => entry.2.2
  /-- No report is begun without a failure. -/
  failures_eq : statement.failures.map FailureReport.failures = reported failures

/-- Columns as the column list of a SELECT: a star where there are none. -/
def columnText (columns : List String) : String :=
  if columns = [] then "*" else ", ".intercalate columns

/-- The column list of a SELECT under an accepted list, out of what its paths contribute. -/
theorem Schema.columnList_of_accepts {schema : Schema} {listed : List String}
    (haccepted : schema.Accepts listed) : schema.columnList listed = .ok (columnText
      ((labelled (schema.projectedAt? listed) schema.leafPaths).map Prod.snd)) := by
  rw [columnList, checkListed_of_known haccepted, map_snd_labelled, ← selectedColumns_eq]
  simp only [bind, Except.bind, pure, Except.pure, columnText, List.isEmpty_iff]

/-- Whether the statements under a list of fields are those under the empty list without what
belongs to paths that are not covered. -/
structure Schema.Restricts (schema : Schema) (listed : List String) : Prop where
  /-- An INSERT loses the columns, the parameters and the failed casts of these paths, unless it is
  refused under both lists. -/
  insert : ∀ table record,
    (∃ e, schema.insert table record [] = .error e ∧
      schema.insert table record listed = .error e) ∨
    ∃ whole restricted bound failures, schema.insert table record [] = .ok whole ∧
      schema.insert table record listed = .ok restricted ∧
      whole.Inserts table bound failures ∧
      restricted.Inserts table (bound.filter fun entry => Covered listed entry.1)
        (failures.filter fun failure => failure.kind ≠ .cast ∨ Covered listed failure.path) ∧
      (bound.map Prod.fst).Sublist schema.leafPaths ∧
      ∀ path column param, (path, column, param) ∈ bound ↔
        (∃ field, schema.find? path = some field ∧ field.column = column) ∧
          schema.Stores record path param
  /-- A SELECT loses the columns of these paths. -/
  columnList : ∃ projected : List (String × String),
    schema.columnList [] = .ok (columnText (projected.map Prod.snd)) ∧
    schema.columnList listed = .ok (columnText
      ((projected.filter fun entry => Covered listed entry.1).map Prod.snd)) ∧
    (projected.map Prod.fst).Sublist schema.leafPaths ∧
    ∀ path column, (path, column) ∈ projected ↔ ∃ field, schema.find? path = some field ∧
      ¬field.HoldsIdentifiers ∧ field.column = column

namespace Schema.Tracks

variable {schema : Schema} {options : SchemaOptions} {log : List Change} {listed : List String}

/-- What an INSERT under an accepted list binds and reports, out of what its paths contribute. -/
theorem insert_contributed (h : schema.Tracks options log) (haccepted : schema.Accepts listed)
    (table : String) {record : Json} (hrecord : record = .null ∨ ∃ fields, record = .obj fields) :
    ∃ statement, schema.insert table record listed = .ok statement ∧
      statement.Inserts table (labelled (schema.boundAt? record listed) schema.leafPaths)
        (schema.leafPaths.filterMap (schema.failureAt? record listed)) := by
  rcases h.insert_cases table record listed with
    ⟨e, hrefusal, _⟩ | ⟨_, _, statement, hinsert, hquery, hparams, hfailures⟩
  · cases hrefusal with
    | no_object hnull hobject =>
      rcases hrecord with rfl | ⟨fields, rfl⟩
      · exact absurd rfl hnull
      · exact absurd rfl (hobject fields)
    | unknown_field _ hlisted _ hpath hnested =>
      rcases haccepted _ (hlisted ▸ List.mem_append_right _ List.mem_cons_self) with
        hknown | hknown
      · exact absurd hknown hpath
      · exact absurd hknown hnested
  · rw [← map_snd_labelled, List.map_map] at hquery hparams
    exact ⟨statement, hinsert, hquery, hparams, hfailures⟩

/-- The failures under a list are those under the empty list without the failed casts of paths that
are not covered. -/
theorem filterMap_failureAt?_eq_filter (h : schema.Tracks options log) (record : Json)
    (listed paths : List String) : paths.filterMap (schema.failureAt? record listed)
      = (paths.filterMap (schema.failureAt? record [])).filter fun failure =>
        failure.kind ≠ .cast ∨ Covered listed failure.path := by
  rw [List.filter_filterMap]
  exact List.filterMap_congr fun path _ => h.failureAt?_eq_filter record listed path

/-- An accepted list only restricts. -/
theorem restricts (h : schema.Tracks options log) (haccepted : schema.Accepts listed) :
    schema.Restricts listed := by
  have hnil : schema.Accepts [] := fun entry hmem => absurd hmem List.not_mem_nil
  refine ⟨fun table record => ?_, ?_⟩
  · by_cases hrecord : record = .null ∨ ∃ fields, record = .obj fields
    · obtain ⟨whole, hwhole, hall⟩ := h.insert_contributed hnil table hrecord
      obtain ⟨restricted, hrestricted, hpart⟩ := h.insert_contributed haccepted table hrecord
      rw [labelled_restrict (schema.boundAt?_eq_ite record listed),
        h.filterMap_failureAt?_eq_filter] at hpart
      refine .inr ⟨whole, restricted, _, _, hwhole, hrestricted, hall, hpart,
        map_fst_labelled_sublist _ _, fun path column param => ?_⟩
      rw [mem_labelled_iff, boundAt?_eq_some_iff]
      constructor
      · rintro ⟨_, _, hcontributed⟩
        exact hcontributed
      · rintro ⟨⟨field, hfind, hcolumn⟩, hstores⟩
        exact ⟨h.mem_leafPaths_of_find? hfind, covered_nil path,
          ⟨field, hfind, hcolumn⟩, hstores⟩
    · obtain ⟨hnull, hobject⟩ := not_or.1 hrecord
      have hrefusal : ∀ listed, InsertRefusal schema record listed _ :=
        fun _ => .no_object hnull (not_exists.1 hobject)
      exact .inl ⟨_, insert_eq_error (hrefusal _) table, insert_eq_error (hrefusal _) table⟩
  · refine ⟨_, columnList_of_accepts hnil, ?_, map_fst_labelled_sublist _ _,
      fun path column => ?_⟩
    · rw [columnList_of_accepts haccepted, labelled_restrict (schema.projectedAt?_eq_ite listed)]
    · rw [mem_labelled_iff, h.projectedAt?_eq_some_iff]
      constructor
      · rintro ⟨_, field, hfind, _, hholds, hcolumn⟩
        exact ⟨field, hfind, hholds, hcolumn⟩
      · rintro ⟨field, hfind, hholds, hcolumn⟩
        exact ⟨h.mem_leafPaths_of_find? hfind, field, hfind,
          covered_nil path, hholds, hcolumn⟩

end Schema.Tracks

/-! ## Lists that cover the same paths -/

/-- Whether two lists of fields lead to the same statements. -/
structure Schema.SameStatements (schema : Schema) (listed listed' : List String) : Prop where
  insert_eq : ∀ table record,
    schema.insert table record listed = schema.insert table record listed'
  columnList_eq : schema.columnList listed = schema.columnList listed'
  select_eq : ∀ settings table criteria limit,
    schema.select settings table criteria listed limit
      = schema.select settings table criteria listed' limit

theorem Schema.draftField_congr {schema : Schema} {listed listed' : List String} {path : String}
    (h : isListed listed path = isListed listed' path) (record : Json) (draft : Draft) :
    schema.draftField record listed draft path = schema.draftField record listed' draft path := by
  rw [draftField, draftField, h]

namespace Schema.Tracks

variable {schema : Schema} {options : SchemaOptions} {log : List Change}
  {listed listed' : List String}

/-- Accepted lists that cover the same declared paths lead to the same statements. -/
theorem sameStatements (h : schema.Tracks options log) (haccepted : schema.Accepts listed)
    (haccepted' : schema.Accepts listed')
    (hcovered : ∀ path ∈ schema.paths, Covered listed path ↔ Covered listed' path) :
    schema.SameStatements listed listed' := by
  have hlisted : ∀ path ∈ schema.leafPaths, isListed listed path = isListed listed' path := by
    intro path hpath
    rw [Bool.eq_iff_iff, isListed_iff, isListed_iff]
    exact hcovered path (h.mem_leafPaths_iff.1 hpath)
  have hcolumns : schema.columnList listed = schema.columnList listed' := by
    rw [columnList, columnList, checkListed_of_known haccepted, checkListed_of_known haccepted',
      selectedColumns, selectedColumns, List.filter_congr hlisted]
  refine ⟨fun table record => ?_, hcolumns, fun settings table criteria limit => ?_⟩
  · have hloop : schema.leafPaths.foldl (schema.draftField record listed) {}
        = schema.leafPaths.foldl (schema.draftField record listed') {} :=
      List.foldl_ext _ _ _ fun draft path hpath =>
        draftField_congr (hlisted path hpath) record draft
    rw [insert, insert, checkListed_of_known haccepted, checkListed_of_known haccepted', hloop]
  · rw [select, select, hcolumns]

/-- Order and repetitions do not matter. -/
theorem sameStatements_of_mem_iff (h : schema.Tracks options log)
    (haccepted : schema.Accepts listed) (hmem : ∀ entry, entry ∈ listed ↔ entry ∈ listed') :
    schema.SameStatements listed listed' := by
  have hnil : listed = [] ↔ listed' = [] := by
    simp only [List.eq_nil_iff_forall_not_mem, hmem]
  refine h.sameStatements haccepted (fun entry hentry => haccepted entry ((hmem entry).2 hentry))
    fun path _ => ?_
  simp only [Covered, hnil, hmem]

/-- An entry may be replaced by all declared paths below it, if there are any. -/
theorem sameStatements_of_below (h : schema.Tracks options log) {front back below : List String}
    {entry : String} (haccepted : schema.Accepts (front ++ entry :: back)) (hbelow : below ≠ [])
    (hall : ∀ path, path ∈ below ↔ path ∈ schema.paths ∧ IsAbove entry path) :
    schema.SameStatements (front ++ entry :: back) (front ++ below ++ back) := by
  obtain ⟨first, hfirst⟩ := List.exists_mem_of_ne_nil below hbelow
  -- with a declared path below it, the entry itself is none
  have hentry : entry ∉ schema.paths := fun hpath =>
    h.not_isAbove hpath ((hall first).1 hfirst).1 ((hall first).1 hfirst).2
  refine h.sameStatements haccepted ?_ fun path hpath => ?_
  · intro other hother
    simp only [List.mem_append] at hother
    rcases hother with (hfront | hinside) | hback
    · exact haccepted other (by simp [hfront])
    · exact .inl ((hall other).1 hinside).1
    · exact haccepted other (by simp [hback])
  · have hsame : (path = entry ∨ IsAbove entry path) ↔
        ∃ inside ∈ below, path = inside ∨ IsAbove inside path := by
      constructor
      · rintro (rfl | habove)
        · exact absurd hpath hentry
        · exact ⟨path, (hall path).2 ⟨hpath, habove⟩, .inl rfl⟩
      · rintro ⟨inside, hinside, rfl | habove⟩
        · exact .inr ((hall _).1 hinside).2
        · exact absurd habove (h.not_isAbove ((hall inside).1 hinside).1 hpath)
    have hne : front ++ entry :: back ≠ [] := by simp
    have hne' : front ++ below ++ back ≠ [] := by simp [hbelow]
    simp only [Covered, hne, hne', false_or, List.mem_append, List.mem_cons, or_and_right,
      exists_or, exists_eq_left, hsame, or_assoc]

end Schema.Tracks

/-- An accepted list only restricts, and those that cover the same declared paths lead to the same
statements. So order and repetitions do not matter, and an entry may be replaced by all declared
paths below it, if there are any. -/
theorem lists_only_restrict (options : SchemaOptions) (edits : List Edit) :
    let schema := Schema.reached options edits
    (∀ listed, schema.Accepts listed → schema.Restricts listed) ∧
    (∀ listed listed', schema.Accepts listed → schema.Accepts listed' →
      (∀ path ∈ schema.paths, Covered listed path ↔ Covered listed' path) →
      schema.SameStatements listed listed') ∧
    (∀ listed listed', schema.Accepts listed → (∀ entry, entry ∈ listed ↔ entry ∈ listed') →
      schema.SameStatements listed listed') ∧
    ∀ front entry back below, schema.Accepts (front ++ entry :: back) → below ≠ [] →
      (∀ path, path ∈ below ↔ path ∈ schema.paths ∧ IsAbove entry path) →
      schema.SameStatements (front ++ entry :: back) (front ++ below ++ back) := by
  intro schema
  have h : schema.Tracks options (history options edits) := Schema.reached_tracks options edits
  refine ⟨fun listed haccepted => ?_, fun listed listed' haccepted haccepted' hcovered => ?_,
    fun listed listed' haccepted hmem => ?_,
    fun front entry back below haccepted hbelow hall => ?_⟩
  · exact h.restricts haccepted
  · exact h.sameStatements haccepted haccepted' hcovered
  · exact h.sameStatements_of_mem_iff haccepted hmem
  · exact h.sameStatements_of_below haccepted hbelow hall

/-- A list with a parent covers the fields below it, and no field whose path only begins with the
same letter. -/
theorem lists_only_restrict_parent :
    let schema := Schema.reached {} [.add (.obj [("a", .obj [("b", .str "string"),
      ("c", .str "string")]), ("ab", .str "string")]) ""]
    schema.paths = ["a.b", "a.c", "ab"] ∧ schema.Accepts ["a"] ∧ ¬Covered ["a"] "ab" ∧
    schema.Restricts ["a"] ∧ schema.SameStatements ["a"] ["a.b", "a.c"] := by
  have hdeclared : (fun schema : Schema => (schema.paths, schema.nested)) (Schema.reached {}
      [.add (.obj [("a", .obj [("b", .str "string"), ("c", .str "string")]),
        ("ab", .str "string")]) ""]) = (["a.b", "a.c", "ab"], ["a"]) := by
    cbv
  intro schema
  have hpaths : schema.paths = ["a.b", "a.c", "ab"] := congrArg Prod.fst hdeclared
  have hnested : schema.nested = ["a"] := congrArg Prod.snd hdeclared
  have haccepted : schema.Accepts ["a"] := by
    intro entry hentry
    rw [hnested]
    exact .inr hentry
  have huncovered : ¬Covered ["a"] "ab" := by decide
  have hall : ∀ path, path ∈ ["a.b", "a.c"] ↔ path ∈ schema.paths ∧ IsAbove "a" path := by
    intro path
    rw [hpaths]
    simp only [List.mem_cons, List.not_mem_nil, or_false]
    constructor
    · rintro (rfl | rfl)
      · exact ⟨.inl rfl, "b", rfl⟩
      · exact ⟨.inr (.inl rfl), "c", rfl⟩
    · rintro ⟨rfl | rfl | rfl, habove⟩
      · exact .inl rfl
      · exact .inr rfl
      · exact absurd (.inr ⟨"a", List.mem_cons_self, .inr habove⟩) huncovered
  obtain ⟨hrestricts, _, _, hbelow⟩ := lists_only_restrict {} [.add (.obj [("a", .obj
    [("b", .str "string"), ("c", .str "string")]), ("ab", .str "string")]) ""]
  exact ⟨hpaths, haccepted, huncovered, hrestricts ["a"] haccepted,
    hbelow [] "a" [] ["a.b", "a.c"] haccepted (List.cons_ne_nil _ _) hall⟩

end RecordSchema
