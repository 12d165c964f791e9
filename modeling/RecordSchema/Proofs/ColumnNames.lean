import RecordSchema.Proofs.Lowering

/-!
# What columns in lower case change

Nothing but the text of a statement depends on the columns of a schema. A path leads to the same
place in a lowered schema, a value has the same stored form there, and the same checks fail. So a
lowered schema compiles the same statements with the same parameters over lowered columns, and it
builds the same documents.

## Main definitions

* `Draft.Lowers`: whether two drafts of an INSERT differ in their columns only.

## Main statements

* `Schema.path?_lowered`: what a path leads to.
* `Descriptor.cast_lowered`: the stored form of a value.
* `Schema.insert_lowered`, `Schema.select_lowered`, `Schema.build_lowered`: what a schema answers.
* `insensitive_renames_columns`: the effect of the option on declarations.
-/

namespace RecordSchema

/-! ## Finding fields -/

namespace Schema

variable (schema : Schema)

theorem find?_lowered (path : String) :
    schema.lowered.find? path = (schema.find? path).map Descriptor.lowered :=
  lowering.find?_eq schema path

/-- What a path leads to. -/
theorem path?_lowered (path : String) :
    schema.lowered.path? path = (schema.path? path).map Descriptor.lowered :=
  lowering.path?_eq schema path

end Schema

/-- The stored form of a value. -/
theorem Descriptor.cast_lowered (descriptor : Descriptor) (value : Json) :
    descriptor.lowered.cast value = descriptor.cast value :=
  lowering.cast_eq descriptor value

/-! ## Checks and defaults -/

namespace Descriptor

variable (field : Descriptor)

theorem check_lowered (value record : Json) :
    field.lowered.check value record = field.check value record := by
  rw [check, check, validators_lowered, path_lowered]

theorem defaultValue_lowered : field.lowered.defaultValue = field.defaultValue := by
  rw [defaultValue, defaultValue, default_lowered, type_lowered]

theorem advance_lowered : field.lowered.advance = field.advance.lowered := by
  rw [advance, lowered_eq, lowered_eq, advance]

theorem isSelectable_lowered : field.lowered.isSelectable = field.isSelectable :=
  lowering.isSelectable_eq field

end Descriptor

/-! ## INSERT statements -/

namespace Schema

variable (schema : Schema) {record : Json} {listed : List String}

theorem checkListed_lowered (listed : List String) :
    schema.lowered.checkListed listed = schema.checkListed listed :=
  lowering.checkListed_eq schema listed

/-- Whether a descriptor is declared at some path. -/
def Holds (field : Descriptor) : Prop :=
  ∃ path, schema.find? path = some field

end Schema

/-- Whether two drafts agree but for their columns, which are those of the same fields, before and
after they are put in lower case. -/
structure Draft.Lowers (schema : Schema) (draft lowered : Draft) : Prop where
  /-- The columns. -/
  columns : ∃ bound : List Descriptor, (∀ field ∈ bound, schema.Holds field) ∧
    draft.columns = bound.map Descriptor.column ∧
    lowered.columns = bound.map fun field => field.lowered.column
  /-- The parameters. -/
  params_eq : lowered.params = draft.params
  /-- The failures. -/
  failures_eq : lowered.failures = draft.failures

namespace Draft.Lowers

variable {schema : Schema} {draft lowered : Draft} {record : Json} {listed : List String}

theorem empty : Draft.Lowers schema {} {} :=
  ⟨⟨[], fun _ h => absurd h List.not_mem_nil, rfl, rfl⟩, rfl, rfl⟩

theorem report (h : Draft.Lowers schema draft lowered) (failure : Failure) :
    Draft.Lowers schema (draft.report failure) (lowered.report failure) :=
  ⟨h.columns, h.params_eq, by rw [Draft.report, Draft.report, h.failures_eq]⟩

theorem reportAny (h : Draft.Lowers schema draft lowered) (failure : Option Failure) :
    Draft.Lowers schema (draft.reportAny failure) (lowered.reportAny failure) := by
  cases failure with
  | none => exact h
  | some failure => exact h.report failure

theorem bind (h : Draft.Lowers schema draft lowered) {field : Descriptor}
    (hfield : schema.Holds field) (param : Json) :
    Draft.Lowers schema (draft.bind field.column param)
      (lowered.bind field.lowered.column param) := by
  obtain ⟨bound, hbound, hcolumns, hlowered⟩ := h.columns
  refine ⟨⟨bound ++ [field], ?_, ?_, ?_⟩, ?_, h.failures_eq⟩
  · intro other hother
    rcases List.mem_append.1 hother with hold | hnew
    · exact hbound other hold
    · rwa [List.mem_singleton.1 hnew]
  · rw [Draft.bind, hcolumns, List.map_append, List.map_singleton]
  · rw [Draft.bind, hlowered, List.map_append, List.map_singleton]
  · rw [Draft.bind, Draft.bind, h.params_eq]

/-- One turn of the loop. -/
theorem draftField (h : Draft.Lowers schema draft lowered) (path : String) :
    Draft.Lowers schema (schema.draftField record listed draft path)
      (schema.lowered.draftField record listed lowered path) := by
  unfold Schema.draftField
  rw [Schema.find?_lowered]
  cases hfind : schema.find? path with
  | none => exact h
  | some field =>
    have hchecked := h.reportAny (field.check ((record.valueAt? path).getD .null) record)
    simp only [Option.map_some, Descriptor.check_lowered, Descriptor.cast_lowered]
    cases (record.valueAt? path).filter Json.isTruthy with
    | none => exact hchecked
    | some value =>
      dsimp only
      split
      · exact hchecked
      · cases field.cast value with
        | ok param => exact hchecked.bind ⟨path, hfind⟩ param
        | error e => exact hchecked.report ⟨path, e.message, .cast, value⟩

theorem foldl (h : Draft.Lowers schema draft lowered) (paths : List String) :
    Draft.Lowers schema (paths.foldl (schema.draftField record listed) draft)
      (paths.foldl (schema.lowered.draftField record listed) lowered) := by
  induction paths generalizing draft lowered with
  | nil => exact h
  | cons path rest ih => exact ih (h.draftField path)

end Draft.Lowers

namespace Schema

variable (schema : Schema)

/-- The INSERT of a lowered schema is refused alike, or it is the same over lowered columns. -/
theorem insert_lowered (table : String) (record : Json) (listed : List String) :
    (∃ e, schema.insert table record listed = .error e ∧
      schema.lowered.insert table record listed = .error e) ∨
    ∃ statement, ∃ bound : List Descriptor, (∀ field ∈ bound, schema.Holds field) ∧
      schema.insert table record listed = .ok statement ∧
      statement.query = insertText table (bound.map Descriptor.column) ∧
      schema.lowered.insert table record listed = .ok { statement with
        query := insertText table (bound.map fun field => field.lowered.column) } := by
  unfold insert
  rw [checkListed_lowered]
  cases argumentFields record "record" with
  | error e => exact .inl ⟨e, rfl, rfl⟩
  | ok fields =>
    cases schema.checkListed listed with
    | error e => exact .inl ⟨e, rfl, rfl⟩
    | ok _ =>
      have hdraft : Draft.Lowers schema
          (schema.leafPaths.foldl (schema.draftField record listed) {})
          (schema.leafPaths.foldl (schema.lowered.draftField record listed) {}) :=
        Draft.Lowers.empty.foldl schema.leafPaths
      have hleaves : schema.lowered.leafPaths = schema.leafPaths := by
        rw [leafPaths, leafPaths, tree_lowered]
      obtain ⟨bound, hbound, hcolumns, hlowered⟩ := hdraft.columns
      refine .inr ⟨_, bound, hbound, rfl, congrArg (insertText table) hcolumns, ?_⟩
      rw [hleaves]
      refine congrArg Except.ok ?_
      rw [Statement.mk.injEq]
      exact ⟨congrArg (insertText table) hlowered, hdraft.params_eq, hdraft.failures_eq⟩

/-! ## SELECT statements -/

/-- The conditions in a lowered schema are refused alike, or they are the same over lowered
columns. -/
theorem conditions_lowered (criteria : List (String × Json)) :
    (∃ e, schema.conditions criteria = .error e ∧ schema.lowered.conditions criteria = .error e) ∨
    ∃ tested : List (Descriptor × Json), (∀ entry ∈ tested, schema.Holds entry.1) ∧
      schema.conditions criteria = .ok (tested.map fun entry => (entry.1.column, entry.2)) ∧
      schema.lowered.conditions criteria
        = .ok (tested.map fun entry => (entry.1.lowered.column, entry.2)) := by
  induction criteria with
  | nil => exact .inr ⟨[], fun _ h => absurd h List.not_mem_nil, rfl, rfl⟩
  | cons criterion rest ih =>
    obtain ⟨key, value⟩ := criterion
    rw [conditions, conditions, find?_lowered]
    cases hfind : schema.find? key with
    | none => exact .inl ⟨.unknownField key, rfl, rfl⟩
    | some field =>
      simp only [Option.map_some, bind, Except.bind, Descriptor.cast_lowered]
      cases field.cast value with
      | error e => exact .inl ⟨e, rfl, rfl⟩
      | ok param =>
        rcases ih with ⟨e, hplain, hlowered⟩ | ⟨tested, htested, hplain, hlowered⟩
        · rw [hplain, hlowered]
          exact .inl ⟨e, rfl, rfl⟩
        · rw [hplain, hlowered]
          exact .inr ⟨(field, param) :: tested, List.forall_mem_cons.2 ⟨⟨key, hfind⟩, htested⟩,
            rfl, rfl⟩

/-- The columns that are projected are those of the same fields. -/
theorem selectedColumns_lowered (listed : List String) : ∃ projected : List Descriptor,
    (∀ field ∈ projected, schema.Holds field) ∧
    schema.selectedColumns listed = projected.map Descriptor.column ∧
    schema.lowered.selectedColumns listed = projected.map fun field => field.lowered.column := by
  refine ⟨((schema.leafPaths.filter (isListed listed)).filterMap schema.find?).filter
    Descriptor.isSelectable, fun field hfield => ?_, rfl, ?_⟩
  · obtain ⟨path, _, hfind⟩ := List.mem_filterMap.1 (List.mem_filter.1 hfield).1
    exact ⟨path, hfind⟩
  · have hfind : schema.lowered.find? = fun path => (schema.find? path).map Descriptor.lowered :=
      funext schema.find?_lowered
    have hselectable : Descriptor.isSelectable ∘ Descriptor.lowered = Descriptor.isSelectable :=
      funext Descriptor.isSelectable_lowered
    rw [selectedColumns, leafPaths, tree_lowered, ← leafPaths, hfind, ← List.map_filterMap,
      List.filter_map, hselectable, List.map_map]
    rfl

/-- The SELECT of a lowered schema is refused alike, or it is the same over lowered columns. -/
theorem select_lowered (settings : CompilerSettings) (table : String) (criteria : Json)
    (listed : List String) (limit : Nat) :
    (∃ e, schema.select settings table criteria listed limit = .error e ∧
      schema.lowered.select settings table criteria listed limit = .error e) ∨
    ∃ statement cut, ∃ projected : List Descriptor, ∃ tested : List (Descriptor × Json),
      (∀ field ∈ projected, schema.Holds field) ∧ (∀ entry ∈ tested, schema.Holds entry.1) ∧
      schema.select settings table criteria listed limit = .ok statement ∧
      statement.query = selectText table (projected.map Descriptor.column)
        (tested.map fun entry => (entry.1.column, entry.2)) cut ∧
      schema.lowered.select settings table criteria listed limit = .ok { statement with
        query := selectText table (projected.map fun field => field.lowered.column)
          (tested.map fun entry => (entry.1.lowered.column, entry.2)) cut } := by
  have hrefused : ∀ e, (∀ other : Schema, other = schema ∨ other = schema.lowered →
      other.select settings table criteria listed limit = .error e) →
      ∃ e, schema.select settings table criteria listed limit = .error e ∧
        schema.lowered.select settings table criteria listed limit = .error e :=
    fun e h => ⟨e, h schema (.inl rfl), h schema.lowered (.inr rfl)⟩
  cases hfields : argumentFields criteria "criteria" with
  | error e =>
    unfold select
    rw [hfields]
    exact .inl ⟨e, rfl, rfl⟩
  | ok fields =>
    cases hlisted : schema.checkListed listed with
    | error e =>
      unfold select columnList
      rw [hfields, checkListed_lowered, hlisted]
      exact .inl ⟨e, rfl, rfl⟩
    | ok _ =>
      have hlisted' : schema.lowered.checkListed listed = .ok () := by
        rw [checkListed_lowered, hlisted]
      rcases schema.conditions_lowered fields with
        ⟨e, hplain, hlowered⟩ | ⟨tested, htested, hplain, hlowered⟩
      · refine .inl ⟨e, ?_, ?_⟩ <;> unfold select columnList
        · rw [hfields, hlisted]
          simp only [bind, Except.bind, pure, Except.pure, hplain]
        · rw [hfields, hlisted']
          simp only [bind, Except.bind, pure, Except.pure, hlowered]
      · obtain ⟨projected, hprojected, hcolumns, hcolumns'⟩ :=
          schema.selectedColumns_lowered listed
        refine .inr ⟨_, if limit = 0 then settings.defaultLimit else limit, projected, tested,
          hprojected, htested, select_eq_ok hfields hlisted hplain settings table limit,
          by rw [hcolumns], ?_⟩
        rw [select_eq_ok hfields hlisted' hlowered settings table limit, hcolumns',
          Except.ok.injEq, Statement.mk.injEq]
        exact ⟨rfl, by simp only [List.map_map, Function.comp_def], rfl⟩

/-! ## Documents -/

theorem ofProjection_lowered (projection : Option Projection) :
    Selection.ofProjection schema.lowered projection
      = Selection.ofProjection schema projection :=
  lowering.ofProjection_eq schema projection

/-- A lowered schema builds the same documents, and is the lowered one afterwards. -/
theorem build_lowered (projection : Option Projection) : schema.lowered.build projection
    = ((schema.build projection).1, (schema.build projection).2.lowered) := by
  unfold build
  rw [ofProjection_lowered]
  generalize Selection.ofProjection schema projection = selection
  have hwanted : ∀ path field, wantedDefault selection path (Descriptor.lowered field)
      = wantedDefault selection path field := by
    intro path field
    rw [wantedDefault, wantedDefault, Descriptor.defaultValue_lowered]
  have hadvance : ∀ path (field : Descriptor),
      (if selection.wants path then field.lowered.advance else field.lowered)
        = (if selection.wants path then field.advance else field).lowered := by
    intro path field
    split
    · exact field.advance_lowered
    · rfl
  simp only [lowered_eq, List.foldl_map, List.map_map, Function.comp_def, hwanted, hadvance]

end Schema

/-- A declaration with columns in lower case fails as the one without does; or both succeed, with
the same paths, tree and parents, and with the same descriptors at all levels but for their columns:
these are in lower case unless the declaration names them. So both schemas refuse the same
statements alike, and compile the others with the same parameters and failures and with the same
text over the columns of the same fields; and both build the same documents, however often. -/
theorem insensitive_renames_columns (declaration : Json) :
    (∃ e, Schema.ofDeclaration declaration {} = .error e ∧
      Schema.ofDeclaration declaration { insensitive := true } = .error e) ∨
    ∃ schema, Schema.ofDeclaration declaration {} = .ok schema ∧
      Schema.ofDeclaration declaration { insensitive := true } = .ok schema.lowered ∧
      schema.lowered.paths = schema.paths ∧ schema.lowered.tree = schema.tree ∧
      schema.lowered.nested = schema.nested ∧
      (∀ path, schema.lowered.find? path = (schema.find? path).map Descriptor.lowered) ∧
      (∀ table record listed,
        (∃ e, schema.insert table record listed = .error e ∧
          schema.lowered.insert table record listed = .error e) ∨
        ∃ statement, ∃ bound : List Descriptor, (∀ field ∈ bound, schema.Holds field) ∧
          schema.insert table record listed = .ok statement ∧
          statement.query = Schema.insertText table (bound.map Descriptor.column) ∧
          schema.lowered.insert table record listed = .ok { statement with
            query := Schema.insertText table (bound.map fun field => field.lowered.column) }) ∧
      (∀ settings table criteria listed limit,
        (∃ e, schema.select settings table criteria listed limit = .error e ∧
          schema.lowered.select settings table criteria listed limit = .error e) ∨
        ∃ statement cut, ∃ projected : List Descriptor, ∃ tested : List (Descriptor × Json),
          (∀ field ∈ projected, schema.Holds field) ∧ (∀ entry ∈ tested, schema.Holds entry.1) ∧
          schema.select settings table criteria listed limit = .ok statement ∧
          statement.query = selectText table (projected.map Descriptor.column)
            (tested.map fun entry => (entry.1.column, entry.2)) cut ∧
          schema.lowered.select settings table criteria listed limit = .ok { statement with
            query := selectText table (projected.map fun field => field.lowered.column)
              (tested.map fun entry => (entry.1.lowered.column, entry.2)) cut }) ∧
      ∀ projection, schema.lowered.build projection
        = ((schema.build projection).1, (schema.build projection).2.lowered) := by
  rw [ofDeclaration_lowered]
  cases Schema.ofDeclaration declaration {} with
  | error e => exact .inl ⟨e, rfl, rfl⟩
  | ok schema =>
    exact .inr ⟨schema, rfl, rfl, schema.paths_lowered, schema.tree_lowered, schema.nested_lowered,
      schema.find?_lowered, schema.insert_lowered, schema.select_lowered, schema.build_lowered⟩

end RecordSchema
