import RecordSchema.Proofs.Contents
import RecordSchema.Proofs.InsertContents

/-!
# What a SELECT projects and filters by

A SELECT that is not refused projects the covered fields, in the order of the tree, but for those
that hold identifiers. It has a condition for each criterion, in their order, and the stored values
of the criteria as parameters. The first criterion that has no condition refuses it.

## Main definitions

* `Descriptor.HoldsIdentifiers`: whether a field is an identifier or a list of identifiers, at any
  depth.
* `Schema.Condition`: the column and the stored value for a criterion.
* `CriterionFault`: why a criterion has no condition.
* `SelectRefusal`: why a SELECT is refused.
* `Schema.projectedAt?`: the column that a path projects.

## Main statements

* `Descriptor.IsMeant.isSelectable_iff`: the test for fields that may be projected.
* `Schema.conditions_cases`: all criteria have conditions, or a first one has none.
* `Schema.select_eq_error`: a cause of refusal comes out as its error.
* `select_projects`: the statement and its parameters.
-/

namespace RecordSchema

/-! ## Identifiers -/

namespace Descriptor

/-- Whether a field is an identifier, or a collection whose items hold identifiers. -/
inductive HoldsIdentifiers : Descriptor → Prop
  /-- The field is an identifier. -/
  | identifier {field : Descriptor} (htype : field.type = .objectId) : HoldsIdentifiers field
  /-- The items hold identifiers. -/
  | items {field item : Descriptor} (htype : field.type = .collection)
      (helement : field.element = some (.caster item)) (hitem : HoldsIdentifiers item) :
      HoldsIdentifiers field

theorem isSelectable_of_caster {field item : Descriptor}
    (h : field.element = some (.caster item)) :
    field.isSelectable = (!field.type.isIdentifier && item.isSelectable) := by
  cases field
  cases h
  rw [isSelectable]

theorem isSelectable_of_not_caster {field : Descriptor}
    (h : ∀ item, field.element ≠ some (.caster item)) :
    field.isSelectable = !field.type.isIdentifier := by
  cases field
  rw [isSelectable]
  exact fun item helement => h item helement

theorem isIdentifier_iff {type : FieldType} : type.isIdentifier = true ↔ type = .objectId := by
  rw [FieldType.isIdentifier, beq_iff_eq]

/-- The fields that may be projected are those that hold no identifiers. -/
theorem IsMeant.isSelectable_iff {options : SchemaOptions} {field : Descriptor}
    (h : field.IsMeant options) : field.isSelectable = true ↔ ¬field.HoldsIdentifiers := by
  by_cases hcaster : ∃ item, field.element = some (.caster item)
  · obtain ⟨item, hitem⟩ := hcaster
    have htype : field.type = .collection := h.type_eq hitem
    -- a collection is no identifier itself, so its items decide
    have hplain : field.type.isIdentifier = false := by
      rw [htype]
      rfl
    rw [isSelectable_of_caster hitem, hplain, Bool.not_false, Bool.true_and,
      (h.caster hitem).isSelectable_iff]
    refine not_congr ⟨.items htype hitem, fun hholds => ?_⟩
    cases hholds with
    | identifier hidentifier => cases htype.symm.trans hidentifier
    | items _ helement hinside =>
      cases hitem.symm.trans helement
      exact hinside
  · rw [isSelectable_of_not_caster (not_exists.1 hcaster), Bool.not_eq_true',
      ← Bool.not_eq_true, isIdentifier_iff]
    refine not_congr ⟨.identifier, fun hholds => ?_⟩
    cases hholds with
    | identifier hidentifier => exact hidentifier
    | items _ helement _ => exact absurd ⟨_, helement⟩ hcaster
termination_by sizeOf field
decreasing_by exact sizeOf_lt_of_caster hitem

end Descriptor

/-! ## Conditions -/

namespace Schema

/-- Whether a column and a stored value are those for a criterion. -/
def Condition (schema : Schema) (criterion condition : String × Json) : Prop :=
  ∃ field, schema.find? criterion.1 = some field ∧ condition.1 = field.column ∧
    field.cast criterion.2 = .ok condition.2

end Schema

/-- Why a criterion has no condition. -/
inductive CriterionFault (schema : Schema) (criterion : String × Json) : SchemaError → Prop
  /-- Its key is no declared path. -/
  | unknown (hpath : criterion.1 ∉ schema.paths) :
      CriterionFault schema criterion (.unknownField criterion.1)
  /-- Its value has no stored form. -/
  | uncast {field : Descriptor} {path expected : String} {rejected : Json}
      (hfind : schema.find? criterion.1 = some field)
      (hcast : field.cast criterion.2 = .error (.cast path expected rejected)) :
      CriterionFault schema criterion (.cast path expected rejected)

namespace Schema

variable {schema : Schema} {criterion condition : String × Json} {e : SchemaError}

theorem find?_eq_none_iff {path : String} : schema.find? path = none ↔ path ∉ schema.paths := by
  rw [paths, ← Entries.has_iff_mem_keys, Entries.has, ← find?]
  simp

/-- A criterion has a condition or a fault. -/
theorem condition_or_fault (schema : Schema) (criterion : String × Json) :
    (∃ condition, schema.Condition criterion condition) ∨
      ∃ e, CriterionFault schema criterion e := by
  cases hfind : schema.find? criterion.1 with
  | none => exact .inr ⟨_, .unknown (find?_eq_none_iff.1 hfind)⟩
  | some field =>
    cases hcast : field.cast criterion.2 with
    | ok param => exact .inl ⟨(field.column, param), field, hfind, rfl, hcast⟩
    | error e =>
      obtain ⟨path, expected, rejected, rfl⟩ := Descriptor.cast_error hcast
      exact .inr ⟨_, .uncast hfind hcast⟩

theorem conditions_cons_of_fault (h : CriterionFault schema criterion e)
    (rest : List (String × Json)) : schema.conditions (criterion :: rest) = .error e := by
  obtain ⟨key, value⟩ := criterion
  rw [conditions]
  cases h with
  | unknown hpath =>
    rw [find?_eq_none_iff.2 hpath]
    rfl
  | uncast hfind hcast =>
    rw [hfind]
    simp only at hcast
    simp only [bind, Except.bind, hcast]

theorem conditions_cons (h : schema.Condition criterion condition) (rest : List (String × Json)) :
    schema.conditions (criterion :: rest) = (schema.conditions rest).map (condition :: ·) := by
  obtain ⟨key, value⟩ := criterion
  obtain ⟨column, param⟩ := condition
  obtain ⟨field, hfind, rfl, hcast⟩ := h
  simp only at hfind hcast
  rw [conditions, hfind]
  simp only [bind, Except.bind, hcast]
  cases schema.conditions rest <;> rfl

/-- The first criterion without a condition decides the error. -/
theorem conditions_of_fault {passed rest : List (String × Json)}
    (hpassed : ∀ earlier ∈ passed, ∃ condition, schema.Condition earlier condition)
    (h : CriterionFault schema criterion e) :
    schema.conditions (passed ++ criterion :: rest) = .error e := by
  induction passed with
  | nil => exact conditions_cons_of_fault h rest
  | cons earlier passed ih =>
    obtain ⟨⟨condition, hcondition⟩, hpassed⟩ := List.forall_mem_cons.1 hpassed
    rw [List.cons_append, conditions_cons hcondition, ih hpassed]
    rfl

/-- All criteria have conditions, or a first one has none. -/
theorem conditions_cases (schema : Schema) (criteria : List (String × Json)) :
    (∃ conditions, schema.conditions criteria = .ok conditions ∧
      List.Forall₂ schema.Condition criteria conditions) ∨
    ∃ passed criterion rest e, criteria = passed ++ criterion :: rest ∧
      (∀ earlier ∈ passed, ∃ condition, schema.Condition earlier condition) ∧
      CriterionFault schema criterion e := by
  induction criteria with
  | nil => exact .inl ⟨[], rfl, .nil⟩
  | cons criterion rest ih =>
    rcases schema.condition_or_fault criterion with ⟨condition, hcondition⟩ | ⟨e, hfault⟩
    · rcases ih with ⟨conditions, hrest, hforall⟩ | ⟨passed, other, back, e, rfl, hpassed, hfault⟩
      · refine .inl ⟨condition :: conditions, ?_, .cons hcondition hforall⟩
        rw [conditions_cons hcondition, hrest]
        rfl
      · exact .inr ⟨criterion :: passed, other, back, e, rfl,
          List.forall_mem_cons.2 ⟨⟨condition, hcondition⟩, hpassed⟩, hfault⟩
    · exact .inr ⟨[], criterion, rest, e, rfl, fun earlier h => absurd h List.not_mem_nil, hfault⟩

end Schema

/-! ## Refusals -/

/-- Why a SELECT is refused. -/
inductive SelectRefusal (schema : Schema) (criteria : Json) (listed : List String) :
    SchemaError → Prop
  /-- The criteria are neither an object nor null. -/
  | no_object (hnull : criteria ≠ .null) (hobject : ∀ fields, criteria ≠ .obj fields) :
      SelectRefusal schema criteria listed
        (.invalidInput ("criteria must be a JSON object, got " ++ criteria.compact))
  /-- A listed field is neither declared nor a parent of fields, and it is the first one. -/
  | unknown_field {known rest : List String} {field : String}
      (hcriteria : criteria = .null ∨ ∃ fields, criteria = .obj fields)
      (hlisted : listed = known ++ field :: rest)
      (hknown : ∀ entry ∈ known, entry ∈ schema.paths ∨ entry ∈ schema.nested)
      (hpath : field ∉ schema.paths) (hnested : field ∉ schema.nested) :
      SelectRefusal schema criteria listed (.unknownField field)
  /-- A criterion has no condition, and it is the first one. -/
  | criterion {passed rest : List (String × Json)} {criterion : String × Json} {e : SchemaError}
      (hcriteria : criteria = .obj (passed ++ criterion :: rest))
      (hlisted : ∀ entry ∈ listed, entry ∈ schema.paths ∨ entry ∈ schema.nested)
      (hpassed : ∀ earlier ∈ passed, ∃ condition, schema.Condition earlier condition)
      (hfault : CriterionFault schema criterion e) :
      SelectRefusal schema criteria listed e

namespace Schema

variable {schema : Schema} {criteria : Json} {listed : List String} {e : SchemaError}

theorem checkListed_of_known
    (h : ∀ entry ∈ listed, entry ∈ schema.paths ∨ entry ∈ schema.nested) :
    schema.checkListed listed = .ok () := by
  rcases schema.checkListed_cases listed with
    ⟨hok, _⟩ | ⟨known, field, rest, rfl, _, hpath, hnested⟩
  · exact hok
  · rcases h field (by simp) with hknown | hknown
    · exact absurd hknown hpath
    · exact absurd hknown hnested

/-- A cause of refusal comes out as its error. -/
theorem select_eq_error (h : SelectRefusal schema criteria listed e) (settings : CompilerSettings)
    (table : String) (limit : Nat) :
    schema.select settings table criteria listed limit = .error e := by
  unfold select
  cases h with
  | no_object hnull hobject =>
    rw [argumentFields_of_refused hnull hobject]
    rfl
  | unknown_field hcriteria hlisted hknown hpath hnested =>
    obtain ⟨fields, hfields⟩ := argumentFields_of_taken "criteria" hcriteria
    rw [hfields, hlisted, columnList, checkListed_of_unknown hknown hpath hnested]
    rfl
  | criterion hcriteria hlisted hpassed hfault =>
    -- the arguments pass, so the conditions are what stops it
    rw [hcriteria, argumentFields, columnList, checkListed_of_known hlisted]
    simp only [bind, Except.bind, pure, Except.pure, conditions_of_fault hpassed hfault]

/-! ## Columns -/

/-- The column that a path projects. -/
def projectedAt? (schema : Schema) (listed : List String) (path : String) : Option String := do
  let field ← schema.find? path
  if isListed listed path && field.isSelectable then some field.column else none

theorem selectedColumns_eq : schema.selectedColumns listed
    = schema.leafPaths.filterMap (schema.projectedAt? listed) := by
  have hpath : ∀ path, ((if isListed listed path then schema.find? path else none).filter
      Descriptor.isSelectable).map Descriptor.column = schema.projectedAt? listed path := by
    intro path
    unfold projectedAt?
    cases hlisted : isListed listed path with
    | false => simp
    | true =>
      cases hfind : schema.find? path with
      | none => rfl
      | some field => cases hselectable : field.isSelectable <;> simp [Option.filter, hselectable]
  rw [selectedColumns, List.filterMap_filter, List.filter_filterMap, List.map_filterMap]
  exact List.filterMap_congr fun path _ => hpath path

/-- A path is projected when it is covered and its field holds no identifiers. -/
theorem Tracks.projectedAt?_eq_some_iff {options : SchemaOptions} {log : List Change}
    (h : schema.Tracks options log) {path column : String} :
    schema.projectedAt? listed path = some column ↔ ∃ field, schema.find? path = some field ∧
      Covered listed path ∧ ¬field.HoldsIdentifiers ∧ field.column = column := by
  simp only [projectedAt?, Option.bind_eq_bind, Option.bind_eq_some_iff,
    Option.ite_none_right_eq_some, Bool.and_eq_true, isListed_iff, Option.some.injEq]
  refine exists_congr fun field => and_congr_right fun hfind => ?_
  rw [(h.isMeant hfind).isSelectable_iff, and_assoc]

end Schema

/-! ## The statement -/

theorem argumentFields_eq_ok_iff {argument : Json} {what : String} {fields : Fields} :
    argumentFields argument what = .ok fields ↔
      argument = .null ∧ fields = [] ∨ argument = .obj fields := by
  cases argument with
  | null => simp [argumentFields, eq_comm]
  | obj => simp [argumentFields]
  | bool | num | str | arr => simp [argumentFields]

/-- The text of a SELECT; a limit of zero stands for none. -/
def selectText (table : String) (columns : List String) (conditions : List (String × Json))
    (limit : Nat) : String :=
  "SELECT " ++ (if columns = [] then "*" else ", ".intercalate columns) ++ " FROM " ++ table
    ++ (if conditions = [] then "" else " WHERE " ++ " AND ".intercalate
      (conditions.map fun condition => condition.1 ++ " = ?"))
    ++ (if limit = 0 then "" else " LIMIT " ++ decimalText limit)

/-- A SELECT whose arguments pass is compiled from its columns and conditions. -/
theorem Schema.select_eq_ok {schema : Schema} {criteria : Json} {listed : List String}
    {fields : Fields} {conditions : List (String × Json)}
    (hfields : argumentFields criteria "criteria" = .ok fields)
    (hlisted : schema.checkListed listed = .ok ())
    (hconditions : schema.conditions fields = .ok conditions) (settings : CompilerSettings)
    (table : String) (limit : Nat) : schema.select settings table criteria listed limit = .ok {
      query := selectText table (schema.selectedColumns listed) conditions
        (if limit = 0 then settings.defaultLimit else limit)
      params := conditions.map Prod.snd
      failures := none } := by
  have hlimit : (if 0 < limit then limit else settings.defaultLimit)
      = if limit = 0 then settings.defaultLimit else limit := by
    simp only [Nat.pos_iff_ne_zero, ne_eq, ite_not]
  unfold select columnList
  rw [hfields, hlisted, hlimit]
  simp only [bind, Except.bind, hconditions, pure, Except.pure, selectText, List.isEmpty_iff,
    Nat.pos_iff_ne_zero, ne_eq, ite_not]

/-- A SELECT is refused by a cause, or it is compiled from its columns and conditions. -/
theorem Schema.select_cases (schema : Schema) (settings : CompilerSettings) (table : String)
    (criteria : Json) (listed : List String) (limit : Nat) :
    (∃ e, SelectRefusal schema criteria listed e ∧
      schema.select settings table criteria listed limit = .error e) ∨
    ∃ fields conditions, (criteria = .null ∧ fields = [] ∨ criteria = .obj fields) ∧
      List.Forall₂ schema.Condition fields conditions ∧
      schema.select settings table criteria listed limit = .ok {
        query := selectText table (schema.selectedColumns listed) conditions
          (if limit = 0 then settings.defaultLimit else limit)
        params := conditions.map Prod.snd
        failures := none } := by
  have hrefused : ∀ e, SelectRefusal schema criteria listed e →
      ∃ e, SelectRefusal schema criteria listed e ∧
        schema.select settings table criteria listed limit = .error e := fun e hrefusal =>
    ⟨e, hrefusal, select_eq_error hrefusal settings table limit⟩
  rcases argumentFields_cases criteria "criteria" with
    ⟨hobject, fields, hfields⟩ | ⟨hnull, hobject, _⟩
  · have hcriteria := argumentFields_eq_ok_iff.1 hfields
    rcases schema.checkListed_cases listed with
      ⟨hok, hknown⟩ | ⟨known, field, rest, hlisted, hknown, hpath, hnested⟩
    · rcases schema.conditions_cases fields with
        ⟨conditions, hconditions, hforall⟩ | ⟨passed, criterion, rest, e, rfl, hpassed, hfault⟩
      · exact .inr ⟨fields, conditions, hcriteria, hforall,
          select_eq_ok hfields hok hconditions settings table limit⟩
      · rcases hcriteria with ⟨_, hnil⟩ | hcriteria
        · simp at hnil
        · exact .inl (hrefused e (.criterion hcriteria hknown hpassed hfault))
    · exact .inl (hrefused _ (.unknown_field hobject hlisted hknown hpath hnested))
  · exact .inl (hrefused _ (.no_object hnull hobject))

/-- A SELECT is refused just for a cause of refusal. Otherwise it projects the covered paths whose
fields hold no identifiers, each once and in the order of the tree, or a star where there are none;
it has a condition for each criterion, in their order, with the stored values as parameters; and it
ends with the given limit, or else with that of the settings, unless both are zero. -/
theorem select_projects (options : SchemaOptions) (edits : List Edit)
    (settings : CompilerSettings) (table : String) (criteria : Json) (listed : List String)
    (limit : Nat) :
    let schema := Schema.reached options edits
    (∀ e, schema.select settings table criteria listed limit = .error e ↔
      SelectRefusal schema criteria listed e) ∧
    ((∃ e, SelectRefusal schema criteria listed e) ∨
      ∃ fields projected columns conditions cut,
        (criteria = .null ∧ fields = [] ∨ criteria = .obj fields) ∧
        cut = (if limit = 0 then settings.defaultLimit else limit) ∧
        schema.select settings table criteria listed limit = .ok {
          query := "SELECT " ++ (if columns = [] then "*" else ", ".intercalate columns)
            ++ " FROM " ++ table
            ++ (if conditions = [] then "" else " WHERE " ++ " AND ".intercalate
              (conditions.map fun condition => condition.1 ++ " = ?"))
            ++ (if cut = 0 then "" else " LIMIT " ++ decimalText cut)
          params := conditions.map Prod.snd
          failures := none } ∧
        projected.Sublist schema.leafPaths ∧ projected.Nodup ∧
        (∀ path, path ∈ projected ↔ ∃ field, schema.find? path = some field ∧
          Covered listed path ∧ ¬field.HoldsIdentifiers) ∧
        List.Forall₂ (fun path column =>
          ∃ field, schema.find? path = some field ∧ field.column = column) projected columns ∧
        List.Forall₂ (fun criterion condition => ∃ field, schema.find? criterion.1 = some field ∧
          condition.1 = field.column ∧ field.cast criterion.2 = .ok condition.2)
          fields conditions) := by
  intro schema
  have h : schema.Tracks options (history options edits) := Schema.reached_tracks options edits
  rcases schema.select_cases settings table criteria listed limit with
    ⟨e, hrefusal, hselect⟩ | ⟨fields, conditions, hcriteria, hforall, hselect⟩
  · refine ⟨fun e' => ⟨fun herror => ?_, fun hcause => Schema.select_eq_error hcause _ _ _⟩,
      .inl ⟨e, hrefusal⟩⟩
    cases hselect.symm.trans herror
    exact hrefusal
  · refine ⟨fun e => ⟨fun herror => ?_, fun hcause => Schema.select_eq_error hcause _ _ _⟩, .inr ?_⟩
    · cases hselect.symm.trans herror
    · have hprojects := forall₂_filter_filterMap (schema.projectedAt? listed) schema.leafPaths
      rw [Schema.selectedColumns_eq] at hselect
      refine ⟨fields, schema.leafPaths.filter fun path => (schema.projectedAt? listed path).isSome,
        schema.leafPaths.filterMap (schema.projectedAt? listed), conditions, _, hcriteria, rfl,
        hselect, List.filter_sublist, h.nodup_leafPaths.filter _, fun path => ?_, ?_, hforall⟩
      · rw [List.mem_filter, Option.isSome_iff_exists]
        constructor
        · rintro ⟨_, column, hcolumn⟩
          obtain ⟨field, hfind, hcovered, hholds, _⟩ := h.projectedAt?_eq_some_iff.1 hcolumn
          exact ⟨field, hfind, hcovered, hholds⟩
        · rintro ⟨field, hfind, hcovered, hholds⟩
          exact ⟨h.mem_leafPaths_of_find? hfind, field.column,
            h.projectedAt?_eq_some_iff.2 ⟨field, hfind, hcovered, hholds, rfl⟩⟩
      · refine hprojects.imp fun path column hcolumn => ?_
        obtain ⟨field, hfind, _, _, hsame⟩ := h.projectedAt?_eq_some_iff.1 hcolumn
        exact ⟨field, hfind, hsame⟩

end RecordSchema
