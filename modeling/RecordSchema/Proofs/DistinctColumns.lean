import Mathlib
import RecordSchema.Proofs.Casting
import RecordSchema.Proofs.InsertContents
import RecordSchema.Proofs.Lowering

/-!
# Columns of different fields

Declared paths are different, but their columns need not be: two fields may name the same column,
and two paths may differ in letter case only. Nothing compares the columns of fields, so an INSERT
names a column twice when it binds two fields that share it. Every type has a value that an INSERT
binds, so a schema writes no column twice, whatever the record is, just when no two of its fields
share a column.

## Main definitions

* `Schema.writtenColumns`: the columns that an INSERT names.
* `Schema.Binds`: whether an INSERT binds a path.
* `Schema.SharesColumn`, `Schema.HasDistinctColumns`: whether two declared paths have the same
  column, and whether no two different ones do.
* `FieldType.sample`: a value that counts and that the type stores.

## Main statements

* `Schema.Tracks.nodup_writtenColumns_iff`: one record.
* `Schema.Tracks.hasDistinctColumns_iff`: all records.
* `Schema.Tracks.hasDistinctColumns_of_unnamed`: columns that are derived from paths.
* `columns_written_once`: which schemas write no column twice.
* `column_written_twice`: two that do.
-/

namespace RecordSchema

namespace Schema

/-- The columns that an INSERT names, in its order. -/
def writtenColumns (schema : Schema) (record : Json) (listed : List String) : List String :=
  (schema.leafPaths.filterMap (schema.boundAt? record listed)).map Prod.fst

/-- Whether an INSERT binds a path: it is covered and its value counts and has a stored form. -/
def Binds (schema : Schema) (record : Json) (listed : List String) (path : String) : Prop :=
  Covered listed path ∧ ∃ param, schema.Stores record path param

/-- Whether two declared paths share a column. -/
def SharesColumn (schema : Schema) (path other : String) : Prop :=
  ∃ field field', schema.find? path = some field ∧ schema.find? other = some field' ∧
    field.column = field'.column

/-- Whether different declared paths have different columns. -/
def HasDistinctColumns (schema : Schema) : Prop :=
  ∀ path other, schema.SharesColumn path other → path = other

end Schema

/-! ## A value of each type -/

/-- A value that counts and that the type stores. -/
def FieldType.sample : FieldType → Json
  | string | number | boolean | mixed => .bool true
  | date => .str "1"
  | objectId => .str "000000000000000000000000"
  | uuid => .str "00000000-0000-0000-0000-000000000000"
  | collection => .arr []

theorem FieldType.isTruthy_sample (type : FieldType) : type.sample.isTruthy = true := by
  cases type <;> decide

theorem FieldType.exists_stored?_sample (type : FieldType) :
    ∃ stored, type.stored? type.sample = some stored := by
  rw [← Option.isSome_iff_exists]
  cases type <;> cbv

theorem Descriptor.exists_cast_sample (field : Descriptor) :
    ∃ stored, field.cast field.type.sample = .ok stored := by
  by_cases htype : field.type = .collection
  · refine ⟨.arr [], ?_⟩
    rw [htype, FieldType.sample, cast_members htype rfl, Json.members, castItems]
    rfl
  · obtain ⟨stored, hstored⟩ := field.type.exists_stored?_sample
    have hnull : field.type.sample.isNull = false := by cases field.type <;> rfl
    refine ⟨field.style.apply stored, ?_⟩
    rw [cast_scalar htype, FieldType.cast_of_stored? hnull hstored]
    rfl

/-! ## Columns of one statement -/

namespace Schema

variable {schema : Schema} {options : SchemaOptions} {log : List Change} {record : Json}
  {listed : List String} {path other : String}

theorem Binds.mem_leafPaths (h : schema.Tracks options log)
    (hbinds : schema.Binds record listed path) : path ∈ schema.leafPaths := by
  obtain ⟨_, _, _, _, hfind, _⟩ := hbinds
  exact h.mem_leafPaths_of_find? hfind

/-- The columns are those of the paths that are bound. -/
theorem map_some_writtenColumns :
    (schema.writtenColumns record listed).map some
      = (schema.leafPaths.filter fun path => (schema.boundAt? record listed path).isSome).map
        fun path => (schema.find? path).map Descriptor.column := by
  have hbinds := forall₂_filter_filterMap (schema.boundAt? record listed) schema.leafPaths
  have hsame : List.Forall₂ (· = ·)
      ((schema.leafPaths.filter fun path => (schema.boundAt? record listed path).isSome).map
        fun path => (schema.find? path).map Descriptor.column)
      ((schema.writtenColumns record listed).map some) := by
    rw [writtenColumns, List.map_map, List.forall₂_map_left_iff, List.forall₂_map_right_iff]
    refine hbinds.imp fun path bound hbound => ?_
    obtain ⟨_, ⟨field, hfind, hcolumn⟩, _⟩ := boundAt?_eq_some_iff.1 hbound
    rw [hfind, Option.map_some, hcolumn]
    rfl
  exact (List.forall₂_eq_eq_eq ▸ hsame).symm

/-- An INSERT names no column twice just when no two of the paths that it binds share one. -/
theorem Tracks.nodup_writtenColumns_iff (h : schema.Tracks options log) :
    (schema.writtenColumns record listed).Nodup ↔ ∀ path other,
      schema.Binds record listed path → schema.Binds record listed other →
      schema.SharesColumn path other → path = other := by
  have hmem : ∀ path, path ∈ schema.leafPaths.filter (fun path =>
      (schema.boundAt? record listed path).isSome) ↔ schema.Binds record listed path := by
    intro path
    rw [List.mem_filter, isSome_boundAt?_iff]
    exact ⟨And.right, fun hbinds => ⟨Binds.mem_leafPaths h hbinds, hbinds⟩⟩
  -- the paths are distinct, so their columns are where the column tells the path
  rw [← List.nodup_map_iff (Option.some_injective String), map_some_writtenColumns,
    List.nodup_map_iff_inj_on (h.nodup_leafPaths.filter _)]
  simp only [hmem]
  constructor
  · rintro hdistinct path other hpath hother ⟨field, field', hfind, hfind', hcolumn⟩
    exact hdistinct path hpath other hother (by rw [hfind, hfind', Option.map_some, hcolumn]; rfl)
  · intro hdistinct path hpath other hother hcolumn
    obtain ⟨_, _, field, _, hfind, _⟩ := id hpath
    obtain ⟨_, _, field', _, hfind', _⟩ := id hother
    rw [hfind, hfind'] at hcolumn
    exact hdistinct path other hpath hother ⟨field, field', hfind, hfind', Option.some.inj hcolumn⟩

/-! ## Columns of all statements -/

/-- A record with samples at some paths has them bound. -/
theorem binds_sample {field : Descriptor} {fields : Fields} (hfind : schema.find? path = some field)
    (hvalue : fields.get? path = some field.type.sample) :
    schema.Binds (.obj fields) [] path := by
  obtain ⟨stored, hcast⟩ := field.exists_cast_sample
  have hread : (Json.obj fields).valueAt? path = some field.type.sample := by
    have hget : (Json.obj fields).get? path = some field.type.sample := hvalue
    rw [Json.valueAt?, hget]
  exact ⟨.inl rfl, stored, field, _, hfind, hread, field.type.isTruthy_sample, hcast⟩

/-- A schema writes no column twice, whatever the record is, just when no two of its fields share
a column. -/
theorem Tracks.hasDistinctColumns_iff (h : schema.Tracks options log) :
    schema.HasDistinctColumns ↔ ∀ table record listed statement,
      schema.insert table record listed = .ok statement →
        (schema.writtenColumns record listed).Nodup := by
  constructor
  · intro hdistinct table record listed statement _
    exact h.nodup_writtenColumns_iff.2 fun path other _ _ => hdistinct path other
  · rintro hnodup path other hshares
    by_contra hne
    obtain ⟨field, field', hfind, hfind', _⟩ := id hshares
    -- a record with a value for each of the two
    let fields : Fields := [(path, field.type.sample), (other, field'.type.sample)]
    have hpath : schema.Binds (.obj fields) [] path :=
      binds_sample hfind (by simp [fields, Entries.get?])
    have hother : schema.Binds (.obj fields) [] other :=
      binds_sample hfind' (by simp [fields, Entries.get?, hne])
    have hcolumns := hnodup "" (.obj fields) [] _ rfl
    exact hne (h.nodup_writtenColumns_iff.1 hcolumns path other hpath hother hshares)

/-! ## Columns derived from paths -/

/-- A field is stored under the column of its options, or of its path. -/
theorem Tracks.column_eq (h : schema.Tracks options log) {field : Descriptor}
    (hfind : schema.find? path = some field) :
    field.column = columnOf options path field.options := by
  obtain ⟨_, declaration, meaning, _, hmeaning, rfl⟩ := h.find?_described hfind
  obtain ⟨default, happlied⟩ := Attachment.foldl_applyTo meaning (attachments path log)
  have hdescribed := interpret_described hmeaning
  rw [happlied, hdescribed.column_eq, hdescribed.options_eq]

end Schema

theorem columnOf_of_unnamed {options : Fields} (h : namesColumn options = false)
    (schemaOptions : SchemaOptions) (path : String) : columnOf schemaOptions path options
      = if schemaOptions.insensitive then lowerText path else path := by
  unfold namesColumn at h
  unfold columnOf
  cases hname : (options.get? "name").bind Json.asText? with
  | none => rfl
  | some name =>
    rw [hname] at h
    have hempty : name.isEmpty = true := by simpa using h
    exact if_pos hempty

/-- Where no field names its column, columns are different unless they come from paths that differ
in letter case only. -/
theorem Schema.Tracks.hasDistinctColumns_of_unnamed {schema : Schema} {options : SchemaOptions}
    {log : List Change} (h : schema.Tracks options log)
    (hunnamed : ∀ path field, schema.find? path = some field → namesColumn field.options = false) :
    schema.HasDistinctColumns ↔ (options.insensitive = true → ∀ path ∈ schema.paths,
      ∀ other ∈ schema.paths, lowerText path = lowerText other → path = other) := by
  have hcolumn : ∀ path field, schema.find? path = some field →
      field.column = if options.insensitive then lowerText path else path := by
    intro path field hfind
    rw [h.column_eq hfind, columnOf_of_unnamed (hunnamed path field hfind)]
  constructor
  · intro hdistinct hinsensitive path hpath other hother hlower
    obtain ⟨field, hfind⟩ := h.exists_find? hpath
    obtain ⟨field', hfind'⟩ := h.exists_find? hother
    refine hdistinct path other ⟨field, field', hfind, hfind', ?_⟩
    rw [hcolumn path field hfind, hcolumn other field' hfind', hlower, if_pos hinsensitive,
      if_pos hinsensitive]
  · rintro hpaths path other ⟨field, field', hfind, hfind', hsame⟩
    rw [hcolumn path field hfind, hcolumn other field' hfind'] at hsame
    by_cases hinsensitive : options.insensitive = true
    · rw [if_pos hinsensitive, if_pos hinsensitive] at hsame
      exact hpaths hinsensitive path (Schema.mem_paths_of_find? hfind) other
        (Schema.mem_paths_of_find? hfind') hsame
    · rwa [if_neg hinsensitive, if_neg hinsensitive] at hsame

/-- The columns of an INSERT that is not refused are those of the different paths that it binds, and
a column stands there twice just when two of these paths share it. A schema writes no column twice
in any INSERT just when its declared paths have different columns. When no field names its column
that is so, unless columns are in lower case and two declared paths differ in letter case only. -/
theorem columns_written_once (options : SchemaOptions) (edits : List Edit) :
    let schema := Schema.reached options edits
    (∀ table record listed statement, schema.insert table record listed = .ok statement →
      statement.query = Schema.insertText table (schema.writtenColumns record listed) ∧
      ((schema.writtenColumns record listed).Nodup ↔ ∀ path other,
        schema.Binds record listed path → schema.Binds record listed other →
        schema.SharesColumn path other → path = other)) ∧
    (schema.HasDistinctColumns ↔ ∀ table record listed statement,
      schema.insert table record listed = .ok statement →
        (schema.writtenColumns record listed).Nodup) ∧
    ((∀ path field, schema.find? path = some field → namesColumn field.options = false) →
      (schema.HasDistinctColumns ↔ (options.insensitive = true → ∀ path ∈ schema.paths,
        ∀ other ∈ schema.paths, lowerText path = lowerText other → path = other))) := by
  intro schema
  have h : schema.Tracks options (history options edits) := Schema.reached_tracks options edits
  exact ⟨fun table record listed statement hinsert =>
      ⟨(h.insert_parts hinsert).1, h.nodup_writtenColumns_iff⟩,
    h.hasDistinctColumns_iff, h.hasDistinctColumns_of_unnamed⟩

/-- Two fields that name the same column, and two paths that differ in letter case only. -/
theorem column_written_twice :
    (∃ schema, Schema.ofDeclaration (.obj [
        ("a", .obj [("type", .str "string"), ("name", .str "x")]),
        ("b", .obj [("type", .str "string"), ("name", .str "x")])]) {} = .ok schema ∧
      schema.insert "t" (.obj [("a", .str "1"), ("b", .str "2")]) []
        = .ok ⟨"INSERT INTO t (x, x) VALUES (?, ?)", [.str "1", .str "2"], none⟩ ∧
      ¬(schema.writtenColumns (.obj [("a", .str "1"), ("b", .str "2")]) []).Nodup) ∧
    ∃ schema, Schema.ofDeclaration (.obj [("A", .str "string"), ("a", .str "string")])
        { insensitive := true } = .ok schema ∧
      schema.insert "t" (.obj [("A", .str "1"), ("a", .str "2")]) []
        = .ok ⟨"INSERT INTO t (a, a) VALUES (?, ?)", [.str "1", .str "2"], none⟩ ∧
      ¬(schema.writtenColumns (.obj [("A", .str "1"), ("a", .str "2")]) []).Nodup := by
  have hnamed : (Schema.ofDeclaration (.obj [
      ("a", .obj [("type", .str "string"), ("name", .str "x")]),
      ("b", .obj [("type", .str "string"), ("name", .str "x")])]) {}).map (fun schema =>
        (schema.insert "t" (.obj [("a", .str "1"), ("b", .str "2")]) [],
          schema.writtenColumns (.obj [("a", .str "1"), ("b", .str "2")]) []))
      = .ok (.ok ⟨"INSERT INTO t (x, x) VALUES (?, ?)", [.str "1", .str "2"], none⟩,
        ["x", "x"]) := by
    cbv
  have hlowered : (Schema.ofDeclaration (.obj [("A", .str "string"), ("a", .str "string")])
      { insensitive := true }).map (fun schema =>
        (schema.insert "t" (.obj [("A", .str "1"), ("a", .str "2")]) [],
          schema.writtenColumns (.obj [("A", .str "1"), ("a", .str "2")]) []))
      = .ok (.ok ⟨"INSERT INTO t (a, a) VALUES (?, ?)", [.str "1", .str "2"], none⟩,
        ["a", "a"]) := by
    cbv
  obtain ⟨named, hnamed, hruns⟩ := map_eq_ok_iff.1 hnamed
  obtain ⟨lowered, hlowered, hruns'⟩ := map_eq_ok_iff.1 hlowered
  obtain ⟨hinsert, hcolumns⟩ := Prod.mk.inj hruns
  obtain ⟨hinsert', hcolumns'⟩ := Prod.mk.inj hruns'
  refine ⟨⟨named, hnamed, hinsert, ?_⟩, lowered, hlowered, hinsert', ?_⟩
  · rw [hcolumns]
    decide
  · rw [hcolumns']
    decide

end RecordSchema
