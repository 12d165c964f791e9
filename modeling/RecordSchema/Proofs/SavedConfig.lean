import Mathlib
import RecordSchema.Proofs.SettingPaths
import RecordSchema.Proofs.TomlLines

/-!
# Saved configurations

A saved configuration holds every setting. So when its file is the one that a run names, nothing of
the files before it is left, and only variables of the environment stand above it.

## Main definitions

* `Config.lines`: the lines of a saved configuration.
* `Config.IsOverridden`: a configuration under the variables of an environment.

## Main statements

* `Config.parse?_document`: a saved configuration is read as it was.
* `Config.value?_mergeAll_fields`: it sets all settings, whatever stands there.
* `saved_config_loaded`: what is saved is loaded again.
-/

namespace RecordSchema

/-! ## The document -/

namespace Config

/-- The lines of a saved configuration. -/
def lines (config : Config) : List (List Char) :=
  ['[' :: "schema".toList ++ [']'],
    "insensitive".toList ++ ' ' :: '=' :: ' ' :: (flagText config.schema.insensitive).toList,
    [],
    '[' :: "compiler".toList ++ [']'],
    "trace_queries".toList ++ ' ' :: '=' :: ' ' :: (flagText config.compiler.traceQueries).toList,
    "default_limit".toList ++ ' ' :: '=' :: ' ' ::
      (decimalText config.compiler.defaultLimit).toList]

theorem toList_document (config : Config) :
    config.document.toList = config.lines.flatMap (· ++ ['\n']) := by
  unfold document lines
  generalize flagText config.schema.insensitive = insensitive
  generalize flagText config.compiler.traceQueries = traceQueries
  generalize decimalText config.compiler.defaultLimit = defaultLimit
  simp only [String.toList_append, List.flatMap_cons, List.flatMap_nil, List.append_assoc,
    List.cons_append, List.nil_append, List.append_nil]
  rfl

theorem readsAll_lines {config : Config}
    (h : Word64.fitsSigned config.compiler.defaultLimit = true) :
    ∃ draft : TomlText.Draft, TomlText.ReadsAll {} config.lines draft ∧
      Json.obj draft.root.toFields = config.toJson := by
  obtain ⟨⟨insensitive⟩, ⟨traceQueries, defaultLimit⟩⟩ := config
  have hflag : ∀ flag, IsRun TomlText.isWordChar (flagText flag).toList := fun flag => by
    cases flag <;> exact .of_all rfl
  have hlimit : IsRun TomlText.isWordChar (decimalText defaultLimit).toList := by
    rw [decimalText, String.toList_ofList]
    exact ⟨fun c hc => TomlText.isWordChar_of_isDigit (TomlScalar.isDigit_of_mem_toDigits hc),
      Nat.toDigits_ne_nil⟩
  let schema : TomlNode := .table .opened [("insensitive", .value (.bool insensitive))]
  let compiler : TomlNode := .table .opened [("trace_queries", .value (.bool traceQueries)),
    ("default_limit", .value (.num (.int defaultLimit)))]
  let opened (entries : Entries TomlNode) (key : String) : TomlText.Draft :=
    ⟨⟨.opened, entries⟩, [key]⟩
  have hschema : TomlText.Reads {} ('[' :: "schema".toList ++ [']'])
      (opened [("schema", .table .opened [])] "schema") :=
    TomlText.reads_header (.of_all rfl) rfl
  have hinsensitive : TomlText.Reads (opened [("schema", .table .opened [])] "schema")
      ("insensitive".toList ++ ' ' :: '=' :: ' ' :: (flagText insensitive).toList)
      (opened [("schema", schema)] "schema") :=
    TomlText.reads_pair (.of_all rfl) (hflag _) (TomlScalar.ofWord?_flagText _) rfl
  have hcompiler : TomlText.Reads (opened [("schema", schema)] "schema")
      ('[' :: "compiler".toList ++ [']'])
      (opened [("schema", schema), ("compiler", .table .opened [])] "compiler") :=
    TomlText.reads_header (.of_all rfl) rfl
  have htraceQueries : TomlText.Reads
      (opened [("schema", schema), ("compiler", .table .opened [])] "compiler")
      ("trace_queries".toList ++ ' ' :: '=' :: ' ' :: (flagText traceQueries).toList)
      (opened [("schema", schema), ("compiler",
        .table .opened [("trace_queries", .value (.bool traceQueries))])] "compiler") :=
    TomlText.reads_pair (.of_all rfl) (hflag _) (TomlScalar.ofWord?_flagText _) rfl
  have hdefaultLimit : TomlText.Reads
      (opened [("schema", schema), ("compiler",
        .table .opened [("trace_queries", .value (.bool traceQueries))])] "compiler")
      ("default_limit".toList ++ ' ' :: '=' :: ' ' :: (decimalText defaultLimit).toList)
      (opened [("schema", schema), ("compiler", compiler)] "compiler") :=
    TomlText.reads_pair (.of_all rfl) hlimit (TomlScalar.ofWord?_decimalText h) rfl
  exact ⟨_, .cons hschema (.cons hinsensitive (.cons (TomlText.reads_nil _) (.cons hcompiler
    (.cons htraceQueries (.cons hdefaultLimit (.nil _)))))), rfl⟩

theorem withMoments?_toJson (config : Config) :
    config.toJson.withMoments? = some config.toJson :=
  rfl

/-- A saved configuration does not begin with a byte order mark. -/
theorem toList_document_ne_mark (config : Config) (rest : List Char) :
    config.document.toList ≠ '\uFEFF' :: rest := fun hmark => by
  rw [toList_document] at hmark
  cases hmark

/-- A saved configuration is read as it was. -/
theorem parse?_document {config : Config}
    (h : Word64.fitsSigned config.compiler.defaultLimit = true) :
    ∃ fields, Toml.parse? config.document = some fields ∧ Json.obj fields = config.toJson := by
  obtain ⟨draft, hdraft, hfields⟩ := readsAll_lines h
  have hrun := hdraft.run_document
    (Nat.lt_add_one_of_le (TomlText.length_le_length_flatMap config.lines))
  rw [← toList_document] at hrun
  have hparse : Toml.parse? config.document
      = (Json.obj draft.root.toFields).withMoments?.bind Json.asFields? := by
    unfold Toml.parse?
    split
    · exact absurd ‹_› (config.toList_document_ne_mark _)
    · dsimp only
      rw [hrun]
      rfl
  rw [hparse, hfields, withMoments?_toJson]
  exact ⟨_, rfl, rfl⟩

/-! ## Layers -/

/-- The fields of a group in a saved configuration. -/
def groupFields (config : Config) : Setting → Fields
  | .insensitive => [("insensitive", .bool config.schema.insensitive)]
  | .traceQueries | .defaultLimit => [("trace_queries", .bool config.compiler.traceQueries),
      ("default_limit", .ofInt config.compiler.defaultLimit)]

/-- The fields of a saved configuration. -/
def fields (config : Config) : Fields :=
  [("schema", .obj (config.groupFields .insensitive)),
    ("compiler", .obj (config.groupFields .defaultLimit))]

/-- The value of a setting in a saved configuration. -/
def saved (config : Config) : Setting → Json
  | .insensitive => .bool config.schema.insensitive
  | .traceQueries => .bool config.compiler.traceQueries
  | .defaultLimit => .ofInt config.compiler.defaultLimit

/-- The file of a saved configuration is merged key by key into what the earlier files say. -/
theorem addFile_document {config : Config}
    (h : Word64.fitsSigned config.compiler.defaultLimit = true) (settings : Json) :
    addFile settings (.toml, config.document) = .ok (settings.mergeAll config.fields) := by
  obtain ⟨fields, hparse, hfields⟩ := parse?_document h
  obtain rfl : fields = config.fields := Json.obj.inj hfields
  have hmark : withoutMark config.document = config.document := by
    unfold withoutMark
    split
    · exact absurd ‹_› (config.toList_document_ne_mark _)
    · rfl
  have hsettings : ConfigFormat.parse .toml config.document = .ok config.fields := by
    rw [ConfigFormat.parse, hparse]
    rfl
  have hschema : KeyPath.ofText "schema" = ⟨[], .key "schema"⟩ := by decide +kernel
  have hcompiler : KeyPath.ofText "compiler" = ⟨[], .key "compiler"⟩ := by decide +kernel
  unfold addFile
  rw [hmark, hsettings]
  simp only [fields, List.foldlM_cons, List.foldlM_nil, hschema, hcompiler, bind, Except.bind]
  rfl

theorem keys_groupFields (config : Config) (setting : Setting) :
    Entries.keys (config.groupFields setting) = setting.groupKeys := by
  cases setting <;> rfl

/-- A saved configuration sets all settings, whatever stands there. -/
theorem value?_mergeAll_fields (config : Config) (settings : Json) (setting : Setting) :
    setting.value? (settings.mergeAll config.fields) = some (config.saved setting) := by
  have hgroup : (setting.group, Json.obj (config.groupFields setting)) ∈ config.fields := by
    cases setting <;> simp [Setting.group, fields, groupFields]
  have hkey : (setting.key, config.saved setting) ∈ config.groupFields setting := by
    cases setting <;> simp [Setting.key, groupFields, saved]
  have hvalue : (config.saved setting).asFields? = none := by
    cases setting <;> rfl
  have hgroups : (Entries.keys config.fields).Nodup ∧
      ∀ key ∈ Entries.keys config.fields, lowerText key = key := by
    change ["schema", "compiler"].Nodup ∧ ∀ key ∈ ["schema", "compiler"], lowerText key = key
    decide +kernel
  obtain ⟨hdistinct, hlower⟩ := setting.groupKeys_plain
  rw [← keys_groupFields config] at hdistinct hlower
  rw [Setting.value?_eq, Json.get?_mergeAll_of_mem hgroups.1 hgroups.2 hgroup,
    Json.get?_merge_obj setting.lowerText_group, Option.bind_some,
    Json.get?_mergeAll_of_mem hdistinct hlower hkey]
  exact Json.get?_merge_self setting.lowerText_key hvalue _

/-- The configuration in settings that are all there and have values that fit. -/
theorem ofFields?_of_value? {settings : Json} (values : Setting → Json)
    (h : ∀ setting : Setting, setting.value? settings = some (values setting)) {result : Config}
    (hschema : (values .insensitive).asSetting? = some result.schema.insensitive)
    (htrace : (values .traceQueries).asSetting? = some result.compiler.traceQueries)
    (hlimit : (values .defaultLimit).asCount? = some result.compiler.defaultLimit) :
    ofFields? (settings.asFields?.getD []) = some result := by
  obtain ⟨fields, schema, rfl, hgroup, hinsensitive⟩ :=
    Setting.value?_eq_some_iff.1 (h .insensitive)
  obtain ⟨_, compiler, hfields, hcompiler, htraceQueries⟩ :=
    Setting.value?_eq_some_iff.1 (h .traceQueries)
  cases hfields
  obtain ⟨_, _, hfields, hsame, hdefaultLimit⟩ := Setting.value?_eq_some_iff.1 (h .defaultLimit)
  cases hfields
  cases hcompiler.symm.trans hsame
  dsimp only [Setting.group, Setting.key] at hgroup hinsensitive
  dsimp only [Setting.group, Setting.key] at hcompiler htraceQueries hdefaultLimit
  simp [Json.asFields?, ofFields?, schemaOptions?, compilerSettings?, settings?, read?, hgroup,
    hcompiler, hinsensitive, htraceQueries, hdefaultLimit, hschema, htrace, hlimit]

/-- Whether a configuration is another one whose settings are overridden by the environment
variables that are there for them. -/
structure IsOverridden (config : Config) (environment : List (String × String))
    (result : Config) : Prop where
  /-- The letter case of column names. -/
  insensitive : read? Json.asSetting? config.schema.insensitive
    (Setting.insensitive.given? environment) = some result.schema.insensitive
  /-- The tracing of statements. -/
  traceQueries : read? Json.asSetting? config.compiler.traceQueries
    (Setting.traceQueries.given? environment) = some result.compiler.traceQueries
  /-- The limit of a SELECT without one. -/
  defaultLimit : read? Json.asCount? config.compiler.defaultLimit
    (Setting.defaultLimit.given? environment) = some result.compiler.defaultLimit

/-- Without variables a configuration stays as it is. -/
theorem isOverridden_self {config : Config} {environment : List (String × String)}
    (h : ∀ entry ∈ environment, variablePath? entry.1 = none) :
    config.IsOverridden environment config := by
  have hnone : ∀ setting : Setting, setting.given? environment = none := fun setting => by
    unfold Setting.given?
    rw [Option.map_eq_none_iff, List.find?_eq_none]
    intro entry hentry hname
    have hpath := h entry (List.mem_reverse.1 hentry)
    rw [Setting.variablePath?_of_variableName (of_decide_eq_true hname)] at hpath
    cases hpath
  constructor <;> rw [hnone] <;> rfl

theorem convert_given {α : Type} {convert : Json → Option α} {own : α} {saved : Json}
    (h : convert saved = some own) (given : Option Json) :
    convert (given.getD saved) = read? convert own given := by
  cases given with
  | none => exact h
  | some value => rfl

/-- What is loaded with a saved file is what was saved, as far as no variable overrides it. -/
theorem load_of_read? {config result : Config} {workspace : Workspace} {name : String}
    (hfits : Word64.fitsSigned config.compiler.defaultLimit = true)
    (hread : workspace.read? name = some config.document) (hname : formatOf? name = some .toml)
    {lower : Json}
    (hlower : (optionalFiles workspace).foldlM (addOptional workspace) (.obj []) = .ok lower)
    (hvariables : ∀ entry ∈ workspace.environment, Setting.IsRegular entry.1)
    (h : config.IsOverridden workspace.environment result) :
    load workspace (some name) = .ok result := by
  have hfile : findFile? workspace name = some (.toml, config.document) := by
    rw [findFile?, hread]
    simp [hname]
  have hadded := addFile_document hfits lower
  obtain ⟨settings, hsettings, hvalues⟩ :=
    Setting.exists_foldlM_addVariable hvariables (lower.mergeAll config.fields)
  have hgather : gather workspace (some name) = .ok settings := by
    unfold gather
    rw [hlower]
    simp only [Option.toList_some, List.foldlM_cons, List.foldlM_nil, addRequired, hfile, hadded,
      bind, Except.bind, pure, Except.pure]
    exact hsettings
  have hflag : ∀ flag, (Json.bool flag).asSetting? = some flag := fun _ => rfl
  have hlimit : (config.saved .defaultLimit).asCount? = some config.compiler.defaultLimit := by
    simp [saved, Json.ofInt, Json.asCount?, hfits]
  have hresult : ofFields? (settings.asFields?.getD []) = some result := by
    refine ofFields?_of_value?
      (fun setting => (setting.given? workspace.environment).getD (config.saved setting))
      (fun setting => ?_) ?_ ?_ ?_
    · rw [hvalues, value?_mergeAll_fields]
      cases setting.given? workspace.environment <;> rfl
    · exact (convert_given (hflag _) _).trans h.insensitive
    · exact (convert_given (hflag _) _).trans h.traceQueries
    · exact (convert_given hlimit _).trans h.defaultLimit
  unfold load
  rw [hgather]
  simp [bind, Except.bind, hresult]

/-- A configuration is saved when its limit fits and the file can be written. -/
theorem save?_eq_some_iff {config : Config} {name : String} {workspace after : Workspace} :
    config.save? name workspace = some after ↔
      Word64.fitsSigned config.compiler.defaultLimit = true ∧
        workspace.write? name config.document = some after := by
  unfold save?
  split
  · rename_i hfits
    simp [hfits]
  · rename_i hfits
    simp [hfits]

end Config

/-- A configuration is saved just when its limit fits a signed 64-bit word and the file can be
written, and is in the file then. Loaded with this file, if its name ends as those of TOML documents
do and the files before it can be read, it is what it was, whatever they say, when the environment
has no variables for settings; otherwise a variable of a setting overrides this one alone. -/
theorem saved_config_loaded (config : Config) (name : String) (workspace : Workspace) :
    (Word64.fitsSigned config.compiler.defaultLimit = true →
      config.save? name workspace = workspace.write? name config.document) ∧
    (Word64.fitsSigned config.compiler.defaultLimit = false →
      config.save? name workspace = none) ∧
    ∀ after lower, config.save? name workspace = some after →
      Config.formatOf? name = some .toml →
      (Config.optionalFiles after).foldlM (Config.addOptional after) (.obj []) = .ok lower →
      ((∀ entry ∈ after.environment, Config.variablePath? entry.1 = none) →
        Config.load after (some name) = .ok config) ∧
      ((∀ entry ∈ after.environment, Setting.IsRegular entry.1) →
        ∀ result, config.IsOverridden after.environment result →
          Config.load after (some name) = .ok result) := by
  refine ⟨fun hfits => if_pos hfits, fun hlarge => if_neg (by simp [hlarge]),
    fun after lower hsave hname hlower => ?_⟩
  obtain ⟨hfits, hwrite⟩ := Config.save?_eq_some_iff.1 hsave
  have hread := Workspace.read?_of_write? hwrite
  refine ⟨fun hnone => ?_, fun hregular result hoverridden =>
    Config.load_of_read? hfits hread hname hlower hregular hoverridden⟩
  exact Config.load_of_read? hfits hread hname hlower
    (fun entry hentry => Setting.isRegular_of_variablePath?_eq_none (hnone entry hentry))
    (Config.isOverridden_self hnone)

/-- A file with another limit does not count, and a variable with one does. -/
theorem saved_config_loaded_limit :
    let config : Config := ⟨⟨true⟩, ⟨false, 7⟩⟩
    let workspace : Workspace :=
      { files := [(["cql-schema.toml"], "[compiler]\ndefault_limit = 3\n")]
        environment := [("HOME", "/"), ("CQL_SCHEMA__COMPILER__DEFAULT_LIMIT", "9")] }
    ∃ after, config.save? "c.toml" workspace = some after ∧
      Config.load after (some "c.toml") = .ok ⟨⟨true⟩, ⟨false, 9⟩⟩ := by
  intro config workspace
  let after := workspace.put ["c.toml"] config.document
  have hsave : config.save? "c.toml" workspace = some after := by
    have hplace : workspace.locate? "c.toml" = some ["c.toml"] := by decide +kernel
    have hfree : workspace.hasDirectory ["c.toml"] = false := by decide +kernel
    rw [Config.save?_eq_some_iff, Workspace.write?, hplace]
    exact ⟨by decide, by simp [hfree, after]⟩
  have hname : Config.formatOf? "c.toml" = some .toml := by decide +kernel
  have hlower : ((Config.optionalFiles after).foldlM (Config.addOptional after)
      (.obj [])).isOk = true := by decide +kernel
  have hregular : ∀ entry ∈ after.environment, Setting.IsRegular entry.1 :=
    List.forall_mem_cons.2 ⟨Setting.isRegular_of_variablePath?_eq_none (by decide +kernel),
      List.forall_mem_singleton.2 (.inl ⟨.defaultLimit, by decide +kernel⟩)⟩
  have hoverridden : config.IsOverridden after.environment ⟨⟨true⟩, ⟨false, 9⟩⟩ :=
    ⟨by decide +kernel, by decide +kernel, by decide +kernel⟩
  refine ⟨after, hsave, ?_⟩
  cases hfiles : (Config.optionalFiles after).foldlM (Config.addOptional after) (.obj []) with
  | error fault =>
    rw [hfiles] at hlower
    cases hlower
  | ok lower =>
    exact ((saved_config_loaded config "c.toml" workspace).2.2 after lower hsave hname hfiles).2
      hregular _ hoverridden

end RecordSchema
