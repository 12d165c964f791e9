import Mathlib
import RecordSchema.CommandLine.Run
import RecordSchema.Proofs.Consistency

/-!
# What a run of the program shows

A run prints what the library answers: the statement for the criteria or the record of the run, the
default document, or the lines of the fields. What has to be loaded for that, and what an argument
stands for, is said here as relations, without an order of steps. A run for which there is an answer
prints it and nothing else, with exit code 2 for a statement that reports failures and 0 otherwise.
A run without an answer prints nothing; its exit code is 1, but 101 when the configuration breaks
the run off.

## Main definitions

* `Workspace.Holds`: the value that an argument stands for.
* `Invocation.Prepares`: the schema and the settings of a run.
* `Command.Answers`: what the library answers to a command, as text and exit code.
* `IsReported`: a step that fails with exit code 1 only.

## Main statements

* `Workspace.argumentValue_eq_ok_iff`, `Invocation.perform_eq_ok_iff`: when arguments are read and
  runs succeed.
* `Invocation.answers_of_execute`, `Command.Answers.execute`: what is printed is an answer, and an
  answer is printed.
* `Invocation.exitCode_of_perform_error`: the exit code of a run that fails.
* `runs_show_answers`: what a run shows.
* `breaking_position_unreported`: a configuration that breaks a run off.
-/

namespace RecordSchema

/-! ## Answers -/

/-- Whether an argument stands for a value: it is the JSON text of the value, or it names, after an
at sign, a file with such a text. -/
def Workspace.Holds (workspace : Workspace) (argument : String) (value : Json) : Prop :=
  ∃ text, Json.parse text = some value ∧
    (argument.toList.head? ≠ some '@' ∧ text = argument ∨
      ∃ name, argument = "@" ++ name ∧ workspace.read? name = some text)

/-- Whether a run has a schema and settings: the configuration can be loaded, and the file of the
schema holds a declaration. Columns are in lower case when the configuration or the run says so. -/
def Invocation.Prepares (invocation : Invocation) (workspace : Workspace) (schema : Schema)
    (settings : CompilerSettings) : Prop :=
  ∃ config text declaration, Config.load workspace invocation.config = .ok config ∧
    workspace.read? invocation.schema = some text ∧ Json.parse text = some declaration ∧
    Schema.ofDeclaration declaration
      { insensitive := config.schema.insensitive || invocation.insensitive } = .ok schema ∧
    settings = config.compiler

/-- What the library answers to a command: the text that is printed, and the exit code. -/
inductive Command.Answers (workspace : Workspace) (schema : Schema) (settings : CompilerSettings) :
    Command → String → UInt8 → Prop
  /-- One line for each leaf of the tree. -/
  | paths {lines : List String}
      (hlines : List.Forall₂ (fun path line => ∃ field, schema.find? path = some field ∧
        line = field.line path) schema.leafPaths lines) :
      Answers workspace schema settings .paths (String.join lines) 0
  /-- The SELECT statement for the criteria, which are null when the run gives none. -/
  | select {table : String} {criteria : Option String} {fields : List String} {limit : Nat}
      {value : Json} {statement : Statement}
      (hcriteria : criteria = none ∧ value = .null ∨
        ∃ argument, criteria = some argument ∧ workspace.Holds argument value)
      (hstatement : schema.select settings table value fields limit = .ok statement) :
      Answers workspace schema settings (.select table criteria fields limit)
        (statement.toJson.indented ++ "\n") 0
  /-- The INSERT statement for the record, printed also when it reports failures. -/
  | insert {table record : String} {fields : List String} {value : Json} {statement : Statement}
      (hrecord : workspace.Holds record value)
      (hstatement : schema.insert table value fields = .ok statement) :
      Answers workspace schema settings (.insert table record fields)
        (statement.toJson.indented ++ "\n") (if statement.failures.isSome then 2 else 0)
  /-- The default document without a projection. -/
  | build_whole :
      Answers workspace schema settings (.build none) ((schema.build none).1.indented ++ "\n") 0
  /-- The default document under a projection. -/
  | build {argument : String} {value : Json} {projection : Projection}
      (hargument : workspace.Holds argument value)
      (hprojection : Projection.ofJson value = .ok projection) :
      Answers workspace schema settings (.build (some argument))
        ((schema.build (some projection)).1.indented ++ "\n") 0

/-! ## Steps -/

theorem refuse_eq_ok_iff {α : Type} {outcome : Except SchemaError α} {result : α} :
    refuse outcome = .ok result ↔ outcome = .ok result := by
  cases outcome <;> simp [refuse]

theorem map_refuse_eq_ok_iff {α β : Type} {f : α → β} {outcome : Except SchemaError α}
    {result : β} :
    (refuse outcome).map f = .ok result ↔ ∃ inner, outcome = .ok inner ∧ result = f inner := by
  cases outcome <;> simp [refuse, Except.map, eq_comm]

theorem pure_eq_ok_iff {ε α : Type} {given result : α} :
    (pure given : Except ε α) = .ok result ↔ result = given := by
  simp [pure, Except.pure, eq_comm]

theorem Workspace.require_eq_ok_iff {workspace : Workspace} {name text : String} :
    workspace.require name = .ok text ↔ workspace.read? name = some text := by
  unfold require
  cases workspace.read? name <;> simp

/-- The value of an argument is read when the argument stands for it. -/
theorem Workspace.argumentValue_eq_ok_iff {workspace : Workspace} {argument : String}
    {value : Json} :
    workspace.argumentValue argument = .ok value ↔ workspace.Holds argument value := by
  unfold argumentValue Holds
  dsimp only
  split
  · rename_i name hat
    have hname : ∀ other, argument = "@" ++ other ↔ String.ofList name = other := fun other => by
      rw [← String.toList_inj, hat, ← String.toList_inj]
      simp
    simp only [bind_eq_ok_iff, require_eq_ok_iff, hat, hname, List.head?_cons, ne_eq,
      not_true_eq_false, false_and, false_or, exists_eq_left']
    refine exists_congr fun text => ?_
    rw [and_comm]
    refine and_congr_left fun _ => ?_
    cases Json.parse text <;> simp
  · rename_i hplain
    have hhead : argument.toList.head? ≠ some '@' := fun hat => by
      obtain ⟨rest, hrest⟩ := List.head?_eq_some_iff.1 hat
      exact hplain rest hrest
    have hname : ∀ name, argument ≠ "@" ++ name := fun name he => by
      subst he
      simp at hhead
    simp only [bind_eq_ok_iff, hhead, hname, ne_eq, not_false_eq_true, true_and, false_and,
      exists_false, or_false, Except.ok.injEq, exists_eq_left', exists_eq_right]
    cases Json.parse argument <;> simp

theorem Invocation.configuration_eq_ok_iff {invocation : Invocation} {workspace : Workspace}
    {config : Config} : invocation.configuration workspace = .ok config ↔
      ∃ loaded, Config.load workspace invocation.config = .ok loaded ∧ config = { loaded with
        schema := { insensitive := loaded.schema.insensitive || invocation.insensitive } } := by
  unfold configuration
  cases Config.load workspace invocation.config <;> simp [eq_comm]

theorem Invocation.loadSchema_eq_ok_iff {invocation : Invocation} {workspace : Workspace}
    {options : SchemaOptions} {schema : Schema} :
    invocation.loadSchema workspace options = .ok schema ↔
      ∃ text declaration, workspace.read? invocation.schema = some text ∧
        Json.parse text = some declaration ∧
        Schema.ofDeclaration declaration options = .ok schema := by
  unfold loadSchema
  simp only [bind_eq_ok_iff, Workspace.require_eq_ok_iff]
  refine exists_congr fun text => ?_
  cases hparse : Json.parse text with
  | none => simp
  | some declaration =>
    cases hdeclared : Schema.ofDeclaration declaration options <;> simp [hdeclared]

/-- The schema of a declaration is that of a run of edits. -/
theorem Schema.eq_reached_of_ofDeclaration {declaration : Json} {options : SchemaOptions}
    {schema : Schema} (h : ofDeclaration declaration options = .ok schema) :
    schema = reached options [.add declaration ""] := by
  unfold ofDeclaration at h
  split at h
  · rename_i hadd
    cases h
    simp [reached, editAll, edit, hadd]
  · cases h

theorem Schema.exists_find?_of_mem_leafPaths {declaration : Json} {options : SchemaOptions}
    {schema : Schema} (h : ofDeclaration declaration options = .ok schema) {path : String}
    (hpath : path ∈ schema.leafPaths) : ∃ field, schema.find? path = some field := by
  have htracks := reached_tracks options [.add declaration ""]
  rw [← eq_reached_of_ofDeclaration h] at htracks
  exact htracks.exists_find? (htracks.mem_leafPaths_iff.1 hpath)

theorem Invocation.perform_eq_ok_iff {invocation : Invocation} {workspace : Workspace}
    {printout : Printout} : invocation.perform workspace = .ok printout ↔
      ∃ schema settings, invocation.Prepares workspace schema settings ∧
        execute invocation.command schema settings workspace = .ok printout := by
  unfold perform Prepares
  simp only [bind_eq_ok_iff, configuration_eq_ok_iff, loadSchema_eq_ok_iff]
  constructor
  · rintro ⟨_, ⟨loaded, hload, rfl⟩, schema, ⟨text, declaration, hread, hparse, hschema⟩, hdone⟩
    exact ⟨schema, _, ⟨loaded, text, declaration, hload, hread, hparse, hschema, rfl⟩, hdone⟩
  · rintro ⟨schema, _, ⟨loaded, text, declaration, hload, hread, hparse, hschema, rfl⟩, hdone⟩
    exact ⟨_, ⟨loaded, hload, rfl⟩, schema, ⟨text, declaration, hread, hparse, hschema⟩, hdone⟩

/-! ## Commands -/

section Lines

variable {schema : Schema} {paths lines : List String}

theorem forall₂_lines (h : ∀ path ∈ paths, ∃ field, schema.find? path = some field) :
    List.Forall₂ (fun path line => ∃ field, schema.find? path = some field ∧ line = field.line path)
      paths (paths.filterMap fun path => (schema.find? path).map (Descriptor.line path)) := by
  induction paths with
  | nil => exact .nil
  | cons path rest ih =>
    obtain ⟨field, hfind⟩ := h path List.mem_cons_self
    rw [List.filterMap_cons, hfind]
    exact .cons ⟨field, hfind, rfl⟩ (ih fun other hother => h other (List.mem_cons_of_mem _ hother))

theorem eq_filterMap_of_forall₂_lines (h : List.Forall₂
    (fun path line => ∃ field, schema.find? path = some field ∧ line = field.line path)
      paths lines) :
    paths.filterMap (fun path => (schema.find? path).map (Descriptor.line path)) = lines := by
  induction h with
  | nil => rfl
  | cons hline _ ih =>
    obtain ⟨field, hfind, rfl⟩ := hline
    rw [List.filterMap_cons, hfind, ih]
    rfl

end Lines

variable {command : Command} {schema : Schema} {settings : CompilerSettings}
  {workspace : Workspace}

/-- The exit code of a printout. -/
def Printout.exitCode (printout : Printout) : UInt8 :=
  if printout.valid then 0 else 2

theorem Printout.exitCode_ofStatement (statement : Statement) :
    (ofStatement statement).exitCode = if statement.failures.isSome then 2 else 0 := by
  unfold exitCode ofStatement Statement.isValid
  cases statement.failures <;> rfl

/-- A SELECT reports no failures. -/
theorem Schema.failures_of_select {table : String} {criteria : Json} {fields : List String}
    {limit : Nat} {statement : Statement}
    (h : schema.select settings table criteria fields limit = .ok statement) :
    statement.failures = none := by
  unfold select at h
  simp only [bind_eq_ok_iff] at h
  obtain ⟨_, _, _, _, _, _, hstatement⟩ := h
  cases hstatement
  rfl

namespace Invocation

theorem execute_select_eq_ok_iff {table : String} {criteria : Option String} {fields : List String}
    {limit : Nat} {printout : Printout} :
    execute (.select table criteria fields limit) schema settings workspace = .ok printout ↔
      ∃ value statement,
        (criteria = none ∧ value = .null ∨
          ∃ argument, criteria = some argument ∧ workspace.Holds argument value) ∧
        schema.select settings table value fields limit = .ok statement ∧
        printout = .ofStatement statement := by
  cases criteria with
  | none =>
    simp only [execute, bind_eq_ok_iff, refuse_eq_ok_iff, pure_eq_ok_iff]
    simp
  | some argument =>
    simp only [execute, bind_eq_ok_iff, refuse_eq_ok_iff, pure_eq_ok_iff,
      Workspace.argumentValue_eq_ok_iff]
    simp

theorem execute_insert_eq_ok_iff {table record : String} {fields : List String}
    {printout : Printout} :
    execute (.insert table record fields) schema settings workspace = .ok printout ↔
      ∃ value statement, workspace.Holds record value ∧
        schema.insert table value fields = .ok statement ∧ printout = .ofStatement statement := by
  simp only [execute, bind_eq_ok_iff, refuse_eq_ok_iff, pure_eq_ok_iff,
    Workspace.argumentValue_eq_ok_iff, exists_and_left]

theorem execute_build_eq_ok_iff {argument : String} {printout : Printout} :
    execute (.build (some argument)) schema settings workspace = .ok printout ↔
      ∃ value projection, workspace.Holds argument value ∧
        Projection.ofJson value = .ok projection ∧
        printout = .ofJson (schema.build (some projection)).1 := by
  simp only [execute, bind_eq_ok_iff, map_refuse_eq_ok_iff, pure_eq_ok_iff,
    Workspace.argumentValue_eq_ok_iff]
  simp

/-- What a command prints is an answer of the library. -/
theorem answers_of_execute
    (hleaves : ∀ path ∈ schema.leafPaths, ∃ field, schema.find? path = some field)
    {printout : Printout} (h : execute command schema settings workspace = .ok printout) :
    command.Answers workspace schema settings printout.text printout.exitCode := by
  cases command with
  | paths =>
    cases h
    exact .paths (forall₂_lines hleaves)
  | select table criteria fields limit =>
    obtain ⟨value, statement, hvalue, hstatement, rfl⟩ := execute_select_eq_ok_iff.1 h
    rw [Printout.exitCode_ofStatement, Schema.failures_of_select hstatement]
    exact .select hvalue hstatement
  | insert table record fields =>
    obtain ⟨value, statement, hvalue, hstatement, rfl⟩ := execute_insert_eq_ok_iff.1 h
    rw [Printout.exitCode_ofStatement]
    exact .insert hvalue hstatement
  | build projection =>
    cases projection with
    | none =>
      cases h
      exact .build_whole
    | some argument =>
      obtain ⟨value, projection, hvalue, hprojection, rfl⟩ := execute_build_eq_ok_iff.1 h
      exact .build hvalue hprojection

end Invocation

/-- An answer of the library is printed. -/
theorem Command.Answers.execute {text : String} {code : UInt8}
    (h : command.Answers workspace schema settings text code) :
    ∃ printout, Invocation.execute command schema settings workspace = .ok printout ∧
      printout.text = text ∧ printout.exitCode = code := by
  cases h with
  | paths hlines =>
    refine ⟨_, rfl, ?_, rfl⟩
    rw [eq_filterMap_of_forall₂_lines hlines]
  | select hvalue hstatement =>
    refine ⟨_, Invocation.execute_select_eq_ok_iff.2 ⟨_, _, hvalue, hstatement, rfl⟩, rfl, ?_⟩
    rw [Printout.exitCode_ofStatement, Schema.failures_of_select hstatement]
    rfl
  | insert hvalue hstatement =>
    exact ⟨_, Invocation.execute_insert_eq_ok_iff.2 ⟨_, _, hvalue, hstatement, rfl⟩, rfl,
      Printout.exitCode_ofStatement _⟩
  | build_whole => exact ⟨_, rfl, rfl, rfl⟩
  | build hvalue hprojection =>
    exact ⟨_, Invocation.execute_build_eq_ok_iff.2 ⟨_, _, hvalue, hprojection, rfl⟩, rfl, rfl⟩

/-! ## Failures -/

/-- Whether a step fails with exit code 1 only. -/
def IsReported {α : Type} (outcome : Except RunError α) : Prop :=
  ∀ e, outcome = .error e → e.exitCode = 1

namespace IsReported

variable {α β : Type}

theorem ok (result : α) : IsReported (.ok result) := fun _ h => nomatch h

theorem error {e : RunError} (h : e.exitCode = 1) : IsReported (.error e : Except RunError α) :=
  fun _ he => by
    cases he
    exact h

theorem bind {outcome : Except RunError α} {next : α → Except RunError β}
    (h : IsReported outcome) (hnext : ∀ result, IsReported (next result)) :
    IsReported (outcome >>= next) := by
  cases outcome with
  | ok result => exact hnext result
  | error e => exact .error (h e rfl)

theorem refuse (outcome : Except SchemaError α) : IsReported (refuse outcome) := by
  cases outcome with
  | ok result => exact .ok result
  | error cause => exact .error rfl

theorem require (workspace : Workspace) (name : String) : IsReported (workspace.require name) := by
  unfold Workspace.require
  split
  · exact .ok _
  · exact .error rfl

theorem argumentValue (workspace : Workspace) (argument : String) :
    IsReported (workspace.argumentValue argument) := by
  unfold Workspace.argumentValue
  dsimp only
  split
  · refine (require workspace _).bind fun text => ?_
    cases Json.parse text with
    | some value => exact .ok value
    | none => exact .error rfl
  · refine (ok argument).bind fun text => ?_
    cases Json.parse text with
    | some value => exact .ok value
    | none => exact .error rfl

theorem loadSchema (invocation : Invocation) (workspace : Workspace) (options : SchemaOptions) :
    IsReported (invocation.loadSchema workspace options) := by
  refine (require workspace _).bind fun text => ?_
  split
  · exact .error rfl
  · split
    · exact .ok _
    · exact .error rfl

theorem execute (command : Command) (schema : Schema) (settings : CompilerSettings)
    (workspace : Workspace) :
    IsReported (Invocation.execute command schema settings workspace) := by
  have hstatement : ∀ outcome : Except SchemaError Statement,
      IsReported (do return Printout.ofStatement (← RecordSchema.refuse outcome)) := fun outcome =>
    (refuse outcome).bind fun statement => .ok _
  cases command with
  | paths => exact .ok _
  | select table criteria fields limit =>
    cases criteria with
    | none => exact hstatement _
    | some argument => exact (argumentValue workspace argument).bind fun _ => hstatement _
  | insert table record fields =>
    exact (argumentValue workspace record).bind fun _ => hstatement _
  | build projection =>
    cases projection with
    | none => exact .ok _
    | some argument =>
      refine (argumentValue workspace argument).bind fun value => ?_
      cases Projection.ofJson value with
      | ok projection => exact .ok _
      | error cause => exact .error rfl

end IsReported

theorem Invocation.perform_of_load_error {invocation : Invocation} {fault : ConfigFault}
    (h : Config.load workspace invocation.config = .error fault) :
    invocation.perform workspace = .error (.configuration fault) := by
  unfold perform configuration
  rw [h]
  rfl

/-- The exit code of a run that fails is 1, unless its configuration breaks it off. -/
theorem Invocation.exitCode_of_perform_error {invocation : Invocation} {e : RunError}
    (h : invocation.perform workspace = .error e) :
    e.exitCode = if Config.load workspace invocation.config = .error .broken then 101 else 1 := by
  cases hload : Config.load workspace invocation.config with
  | error fault =>
    rw [perform_of_load_error hload] at h
    cases h
    cases fault <;> rfl
  | ok config =>
    unfold perform configuration at h
    rw [hload] at h
    rw [if_neg (by simp)]
    exact (IsReported.loadSchema _ _ _).bind (fun schema => .execute _ _ _ _) e h

/-! ## Runs -/

theorem Outcome.ofArguments_eq {arguments : List String} {invocation : Invocation}
    (h : Invocation.ofArguments arguments = .ok invocation) (workspace : Workspace) :
    ofArguments arguments workspace = ofResult (invocation.perform workspace) := by
  unfold ofArguments
  rw [h]

/-- What a run shows whose arguments fit. If its configuration can be loaded and its schema be
declared, and the library answers to its command, then the answer is printed, with exit code 2 for
an INSERT that reports failures and 0 otherwise. If there is no answer, nothing is printed, and the
exit code is 1, but 101 if the configuration breaks the run off. -/
theorem runs_show_answers {arguments : List String} {invocation : Invocation}
    (h : Invocation.ofArguments arguments = .ok invocation) (workspace : Workspace) :
    let shown := Outcome.ofArguments arguments workspace
    let IsAnswer := fun text code => ∃ schema settings,
      invocation.Prepares workspace schema settings ∧
        invocation.command.Answers workspace schema settings text code
    (∀ text code, IsAnswer text code → shown.output = text ∧ shown.exitCode = code) ∧
    ((¬ ∃ text code, IsAnswer text code) → shown.output = "" ∧ shown.exitCode =
      if Config.load workspace invocation.config = .error .broken then 101 else 1) := by
  intro shown IsAnswer
  have hshown : shown = Outcome.ofResult (invocation.perform workspace) :=
    Outcome.ofArguments_eq h workspace
  refine ⟨fun text code hanswer => ?_, fun hnone => ?_⟩
  · obtain ⟨schema, settings, hprepares, hanswers⟩ := hanswer
    obtain ⟨printout, hdone, rfl, rfl⟩ := hanswers.execute
    rw [hshown, Invocation.perform_eq_ok_iff.2 ⟨schema, settings, hprepares, hdone⟩]
    exact ⟨rfl, rfl⟩
  · cases hperform : invocation.perform workspace with
    | error e =>
      rw [hshown, hperform]
      exact ⟨rfl, Invocation.exitCode_of_perform_error hperform⟩
    | ok printout =>
      obtain ⟨schema, settings, hprepares, hdone⟩ := Invocation.perform_eq_ok_iff.1 hperform
      have hleaves : ∀ path ∈ schema.leafPaths, ∃ field, schema.find? path = some field := by
        obtain ⟨_, _, declaration, _, _, _, hdeclared, _⟩ := hprepares
        exact fun path => Schema.exists_find?_of_mem_leafPaths hdeclared
      have hanswers := Invocation.answers_of_execute hleaves hdone
      exact absurd ⟨_, _, schema, settings, hprepares, hanswers⟩ hnone

/-- An INSERT into a table without columns: the run is answered when the configuration can be
loaded, and fails with exit code 1 when it cannot. -/
theorem runs_show_answers_insert :
    let arguments := ["--schema", "s.json", "insert", "--table", "t", "--record", "\x7b\x7d"]
    let statement : Statement :=
      { query := "INSERT INTO t () VALUES ()", params := [], failures := none }
    let workspace : Workspace := { files := [(["s.json"], "\x7b\x7d")] }
    let unusable : Workspace := workspace.put ["cql-schema.toml"] "?"
    let shown := Outcome.ofArguments arguments workspace
    let refused := Outcome.ofArguments arguments unusable
    (shown.output = statement.toJson.indented ++ "\n" ∧ shown.exitCode = 0) ∧
      refused.output = "" ∧ refused.exitCode = 1 := by
  intro arguments statement workspace unusable shown refused
  have harguments : Invocation.ofArguments arguments
      = .ok ⟨"s.json", none, false, .insert "t" "\x7b\x7d" []⟩ := by cbv
  have hparse : Json.parse "\x7b\x7d" = some (.obj []) := by cbv
  have hheld : workspace.Holds "\x7b\x7d" (.obj []) := ⟨_, hparse, .inl ⟨by decide, rfl⟩⟩
  have hdeclared : Schema.ofDeclaration (.obj []) {} = .ok (Schema.empty {}) := by cbv
  have hstatement : (Schema.empty {}).insert "t" (.obj []) [] = .ok statement := by cbv
  have hload : Config.load workspace none = .ok {} := by decide +kernel
  have hread : workspace.read? "s.json" = some "\x7b\x7d" := by decide +kernel
  have hunusable : Config.load unusable none = .error .unusable := by decide +kernel
  constructor
  · exact (runs_show_answers harguments workspace).1 _ _ ⟨Schema.empty {}, {},
      ⟨{}, _, _, hload, hread, hparse, hdeclared, rfl⟩, .insert hheld hstatement⟩
  · have hnone := (runs_show_answers harguments unusable).2 ?_
    · rw [hunusable] at hnone
      exact hnone
    · rintro ⟨_, _, _, _, ⟨_, _, _, hloaded, _⟩, _⟩
      rw [hunusable] at hloaded
      cases hloaded

/-- A position before the start of a list: the configuration cannot be loaded, and the exit code is
not 1. -/
theorem breaking_position_unreported :
    let workspace : Workspace :=
      { files := [(["schema.json"], "\x7b\x7d"), (["cql-schema.toml"], "\"a[-1]\" = 1\n")] }
    (∃ fault, Config.load workspace none = .error fault) ∧
      (Outcome.ofArguments ["--schema", "schema.json", "paths"] workspace).exitCode ≠ 1 := by
  intro workspace
  have hload : Config.load workspace none = .error .broken := by decide +kernel
  refine ⟨⟨_, hload⟩, ?_⟩
  let invocation : Invocation := ⟨"schema.json", none, false, .paths⟩
  have harguments : Invocation.ofArguments ["--schema", "schema.json", "paths"]
      = .ok invocation := by cbv
  have hperform : invocation.perform workspace = .error (.configuration .broken) :=
    Invocation.perform_of_load_error hload
  rw [Outcome.ofArguments_eq harguments, hperform]
  decide

end RecordSchema
