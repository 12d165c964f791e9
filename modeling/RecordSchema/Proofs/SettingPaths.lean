import Mathlib
import RecordSchema.Config.Sources

/-!
# Settings and key paths

What is set by key path leaves alone what stands beside it: a value whose own names part from the
path at some key. So a variable of the environment that is named after a setting sets this one and
no other, and of several the last one counts.

## Main definitions

* `KeyPath.PartsFrom`: a path beside nested names.
* `KeyPath.IsReachable`: a step that can always be taken.
* `Setting`, `Setting.value?`: the settings of a configuration, and what stands for them.
* `Setting.given?`: what the environment says about a setting.
* `Setting.IsRegular`: a variable that sets one setting or none.

## Main statements

* `KeyPath.foldlM_get?_of_partsFrom`: what a path leaves alone.
* `KeyPath.exists_set?`: a path of reachable steps can be set.
* `Setting.exists_addVariable`, `Setting.exists_foldlM_addVariable`: what one variable and what an
  environment does to the settings.

## Termination

`KeyPath.PartsFrom` descends on the path.
-/

namespace RecordSchema

/-! ## Setting values -/

namespace Json

/-- A key that is set stands for its value, unless this is an object. -/
theorem get?_merge_self {key : String} (hkey : lowerText key = key) {value : Json}
    (hvalue : value.asFields? = none) (target : Json) :
    (target.merge key value).get? key = some value := by
  cases value with
  | obj fields => cases hvalue
  | _ => simp [merge, get?, hkey]

/-- An object that is set is merged into what is there. -/
theorem get?_merge_obj {key : String} (hkey : lowerText key = key) (target : Json)
    (fields : Fields) : (target.merge key (.obj fields)).get? key
      = some (mergeAll ((target.get? key).getD (.obj [])) fields) := by
  cases target <;> simp [merge, get?, asFields?, Entries.get?, hkey]

/-- The other keys stay as they were. -/
theorem get?_merge_of_ne {key other : String} (h : other ≠ lowerText key) (target value : Json) :
    (target.merge key value).get? other = target.get? other := by
  cases value <;> cases target <;>
    simp [merge, get?, asFields?, Entries.get?_put_of_ne _ h, Entries.get?]

/-- What stands under a key that is set depends on what stood there, and on nothing else. -/
theorem get?_merge_congr {key : String} (hkey : lowerText key = key) {target other : Json}
    (h : target.get? key = other.get? key) (value : Json) :
    (target.merge key value).get? key = (other.merge key value).get? key := by
  cases hvalue : value.asFields? with
  | none => rw [get?_merge_self hkey hvalue, get?_merge_self hkey hvalue]
  | some fields =>
    obtain rfl : value = .obj fields := by
      cases value <;> simp_all [asFields?]
    rw [get?_merge_obj hkey, get?_merge_obj hkey, h]

/-- Keys that are set in turn leave the others as they were. -/
theorem get?_mergeAll_of_not_mem {fields : Fields} {key : String}
    (hlower : ∀ other ∈ Entries.keys fields, lowerText other = other)
    (h : key ∉ Entries.keys fields) (target : Json) :
    (target.mergeAll fields).get? key = target.get? key := by
  induction fields generalizing target with
  | nil => rfl
  | cons head rest ih =>
    obtain ⟨first, value⟩ := head
    simp only [Entries.keys, List.map_cons, List.mem_cons, not_or] at hlower h ih
    rw [mergeAll, ih (fun other hother => hlower other (.inr hother)) h.2]
    refine get?_merge_of_ne ?_ target value
    rw [hlower first (.inl rfl)]
    exact h.1

/-- Different keys that are set in turn do not disturb each other. -/
theorem get?_mergeAll_of_mem {fields : Fields} (hdistinct : (Entries.keys fields).Nodup)
    (hlower : ∀ key ∈ Entries.keys fields, lowerText key = key) {key : String} {value : Json}
    (h : (key, value) ∈ fields) (target : Json) :
    (target.mergeAll fields).get? key = (target.merge key value).get? key := by
  induction fields generalizing target with
  | nil => cases h
  | cons head rest ih =>
    obtain ⟨first, other⟩ := head
    obtain ⟨hfirst, hdistinct⟩ := List.nodup_cons.1 hdistinct
    have hrest : ∀ key ∈ Entries.keys rest, lowerText key = key :=
      fun key hkey => hlower key (List.mem_cons_of_mem _ hkey)
    rw [mergeAll]
    rcases List.mem_cons.1 h with heq | hmem
    · cases heq
      exact get?_mergeAll_of_not_mem hrest hfirst _
    · have hkey : key ∈ Entries.keys rest := List.mem_map_of_mem hmem
      rw [ih hdistinct hrest hmem]
      refine get?_merge_congr (hrest key hkey) (get?_merge_of_ne ?_ target other) value
      rw [hlower first List.mem_cons_self]
      exact fun heq => hfirst (heq ▸ hkey)

end Json

namespace KeyPath

/-- Whether the value of a path stands beside the value of nested names, neither above nor below
it. -/
def PartsFrom : List KeyStep → KeyStep → List String → Prop
  | .key key :: parents, last, name :: names => key ≠ name ∨ PartsFrom parents last names
  | [], .key key, name :: _ => lowerText key ≠ name
  | _, _, _ => False

/-- Whether a step leads somewhere in every value: positions are not counted from the end and are
within the reach of lists. -/
def IsReachable : KeyStep → Prop
  | .key _ => True
  | .position index => 0 ≤ index ∧ index < 0x100000000

theorem change?_key (act : Json → Option Json) (key : String) (rest : List KeyStep)
    (target : Json) : change? act (.key key :: rest) target
      = (change? act rest ((target.get? key).getD .null)).map fun value =>
          .obj (Entries.put (target.asFields?.getD []) key value) := by
  cases target <;> simp [change?, Json.get?, Json.asFields?, Entries.get?]

theorem get?_put_fields (target value : Json) (key other : String) :
    (Json.obj (Entries.put (target.asFields?.getD []) key value)).get? other
      = if other = key then some value else target.get? other := by
  split
  · rename_i heq
    subst heq
    simp [Json.get?]
  · rename_i hne
    cases target <;> simp [Json.get?, Json.asFields?, Entries.get?_put_of_ne _ hne, Entries.get?]

theorem not_partsFrom_nil (parents : List KeyStep) (last : KeyStep) :
    ¬PartsFrom parents last [] := by
  unfold PartsFrom
  split <;> simp_all

/-- What a path sets leaves the values beside it as they are. -/
theorem foldlM_get?_of_partsFrom {last : KeyStep} {value : Json} {parents : List KeyStep}
    {names : List String} (h : PartsFrom parents last names) {target changed : Json}
    (hset : set? ⟨parents, last⟩ value target = some changed) :
    names.foldlM Json.get? changed = names.foldlM Json.get? target := by
  induction parents generalizing names target changed with
  | nil =>
    cases last with
    | position index => simp [PartsFrom] at h
    | key key =>
      cases names with
      | nil => simp [PartsFrom] at h
      | cons name names =>
        cases hset
        rw [List.foldlM_cons, List.foldlM_cons, Json.get?_merge_of_ne (Ne.symm h)]
  | cons step parents ih =>
    cases step with
    | position index => simp [PartsFrom] at h
    | key key =>
      cases names with
      | nil => simp [PartsFrom] at h
      | cons name names =>
        rw [set?, change?_key, Option.map_eq_some_iff] at hset
        obtain ⟨inner, hinner, rfl⟩ := hset
        rw [List.foldlM_cons, List.foldlM_cons, get?_put_fields]
        split
        · rename_i heq
          have hparts : PartsFrom parents last names := h.resolve_left fun hne => hne heq.symm
          have hsame := ih hparts hinner
          subst heq
          cases hget : target.get? name with
          | some value => simpa [hget] using hsame
          | none =>
            obtain ⟨next, others, rfl⟩ := List.exists_cons_of_ne_nil
              fun hnil => not_partsFrom_nil parents last (hnil ▸ hparts)
            rw [hget] at hsame
            exact hsame
        · rfl

theorem isSome_placeOf? {index : Int} (h : IsReachable (.position index)) (length : Nat) :
    (placeOf? index length).isSome := by
  rw [placeOf?, if_neg (not_lt.2 h.1), if_pos h.2]
  rfl

theorem isSome_changeItem? {index : Int} (h : IsReachable (.position index))
    {act : Json → Option Json} (hact : ∀ target, (act target).isSome) (target : Json) :
    (changeItem? index act target).isSome := by
  unfold changeItem?
  obtain ⟨place, hplace⟩ := Option.isSome_iff_exists.1
    (isSome_placeOf? h (target.asItems?.getD []).length)
  dsimp only
  rw [hplace]
  simp [Option.isSome_bind, hact]

theorem isSome_change? {act : Json → Option Json} (hact : ∀ target, (act target).isSome)
    {steps : List KeyStep} (hsteps : ∀ step ∈ steps, IsReachable step) (target : Json) :
    (change? act steps target).isSome := by
  induction steps generalizing target with
  | nil => exact hact target
  | cons step steps ih =>
    have hrest := ih fun other hother => hsteps other (List.mem_cons_of_mem _ hother)
    cases step with
    | key key =>
      rw [change?_key, Option.isSome_map]
      exact hrest _
    | position index =>
      exact isSome_changeItem? (hsteps _ List.mem_cons_self) hrest target

/-- A path of reachable steps can be set. -/
theorem exists_set? {path : KeyPath} (h : ∀ step ∈ path.last :: path.parents, IsReachable step)
    (value target : Json) : ∃ changed, path.set? value target = some changed := by
  have hlast := h _ List.mem_cons_self
  have hparents := fun step hstep => h step (List.mem_cons_of_mem _ hstep)
  rw [← Option.isSome_iff_exists]
  refine isSome_change? (fun parent => ?_) hparents target
  split
  · rfl
  · rename_i index heq
    rw [heq] at hlast
    exact isSome_changeItem? hlast (fun _ => rfl) parent

end KeyPath

/-! ## Settings -/

/-- The settings of a configuration. -/
inductive Setting where
  /-- Whether column names are in lower case. -/
  | insensitive
  /-- Whether compiled statements are traced. -/
  | traceQueries
  /-- The limit of a SELECT without one. -/
  | defaultLimit
deriving DecidableEq, Repr

namespace Setting

/-- The group of a setting. -/
def group : Setting → String
  | insensitive => "schema"
  | traceQueries | defaultLimit => "compiler"

/-- The name of a setting in its group. -/
def key : Setting → String
  | insensitive => "insensitive"
  | traceQueries => "trace_queries"
  | defaultLimit => "default_limit"

/-- The names of the settings of a group. -/
def groupKeys : Setting → List String
  | insensitive => ["insensitive"]
  | traceQueries | defaultLimit => ["trace_queries", "default_limit"]

/-- The names that lead to a setting. -/
def names (setting : Setting) : List String :=
  [setting.group, setting.key]

/-- The key path of a setting. -/
def path (setting : Setting) : KeyPath :=
  ⟨[.key setting.group], .key setting.key⟩

/-- The name of the environment variable of a setting, in lower case. -/
def variableName (setting : Setting) : String :=
  "cql_schema__" ++ setting.group ++ "__" ++ setting.key

/-- The value of a setting. -/
def value? (setting : Setting) (settings : Json) : Option Json :=
  setting.names.foldlM Json.get? settings

/-- The value that environment variables give a setting: that of its last variable. -/
def given? (setting : Setting) (environment : List (String × String)) : Option Json :=
  (environment.reverse.find? fun entry => lowerText entry.1 = setting.variableName).map
    fun entry => Config.variableValue entry.2

/-- Whether a name is that of the variable of a setting, or leads to no setting: its key path
neither leads through a setting nor to something above it. -/
def IsRegular (name : String) : Prop :=
  (∃ setting : Setting, lowerText name = setting.variableName) ∨
    ∀ path, Config.variablePath? name = some path →
      (∀ step ∈ path.last :: path.parents, KeyPath.IsReachable step) ∧
        ∀ setting : Setting, KeyPath.PartsFrom path.parents path.last setting.names

theorem value?_eq (setting : Setting) (settings : Json) :
    setting.value? settings = (settings.get? setting.group).bind (·.get? setting.key) := by
  simp [value?, names]

theorem value?_eq_some_iff {setting : Setting} {settings value : Json} :
    setting.value? settings = some value ↔ ∃ fields group, settings = .obj fields ∧
      Entries.get? fields setting.group = some (.obj group) ∧
      Entries.get? group setting.key = some value := by
  rw [value?_eq]
  cases settings with
  | obj fields =>
    cases hgroup : Entries.get? fields setting.group with
    | none => simp [Json.get?, hgroup]
    | some group => cases group <;> simp [Json.get?, hgroup]
  | _ => simp [Json.get?]

theorem isRegular_of_variablePath?_eq_none {name : String}
    (h : Config.variablePath? name = none) : IsRegular name :=
  .inr fun _ hpath => nomatch h.symm.trans hpath

theorem lowerText_group (setting : Setting) : lowerText setting.group = setting.group := by
  cases setting <;> decide +kernel

theorem lowerText_key (setting : Setting) : lowerText setting.key = setting.key := by
  cases setting <;> decide +kernel

/-- The names of the settings of a group are different and in lower case. -/
theorem groupKeys_plain (setting : Setting) :
    setting.groupKeys.Nodup ∧ ∀ key ∈ setting.groupKeys, lowerText key = key := by
  cases setting <;> decide +kernel

theorem partsFrom {setting other : Setting} (h : setting ≠ other) :
    KeyPath.PartsFrom setting.path.parents setting.path.last other.names := by
  simp only [path, names, KeyPath.PartsFrom, lowerText_key]
  revert h
  cases setting <;> cases other <;> decide

theorem variableName_inj {setting other : Setting}
    (h : setting.variableName = other.variableName) : setting = other := by
  revert h
  cases setting <;> cases other <;> decide

theorem variablePath?_of_variableName {setting : Setting} {name : String}
    (h : lowerText name = setting.variableName) :
    Config.variablePath? name = some setting.path := by
  unfold Config.variablePath?
  rw [h]
  cases setting <;> decide +kernel

theorem value?_set? {setting : Setting} {value settings changed : Json}
    (hvalue : value.asFields? = none) (h : setting.path.set? value settings = some changed) :
    setting.value? changed = some value := by
  rw [path, KeyPath.set?, KeyPath.change?_key, Option.map_eq_some_iff] at h
  obtain ⟨inner, hinner, rfl⟩ := h
  cases hinner
  have hself := Json.get?_merge_self setting.lowerText_key hvalue
    ((settings.get? setting.group).getD .null)
  rw [value?_eq, KeyPath.get?_put_fields, if_pos rfl]
  exact hself

theorem asFields?_variableValue (text : String) :
    (Config.variableValue text).asFields? = none := by
  unfold Config.variableValue
  dsimp only
  repeat' split
  all_goals rfl

/-- A regular variable sets the setting that it is the variable of, and no other. -/
theorem exists_addVariable {entry : String × String} (h : IsRegular entry.1) (settings : Json) :
    ∃ changed, Config.addVariable settings entry = .ok changed ∧ ∀ setting : Setting,
      setting.value? changed = if lowerText entry.1 = setting.variableName
        then some (Config.variableValue entry.2) else setting.value? settings := by
  unfold Config.addVariable Config.assign
  by_cases hnamed : ∃ setting : Setting, lowerText entry.1 = setting.variableName
  · obtain ⟨setting, hname⟩ := hnamed
    rw [variablePath?_of_variableName hname]
    have hreachable : ∀ step ∈ setting.path.last :: setting.path.parents,
        KeyPath.IsReachable step := by simp [path, KeyPath.IsReachable]
    obtain ⟨changed, hchanged⟩ :=
      KeyPath.exists_set? hreachable (Config.variableValue entry.2) settings
    refine ⟨changed, by simp [hchanged], fun other => ?_⟩
    by_cases hother : setting = other
    · subst hother
      rw [if_pos hname]
      exact value?_set? (asFields?_variableValue entry.2) hchanged
    · rw [if_neg fun heq => hother (variableName_inj (hname.symm.trans heq))]
      exact KeyPath.foldlM_get?_of_partsFrom (partsFrom hother) hchanged
  · have hbeside := h.resolve_left hnamed
    cases hpath : Config.variablePath? entry.1 with
    | none => exact ⟨settings, rfl, fun setting => (if_neg fun heq => hnamed ⟨setting, heq⟩).symm⟩
    | some path =>
      obtain ⟨hreachable, hparts⟩ := hbeside path hpath
      obtain ⟨changed, hchanged⟩ :=
        KeyPath.exists_set? hreachable (Config.variableValue entry.2) settings
      refine ⟨changed, by simp [hchanged], fun setting => ?_⟩
      rw [if_neg fun heq => hnamed ⟨setting, heq⟩]
      exact KeyPath.foldlM_get?_of_partsFrom (hparts setting) hchanged

/-- Regular variables set the settings that they are the variables of, the last one winning. -/
theorem exists_foldlM_addVariable {environment : List (String × String)}
    (h : ∀ entry ∈ environment, IsRegular entry.1) (settings : Json) :
    ∃ changed, environment.foldlM Config.addVariable settings = .ok changed ∧
      ∀ setting : Setting,
        setting.value? changed = (setting.given? environment).or (setting.value? settings) := by
  induction environment generalizing settings with
  | nil => exact ⟨settings, rfl, fun _ => rfl⟩
  | cons entry rest ih =>
    obtain ⟨next, hnext, hfirst⟩ := exists_addVariable (h entry List.mem_cons_self) settings
    obtain ⟨changed, hchanged, hvalues⟩ :=
      ih (fun other hother => h other (List.mem_cons_of_mem _ hother)) next
    refine ⟨changed, ?_, fun setting => ?_⟩
    · rw [List.foldlM_cons, hnext]
      exact hchanged
    · rw [hvalues setting, hfirst setting]
      unfold given?
      rw [List.reverse_cons, List.find?_append]
      cases rest.reverse.find? fun entry => decide (lowerText entry.1 = setting.variableName) with
      | some last => rfl
      | none =>
        simp only [List.find?_cons]
        split <;> simp_all

end Setting

end RecordSchema
