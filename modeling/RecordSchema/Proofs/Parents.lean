import Mathlib
import RecordSchema.Proofs.Flattening
import RecordSchema.Proofs.SelectStatement

/-!
# Parents of declared fields

A nested shape registers its path before its keys are declared, and nothing else registers a
parent. So the registered parents are the paths above declared fields as long as declarations spell
every parent as a shape of its own and no declaration fails. A dotted path does not register what
is above it, and a declaration that fails may leave a parent without fields.

## Main definitions

* `Schema.Names`, `Schema.NamesAll`: whether the parents of a path, or of all declared paths, are
  registered.
* `Edit.NamesParents`: whether the parents of what an edit declares are registered before it.

## Main statements

* `Schema.mem_nested_performAll`, `Schema.mem_nested_reached`: which parents are registered.
* `Schema.NamesAll.performAll`: plain keys keep every parent registered.
* `Schema.declaresBelow_of_runs`: in a run that succeeds every shape comes to a field.
* `nested_paths_are_registered`: which paths are nested after any run of edits.
* `dotted_parent_unregistered`: a parent that is not registered, and one without fields.
-/

namespace RecordSchema

open RecordSchema.Path

namespace Schema

variable {schema after : Schema} {path other : String} {event : Event}

/-! ## What a step registers and declares -/

theorem mem_nested_perform : path ∈ (schema.perform event).1.nested ↔
    path ∈ schema.nested ∨ event = .nest path := by
  cases event with
  | nest other =>
    rw [perform, mem_nested_addNested, Event.nest.injEq, eq_comm]
  | define other declaration =>
    rw [perform, nested_define]
    simp
  | refuse other => simp [perform]

theorem paths_subset_perform : schema.paths ⊆ (schema.perform event).1.paths := by
  cases event with
  | nest path =>
    intro other h
    rwa [perform, paths_addNested]
  | define path declaration => exact fun other h => mem_paths_define.2 (.inl h)
  | refuse path => exact fun other h => h

/-! ## What a run registers and declares -/

/-- A run registers the parents that it gets to. -/
theorem mem_nested_performAll {run : List Event} : path ∈ (schema.performAll run).1.nested ↔
    path ∈ schema.nested ∨ ∃ done rest middle,
      run = done ++ .nest path :: rest ∧ schema.Runs done middle := by
  induction run generalizing schema with
  | nil => simp [performAll]
  | cons event run ih =>
    have hstep : path ∈ (schema.perform event).1.nested ↔
        path ∈ schema.nested ∨ event = .nest path := mem_nested_perform
    rw [performAll]
    rcases hdone : schema.perform event with ⟨next, _ | e⟩ <;> rw [hdone] at hstep
    · simp only [ih, hstep]
      constructor
      · rintro ((hold | rfl) | ⟨done, rest, middle, rfl, hruns⟩)
        · exact .inl hold
        · exact .inr ⟨[], run, schema, rfl, .nil⟩
        · exact .inr ⟨event :: done, rest, middle, rfl, .cons hdone hruns⟩
      · rintro (hold | ⟨done, rest, middle, hrun, hruns⟩)
        · exact .inl (.inl hold)
        · cases hruns with
          | nil => exact .inl (.inr (List.cons.inj hrun).1)
          | cons hfirst hruns =>
            obtain ⟨rfl, rfl⟩ := List.cons.inj hrun
            cases hdone.symm.trans hfirst
            exact .inr ⟨_, rest, middle, rfl, hruns⟩
    · -- an event that fails registers nothing, and what follows it is not done
      simp only [hstep]
      refine or_congr_right ⟨?_, ?_⟩
      · rintro rfl
        cases hdone
      · rintro ⟨done, rest, middle, hrun, hruns⟩
        cases hruns with
        | nil => exact (List.cons.inj hrun).1
        | cons hfirst _ =>
          obtain ⟨rfl, _⟩ := List.cons.inj hrun
          cases hdone.symm.trans hfirst

theorem nested_subset_performAll {run : List Event} :
    schema.nested ⊆ (schema.performAll run).1.nested :=
  fun _ h => mem_nested_performAll.2 (.inl h)

theorem paths_subset_performAll {run : List Event} :
    schema.paths ⊆ (schema.performAll run).1.paths := by
  induction run generalizing schema with
  | nil => exact fun other h => h
  | cons event run ih =>
    have hstep : schema.paths ⊆ (schema.perform event).1.paths := paths_subset_perform
    rw [performAll]
    rcases hdone : schema.perform event with ⟨next, _ | e⟩ <;> rw [hdone] at hstep
    · exact fun other h => ih (hstep h)
    · exact hstep

theorem Runs.paths_subset {run : List Event} (hrun : schema.Runs run after) :
    schema.paths ⊆ after.paths := by
  have hpaths : schema.paths ⊆ (schema.performAll run).1.paths := paths_subset_performAll
  rwa [performAll_eq_none_iff.2 hrun] at hpaths

theorem Runs.nested_subset {run : List Event} (hrun : schema.Runs run after) :
    schema.nested ⊆ after.nested := by
  have hnested : schema.nested ⊆ (schema.performAll run).1.nested := nested_subset_performAll
  rwa [performAll_eq_none_iff.2 hrun] at hnested

/-! ## Parents that are registered -/

/-- Whether every parent of a path is registered. -/
def Names (schema : Schema) (path : String) : Prop :=
  ∀ parent, IsAbove parent path → parent ∈ schema.nested

/-- Whether every parent of every declared path is registered. -/
def NamesAll (schema : Schema) : Prop :=
  ∀ path ∈ schema.paths, schema.Names path

theorem Names.performAll {run : List Event} (h : schema.Names path) :
    (schema.performAll run).1.Names path :=
  fun parent habove => nested_subset_performAll (h parent habove)

theorem Names.append {key : String} (h : schema.Names path) (hkey : '.' ∉ key.toList) :
    schema.Names (path ++ key) :=
  fun parent habove => h parent ((isAbove_append_iff hkey).1 habove)

/-- Nothing is above the empty path. -/
theorem names_empty (schema : Schema) : schema.Names "" := by
  intro parent habove
  obtain ⟨rest, hrest⟩ := isAbove_iff_toList.1 habove
  simp at hrest

/-- Once a path is registered behind its parents, so are the parents of what is below it. -/
theorem Names.addNested (h : schema.Names path) : (schema.addNested path).Names (path ++ ".") := by
  intro parent habove
  rcases isAbove_dot_iff.1 habove with rfl | habove
  · exact mem_nested_addNested.2 (.inr rfl)
  · exact mem_nested_addNested.2 (.inl (h parent habove))

theorem NamesAll.addNested (h : schema.NamesAll) : (schema.addNested path).NamesAll :=
  fun other hother parent habove =>
    mem_nested_addNested.2 (.inl (h other (paths_addNested schema path ▸ hother) parent habove))

theorem NamesAll.define {declaration : Json} (h : schema.NamesAll) (hpath : schema.Names path) :
    (schema.define path declaration).1.NamesAll := by
  intro other hother
  rw [Names, nested_define]
  rcases mem_paths_define.1 hother with hold | ⟨rfl, _⟩
  · exact h other hold
  · exact hpath

/-- Plain keys below a lead whose parents are registered keep every parent registered. -/
theorem NamesAll.performAll {lead : String} {fields : Fields} {run : List Event}
    (hrun : Flattens lead fields run) (h : schema.NamesAll) (hlead : schema.Names lead)
    (hkeys : HasPlainKeys fields) : (schema.performAll run).1.NamesAll := by
  induction hrun generalizing schema with
  | nil => exact h
  | refuse _ _ => exact h
  | @nest lead key fields rest below after hnested _ _ ihbelow ih =>
    rw [performAll_nest, performAll_append]
    have hbelow : ((schema.addNested (lead ++ key)).performAll below).1.NamesAll :=
      ihbelow h.addNested (hlead.append hkeys.dot_not_mem).addNested (hkeys.head hnested)
    have hrest : ((schema.addNested (lead ++ key)).performAll below).1.Names lead :=
      Names.performAll fun parent habove => mem_nested_addNested.2 (.inl (hlead parent habove))
    split
    · rename_i hdone
      rw [hdone] at hbelow hrest
      exact ih hbelow hrest hkeys.tail
    · rename_i hdone
      rwa [hdone] at hbelow
  | @define lead key declaration rest after _ _ _ ih =>
    have hdefined : (schema.define (lead ++ key) declaration).1.NamesAll :=
      h.define (hlead.append hkeys.dot_not_mem)
    have hrest : (schema.define (lead ++ key) declaration).1.Names lead :=
      fun parent habove => nested_define schema _ _ ▸ hlead parent habove
    rw [Schema.performAll, perform]
    rcases hdone : schema.define (lead ++ key) declaration with ⟨next, _ | e⟩ <;>
      rw [hdone] at hdefined hrest
    · exact ih hdefined hrest hkeys.tail
    · exact hdefined

/-! ## Fields below parents -/

/-- Whether a declared field is below a path. -/
def DeclaresBelow (schema : Schema) (path : String) : Prop :=
  ∃ other ∈ schema.paths, IsAbove path other

/-- In a run that succeeds, the keys of an object that has some come to a field that begins with
their lead, and so there is a field below every parent that the run registers. -/
theorem declaresBelow_of_runs {lead : String} {fields : Fields} {run : List Event}
    (hflat : Flattens lead fields run) (hrun : schema.Runs run after) :
    (fields ≠ [] → ∃ rest, lead ++ rest ∈ after.paths) ∧
    ∀ path ∈ after.nested, path ∈ schema.nested ∨ after.DeclaresBelow path := by
  induction hflat generalizing schema after with
  | nil =>
    cases hrun
    exact ⟨fun h => absurd rfl h, fun path h => .inl h⟩
  | refuse _ _ =>
    cases hrun with
    | cons hstep _ => cases hstep
  | @nest lead key fields rest below back hnested _ _ ihbelow ih =>
    rw [← performAll_eq_none_iff, performAll_nest, performAll_append] at hrun
    split at hrun
    · rename_i middle hmiddle
      obtain ⟨hfield, hparents⟩ := ihbelow (performAll_eq_none_iff.1 hmiddle)
      obtain ⟨_, hrest⟩ := ih (performAll_eq_none_iff.1 hrun)
      have hgrow : middle.paths ⊆ after.paths := (performAll_eq_none_iff.1 hrun).paths_subset
      obtain ⟨tail, htail⟩ := hfield hnested.1
      refine ⟨fun _ => ⟨key ++ "." ++ tail, ?_⟩, fun path hpath => ?_⟩
      · simpa [String.append_assoc] using hgrow htail
      · rcases hrest path hpath with hold | hnew
        · rcases hparents path hold with hbefore | ⟨other, hother, habove⟩
          · rcases mem_nested_addNested.1 hbefore with hbefore | rfl
            · exact .inl hbefore
            · exact .inr ⟨_, hgrow htail, tail, rfl⟩
          · exact .inr ⟨other, hgrow hother, habove⟩
        · exact .inr hnew
    · cases hrun
  | @define lead key declaration rest back _ _ _ ih =>
    cases hrun with
    | @cons _ next _ _ _ hstep hrun =>
      have hnested := nested_define schema (lead ++ key) declaration
      have hkey : lead ++ key ∈ (schema.define (lead ++ key) declaration).1.paths :=
        mem_paths_define.2 (.inr ⟨rfl, congrArg Prod.snd hstep⟩)
      rw [perform] at hstep
      rw [hstep] at hnested hkey
      obtain ⟨_, hrest⟩ := ih hrun
      refine ⟨fun _ => ⟨key, ?_⟩, fun path hpath => hnested ▸ hrest path hpath⟩
      exact hrun.paths_subset hkey

end Schema

/-! ## Edits -/

/-- Whether the parents of what an edit declares are registered before it: those of a single field,
or those of the lead of an object in which no key holds a dot. -/
inductive Edit.NamesParents (schema : Schema) : Edit → Prop
  /-- An object below a lead whose parents are registered. -/
  | add {fields : Fields} {lead : String} (hlead : schema.Names lead)
      (hkeys : HasPlainKeys fields) : NamesParents schema (.add (.obj fields) lead)
  /-- What is no object declares nothing. -/
  | refused {declaration : Json} {lead : String} (hobject : ∀ fields, declaration ≠ .obj fields) :
      NamesParents schema (.add declaration lead)
  /-- A field whose parents are registered. -/
  | define {path : String} {declaration : Json} (hpath : schema.Names path) :
      NamesParents schema (.define path declaration)
  /-- Attaching declares nothing. -/
  | attach {path : String} {attachment : Attachment} : NamesParents schema (.attach path attachment)

namespace Schema

variable {schema : Schema} {options : SchemaOptions} {edits : List Edit}

theorem reached_append_singleton (options : SchemaOptions) (edits : List Edit) (edit : Edit) :
    reached options (edits ++ [edit]) = ((reached options edits).edit edit).1 := by
  simp [reached, editAll]

/-- An edit registers the parents that its events get to. -/
theorem mem_nested_edit {path : String} {edit : Edit} : path ∈ (schema.edit edit).1.nested ↔
    path ∈ schema.nested ∨ ∃ done rest middle,
      edit.events = done ++ .nest path :: rest ∧ schema.Runs done middle := by
  cases edit with
  | add declaration lead => rw [edit, add_eq_performAll, mem_nested_performAll]
  | define other declaration =>
    rw [edit, ← mem_nested_performAll, Edit.events, performAll_singleton]
    rfl
  | attach other attachment => simp [edit, Edit.events, modify]

/-- A run of edits registers the parents that the events of its edits get to. -/
theorem mem_nested_reached {path : String} : path ∈ (reached options edits).nested ↔
    ∃ front edit back done rest middle, edits = front ++ edit :: back ∧
      edit.events = done ++ .nest path :: rest ∧ (reached options front).Runs done middle := by
  induction edits using List.reverseRecOn with
  | nil => simp [reached, editAll, empty]
  | append_singleton edits edit ih =>
    rw [reached_append_singleton, mem_nested_edit, ih]
    constructor
    · rintro (⟨front, other, back, done, rest, middle, rfl, hevents, hrun⟩ |
        ⟨done, rest, middle, hevents, hrun⟩)
      · exact ⟨front, other, back ++ [edit], done, rest, middle, by simp, hevents, hrun⟩
      · exact ⟨edits, edit, [], done, rest, middle, rfl, hevents, hrun⟩
    · rintro ⟨front, other, back, done, rest, middle, hedits, hevents, hrun⟩
      rcases List.eq_nil_or_concat back with rfl | ⟨back, last, rfl⟩
      · obtain ⟨rfl, hlast⟩ := List.append_inj' hedits rfl
        cases hlast
        exact .inr ⟨done, rest, middle, hevents, hrun⟩
      · rw [List.concat_eq_append, ← List.cons_append, ← List.append_assoc] at hedits
        obtain ⟨rfl, _⟩ := List.append_inj' hedits rfl
        exact .inl ⟨front, other, back, done, rest, middle, rfl, hevents, hrun⟩

/-- An edit that names its parents keeps every parent registered. -/
theorem NamesAll.edit {edit : Edit} (h : schema.NamesAll) (hedit : edit.NamesParents schema) :
    (schema.edit edit).1.NamesAll := by
  cases hedit with
  | @add fields lead hlead hkeys =>
    rw [Schema.edit, add_eq_performAll]
    exact h.performAll (flattens_events lead fields) hlead hkeys
  | @refused declaration lead hobject =>
    cases declaration with
    | obj fields => exact absurd rfl (hobject fields)
    | null | bool | num | str | arr => exact h
  | define hpath => exact h.define hpath
  | @attach path attachment =>
    intro other hother
    rw [Schema.edit, paths_modify] at hother
    exact h other hother

theorem NamesAll.reached (h : ∀ front edit back, edits = front ++ edit :: back →
      edit.NamesParents (Schema.reached options front)) :
    (Schema.reached options edits).NamesAll := by
  induction edits using List.reverseRecOn with
  | nil => exact fun path hpath => absurd hpath List.not_mem_nil
  | append_singleton edits edit ih =>
    rw [reached_append_singleton]
    refine (ih fun front other back hedits => ?_).edit (h edits edit [] rfl)
    exact h front other (back ++ [edit]) (by simp [hedits])

/-- Whether a declared field is below every registered parent. -/
def IsPopulated (schema : Schema) : Prop :=
  ∀ path ∈ schema.nested, schema.DeclaresBelow path

theorem DeclaresBelow.mono {after : Schema} {path : String} (h : schema.DeclaresBelow path)
    (hgrow : schema.paths ⊆ after.paths) : after.DeclaresBelow path := by
  obtain ⟨other, hother, habove⟩ := h
  exact ⟨other, hgrow hother, habove⟩

/-- An edit that does not fail to declare an object keeps fields below every parent. -/
theorem IsPopulated.edit {edit : Edit} (h : schema.IsPopulated)
    (hedit : ∀ declaration lead, edit = .add declaration lead →
      (schema.add declaration lead).2 = none) : (schema.edit edit).1.IsPopulated := by
  intro path hpath
  cases edit with
  | add declaration lead =>
    have hdone := hedit declaration lead rfl
    cases declaration with
    | obj fields =>
      rw [Schema.edit, add_eq_performAll, Edit.events] at hpath ⊢
      rw [add_eq_performAll, Edit.events] at hdone
      have hrun : schema.Runs (events lead fields) (schema.performAll (events lead fields)).1 :=
        performAll_eq_none_iff.1 (Prod.ext rfl hdone)
      rcases (declaresBelow_of_runs (flattens_events lead fields) hrun).2 path hpath with
        hold | hnew
      · exact (h path hold).mono paths_subset_performAll
      · exact hnew
    | null | bool | num | str | arr => cases hdone
  | define other declaration =>
    rw [Schema.edit, nested_define] at hpath
    exact (h path hpath).mono fun known hknown => mem_paths_define.2 (.inl hknown)
  | attach other attachment =>
    refine (h path hpath).mono fun known hknown => ?_
    rwa [Schema.edit, paths_modify]

theorem IsPopulated.reached (h : ∀ front declaration lead back,
    edits = front ++ .add declaration lead :: back →
      ((Schema.reached options front).add declaration lead).2 = none) :
    (Schema.reached options edits).IsPopulated := by
  induction edits using List.reverseRecOn with
  | nil => exact fun path hpath => absurd hpath List.not_mem_nil
  | append_singleton edits edit ih =>
    rw [reached_append_singleton]
    refine (ih fun front declaration lead back hedits => ?_).edit fun declaration lead hadd => ?_
    · exact h front declaration lead (back ++ [edit]) (by simp [hedits])
    · exact h edits declaration lead [] (by rw [hadd])

/-! ## Nested paths -/

theorem pathKind_eq_nested_iff {path : String} :
    schema.pathKind path = .nested ↔ path ∉ schema.paths ∧ path ∈ schema.nested := by
  unfold pathKind
  by_cases hpath : path ∈ schema.paths
  · simp [declares_iff.2 hpath, hpath]
  · have hdeclares : schema.declares path = false := by
      rw [← Bool.not_eq_true, declares_iff]
      exact hpath
    by_cases hnested : path ∈ schema.nested
    · simp [hdeclares, hpath, hnested]
    · simp only [hdeclares, hpath, hnested, List.contains_iff_mem, if_false, Bool.false_eq_true,
        not_false_eq_true, and_false, iff_false]
      split <;> simp

end Schema

/-- After any run of edits, a path is nested when it is not declared and some edit got to the event
that registers it. When every edit names its parents, all paths above declared fields are nested.
When no declaration of an object failed, fields are declared below all nested paths. And when both
are so, a list of fields passes just when each of its entries covers a declared path. -/
theorem nested_paths_are_registered (options : SchemaOptions) (edits : List Edit) :
    let schema := Schema.reached options edits
    let namesParents := ∀ front edit back, edits = front ++ edit :: back →
      edit.NamesParents (Schema.reached options front)
    let succeeds := ∀ front declaration lead back,
      edits = front ++ .add declaration lead :: back →
        ((Schema.reached options front).add declaration lead).2 = none
    (∀ path, schema.pathKind path = .nested ↔ path ∉ schema.paths ∧
      ∃ front edit back done rest middle, edits = front ++ edit :: back ∧
        edit.events = done ++ .nest path :: rest ∧
        (Schema.reached options front).Runs done middle) ∧
    (namesParents → ∀ path ∈ schema.paths, ∀ parent, IsAbove parent path →
      schema.pathKind parent = .nested) ∧
    (succeeds → ∀ parent, schema.pathKind parent = .nested →
      ∃ path ∈ schema.paths, IsAbove parent path) ∧
    (namesParents → succeeds → ∀ listed, schema.checkListed listed = .ok () ↔
      ∀ entry ∈ listed, ∃ path ∈ schema.paths, Path.covers entry path = true) := by
  intro schema namesParents succeeds
  have h : schema.Tracks options (history options edits) := Schema.reached_tracks options edits
  have habove : namesParents → ∀ path ∈ schema.paths, ∀ parent, IsAbove parent path →
      schema.pathKind parent = .nested := fun hnames path hpath parent habove =>
    Schema.pathKind_eq_nested_iff.2 ⟨fun hparent => h.not_isAbove hparent hpath habove,
      Schema.NamesAll.reached hnames path hpath parent habove⟩
  have hbelow : succeeds → ∀ parent, schema.pathKind parent = .nested →
      ∃ path ∈ schema.paths, IsAbove parent path := fun hdone parent hparent =>
    Schema.IsPopulated.reached hdone parent (Schema.pathKind_eq_nested_iff.1 hparent).2
  refine ⟨fun path => ?_, habove, hbelow, fun hnames hdone listed => ?_⟩
  · rw [Schema.pathKind_eq_nested_iff, Schema.mem_nested_reached]
  · have hknown : ∀ entry, (entry ∈ schema.paths ∨ entry ∈ schema.nested) ↔
        ∃ path ∈ schema.paths, Path.covers entry path = true := by
      intro entry
      simp only [covers_iff]
      constructor
      · rintro (hpath | hnested)
        · exact ⟨entry, hpath, .inl rfl⟩
        · obtain ⟨path, hpath, hentry⟩ := Schema.IsPopulated.reached hdone entry hnested
          exact ⟨path, hpath, .inr hentry⟩
      · rintro ⟨path, hpath, rfl | hentry⟩
        · exact .inl hpath
        · exact .inr (Schema.pathKind_eq_nested_iff.1 (habove hnames path hpath entry hentry)).2
    simp only [← hknown]
    constructor
    · intro hok
      rcases schema.checkListed_cases listed with
        ⟨_, hall⟩ | ⟨known, field, rest, rfl, hfront, hpath, hnested⟩
      · exact hall
      · rw [Schema.checkListed_of_unknown hfront hpath hnested] at hok
        cases hok
    · exact Schema.checkListed_of_known

/-- A shape whose only field stands beside one that is defined below the same parent. -/
theorem nested_paths_are_registered_beside :
    let schema := Schema.reached {} [.add (.obj [("a", .obj [("b", .str "string")])]) "",
      .define "a.c" (.str "string")]
    schema.paths = ["a.b", "a.c"] ∧ schema.pathKind "a" = .nested ∧
    (∃ path ∈ schema.paths, IsAbove "a" path) ∧
    ∀ listed, schema.checkListed listed = .ok () ↔
      ∀ entry ∈ listed, ∃ path ∈ schema.paths, Path.covers entry path = true := by
  have hpaths : (Schema.reached {} [.add (.obj [("a", .obj [("b", .str "string")])]) "",
      .define "a.c" (.str "string")]).paths = ["a.b", "a.c"] := by
    cbv
  have hnested : (Schema.reached {} [.add (.obj [("a", .obj [("b", .str "string")])]) ""]
      ).nested = ["a"] := by
    cbv
  have hdone : ((Schema.empty {}).add (.obj [("a", .obj [("b", .str "string")])]) "").2
      = none := by
    cbv
  have hkeys : HasPlainKeys [("a", .obj [("b", .str "string")])] := by
    refine .intro (by decide) fun key inner hmem _ => ?_
    simp only [List.mem_singleton, Prod.mk.injEq, Json.obj.injEq] at hmem
    obtain ⟨rfl, rfl⟩ := hmem
    refine .intro (by decide) fun key inner hmem _ => ?_
    simp at hmem
  have hlast : (Schema.reached {} [.add (.obj [("a", .obj [("b", .str "string")])]) ""]
      ).Names "a.c" := by
    intro parent habove
    have hlead : IsAbove parent ("a" ++ ".") :=
      (isAbove_append_iff (by decide : '.' ∉ "c".toList)).1 habove
    rcases isAbove_dot_iff.1 hlead with rfl | hname
    · simp [hnested]
    · exact (Schema.names_empty _).append (by decide : '.' ∉ "a".toList) parent hname
  intro schema
  obtain ⟨_, habove, hbelow, hlisted⟩ := nested_paths_are_registered {}
    [.add (.obj [("a", .obj [("b", .str "string")])]) "",
      .define "a.c" (.str "string")]
  have hnames : ∀ front edit back,
      [Edit.add (.obj [("a", .obj [("b", .str "string")])]) "",
        .define "a.c" (.str "string")] = front ++ edit :: back →
      edit.NamesParents (Schema.reached {} front) := by
    intro front edit back hedits
    rcases front with _ | ⟨first, _ | ⟨second, front⟩⟩
    · obtain ⟨rfl, _⟩ := List.cons.inj hedits
      exact .add (Schema.names_empty _) hkeys
    · obtain ⟨rfl, hback⟩ := List.cons.inj hedits
      obtain ⟨rfl, _⟩ := List.cons.inj hback
      exact .define hlast
    · simp at hedits
  have hsucceeds : ∀ front declaration lead back,
      [Edit.add (.obj [("a", .obj [("b", .str "string")])]) "",
        .define "a.c" (.str "string")] = front ++ .add declaration lead :: back →
      ((Schema.reached {} front).add declaration lead).2 = none := by
    intro front declaration lead back hedits
    rcases front with _ | ⟨first, _ | ⟨second, front⟩⟩
    · obtain ⟨hadd, _⟩ := List.cons.inj hedits
      cases hadd
      exact hdone
    · simp at hedits
    · simp at hedits
  have hkind : schema.pathKind "a" = .nested :=
    habove hnames "a.b" (by rw [hpaths]; exact List.mem_cons_self) "a" ⟨"b", rfl⟩
  exact ⟨hpaths, hkind, hbelow hsucceeds "a" hkind, hlisted hnames hsucceeds⟩

/-- The definition of a dotted path leaves the path above it unknown, and a declaration that fails
below a parent leaves the parent without fields and known. -/
theorem dotted_parent_unregistered :
    ((Schema.reached {} [.define "a.b" (.str "string")]).paths = ["a.b"] ∧ IsAbove "a" "a.b" ∧
      (Schema.reached {} [.define "a.b" (.str "string")]).pathKind "a" = .adhoc ∧
      (Schema.reached {} [.define "a.b" (.str "string")]).checkListed ["a"]
        = .error (.unknownField "a")) ∧
    (Schema.reached {} [.add (.obj [("a", .obj [("b", .null)])]) ""]).paths = [] ∧
      (Schema.reached {} [.add (.obj [("a", .obj [("b", .null)])]) ""]).pathKind "a" = .nested ∧
      (Schema.reached {} [.add (.obj [("a", .obj [("b", .null)])]) ""]).checkListed ["a"]
        = .ok () := by
  refine ⟨⟨?_, ⟨"b", rfl⟩, ?_, ?_⟩, ?_, ?_, ?_⟩ <;> cbv

end RecordSchema
