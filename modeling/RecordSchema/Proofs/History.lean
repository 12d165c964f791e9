import RecordSchema.Proofs.Definition
import RecordSchema.Proofs.Events
import RecordSchema.Proofs.Interpretation

/-!
# The history of a schema

A schema grows by edits: declarations, single definitions, and attachments to declared fields. Some
edits fail halfway. The log of a run of edits holds the definitions that succeeded and the
attachments, and it alone determines what the schema holds at a path: the interpretation of the
last definition there, with all that was attached since.

## Main definitions

* `Attachment`, `Edit`, `Schema.edit`: the calls that change a schema.
* `Schema.reached`, `history`: the schema and the log after a run of edits.
* `lastDeclaration?`, `attachments`: the last definition of a path and what was attached since.
* `Schema.Tracks`: whether a schema holds what a log says.

## Main statements

* `Schema.Tracks.perform`, `Schema.Tracks.performAll`, `Schema.Tracks.edit`: a step keeps track.
* `Schema.reached_tracks`: so does every run of edits.
-/

namespace RecordSchema

open RecordSchema.Path

/-! ## Edits -/

/-- What can be attached to a declared field. -/
inductive Attachment where
  /-- A check that tells valid values by true. -/
  | validate (accepts : Json → Json → Bool) (message : String)
  /-- A check that says itself why it rejects a value. -/
  | validateWith (accepts : Json → Json → Except String Unit)
  /-- A fixed default. -/
  | setDefault (value : Json)
  /-- A producer of defaults. -/
  | defaultWith (answer : Nat → Option Json)

/-- The descriptor with something attached. -/
def Attachment.applyTo (descriptor : Descriptor) : Attachment → Descriptor
  | validate accepts message => descriptor.validate accepts message
  | validateWith accepts => descriptor.validateWith accepts
  | setDefault value => descriptor.setDefault value
  | defaultWith answer => descriptor.defaultWith answer

/-- The check that is attached, if it is one. -/
def Attachment.validator? : Attachment → Option Validator
  | validate accepts message => some (.ofTest accepts message)
  | validateWith accepts => some (.ofReason accepts)
  | setDefault _ => none
  | defaultWith _ => none

/-- Attachments add checks in their order and may change the default, and nothing else. -/
theorem Attachment.foldl_applyTo (descriptor : Descriptor) (attachments : List Attachment) :
    ∃ default, attachments.foldl applyTo descriptor = { descriptor with
      default := default
      validators := descriptor.validators ++ attachments.filterMap validator? } := by
  induction attachments generalizing descriptor with
  | nil => exact ⟨descriptor.default, by cases descriptor; simp⟩
  | cons attachment rest ih =>
    obtain ⟨default, hrest⟩ := ih (attachment.applyTo descriptor)
    refine ⟨default, ?_⟩
    rw [List.foldl_cons, hrest]
    cases attachment <;>
      simp [applyTo, validator?, Descriptor.validate, Descriptor.validateWith, Descriptor.attach,
        Descriptor.setDefault, Descriptor.defaultWith, List.filterMap_cons]

/-- A call that changes a schema. -/
inductive Edit where
  /-- Declares the keys of an object below a lead. -/
  | add (declaration : Json) (lead : String)
  /-- Declares one field. -/
  | define (path : String) (declaration : Json)
  /-- Attaches something to a declared field; without such a field it does nothing. -/
  | attach (path : String) (attachment : Attachment)

namespace Schema

/-- The schema after an edit, and the error, if any. -/
def edit (schema : Schema) : Edit → Schema × Option SchemaError
  | .add declaration lead => schema.add declaration lead
  | .define path declaration => schema.define path declaration
  | .attach path attachment => (schema.modify path (attachment.applyTo ·), none)

/-- The schema after a run of edits, failing ones included. -/
def editAll (schema : Schema) (edits : List Edit) : Schema :=
  edits.foldl (fun schema edit => (schema.edit edit).1) schema

/-- The schema that a run of edits makes of the one without fields. -/
def reached (options : SchemaOptions) (edits : List Edit) : Schema :=
  (empty options).editAll edits

end Schema

/-! ## Logs -/

/-- An entry of a log. -/
inductive Change where
  /-- A definition that succeeded. -/
  | defined (path : String) (declaration : Json)
  /-- An attachment. -/
  | attached (path : String) (attachment : Attachment)

/-- The last declaration of a path in a log, which has its newest entry first. -/
def lastDeclaration? (path : String) : List Change → Option Json
  | [] => none
  | .defined key declaration :: earlier =>
    if key = path then some declaration else lastDeclaration? path earlier
  | .attached _ _ :: earlier => lastDeclaration? path earlier

/-- What was attached to a path since its last definition, in order. -/
def attachments (path : String) : List Change → List Attachment
  | [] => []
  | .defined key _ :: earlier => if key = path then [] else attachments path earlier
  | .attached key attachment :: earlier =>
    if key = path then attachments path earlier ++ [attachment] else attachments path earlier

/-- The entry of an event that succeeds, if it leaves one. -/
def Event.change : Event → List Change
  | .define path declaration => [.defined path declaration]
  | _ => []

namespace Schema

/-- The log of events in turn, up to the first error. -/
def eventLog (schema : Schema) : List Event → List Change
  | [] => []
  | event :: rest =>
    match schema.perform event with
    | (after, none) => after.eventLog rest ++ event.change
    | (_, some _) => []

end Schema

/-- The events of an edit. -/
def Edit.events : Edit → List Event
  | .add (.obj fields) lead => RecordSchema.events lead fields
  | .add _ lead => [.refuse (Schema.trimDots lead)]
  | .define path declaration => [.define path declaration]
  | .attach _ _ => []

namespace Schema

/-- The log of one edit. -/
def editLog (schema : Schema) : Edit → List Change
  | .attach path attachment => [.attached path attachment]
  | edit => schema.eventLog edit.events

/-- The log of a run of edits. -/
def log (schema : Schema) : List Edit → List Change
  | [] => []
  | edit :: rest => (schema.edit edit).1.log rest ++ schema.editLog edit

end Schema

/-- The log of a run of edits on the schema without fields. -/
def history (options : SchemaOptions) (edits : List Edit) : List Change :=
  (Schema.empty options).log edits

/-- Declaring a value performs its events. -/
theorem Schema.add_eq_performAll (schema : Schema) (declaration : Json) (lead : String) :
    schema.add declaration lead = schema.performAll (Edit.add declaration lead).events := by
  cases declaration with
  | obj fields => exact addFields_eq_performAll schema lead fields
  | null | bool | num | str | arr => rfl

/-! ## Keeping track -/

namespace Schema

/-- Whether a schema holds what a log says: in the tree the last declaration of each path, and under
the path what it means with all that was attached since. -/
structure Tracks (schema : Schema) (options : SchemaOptions) (log : List Change) : Prop where
  /-- The options of the schema. -/
  options_eq : schema.options = options
  /-- The tree is as insertions lay it out. -/
  proper : schema.tree.IsProper
  /-- No path is listed twice. -/
  distinct : schema.paths.Nodup
  /-- The tree holds the last declarations. -/
  declared : ∀ path, schema.tree.declaration? path = lastDeclaration? path log
  /-- What is declared could be declared, and is described by what it means. -/
  described : ∀ {path : String} {declaration : Json}, lastDeclaration? path log = some declaration →
    pathFault? path = none ∧ ∃ meaning, interpret options path declaration = .ok meaning ∧
      schema.find? path = some ((attachments path log).foldl Attachment.applyTo meaning)
  /-- What is not declared is not described. -/
  undescribed : ∀ {path : String}, lastDeclaration? path log = none → schema.find? path = none

namespace Tracks

variable {schema : Schema} {options : SchemaOptions} {log : List Change}

theorem empty (options : SchemaOptions) : (Schema.empty options).Tracks options [] where
  options_eq := rfl
  proper := PathTree.isProper_empty
  distinct := List.nodup_nil
  declared := PathTree.unfolds_empty.declaration?_of_nil
  described h := by cases h
  undescribed _ := rfl

theorem addNested (h : schema.Tracks options log) (path : String) :
    (schema.addNested path).Tracks options log := by
  unfold Schema.addNested
  split
  · exact h
  · exact ⟨h.options_eq, h.proper, h.distinct, h.declared, h.described, h.undescribed⟩

theorem attach (h : schema.Tracks options log) (path : String) (attachment : Attachment) :
    (schema.modify path (attachment.applyTo ·)).Tracks options
      (.attached path attachment :: log) where
  options_eq := h.options_eq
  proper := h.proper
  distinct := by
    rw [paths_modify]
    exact h.distinct
  declared := h.declared
  described := by
    intro other declaration hdeclared
    obtain ⟨hpath, meaning, hmeaning, hfind⟩ := h.described hdeclared
    refine ⟨hpath, meaning, hmeaning, ?_⟩
    rw [find?_modify, hfind, Option.map_some, attachments]
    by_cases heq : other = path
    · rw [if_pos heq, if_pos heq.symm, List.foldl_append]
      rfl
    · rw [if_neg heq, if_neg (Ne.symm heq)]
  undescribed := by
    intro other hnone
    rw [find?_modify, h.undescribed hnone]
    rfl

/-- A definition that succeeds begins anew at its path; one that fails changes nothing. -/
theorem define (h : schema.Tracks options log) (path : String) (declaration : Json) :
    match schema.define path declaration with
    | (after, none) => after.Tracks options (.defined path declaration :: log)
    | (after, some _) => after.Tracks options log := by
  have houtcome := schema.define_outcome h.proper path declaration
  cases hdone : schema.define path declaration with
  | mk after answer =>
    rw [hdone] at houtcome
    cases houtcome with
    | faulty => exact h
    | meaningless => exact h
    | below_field => exact h
    | above_field => exact h
    | @declared meaning tree hpath hmeaning hclear hproper htree =>
      rw [h.options_eq] at hmeaning
      refine ⟨h.options_eq, hproper, Entries.nodup_keys_put h.distinct _ _, fun other => ?_, ?_, ?_⟩
      · rw [htree, h.declared, lastDeclaration?]
        by_cases heq : other = path
        · rw [if_pos heq, if_pos heq.symm]
        · rw [if_neg heq, if_neg (Ne.symm heq)]
      · -- what was attached to the path before is gone, and other paths keep what they have
        intro other existing hother
        rw [lastDeclaration?] at hother
        rw [attachments, Schema.find?]
        by_cases heq : path = other
        · subst heq
          rw [if_pos rfl] at hother
          cases hother
          exact ⟨hpath, meaning, hmeaning, by rw [if_pos rfl, Entries.get?_put_self]; rfl⟩
        · rw [if_neg heq] at hother
          rw [if_neg heq, Entries.get?_put_of_ne _ (Ne.symm heq)]
          exact h.described hother
      · intro other hother
        rw [lastDeclaration?] at hother
        rw [Schema.find?]
        by_cases heq : path = other
        · rw [if_pos heq] at hother
          cases hother
        · rw [if_neg heq] at hother
          rw [Entries.get?_put_of_ne _ (Ne.symm heq)]
          exact h.undescribed hother

theorem perform (h : schema.Tracks options log) (event : Event) :
    match schema.perform event with
    | (after, none) => after.Tracks options (event.change ++ log)
    | (after, some _) => after.Tracks options log := by
  cases event with
  | nest path => exact h.addNested path
  | define path declaration => exact h.define path declaration
  | refuse path => exact h

theorem performAll (h : schema.Tracks options log) (events : List Event) :
    (schema.performAll events).1.Tracks options (schema.eventLog events ++ log) := by
  induction events generalizing schema log with
  | nil => exact h
  | cons event rest ih =>
    have hstep := h.perform event
    rw [Schema.performAll, eventLog]
    rcases hdone : schema.perform event with ⟨after, _ | e⟩ <;> rw [hdone] at hstep
    · rw [List.append_assoc]
      exact ih hstep
    · exact hstep

theorem edit (h : schema.Tracks options log) (edit : Edit) :
    (schema.edit edit).1.Tracks options (schema.editLog edit ++ log) := by
  cases edit with
  | add declaration lead =>
    rw [Schema.edit, Schema.add_eq_performAll]
    exact h.performAll _
  | define path declaration =>
    have hdone := h.performAll [.define path declaration]
    rwa [performAll_singleton] at hdone
  | attach path attachment => exact h.attach path attachment

theorem editAll (h : schema.Tracks options log) (edits : List Edit) :
    (schema.editAll edits).Tracks options (schema.log edits ++ log) := by
  induction edits generalizing schema log with
  | nil => exact h
  | cons edit rest ih =>
    rw [Schema.log, List.append_assoc]
    exact ih (h.edit edit)

end Tracks

/-- Every run of edits keeps track of what it did. -/
theorem reached_tracks (options : SchemaOptions) (edits : List Edit) :
    (reached options edits).Tracks options (history options edits) := by
  have h := (Tracks.empty options).editAll edits
  rwa [List.append_nil] at h

end Schema

end RecordSchema
