import Mathlib.Data.List.DropRight
import RecordSchema.Proofs.Refusals

/-!
# Declaring keys as a run of events

The keys of an object, flattened, are a list of events: in the order of the keys and depth first, a
key without a declaration is refused, a nested shape is registered in front of the events of its own
keys, and every other key is defined. Declaring the object runs these events from left to right. A
run stops at the first event that fails, which leaves the schema as the events before it have made
it.

## Main definitions

* `IsNested`: whether an object is a nested shape with keys.
* `EveryShape`, `HasPlainKeys`: what holds of an object and of the nested shapes in it.
* `Flattens`: the events of the keys of an object, one rule for each kind of key.
* `Schema.Runs`: events that succeed one after the other.
* `Schema.IsKept`: whether every step keeps what a schema and its log have in common.

## Main statements

* `flattens_iff`: an object has one list of events.
* `Schema.performAll_eq_none_iff`, `Schema.performAll_eq_some_iff`: how a run of events ends.
* `Schema.perform_done`, `Schema.Tracks.eq_of_perform`: an event that succeeds does one of two
  things, and one that fails changes nothing.
* `Schema.IsKept.reached`: what every step keeps holds after any run of edits.
* `add_runs_events`: declaring an object runs its events, in every schema that edits lead to.
-/

namespace RecordSchema

open RecordSchema.Path

/-! ## The events of an object -/

/-- Whether an object is a nested shape with keys: its type is absent, does not count, or is an
object with a type that counts. -/
def IsNested (fields : Fields) : Prop :=
  fields ≠ [] ∧ (fields.get? "type" = none ∨ ∃ type, fields.get? "type" = some type ∧
    (type.isTruthy = false ∨ ∃ inner, type.get? "type" = some inner ∧ inner.isTruthy = true))

theorem hasTypeKey_iff {value : Json} :
    hasTypeKey value = true ↔ ∃ inner, value.get? "type" = some inner ∧ inner.isTruthy = true := by
  unfold hasTypeKey
  cases value.get? "type" <;> simp

theorem isFilledShape_obj_iff {fields : Fields} :
    isFilledShape (.obj fields) = true ↔ IsNested fields := by
  have hshape : isShape (.obj fields) = true ↔ fields.get? "type" = none ∨ ∃ type,
      fields.get? "type" = some type ∧ (type.isTruthy = false ∨ hasTypeKey type = true) := by
    rw [isShape]
    cases Entries.get? fields "type" <;> simp
  simp only [isFilledShape, Json.asFields?, Option.getD_some, Bool.and_eq_true, hshape,
    Bool.not_eq_true', List.isEmpty_eq_false_iff, hasTypeKey_iff, IsNested]
  exact and_comm

/-- Whether something holds of an object and of every nested shape in it. -/
inductive EveryShape (holds : Fields → Prop) : Fields → Prop
  /-- It holds of the object and of the nested shapes below. -/
  | intro {fields : Fields} (hself : holds fields)
      (hbelow : ∀ key inner, (key, .obj inner) ∈ fields → IsNested inner →
        EveryShape holds inner) : EveryShape holds fields

namespace EveryShape

variable {holds : Fields → Prop} {fields : Fields}

theorem self (h : EveryShape holds fields) : holds fields := by
  cases h with
  | intro hself _ => exact hself

/-- What holds of fewer keys too holds without the first key. -/
theorem tail {entry : String × Json} (h : EveryShape holds (entry :: fields))
    (htail : holds (entry :: fields) → holds fields) : EveryShape holds fields := by
  cases h with
  | intro hself hbelow =>
    exact .intro (htail hself) fun key inner hmem => hbelow key inner (.tail _ hmem)

theorem head {key : String} {inner : Fields} (h : EveryShape holds ((key, .obj inner) :: fields))
    (hnested : IsNested inner) : EveryShape holds inner := by
  cases h with
  | intro _ hbelow => exact hbelow key inner List.mem_cons_self hnested

end EveryShape

/-- Whether no key of an object, or of a nested shape in it, holds a dot. -/
def HasPlainKeys (fields : Fields) : Prop :=
  EveryShape (fun shape => ∀ key ∈ Entries.keys shape, '.' ∉ key.toList) fields

namespace HasPlainKeys

variable {key : String} {declaration : Json} {rest : Fields}

theorem dot_not_mem (h : HasPlainKeys ((key, declaration) :: rest)) : '.' ∉ key.toList :=
  h.self key List.mem_cons_self

theorem tail (h : HasPlainKeys ((key, declaration) :: rest)) : HasPlainKeys rest :=
  EveryShape.tail h fun hkeys other hother => hkeys other (.tail _ hother)

end HasPlainKeys

/-- Whether events are those of the keys of an object below a lead. -/
inductive Flattens : String → List (String × Json) → List Event → Prop
  /-- Without keys nothing happens. -/
  | nil {lead : String} : Flattens lead [] []
  /-- A key without a declaration is refused. -/
  | refuse {lead key : String} {rest : List (String × Json)} {after : List Event}
      (hrest : Flattens lead rest after) :
      Flattens lead ((key, .null) :: rest) (.refuse (lead ++ key) :: after)
  /-- A nested shape is registered, and then its own keys follow. -/
  | nest {lead key : String} {fields rest : List (String × Json)} {below after : List Event}
      (hnested : IsNested fields) (hbelow : Flattens (lead ++ key ++ ".") fields below)
      (hrest : Flattens lead rest after) :
      Flattens lead ((key, .obj fields) :: rest) (.nest (lead ++ key) :: (below ++ after))
  /-- Every other key is defined. -/
  | define {lead key : String} {declaration : Json} {rest : List (String × Json)}
      {after : List Event} (hdeclared : declaration ≠ .null)
      (hfield : ∀ fields, declaration = .obj fields → ¬IsNested fields)
      (hrest : Flattens lead rest after) :
      Flattens lead ((key, declaration) :: rest) (.define (lead ++ key) declaration :: after)

/-- The events of an object are found key by key. -/
theorem flattens_events (lead : String) (fields : List (String × Json)) :
    Flattens lead fields (events lead fields) := by
  induction lead, fields using events.induct with
  | case1 lead =>
    rw [events]
    exact .nil
  | case2 lead key rest ih =>
    rw [events]
    exact .refuse ih
  | case3 lead key fields rest hshape ihbelow ih =>
    rw [events, if_pos hshape]
    exact .nest (isFilledShape_obj_iff.1 hshape) ihbelow ih
  | case4 lead key fields rest hshape ih =>
    rw [events, if_neg hshape]
    refine .define (by simp) (fun other hother => ?_) ih
    cases hother
    exact mt isFilledShape_obj_iff.2 hshape
  | case5 lead key declaration rest hnull hobject ih =>
    rw [events]
    · exact .define (fun h => hnull h) (fun other hother => absurd hother (hobject other)) ih
    all_goals assumption

/-- An object has one list of events. -/
theorem flattens_iff {lead : String} {fields : List (String × Json)} {run : List Event} :
    Flattens lead fields run ↔ run = events lead fields := by
  constructor
  · intro h
    induction h with
    | nil => rw [events]
    | refuse _ ih => rw [events, ih]
    | nest hnested _ _ ihbelow ih =>
      rw [events, if_pos (isFilledShape_obj_iff.2 hnested), ihbelow, ih]
    | @define lead key declaration rest after hdeclared hfield _ ih =>
      rw [ih]
      cases declaration with
      | null => exact absurd rfl hdeclared
      | obj fields => rw [events, if_neg (mt isFilledShape_obj_iff.1 (hfield fields rfl))]
      | bool | num | str | arr => rw [events] <;> simp
  · rintro rfl
    exact flattens_events lead fields

/-- What is defined is smaller than the object. -/
theorem Flattens.sizeOf_lt {lead path : String} {fields : List (String × Json)} {run : List Event}
    {declaration : Json} (h : Flattens lead fields run) (hmem : .define path declaration ∈ run) :
    sizeOf declaration < sizeOf fields := by
  induction h with
  | nil => cases hmem
  | refuse _ ih =>
    have hrest := ih (List.mem_of_ne_of_mem (by simp) hmem)
    simp only [List.cons.sizeOf_spec]
    omega
  | nest _ _ _ ihbelow ih =>
    simp only [List.cons.sizeOf_spec, Prod.mk.sizeOf_spec, Json.obj.sizeOf_spec]
    rcases List.mem_append.1 (List.mem_of_ne_of_mem (by simp) hmem) with hbelow | hafter
    · have := ihbelow hbelow
      omega
    · have := ih hafter
      omega
  | define _ _ _ ih =>
    simp only [List.cons.sizeOf_spec, Prod.mk.sizeOf_spec]
    rcases List.mem_cons.1 hmem with heq | hrest
    · cases heq
      omega
    · have := ih hrest
      omega

/-! ## Runs -/

namespace Schema

/-- Whether events succeed one after the other and lead from one schema to another. -/
inductive Runs : Schema → List Event → Schema → Prop
  /-- Nothing is left to do. -/
  | nil {schema : Schema} : schema.Runs [] schema
  /-- The first event succeeds, and then the others do. -/
  | cons {schema next after : Schema} {event : Event} {rest : List Event}
      (hstep : schema.perform event = (next, none)) (hrest : next.Runs rest after) :
      schema.Runs (event :: rest) after

variable {schema after : Schema} {e : SchemaError} {options : SchemaOptions} {log : List Change}

/-- Events come to an end without an error just when they run. -/
theorem performAll_eq_none_iff {run : List Event} :
    schema.performAll run = (after, none) ↔ schema.Runs run after := by
  induction run generalizing schema with
  | nil =>
    rw [performAll]
    constructor
    · intro h
      cases h
      exact .nil
    · intro h
      cases h
      rfl
  | cons event rest ih =>
    rw [performAll]
    constructor
    · intro h
      split at h
      · rename_i next hstep
        exact .cons hstep (ih.1 h)
      · cases h
    · intro h
      cases h with
      | cons hstep hrest =>
        rw [hstep]
        exact ih.2 hrest

/-- Events come to an end with an error just when one of them fails with it after those before it
have run. -/
theorem performAll_eq_some_iff {run : List Event} :
    schema.performAll run = (after, some e) ↔ ∃ done event rest middle,
      run = done ++ event :: rest ∧ schema.Runs done middle ∧
        middle.perform event = (after, some e) := by
  induction run generalizing schema with
  | nil => simp [performAll]
  | cons event rest ih =>
    rw [performAll]
    constructor
    · intro h
      split at h
      · rename_i next hstep
        obtain ⟨done, failing, back, middle, rfl, hdone, hfails⟩ := ih.1 h
        exact ⟨event :: done, failing, back, middle, rfl, .cons hstep hdone, hfails⟩
      · rename_i failed hstep
        cases h
        exact ⟨[], event, rest, schema, rfl, .nil, hstep⟩
    · rintro ⟨done, failing, back, middle, hrun, hdone, hfails⟩
      cases hdone with
      | nil =>
        cases hrun
        rw [hfails]
      | cons hstep hdone =>
        cases hrun
        rw [hstep]
        exact ih.2 ⟨_, failing, back, middle, rfl, hdone, hfails⟩

/-- What an event that succeeds does: it registers a parent, or it inserts a path into the tree and
writes its descriptor. -/
theorem perform_done {event : Event} (h : schema.perform event = (after, none)) :
    (∃ path, event = .nest path ∧ after = schema.addNested path) ∨
    ∃ path declaration leaf descriptor, event = .define path declaration ∧
      (schema.tree.insert path declaration).2 = .ok leaf ∧
      after = { schema with
        tree := (schema.tree.insert path declaration).1
        fields := Entries.put schema.fields path descriptor } := by
  cases event with
  | refuse path => cases h
  | nest path =>
    cases h
    exact .inl ⟨path, rfl, rfl⟩
  | define path declaration =>
    obtain ⟨_, leaf, descriptor, _, hinsert, hafter⟩ := define_done_iff.1 h
    exact .inr ⟨path, declaration, leaf, descriptor, rfl, hinsert, hafter⟩

theorem options_perform (schema : Schema) (event : Event) :
    (schema.perform event).1.options = schema.options := by
  cases event with
  | nest path => exact options_addNested schema path
  | define path declaration => exact options_define schema path declaration
  | refuse path => rfl

/-- A run keeps a schema consistent. -/
theorem Runs.tracks {run : List Event} (hrun : schema.Runs run after)
    (h : schema.Tracks options log) : ∃ log, after.Tracks options log := by
  have hafter := h.performAll run
  rw [performAll_eq_none_iff.2 hrun] at hafter
  exact ⟨_, hafter⟩

/-- An event that fails changes nothing. -/
theorem Tracks.eq_of_perform (h : schema.Tracks options log) {event : Event}
    (hfails : schema.perform event = (after, some e)) : after = schema := by
  cases event with
  | nest path => cases hfails
  | refuse path =>
    cases hfails
    rfl
  | define path declaration =>
    rw [Schema.perform] at hfails
    rcases h.define_definable_or_refused path declaration with ⟨_, hdone⟩ | ⟨_, _, hdone⟩
    · rw [hfails] at hdone
      cases hdone
    · rw [hfails] at hdone
      cases hdone
      rfl

end Schema

/-! ## What every step keeps -/

namespace Schema

/-- Whether what a schema and its log have in common stays so with every step that succeeds. -/
structure IsKept (options : SchemaOptions) (motive : Schema → List Change → Prop) : Prop where
  /-- A parent is registered. -/
  nest : ∀ {schema log} (path : String), motive schema log → motive (schema.addNested path) log
  /-- A definition succeeds. -/
  define : ∀ {schema log path declaration after}, schema.Tracks options log →
    schema.define path declaration = (after, none) → motive schema log →
    motive after (.defined path declaration :: log)
  /-- Something is attached. -/
  attach : ∀ {schema log} (path : String) (attachment : Attachment), motive schema log →
    motive (schema.modify path (attachment.applyTo ·)) (.attached path attachment :: log)

namespace IsKept

variable {motive : Schema → List Change → Prop} {schema : Schema} {options : SchemaOptions}
  {log : List Change} (hkept : IsKept options motive)

include hkept

/-- Events that may stop with an error keep it too, since the one that fails changes nothing. -/
theorem performAll (htracks : schema.Tracks options log) (h : motive schema log)
    (run : List Event) :
    motive (schema.performAll run).1 (schema.eventLog run ++ log) := by
  induction run generalizing schema log with
  | nil => exact h
  | cons event rest ih =>
    have hstep := htracks.perform event
    rw [Schema.performAll, eventLog]
    rcases hdone : schema.perform event with ⟨after, _ | e⟩ <;> rw [hdone] at hstep
    · rw [List.append_assoc]
      refine ih hstep ?_
      cases event with
      | refuse path => cases hdone
      | nest path =>
        cases hdone
        exact hkept.nest path h
      | define path declaration => exact hkept.define htracks hdone h
    · rw [htracks.eq_of_perform hdone]
      exact h

theorem edit (htracks : schema.Tracks options log) (h : motive schema log) (edit : Edit) :
    motive (schema.edit edit).1 (schema.editLog edit ++ log) := by
  cases edit with
  | add declaration lead =>
    rw [Schema.edit, Schema.add_eq_performAll]
    exact hkept.performAll htracks h _
  | define path declaration =>
    have hdone := hkept.performAll htracks h [.define path declaration]
    rwa [performAll_singleton] at hdone
  | attach path attachment => exact hkept.attach path attachment h

theorem editAll (htracks : schema.Tracks options log) (h : motive schema log) (edits : List Edit) :
    motive (schema.editAll edits) (schema.log edits ++ log) := by
  induction edits generalizing schema log with
  | nil => exact h
  | cons edit rest ih =>
    rw [Schema.log, List.append_assoc]
    exact ih (htracks.edit edit) (hkept.edit htracks h edit)

/-- What holds at first holds after any run of edits. -/
theorem reached (hempty : motive (Schema.empty options) []) (edits : List Edit) :
    motive (Schema.reached options edits) (history options edits) := by
  have hall := hkept.editAll (Tracks.empty options) hempty edits
  rwa [List.append_nil] at hall

end IsKept

end Schema

/-! ## Leads -/

/-- A lead is what is left of it without the dots at its end, and these dots. -/
theorem trimDots_spec (lead : String) : ∃ dots,
    lead.toList = (Schema.trimDots lead).toList ++ List.replicate dots '.' ∧
      (Schema.trimDots lead).toList.getLast? ≠ some '.' := by
  have hstem : (Schema.trimDots lead).toList = lead.toList.rdropWhile (· = '.') := by
    rw [Schema.trimDots, String.toList_ofList, List.rdropWhile]
  have hdots : ∀ c ∈ lead.toList.rtakeWhile (· = '.'), c = '.' := fun c hc => by
    simpa using List.mem_rtakeWhile_imp hc
  refine ⟨(lead.toList.rtakeWhile (· = '.')).length, ?_, ?_⟩
  · rw [hstem, ← List.eq_replicate_of_mem hdots, List.rdropWhile_append_rtakeWhile]
  · rw [hstem]
    intro hlast
    have hne : lead.toList.rdropWhile (· = '.') ≠ [] := fun hnil => by
      rw [hnil] at hlast
      cases hlast
    rw [List.getLast?_eq_getLast_of_ne_nil hne, Option.some.injEq] at hlast
    exact List.rdropWhile_last_not _ _ hne (decide_eq_true hlast)

/-- In every schema that edits lead to, declaring an object below a lead runs the events of its keys
from left to right. It succeeds when all of them do, with the schema that they lead to; otherwise it
stops at the first one that fails, with its error, in the schema that the events before it have led
to. What is no object changes nothing and is refused under the lead without the dots at its end. -/
theorem add_runs_events (options : SchemaOptions) (edits : List Edit) (lead : String) :
    let schema := Schema.reached options edits
    (∀ fields, ∃ run, Flattens lead fields run ∧
      (∀ other, Flattens lead fields other → other = run) ∧
      (∀ after, schema.add (.obj fields) lead = (after, none) ↔ schema.Runs run after) ∧
      ∀ after e, schema.add (.obj fields) lead = (after, some e) ↔ ∃ done event rest,
        run = done ++ event :: rest ∧ schema.Runs done after ∧
          after.perform event = (after, some e)) ∧
    ∃ stem dots, lead.toList = stem.toList ++ List.replicate dots '.' ∧
      stem.toList.getLast? ≠ some '.' ∧
      ∀ declaration, (∀ fields, declaration ≠ .obj fields) →
        schema.add declaration lead = (schema, some (.invalidPath stem)) := by
  intro schema
  have h : schema.Tracks options (history options edits) := Schema.reached_tracks options edits
  refine ⟨fun fields => ⟨events lead fields, flattens_events lead fields,
    fun other hother => flattens_iff.1 hother, fun after => ?_, fun after e => ?_⟩, ?_⟩
  · rw [Schema.add, addFields_eq_performAll, Schema.performAll_eq_none_iff]
  · rw [Schema.add, addFields_eq_performAll, Schema.performAll_eq_some_iff]
    constructor
    · rintro ⟨done, event, rest, middle, hrun, hdone, hfails⟩
      obtain ⟨_, hmiddle⟩ := hdone.tracks h
      obtain rfl := hmiddle.eq_of_perform hfails
      exact ⟨done, event, rest, hrun, hdone, hfails⟩
    · rintro ⟨done, event, rest, hrun, hdone, hfails⟩
      exact ⟨done, event, rest, after, hrun, hdone, hfails⟩
  · obtain ⟨dots, hlead, hstem⟩ := trimDots_spec lead
    refine ⟨Schema.trimDots lead, dots, hlead, hstem, fun declaration hobject => ?_⟩
    cases declaration with
    | obj fields => exact absurd rfl (hobject fields)
    | null | bool | num | str | arr => rfl

end RecordSchema
