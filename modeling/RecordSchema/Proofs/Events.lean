import RecordSchema.Schema.Declaration

/-!
# The events of a declaration

Declaring the keys of an object is a run of events, one after the other, which stops at the first
error: a key without a declaration is refused, a shape with keys is registered as a parent and then
its own keys follow, and every other key is declared as a field.

## Main definitions

* `Event`, `events`: what a declaration does, in order.
* `Schema.perform`, `Schema.performAll`: the schema after events.

## Main statements

* `events_of_shape`, `events_of_field`: the events of a single key.
* `addFields_eq_performAll`: declaring the keys of an object performs its events.
* `Schema.performAll_append`: events may be performed in two parts.
-/

namespace RecordSchema

/-- One thing that a declaration does to a schema. -/
inductive Event where
  /-- Registers the parent of declared fields. -/
  | nest (path : String)
  /-- Declares a field. -/
  | define (path : String) (declaration : Json)
  /-- Refuses a key without a declaration. -/
  | refuse (path : String)

/-- The events of the keys of an object below a lead, depth first. -/
def events (lead : String) : List (String × Json) → List Event
  | [] => []
  | (key, .null) :: rest => .refuse (lead ++ key) :: events lead rest
  | (key, .obj fields) :: rest =>
    if isFilledShape (.obj fields) then
      .nest (lead ++ key) :: (events (lead ++ key ++ ".") fields ++ events lead rest)
    else .define (lead ++ key) (.obj fields) :: events lead rest
  | (key, declaration) :: rest => .define (lead ++ key) declaration :: events lead rest
termination_by fields => sizeOf fields
decreasing_by
  all_goals
    simp only [List.cons.sizeOf_spec, Prod.mk.sizeOf_spec, Json.obj.sizeOf_spec]
    omega

theorem events_cons (lead key : String) (declaration : Json) (rest : List (String × Json)) :
    events lead ((key, declaration) :: rest)
      = events lead [(key, declaration)] ++ events lead rest := by
  cases declaration with
  | obj fields =>
    rw [events, events, events]
    split
    · simp
    · rfl
  | null | bool | num | str | arr => simp [events]

theorem events_of_shape {fields : Fields} (hshape : isFilledShape (.obj fields) = true)
    (lead key : String) : events lead [(key, .obj fields)]
      = .nest (lead ++ key) :: events (lead ++ key ++ ".") fields := by
  rw [events, if_pos hshape, events, List.append_nil]

theorem events_of_field {declaration : Json} (hdeclared : declaration ≠ .null)
    (hfield : isFilledShape declaration = false) (lead key : String) :
    events lead [(key, declaration)] = [.define (lead ++ key) declaration] := by
  cases declaration with
  | null => exact absurd rfl hdeclared
  | obj fields => rw [events, if_neg (by simp [hfield]), events]
  | bool | num | str | arr => simp [events]

namespace Schema

/-- The schema after one event, and the error, if any. -/
def perform (schema : Schema) : Event → Schema × Option SchemaError
  | .nest path => (schema.addNested path, none)
  | .define path declaration => schema.define path declaration
  | .refuse path => (schema, some (.invalidPath path))

/-- The schema after events in turn, and the error that stopped them, if any. -/
def performAll (schema : Schema) : List Event → Schema × Option SchemaError
  | [] => (schema, none)
  | event :: rest =>
    match schema.perform event with
    | (schema, none) => schema.performAll rest
    | (schema, some e) => (schema, some e)

theorem performAll_singleton (schema : Schema) (event : Event) :
    schema.performAll [event] = schema.perform event := by
  rw [performAll]
  rcases schema.perform event with ⟨after, _ | e⟩ <;> rfl

theorem performAll_nest (schema : Schema) (path : String) (rest : List Event) :
    schema.performAll (.nest path :: rest) = (schema.addNested path).performAll rest :=
  rfl

theorem performAll_append (schema : Schema) (front back : List Event) :
    schema.performAll (front ++ back) =
      match schema.performAll front with
      | (schema, none) => schema.performAll back
      | (schema, some e) => (schema, some e) := by
  induction front generalizing schema with
  | nil => rfl
  | cons event rest ih =>
    rw [List.cons_append, performAll, performAll]
    rcases schema.perform event with ⟨after, _ | e⟩
    · exact ih after
    · rfl

end Schema

/-- Declaring the keys of an object performs its events. -/
theorem addFields_eq_performAll (schema : Schema) (lead : String) (fields : List (String × Json)) :
    addFields schema lead fields = schema.performAll (events lead fields) := by
  induction lead, fields using events.induct generalizing schema with
  | case1 lead => rw [addFields, events, Schema.performAll]
  | case2 lead key rest ih =>
    rw [addFields, events, Schema.performAll]
    rfl
  | case3 lead key fields rest hshape ihbelow ih =>
    -- a shape: its own events come before those of the keys that follow
    rw [addFields, events]
    simp only [if_pos hshape]
    show _ = (schema.addNested (lead ++ key)).performAll
      (events (lead ++ key ++ ".") fields ++ events lead rest)
    rw [Schema.performAll_append, ihbelow]
    rcases (schema.addNested (lead ++ key)).performAll (events (lead ++ key ++ ".") fields) with
      ⟨after, _ | e⟩
    · exact ih after
    · rfl
  | case4 lead key fields rest hshape ih =>
    rw [addFields, events]
    simp only [if_neg hshape]
    rw [Schema.performAll, Schema.perform, Schema.define]
    rcases schema.register (lead ++ key) (.obj fields)
      (interpret schema.options (lead ++ key) (.obj fields)) with ⟨after, _ | e⟩
    · exact ih after
    · rfl
  | case5 lead key declaration rest hnull hobj ih =>
    rw [addFields, events, Schema.performAll, Schema.perform, Schema.define]
    · rcases schema.register (lead ++ key) declaration
        (interpret schema.options (lead ++ key) declaration) with ⟨after, _ | e⟩
      · exact ih after
      · rfl
    all_goals assumption

end RecordSchema
