import RecordSchema.Proofs.Erasure
import RecordSchema.Proofs.Flattening

/-!
# Declarations that mean the same

Two declarations mean the same when they both fail, or when what they come to differs only in the
declarations that are kept beside it. Such declarations can stand for each other wherever a field or
an item is declared: everything around them goes on as before, or fails in both cases.

Errors are not told apart, because the error for a clash of paths names the type of the declaration
that is in the way.

## Main definitions

* `SameResult`, `Schema.SameOutcome`: whether two attempts come to the same.
* `Event.Alike`: whether two events do the same.
* `SameOptions`: whether two lists of options say the same beside the type and the items.
* `SameMeaning`: whether two declarations mean the same.

## Main statements

* `Schema.SameOutcome.performAll`: alike events have the same outcome.
* `sameResult_interpret_collection`: collections with the same options and items.
* `SameMeaning.events_put`: one declaration in the place of the other.
-/

namespace RecordSchema

/-! ## Attempts -/

/-- Whether two attempts both fail, or both have a result, the same once it is erased. -/
inductive SameResult {α β : Type} (erase : α → β) :
    Except SchemaError α → Except SchemaError α → Prop
  /-- Both fail. -/
  | error (e e' : SchemaError) : SameResult erase (.error e) (.error e')
  /-- Both have a result. -/
  | ok {result result' : α} (h : erase result = erase result') :
      SameResult erase (.ok result) (.ok result')

namespace SameResult

variable {α β α' β' : Type} {erase : α → β} {erase' : α' → β'} {x y z : Except SchemaError α}

theorem refl (x : Except SchemaError α) : SameResult erase x x := by
  cases x with
  | error e => exact .error e e
  | ok result => exact .ok rfl

theorem trans (h : SameResult erase x y) (h' : SameResult erase y z) : SameResult erase x z := by
  cases h with
  | error e _ =>
    cases h' with
    | error _ e' => exact .error e e'
  | ok h =>
    cases h' with
    | ok h' => exact .ok (h.trans h')

theorem bind {next next' : α → Except SchemaError α'} (h : SameResult erase x y)
    (hnext : ∀ result result', erase result = erase result' →
      SameResult erase' (next result) (next' result')) :
    SameResult erase' (x >>= next) (y >>= next') := by
  cases h with
  | error e e' => exact .error e e'
  | ok h => exact hnext _ _ h

theorem map {change : α → α'} (h : SameResult erase x y) (hchange : ∀ result result',
    erase result = erase result' → erase' (change result) = erase' (change result')) :
    SameResult erase' (x.map change) (y.map change) := by
  cases h with
  | error e e' => exact .error e e'
  | ok h => exact .ok (hchange _ _ h)

end SameResult

namespace Schema

variable {schema other : Schema} {options : SchemaOptions}

/-- Whether two runs both go through or both stop, with the same schema once it is erased. -/
inductive SameOutcome : Schema × Option SchemaError → Schema × Option SchemaError → Prop
  /-- Both go through. -/
  | done {schema other : Schema} (h : schema.erased = other.erased) :
      SameOutcome (schema, none) (other, none)
  /-- Both stop. -/
  | stopped {schema other : Schema} (h : schema.erased = other.erased) (e e' : SchemaError) :
      SameOutcome (schema, some e) (other, some e')

theorem SameOutcome.result {x y : Schema × Option SchemaError} (h : SameOutcome x y) :
    SameResult erased (result x) (result y) := by
  cases h with
  | done h => exact .ok h
  | stopped _ e e' => exact .error e e'

/-! ## Events -/

theorem erased_addNested (path : String) :
    (schema.addNested path).erased = schema.erased.addNested path := by
  unfold addNested
  rw [nested_erased]
  split
  · rfl
  · rw [erased_eq, erased_eq]

theorem erased_tree (tree : PathTree) :
    ({ schema with tree } : Schema).erased = { schema.erased with tree := tree.erased } := by
  simp only [erased_eq]

theorem erased_put (tree : PathTree) (path : String) (field : Descriptor) :
    ({ schema with tree, fields := Entries.put schema.fields path field } : Schema).erased
      = { schema.erased with
          tree := tree.erased
          fields := Entries.put schema.erased.fields path field.erased } := by
  simp only [erased_eq, Entries.put_map]

/-- A path is registered alike under two declarations that mean the same. -/
theorem SameOutcome.register (h : schema.erased = other.erased) (path : String)
    (declaration declaration' : Json) {meaning meaning' : Except SchemaError Descriptor}
    (hmeaning : SameResult Descriptor.erased meaning meaning') :
    SameOutcome (schema.register path declaration meaning)
      (other.register path declaration' meaning') := by
  unfold Schema.register
  cases pathFault? path with
  | some fault => exact .stopped h fault fault
  | none =>
    cases hmeaning with
    | error e e' => exact .stopped h e e'
    | ok hfield =>
      have htree : schema.tree.erased = other.tree.erased := by
        simpa only [erased_eq] using congrArg Schema.tree h
      obtain ⟨htrees, hends⟩ := PathTree.insert_congr htree path declaration declaration'
      -- both trees take the path or neither does, though a refusal may give different reasons
      rcases hinsert : schema.tree.insert path declaration with ⟨tree, e | leaf⟩ <;>
        rcases hinsert' : other.tree.insert path declaration' with ⟨tree', e' | leaf'⟩ <;>
        simp only [hinsert, hinsert'] at htrees hends
      · refine .stopped ?_ e e'
        rw [erased_tree, erased_tree, h, htrees]
      · cases hends
      · cases hends
      · refine .done ?_
        rw [erased_put, erased_put, h, hfield, htrees]

end Schema

/-- Whether two events do the same. -/
inductive Event.Alike (options : SchemaOptions) : Event → Event → Prop
  /-- The same parent is registered. -/
  | nest (path : String) : Alike options (.nest path) (.nest path)
  /-- A field is declared at the same path, with the same meaning. -/
  | define (path : String) {declaration declaration' : Json}
      (hmeaning : SameResult Descriptor.erased (interpret options path declaration)
        (interpret options path declaration')) :
      Alike options (.define path declaration) (.define path declaration')
  /-- The same key is refused. -/
  | refuse (path : String) : Alike options (.refuse path) (.refuse path)

theorem Event.Alike.refl {options : SchemaOptions} (event : Event) :
    event.Alike options event := by
  cases event with
  | nest path => exact .nest path
  | define path declaration => exact .define path (.refl _)
  | refuse path => exact .refuse path

theorem Event.Alike.refl_run {options : SchemaOptions} (run : List Event) :
    List.Forall₂ (Event.Alike options) run run :=
  List.forall₂_same.2 fun event _ => .refl event

namespace Schema

variable {schema other : Schema} {options : SchemaOptions}

theorem SameOutcome.perform (h : schema.erased = other.erased)
    (hoptions : schema.options = options) {event event' : Event}
    (hevent : event.Alike options event') :
    SameOutcome (schema.perform event) (other.perform event') := by
  have hother : other.options = options := by
    rw [← hoptions, ← options_erased, ← h, options_erased]
  cases hevent with
  | nest path =>
    refine .done ?_
    rw [erased_addNested, erased_addNested, h]
  | define path hmeaning =>
    -- the meanings are alike under the options of the run, which both schemas have
    rw [Schema.perform, Schema.perform, define, define, hoptions, hother]
    exact .register h path _ _ hmeaning
  | refuse path => exact .stopped h _ _

/-- Alike events have the same outcome. -/
theorem SameOutcome.performAll {run run' : List Event}
    (hrun : List.Forall₂ (Event.Alike options) run run') (h : schema.erased = other.erased)
    (hoptions : schema.options = options) :
    SameOutcome (schema.performAll run) (other.performAll run') := by
  induction hrun generalizing schema other with
  | nil => exact .done h
  | @cons event event' rest rest' hevent _ ih =>
    have hstep := SameOutcome.perform h hoptions hevent
    -- alikeness is about meanings under these options, so the rest of the run needs them too
    have hkeeps := (options_perform schema event).trans hoptions
    rw [Schema.performAll, Schema.performAll]
    generalize schema.perform event = outcome at hstep hkeeps ⊢
    generalize other.perform event' = outcome' at hstep ⊢
    cases hstep with
    | done hnext => exact ih hnext hkeeps
    | stopped hnext e e' => exact .stopped hnext e e'

end Schema

/-! ## Fields -/

/-- Whether two lists of options say the same beside the type and the items. -/
def SameOptions (options other : Fields) : Prop :=
  ∀ key, key ≠ "type" → key ≠ "cast" → options.get? key = other.get? key

theorem SameOptions.put {fields : Fields} {key : String} (hkey : key = "type" ∨ key = "cast")
    (value : Json) : SameOptions fields (fields.put key value) := by
  intro other htype hcast
  refine (Entries.get?_put_of_ne fields ?_ value).symm
  rintro rfl
  rcases hkey with rfl | rfl
  · exact htype rfl
  · exact hcast rfl

section options

variable {options other : Fields} (h : SameOptions options other)

include h

theorem columnOf_congr (schemaOptions : SchemaOptions) (path : String) :
    columnOf schemaOptions path options = columnOf schemaOptions path other := by
  rw [columnOf, columnOf, h "name" (by decide) (by decide)]

theorem optionValidators_congr (type : FieldType) (path : String) :
    optionValidators type path options = optionValidators type path other := by
  simp only [optionValidators, requiredOption, enumOption, matchOption, boundOption,
    h "required" (by decide) (by decide), h "enum" (by decide) (by decide),
    h "match" (by decide) (by decide), h "min" (by decide) (by decide),
    h "max" (by decide) (by decide)]

theorem sameResult_scalar (path column : String) (type : FieldType) :
    SameResult Descriptor.erased (Descriptor.scalar path column type options)
      (Descriptor.scalar path column type other) := by
  unfold Descriptor.scalar
  rw [optionValidators_congr h]
  cases optionValidators type path other with
  | error e => exact .error e e
  | ok validators =>
    refine .ok ?_
    simp only [Descriptor.erased_eq, flagOption, h "default" (by decide) (by decide),
      h "lowercase" (by decide) (by decide), h "uppercase" (by decide) (by decide),
      h "trim" (by decide) (by decide)]

theorem sameResult_collection (path column : String) {element element' : Element}
    (helement : element.erased = element'.erased) :
    SameResult Descriptor.erased (Descriptor.collection path column element options)
      (Descriptor.collection path column element' other) := by
  refine (sameResult_scalar h path column .collection).bind fun field field' hfield => .ok ?_
  have hitems : ∀ (field : Descriptor) (element : Element),
      ({ field with element := some element } : Descriptor).erased
        = { field.erased with element := some element.erased } := by
    simp only [Descriptor.erased_eq, Option.map_some, implies_true]
  rw [hitems, hitems, hfield, helement]

end options

/-- Collections mean the same when their options do, and what they declare as items. -/
theorem sameResult_interpret_collection {options : SchemaOptions} {path : String}
    {declaration declaration' : Json}
    (hoptions : SameOptions (fieldOptions declaration) (fieldOptions declaration'))
    (h : isCollection (fieldOptions declaration) = true)
    (h' : isCollection (fieldOptions declaration') = true)
    (hitem : SameResult Element.erased
      (interpretItem options path ((itemPart (fieldOptions declaration)).getD .null))
      (interpretItem options path ((itemPart (fieldOptions declaration')).getD .null))) :
    SameResult Descriptor.erased (interpret options path declaration)
      (interpret options path declaration') := by
  rw [interpret_collection _ _ h, interpret_collection _ _ h', ← columnOf_congr hoptions]
  exact hitem.bind fun element element' => sameResult_collection hoptions path _

/-- Declarations with the same options and the same type mean the same. -/
theorem interpret_congr {declaration declaration' : Json}
    (h : fieldOptions declaration = fieldOptions declaration') (options : SchemaOptions)
    (path : String) : interpret options path declaration = interpret options path declaration' := by
  by_cases hcollection : isCollection (fieldOptions declaration) = true
  · rw [interpret_collection _ _ hcollection, interpret_collection _ _ (h ▸ hcollection), h]
  · rw [interpret, interpret, if_neg hcollection, if_neg (h ▸ hcollection), h]

/-! ## Declarations -/

/-- Whether two declarations mean the same, at a key and as what items are. -/
structure SameMeaning (declaration declaration' : Json) : Prop where
  /-- As what items are. -/
  asItem : ∀ options path, SameResult Element.erased (interpretItem options path declaration)
    (interpretItem options path declaration')
  /-- At a key. -/
  atKey : ∀ options lead key, List.Forall₂ (Event.Alike options)
    (events lead [(key, declaration)]) (events lead [(key, declaration')])

namespace SameMeaning

variable {declaration declaration' : Json}

/-- Fields mean the same when their descriptors are the same. -/
theorem of_field (hdeclared : declaration ≠ .null) (hdeclared' : declaration' ≠ .null)
    (hfield : isFilledShape declaration = false) (hfield' : isFilledShape declaration' = false)
    (hmeaning : ∀ options path, SameResult Descriptor.erased (interpret options path declaration)
      (interpret options path declaration')) : SameMeaning declaration declaration' where
  asItem options path := by
    rw [interpretItem_of_field _ _ hdeclared hfield, interpretItem_of_field _ _ hdeclared' hfield']
    exact (hmeaning options path).map fun field field' h => congrArg Element.caster h
  atKey options lead key := by
    rw [events_of_field hdeclared hfield, events_of_field hdeclared' hfield']
    exact .cons (.define _ (hmeaning options _)) .nil

/-- Shapes mean the same when their keys do the same. -/
theorem of_shape {fields fields' : Fields} (hshape : isFilledShape (.obj fields) = true)
    (hshape' : isFilledShape (.obj fields') = true)
    (hevents : ∀ options lead, List.Forall₂ (Event.Alike options) (events lead fields)
      (events lead fields')) : SameMeaning (.obj fields) (.obj fields') where
  asItem options path := by
    rw [interpretItem_of_shape _ _ hshape, interpretItem_of_shape _ _ hshape',
      addFields_eq_performAll, addFields_eq_performAll]
    exact (Schema.SameOutcome.performAll (hevents options "") rfl rfl).result.map
      fun schema schema' h => congrArg Element.document h
  atKey options lead key := by
    rw [events_of_shape hshape, events_of_shape hshape']
    exact .cons (.nest _) (hevents options _)

/-- At the key of one declaration, another one with the same meaning does the same. -/
theorem events_put (h : SameMeaning declaration declaration') {fields : Fields} {key : String}
    (hkey : fields.get? key = some declaration) (options : SchemaOptions) (lead : String) :
    List.Forall₂ (Event.Alike options) (events lead fields)
      (events lead (fields.put key declaration')) := by
  induction fields with
  | nil => cases hkey
  | cons entry rest ih =>
    obtain ⟨other, value⟩ := entry
    rw [Entries.get?] at hkey
    rw [Entries.put, events_cons]
    split at hkey
    · rename_i hother
      cases hkey
      rw [if_pos hother, events_cons lead other declaration', hother]
      exact List.rel_append (h.atKey options lead key) (Event.Alike.refl_run _)
    · rename_i hother
      rw [if_neg hother, events_cons lead other value (Entries.put rest key declaration')]
      exact List.rel_append (Event.Alike.refl_run _) (ih hkey)

end SameMeaning

end RecordSchema
