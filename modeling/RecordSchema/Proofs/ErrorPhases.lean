import RecordSchema.Document
import RecordSchema.Proofs.Flattening
import RecordSchema.Proofs.SelectStatement

/-!
# The phase that raises an error

A schema is declared first and used afterwards, and an error tells which of the two went wrong.
Declaring fails with declaration errors only: what a declaration says deep inside, in a nested
shape, in the items of a list or in the documents of a list, is interpreted by the same rules and
fails with the same errors. Using a schema never fails with one of them.

## Main definitions

* `FailsInDeclaration`: whether all errors of an outcome are declaration errors.

## Main statements

* `failsInDeclaration_interpret`, `failsInDeclaration_interpretItem`: meanings of declarations.
* `Schema.isDeclaration_of_performAll`: events whose definitions have such meanings.
* `Schema.select_error`, `Schema.insert_error`, `Schema.columnList_error`: statements.
* `errors_by_phase`: all errors and their phases.
-/

namespace RecordSchema

/-! ## Outcomes -/

/-- Whether all errors of an outcome are declaration errors. -/
def FailsInDeclaration {α : Type} (outcome : Except SchemaError α) : Prop :=
  ∀ e, outcome = .error e → e.isDeclaration = true

namespace FailsInDeclaration

variable {α β : Type} {outcome : Except SchemaError α}

theorem ok (result : α) : FailsInDeclaration (.ok result) := by
  intro e h
  cases h

theorem error {e : SchemaError} (h : e.isDeclaration = true) :
    FailsInDeclaration (.error e : Except SchemaError α) := by
  intro e' h'
  cases h'
  exact h

theorem bind {next : α → Except SchemaError β} (h : FailsInDeclaration outcome)
    (hnext : ∀ result, FailsInDeclaration (next result)) :
    FailsInDeclaration (outcome >>= next) := by
  cases outcome with
  | error e => exact error (h e rfl)
  | ok result => exact hnext result

theorem map {f : α → β} (h : FailsInDeclaration outcome) : FailsInDeclaration (outcome.map f) :=
  fun e he => h e (map_eq_error_iff.1 he)

end FailsInDeclaration

/-! ## Options and types -/

section

variable (type : FieldType) (path column : String) (options : Fields)

theorem failsInDeclaration_requiredOption :
    FailsInDeclaration (requiredOption type path options) := by
  unfold requiredOption
  split
  · exact .ok _
  · exact .ok _
  · exact .ok _
  · exact .ok _
  · exact .ok _
  · exact .error rfl

theorem failsInDeclaration_enumOption : FailsInDeclaration (enumOption path options) := by
  unfold enumOption
  split
  · exact .ok _
  · exact .ok _
  · exact .error rfl

theorem failsInDeclaration_matchOption : FailsInDeclaration (matchOption path options) := by
  unfold matchOption
  split
  · exact .ok _
  · split
    · exact .ok _
    · exact .error rfl
  · exact .error rfl

theorem failsInDeclaration_boundOption (key : String) (validator : Float → Validator) :
    FailsInDeclaration (boundOption key validator path options) := by
  unfold boundOption
  split
  · exact .ok _
  · split
    · exact .ok _
    · exact .error rfl

theorem failsInDeclaration_optionValidators :
    FailsInDeclaration (optionValidators type path options) :=
  (failsInDeclaration_requiredOption type path options).bind fun _ =>
    (failsInDeclaration_enumOption path options).bind fun _ =>
      (failsInDeclaration_matchOption path options).bind fun _ =>
        (failsInDeclaration_boundOption path options "min" _).bind fun _ =>
          (failsInDeclaration_boundOption path options "max" _).bind fun _ => .ok _

theorem failsInDeclaration_scalar :
    FailsInDeclaration (Descriptor.scalar path column type options) :=
  (failsInDeclaration_optionValidators type path options).bind fun _ => .ok _

theorem failsInDeclaration_collection (element : Element) :
    FailsInDeclaration (Descriptor.collection path column element options) :=
  (failsInDeclaration_scalar .collection path column options).bind fun _ => .ok _

theorem failsInDeclaration_resolve (typeName : String) :
    FailsInDeclaration (FieldType.resolve path typeName) := by
  unfold FieldType.resolve
  split
  · exact .ok _
  · exact .error rfl

theorem failsInDeclaration_interpretScalar (schemaOptions : SchemaOptions) :
    FailsInDeclaration (interpretScalar schemaOptions path options) := by
  unfold interpretScalar
  simp only
  split
  · exact .error rfl
  · exact (failsInDeclaration_resolve path _).bind fun type =>
      failsInDeclaration_scalar type path _ options

end

/-! ## Paths and their place in the tree -/

theorem isDeclaration_of_pathFault? {path : String} {fault : SchemaError}
    (h : pathFault? path = some fault) : fault.isDeclaration = true := by
  rcases pathFault?_eq_some_iff.1 h with ⟨_, rfl⟩ | ⟨_, _, rfl⟩ <;> rfl

theorem PathTree.failsInDeclaration_insertFrom (path : String) (declaration : Json)
    (passed segs : List String) (nodes : Array TreeNode) (current : Nat) :
    FailsInDeclaration (insertFrom path declaration passed segs nodes current).2 := by
  fun_induction insertFrom path declaration passed segs nodes current with
  | case1 => exact .error rfl
  | case2 => exact .ok _
  | case3 => exact .error rfl
  | case4 => exact .ok _
  | case5 _ _ _ _ _ _ _ _ ih => exact ih
  | case6 => exact .error rfl
  | case7 _ _ _ _ _ _ _ _ _ _ ih => exact ih

/-! ## Declarations -/

namespace Schema

theorem isDeclaration_of_register {schema : Schema} {path : String} {declaration : Json}
    {meaning : Except SchemaError Descriptor} (hmeaning : FailsInDeclaration meaning)
    {e : SchemaError} (h : (schema.register path declaration meaning).2 = some e) :
    e.isDeclaration = true := by
  unfold register at h
  split at h
  · rename_i fault hfault
    cases h
    exact isDeclaration_of_pathFault? hfault
  · split at h
    · cases h
      exact hmeaning e rfl
    · split at h
      · rename_i hinsert
        cases h
        exact PathTree.failsInDeclaration_insertFrom path declaration [] _ schema.tree.nodes _ e
          (congrArg Prod.snd hinsert)
      · cases h

theorem failsInDeclaration_result {outcome : Schema × Option SchemaError}
    (h : ∀ e, outcome.2 = some e → e.isDeclaration = true) :
    FailsInDeclaration (result outcome) := by
  rcases outcome with ⟨schema, _ | e⟩
  · exact .ok schema
  · exact .error (h e rfl)

/-- Events fail with declaration errors, if what they define is meant or fails with such errors. -/
theorem isDeclaration_of_performAll {schema : Schema} {run : List Event}
    (hmeant : ∀ path declaration, .define path declaration ∈ run → ∀ options,
      FailsInDeclaration (interpret options path declaration)) (e : SchemaError)
    (h : (schema.performAll run).2 = some e) : e.isDeclaration = true := by
  induction run generalizing schema with
  | nil => cases h
  | cons event rest ih =>
    rw [performAll] at h
    split at h
    · exact ih (fun path declaration hmem => hmeant path declaration (.tail _ hmem)) h
    · rename_i hstep
      cases h
      cases event with
      | nest path => cases hstep
      | define path declaration =>
        exact isDeclaration_of_register (hmeant path declaration List.mem_cons_self _)
          (congrArg Prod.snd hstep)
      | refuse path =>
        cases hstep
        rfl

end Schema

mutual

/-- What a declaration means at a path. -/
theorem failsInDeclaration_interpret (options : SchemaOptions) (path : String)
    (declaration : Json) : FailsInDeclaration (interpret options path declaration) := by
  rw [interpret]
  split
  · simp only
    split
    · rename_i item hitem
      have hlt := sizeOf_itemPart_lt hitem
      exact (failsInDeclaration_interpretItem options path item).bind fun element =>
        failsInDeclaration_collection path _ _ element
    · exact (failsInDeclaration_interpretScalar path _ options).map.bind fun element =>
        failsInDeclaration_collection path _ _ element
  · exact failsInDeclaration_interpretScalar path _ options
termination_by (sizeOf declaration, 0)

/-- What a declaration says about the items of a collection. -/
theorem failsInDeclaration_interpretItem (options : SchemaOptions) (path : String) (item : Json) :
    FailsInDeclaration (interpretItem options path item) := by
  rcases itemKind_cases item with rfl | ⟨fields, rfl, hshape⟩ | ⟨hdeclared, hfield⟩
  · rw [interpretItem_null]
    exact (failsInDeclaration_interpretScalar path _ options).map
  · -- documents have a schema of their own, whose fields are declared inside the item
    rw [interpretItem_of_shape _ _ hshape, addFields_eq_performAll]
    refine (Schema.failsInDeclaration_result ?_).map
    refine Schema.isDeclaration_of_performAll fun inner declaration hmem options => ?_
    have hlt : sizeOf declaration < sizeOf (Json.obj fields) := by
      have := (flattens_events "" fields).sizeOf_lt hmem
      rw [Json.obj.sizeOf_spec]
      omega
    exact failsInDeclaration_interpret options inner declaration
  · rw [interpretItem_of_field _ _ hdeclared hfield]
    exact (failsInDeclaration_interpret options path item).map
termination_by (sizeOf item, 1)

end

namespace Schema

theorem isDeclaration_of_define {schema : Schema} {path : String} {declaration : Json}
    {e : SchemaError} (h : (schema.define path declaration).2 = some e) : e.isDeclaration = true :=
  isDeclaration_of_register (failsInDeclaration_interpret _ path declaration) h

theorem isDeclaration_of_add {schema : Schema} {declaration : Json} {lead : String}
    {e : SchemaError} (h : (schema.add declaration lead).2 = some e) : e.isDeclaration = true := by
  rw [add_eq_performAll] at h
  exact isDeclaration_of_performAll
    (fun path declaration _ options => failsInDeclaration_interpret options path declaration) e h

theorem failsInDeclaration_ofDeclaration (declaration : Json) (options : SchemaOptions) :
    FailsInDeclaration (ofDeclaration declaration options) := by
  unfold ofDeclaration
  split
  · exact .ok _
  · rename_i hadd
    exact .error (isDeclaration_of_add (congrArg Prod.snd hadd))

end Schema

/-! ## Statements -/

theorem argumentFields_error {argument : Json} {what : String} {e : SchemaError}
    (h : argumentFields argument what = .error e) : ∃ reason, e = .invalidInput reason := by
  rcases argumentFields_cases argument what with ⟨_, fields, hfields⟩ | ⟨_, _, hrefused⟩
  · cases hfields.symm.trans h
  · cases hrefused.symm.trans h
    exact ⟨_, rfl⟩

namespace Schema

variable {schema : Schema} {listed : List String} {e : SchemaError}

theorem checkListed_error (h : schema.checkListed listed = .error e) :
    ∃ field, e = .unknownField field := by
  rcases schema.checkListed_cases listed with
    ⟨hok, _⟩ | ⟨known, field, rest, rfl, hknown, hpath, hnested⟩
  · cases hok.symm.trans h
  · cases (checkListed_of_unknown hknown hpath hnested).symm.trans h
    exact ⟨field, rfl⟩

theorem columnList_error (h : schema.columnList listed = .error e) :
    ∃ field, e = .unknownField field := by
  unfold columnList at h
  cases hlisted : schema.checkListed listed with
  | error e' =>
    rw [hlisted] at h
    cases h
    exact checkListed_error hlisted
  | ok _ =>
    rw [hlisted] at h
    cases h

/-- An INSERT fails for its arguments only, and for no value of the record. -/
theorem insert_error {table : String} {record : Json}
    (h : schema.insert table record listed = .error e) :
    (∃ reason, e = .invalidInput reason) ∨ ∃ field, e = .unknownField field := by
  unfold insert at h
  cases hfields : argumentFields record "record" with
  | error e' =>
    rw [hfields] at h
    cases h
    exact .inl (argumentFields_error hfields)
  | ok fields =>
    cases hlisted : schema.checkListed listed with
    | error e' =>
      rw [hfields, hlisted] at h
      cases h
      exact .inr (checkListed_error hlisted)
    | ok _ =>
      rw [hfields, hlisted] at h
      cases h

/-- A SELECT fails for its arguments, or for a criterion without a stored form. -/
theorem select_error {settings : CompilerSettings} {table : String} {criteria : Json} {limit : Nat}
    (h : schema.select settings table criteria listed limit = .error e) :
    (∃ reason, e = .invalidInput reason) ∨ (∃ field, e = .unknownField field) ∨
      ∃ path expected value, e = .cast path expected value := by
  rcases schema.select_cases settings table criteria listed limit with
    ⟨e', hrefusal, hrefused⟩ | ⟨_, _, _, _, hcompiled⟩
  · cases hrefused.symm.trans h
    cases hrefusal with
    | no_object => exact .inl ⟨_, rfl⟩
    | unknown_field => exact .inr (.inl ⟨_, rfl⟩)
    | criterion _ _ _ hfault =>
      cases hfault with
      | unknown => exact .inr (.inl ⟨_, rfl⟩)
      | uncast => exact .inr (.inr ⟨_, _, _, rfl⟩)
  · cases hcompiled.symm.trans h

end Schema

/-! ## Projections -/

namespace Projection

theorem flagOf_error {key : String} {value : Json} {e : SchemaError}
    (h : flagOf key value = .error e) : ∃ reason, e = .invalidInput reason := by
  unfold flagOf at h
  split at h
  · cases h
  · cases h
  · cases h
    exact ⟨_, rfl⟩

theorem flagsOf_error {fields : List (String × Json)} {e : SchemaError}
    (h : flagsOf fields = .error e) : ∃ reason, e = .invalidInput reason := by
  induction fields with
  | nil => cases h
  | cons field rest ih =>
    obtain ⟨key, value⟩ := field
    unfold flagsOf at h
    cases hflag : flagOf key value with
    | error e' =>
      rw [hflag] at h
      cases h
      exact flagOf_error hflag
    | ok flag =>
      cases hrest : flagsOf rest with
      | error e' =>
        rw [hflag, hrest] at h
        cases h
        exact ih hrest
      | ok flags =>
        rw [hflag, hrest] at h
        cases h

theorem ofJson_error {value : Json} {e : SchemaError} (h : ofJson value = .error e) :
    ∃ reason, e = .invalidInput reason := by
  unfold ofJson at h
  split at h
  · exact flagsOf_error (map_eq_error_iff.1 h)
  · cases h
    exact ⟨_, rfl⟩

end Projection

/-! ## All errors -/

/-- Declaring fails with declaration errors only, whether a whole schema, the keys of an object, a
single field or a descriptor is declared, at whatever depth the cause lies. Everything else fails
with errors of use: a SELECT for the shape of its arguments, for an unknown field or for a criterion
without a stored form; an INSERT and a column list for their arguments only; a conversion for a
value without a stored form; and a projection for its shape. -/
theorem errors_by_phase :
    ((∀ declaration options e, Schema.ofDeclaration declaration options = .error e →
        e.isDeclaration = true) ∧
      (∀ schema declaration lead e, (Schema.add schema declaration lead).2 = some e →
        e.isDeclaration = true) ∧
      (∀ schema path declaration e, (Schema.define schema path declaration).2 = some e →
        e.isDeclaration = true) ∧
      (∀ path column type options e, Descriptor.scalar path column type options = .error e →
        e.isDeclaration = true) ∧
      ∀ path column element options e,
        Descriptor.collection path column element options = .error e → e.isDeclaration = true) ∧
    (∀ schema settings table criteria listed limit e,
      Schema.select schema settings table criteria listed limit = .error e →
        e.isDeclaration = false ∧
          ((∃ reason, e = .invalidInput reason) ∨ (∃ field, e = .unknownField field) ∨
            ∃ path expected rejected, e = .cast path expected rejected)) ∧
    (∀ schema table record listed e, Schema.insert schema table record listed = .error e →
      e.isDeclaration = false ∧
        ((∃ reason, e = .invalidInput reason) ∨ ∃ field, e = .unknownField field)) ∧
    (∀ schema listed e, Schema.columnList schema listed = .error e →
      e.isDeclaration = false ∧ ∃ field, e = .unknownField field) ∧
    (∀ descriptor value e, Descriptor.cast descriptor value = .error e →
      e.isDeclaration = false ∧ ∃ path expected rejected, e = .cast path expected rejected) ∧
    ∀ value e, Projection.ofJson value = .error e →
      e.isDeclaration = false ∧ ∃ reason, e = .invalidInput reason := by
  refine ⟨⟨?_, ?_, ?_, ?_, ?_⟩, ?_, ?_, ?_, ?_, ?_⟩
  · exact fun declaration options => Schema.failsInDeclaration_ofDeclaration declaration options
  · exact fun schema declaration lead e => Schema.isDeclaration_of_add
  · exact fun schema path declaration e => Schema.isDeclaration_of_define
  · exact fun path column type options => failsInDeclaration_scalar type path column options
  · exact fun path column element options =>
      failsInDeclaration_collection path column options element
  · intro schema settings table criteria listed limit e h
    have hcases := Schema.select_error h
    refine ⟨?_, hcases⟩
    rcases hcases with ⟨reason, rfl⟩ | ⟨field, rfl⟩ | ⟨path, expected, value, rfl⟩ <;> rfl
  · intro schema table record listed e h
    have hcases := Schema.insert_error h
    refine ⟨?_, hcases⟩
    rcases hcases with ⟨reason, rfl⟩ | ⟨field, rfl⟩ <;> rfl
  · intro schema listed e h
    obtain ⟨field, rfl⟩ := Schema.columnList_error h
    exact ⟨rfl, field, rfl⟩
  · intro descriptor value e h
    obtain ⟨path, expected, rejected, rfl⟩ := Descriptor.cast_error h
    exact ⟨rfl, path, expected, rejected, rfl⟩
  · intro value e h
    obtain ⟨reason, rfl⟩ := Projection.ofJson_error h
    exact ⟨rfl, reason, rfl⟩

end RecordSchema
