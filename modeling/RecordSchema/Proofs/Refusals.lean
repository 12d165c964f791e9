import RecordSchema.Proofs.Consistency

/-!
# When a field cannot be defined

A definition is refused for the first of five causes that applies: the name is reserved, a segment
is empty, the declaration means no field, a declared field is above the path, or a declared field
is below it. A refusal leaves the schema as it was, node by node.

## Main definitions

* `Refusal`: the causes, each with the error that it is reported by.

## Main statements

* `Refusal.unique`: only one error applies.
* `Schema.Tracks.define_definable_or_refused`: a definition succeeds, or is refused by a cause.
* `define_succeeds_iff`: both for every schema that edits lead to.
-/

namespace RecordSchema

open RecordSchema.Path

/-- Why a field cannot be defined; a cause applies only when those before it do not. -/
inductive Refusal (schema : Schema) (path : String) (declaration : Json) : SchemaError → Prop
  /-- The path is a reserved name. -/
  | reserved (hname : path ∈ reservedNames) : Refusal schema path declaration (.reservedName path)
  /-- The path has an empty segment. -/
  | empty_segment (hname : path ∉ reservedNames) (hsegment : "" ∈ segments path) :
      Refusal schema path declaration (.invalidPath path)
  /-- The declaration means no field. -/
  | meaningless {e : SchemaError} (hname : path ∉ reservedNames) (hfilled : "" ∉ segments path)
      (hmeaning : interpret schema.options path declaration = .error e) :
      Refusal schema path declaration e
  /-- A declared field is above the path, and no other one is. -/
  | below_field {meaning : Descriptor} {parent : String} {existing : Json}
      (hname : path ∉ reservedNames) (hfilled : "" ∉ segments path)
      (hmeaning : interpret schema.options path declaration = .ok meaning)
      (hparent : parent ∈ schema.paths) (habove : IsAbove parent path)
      (honly : ∀ other ∈ schema.paths, IsAbove other path → other = parent)
      (hleaf : schema.tree.get? parent = some (.leaf existing)) :
      Refusal schema path declaration
        (.pathConflict path parent (TreeNode.declaredTypeName existing))
  /-- A declared field is below the path, and none is above it. -/
  | above_field {meaning : Descriptor} {below : String}
      (hname : path ∉ reservedNames) (hfilled : "" ∉ segments path)
      (hmeaning : interpret schema.options path declaration = .ok meaning)
      (hclear : ∀ other ∈ schema.paths, ¬IsAbove other path)
      (hbelow : below ∈ schema.paths) (habove : IsAbove path below) :
      Refusal schema path declaration (.nestedConflict path)

/-- What a definition needs: a path that can be declared, a declaration that means a field, and no
declared field above or below the path. -/
def Definable (schema : Schema) (path : String) (declaration : Json) : Prop :=
  path ∉ reservedNames ∧ "" ∉ segments path ∧
  (∃ meaning, interpret schema.options path declaration = .ok meaning) ∧
  (∀ other ∈ schema.paths, ¬IsAbove other path) ∧
  ∀ other ∈ schema.paths, ¬IsAbove path other

variable {schema : Schema} {path : String} {declaration : Json} {e e' : SchemaError}

/-- What is refused is not definable. -/
theorem Refusal.not_definable (h : Refusal schema path declaration e) :
    ¬Definable schema path declaration := by
  rintro ⟨hname', hfilled', ⟨meaning', hmeaning'⟩, hclear', hfree'⟩
  cases h with
  | reserved hname => exact hname' hname
  | empty_segment _ hsegment => exact hfilled' hsegment
  | meaningless _ _ hmeaning => cases hmeaning.symm.trans hmeaning'
  | below_field _ _ _ hparent habove => exact hclear' _ hparent habove
  | above_field _ _ _ _ hbelow habove => exact hfree' _ hbelow habove

/-- Only one error applies. -/
theorem Refusal.unique (h : Refusal schema path declaration e)
    (h' : Refusal schema path declaration e') : e = e' := by
  cases h with
  | reserved hname =>
    cases h' with
    | reserved => rfl
    | empty_segment hname' | meaningless hname' | below_field hname' | above_field hname' =>
      exact absurd hname hname'
  | empty_segment hname hsegment =>
    cases h' with
    | reserved hname' => exact absurd hname' hname
    | empty_segment => rfl
    | meaningless _ hfilled | below_field _ hfilled | above_field _ hfilled =>
      exact absurd hsegment hfilled
  | meaningless hname hfilled hmeaning =>
    cases h' with
    | reserved hname' => exact absurd hname' hname
    | empty_segment _ hsegment => exact absurd hsegment hfilled
    | meaningless _ _ hmeaning' => cases hmeaning.symm.trans hmeaning'; rfl
    | below_field _ _ hmeaning' | above_field _ _ hmeaning' =>
      cases hmeaning.symm.trans hmeaning'
  | below_field hname hfilled hmeaning hparent habove honly hleaf =>
    cases h' with
    | reserved hname' => exact absurd hname' hname
    | empty_segment _ hsegment => exact absurd hsegment hfilled
    | meaningless _ _ hmeaning' => cases hmeaning.symm.trans hmeaning'
    | below_field _ _ _ hparent' habove' _ hleaf' =>
      obtain rfl := honly _ hparent' habove'
      cases hleaf.symm.trans hleaf'
      rfl
    | above_field _ _ _ hclear => exact absurd habove (hclear _ hparent)
  | above_field hname hfilled hmeaning hclear =>
    cases h' with
    | reserved hname' => exact absurd hname' hname
    | empty_segment _ hsegment => exact absurd hsegment hfilled
    | meaningless _ _ hmeaning' => cases hmeaning.symm.trans hmeaning'
    | below_field _ _ _ hparent habove => exact absurd habove (hclear _ hparent)
    | above_field => rfl

namespace Schema.Tracks

variable {options : SchemaOptions} {log : List Change}

/-- A definition succeeds when it can, and otherwise is refused and changes nothing. -/
theorem define_definable_or_refused (h : schema.Tracks options log) (path : String)
    (declaration : Json) :
    (Definable schema path declaration ∧ (schema.define path declaration).2 = none) ∨
    ∃ e, Refusal schema path declaration e ∧ schema.define path declaration = (schema, some e) := by
  have houtcome := schema.define_outcome h.proper path declaration
  cases hdone : schema.define path declaration with
  | mk after answer =>
    rw [hdone] at houtcome
    cases houtcome with
    | faulty hfault =>
      rcases pathFault?_eq_some_iff.1 hfault with ⟨hname, rfl⟩ | ⟨hname, hsegment, rfl⟩
      · exact .inr ⟨_, .reserved hname, rfl⟩
      · exact .inr ⟨_, .empty_segment hname hsegment, rfl⟩
    | meaningless hpath hmeaning =>
      obtain ⟨hname, hfilled⟩ := pathFault?_eq_none_iff.1 hpath
      exact .inr ⟨_, .meaningless hname hfilled hmeaning, rfl⟩
    | below_field hpath hmeaning habove hparent =>
      obtain ⟨hname, hfilled⟩ := pathFault?_eq_none_iff.1 hpath
      have hdeclared := h.declaration?_isSome_iff.1 (Option.isSome_of_eq_some hparent)
      exact .inr ⟨_, .below_field hname hfilled hmeaning hdeclared habove
        (fun other hother habove' => h.eq_of_isAbove hother hdeclared habove' habove)
        (PathTree.declaration?_eq_some_iff.1 hparent), rfl⟩
    | above_field hpath hmeaning habove hbelow =>
      obtain ⟨hname, hfilled⟩ := pathFault?_eq_none_iff.1 hpath
      have hdeclared := h.declaration?_isSome_iff.1 hbelow
      refine .inr ⟨_, .above_field hname hfilled hmeaning ?_ hdeclared habove, rfl⟩
      exact fun other hother habove' => h.not_isAbove hother hdeclared (habove'.trans habove)
    | declared hpath hmeaning hclear =>
      obtain ⟨hname, hfilled⟩ := pathFault?_eq_none_iff.1 hpath
      exact .inl ⟨⟨hname, hfilled, ⟨_, hmeaning⟩,
        fun other hother => (hclear other (h.declaration?_isSome_iff.2 hother)).1,
        fun other hother => (hclear other (h.declaration?_isSome_iff.2 hother)).2⟩, rfl⟩

end Schema.Tracks

/-- In every schema that edits lead to, a definition succeeds just when its path can be declared,
its declaration means a field, and no declared field is above or below; otherwise it is refused
with the first error that applies, and the schema is as it was. -/
theorem define_succeeds_iff (options : SchemaOptions) (edits : List Edit) (path : String)
    (declaration : Json) :
    let schema := Schema.reached options edits
    ((schema.define path declaration).2 = none ↔
      path ∉ reservedNames ∧ "" ∉ segments path ∧
      (∃ meaning, interpret schema.options path declaration = .ok meaning) ∧
      (∀ other ∈ schema.paths, ¬IsAbove other path) ∧
      ∀ other ∈ schema.paths, ¬IsAbove path other) ∧
    ∀ after e, schema.define path declaration = (after, some e) ↔
      Refusal schema path declaration e ∧ after = schema := by
  intro schema
  have h : schema.Tracks options (history options edits) := Schema.reached_tracks options edits
  rcases h.define_definable_or_refused path declaration with
    ⟨hdefinable, hdone⟩ | ⟨e, hrefusal, hdone⟩
  · refine ⟨iff_of_true hdone hdefinable, fun after e => iff_of_false ?_ ?_⟩
    · intro herror
      rw [herror] at hdone
      cases hdone
    · exact fun hrefusal => hrefusal.1.not_definable hdefinable
  · rw [hdone]
    refine ⟨iff_of_false (by simp) hrefusal.not_definable, fun after e' => ?_⟩
    constructor
    · intro heq
      cases heq
      exact ⟨hrefusal, rfl⟩
    · rintro ⟨hrefusal', rfl⟩
      rw [hrefusal.unique hrefusal']

end RecordSchema
