import RecordSchema.Proofs.DeclaredPaths
import RecordSchema.Schema.Declaration

/-!
# Defining one field

Everything that defining a field can do to a schema whose tree is proper: it is refused for one of
four causes, and then the schema is as it was, or the field takes its place in the tree and among
the descriptors.

## Main definitions

* `DefineOutcome`: what defining a field leads to, one case for each cause.

## Main statements

* `pathFault?_eq_none_iff`, `pathFault?_eq_some_iff`: the faults of a path.
* `Schema.options_define`, `Schema.nested_define`, `Schema.mem_paths_define`: what it leaves alone.
* `Schema.define_done_iff`: what a definition that succeeds does.
* `Schema.define_outcome`: these are all the cases.
-/

namespace RecordSchema

open RecordSchema.Path

/-! ## Faults of a path -/

theorem any_isEmpty_iff (segs : List String) : segs.any String.isEmpty = true ↔ "" ∈ segs := by
  simp [List.any_eq_true]

theorem pathFault?_cases (path : String) :
    (path ∈ reservedNames ∧ pathFault? path = some (.reservedName path)) ∨
    (path ∉ reservedNames ∧ "" ∈ segments path ∧ pathFault? path = some (.invalidPath path)) ∨
    (path ∉ reservedNames ∧ "" ∉ segments path ∧ pathFault? path = none) := by
  unfold pathFault?
  by_cases hname : path ∈ reservedNames
  · exact .inl ⟨hname, if_pos (List.contains_iff_mem.2 hname)⟩
  · rw [if_neg (mt List.contains_iff_mem.1 hname)]
    by_cases hsegment : "" ∈ segments path
    · exact .inr (.inl ⟨hname, hsegment, if_pos ((any_isEmpty_iff _).2 hsegment)⟩)
    · exact .inr (.inr ⟨hname, hsegment, if_neg (mt (any_isEmpty_iff _).1 hsegment)⟩)

theorem pathFault?_eq_none_iff {path : String} :
    pathFault? path = none ↔ path ∉ reservedNames ∧ "" ∉ segments path := by
  rcases pathFault?_cases path with ⟨hname, hfault⟩ | ⟨hname, hsegment, hfault⟩ |
    ⟨hname, hsegment, hfault⟩
  · simp [hname, hfault]
  · simp [hname, hsegment, hfault]
  · simp [hname, hsegment, hfault]

theorem pathFault?_eq_some_iff {path : String} {fault : SchemaError} :
    pathFault? path = some fault ↔ (path ∈ reservedNames ∧ fault = .reservedName path) ∨
      (path ∉ reservedNames ∧ "" ∈ segments path ∧ fault = .invalidPath path) := by
  rcases pathFault?_cases path with ⟨hname, hfault⟩ | ⟨hname, hsegment, hfault⟩ |
    ⟨hname, hsegment, hfault⟩
  · simp [hname, hfault, eq_comm]
  · simp [hname, hsegment, hfault, eq_comm]
  · simp [hname, hsegment, hfault]

/-! ## What defining a field leads to -/

/-- The schema after a field is defined, and the error, if any. -/
inductive DefineOutcome (schema : Schema) (path : String) (declaration : Json) :
    Schema × Option SchemaError → Prop
  /-- Nothing can be declared at the path. -/
  | faulty {fault : SchemaError} (hfault : pathFault? path = some fault) :
      DefineOutcome schema path declaration (schema, some fault)
  /-- The declaration means no field. -/
  | meaningless {e : SchemaError} (hpath : pathFault? path = none)
      (hmeaning : interpret schema.options path declaration = .error e) :
      DefineOutcome schema path declaration (schema, some e)
  /-- A declared field is above the path. -/
  | below_field {meaning : Descriptor} {parent : String} {existing : Json}
      (hpath : pathFault? path = none)
      (hmeaning : interpret schema.options path declaration = .ok meaning)
      (habove : IsAbove parent path) (hparent : schema.tree.declaration? parent = some existing) :
      DefineOutcome schema path declaration
        (schema, some (.pathConflict path parent (TreeNode.declaredTypeName existing)))
  /-- A declared field is below the path. -/
  | above_field {meaning : Descriptor} {below : String} (hpath : pathFault? path = none)
      (hmeaning : interpret schema.options path declaration = .ok meaning)
      (habove : IsAbove path below) (hbelow : (schema.tree.declaration? below).isSome) :
      DefineOutcome schema path declaration (schema, some (.nestedConflict path))
  /-- The field is declared. -/
  | declared {meaning : Descriptor} {tree : PathTree} (hpath : pathFault? path = none)
      (hmeaning : interpret schema.options path declaration = .ok meaning)
      (hclear : ∀ other, (schema.tree.declaration? other).isSome →
        ¬IsAbove other path ∧ ¬IsAbove path other)
      (hproper : tree.IsProper)
      (htree : ∀ other, tree.declaration? other
        = if other = path then some declaration else schema.tree.declaration? other) :
      DefineOutcome schema path declaration
        ({ schema with tree, fields := Entries.put schema.fields path meaning }, none)

theorem Schema.eta (schema : Schema) :
    Schema.mk schema.fields schema.tree schema.nested schema.options = schema := by
  cases schema
  rfl

/-- What registering a field can do, whatever the tree is like: an error leaves everything but the
tree as it was, and otherwise the path is inserted and its descriptor written. -/
theorem Schema.register_cases (schema : Schema) (path : String) (declaration : Json)
    (meaning : Except SchemaError Descriptor) :
    (∃ tree e, schema.register path declaration meaning = ({ schema with tree := tree }, some e)) ∨
    ∃ leaf descriptor, meaning = .ok descriptor ∧
      (schema.tree.insert path declaration).2 = .ok leaf ∧
      schema.register path declaration meaning = ({ schema with
        tree := (schema.tree.insert path declaration).1
        fields := Entries.put schema.fields path descriptor }, none) := by
  unfold register
  cases pathFault? path with
  | some fault => exact .inl ⟨schema.tree, fault, by rw [Schema.eta]⟩
  | none =>
    cases meaning with
    | error e => exact .inl ⟨schema.tree, e, by rw [Schema.eta]⟩
    | ok descriptor =>
      rcases schema.tree.insert path declaration with ⟨tree, e | leaf⟩
      · exact .inl ⟨tree, e, rfl⟩
      · exact .inr ⟨leaf, descriptor, rfl, rfl, rfl⟩

/-- What a definition that succeeds does: it inserts its path into the tree and writes the
descriptor that its declaration means. -/
theorem Schema.define_done_iff {schema after : Schema} {path : String} {declaration : Json} :
    schema.define path declaration = (after, none) ↔ pathFault? path = none ∧ ∃ leaf descriptor,
      interpret schema.options path declaration = .ok descriptor ∧
      (schema.tree.insert path declaration).2 = .ok leaf ∧
      after = { schema with
        tree := (schema.tree.insert path declaration).1
        fields := Entries.put schema.fields path descriptor } := by
  unfold define register
  cases pathFault? path with
  | some fault => simp
  | none =>
    cases interpret schema.options path declaration with
    | error e => simp
    | ok descriptor =>
      rcases schema.tree.insert path declaration with ⟨tree, e | leaf⟩ <;> simp [eq_comm]

section

variable (schema : Schema) (path : String) (declaration : Json)

@[simp] theorem Schema.options_define :
    (schema.define path declaration).1.options = schema.options := by
  rcases schema.register_cases path declaration (interpret schema.options path declaration) with
    ⟨tree, e, hdone⟩ | ⟨leaf, descriptor, _, _, hdone⟩ <;> rw [define, hdone]

theorem Schema.nested_define : (schema.define path declaration).1.nested = schema.nested := by
  rcases schema.register_cases path declaration (interpret schema.options path declaration) with
    ⟨tree, e, hdone⟩ | ⟨leaf, descriptor, _, _, hdone⟩ <;> rw [define, hdone]

variable {schema path declaration}

/-- A definition declares its path when it succeeds, and nothing else. -/
theorem Schema.mem_paths_define {other : String} :
    other ∈ (schema.define path declaration).1.paths ↔
      other ∈ schema.paths ∨ other = path ∧ (schema.define path declaration).2 = none := by
  rcases schema.register_cases path declaration (interpret schema.options path declaration) with
    ⟨tree, e, hdone⟩ | ⟨leaf, descriptor, _, _, hdone⟩ <;> rw [define, hdone]
  · simp [paths]
  · simp [paths, Entries.mem_keys_put]

end

theorem Schema.define_outcome {schema : Schema} (h : schema.tree.IsProper) (path : String)
    (declaration : Json) :
    DefineOutcome schema path declaration (schema.define path declaration) := by
  unfold Schema.define Schema.register
  split
  · rename_i fault hfault
    exact .faulty hfault
  · rename_i hpath
    split
    · rename_i e hmeaning
      exact .meaningless hpath hmeaning
    · rename_i meaning hmeaning
      rcases h.insert_outcome path declaration with
        ⟨parent, existing, habove, hparent, hinsert⟩ | ⟨below, habove, hbelow, hinsert⟩ |
        ⟨leaf, hleaf, hproper, hclear, htree⟩
      · simp only [hinsert, Schema.eta]
        exact .below_field hpath hmeaning habove hparent
      · simp only [hinsert, Schema.eta]
        exact .above_field hpath hmeaning habove hbelow
      · cases hdone : schema.tree.insert path declaration with
        | mk tree answer =>
          rw [hdone] at hleaf hproper htree
          cases hleaf
          exact .declared hpath hmeaning hclear hproper htree

end RecordSchema
