import RecordSchema.Schema.Basic

/-!
# Finding a field by path

A path is looked up as it stands first. Failing that, a path with positions is followed through
lists: the leading name has to be declared, a name after a position is a field of the embedded
documents, and a position at the end stands for an item. An item that is a document has no
descriptor of its own, so the collection answers for it.

## Main definitions

* `Located`: a descriptor and whether it is the declared field itself.
* `Schema.locate?`: the descriptor that a path resolves to, with its place.
* `Schema.path?`: the descriptor alone.
* `PathKind`, `Schema.pathKind`: how a path relates to a schema.

## Termination

`Descriptor.follow` descends on the parts of the path.
-/

namespace RecordSchema

/-- A descriptor found by path. -/
structure Located where
  /-- The descriptor. -/
  descriptor : Descriptor
  /-- Whether it is a declared field itself, not something inside one. -/
  isDeclared : Bool

/-- Follows the parts of a path from a descriptor on. Only a position at the end looks at the
items; one that is followed by a name leaves it to the name to go inside. -/
def Located.follow (here : Located) : List Path.Part → Option Located
  | [] => some here
  | [.index] =>
    match here.descriptor.element with
    | some (.caster item) => some ⟨item, false⟩
    | some (.document _) => some here
    | none => none
  | .index :: rest => here.follow rest
  | .name path :: rest =>
    match here.descriptor.embedded?.bind (·.find? path) with
    | some field => Located.follow ⟨field, false⟩ rest
    | none => none

namespace Schema

/-- The descriptor that a path with positions leads to. -/
def positional? (schema : Schema) (path : String) : Option Located :=
  match Path.parts path with
  | .name head :: rest => (schema.find? head).bind fun field => Located.follow ⟨field, true⟩ rest
  | _ => none

/-- The descriptor that a path resolves to, declared as it stands or reached by positions. -/
def locate? (schema : Schema) (path : String) : Option Located :=
  match schema.find? path with
  | some field => some ⟨field, true⟩
  | none => if Path.isPositional path then schema.positional? path else none

/-- The descriptor that a path resolves to. -/
def path? (schema : Schema) (path : String) : Option Descriptor :=
  (schema.locate? path).map Located.descriptor

/-- The schema after the default of the located field has been asked once. What is inside a
collection has fixed defaults, which do not change. -/
def askDefault (schema : Schema) (located : Located) : Schema :=
  if located.isDeclared then schema.modify located.descriptor.path Descriptor.advance else schema

end Schema

/-- How a path relates to a schema. -/
inductive PathKind where
  /-- A declared field, directly or by positions. -/
  | real
  /-- A parent of declared fields. -/
  | nested
  /-- Not declared. -/
  | adhoc
deriving DecidableEq, Repr

/-- How a path relates to a schema. -/
def Schema.pathKind (schema : Schema) (path : String) : PathKind :=
  if schema.declares path then .real
  else if schema.nested.contains path then .nested
  else if (schema.path? path).isSome then .real
  else .adhoc

end RecordSchema
