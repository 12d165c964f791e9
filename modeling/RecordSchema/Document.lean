import RecordSchema.Schema.Basic

/-!
# Default documents

A new document holds the default of every declared field that the projection wants, and an object
for every parent of a declared field. A projection flags paths as included or excluded. It is
exclusive as soon as a path other than an identifier is excluded: then it leaves out the flagged
paths and all below them. Otherwise it includes the flagged fields and no others. An empty
projection wants everything.

## Main definitions

* `Projection`, `Projection.ofJson`: the flags of paths.
* `Projection.isExclusive`, `Projection.wants`: what the flags mean for a field.
* `Schema.build`: the document, and the schema whose producers have been asked.

## Termination

`placeDefault` and `Projection.lineageFrom` descend on the segments of a path.
-/

namespace RecordSchema

/-- Flags of paths: true includes, false excludes. -/
structure Projection where
  /-- The flags, in the order in which their paths were first flagged. -/
  flags : Entries Bool := []

namespace Projection

/-- The key of the identity, whose flag never decides the mode. -/
def identityKey : String := "_id"

/-- Includes a path. -/
def including (projection : Projection) (path : String) : Projection :=
  ⟨projection.flags.put path true⟩

/-- Excludes a path. -/
def excluding (projection : Projection) (path : String) : Projection :=
  ⟨projection.flags.put path false⟩

/-- The projection of flags given in turn; the last flag of a path counts. -/
def ofPairs (pairs : List (String × Bool)) : Projection :=
  ⟨Entries.ofPairs pairs⟩

/-- The flag that a value stands for: a truth value, or a number other than zero. -/
def flagOf (key : String) : Json → Except SchemaError Bool
  | .bool b => .ok b
  | .num n => .ok (n.toFloat != 0.0)
  | other => .error (.invalidInput ("projection flag for `" ++ key
      ++ "` must be 0/1 or a boolean, got " ++ other.compact))

/-- The flags of the fields of an object. -/
def flagsOf : List (String × Json) → Except SchemaError (Entries Bool)
  | [] => .ok []
  | (key, value) :: rest => do
    let flag ← flagOf key value
    let rest ← flagsOf rest
    return (key, flag) :: rest

/-- The projection that an object of flags stands for. -/
def ofJson : Json → Except SchemaError Projection
  | .obj fields => (flagsOf fields).map Projection.mk
  | other => .error (.invalidInput ("projection must be a JSON object, got " ++ other.compact))

/-- Whether the projection excludes a path other than an identifier. -/
def isExclusive (projection : Projection) (schema : Schema) : Bool :=
  projection.flags.any fun (key, included) =>
    !included && key != identityKey
      && !((schema.find? key).map fun field => field.type.isIdentifier).getD false

/-- The paths that end at each of the segments; `passed` comes before them all, with a dot at its
end unless it is empty. -/
def lineageFrom (passed : String) : List String → List String
  | [] => []
  | segment :: rest => (passed ++ segment) :: lineageFrom (passed ++ segment ++ ".") rest

/-- The parents of a path and the path itself, the shortest first. -/
def lineage (path : String) : List String :=
  lineageFrom "" (Path.segments path)

end Projection

/-- What a document is built with: no projection, or one whose mode has been decided. -/
inductive Selection where
  /-- Every field. -/
  | everything
  /-- The flagged fields. -/
  | only (flags : Entries Bool)
  /-- All fields but the flagged ones and those below them. -/
  | allBut (flags : Entries Bool)

namespace Selection

/-- The meaning of a projection for a schema. -/
def ofProjection (schema : Schema) : Option Projection → Selection
  | none => everything
  | some projection =>
    if projection.flags.isEmpty then everything
    else if projection.isExclusive schema then allBut projection.flags
    else only projection.flags

/-- Whether a path, declared or the parent of a declared one, is left out with all below it. -/
def blocks : Selection → String → Bool
  | allBut flags, path => flags.has path
  | _, _ => false

/-- Whether a field is given its default. -/
def wants (selection : Selection) (path : String) : Bool :=
  match selection with
  | everything => true
  | only flags => flags.has path
  | allBut flags => !(Projection.lineage path).any flags.has

end Selection

/-- Puts the default of a field into a document, segment by segment: objects are made on the way,
up to the first blocked path. `passed` is the path so far with a dot at its end. -/
def placeDefault (blocks : String → Bool) (default : Option Json) (passed : String) :
    List String → Fields → Fields
  | [], document => document
  | [last], document =>
    match default with
    | some value => if blocks (passed ++ last) then document else document.put last value
    | none => document
  | segment :: rest, document =>
    if blocks (passed ++ segment) then document
    else
      let inner := ((document.get? segment).bind Json.asFields?).getD []
      document.put segment
        (.obj (placeDefault blocks default (passed ++ segment ++ ".") rest inner))

namespace Schema

/-- The default of the field at a path under a selection; fields that are not wanted are not
asked. -/
def wantedDefault (selection : Selection) (path : String) (field : Descriptor) : Option Json :=
  if selection.wants path then field.defaultValue else none

/-- The default document under a projection, and the schema after the defaults of the wanted
fields have been asked once, in the order of declaration. -/
def build (schema : Schema) (projection : Option Projection) : Json × Schema :=
  let selection := Selection.ofProjection schema projection
  let document := schema.fields.foldl
    (fun document (path, field) =>
      placeDefault selection.blocks (wantedDefault selection path field) ""
        (Path.segments path) document) []
  let fields := schema.fields.map fun (path, field) =>
    (path, if selection.wants path then field.advance else field)
  (.obj document, { schema with fields := fields })

end Schema

end RecordSchema
