import RecordSchema.Json.Basic

/-!
# TOML documents under construction

A document is built line by line: a header opens a table, a pair adds a key to the open table, and
dotted keys make tables on the way. Each table remembers how it came about, because a table may be
opened once only, and a table that was opened cannot be added to by a dotted key from outside.

## Main definitions

* `TomlNode`, `TableKind`: the parts of a document and the origin of a table.
* `TomlTable.addPair`, `TomlTable.openTable`, `TomlTable.openItem`: the three kinds of lines.
* `TomlTable.toFields`: the finished document as an object.

## Termination

`TomlTable.change` descends on the path, the conversions on the document.
-/

namespace RecordSchema

/-- How a table came about. -/
inductive TableKind where
  /-- By a header of its own. -/
  | opened
  /-- As the parent of a table with a header. -/
  | implied
  /-- By a dotted key. -/
  | dotted
deriving DecidableEq, Repr

/-- What stands under a key. -/
inductive TomlNode where
  /-- A finished value. -/
  | value (json : Json)
  /-- A table. -/
  | table (kind : TableKind) (entries : List (String × TomlNode))
  /-- A list of tables, of which the last one may still grow. -/
  | tables (before : List (List (String × TomlNode))) (last : List (String × TomlNode))

/-- A table and its origin. -/
structure TomlTable where
  /-- How the table came about. -/
  kind : TableKind := .opened
  /-- Its keys. -/
  entries : Entries TomlNode := []

namespace TomlTable

/-- Changes the table at a path; tables that are missing on the way are made. With `dotted` the
path comes from a dotted key, which cannot enter a table that has a header. -/
def change (dotted : Bool) (act : TomlTable → Option TomlTable) :
    List String → TomlTable → Option TomlTable
  | [], table => act table
  | key :: rest, table =>
    match table.entries.get? key with
    | none =>
      (change dotted act rest ⟨if dotted then .dotted else .implied, []⟩).map fun inner =>
        { table with entries := table.entries.put key (.table inner.kind inner.entries) }
    | some (.value _) => none
    | some (.table kind entries) =>
      if dotted && kind = .opened then none
      else (change dotted act rest ⟨kind, entries⟩).map fun inner =>
        { table with entries := table.entries.put key (.table inner.kind inner.entries) }
    | some (.tables before last) =>
      (change dotted act rest ⟨.opened, last⟩).map fun inner =>
        { table with entries := table.entries.put key (.tables before inner.entries) }

/-- Adds a key that must be new. -/
def addKey (key : String) (json : Json) (table : TomlTable) : Option TomlTable :=
  if table.entries.has key then none
  else some { table with entries := table.entries.put key (.value json) }

/-- Adds a pair to a table. The table that a dotted key leads to must have been made by dotted
keys. -/
def addPair (parents : List String) (key : String) (json : Json) (table : TomlTable) :
    Option TomlTable :=
  table.change true (fun inner =>
    if (inner.kind = .dotted) = parents.isEmpty then none else inner.addKey key json) parents

/-- Opens the table of a header. It may have been implied by the header of a child, but not opened
or made by dotted keys. -/
def openTable (parents : List String) (key : String) (table : TomlTable) : Option TomlTable :=
  table.change false (fun parent =>
    match parent.entries.get? key with
    | none => some { parent with entries := parent.entries.put key (.table .opened []) }
    | some (.table .implied entries) =>
      some { parent with entries := parent.entries.put key (.table .opened entries) }
    | some _ => none) parents

/-- Opens the next item of a list of tables. -/
def openItem (parents : List String) (key : String) (table : TomlTable) : Option TomlTable :=
  table.change false (fun parent =>
    match parent.entries.get? key with
    | none => some { parent with entries := parent.entries.put key (.tables [] []) }
    | some (.tables before last) =>
      some { parent with entries := parent.entries.put key (.tables (before ++ [last]) []) }
    | some _ => none) parents

end TomlTable

mutual

/-- A finished part as a value. -/
def TomlNode.toJson : TomlNode → Json
  | .value json => json
  | .table _ entries => .obj (entriesToFields entries)
  | .tables before last => .arr (tablesToItems before ++ [.obj (entriesToFields last)])

/-- Finished keys as fields. -/
def entriesToFields : List (String × TomlNode) → List (String × Json)
  | [] => []
  | (key, node) :: rest => (key, node.toJson) :: entriesToFields rest

/-- Finished tables as items. -/
def tablesToItems : List (List (String × TomlNode)) → List Json
  | [] => []
  | entries :: rest => .obj (entriesToFields entries) :: tablesToItems rest

end

/-- The finished document as fields. -/
def TomlTable.toFields (table : TomlTable) : Fields :=
  entriesToFields table.entries

end RecordSchema
