import Mathlib
import RecordSchema.Proofs.InsertContents
import RecordSchema.Proofs.OutlineOrder
import RecordSchema.Proofs.Redeclaration
import RecordSchema.Proofs.Repetition
import RecordSchema.Proofs.SelectStatement

/-!
# The order of leaves and columns

The tree of a schema is laid out as if its paths had been inserted one after the other in the order
of their first definitions, whatever else was tried in between: a definition that fails changes
nothing, and one that declares a path anew keeps its place. So the order of the definitions decides
the order of the leaves, and with it the order of the columns of every statement: what lies below a
parent stands side by side, and siblings stand in the order of their first fields.

## Main definitions

* `PathTree.ofPaths`: the tree of paths that are inserted in turn.
* `definedPaths`: the paths that a log defines, in turn.
* `SideBySide`, `AreSiblings`, `DeclaredEarlier`: how paths stand in a list and to each other.
* `Schema.InOrder`: whether a schema is laid out by the order of its definitions.
* `Schema.ListsInOrder`: whether columns stand in the order of the tree.

## Main statements

* `Schema.isKept_inOrder`: every step keeps the layout.
* `Schema.Tracks.sideBySide`: what lies below a parent stands side by side.
* `Schema.Tracks.keys_ordered`, `Schema.Tracks.siblings_ordered`: how siblings stand.
* `leaves_follow_definitions`: all this after any run of edits, and the columns of statements.
-/

namespace RecordSchema

open RecordSchema.Path

/-! ## Trees of paths -/

namespace PathTree

/-- The tree of paths that are inserted one after the other, without declarations. -/
def ofPaths (paths : List String) : PathTree :=
  paths.foldl (fun tree path => (tree.insert path .null).1) empty

theorem ofPaths_concat (paths : List String) (path : String) :
    ofPaths (paths ++ [path]) = ((ofPaths paths).insert path .null).1 := by
  rw [ofPaths, List.foldl_append]
  rfl

end PathTree

/-- The path of a definition. -/
def Change.path? : Change → Option String
  | defined path _ => some path
  | attached _ _ => none

/-- The paths that a log defines, the oldest definition first. -/
def definedPaths (log : List Change) : List String :=
  log.reverse.filterMap Change.path?

theorem definedPaths_defined (path : String) (declaration : Json) (log : List Change) :
    definedPaths (.defined path declaration :: log) = definedPaths log ++ [path] := by
  rw [definedPaths, List.reverse_cons, List.filterMap_append]
  rfl

theorem definedPaths_attached (path : String) (attachment : Attachment) (log : List Change) :
    definedPaths (.attached path attachment :: log) = definedPaths log := by
  rw [definedPaths, List.reverse_cons, List.filterMap_append]
  exact List.append_nil _

namespace Schema

variable {schema after : Schema} {options : SchemaOptions} {log : List Change}

/-- Whether a schema is laid out by the order of its definitions. -/
structure InOrder (schema : Schema) (log : List Change) : Prop where
  /-- The tree is that of the paths in their order, but for the declarations. -/
  tree_eq : schema.tree.erased = (PathTree.ofPaths schema.paths).erased
  /-- The outline of that tree has grown from the paths in their order. -/
  outline : (PathTree.ofPaths schema.paths).HasOutline (Outline.grown schema.paths)
  /-- The paths are in the order of their first definitions. -/
  paths_eq : schema.paths = (definedPaths log).eraseDups

/-- The leaves are those of the tree of the paths in their order. -/
theorem InOrder.leafPaths_eq (h : schema.InOrder log) :
    schema.leafPaths = (PathTree.ofPaths schema.paths).leafPaths := by
  rw [leafPaths, ← PathTree.leafPaths_erased, h.tree_eq, PathTree.leafPaths_erased]

/-- A definition adds a new path behind the others, and an old one keeps its place. -/
theorem InOrder.define {path : String} {declaration : Json} (h : schema.InOrder log)
    (htracks : schema.Tracks options log)
    (hdone : schema.define path declaration = (after, none)) :
    after.InOrder (.defined path declaration :: log) := by
  have hpaths := paths_define hdone
  have hdefined : (definedPaths (.defined path declaration :: log)).eraseDups
      = if path ∈ schema.paths then schema.paths else schema.paths ++ [path] := by
    rw [definedPaths_defined, eraseDups_concat, ← h.paths_eq]
    have hmem : path ∈ definedPaths log ↔ path ∈ schema.paths := by
      rw [h.paths_eq, List.mem_eraseDups]
    simp only [hmem]
  obtain ⟨_, leaf, descriptor, _, hinsert, hafter⟩ := define_done_iff.1 hdone
  have htree : after.tree = (schema.tree.insert path declaration).1 := by rw [hafter]
  by_cases hmem : path ∈ schema.paths
  · rw [if_pos hmem] at hpaths hdefined
    obtain ⟨old, hold⟩ := Option.isSome_iff_exists.1 (htracks.declaration?_isSome_iff.2 hmem)
    refine ⟨?_, ?_, hpaths.trans hdefined.symm⟩
    · rw [htree, hpaths, ← h.tree_eq]
      exact (PathTree.Redeclares.insert hold declaration).erased_eq
    · rw [hpaths]
      exact h.outline
  · rw [if_neg hmem] at hpaths hdefined
    obtain ⟨hsame, hanswer⟩ := PathTree.insert_congr h.tree_eq path declaration .null
    refine ⟨?_, ?_, hpaths.trans hdefined.symm⟩
    · rw [htree, hpaths, PathTree.ofPaths_concat]
      exact hsame
    · -- the path is taken by both trees
      cases hgrows : ((PathTree.ofPaths schema.paths).insert path .null).2 with
      | error e =>
        rw [hinsert, hgrows] at hanswer
        cases hanswer
      | ok leaf =>
        rw [hpaths, PathTree.ofPaths_concat, Outline.grown_concat]
        exact h.outline.insert hgrows

/-- Every step keeps the layout. -/
theorem isKept_inOrder (options : SchemaOptions) : IsKept options InOrder where
  nest path h := by
    refine ⟨?_, ?_, ?_⟩
    · rw [tree_addNested, paths_addNested]
      exact h.tree_eq
    · rw [paths_addNested]
      exact h.outline
    · rw [paths_addNested]
      exact h.paths_eq
  define htracks hdone h := h.define htracks hdone
  attach path attachment h := by
    refine ⟨?_, ?_, ?_⟩
    · rw [paths_modify]
      exact h.tree_eq
    · rw [paths_modify]
      exact h.outline
    · rw [paths_modify, definedPaths_attached]
      exact h.paths_eq

theorem reached_inOrder (options : SchemaOptions) (edits : List Edit) :
    (reached options edits).InOrder (history options edits) :=
  (isKept_inOrder options).reached ⟨rfl, PathTree.hasOutline_empty, rfl⟩ edits

end Schema

/-! ## How paths stand in a list -/

/-- Whether the paths below a parent stand side by side in a list. -/
def SideBySide (parent : String) (paths : List String) : Prop :=
  ∃ front block back, paths = front ++ block ++ back ∧ (∀ path ∈ block, IsAbove parent path) ∧
    ∀ path ∈ front ++ back, ¬IsAbove parent path

/-- Paths that stand side by side still do when others are left out. -/
theorem SideBySide.sublist {parent : String} {paths kept : List String}
    (h : SideBySide parent paths) (hkept : kept.Sublist paths) : SideBySide parent kept := by
  obtain ⟨front, block, back, rfl, hblock, hbeside⟩ := h
  obtain ⟨start, back', rfl, hstart, hback⟩ := List.sublist_append_iff.1 hkept
  obtain ⟨front', block', rfl, hfront, hmiddle⟩ := List.sublist_append_iff.1 hstart
  refine ⟨front', block', back', rfl, fun path hpath => hblock path (hmiddle.subset hpath),
    fun path hpath => hbeside path ((hfront.append hback).subset hpath)⟩

/-- Whether two different paths have the same parent, or both have none. -/
def AreSiblings (a b : String) : Prop :=
  a ≠ b ∧ (segments a).dropLast = (segments b).dropLast

/-- Whether a field at or below `a` was declared before all fields at or below `b`. -/
def DeclaredEarlier (paths : List String) (a b : String) : Prop :=
  ∃ earlier first later, paths = earlier ++ first :: later ∧ covers a first ∧
    ∀ path ∈ earlier, ¬covers b path

/-- Siblings share all segments but the last one. -/
theorem AreSiblings.segments_eq {a b : String} (h : AreSiblings a b) : ∃ front s t, s ≠ t ∧
    segments a = front ++ [s] ∧ segments b = front ++ [t] := by
  obtain ⟨hne, hfront⟩ := h
  have ha := List.dropLast_concat_getLast (segments_ne_nil a)
  have hb := List.dropLast_concat_getLast (segments_ne_nil b)
  refine ⟨(segments a).dropLast, (segments a).getLast (segments_ne_nil a),
    (segments b).getLast (segments_ne_nil b), fun hsame => hne (segments_inj ?_), ha.symm, ?_⟩
  · rw [← ha, ← hb, hfront, hsame]
  · rw [hfront, hb]

/-- A path covers itself and what continues its segments. -/
theorem covers_iff_nextSegment {block path : String} {front : List String} {segment : String}
    (hblock : segments block = front ++ [segment]) :
    covers block path ↔ nextSegment front path = some segment := by
  rw [covers_iff, nextSegment_eq_some_iff]
  constructor
  · rintro (rfl | habove)
    · exact ⟨[], hblock⟩
    · obtain ⟨rest, _, hrest⟩ := isAbove_iff.1 habove
      exact ⟨rest, by simp [hrest, hblock]⟩
  · rintro ⟨rest, hrest⟩
    have hsegs : segments path = segments block ++ rest := by simp [hrest, hblock]
    by_cases hnil : rest = []
    · refine .inl (segments_inj ?_)
      rw [hsegs, hnil, List.append_nil]
    · exact .inr (isAbove_iff.2 ⟨rest, hnil, hsegs⟩)

namespace Schema

variable {schema : Schema} {options : SchemaOptions} {log : List Change}

/-! ## Leaves -/

namespace Tracks

theorem isPlain_grown (h : schema.Tracks options log) :
    Outline.IsPlain (Outline.grown schema.paths) :=
  Outline.isPlain_grown fun _ hpath _ hother => h.not_isAbove hpath hother

/-- Below a parent, a segment comes before another one when a path with it comes before all paths
with the other one. -/
theorem keys_ordered (h : schema.Tracks options log) {front earlier later : List String}
    {first s t other : String} (hne : t ≠ s)
    (hpaths : schema.paths = earlier ++ first :: later) (hfirst : nextSegment front first = some s)
    (hearlier : ∀ path ∈ earlier, nextSegment front path ≠ some t)
    (hmem : other ∈ schema.paths) (hother : nextSegment front other = some t) :
    [s, t].Sublist
      (Entries.keys (Outline.childrenAt (Outline.grown schema.paths) front)) := by
  have hsplit : schema.paths.filterMap (nextSegment front)
      = earlier.filterMap (nextSegment front) ++ s :: later.filterMap (nextSegment front) := by
    rw [hpaths, List.filterMap_append, List.filterMap_cons_some hfirst]
  have habsent : t ∉ earlier.filterMap (nextSegment front) := by
    intro hmem
    obtain ⟨path, hpath, hfollows⟩ := List.mem_filterMap.1 hmem
    exact hearlier path hpath hfollows
  have hpresent : t ∈ later.filterMap (nextSegment front) := by
    have hmem : t ∈ schema.paths.filterMap (nextSegment front) :=
      List.mem_filterMap.2 ⟨other, hmem, hother⟩
    rw [hsplit, List.mem_append, List.mem_cons] at hmem
    exact (hmem.resolve_left habsent).resolve_left hne
  rw [Outline.keys_grown fun _ hpath _ hother => h.not_isAbove hpath hother, hsplit]
  exact pair_sublist_eraseDups hne habsent hpresent

variable (h : schema.Tracks options log) (horder : schema.InOrder log)

include h horder

/-- The leaves are those of the outline that grows from the paths. -/
theorem map_segments_leafPaths :
    schema.leafPaths.map segments = Outline.listing (Outline.grown schema.paths) := by
  rw [horder.leafPaths_eq, horder.outline.map_segments_leafPaths fun path hpath => ?_]
  · rfl
  · refine h.not_isAbove_empty path ?_
    rwa [← PathTree.isSome_declaration?_erased, horder.tree_eq,
      PathTree.isSome_declaration?_erased]

/-- The leaves below a parent stand side by side. -/
theorem sideBySide (parent : String) : SideBySide parent schema.leafPaths := by
  obtain ⟨before, after, hlisting, hoff⟩ := h.isPlain_grown.listing_split (segments parent)
  have hsegs := h.map_segments_leafPaths horder
  rw [hlisting] at hsegs
  obtain ⟨start, back, hleaves, hstart, rfl⟩ := List.map_eq_append_iff.1 hsegs
  obtain ⟨front, block, rfl, rfl, hblock⟩ := List.map_eq_append_iff.1 hstart
  refine ⟨front, block, back, hleaves, fun path hpath => ?_, fun path hpath habove => ?_⟩
  · have hmem : segments path ∈ block.map segments := List.mem_map_of_mem hpath
    rw [hblock] at hmem
    obtain ⟨rest, hrest, hpath⟩ := List.mem_map.1 hmem
    -- a leaf of an outline has a segment
    obtain ⟨leaf, hleaf, rfl⟩ := List.mem_map.1 hrest
    exact isAbove_iff.2 ⟨_, Outline.segments_ne_nil_of_mem_leavesBelow leaf hleaf, hpath.symm⟩
  · obtain ⟨rest, hrest, hpathSegs⟩ := isAbove_iff.1 habove
    have hmem : segments path ∈ (front ++ back).map segments := List.mem_map_of_mem hpath
    rw [List.map_append] at hmem
    exact hoff _ hmem rest hrest hpathSegs

/-- Siblings stand in the order of their first fields. -/
theorem siblings_ordered {a b path other : String} (hsiblings : AreSiblings a b)
    (hearlier : DeclaredEarlier schema.paths a b) (hpath : path ∈ schema.leafPaths)
    (hother : other ∈ schema.leafPaths) (ha : covers a path) (hb : covers b other) :
    [path, other].Sublist schema.leafPaths := by
  obtain ⟨front, s, t, hne, hsegsA, hsegsB⟩ := hsiblings.segments_eq
  obtain ⟨earlier, first, later, hpaths, hfirst, hnone⟩ := hearlier
  have hnextPath := (covers_iff_nextSegment hsegsA).1 ha
  have hnextOther := (covers_iff_nextSegment hsegsB).1 hb
  have hkeys := h.keys_ordered hne.symm hpaths ((covers_iff_nextSegment hsegsA).1 hfirst)
    (fun path hpath hnext => hnone path hpath ((covers_iff_nextSegment hsegsB).2 hnext))
    (h.mem_leafPaths_iff.1 hother) hnextOther
  -- both leaves lie under these segments
  obtain ⟨left, hleft⟩ := nextSegment_eq_some_iff.1 hnextPath
  obtain ⟨right, hright⟩ := nextSegment_eq_some_iff.1 hnextOther
  have hleaves := h.map_segments_leafPaths horder
  have hmemLeft : segments path ∈ schema.leafPaths.map segments := List.mem_map_of_mem hpath
  have hmemRight : segments other ∈ schema.leafPaths.map segments := List.mem_map_of_mem hother
  rw [hleaves, hleft] at hmemLeft
  rw [hleaves, hright] at hmemRight
  have hordered := h.isPlain_grown.listing_ordered hkeys hmemLeft hmemRight
  rw [← hleft, ← hright, ← hleaves] at hordered
  have hback := hordered.map ofSegments
  simpa [List.map_map, Function.comp_def] using hback

end Tracks

/-! ## Columns -/

/-- Whether columns are those of declared paths in the order of the tree, where the paths below a
parent stand side by side. -/
def ListsInOrder (schema : Schema) (columns : List String) : Prop :=
  ∃ named : List String, named.Sublist schema.leafPaths ∧ (∀ parent, SideBySide parent named) ∧
    List.Forall₂ (fun path column =>
      ∃ field, schema.find? path = some field ∧ field.column = column) named columns

namespace Tracks

variable (h : schema.Tracks options log) (horder : schema.InOrder log)

include h horder

/-- The columns of an INSERT. -/
theorem insert_listsInOrder {table : String} {record : Json} {listed : List String}
    {statement : Statement} (hinsert : schema.insert table record listed = .ok statement) :
    ∃ columns, statement.query = insertText table columns ∧ schema.ListsInOrder columns := by
  obtain ⟨bound, columns, hquery, hbound, _, _, hcolumns⟩ := h.insert_bound hinsert
  exact ⟨columns, hquery, bound, hbound,
    fun parent => (h.sideBySide horder parent).sublist hbound, hcolumns⟩

/-- The columns of a SELECT. -/
theorem select_listsInOrder {settings : CompilerSettings} {table : String} {criteria : Json}
    {listed : List String} {limit : Nat} {statement : Statement}
    (hselect : schema.select settings table criteria listed limit = .ok statement) :
    ∃ columns conditions cut, statement.query = selectText table columns conditions cut ∧
      schema.ListsInOrder columns := by
  rcases schema.select_cases settings table criteria listed limit with
    ⟨e, _, hfails⟩ | ⟨fields, conditions, _, _, hdone⟩
  · cases hfails.symm.trans hselect
  · cases hdone.symm.trans hselect
    have hprojects := forall₂_filter_filterMap (schema.projectedAt? listed) schema.leafPaths
    have hnamed : (schema.leafPaths.filter fun path =>
        (schema.projectedAt? listed path).isSome).Sublist schema.leafPaths := List.filter_sublist
    refine ⟨schema.selectedColumns listed, conditions, _, rfl, _, hnamed,
      fun parent => (h.sideBySide horder parent).sublist hnamed, ?_⟩
    rw [selectedColumns_eq]
    refine hprojects.imp fun path column hcolumn => ?_
    obtain ⟨field, hfind, _, _, hsame⟩ := h.projectedAt?_eq_some_iff.1 hcolumn
    exact ⟨field, hfind, hsame⟩

end Tracks

end Schema

/-- After any run of edits, failing ones included, the paths stand in the order of their first
definitions, and the leaves of the tree as in the tree that comes from inserting the paths in this
order, which is the depth-first order of the outline that grows from them. So the leaves below a
parent stand side by side, and siblings stand in the order of their first fields. The columns of
every INSERT and SELECT belong to some of these leaves, in the same order and side by side in the
same way. -/
theorem leaves_follow_definitions (options : SchemaOptions) (edits : List Edit) :
    let schema := Schema.reached options edits
    schema.paths = (definedPaths (history options edits)).eraseDups ∧
    schema.leafPaths = (PathTree.ofPaths schema.paths).leafPaths ∧
    schema.leafPaths = (Outline.listing (Outline.grown schema.paths)).map ofSegments ∧
    (∀ parent, SideBySide parent schema.leafPaths) ∧
    (∀ a b, AreSiblings a b → DeclaredEarlier schema.paths a b →
      ∀ path ∈ schema.leafPaths, ∀ other ∈ schema.leafPaths, covers a path → covers b other →
        [path, other].Sublist schema.leafPaths) ∧
    (∀ table record listed statement, schema.insert table record listed = .ok statement →
      ∃ columns, statement.query = Schema.insertText table columns ∧
        schema.ListsInOrder columns) ∧
    ∀ settings table criteria listed limit statement,
      schema.select settings table criteria listed limit = .ok statement →
      ∃ columns conditions cut, statement.query = selectText table columns conditions cut ∧
        schema.ListsInOrder columns := by
  intro schema
  have h : schema.Tracks options (history options edits) := Schema.reached_tracks options edits
  have horder : schema.InOrder (history options edits) := Schema.reached_inOrder options edits
  refine ⟨horder.paths_eq, horder.leafPaths_eq, ?_, h.sideBySide horder, ?_, ?_, ?_⟩
  · rw [← h.map_segments_leafPaths horder, List.map_map]
    exact (List.map_id'' (fun path => ofSegments_segments path) _).symm
  · intro a b hsiblings hearlier path hpath other hother ha hb
    exact h.siblings_ordered horder hsiblings hearlier hpath hother ha hb
  · intro table record listed statement hinsert
    exact h.insert_listsInOrder horder hinsert
  · intro settings table criteria listed limit statement hselect
    exact h.select_listsInOrder horder hselect

example : (Outline.listing (Outline.grown ["b.x", "a", "b.y"])).map ofSegments
    = ["b.x", "b.y", "a"] := by
  cbv

end RecordSchema
