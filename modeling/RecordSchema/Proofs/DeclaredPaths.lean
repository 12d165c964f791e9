import RecordSchema.Proofs.Arena
import RecordSchema.Proofs.Segments

/-!
# What a tree of paths declares

A tree of paths is seen here only through the declarations at its paths. In a tree that comes from
insertions no declared path continues another one, a branch has a declared path below it, and an
insertion changes the declaration at its path and no other. It can only fail because of a declared
path above or below its own, and then it leaves the tree as it was.

## Main definitions

* `PathTree.declaration?`: what is declared at a path.
* `PathTree.Unfolds`, `PathTree.IsProper`: whether a tree holds a tidy trie of named leaves.

## Main statements

* `PathTree.IsProper.not_isAbove`: no declared path lies below another one.
* `PathTree.IsProper.branch_iff`: branches stand just above declared paths.
* `PathTree.IsProper.nodup_leafPaths`, `PathTree.IsProper.mem_leafPaths_iff`: the listing.
* `PathTree.IsProper.insert_outcome`: insertion.
-/

namespace RecordSchema

open RecordSchema.Path Trie

namespace PathTree

/-- What is declared at a path. -/
def declaration? (tree : PathTree) (path : String) : Option Json :=
  match tree.get? path with
  | some (.leaf declaration) => some declaration
  | _ => none

theorem declaration?_eq_some_iff {tree : PathTree} {path : String} {declaration : Json} :
    tree.declaration? path = some declaration ↔ tree.get? path = some (.leaf declaration) := by
  unfold declaration?
  split
  · rename_i found hfound
    rw [hfound, Option.some.injEq, Option.some.injEq, TreeNode.leaf.injEq]
  · rename_i hnone
    constructor
    · exact fun h => absurd h (by simp)
    · exact fun h => absurd h (hnone _)

/-- Whether a tree holds these children of its root: each number once, tidily, and each leaf where
a path leads. -/
structure Unfolds (tree : PathTree) (children : Entries Trie) : Prop where
  /-- The nodes lie in the array. -/
  lies : (Trie.branch rootId children).LiesIn tree.nodes
  /-- No two nodes have the same number. -/
  distinct : (ids (.branch rootId children)).Nodup
  /-- Segments are distinct and branches are not empty. -/
  tidy : IsTidy children
  /-- Leaves have paths. -/
  named : ∀ {segs : List String} {id : Nat} {declaration : Json},
    find? segs (.branch rootId children) = some (.leaf id declaration) →
    ∃ path, segments path = segs

/-- Whether a tree is laid out as insertions lay it out. -/
def IsProper (tree : PathTree) : Prop :=
  ∃ children, tree.Unfolds children

theorem unfolds_empty : empty.Unfolds [] := by
  refine ⟨LiesIn.branch_iff.2 ⟨rfl, fun child h => absurd h List.not_mem_nil⟩, ?_, .nil, ?_⟩
  · rw [ids_branch]
    exact List.nodup_singleton _
  · intro segs id declaration hfind
    cases segs with
    | nil => cases hfind
    | cons segment rest => cases hfind

theorem isProper_empty : empty.IsProper :=
  ⟨[], unfolds_empty⟩

namespace Unfolds

variable {tree : PathTree} {children : Entries Trie}

theorem get?_eq (h : tree.Unfolds children) (path : String) :
    tree.get? path = (find? (segments path) (.branch rootId children)).map flat :=
  h.lies.walk_bind_getElem? (segments path)

theorem declaration?_iff (h : tree.Unfolds children) {path : String} {declaration : Json} :
    tree.declaration? path = some declaration
      ↔ ∃ id, find? (segments path) (.branch rootId children) = some (.leaf id declaration) := by
  rw [declaration?_eq_some_iff, h.get?_eq]
  constructor
  · intro hflat
    obtain ⟨node, hfind, hnode⟩ := Option.map_eq_some_iff.1 hflat
    cases node with
    | leaf id existing =>
      cases hnode
      exact ⟨id, hfind⟩
    | branch id kids => cases hnode
  · rintro ⟨id, hfind⟩
    rw [hfind]
    rfl

theorem tidy_root (h : tree.Unfolds children) :
    IsTidy (Trie.branch rootId children).children :=
  h.tidy

theorem mem_leaves_iff (h : tree.Unfolds children) (segs : List String) (declaration : Json) :
    (segs, declaration) ∈ leaves (.branch rootId children)
      ↔ ∃ id, find? segs (.branch rootId children) = some (.leaf id declaration) :=
  Trie.mem_leaves_iff h.tidy_root segs declaration

theorem nodup_leaves (h : tree.Unfolds children) :
    ((leaves (.branch rootId children)).map Prod.fst).Nodup :=
  Trie.nodup_leaves h.tidy_root

/-- A root without children declares nothing. -/
theorem declaration?_of_nil (h : tree.Unfolds []) (path : String) :
    tree.declaration? path = none := by
  rw [Option.eq_none_iff_forall_ne_some]
  intro declaration hdeclared
  obtain ⟨id, hfind⟩ := h.declaration?_iff.1 hdeclared
  obtain ⟨segment, rest, hsegs⟩ := List.exists_cons_of_ne_nil (segments_ne_nil path)
  rw [hsegs] at hfind
  cases hfind

/-- The paths of the leaves, in their order; a first segment may only be empty when it is the only
one. -/
theorem leafPaths_eq (h : tree.Unfolds children)
    (hfirst : ∀ path, (tree.declaration? path).isSome → ¬IsAbove "" path) :
    tree.leafPaths = (leaves (.branch rootId children)).map fun leaf => ofSegments leaf.1 := by
  rw [leafPaths, collectLeaves_eq tree "" h.lies]
  refine List.map_congr_left fun leaf hleaf => ?_
  obtain ⟨segs, declaration⟩ := leaf
  obtain ⟨id, hfind⟩ := (h.mem_leaves_iff _ _).1 hleaf
  obtain ⟨path, rfl⟩ := h.named hfind
  have hdeclared : (tree.declaration? path).isSome :=
    Option.isSome_iff_exists.2 ⟨declaration, h.declaration?_iff.2 ⟨id, hfind⟩⟩
  have hnot := mt isAbove_empty_iff.2 (hfirst path hdeclared)
  cases hsegs : segments path with
  | nil => exact absurd hsegs (segments_ne_nil path)
  | cons segment rest =>
    refine foldl_extend_empty (or_iff_not_imp_left.2 fun hsegment => ?_)
    by_contra hrest
    exact hnot ⟨rest, hrest, by rw [hsegs, not_not.1 hsegment]⟩

/-- The segments of the listing are those of the leaves. -/
theorem map_segments_leafPaths (h : tree.Unfolds children)
    (hfirst : ∀ path, (tree.declaration? path).isSome → ¬IsAbove "" path) :
    tree.leafPaths.map segments = (leaves (.branch rootId children)).map Prod.fst := by
  rw [h.leafPaths_eq hfirst, List.map_map]
  refine List.map_congr_left fun leaf hleaf => ?_
  obtain ⟨segs, declaration⟩ := leaf
  obtain ⟨id, hfind⟩ := (h.mem_leaves_iff _ _).1 hleaf
  obtain ⟨path, rfl⟩ := h.named hfind
  rw [Function.comp_apply, ofSegments_segments]

end Unfolds

namespace IsProper

variable {tree : PathTree} {path other : String}

/-- No declared path lies below another one. -/
theorem not_isAbove (h : tree.IsProper) (hpath : (tree.declaration? path).isSome)
    (hother : (tree.declaration? other).isSome) : ¬IsAbove path other := by
  obtain ⟨children, h⟩ := h
  obtain ⟨declaration, hpath⟩ := Option.isSome_iff_exists.1 hpath
  obtain ⟨existing, hother⟩ := Option.isSome_iff_exists.1 hother
  obtain ⟨id, hleaf⟩ := h.declaration?_iff.1 hpath
  obtain ⟨id', hbeyond⟩ := h.declaration?_iff.1 hother
  intro habove
  obtain ⟨rest, hrest, hsegs⟩ := isAbove_iff.1 habove
  rw [hsegs, find?_beyond_leaf hleaf hrest] at hbeyond
  cases hbeyond

/-- Branches stand just above declared paths. -/
theorem branch_iff (h : tree.IsProper) : (∃ kids, tree.get? path = some (.branch kids))
    ↔ ∃ below, IsAbove path below ∧ (tree.declaration? below).isSome := by
  obtain ⟨children, h⟩ := h
  rw [h.get?_eq]
  constructor
  · rintro ⟨kids, hkids⟩
    obtain ⟨node, hfind, hnode⟩ := Option.map_eq_some_iff.1 hkids
    obtain ⟨htidy, hfilled⟩ := h.tidy_root.found hfind (segments_ne_nil path)
    -- a branch that is not empty has a leaf, and leaves have paths
    obtain ⟨⟨rest, declaration⟩, hleaf⟩ := List.exists_mem_of_ne_nil _ (leaves_ne_nil htidy hfilled)
    obtain ⟨id, hrest⟩ := (Trie.mem_leaves_iff htidy rest declaration).1 hleaf
    have hbelow : find? (segments path ++ rest) (.branch rootId children)
        = some (.leaf id declaration) := by
      rw [find?_append, hfind, Option.bind_some, hrest]
    obtain ⟨below, hsegs⟩ := h.named hbelow
    refine ⟨below, isAbove_iff.2 ⟨rest, ?_, hsegs⟩, Option.isSome_iff_exists.2 ⟨declaration, ?_⟩⟩
    · rintro rfl
      cases Option.some.inj hrest
      cases hnode
    · exact h.declaration?_iff.2 ⟨id, hsegs ▸ hbelow⟩
  · rintro ⟨below, habove, hdeclared⟩
    obtain ⟨declaration, hdeclared⟩ := Option.isSome_iff_exists.1 hdeclared
    obtain ⟨id, hfind⟩ := h.declaration?_iff.1 hdeclared
    obtain ⟨rest, hrest, hsegs⟩ := isAbove_iff.1 habove
    rw [hsegs, find?_append] at hfind
    obtain ⟨node, hnode, hbeyond⟩ := Option.bind_eq_some_iff.1 hfind
    cases node with
    | leaf id' existing =>
      obtain ⟨segment, rest, rfl⟩ := List.exists_cons_of_ne_nil hrest
      cases hbeyond
    | branch id' kids => exact ⟨links kids, by rw [hnode]; rfl⟩

/-- The listing names a path just when it is declared. -/
theorem mem_leafPaths_iff (h : tree.IsProper)
    (hfirst : ∀ path, (tree.declaration? path).isSome → ¬IsAbove "" path) :
    path ∈ tree.leafPaths ↔ (tree.declaration? path).isSome := by
  obtain ⟨children, h⟩ := h
  rw [h.leafPaths_eq hfirst, Option.isSome_iff_exists, List.mem_map]
  constructor
  · rintro ⟨⟨segs, declaration⟩, hleaf, rfl⟩
    obtain ⟨id, hfind⟩ := (h.mem_leaves_iff _ _).1 hleaf
    obtain ⟨path, rfl⟩ := h.named hfind
    refine ⟨declaration, ?_⟩
    rw [ofSegments_segments]
    exact h.declaration?_iff.2 ⟨id, hfind⟩
  · rintro ⟨declaration, hdeclared⟩
    obtain ⟨id, hfind⟩ := h.declaration?_iff.1 hdeclared
    exact ⟨(segments path, declaration),
      (h.mem_leaves_iff _ _).2 ⟨id, hfind⟩,
      ofSegments_segments path⟩

/-- The listing names no path twice. -/
theorem nodup_leafPaths (h : tree.IsProper)
    (hfirst : ∀ path, (tree.declaration? path).isSome → ¬IsAbove "" path) :
    tree.leafPaths.Nodup := by
  obtain ⟨children, h⟩ := h
  refine List.Nodup.of_map segments ?_
  rw [h.map_segments_leafPaths hfirst]
  exact h.nodup_leaves

end IsProper

/-! ## Insertion -/

namespace Unfolds

variable {tree : PathTree} {children : Entries Trie}

section Graft

variable {path : String} {declaration : Json} {after : Entries Trie} {free leaf free' : Nat}

/-- A graft at a path keeps the names of leaves. -/
theorem named_graft (h : tree.Unfolds children)
    (hgraft : Grafts declaration (segments path) children free after leaf free')
    {segs : List String} {id : Nat} {existing : Json}
    (hfind : find? segs (.branch rootId after) = some (.leaf id existing)) :
    ∃ other, segments other = segs := by
  by_cases hprefix : segs <+: segments path
  · obtain ⟨back, hback⟩ := hprefix
    by_cases hnil : back = []
    · subst hnil
      rw [List.append_nil] at hback
      exact ⟨path, hback.symm⟩
    · obtain ⟨id', kids, hbranch⟩ := hgraft.find?_between rootId hback.symm hnil
      cases hfind.symm.trans hbranch
  · rw [hgraft.find?_of_not_prefix rootId hprefix] at hfind
    exact h.named hfind

/-- Where a leaf can be grafted, no declared path is above or below. -/
theorem clear_of_graft (h : tree.Unfolds children)
    (hgraft : Grafts declaration (segments path) children free after leaf free') {other : String}
    (hother : (tree.declaration? other).isSome) : ¬IsAbove other path ∧ ¬IsAbove path other := by
  constructor
  · intro habove
    obtain ⟨existing, hother⟩ := Option.isSome_iff_exists.1 hother
    obtain ⟨id, hfind⟩ := h.declaration?_iff.1 hother
    obtain ⟨back, hback, hsegs⟩ := isAbove_iff.1 habove
    exact hgraft.no_leaf_above rootId hsegs hback id existing hfind
  · intro habove
    obtain ⟨kids, hkids⟩ := (IsProper.branch_iff ⟨children, h⟩).2 ⟨other, habove, hother⟩
    rw [h.get?_eq] at hkids
    obtain ⟨node, hfind, hnode⟩ := Option.map_eq_some_iff.1 hkids
    cases node with
    | leaf => cases hnode
    | branch id kids => exact hgraft.no_branch_at rootId id kids hfind

/-- A graft changes the declaration at its path and no other. -/
theorem declaration?_graft {tree' : PathTree} (h : tree.Unfolds children)
    (hgraft : Grafts declaration (segments path) children free after leaf free')
    (hafter : tree'.Unfolds after) (other : String) : tree'.declaration? other
      = if other = path then some declaration else tree.declaration? other := by
  refine Option.ext fun existing => ?_
  rw [hafter.declaration?_iff]
  by_cases heq : other = path
  · subst heq
    rw [if_pos rfl, hgraft.find?_self]
    simp
  · rw [if_neg heq, h.declaration?_iff]
    by_cases hprefix : segments other <+: segments path
    · -- above the path there is a branch now, and there was no leaf before
      obtain ⟨back, hback⟩ := hprefix
      have hne : back ≠ [] := by
        rintro rfl
        exact heq (segments_inj (by simpa using hback))
      obtain ⟨id, kids, hbranch⟩ := hgraft.find?_between rootId hback.symm hne
      constructor
      · rintro ⟨id', hfind⟩
        cases hfind.symm.trans hbranch
      · rintro ⟨id', hfind⟩
        exact absurd hfind (hgraft.no_leaf_above rootId hback.symm hne id' existing)
    · rw [hgraft.find?_of_not_prefix rootId hprefix]

end Graft

/-- An insertion meets an obstacle, and then the tree is as it was, or grafts a leaf. -/
theorem insert_outcome (h : tree.Unfolds children) (path : String) (declaration : Json) :
    (∃ e, Blocked path [] (segments path) children e ∧
      tree.insert path declaration = (tree, .error e)) ∨
    ∃ after leaf, Grafts declaration (segments path) children tree.nodes.size after leaf
        (tree.insert path declaration).1.nodes.size ∧
      (tree.insert path declaration).2 = .ok leaf ∧
      (tree.insert path declaration).1.Unfolds after := by
  have hinserts := insertFrom_spec path declaration [] (segments path) tree.nodes rootId
    (segments_ne_nil path) h.lies h.distinct
  generalize hinsert : insertFrom path declaration [] (segments path) tree.nodes rootId = result
    at hinserts
  cases hinserts with
  | @blocked e hblocked =>
    refine .inl ⟨e, hblocked, ?_⟩
    cases tree
    simp [PathTree.insert, hinsert]
  | @grafted after leaf nodes' hgraft hlies =>
    have hnodes : (tree.insert path declaration).1.nodes = nodes' := by
      simp [PathTree.insert, hinsert]
    refine .inr ⟨after, leaf, by rwa [hnodes], by simp [PathTree.insert, hinsert], ?_⟩
    refine ⟨by rwa [hnodes], ?_, h.tidy.graft hgraft, h.named_graft hgraft⟩
    -- the new numbers are those from the old size on
    obtain ⟨made, _, hperm⟩ := hgraft.perm_ids
    have hall := (hperm.cons rootId).nodup_iff
    rw [← ids_branch, ← List.cons_append, ← ids_branch] at hall
    refine hall.2 (List.nodup_append.2 ⟨h.distinct, List.nodup_range', ?_⟩)
    rintro i hold _ hnew rfl
    have hlt : i < tree.nodes.size := h.lies.lt_size hold
    exact absurd (List.mem_range'_1.1 hnew).1 (Nat.not_le.2 hlt)

/-- An obstacle is a declared path above, or a declared path below. -/
theorem obstacle_declared (h : tree.Unfolds children) {path : String} {e : SchemaError}
    (hblocked : Blocked path [] (segments path) children e) :
    (∃ parent existing, IsAbove parent path ∧ tree.declaration? parent = some existing ∧
      e = .pathConflict path parent (TreeNode.declaredTypeName existing)) ∨
    ∃ below, IsAbove path below ∧ (tree.declaration? below).isSome ∧ e = .nestedConflict path := by
  rcases hblocked.obstacle rootId with
    ⟨front, back, id, existing, hfront, hback, hsegs, hfind, rfl⟩ | ⟨id, kids, hfind, rfl⟩
  · have hparent : segments (ofSegments front) = front :=
      segments_ofSegments hfront fun segment hmem =>
        dot_not_mem_segment path (hsegs ▸ List.mem_append_left back hmem)
    refine .inl ⟨ofSegments front, existing, isAbove_iff.2 ⟨back, hback, ?_⟩, ?_, rfl⟩
    · rw [hparent, hsegs]
    · exact h.declaration?_iff.2 ⟨id, by rw [hparent, hfind]⟩
  · have hbranch : ∃ kids, tree.get? path = some (.branch kids) :=
      ⟨links kids, by rw [h.get?_eq, hfind]; rfl⟩
    obtain ⟨below, habove, hdeclared⟩ := (IsProper.branch_iff ⟨children, h⟩).1 hbranch
    exact .inr ⟨below, habove, hdeclared, rfl⟩

end Unfolds

/-- An insertion fails because of a declared path above or below its own, and then leaves the tree
as it was; or else it changes the declaration at its path and no other. -/
theorem IsProper.insert_outcome {tree : PathTree} (h : tree.IsProper) (path : String)
    (declaration : Json) :
    (∃ parent existing, IsAbove parent path ∧ tree.declaration? parent = some existing ∧
      tree.insert path declaration = (tree,
        .error (.pathConflict path parent (TreeNode.declaredTypeName existing)))) ∨
    (∃ below, IsAbove path below ∧ (tree.declaration? below).isSome ∧
      tree.insert path declaration = (tree, .error (.nestedConflict path))) ∨
    ∃ leaf, (tree.insert path declaration).2 = .ok leaf ∧
      (tree.insert path declaration).1.IsProper ∧
      (∀ other, (tree.declaration? other).isSome → ¬IsAbove other path ∧ ¬IsAbove path other) ∧
      ∀ other, (tree.insert path declaration).1.declaration? other
        = if other = path then some declaration else tree.declaration? other := by
  obtain ⟨children, h⟩ := h
  rcases h.insert_outcome path declaration with
    ⟨e, hblocked, hinsert⟩ | ⟨after, leaf, hgraft, hok, hafter⟩
  · rcases h.obstacle_declared hblocked with
      ⟨parent, existing, habove, hdeclared, rfl⟩ | ⟨below, habove, hdeclared, rfl⟩
    · exact .inl ⟨parent, existing, habove, hdeclared, hinsert⟩
    · exact .inr (.inl ⟨below, habove, hdeclared, hinsert⟩)
  · exact .inr (.inr ⟨leaf, hok, ⟨after, hafter⟩, fun other => h.clear_of_graft hgraft,
      h.declaration?_graft hgraft hafter⟩)

end PathTree

end RecordSchema
