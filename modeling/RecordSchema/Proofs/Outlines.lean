import RecordSchema.Proofs.DeclaredPaths

/-!
# Outlines of trees

What a tree of paths shows from outside, its rendering and its listing, depends on its branches and
leaves and not on the numbers of the nodes. An outline is a trie without them, and an insertion
that succeeds is a function of outlines.

## Main definitions

* `Outline`, `Outline.toJson`, `Outline.leaves`: an outline, its rendering and its listing.
* `Outline.graft`: the outline after an insertion.
* `Trie.outline`, `PathTree.HasOutline`: the outline of a trie and of a tree.

## Main statements

* `Grafts.outlineBelow_eq`: a graft on a trie is a graft on its outline.
* `Outline.foldl_plant_below`: leaves that are grafted behind one segment grow below it.
* `PathTree.HasOutline.insert`: an insertion that succeeds grafts onto the outline.
* `PathTree.HasOutline.toJson_eq`, `PathTree.HasOutline.leafPaths_eq`: rendering and listing.
-/

namespace RecordSchema

open RecordSchema.Path

/-- A node of a tree of paths with everything below it, without numbers. -/
inductive Outline where
  /-- The end of a declared path. -/
  | leaf (declaration : Json)
  /-- A parent of declared paths, with its next segments. -/
  | branch (children : List (String × Outline))

namespace Outline

mutual

/-- The node as nested objects, leaves as declared. -/
def toJson : Outline → Json
  | leaf declaration => declaration
  | branch children => .obj (fieldsBelow children)

/-- Children as the fields of an object. -/
def fieldsBelow : List (String × Outline) → List (String × Json)
  | [] => []
  | (segment, node) :: rest => (segment, toJson node) :: fieldsBelow rest

end

mutual

/-- The leaves below a node with their segments and declarations, depth first. -/
def leaves : Outline → List (List String × Json)
  | leaf declaration => [([], declaration)]
  | branch children => leavesBelow children

/-- The leaves in a list of children. -/
def leavesBelow : List (String × Outline) → List (List String × Json)
  | [] => []
  | (segment, node) :: rest =>
    (leaves node).map (fun leaf => (segment :: leaf.1, leaf.2)) ++ leavesBelow rest

end

/-- The children of the branch under a segment; none if no branch is there. -/
def kids (children : Entries Outline) (segment : String) : Entries Outline :=
  match children.get? segment with
  | some (branch kids) => kids
  | _ => []

/-- The children of a branch after a leaf has been grafted below it. Missing branches are made on
the way. -/
def graft (declaration : Json) : List String → Entries Outline → Entries Outline
  | [], children => children
  | [last], children => children.put last (leaf declaration)
  | segment :: next :: rest, children =>
    children.put segment (branch (graft declaration (next :: rest) (kids children segment)))

/-- The children of a branch after a leaf with its segments has been grafted below it. -/
def plant (children : Entries Outline) (leaf : List String × Json) : Entries Outline :=
  graft leaf.2 leaf.1 children

theorem graft_cons {declaration : Json} {segment : String} {rest : List String}
    {children : Entries Outline} (h : rest ≠ []) : graft declaration (segment :: rest) children
      = children.put segment (branch (graft declaration rest (kids children segment))) := by
  cases rest with
  | nil => exact absurd rfl h
  | cons next rest => rw [graft]

theorem kids_put_self (children below : Entries Outline) (segment : String) :
    kids (children.put segment (branch below)) segment = below := by
  rw [kids, Entries.get?_put_self]

/-- Every leaf below a branch has a segment. -/
theorem segments_ne_nil_of_mem_leavesBelow {children : Entries Outline} :
    ∀ leaf ∈ leavesBelow children, leaf.1 ≠ [] := by
  induction children with
  | nil => exact fun leaf h => absurd h List.not_mem_nil
  | cons first rest ih =>
    obtain ⟨segment, node⟩ := first
    rw [leavesBelow]
    intro leaf hleaf
    rcases List.mem_append.1 hleaf with hfirst | hrest
    · obtain ⟨below, _, rfl⟩ := List.mem_map.1 hfirst
      exact List.cons_ne_nil _ _
    · exact ih leaf hrest

/-- Leaves that are grafted one after the other behind the same segment grow below it. -/
theorem foldl_plant_below (segment : String) {leaves : List (List String × Json)}
    (hleaves : leaves ≠ []) (hsegs : ∀ leaf ∈ leaves, leaf.1 ≠ []) (children : Entries Outline) :
    (leaves.map fun leaf => (segment :: leaf.1, leaf.2)).foldl plant children
      = children.put segment (branch (leaves.foldl plant (kids children segment))) := by
  induction leaves generalizing children with
  | nil => exact absurd rfl hleaves
  | cons first rest ih =>
    obtain ⟨hfirst, hrest⟩ := List.forall_mem_cons.1 hsegs
    have hplant : plant children (segment :: first.1, first.2)
        = children.put segment (branch (plant (kids children segment) first)) := graft_cons hfirst
    rw [List.map_cons, List.foldl_cons, List.foldl_cons, hplant]
    by_cases hnil : rest = []
    · rw [hnil]
      rfl
    · rw [ih hnil hrest, kids_put_self, Entries.put_put]

end Outline

/-! ## The outline of a trie -/

namespace Trie

open Outline (fieldsBelow)

mutual

/-- A trie without its numbers. -/
def outline : Trie → Outline
  | leaf _ declaration => .leaf declaration
  | branch _ children => .branch (outlineBelow children)

/-- Children without their numbers. -/
def outlineBelow : List (String × Trie) → Entries Outline
  | [] => []
  | (segment, node) :: rest => (segment, outline node) :: outlineBelow rest

end

theorem outline_branch (id : Nat) (children : Entries Trie) :
    outline (branch id children) = .branch (outlineBelow children) :=
  rfl

theorem outlineBelow_eq (children : Entries Trie) :
    outlineBelow children = children.map fun child => (child.1, child.2.outline) := by
  induction children with
  | nil => rfl
  | cons head rest ih => rw [outlineBelow, ih, List.map_cons]

theorem outlineBelow_put (children : Entries Trie) (segment : String) (node : Trie) :
    outlineBelow (children.put segment node)
      = (outlineBelow children).put segment node.outline := by
  rw [outlineBelow_eq, outlineBelow_eq]
  exact (Entries.put_map outline children segment node).symm

theorem kids_outlineBelow (children : Entries Trie) (segment : String) :
    Outline.kids (outlineBelow children) segment
      = outlineBelow (((children.get? segment).map Trie.children).getD []) := by
  have hget : (outlineBelow children).get? segment = (children.get? segment).map outline := by
    rw [outlineBelow_eq]
    exact Entries.get?_map outline children segment
  rw [Outline.kids, hget]
  rcases children.get? segment with _ | _ | _ <;> rfl

/-- The leaves of a trie are those of its outline. -/
theorem leaves_outline (node : Trie) : node.outline.leaves = node.leaves := by
  induction node using Trie.induction with
  | leaf id declaration => rfl
  | branch id children ih =>
    rw [outline, Outline.leaves, leaves]
    induction children with
    | nil => rfl
    | cons first rest ihrest =>
      obtain ⟨hfirst, hrest⟩ := List.forall_mem_cons.1 ih
      rw [outlineBelow, Outline.leavesBelow, leavesBelow, hfirst, ihrest hrest]

theorem fieldsBelow_outlineBelow (children : Entries Trie) :
    fieldsBelow (outlineBelow children)
      = children.map fun child => (child.1, child.2.outline.toJson) := by
  induction children with
  | nil => rfl
  | cons head rest ih => rw [outlineBelow, fieldsBelow, ih, List.map_cons]

end Trie

open Trie

theorem Grafts.segs_ne_nil {declaration : Json} {segs : List String} {children after : Entries Trie}
    {free leaf free' : Nat} (h : Grafts declaration segs children free after leaf free') :
    segs ≠ [] := by
  cases h <;> exact List.cons_ne_nil _ _

/-- A graft on a trie is a graft on its outline. -/
theorem Grafts.outlineBelow_eq {declaration : Json} {segs : List String}
    {children after : Entries Trie} {free leaf free' : Nat}
    (h : Grafts declaration segs children free after leaf free') :
    outlineBelow after = Outline.graft declaration segs (outlineBelow children) := by
  induction h with
  | fresh => exact outlineBelow_put _ _ _
  | replaced => exact outlineBelow_put _ _ _
  | through_new habsent hbelow ih =>
    rw [outlineBelow_put, outline_branch, ih, Outline.graft_cons hbelow.segs_ne_nil,
      kids_outlineBelow, habsent]
    rfl
  | through_old hbranch hbelow ih =>
    rw [outlineBelow_put, outline_branch, ih, Outline.graft_cons hbelow.segs_ne_nil,
      kids_outlineBelow, hbranch]
    rfl

/-! ## The outline of a tree -/

namespace PathTree

theorem render_leaf {tree : PathTree} {id : Nat} {declaration : Json}
    (h : tree.nodes[id]? = some (.leaf declaration)) : tree.render id = declaration := by
  rw [render]
  split
  · rename_i found hfound
    cases hfound.symm.trans h
    rfl
  · rename_i found hfound
    cases hfound.symm.trans h
  · rename_i hnone
    cases hnone.symm.trans h

theorem render_branch {tree : PathTree} {id : Nat} {children : Entries Nat}
    (h : tree.nodes[id]? = some (.branch children)) :
    tree.render id = .obj (children.map fun entry => (entry.1, tree.render entry.2)) := by
  rw [render]
  split
  · rename_i found hfound
    cases hfound.symm.trans h
  · rename_i found hfound
    cases hfound.symm.trans h
    exact congrArg Json.obj (List.attach_map_val (l := children) (f := fun entry =>
      (entry.1, tree.render entry.2)))
  · rename_i hnone
    cases hnone.symm.trans h

/-- The rendering of an array is that of the trie it holds. -/
theorem render_eq (tree : PathTree) {node : Trie} (hlies : node.LiesIn tree.nodes) :
    tree.render node.id = node.outline.toJson := by
  induction node using Trie.induction with
  | leaf id declaration =>
    exact render_leaf hlies.getElem?
  | branch id children ih =>
    have hself : tree.nodes[id]? = some (.branch (links children)) := hlies.getElem?
    show tree.render id = _
    rw [render_branch hself, outline, Outline.toJson, fieldsBelow_outlineBelow, links,
      List.map_map]
    refine congrArg Json.obj (List.map_congr_left fun child hchild => ?_)
    exact congrArg (Prod.mk child.1) (ih child hchild ((LiesIn.branch_iff.1 hlies).2 _ hchild))

/-- Whether a tree is laid out as insertions lay it out, with these children of its root. -/
def HasOutline (tree : PathTree) (children : Entries Outline) : Prop :=
  ∃ below, tree.Unfolds below ∧ outlineBelow below = children

theorem hasOutline_empty : empty.HasOutline [] :=
  ⟨[], unfolds_empty, rfl⟩

namespace HasOutline

variable {tree : PathTree} {children : Entries Outline}

/-- An insertion that succeeds grafts a leaf onto the outline. -/
theorem insert (h : tree.HasOutline children) {path : String} {declaration : Json} {leaf : Nat}
    (hinsert : (tree.insert path declaration).2 = .ok leaf) :
    (tree.insert path declaration).1.HasOutline
      (Outline.graft declaration (segments path) children) := by
  obtain ⟨below, hunfolds, rfl⟩ := h
  rcases hunfolds.insert_outcome path declaration with
    ⟨e, _, hfails⟩ | ⟨after, _, hgraft, _, hafter⟩
  · rw [hfails] at hinsert
    cases hinsert
  · exact ⟨after, hafter, hgraft.outlineBelow_eq⟩

/-- The rendering of a tree. -/
theorem toJson_eq (h : tree.HasOutline children) :
    tree.toJson = .obj (Outline.fieldsBelow children) := by
  obtain ⟨below, hunfolds, rfl⟩ := h
  rw [toJson]
  exact render_eq tree hunfolds.lies

/-- The listing of a tree. -/
theorem leafPaths_eq (h : tree.HasOutline children)
    (hfirst : ∀ path, (tree.declaration? path).isSome → ¬IsAbove "" path) :
    tree.leafPaths = (Outline.leavesBelow children).map fun leaf => ofSegments leaf.1 := by
  obtain ⟨below, hunfolds, rfl⟩ := h
  rw [hunfolds.leafPaths_eq hfirst, ← leaves_outline]
  rfl

/-- The segments of the listing of a tree. -/
theorem map_segments_leafPaths (h : tree.HasOutline children)
    (hfirst : ∀ path, (tree.declaration? path).isSome → ¬IsAbove "" path) :
    tree.leafPaths.map segments = (Outline.leavesBelow children).map Prod.fst := by
  obtain ⟨below, hunfolds, rfl⟩ := h
  rw [hunfolds.map_segments_leafPaths hfirst, ← leaves_outline]
  rfl

end HasOutline

end PathTree

end RecordSchema
