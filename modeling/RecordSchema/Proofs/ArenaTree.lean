import RecordSchema.Proofs.Insertion
import RecordSchema.Proofs.Tours

/-!
# The array as a tree

The array of nodes of a tree of paths holds the nodes of one trie and nothing else. So each node
but the root is the child of one branch, under one segment, and whatever goes down from the root
comes to every node once.

## Main definitions

* `Parentage`, `Trie.edges`: the nodes below the root of a trie, with their parents and segments.
* `PathTree.HasChild`: whether a branch in the array has a child under a segment.
* `PathTree.HoldsOnly`: whether the nodes of a trie are all that a tree holds.

## Main statements

* `Trie.perm_edges`: each node below the root of a trie is the child of one node.
* `PathTree.HoldsOnly.insert`: an insertion makes no nodes besides those of a trie.
* `PathTree.HoldsOnly.hasChild_iff`: the array and the trie have the same children.
* `arena_is_tree`: all this for the trees that insertions lead to, with the tours of their nodes.
-/

namespace RecordSchema

open RecordSchema.Path Trie

/-! ## Parents -/

/-- Whose child a node is: the number of its parent, and the segment under which it is there. -/
structure Parentage where
  /-- The number of the parent. -/
  parent : Nat
  /-- The segment in the parent. -/
  segment : String

namespace Trie

/-- The numbers of the nodes below a node, with their parents and segments. -/
def edges (node : Trie) : List (Parentage × Nat) :=
  node.subtries.flatMap fun sub => sub.children.map fun child => (⟨sub.id, child.1⟩, child.2.id)

theorem mem_edges_iff {node : Trie} {p : Parentage} {child : Nat} : (p, child) ∈ node.edges
    ↔ ∃ sub ∈ node.subtries, ∃ below,
      (p.segment, below) ∈ sub.children ∧ sub.id = p.parent ∧ below.id = child := by
  cases p
  simp [edges]

/-- The numbers of a trie are that of its root and, once each, those of the children in it. -/
theorem perm_edges (node : Trie) : (node.id :: node.edges.map Prod.snd).Perm node.ids := by
  induction node using Trie.induction with
  | leaf id declaration => exact .refl _
  | branch id children ih =>
    have hedges : (edges (branch id children)).map Prod.snd
        = children.map (fun child => child.2.id)
          ++ children.flatMap fun child => child.2.edges.map Prod.snd := by
      simp [edges, subtries, subtriesBelow_eq, Trie.children, Trie.id, List.map_flatMap,
        List.flatMap_assoc]
    rw [ids_branch, idsBelow_eq, hedges]
    -- each child stands in front of what is below it
    exact ((List.map_append_flatMap_perm children _ _).trans
      (List.Perm.flatMap_left children ih)).cons id

/-- A node below a tidy one is found by its segments. -/
theorem exists_find?_of_mem_subtries {node sub : Trie} (htidy : IsTidy node.children)
    (hsub : sub ∈ node.subtries) : ∃ segs, find? segs node = some sub := by
  induction node using Trie.induction with
  | leaf id declaration =>
    obtain rfl : sub = leaf id declaration := List.mem_singleton.1 hsub
    exact ⟨[], rfl⟩
  | branch id children ih =>
    rcases mem_subtries_branch.1 hsub with rfl | ⟨⟨segment, child⟩, hchild, hbelow⟩
    · exact ⟨[], rfl⟩
    · obtain ⟨segs, hfind⟩ := ih _ hchild (htidy.child hchild) hbelow
      have hget : Entries.get? children segment = some child :=
        Entries.get?_of_mem htidy.distinct hchild
      exact ⟨segment :: segs, by rw [find?_of_get? hget, hfind]⟩

end Trie

namespace PathTree

/-- Whether a parent is a branch that has the node `child` under a segment. -/
def HasChild (nodes : Array TreeNode) (p : Parentage) (child : Nat) : Prop :=
  ∃ children, nodes[p.parent]? = some (.branch children) ∧ (p.segment, child) ∈ children

/-! ## All nodes of the array -/

/-- Whether a tree holds a trie with these children of its root, and no other nodes. -/
structure HoldsOnly (tree : PathTree) (children : Entries Trie) : Prop
    extends tree.Unfolds children where
  /-- The numbers of the trie are all numbers of the array. -/
  perm_range : (ids (.branch rootId children)).Perm (List.range tree.nodes.size)

theorem holdsOnly_empty : empty.HoldsOnly [] :=
  ⟨unfolds_empty, by rw [ids_branch]; exact .refl _⟩

namespace HoldsOnly

variable {tree : PathTree} {children : Entries Trie}

/-- An insertion leaves no nodes behind besides those of the trie that it makes. -/
theorem insert (h : tree.HoldsOnly children) (path : String) (declaration : Json) :
    ∃ after, (tree.insert path declaration).1.HoldsOnly after := by
  rcases h.insert_outcome path declaration with
    ⟨e, _, hfails⟩ | ⟨after, leaf, hgraft, _, hafter⟩
  · rw [hfails]
    exact ⟨children, h⟩
  · refine ⟨after, hafter, ?_⟩
    -- the new numbers are those from the old size on, up to the new one
    obtain ⟨made, hsize, hperm⟩ := hgraft.perm_ids
    rw [hsize, List.range_eq_range', ← List.range'_append_1, Nat.zero_add, ids_branch]
    refine (hperm.cons rootId).trans ?_
    rw [← List.cons_append, ← ids_branch, ← List.range_eq_range']
    exact h.perm_range.append_right _

/-- Each node of the array is one of the trie. -/
theorem exists_subtrie (h : tree.HoldsOnly children) {id : Nat} {node : TreeNode}
    (hnode : tree.nodes[id]? = some node) :
    ∃ sub ∈ (Trie.branch rootId children).subtries, sub.id = id ∧ sub.flat = node := by
  have hlt : id < tree.nodes.size := (Array.getElem?_eq_some_iff.1 hnode).1
  obtain ⟨sub, hsub, rfl⟩ := List.mem_map.1 (h.perm_range.mem_iff.2 (List.mem_range.2 hlt))
  exact ⟨sub, hsub, rfl, Option.some.inj ((h.lies sub hsub).symm.trans hnode)⟩

/-- The array has the children that the trie has, in the same places. -/
theorem hasChild_iff (h : tree.HoldsOnly children) {p : Parentage} {child : Nat} :
    HasChild tree.nodes p child ↔ (p, child) ∈ (Trie.branch rootId children).edges := by
  obtain ⟨parent, segment⟩ := p
  rw [mem_edges_iff]
  constructor
  · rintro ⟨numbers, hparent, hmem⟩
    obtain ⟨sub, hsub, rfl, hflat⟩ := h.exists_subtrie hparent
    cases sub with
    | leaf => cases hflat
    | branch id below =>
      cases hflat
      obtain ⟨⟨_, node⟩, hnode, heq⟩ := List.mem_map.1 hmem
      cases heq
      exact ⟨_, hsub, node, hnode, rfl, rfl⟩
  · rintro ⟨sub, hsub, below, hbelow, rfl, rfl⟩
    have hflat := h.lies sub hsub
    cases sub with
    | leaf => exact absurd hbelow List.not_mem_nil
    | branch id kids =>
      exact ⟨links kids, hflat, List.mem_map.2 ⟨_, hbelow, rfl⟩⟩

/-- Each node but the root is the child of one branch under one segment. -/
theorem existsUnique_hasChild (h : tree.HoldsOnly children) {child : Nat}
    (hchild : child < tree.nodes.size) (hroot : child ≠ rootId) :
    ∃! p : Parentage, HasChild tree.nodes p child := by
  have hperm := perm_edges (.branch rootId children)
  have hdistinct : ((Trie.branch rootId children).edges.map Prod.snd).Nodup :=
    (List.nodup_cons.1 (hperm.nodup_iff.2 h.distinct)).2
  have hmem : child ∈ (Trie.branch rootId children).edges.map Prod.snd := by
    have hall := (hperm.trans h.perm_range).mem_iff.2 (List.mem_range.2 hchild)
    exact (List.mem_cons.1 hall).resolve_left hroot
  obtain ⟨⟨p, _⟩, hedge, rfl⟩ := List.mem_map.1 hmem
  refine ⟨p, h.hasChild_iff.2 hedge, fun other hother => ?_⟩
  exact congrArg Prod.fst (List.inj_on_of_nodup_map hdistinct (h.hasChild_iff.1 hother) hedge rfl)

/-- Below each branch but the root there is a leaf. -/
theorem exists_leaf_below (h : tree.HoldsOnly children) {id : Nat} {numbers : Entries Nat}
    (hroot : id ≠ rootId) (hbranch : tree.nodes[id]? = some (.branch numbers)) :
    ∃ segs leaf declaration, walk tree.nodes id segs = some leaf ∧
      tree.nodes[leaf]? = some (.leaf declaration) := by
  obtain ⟨sub, hsub, rfl, _⟩ := h.exists_subtrie hbranch
  obtain ⟨way, hway⟩ := exists_find?_of_mem_subtries h.tidy_root hsub
  have hne : way ≠ [] := by
    rintro rfl
    cases hway
    exact hroot rfl
  -- no branch below the root is empty, so there are leaves below this one
  obtain ⟨htidy, hfilled⟩ := h.tidy_root.found hway hne
  obtain ⟨⟨segs, declaration⟩, hleaf⟩ := List.exists_mem_of_ne_nil _ (leaves_ne_nil htidy hfilled)
  obtain ⟨leaf, hfind⟩ := (Trie.mem_leaves_iff htidy segs declaration).1 hleaf
  have hlies : sub.LiesIn tree.nodes := h.lies.find? hway
  refine ⟨segs, leaf, declaration, ?_, (hlies.find? hfind).getElem?⟩
  rw [hlies.walk_eq, hfind]
  rfl

end HoldsOnly

/-- What insertions lead to holds one trie, whether they succeed or not. -/
theorem exists_holdsOnly_ofInsertions (insertions : List (String × Json)) :
    ∃ children, (ofInsertions insertions).HoldsOnly children := by
  induction insertions using List.reverseRecOn with
  | nil => exact ⟨[], holdsOnly_empty⟩
  | append_singleton insertions entry ih =>
    obtain ⟨children, h⟩ := ih
    rw [ofInsertions_concat]
    exact h.insert entry.1 entry.2

end PathTree

open PathTree in
/-- In every tree that insertions lead to, the root is a branch and children lie in the array,
behind their parents. Each node but the root is the child of one branch under one segment, and
below each branch but the root there is a leaf. So the recursions of the listing and of the
rendering come to their ends with one visit to each node of the array, in calls that are nested no
deeper than there are nodes, and neither they nor look-up nor another insertion read outside the
array. -/
theorem arena_is_tree (insertions : List (String × Json)) :
    let tree := ofInsertions insertions
    (∃ children, tree.nodes[rootId]? = some (.branch children)) ∧
    (∀ (p : Parentage) child, HasChild tree.nodes p child →
      p.parent < child ∧ child < tree.nodes.size) ∧
    (∀ child < tree.nodes.size, child ≠ rootId →
      ∃! p : Parentage, HasChild tree.nodes p child) ∧
    (∀ id children, id ≠ rootId → tree.nodes[id]? = some (.branch children) →
      ∃ segs leaf declaration, walk tree.nodes id segs = some leaf ∧
        tree.nodes[leaf]? = some (.leaf declaration)) ∧
    (∃ visits, visits.Perm (List.range tree.nodes.size) ∧ ∀ depth, tree.nodes.size ≤ depth →
      (Tour.collectLeaves tree.nodes depth rootId "").Yields tree.leafPaths visits) ∧
    (∃ visits, visits.Perm (List.range tree.nodes.size) ∧ ∀ depth, tree.nodes.size ≤ depth →
      (Tour.render tree.nodes depth rootId).Yields tree.toJson visits) ∧
    (∀ path, (Tour.get? tree.nodes path).Yields (tree.get? path) []) ∧
    ∀ path declaration, (Tour.insert tree.nodes path declaration).Yields
      ((tree.insert path declaration).1.nodes, (tree.insert path declaration).2) [] := by
  intro tree
  obtain ⟨children, h⟩ := exists_holdsOnly_ofInsertions insertions
  refine ⟨tree.arena.root, ?_, fun child => h.existsUnique_hasChild,
    fun id numbers => h.exists_leaf_below, ?_, ?_, Tour.yields_get? tree, Tour.yields_insert tree⟩
  · rintro p child ⟨numbers, hparent, hmem⟩
    exact tree.arena.forward hparent _ hmem
  · exact ⟨_, h.perm_range, fun depth hdepth =>
      Tour.yields_collectLeaves "" h.lies (Nat.le_add_left_of_le hdepth)⟩
  · exact ⟨_, h.perm_range, fun depth hdepth =>
      Tour.yields_render h.lies (Nat.le_add_left_of_le hdepth)⟩

end RecordSchema
