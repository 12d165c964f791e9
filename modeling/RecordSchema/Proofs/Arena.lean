import RecordSchema.Proofs.Trie

/-!
# Tries laid out in an array

The nodes of a tree of paths lie in an array and name their children by number. An array holds a
trie when each node of the trie lies under its number with the numbers of its children. The
numbers of a trie are distinct, so writing to one node leaves the others alone, and what an
insertion does to the array is what it does to the trie.

## Main definitions

* `Trie.flat`: a node with its children by number.
* `Trie.LiesIn`: an array holds a trie.
* `Trie.InsertsBelow`: what an insertion below a branch leads to.

## Main statements

* `Trie.LiesIn.insertsBelow_fresh`, `Trie.LiesIn.insertsBelow_replaced`,
  `Trie.LiesIn.insertsBelow_new`, `Trie.LiesIn.insertsBelow_old`: the ways on which it succeeds.
* `insertFrom_spec`: an insertion either meets an obstacle, and then the array is as it was, or
  grafts a leaf onto the trie and leaves all other nodes alone.
* `Trie.LiesIn.walk_eq`: following numbers is following segments.
* `collectLeaves_eq`: the listing of the array is the listing of the trie.
-/

namespace RecordSchema

namespace Trie

/-- Children by number. -/
def links (children : Entries Trie) : Entries Nat :=
  children.map fun child => (child.1, child.2.id)

/-- A node with its children by number. -/
def flat : Trie → TreeNode
  | leaf _ declaration => .leaf declaration
  | branch _ children => .branch (links children)

/-- Whether an array holds a node and all nodes below it, each under its number. -/
def LiesIn (node : Trie) (nodes : Array TreeNode) : Prop :=
  ∀ sub ∈ node.subtries, nodes[sub.id]? = some sub.flat

@[simp] theorem get?_links (children : Entries Trie) (segment : String) :
    (links children).get? segment = (children.get? segment).map id :=
  Entries.get?_map id children segment

theorem links_put (children : Entries Trie) (segment : String) (node : Trie) :
    links (children.put segment node) = (links children).put segment node.id :=
  (Entries.put_map id children segment node).symm

theorem mem_idsBelow {children : Entries Trie} {child : String × Trie} (hchild : child ∈ children)
    {i : Nat} (hi : i ∈ child.2.ids) : i ∈ idsBelow children := by
  rw [idsBelow_eq]
  exact List.mem_flatMap.2 ⟨child, hchild, hi⟩

theorem ids_branch_nil (id : Nat) : ids (branch id []) = [id] :=
  ids_branch id []

theorem id_mem_ids (node : Trie) : node.id ∈ node.ids :=
  List.mem_map_of_mem (mem_subtries_self node)

namespace LiesIn

variable {nodes nodes' : Array TreeNode} {node : Trie}

theorem getElem? (h : node.LiesIn nodes) : nodes[node.id]? = some node.flat :=
  h node (mem_subtries_self node)

theorem branch_iff {id : Nat} {children : Entries Trie} : (branch id children).LiesIn nodes
    ↔ nodes[id]? = some (.branch (links children)) ∧ ∀ child ∈ children, child.2.LiesIn nodes := by
  constructor
  · intro h
    exact ⟨h.getElem?, fun child hchild sub hsub =>
      h sub (mem_subtries_branch.2 (.inr ⟨child, hchild, hsub⟩))⟩
  · rintro ⟨hself, hbelow⟩ sub hsub
    rcases mem_subtries_branch.1 hsub with rfl | ⟨child, hchild, hsub⟩
    · exact hself
    · exact hbelow child hchild sub hsub

theorem leaf_iff {id : Nat} {declaration : Json} :
    (leaf id declaration).LiesIn nodes ↔ nodes[id]? = some (.leaf declaration) := by
  constructor
  · exact fun h => h.getElem?
  · intro h sub hsub
    obtain rfl : sub = leaf id declaration := List.mem_singleton.1 hsub
    exact h

/-- An array that agrees on the numbers of a trie holds it as well. -/
theorem frame (h : node.LiesIn nodes) (hsame : ∀ i ∈ node.ids, nodes'[i]? = nodes[i]?) :
    node.LiesIn nodes' := by
  intro sub hsub
  rw [hsame sub.id (List.mem_map_of_mem hsub), h sub hsub]

theorem lt_size (h : node.LiesIn nodes) {i : Nat} (hi : i ∈ node.ids) : i < nodes.size := by
  obtain ⟨sub, hsub, rfl⟩ := List.mem_map.1 hi
  exact (Array.getElem?_eq_some_iff.1 (h sub hsub)).1

theorem child?_eq (h : node.LiesIn nodes) (segment : String) :
    PathTree.child? nodes node.id segment = (node.children.get? segment).map id := by
  rw [PathTree.child?, h.getElem?, Option.bind_some]
  cases node with
  | leaf => rfl
  | branch id children => exact get?_links children segment

theorem child (h : node.LiesIn nodes) {segment : String} {below : Trie}
    (hget : node.children.get? segment = some below) : below.LiesIn nodes := by
  cases node with
  | leaf => cases hget
  | branch id children => exact (branch_iff.1 h).2 _ (Entries.mem_of_get? hget)

end LiesIn

/-- The numbers below different children differ. -/
theorem ids_disjoint_of_perm {root : Nat} {children rest : Entries Trie} {child : String × Trie}
    (hids : (ids (branch root children)).Nodup) (hperm : children.Perm (child :: rest)) :
    root ∉ child.2.ids ∧ child.2.ids.Nodup ∧
      ∀ other ∈ rest, root ∉ other.2.ids ∧ ∀ i ∈ other.2.ids, i ∉ child.2.ids := by
  rw [ids_branch] at hids
  have hbelow := (((idsBelow_perm hperm).cons root).nodup_iff).1 hids
  rw [idsBelow_cons, List.nodup_cons, List.mem_append, not_or, List.nodup_append] at hbelow
  obtain ⟨⟨hroot, hrootRest⟩, hchild, _, hdisjoint⟩ := hbelow
  refine ⟨hroot, hchild, fun other hother => ⟨?_, ?_⟩⟩
  · exact fun hmem => hrootRest (mem_idsBelow hother hmem)
  · exact fun i hi hmem => hdisjoint i hmem i (mem_idsBelow hother hi) rfl

end Trie

open Trie in
/-- Putting a changed child into its place: the array holds the new branch when the changed child
lies in it and everything outside the old child is as it was. -/
theorem Trie.LiesIn.put_child {nodes nodes' : Array TreeNode} {root : Nat}
    {children : Entries Trie} {segment : String} {old new : Trie}
    (hlies : (branch root children).LiesIn nodes) (hids : (ids (branch root children)).Nodup)
    (hget : children.get? segment = some old) (hnew : new.LiesIn nodes') (hid : new.id = old.id)
    (hframe : ∀ i < nodes.size, i ∉ old.ids → nodes'[i]? = nodes[i]?) :
    (branch root (children.put segment new)).LiesIn nodes' := by
  obtain ⟨rest, hold, hput⟩ := Entries.perm_put_of_get? hget
  obtain ⟨hroot, _, hrest⟩ := ids_disjoint_of_perm hids hold
  refine LiesIn.branch_iff.2 ⟨?_, fun child hchild => ?_⟩
  · have hlinks : links (children.put segment new) = links children := by
      rw [links_put, Entries.put_of_get?]
      rw [get?_links, hget, Option.map_some, hid]
    rw [hframe root (hlies.lt_size (id_mem_ids _)) hroot, hlinks]
    exact hlies.getElem?
  · rcases List.mem_cons.1 ((hput new).mem_iff.1 hchild) with rfl | hother
    · exact hnew
    · have hlie := (LiesIn.branch_iff.1 hlies).2 child (hold.mem_iff.2 (.tail _ hother))
      exact hlie.frame fun i hi => hframe i (hlie.lt_size hi) ((hrest child hother).2 i hi)

open Trie in
/-- Adding a new child: the array holds the new branch when the child lies in it under the first
free number and the old nodes are as the addition left them. -/
theorem Trie.LiesIn.add_child {nodes nodes' : Array TreeNode} {root : Nat}
    {children : Entries Trie} {segment : String} {new : Trie} {node : TreeNode}
    (hlies : (branch root children).LiesIn nodes) (hids : (ids (branch root children)).Nodup)
    (hget : children.get? segment = none) (hnew : new.LiesIn nodes') (hid : new.id = nodes.size)
    (hframe : ∀ i < nodes.size,
      nodes'[i]? = (PathTree.addChild nodes root segment node)[i]?) :
    (branch root (children.put segment new)).LiesIn nodes' := by
  have hroot : root < nodes.size := hlies.lt_size (id_mem_ids (branch root children))
  refine LiesIn.branch_iff.2 ⟨?_, fun child hchild => ?_⟩
  · have hself : nodes[root]? = some (.branch (links children)) := hlies.getElem?
    rw [hframe root hroot, PathTree.getElem?_addChild_parent segment node hself, links_put, hid]
    rfl
  · rw [Entries.put_of_get?_none hget, List.mem_append, List.mem_singleton] at hchild
    rcases hchild with hold | rfl
    · have hlie := (LiesIn.branch_iff.1 hlies).2 child hold
      refine hlie.frame fun i hi => ?_
      have hlt := hlie.lt_size hi
      have hne : i ≠ root := by
        rintro rfl
        rw [ids_branch, List.nodup_cons] at hids
        exact hids.1 (mem_idsBelow hold hi)
      rw [hframe i hlt, PathTree.getElem?_addChild_of_ne segment node hne (Nat.ne_of_lt hlt)]
    · exact hnew

/-! ## Insertion -/

/-- What an insertion below a branch leads to: the array afterwards and the number of the leaf. -/
inductive Trie.InsertsBelow (path : String) (declaration : Json) (passed segs : List String)
    (nodes : Array TreeNode) (current : Nat) (children : Entries Trie) :
    Array TreeNode × Except SchemaError Nat → Prop
  /-- It meets an obstacle, and the array is as it was. -/
  | blocked {e : SchemaError} (hblocked : Blocked path passed segs children e) :
      InsertsBelow path declaration passed segs nodes current children (nodes, .error e)
  /-- It grafts a leaf onto the branch and leaves the nodes outside the branch alone. -/
  | grafted {after : Entries Trie} {leaf : Nat} {nodes' : Array TreeNode}
      (hgrafts : Grafts declaration segs children nodes.size after leaf nodes'.size)
      (hlies : (branch current after).LiesIn nodes')
      (hframe : ∀ i < nodes.size, i ∉ (branch current children).ids → nodes'[i]? = nodes[i]?) :
      InsertsBelow path declaration passed segs nodes current children (nodes', .ok leaf)

namespace Trie.LiesIn

variable {path segment : String} {declaration : Json} {passed rest : List String}
  {nodes : Array TreeNode} {current : Nat} {children : Entries Trie}

/-- A child that the array names is a child of the trie. -/
theorem exists_child (hlies : (branch current children).LiesIn nodes) {id : Nat}
    (hchild : PathTree.child? nodes current segment = some id) :
    ∃ node, children.get? segment = some node ∧ node.id = id ∧ nodes[id]? = some node.flat := by
  have hlinked := hlies.child?_eq segment
  rw [Trie.id, Trie.children, hchild] at hlinked
  obtain ⟨node, hget, rfl⟩ := Option.map_eq_some_iff.1 hlinked.symm
  exact ⟨node, hget, rfl, (hlies.child hget).getElem?⟩

theorem no_child (hlies : (branch current children).LiesIn nodes)
    (hchild : PathTree.child? nodes current segment = none) : children.get? segment = none := by
  have hlinked := hlies.child?_eq segment
  rw [Trie.id, Trie.children, hchild] at hlinked
  exact Option.map_eq_none_iff.1 hlinked.symm

/-- The new leaf is made in its branch. -/
theorem insertsBelow_fresh (hlies : (branch current children).LiesIn nodes)
    (hids : (ids (branch current children)).Nodup) (hget : children.get? segment = none) :
    InsertsBelow path declaration passed [segment] nodes current children
      (PathTree.addChild nodes current segment (.leaf declaration), .ok nodes.size) := by
  have hcurrent : current < nodes.size := hlies.lt_size (id_mem_ids (branch current children))
  refine .grafted (by rw [PathTree.size_addChild]; exact .fresh hget)
    (hlies.add_child hids hget (leaf_iff.2 ?_) rfl fun i _ => rfl) fun i hi hout => ?_
  · exact PathTree.getElem?_addChild_new _ _ hcurrent
  · rw [ids_branch, List.mem_cons, not_or] at hout
    exact PathTree.getElem?_addChild_of_ne _ _ hout.1 (Nat.ne_of_lt hi)

/-- The new leaf takes the place of an earlier one. -/
theorem insertsBelow_replaced (hlies : (branch current children).LiesIn nodes)
    (hids : (ids (branch current children)).Nodup) {id : Nat} {old : Json}
    (hget : children.get? segment = some (.leaf id old)) :
    InsertsBelow path declaration passed [segment] nodes current children
      (nodes.setIfInBounds id (.leaf declaration), .ok id) := by
  have hlt : id < nodes.size := (hlies.child hget).lt_size (id_mem_ids (.leaf id old))
  have hnew : (leaf id declaration).LiesIn (nodes.setIfInBounds id (.leaf declaration)) :=
    leaf_iff.2 (Array.getElem?_setIfInBounds_self_of_lt hlt)
  refine .grafted (by rw [Array.size_setIfInBounds]; exact .replaced hget)
    (hlies.put_child hids hget hnew rfl fun i _ hout => ?_) fun i _ hout => ?_
  · have hne : id ≠ i := fun he => hout (he ▸ id_mem_ids (.leaf id old))
    exact Array.getElem?_setIfInBounds_ne hne
  · have hmem : id ∈ ids (branch current children) := by
      rw [ids_branch]
      exact .tail _ (mem_idsBelow (Entries.mem_of_get? hget) (id_mem_ids (.leaf id old)))
    have hne : id ≠ i := fun he => hout (he ▸ hmem)
    exact Array.getElem?_setIfInBounds_ne hne

/-- The array holds a new branch without children. -/
theorem new_branch (hlies : (branch current children).LiesIn nodes) (segment : String) :
    (branch nodes.size []).LiesIn (PathTree.addChild nodes current segment (.branch [])) := by
  have hcurrent : current < nodes.size := hlies.lt_size (id_mem_ids (branch current children))
  exact branch_iff.2 ⟨PathTree.getElem?_addChild_new _ _ hcurrent, by simp⟩

/-- The way goes through a new branch, behind which nothing is in the way. -/
theorem insertsBelow_new (hlies : (branch current children).LiesIn nodes)
    (hids : (ids (branch current children)).Nodup) (hget : children.get? segment = none)
    {result : Array TreeNode × Except SchemaError Nat}
    (hbelow : InsertsBelow path declaration (passed ++ [segment]) rest
      (PathTree.addChild nodes current segment (.branch [])) nodes.size [] result) :
    InsertsBelow path declaration passed (segment :: rest) nodes current children result := by
  cases hbelow with
  | blocked hblocked => exact absurd hblocked Blocked.not_nil
  | @grafted below leaf nodes' hgrafts hlies' hframe =>
    rw [PathTree.size_addChild] at hgrafts hframe
    have hsame : ∀ i < nodes.size,
        nodes'[i]? = (PathTree.addChild nodes current segment (.branch []))[i]? := by
      refine fun i hi => hframe i (Nat.lt_succ_of_lt hi) ?_
      simpa [ids_branch_nil] using Nat.ne_of_lt hi
    refine .grafted (.through_new hget hgrafts) (hlies.add_child hids hget hlies' rfl hsame) ?_
    intro i hi hout
    rw [ids_branch, List.mem_cons, not_or] at hout
    rw [hsame i hi]
    exact PathTree.getElem?_addChild_of_ne _ _ hout.1 (Nat.ne_of_lt hi)

/-- The way goes through a branch that was there. -/
theorem insertsBelow_old (hlies : (branch current children).LiesIn nodes)
    (hids : (ids (branch current children)).Nodup) {id : Nat} {kids : Entries Trie}
    (hget : children.get? segment = some (.branch id kids))
    {result : Array TreeNode × Except SchemaError Nat}
    (hbelow : InsertsBelow path declaration (passed ++ [segment]) rest nodes id kids result) :
    InsertsBelow path declaration passed (segment :: rest) nodes current children result := by
  cases hbelow with
  | blocked hblocked => exact .blocked (.further hget hblocked)
  | grafted hgrafts hlies' hframe =>
    refine .grafted (.through_old hget hgrafts) (hlies.put_child hids hget hlies' rfl hframe) ?_
    intro i hi hout
    refine hframe i hi fun hmem => hout ?_
    rw [ids_branch current children]
    exact .tail _ (mem_idsBelow (Entries.mem_of_get? hget) hmem)

end Trie.LiesIn

open Trie in
/-- An insertion below a branch either meets an obstacle, and then the array is as it was, or
grafts a leaf onto the branch and leaves the nodes outside it alone. -/
theorem insertFrom_spec (path : String) (declaration : Json) (passed segs : List String)
    (nodes : Array TreeNode) (current : Nat) {children : Entries Trie} (hsegs : segs ≠ [])
    (hlies : (branch current children).LiesIn nodes)
    (hids : (ids (branch current children)).Nodup) :
    InsertsBelow path declaration passed segs nodes current children
      (PathTree.insertFrom path declaration passed segs nodes current) := by
  fun_induction PathTree.insertFrom path declaration passed segs nodes current
    generalizing children with
  | case1 => exact absurd rfl hsegs
  | case2 passed last nodes current hchild =>
    exact hlies.insertsBelow_fresh hids (hlies.no_child hchild)
  | case3 passed last nodes current existing hchild below hbranch =>
    -- a branch stands at the path
    obtain ⟨node, hget, rfl, hnode⟩ := hlies.exists_child hchild
    cases node with
    | leaf => cases hnode.symm.trans hbranch
    | branch id kids => exact .blocked (.branch hget)
  | case4 passed last nodes current existing hchild hleaf =>
    obtain ⟨node, hget, rfl, hnode⟩ := hlies.exists_child hchild
    cases node with
    | branch id kids => exact absurd hnode (hleaf _)
    | leaf id old => exact hlies.insertsBelow_replaced hids hget
  | case5 passed segment rest nodes current hrest passed' hchild =>
    rename_i ih
    have hsingle : (ids (branch nodes.size [])).Nodup := by simp [ids_branch_nil]
    exact hlies.insertsBelow_new hids (hlies.no_child hchild)
      (ih hrest (hlies.new_branch segment) hsingle)
  | case6 passed segment rest nodes current hrest passed' child hchild existing =>
    -- a leaf stands in the way
    rename_i hleaf
    obtain ⟨node, hget, rfl, hnode⟩ := hlies.exists_child hchild
    cases node with
    | branch => cases hnode.symm.trans hleaf
    | leaf id old =>
      cases hnode.symm.trans hleaf
      exact .blocked (.leaf hrest hget)
  | case7 passed segment rest nodes current hrest passed' child hchild hbranch =>
    -- the insertion goes on below a branch, whose numbers are distinct as well
    rename_i ih
    obtain ⟨node, hget, rfl, hnode⟩ := hlies.exists_child hchild
    cases node with
    | leaf id old => exact absurd hnode (hbranch _)
    | branch id kids =>
      obtain ⟨others, hperm, _⟩ := Entries.perm_put_of_get? hget
      have hkids := (ids_disjoint_of_perm hids hperm).2.1
      exact hlies.insertsBelow_old hids hget (ih hrest (hlies.child hget) hkids)

/-! ## Reading -/

namespace Trie.LiesIn

variable {nodes : Array TreeNode} {node : Trie}

theorem find? (h : node.LiesIn nodes) {segs : List String} {sub : Trie}
    (hfind : Trie.find? segs node = some sub) : sub.LiesIn nodes := by
  induction segs generalizing node with
  | nil => exact Option.some.inj hfind ▸ h
  | cons segment rest ih =>
    obtain ⟨child, hget, hrest⟩ := Option.bind_eq_some_iff.1 hfind
    exact ih (h.child hget) hrest

/-- Following numbers is following segments. -/
theorem walk_eq (h : node.LiesIn nodes) (segs : List String) :
    PathTree.walk nodes node.id segs = (Trie.find? segs node).map Trie.id := by
  induction segs generalizing node with
  | nil => rfl
  | cons segment rest ih =>
    rw [PathTree.walk, List.foldlM_cons, h.child?_eq, find?_cons]
    cases hget : node.children.get? segment with
    | none => rfl
    | some child => exact ih (h.child hget)

theorem walk_bind_getElem? (h : node.LiesIn nodes) (segs : List String) :
    ((PathTree.walk nodes node.id segs).bind fun id => nodes[id]?)
      = (Trie.find? segs node).map flat := by
  rw [h.walk_eq]
  cases hfind : Trie.find? segs node with
  | none => rfl
  | some sub => exact (h.find? hfind).getElem?

end Trie.LiesIn

theorem PathTree.collectLeaves_branch {tree : PathTree} {id : Nat} {children : Entries Nat}
    (h : tree.nodes[id]? = some (.branch children)) (lead : String) :
    collectLeaves tree id lead = children.flatMap fun entry =>
      match tree.nodes[entry.2]? with
      | some (.leaf _) => [Path.extend lead entry.1]
      | some (.branch _) => collectLeaves tree entry.2 (Path.extend lead entry.1)
      | none => [] := by
  rw [collectLeaves]
  split
  · rename_i found hfound
    cases hfound.symm.trans h
    rw [List.flatMap_def, List.flatMap_def]
    exact congrArg List.flatten (List.attach_map_val (l := children) (f := fun entry =>
      match tree.nodes[entry.2]? with
      | some (.leaf _) => [Path.extend lead entry.1]
      | some (.branch _) => collectLeaves tree entry.2 (Path.extend lead entry.1)
      | none => []))
  · rename_i hnone
    exact absurd h (hnone _)

open Trie in
/-- The listing of the array is the listing of the trie. -/
theorem collectLeaves_eq (tree : PathTree) (lead : String) {id : Nat} {children : Entries Trie}
    (hlies : (branch id children).LiesIn tree.nodes) :
    PathTree.collectLeaves tree id lead
      = (branch id children).leaves.map fun leaf => leaf.1.foldl Path.extend lead := by
  generalize hnode : branch id children = node at hlies
  induction node using Trie.induction generalizing id children lead with
  | leaf => cases hnode
  | branch id children ih =>
    cases hnode
    have hself : tree.nodes[id]? = some (.branch (links children)) := hlies.getElem?
    rw [PathTree.collectLeaves_branch hself, leaves, leavesBelow_eq, List.map_flatMap, links,
      List.flatMap_map]
    refine List.flatMap_congr fun entry hentry => ?_
    obtain ⟨segment, child⟩ := entry
    have hchild : child.LiesIn tree.nodes := (LiesIn.branch_iff.1 hlies).2 _ hentry
    cases child with
    | leaf leafId declaration =>
      have hleaf : tree.nodes[leafId]? = some (.leaf declaration) := hchild.getElem?
      simp [Trie.id, hleaf, leaves]
    | branch below kids =>
      have hbranch : tree.nodes[below]? = some (.branch (links kids)) := hchild.getElem?
      have hlist := ih _ hentry (Path.extend lead segment) rfl hchild
      simp only [Trie.id, hbranch, hlist, List.map_map, Function.comp_def, List.foldl_cons]

end RecordSchema
