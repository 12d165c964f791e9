import RecordSchema.Proofs.Outlines

/-!
# Tours of the nodes

The operations on a tree of paths follow numbers in an array of nodes. Here they are written down
once more as they go about it, with every reading of the array as a step of its own. A reading
outside the array breaks off, and so does a recursion whose calls are nested deeper than they may:
nothing in these definitions relies on how the array is laid out. In a tree of paths no tour breaks
off for the first cause, and none for the second one if calls may be nested as deep as there are
nodes.

A tour reads a branch as often as it needs to and visits it when it goes through its children. It
visits a leaf when it makes use of it.

## Main definitions

* `Tour`: work on an array that keeps account of its visits.
* `Tour.Yields`: how a tour ends.
* `Tour.get?`, `Tour.insert`, `Tour.collectLeaves`, `Tour.render`: the operations as tours.

## Main statements

* `Tour.Yields.bind`, `Tour.Yields.mapM`: tours in turn.
* `Tour.yields_get?`, `Tour.yields_insert`: look-up and insertion never read outside the array.
* `Tour.yields_collectLeaves`, `Tour.yields_render`: listing and rendering come to their ends, with
  one visit to each node of the trie that lies in the array.
-/

namespace RecordSchema

open RecordSchema.Path Trie

/-- Work on an array of nodes that keeps account of the numbers it visits. It comes to nothing when
it breaks off. -/
abbrev Tour := StateT (List Nat) Option

namespace Tour

variable {α β : Type}

/-! ## Steps -/

/-- Enters a visit into the account. -/
def visit (id : Nat) : Tour Unit :=
  modify fun visits => visits ++ [id]

/-- Reads a node, which has to be there. -/
def node (nodes : Array TreeNode) (id : Nat) : Tour TreeNode :=
  StateT.lift nodes[id]?

/-- Whether a tour comes to its end with this result and these visits, in their order. -/
def Yields (tour : Tour α) (result : α) (visits : List Nat) : Prop :=
  ∀ before, tour.run before = some (result, before ++ visits)

theorem yields_visit (id : Nat) : (visit id).Yields () [id] :=
  fun _ => rfl

theorem yields_node {nodes : Array TreeNode} {id : Nat} {found : TreeNode}
    (h : nodes[id]? = some found) : (node nodes id).Yields found [] := by
  intro before
  rw [node, h, List.append_nil]
  rfl

namespace Yields

theorem pure (result : α) : (Pure.pure result : Tour α).Yields result [] := by
  intro before
  rw [List.append_nil]
  rfl

theorem bind {tour : Tour α} {next : α → Tour β} {middle : α} {result : β} {first rest : List Nat}
    (htour : tour.Yields middle first) (hnext : (next middle).Yields result rest) :
    (tour >>= next).Yields result (first ++ rest) := by
  intro before
  rw [StateT.run_bind, htour before, ← List.append_assoc]
  exact hnext (before ++ first)

/-- What is made of a result at the end takes no further visits. -/
theorem bind_pure {tour : Tour α} {result : α} {visits : List Nat} (h : tour.Yields result visits)
    (change : α → β) : (tour >>= fun found => Pure.pure (change found)).Yields (change result)
      visits := by
  intro before
  rw [StateT.run_bind, h before]
  rfl

/-- Tours of several things in turn visit what each of them visits. -/
theorem mapM {tour : α → Tour β} {result : α → β} {visits : α → List Nat} {things : List α}
    (h : ∀ thing ∈ things, (tour thing).Yields (result thing) (visits thing)) :
    (things.mapM tour).Yields (things.map result) (things.flatMap visits) := by
  induction things with
  | nil => exact pure []
  | cons thing rest ih =>
    obtain ⟨hthing, hrest⟩ := List.forall_mem_cons.1 h
    rw [List.mapM_cons]
    exact hthing.bind ((ih hrest).bind_pure _)

end Yields

/-! ## Operations as tours -/

/-- The number of the node under a segment. -/
def child? (nodes : Array TreeNode) (parent : Nat) (segment : String) : Tour (Option Nat) := do
  let found ← node nodes parent
  return found.children.get? segment

/-- The number of the node reached by following segments. -/
def walk (nodes : Array TreeNode) : List String → Nat → Tour (Option Nat)
  | [], current => return some current
  | segment :: rest, current => do
    match ← child? nodes current segment with
    | none => return none
    | some child => walk nodes rest child

/-- The node at a path. -/
def get? (nodes : Array TreeNode) (path : String) : Tour (Option TreeNode) := do
  let found ← walk nodes (segments path) PathTree.rootId
  return found.bind fun id => nodes[id]?

/-- Adds a node and names it in its parent, which is looked up after the addition. -/
def addChild (nodes : Array TreeNode) (parent : Nat) (segment : String) (new : TreeNode) :
    Tour (Array TreeNode) := do
  let _ ← node (nodes.push new) parent
  return PathTree.addChild nodes parent segment new

/-- Inserts a leaf for `path` below the branch `current` whose own segments are `passed`. -/
def insertFrom (path : String) (declaration : Json) (passed : List String) :
    List String → Array TreeNode → Nat → Tour (Array TreeNode × Except SchemaError Nat)
  | [], nodes, _ => return (nodes, .error (.invalidPath path))
  | [last], nodes, current => do
    match ← child? nodes current last with
    | none =>
      let grown ← addChild nodes current last (.leaf declaration)
      return (grown, .ok nodes.size)
    | some existing =>
      match ← node nodes existing with
      | .branch _ => return (nodes, .error (.nestedConflict path))
      | .leaf _ => return (nodes.setIfInBounds existing (.leaf declaration), .ok existing)
  | segment :: rest, nodes, current => do
    match ← child? nodes current segment with
    | none =>
      let grown ← addChild nodes current segment (.branch [])
      insertFrom path declaration (passed ++ [segment]) rest grown nodes.size
    | some child =>
      match ← node nodes child with
      | .branch _ => insertFrom path declaration (passed ++ [segment]) rest nodes child
      | .leaf existing =>
        return (nodes, .error (.pathConflict path (ofSegments (passed ++ [segment]))
          (TreeNode.declaredTypeName existing)))

/-- Declares a path: the nodes afterwards, and the number of its leaf. -/
def insert (nodes : Array TreeNode) (path : String) (declaration : Json) :
    Tour (Array TreeNode × Except SchemaError Nat) :=
  insertFrom path declaration [] (segments path) nodes PathTree.rootId

/-- The declared paths below the node `id`, which stands at `lead`, by calls that are nested no
deeper than `depth`. -/
def collectLeaves (nodes : Array TreeNode) (depth id : Nat) (lead : String) :
    Tour (List String) :=
  match depth with
  | 0 => failure
  | depth + 1 => do
    visit id
    match ← node nodes id with
    | .leaf _ => return []
    | .branch children =>
      let listings ← children.mapM fun entry => do
        match ← node nodes entry.2 with
        | .leaf _ => do
          visit entry.2
          return [extend lead entry.1]
        | .branch _ => collectLeaves nodes depth entry.2 (extend lead entry.1)
      return listings.flatten

/-- The node `id` as nested objects, leaves as declared, by calls that are nested no deeper than
`depth`. -/
def render (nodes : Array TreeNode) (depth id : Nat) : Tour Json :=
  match depth with
  | 0 => failure
  | depth + 1 => do
    visit id
    match ← node nodes id with
    | .leaf declaration => return declaration
    | .branch children =>
      let fields ← children.mapM fun entry => do
        return (entry.1, ← render nodes depth entry.2)
      return .obj fields

/-! ## Look-up and insertion -/

section

variable {nodes : Array TreeNode}

theorem yields_child? {parent : Nat} {segment : String} {child : Option Nat}
    (hparent : parent < nodes.size) (hchild : PathTree.child? nodes parent segment = child) :
    (child? nodes parent segment).Yields child [] := by
  have hnode : nodes[parent]? = some nodes[parent] := Array.getElem?_eq_getElem hparent
  rw [← hchild, PathTree.child?, hnode]
  exact (yields_node hnode).bind_pure fun found => found.children.get? segment

/-- A child of an arena can be read. -/
theorem exists_getElem?_of_child? (h : IsArena nodes) {parent child : Nat} {segment : String}
    (hchild : PathTree.child? nodes parent segment = some child) :
    ∃ found, nodes[child]? = some found :=
  ⟨_, Array.getElem?_eq_getElem (h.child?_bounds hchild).2⟩

theorem yields_walk (h : IsArena nodes) {current : Nat} (hcurrent : current < nodes.size)
    (segs : List String) :
    (walk nodes segs current).Yields (PathTree.walk nodes current segs) [] := by
  induction segs generalizing current with
  | nil => exact .pure _
  | cons segment rest ih =>
    rw [walk, PathTree.walk, List.foldlM_cons]
    refine (yields_child? hcurrent rfl).bind ?_
    cases hchild : PathTree.child? nodes current segment with
    | none => exact .pure _
    | some child => exact ih (h.child?_bounds hchild).2

theorem yields_addChild {parent : Nat} (hparent : parent < nodes.size) (segment : String)
    (new : TreeNode) : (addChild nodes parent segment new).Yields
      (PathTree.addChild nodes parent segment new) [] := by
  -- the new node stands behind the parent, which can be read as before
  have hnode : (nodes.push new)[parent]? = some nodes[parent] := by
    rw [Array.getElem?_push, if_neg (Nat.ne_of_lt hparent), Array.getElem?_eq_getElem hparent]
  exact (yields_node hnode).bind_pure fun _ => PathTree.addChild nodes parent segment new

/-- An insertion reads inside the array, the nodes that it has made itself included. -/
theorem yields_insertFrom (path : String) (declaration : Json) (passed segs : List String)
    (h : IsArena nodes) {current : Nat} (hcurrent : current < nodes.size) :
    (insertFrom path declaration passed segs nodes current).Yields
      (PathTree.insertFrom path declaration passed segs nodes current) [] := by
  fun_induction PathTree.insertFrom path declaration passed segs nodes current with
  | case1 => exact .pure _
  | case2 passed last nodes current hchild =>
    exact (yields_child? hcurrent hchild).bind ((yields_addChild hcurrent last _).bind (.pure _))
  | case3 passed last nodes current existing hchild below hbranch =>
    exact (yields_child? hcurrent hchild).bind ((yields_node hbranch).bind (.pure _))
  | case4 passed last nodes current existing hchild hleaf =>
    obtain ⟨found, hfound⟩ := exists_getElem?_of_child? h hchild
    refine (yields_child? hcurrent hchild).bind ((yields_node hfound).bind ?_)
    cases found with
    | branch below => exact absurd hfound (hleaf below)
    | leaf old => exact .pure _
  | case5 passed segment rest nodes current hrest passed' hchild ih =>
    -- the way goes on in the node that has just been made
    have hgrown : IsArena (PathTree.addChild nodes current segment (.branch [])) :=
      h.addChild hcurrent segment rfl
    rw [insertFrom]
    · exact (yields_child? hcurrent hchild).bind ((yields_addChild hcurrent segment _).bind
        (ih hgrown (by simp [PathTree.addChild])))
    · exact hrest
  | case6 passed segment rest nodes current hrest passed' child hchild existing hleaf =>
    rw [insertFrom]
    · exact (yields_child? hcurrent hchild).bind ((yields_node hleaf).bind (.pure _))
    · exact hrest
  | case7 passed segment rest nodes current hrest passed' child hchild hbranch ih =>
    obtain ⟨found, hfound⟩ := exists_getElem?_of_child? h hchild
    rw [insertFrom]
    · refine (yields_child? hcurrent hchild).bind ((yields_node hfound).bind ?_)
      cases found with
      | leaf existing => exact absurd hfound (hbranch existing)
      | branch below => exact ih h (h.child?_bounds hchild).2
    · exact hrest

end

section

variable (tree : PathTree)

/-- Look-up never reads outside the array. -/
theorem yields_get? (path : String) : (get? tree.nodes path).Yields (tree.get? path) [] :=
  (yields_walk tree.arena tree.arena.size_pos (segments path)).bind_pure
    fun found => found.bind fun id => tree.nodes[id]?

/-- Insertion never reads outside the array, whether it succeeds or not. -/
theorem yields_insert (path : String) (declaration : Json) :
    (insert tree.nodes path declaration).Yields
      ((tree.insert path declaration).1.nodes, (tree.insert path declaration).2) [] :=
  yields_insertFrom path declaration [] (segments path) tree.arena tree.arena.size_pos

end

/-! ## Listing and rendering -/

section

variable {tree : PathTree}

/-- A call may be made at a node when the nodes from it on are no more than the calls that may be
nested: there is room for it, and for calls at the children, which lie behind it. -/
theorem exists_depth_eq {node : Trie} (h : node.LiesIn tree.nodes) {depth : Nat}
    (hdepth : tree.nodes.size ≤ node.id + depth) : ∃ rest, depth = rest + 1 ∧
      ∀ child ∈ node.children, tree.nodes.size ≤ child.2.id + rest := by
  have hlt : node.id < tree.nodes.size := h.lt_size (id_mem_ids node)
  obtain ⟨rest, rfl⟩ : ∃ rest, depth = rest + 1 := Nat.exists_eq_add_one.2 (by omega)
  refine ⟨rest, rfl, fun child hchild => ?_⟩
  cases node with
  | leaf => exact absurd hchild List.not_mem_nil
  | branch id children =>
    have hbehind : id < child.2.id :=
      (tree.arena.forward h.getElem? (child.1, child.2.id) (List.mem_map.2 ⟨_, hchild, rfl⟩)).1
    have hid : (Trie.branch id children).id = id := rfl
    omega

/-- The rendering of a trie in the array comes to its end and visits each node of the trie once. -/
theorem yields_render {node : Trie} (h : node.LiesIn tree.nodes) {depth : Nat}
    (hdepth : tree.nodes.size ≤ node.id + depth) :
    (render tree.nodes depth node.id).Yields (tree.render node.id) node.ids := by
  induction node using Trie.induction generalizing depth with
  | leaf id declaration =>
    have hself : tree.nodes[id]? = some (.leaf declaration) := h.getElem?
    obtain ⟨rest, rfl, _⟩ := exists_depth_eq h hdepth
    rw [render]
    simp only [Trie.id, PathTree.render_leaf hself]
    exact (yields_visit id).bind ((yields_node hself).bind (.pure _))
  | branch id children ih =>
    obtain ⟨hself, hbelow⟩ := LiesIn.branch_iff.1 h
    obtain ⟨rest, rfl, hrest⟩ := exists_depth_eq h hdepth
    have hfields := Yields.mapM fun child hchild =>
      (ih child hchild (hbelow child hchild) (hrest child hchild)).bind_pure
        fun json => (child.1, json)
    rw [render]
    simp only [Trie.id, PathTree.render_branch hself, ids_branch, idsBelow_eq]
    refine (yields_visit id).bind ((yields_node hself).bind ?_)
    simp only [links, List.mapM_map, List.map_map]
    exact hfields.bind_pure Json.obj

/-- The listing of a branch in the array comes to its end and visits each node of its trie once. -/
theorem yields_collectLeaves {id : Nat} {children : Entries Trie} (lead : String)
    (h : (Trie.branch id children).LiesIn tree.nodes) {depth : Nat}
    (hdepth : tree.nodes.size ≤ id + depth) :
    (collectLeaves tree.nodes depth id lead).Yields (tree.collectLeaves id lead)
      (ids (.branch id children)) := by
  generalize hnode : Trie.branch id children = node at h
  induction node using Trie.induction generalizing id children lead depth with
  | leaf => cases hnode
  | branch id children ih =>
    cases hnode
    obtain ⟨hself, hbelow⟩ := LiesIn.branch_iff.1 h
    obtain ⟨rest, rfl, hrest⟩ := exists_depth_eq h hdepth
    rw [collectLeaves, PathTree.collectLeaves_branch hself, ids_branch, idsBelow_eq]
    refine (yields_visit id).bind ((yields_node hself).bind ?_)
    simp only [links, List.mapM_map, List.flatMap_map]
    -- a child is read here, and a branch once more when its own turn comes
    refine (Yields.mapM fun child hchild => ?_).bind_pure List.flatten
    obtain ⟨segment, child⟩ := child
    have hlies := hbelow _ hchild
    cases child with
    | leaf leafId declaration =>
      have hleaf : tree.nodes[leafId]? = some (.leaf declaration) := hlies.getElem?
      simp only [Trie.id, hleaf]
      exact (yields_node hleaf).bind ((yields_visit leafId).bind (.pure _))
    | branch below kids =>
      have hbranch : tree.nodes[below]? = some (.branch (links kids)) := hlies.getElem?
      simp only [Trie.id, hbranch]
      exact (yields_node hbranch).bind
        (ih _ hchild (extend lead segment) (hrest _ hchild) rfl hlies)

end

end Tour

end RecordSchema
