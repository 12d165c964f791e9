import RecordSchema.Error
import RecordSchema.Path

/-!
# The tree of declared paths

Declared paths share their leading segments, so they form a tree: a branch holds the next segments
in the order in which they were first declared, a leaf holds what was declared at its path. A path
cannot continue past a leaf, and a leaf cannot take the place of a branch.

Nodes lie in one array and name each other by their numbers, in the order of their creation; the
root is number 0. An insertion works on the array as it goes: a failure leaves whatever it has
made so far.

## Main definitions

* `TreeNode`, `PathTree`: a node and the whole tree.
* `PathTree.insert`: declares a path, or says which declared path is in the way.
* `PathTree.get?`: the node at a path.
* `PathTree.leafPaths`: the declared paths, depth first.
* `PathTree.toJson`: the tree as nested objects.

## Main statements

* `IsArena.insertFrom`: an insertion, successful or not, keeps children behind their parents.

## Termination

Insertion and look-up descend on the segments of the path. The listings follow the numbers of
children, which grow and stay within the array.
-/

namespace RecordSchema

/-- A node of the tree. -/
inductive TreeNode where
  /-- A parent of declared paths: its next segments with the numbers of their nodes. -/
  | branch (children : Entries Nat)
  /-- The end of a declared path. -/
  | leaf (declaration : Json)

namespace TreeNode

/-- The next segments; a leaf has none. -/
def children : TreeNode → Entries Nat
  | branch children => children
  | leaf _ => []

/-- The node with one more child; a leaf takes none. -/
def link (segment : String) (child : Nat) : TreeNode → TreeNode
  | branch children => branch (children.put segment child)
  | leaf declaration => leaf declaration

/-- The type that a declaration names, for use in a sentence. -/
def declaredTypeName (declaration : Json) : String :=
  match (declaration.get? "type").getD declaration with
  | .str name => name
  | .arr _ => "Collection"
  | _ => "Mixed"

end TreeNode

/-- Whether the root is a branch and every child lies behind its parent, within the array. -/
structure IsArena (nodes : Array TreeNode) : Prop where
  /-- The root is a branch. -/
  root : ∃ children, nodes[0]? = some (.branch children)
  /-- Children lie behind their parent. -/
  forward : ∀ {id : Nat} {node : TreeNode}, nodes[id]? = some node →
    ∀ child ∈ node.children, id < child.2 ∧ child.2 < nodes.size

/-- The tree of declared paths. -/
structure PathTree where
  /-- The nodes, by number. -/
  nodes : Array TreeNode
  /-- Following children comes to an end. -/
  arena : IsArena nodes

namespace PathTree

/-- The number of the root. -/
def rootId : Nat := 0

/-- The number of the node under a segment. -/
def child? (nodes : Array TreeNode) (parent : Nat) (segment : String) : Option Nat :=
  nodes[parent]?.bind fun node => node.children.get? segment

/-- Adds a node and names it in its parent. -/
def addChild (nodes : Array TreeNode) (parent : Nat) (segment : String) (node : TreeNode) :
    Array TreeNode :=
  (nodes.push node).modify parent (TreeNode.link segment nodes.size)

/-- Inserts a leaf for `path` below the branch `current` whose own segments are `passed`: the nodes
afterwards, and the number of the leaf. Missing branches are made on the way. -/
def insertFrom (path : String) (declaration : Json) (passed : List String) :
    List String → Array TreeNode → Nat → Array TreeNode × Except SchemaError Nat
  | [], nodes, _ => (nodes, .error (.invalidPath path))
  | [last], nodes, current =>
    match child? nodes current last with
    | none => (addChild nodes current last (.leaf declaration), .ok nodes.size)
    | some existing =>
      match nodes[existing]? with
      | some (.branch _) => (nodes, .error (.nestedConflict path))
      | _ => (nodes.setIfInBounds existing (.leaf declaration), .ok existing)
  | segment :: rest, nodes, current =>
    let passed := passed ++ [segment]
    match child? nodes current segment with
    | none =>
      insertFrom path declaration passed rest (addChild nodes current segment (.branch []))
        nodes.size
    | some child =>
      match nodes[child]? with
      | some (.leaf existing) =>
        (nodes, .error (.pathConflict path (Path.ofSegments passed)
          (TreeNode.declaredTypeName existing)))
      | _ => insertFrom path declaration passed rest nodes child

section addChild

variable (nodes : Array TreeNode) (parent : Nat) (segment : String) (node : TreeNode)

@[simp] theorem size_addChild : (addChild nodes parent segment node).size = nodes.size + 1 := by
  simp [addChild]

variable {nodes parent}

theorem getElem?_addChild_parent {old : TreeNode} (h : nodes[parent]? = some old) :
    (addChild nodes parent segment node)[parent]? = some (old.link segment nodes.size) := by
  have hlt := (Array.getElem?_eq_some_iff.1 h).1
  have hne : parent ≠ nodes.size := Nat.ne_of_lt hlt
  rw [addChild, Array.getElem?_modify, if_pos rfl, Array.getElem?_push, if_neg hne, h]
  rfl

theorem getElem?_addChild_new (h : parent < nodes.size) :
    (addChild nodes parent segment node)[nodes.size]? = some node := by
  rw [addChild, Array.getElem?_modify, if_neg (Nat.ne_of_lt h), Array.getElem?_push, if_pos rfl]

theorem getElem?_addChild_of_ne {id : Nat} (hparent : id ≠ parent) (hnew : id ≠ nodes.size) :
    (addChild nodes parent segment node)[id]? = nodes[id]? := by
  rw [addChild, Array.getElem?_modify, if_neg (Ne.symm hparent), Array.getElem?_push, if_neg hnew]

end addChild

end PathTree

/-! ## Children lie behind their parents -/

namespace IsArena

variable {nodes : Array TreeNode}

theorem size_pos (h : IsArena nodes) : 0 < nodes.size := by
  obtain ⟨children, hroot⟩ := h.root
  exact (Array.getElem?_eq_some_iff.1 hroot).1

theorem child?_bounds (h : IsArena nodes) {parent child : Nat} {segment : String}
    (hchild : PathTree.child? nodes parent segment = some child) :
    parent < child ∧ child < nodes.size := by
  obtain ⟨node, hnode, hget⟩ := Option.bind_eq_some_iff.1 hchild
  exact h.forward hnode _ (Entries.mem_of_get? hget)

/-- A new node without children may be named in any node. -/
theorem addChild (h : IsArena nodes) {parent : Nat} (hparent : parent < nodes.size)
    (segment : String) {node : TreeNode} (hnode : node.children = []) :
    IsArena (PathTree.addChild nodes parent segment node) := by
  refine ⟨?_, ?_⟩
  · obtain ⟨children, hroot⟩ := h.root
    by_cases hzero : parent = 0
    · subst hzero
      exact ⟨_, PathTree.getElem?_addChild_parent segment node hroot⟩
    · exact ⟨children, by
        rw [PathTree.getElem?_addChild_of_ne segment node (Ne.symm hzero)
          (Nat.ne_of_lt h.size_pos), hroot]⟩
  · intro id new hnew child hchild
    rw [PathTree.size_addChild]
    by_cases hid : id = nodes.size
    · subst hid
      rw [PathTree.getElem?_addChild_new segment node hparent] at hnew
      cases hnew
      rw [hnode] at hchild
      exact absurd hchild List.not_mem_nil
    · by_cases hidp : id = parent
      · subst hidp
        obtain ⟨old, hold⟩ : ∃ old, nodes[id]? = some old :=
          ⟨_, Array.getElem?_eq_getElem hparent⟩
        rw [PathTree.getElem?_addChild_parent segment node hold] at hnew
        cases hnew
        cases old with
        | leaf declaration => exact absurd hchild List.not_mem_nil
        | branch children =>
          rcases Entries.mem_put hchild with hmem | rfl
          · have := h.forward hold child hmem
            omega
          · exact ⟨by omega, by simp⟩
      · rw [PathTree.getElem?_addChild_of_ne segment node hidp hid] at hnew
        have := h.forward hnew child hchild
        omega

/-- A node that is no branch may become a leaf. -/
theorem setLeaf (h : IsArena nodes) {id : Nat}
    (hid : ∀ children, nodes[id]? ≠ some (.branch children)) (declaration : Json) :
    IsArena (nodes.setIfInBounds id (.leaf declaration)) := by
  refine ⟨?_, ?_⟩
  · obtain ⟨children, hroot⟩ := h.root
    have hne : id ≠ 0 := fun he => hid children (he ▸ hroot)
    exact ⟨children, by rw [Array.getElem?_setIfInBounds_ne hne, hroot]⟩
  · intro other node hnode child hchild
    rw [Array.size_setIfInBounds]
    rw [Array.getElem?_setIfInBounds] at hnode
    split at hnode
    · split at hnode
      · cases hnode
        exact absurd hchild List.not_mem_nil
      · cases hnode
    · exact h.forward hnode child hchild

/-- An insertion keeps children behind their parents, whether it succeeds or not. -/
theorem insertFrom (path : String) (declaration : Json) (passed segments : List String)
    (h : IsArena nodes) {current : Nat} (hcurrent : current < nodes.size) :
    IsArena (PathTree.insertFrom path declaration passed segments nodes current).1 := by
  fun_induction PathTree.insertFrom path declaration passed segments nodes current with
  | case1 => exact h
  | case2 _ last nodes current hchild => exact h.addChild hcurrent last rfl
  | case3 => exact h
  | case4 _ last nodes current existing hchild hleaf => exact h.setLeaf (fun c hc => hleaf c hc) _
  | case5 _ segment rest nodes current hrest passed hchild ih =>
    refine ih (h.addChild hcurrent segment rfl) ?_
    simp [PathTree.addChild]
  | case6 => exact h
  | case7 _ segment rest nodes current hrest passed child hchild hleaf ih =>
    exact ih h (h.child?_bounds hchild).2

end IsArena

namespace PathTree

/-- The tree of a root without children. -/
def empty : PathTree where
  nodes := #[.branch []]
  arena := {
    root := ⟨[], rfl⟩
    forward := by
      intro id node hnode child hchild
      cases id with
      | zero =>
        cases hnode
        exact absurd hchild List.not_mem_nil
      | succ id => cases hnode }

instance : Inhabited PathTree := ⟨empty⟩

/-- Declares a path: the tree afterwards, and the number of its leaf. A path declared before keeps
its place and number. -/
def insert (tree : PathTree) (path : String) (declaration : Json) :
    PathTree × Except SchemaError Nat :=
  let done := insertFrom path declaration [] (Path.segments path) tree.nodes rootId
  (⟨done.1, tree.arena.insertFrom path declaration [] (Path.segments path) tree.arena.size_pos⟩,
    done.2)

/-- The number of the node reached by following segments. -/
def walk (nodes : Array TreeNode) (start : Nat) (segments : List String) : Option Nat :=
  segments.foldlM (child? nodes) start

/-- The node at a path. -/
def get? (tree : PathTree) (path : String) : Option TreeNode :=
  (walk tree.nodes rootId (Path.segments path)).bind fun id => tree.nodes[id]?

/-- The declared paths below the node `id`, which stands at `lead`. -/
def collectLeaves (tree : PathTree) (id : Nat) (lead : String) : List String :=
  match h : tree.nodes[id]? with
  | some (.branch children) =>
    children.attach.flatMap fun ⟨(segment, child), hchild⟩ =>
      have := tree.arena.forward h _ hchild
      match tree.nodes[child]? with
      | some (.leaf _) => [Path.extend lead segment]
      | some (.branch _) => collectLeaves tree child (Path.extend lead segment)
      | none => []
  | _ => []
termination_by tree.nodes.size - id

/-- The declared paths, depth first, in the order of their declaration. -/
def leafPaths (tree : PathTree) : List String :=
  collectLeaves tree rootId ""

/-- The node `id` as nested objects, leaves as declared. -/
def render (tree : PathTree) (id : Nat) : Json :=
  match h : tree.nodes[id]? with
  | some (.leaf declaration) => declaration
  | some (.branch children) =>
    .obj (children.attach.map fun ⟨(segment, child), hchild⟩ =>
      have := tree.arena.forward h _ hchild
      (segment, render tree child))
  | none => .null
termination_by tree.nodes.size - id

/-- The tree as nested objects, leaves as declared. -/
def toJson (tree : PathTree) : Json :=
  render tree rootId

end PathTree

end RecordSchema
