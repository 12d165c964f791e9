import RecordSchema.Proofs.Arena
import RecordSchema.Proofs.Reshaping

/-!
# Erasing declarations

A descriptor keeps the options that it was made from, and the tree of a schema keeps the declaration
of each path. Nothing that a schema answers depends on them: when they are erased, at all levels, it
finds the same fields, and it compiles the same statements and builds the same documents. So two
schemas that are the same without them give the same answers.

## Main definitions

* `PathTree.erased`, `erasing`: the change of a tree, and of a single descriptor and schema.
* `Descriptor.erased`, `Element.erased`, `Schema.erased`: without declarations, on all levels.
* `Descriptor.AnswersAlike`, `Schema.AnswersAlike`: whether the same is answered.

## Main statements

* `PathTree.insert_erased`, `PathTree.leafPaths_erased`: what a tree does without declarations.
* `Schema.select_erased`, `Schema.insert_erased`, `Schema.build_erased`: what a schema does.
* `Schema.answersAlike_of_erased`: the same schema without declarations answers the same.
-/

namespace RecordSchema

/-! ## Trees -/

namespace TreeNode

/-- The node without its declaration. -/
def erased : TreeNode → TreeNode
  | branch children => branch children
  | leaf _ => leaf .null

@[simp] theorem children_erased (node : TreeNode) : node.erased.children = node.children := by
  cases node <;> rfl

theorem erased_link (segment : String) (child : Nat) (node : TreeNode) :
    (node.link segment child).erased = node.erased.link segment child := by
  cases node <;> rfl

end TreeNode

theorem IsArena.erased {nodes : Array TreeNode} (h : IsArena nodes) :
    IsArena (nodes.map TreeNode.erased) where
  root := by
    obtain ⟨children, hroot⟩ := h.root
    exact ⟨children, by rw [Array.getElem?_map, hroot]; rfl⟩
  forward := by
    intro id node hnode child hchild
    rw [Array.getElem?_map] at hnode
    obtain ⟨old, hold, rfl⟩ := Option.map_eq_some_iff.1 hnode
    rw [TreeNode.children_erased] at hchild
    rw [Array.size_map]
    exact h.forward hold child hchild

namespace PathTree

/-- The tree without the declarations of its leaves. -/
def erased (tree : PathTree) : PathTree :=
  ⟨tree.nodes.map TreeNode.erased, tree.arena.erased⟩

theorem child?_erased (nodes : Array TreeNode) (parent : Nat) (segment : String) :
    child? (nodes.map TreeNode.erased) parent segment = child? nodes parent segment := by
  rw [child?, child?, Array.getElem?_map]
  cases nodes[parent]? with
  | none => rfl
  | some node => simp

theorem walk_erased (nodes : Array TreeNode) (start : Nat) (segs : List String) :
    walk (nodes.map TreeNode.erased) start segs = walk nodes start segs := by
  rw [walk, walk, funext fun parent => funext (child?_erased nodes parent)]

theorem addChild_erased (nodes : Array TreeNode) (parent : Nat) (segment : String)
    (node : TreeNode) : addChild (nodes.map TreeNode.erased) parent segment node.erased
      = (addChild nodes parent segment node).map TreeNode.erased := by
  refine Array.ext_getElem? fun id => ?_
  simp only [addChild, ← Array.map_push, Array.size_map, Array.getElem?_modify, Array.getElem?_map]
  split
  · cases (nodes.push node)[id]? <;> simp [TreeNode.erased_link]
  · rfl

theorem getElem?_erased_eq_branch_iff {nodes : Array TreeNode} {id : Nat}
    {children : Entries Nat} : (nodes.map TreeNode.erased)[id]? = some (.branch children) ↔
      nodes[id]? = some (.branch children) := by
  rw [Array.getElem?_map]
  rcases nodes[id]? with _ | children | declaration <;> simp [TreeNode.erased]

theorem exists_getElem?_erased_eq_leaf_iff {nodes : Array TreeNode} {id : Nat} :
    (∃ declaration, (nodes.map TreeNode.erased)[id]? = some (.leaf declaration)) ↔
      ∃ declaration, nodes[id]? = some (.leaf declaration) := by
  rw [Array.getElem?_map]
  rcases nodes[id]? with _ | children | declaration <;> simp [TreeNode.erased]

theorem isSome_declaration?_erased (tree : PathTree) (path : String) :
    (tree.erased.declaration? path).isSome = (tree.declaration? path).isSome := by
  rw [declaration?, declaration?, get?, get?, erased, walk_erased]
  rcases walk tree.nodes rootId (Path.segments path) with _ | id
  · rfl
  · rw [Option.bind_some, Option.bind_some, Array.getElem?_map]
    rcases tree.nodes[id]? with _ | children | declaration <;> rfl

/-- An insertion does not look at declarations, but for the text of an error. -/
theorem insertFrom_erased (path : String) (declaration : Json) (passed segs : List String)
    (nodes : Array TreeNode) (current : Nat) :
    let erased := insertFrom path .null passed segs (nodes.map TreeNode.erased) current
    let done := insertFrom path declaration passed segs nodes current
    erased.1 = done.1.map TreeNode.erased ∧ erased.2.toOption = done.2.toOption := by
  fun_induction insertFrom path declaration passed segs nodes current with
  | case1 => exact ⟨rfl, rfl⟩
  | case2 passed last nodes current hchild =>
    simp only [insertFrom, child?_erased, hchild, Array.size_map]
    exact ⟨addChild_erased nodes current last (.leaf declaration), trivial⟩
  | case3 passed last nodes current existing hchild children hbranch =>
    simp only [insertFrom, child?_erased, hchild, Array.getElem?_map, hbranch, Option.map_some,
      TreeNode.erased, and_self]
  | case4 passed last nodes current existing hchild hleaf =>
    have hleaf' : ∀ children, (nodes.map TreeNode.erased)[existing]? ≠ some (.branch children) :=
      fun children h => hleaf children (getElem?_erased_eq_branch_iff.1 h)
    simp only [insertFrom, child?_erased, hchild]
    exact ⟨by rw [Array.map_setIfInBounds]; rfl, trivial⟩
  | case5 passed segment rest nodes current hrest passed' hchild ih =>
    have hnew : addChild (nodes.map TreeNode.erased) current segment (.branch [])
        = (addChild nodes current segment (.branch [])).map TreeNode.erased :=
      addChild_erased nodes current segment (.branch [])
    simp only [insertFrom, child?_erased, hchild, Array.size_map, hnew]
    exact ih
  | case6 passed segment rest nodes current hrest passed' child hchild existing hleaf =>
    simp [insertFrom, child?_erased, hchild, hleaf, TreeNode.erased, Except.toOption]
  | case7 passed segment rest nodes current hrest passed' child hchild hbranch ih =>
    have hbranch' : ∀ existing, (nodes.map TreeNode.erased)[child]? ≠ some (.leaf existing) := by
      intro existing h
      obtain ⟨old, hold⟩ := exists_getElem?_erased_eq_leaf_iff.1 ⟨existing, h⟩
      exact hbranch old hold
    simp only [insertFrom, child?_erased, hchild]
    exact ih

/-- An insertion into trees that differ in declarations only leads to such trees again. -/
theorem insert_erased (tree : PathTree) (path : String) (declaration : Json) :
    (tree.erased.insert path .null).1 = (tree.insert path declaration).1.erased ∧
    (tree.erased.insert path .null).2.toOption = (tree.insert path declaration).2.toOption := by
  obtain ⟨hnodes, hdone⟩ :=
    insertFrom_erased path declaration [] (Path.segments path) tree.nodes rootId
  refine ⟨?_, hdone⟩
  rw [insert, insert, erased, PathTree.mk.injEq]
  exact hnodes

/-- Trees that differ in declarations only take the same paths, and differ in nothing else
afterwards. -/
theorem insert_congr {tree other : PathTree} (h : tree.erased = other.erased) (path : String)
    (declaration declaration' : Json) :
    (tree.insert path declaration).1.erased = (other.insert path declaration').1.erased ∧
    (tree.insert path declaration).2.toOption = (other.insert path declaration').2.toOption := by
  obtain ⟨htree, hdone⟩ := tree.insert_erased path declaration
  obtain ⟨hother, hdone'⟩ := other.insert_erased path declaration'
  rw [← h] at hother hdone'
  exact ⟨htree.symm.trans hother, hdone.symm.trans hdone'⟩

theorem collectLeaves_of_not_branch {tree : PathTree} {id : Nat}
    (h : ∀ children, tree.nodes[id]? ≠ some (.branch children)) (lead : String) :
    collectLeaves tree id lead = [] := by
  rw [collectLeaves]
  split
  · rename_i children hbranch
    exact absurd hbranch (h children)
  · rfl

theorem collectLeaves_erased (tree : PathTree) (id : Nat) (lead : String) :
    collectLeaves tree.erased id lead = collectLeaves tree id lead := by
  by_cases hbranch : ∃ children, tree.nodes[id]? = some (.branch children)
  · obtain ⟨children, hnode⟩ := hbranch
    rw [collectLeaves_branch hnode, collectLeaves_branch (getElem?_erased_eq_branch_iff.2 hnode)]
    refine List.flatMap_congr fun entry hentry => ?_
    -- children lie behind their parents, so the recursion ends at the last node
    have hlt := tree.arena.forward hnode entry hentry
    rw [erased, Array.getElem?_map]
    rcases tree.nodes[entry.2]? with _ | below | declaration
    · rfl
    · exact collectLeaves_erased tree entry.2 _
    · rfl
  · have hnone := not_exists.1 hbranch
    rw [collectLeaves_of_not_branch hnone, collectLeaves_of_not_branch fun children h =>
      hnone children (getElem?_erased_eq_branch_iff.1 h)]
termination_by tree.nodes.size - id

/-- The declared paths do not depend on declarations. -/
theorem leafPaths_erased (tree : PathTree) : tree.erased.leafPaths = tree.leafPaths :=
  tree.collectLeaves_erased rootId ""

end PathTree

/-! ## Descriptors and schemas -/

/-- Erased declarations, which a conversion does not see. -/
def erasing : Reshaping where
  onField field := { field with options := [] }
  onSchema schema := { schema with tree := schema.tree.erased }
  path_onField _ := rfl
  type_onField _ := rfl
  style_onField _ := rfl
  element_onField _ := rfl
  fields_onSchema _ := rfl
  nested_onSchema _ := rfl

/-- The descriptor without the declaration it was made from, on all levels. -/
def Descriptor.erased (descriptor : Descriptor) : Descriptor :=
  erasing.descriptor descriptor

/-- The items without declarations. -/
def Element.erased (element : Element) : Element :=
  erasing.element element

/-- The schema without the declarations it was made from. -/
def Schema.erased (schema : Schema) : Schema :=
  erasing.schema schema

section equations

variable (field : Descriptor) (schema : Schema)

/-- Only the items and the declaration of a descriptor change. -/
theorem Descriptor.erased_eq : field.erased = { field with
    element := field.element.map Element.erased
    options := [] } :=
  erasing.descriptor_eq field

/-- Only the descriptors and the tree of a schema change. -/
theorem Schema.erased_eq : schema.erased = { schema with
    fields := schema.fields.map fun entry => (entry.1, entry.2.erased)
    tree := schema.tree.erased } :=
  erasing.schema_eq schema

@[simp] theorem Descriptor.column_erased : field.erased.column = field.column := by
  rw [erased_eq]

@[simp] theorem Descriptor.type_erased : field.erased.type = field.type :=
  erasing.type_eq field

@[simp] theorem Descriptor.default_erased : field.erased.default = field.default := by
  rw [erased_eq]

@[simp] theorem Descriptor.validators_erased : field.erased.validators = field.validators := by
  rw [erased_eq]

@[simp] theorem Schema.nested_erased : schema.erased.nested = schema.nested :=
  erasing.nested_eq schema

@[simp] theorem Schema.options_erased : schema.erased.options = schema.options := by
  rw [erased_eq]

@[simp] theorem Schema.paths_erased : schema.erased.paths = schema.paths :=
  erasing.paths_eq schema

@[simp] theorem Schema.leafPaths_erased : schema.erased.leafPaths = schema.leafPaths := by
  rw [leafPaths, erased_eq]
  exact PathTree.leafPaths_erased schema.tree

theorem Schema.find?_erased (path : String) :
    schema.erased.find? path = (schema.find? path).map Descriptor.erased :=
  erasing.find?_eq schema path

end equations

/-- A path leads to the same, without declarations. -/
theorem Schema.path?_erased (schema : Schema) (path : String) :
    schema.erased.path? path = (schema.path? path).map Descriptor.erased :=
  erasing.path?_eq schema path

/-! ## What a schema does without declarations -/

namespace Descriptor

variable (field : Descriptor)

theorem cast_erased (value : Json) : field.erased.cast value = field.cast value :=
  erasing.cast_eq field value

theorem isSelectable_erased : field.erased.isSelectable = field.isSelectable :=
  erasing.isSelectable_eq field

theorem check_erased (value record : Json) :
    field.erased.check value record = field.check value record := by
  rw [check, check, erased_eq]

theorem defaultValue_erased : field.erased.defaultValue = field.defaultValue := by
  rw [defaultValue, defaultValue, default_erased, type_erased]

end Descriptor

namespace Schema

variable (schema : Schema)

theorem checkListed_erased (listed : List String) :
    schema.erased.checkListed listed = schema.checkListed listed :=
  erasing.checkListed_eq schema listed

theorem selectedColumns_erased (listed : List String) :
    schema.erased.selectedColumns listed = schema.selectedColumns listed := by
  have hfind : schema.erased.find? = fun path => (schema.find? path).map Descriptor.erased :=
    funext schema.find?_erased
  have hselectable : Descriptor.isSelectable ∘ Descriptor.erased = Descriptor.isSelectable :=
    funext Descriptor.isSelectable_erased
  have hcolumn : Descriptor.column ∘ Descriptor.erased = Descriptor.column :=
    funext Descriptor.column_erased
  rw [selectedColumns, leafPaths_erased, hfind, ← List.map_filterMap, List.filter_map, hselectable,
    List.map_map, hcolumn, ← selectedColumns]

theorem columnList_erased (listed : List String) :
    schema.erased.columnList listed = schema.columnList listed := by
  rw [columnList, columnList, checkListed_erased, selectedColumns_erased]

theorem conditions_erased (criteria : List (String × Json)) :
    schema.erased.conditions criteria = schema.conditions criteria := by
  induction criteria with
  | nil => rfl
  | cons criterion rest ih =>
    rw [conditions, conditions, find?_erased, ih]
    cases schema.find? criterion.1 with
    | none => rfl
    | some field =>
      simp only [Option.map_some, bind, Except.bind, Descriptor.cast_erased,
        Descriptor.column_erased]

/-- A SELECT does not see declarations. -/
theorem select_erased (settings : CompilerSettings) (table : String) (criteria : Json)
    (listed : List String) (limit : Nat) :
    schema.erased.select settings table criteria listed limit
      = schema.select settings table criteria listed limit := by
  unfold select
  simp only [columnList_erased, conditions_erased]

theorem draftField_erased (record : Json) (listed : List String) :
    schema.erased.draftField record listed = schema.draftField record listed := by
  funext draft path
  unfold draftField
  rw [find?_erased]
  cases schema.find? path with
  | none => rfl
  | some field =>
    simp only [Option.map_some, Descriptor.check_erased, Descriptor.cast_erased,
      Descriptor.column_erased]

/-- An INSERT does not see declarations. -/
theorem insert_erased (table : String) (record : Json) (listed : List String) :
    schema.erased.insert table record listed = schema.insert table record listed := by
  unfold insert
  rw [checkListed_erased, draftField_erased, leafPaths_erased]

theorem ofProjection_erased (projection : Option Projection) :
    Selection.ofProjection schema.erased projection
      = Selection.ofProjection schema projection :=
  erasing.ofProjection_eq schema projection

/-- A document does not show declarations. -/
theorem build_erased (projection : Option Projection) :
    (schema.erased.build projection).1 = (schema.build projection).1 := by
  have hwanted : ∀ selection path field, wantedDefault selection path (Descriptor.erased field)
      = wantedDefault selection path field := by
    intro selection path field
    rw [wantedDefault, wantedDefault, Descriptor.defaultValue_erased]
  unfold build
  rw [ofProjection_erased]
  simp only [erased_eq, List.foldl_map, hwanted]

end Schema

/-! ## The same answers -/

/-- Whether two descriptors agree in all that a field is asked for. -/
structure Descriptor.AnswersAlike (field other : Descriptor) : Prop where
  /-- The column. -/
  column_eq : field.column = other.column
  /-- The type. -/
  type_eq : field.type = other.type
  /-- The default. -/
  default_eq : field.default = other.default
  /-- The checks, in order. -/
  validators_eq : field.validators = other.validators
  /-- The outcome of each check. -/
  check_eq : ∀ value record, field.check value record = other.check value record
  /-- The stored form of each value. -/
  cast_eq : ∀ value, field.cast value = other.cast value

/-- Whether two schemas agree in all that a schema is asked for. -/
structure Schema.AnswersAlike (schema other : Schema) : Prop where
  /-- The declared paths, in order. -/
  paths_eq : schema.paths = other.paths
  /-- The declared paths, in the order of the tree. -/
  leafPaths_eq : schema.leafPaths = other.leafPaths
  /-- The registered parents, in order. -/
  nested_eq : schema.nested = other.nested
  /-- What a path leads to. -/
  path?_alike : ∀ path, Option.Rel Descriptor.AnswersAlike (schema.path? path) (other.path? path)
  /-- The column list under a list of fields. -/
  columnList_eq : ∀ listed, schema.columnList listed = other.columnList listed
  /-- The SELECT for any arguments. -/
  select_eq : ∀ settings table criteria listed limit,
    schema.select settings table criteria listed limit
      = other.select settings table criteria listed limit
  /-- The INSERT for any arguments. -/
  insert_eq : ∀ table record listed,
    schema.insert table record listed = other.insert table record listed
  /-- The document for any projection. -/
  build_eq : ∀ projection, (schema.build projection).1 = (other.build projection).1

theorem Descriptor.answersAlike_of_erased {field other : Descriptor}
    (h : field.erased = other.erased) : field.AnswersAlike other where
  column_eq := by rw [← column_erased, h, column_erased]
  type_eq := by rw [← type_erased, h, type_erased]
  default_eq := by rw [← default_erased, h, default_erased]
  validators_eq := by rw [← validators_erased, h, validators_erased]
  check_eq value record := by rw [← check_erased, h, check_erased]
  cast_eq value := by rw [← cast_erased, h, cast_erased]

namespace Schema

variable {schema other : Schema}

/-- A path leads to the same in both schemas, but for declarations. -/
theorem path?_alike_of_erased (h : schema.erased = other.erased) (path : String) :
    Option.Rel Descriptor.AnswersAlike (schema.path? path) (other.path? path) := by
  have hpath : (schema.path? path).map Descriptor.erased
      = (other.path? path).map Descriptor.erased := by
    rw [← path?_erased, h, path?_erased]
  rcases hfield : schema.path? path with _ | field <;>
    rcases hother : other.path? path with _ | field' <;> rw [hfield, hother] at hpath
  · exact .none
  · cases hpath
  · cases hpath
  · exact .some (Descriptor.answersAlike_of_erased (Option.some.inj hpath))

/-- Schemas that are the same without declarations give the same answers. -/
theorem answersAlike_of_erased (h : schema.erased = other.erased) : schema.AnswersAlike other where
  paths_eq := by rw [← paths_erased, h, paths_erased]
  leafPaths_eq := by rw [← leafPaths_erased, h, leafPaths_erased]
  nested_eq := by rw [← nested_erased, h, nested_erased]
  path?_alike := path?_alike_of_erased h
  columnList_eq listed := by rw [← columnList_erased, h, columnList_erased]
  select_eq settings table criteria listed limit := by rw [← select_erased, h, select_erased]
  insert_eq table record listed := by rw [← insert_erased, h, insert_erased]
  build_eq projection := by rw [← build_erased, h, build_erased]

end Schema

end RecordSchema
