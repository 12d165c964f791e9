import Mathlib.Data.List.Nodup
import Mathlib.Data.List.Perm.Basic
import RecordSchema.PathTree

/-!
# Tries

The nodes of a tree of paths, unfolded: a trie holds its children itself and not their numbers.
What an insertion does is said here as a relation between tries, one rule for each way it can go,
and so is what may be in its way. A rule that makes a branch has no counterpart among the
obstacles: behind a new branch nothing is in the way.

## Main definitions

* `Trie`, `Trie.find?`: a trie and the node that segments lead to.
* `Trie.leaves`: the leaves with their segments, depth first.
* `Grafts`: what an insertion makes of the children of a branch.
* `Blocked`: why nothing can be inserted.
* `IsTidy`: segments of a branch are distinct, and no branch below is empty.

## Main statements

* `Grafts.find?_self`, `Grafts.find?_between`, `Grafts.find?_of_not_prefix`: the inserted leaf is
  found, branches lead to it, and nothing else has changed.
* `Blocked.obstacle`, `Grafts.no_leaf_above`, `Grafts.no_branch_at`: what is in the way.
* `Grafts.perm_ids`: the numbers after an insertion.
* `IsTidy.graft`: insertion keeps a trie tidy.
* `mem_leaves_iff`, `nodup_leaves`: leaves are listed once, and just those that can be found.
-/

namespace RecordSchema

/-- A node with everything below it. -/
inductive Trie where
  /-- The end of a declared path. -/
  | leaf (id : Nat) (declaration : Json)
  /-- A parent of declared paths, with its next segments. -/
  | branch (id : Nat) (children : List (String × Trie))

namespace Trie

/-- The number of a node. -/
def id : Trie → Nat
  | leaf id _ => id
  | branch id _ => id

/-- The next segments; a leaf has none. -/
def children : Trie → Entries Trie
  | leaf _ _ => []
  | branch _ children => children

/-- The node reached by following segments. -/
def find? : List String → Trie → Option Trie
  | [], node => some node
  | segment :: rest, node => (node.children.get? segment).bind (find? rest)

mutual

/-- The node and all nodes below it. -/
def subtries : Trie → List Trie
  | leaf id declaration => [leaf id declaration]
  | branch id children => branch id children :: subtriesBelow children

/-- All nodes in a list of children. -/
def subtriesBelow : List (String × Trie) → List Trie
  | [] => []
  | (_, node) :: rest => subtries node ++ subtriesBelow rest

end

mutual

/-- The leaves below a node with their segments and declarations, depth first. -/
def leaves : Trie → List (List String × Json)
  | leaf _ declaration => [([], declaration)]
  | branch _ children => leavesBelow children

/-- The leaves in a list of children. -/
def leavesBelow : List (String × Trie) → List (List String × Json)
  | [] => []
  | (segment, node) :: rest =>
    (leaves node).map (fun leaf => (segment :: leaf.1, leaf.2)) ++ leavesBelow rest

end

/-- The numbers of a node and of all nodes below it. -/
def ids (node : Trie) : List Nat :=
  node.subtries.map id

/-- The numbers of all nodes in a list of children. -/
def idsBelow (children : Entries Trie) : List Nat :=
  (subtriesBelow children).map id

/-- Tries are built from the leaves up. -/
theorem induction {motive : Trie → Prop} (leaf : ∀ id declaration, motive (leaf id declaration))
    (branch : ∀ id children, (∀ child ∈ children, motive child.2) → motive (branch id children)) :
    ∀ node, motive node
  | .leaf id declaration => leaf id declaration
  | .branch id children => branch id children fun child hchild => by
      have hsize : sizeOf child.2 < sizeOf children := by
        have := List.sizeOf_lt_of_mem hchild
        obtain ⟨segment, node⟩ := child
        simp only [Prod.mk.sizeOf_spec] at this ⊢
        omega
      exact induction leaf branch child.2

theorem subtriesBelow_eq (children : Entries Trie) :
    subtriesBelow children = children.flatMap fun child => child.2.subtries := by
  induction children with
  | nil => rfl
  | cons head rest ih => rw [subtriesBelow, ih, List.flatMap_cons]

theorem leavesBelow_eq (children : Entries Trie) :
    leavesBelow children = children.flatMap fun child =>
      child.2.leaves.map fun leaf => (child.1 :: leaf.1, leaf.2) := by
  induction children with
  | nil => rfl
  | cons head rest ih => rw [leavesBelow, ih, List.flatMap_cons]

theorem leavesBelow_cons (segment : String) (node : Trie) (rest : Entries Trie) :
    leavesBelow ((segment, node) :: rest)
      = node.leaves.map (fun leaf => (segment :: leaf.1, leaf.2)) ++ leavesBelow rest :=
  rfl

theorem leavesBelow_append (front back : Entries Trie) :
    leavesBelow (front ++ back) = leavesBelow front ++ leavesBelow back := by
  rw [leavesBelow_eq, leavesBelow_eq, leavesBelow_eq, List.flatMap_append]

theorem idsBelow_eq (children : Entries Trie) :
    idsBelow children = children.flatMap fun child => child.2.ids := by
  rw [idsBelow, subtriesBelow_eq, List.map_flatMap]
  rfl

theorem idsBelow_perm {children others : Entries Trie} (h : children.Perm others) :
    (idsBelow children).Perm (idsBelow others) := by
  rw [idsBelow_eq, idsBelow_eq]
  exact h.flatMap_right _

theorem idsBelow_cons (child : String × Trie) (rest : Entries Trie) :
    idsBelow (child :: rest) = child.2.ids ++ idsBelow rest := by
  rw [idsBelow_eq, idsBelow_eq, List.flatMap_cons]

theorem idsBelow_append (front back : Entries Trie) :
    idsBelow (front ++ back) = idsBelow front ++ idsBelow back := by
  rw [idsBelow_eq, idsBelow_eq, idsBelow_eq, List.flatMap_append]

theorem idsBelow_singleton (segment : String) (node : Trie) :
    idsBelow [(segment, node)] = node.ids := by
  rw [idsBelow_cons]
  exact List.append_nil _

theorem ids_branch (id : Nat) (children : Entries Trie) :
    ids (branch id children) = id :: idsBelow children := by
  rw [ids, subtries, List.map_cons, idsBelow]
  rfl

theorem mem_subtries_self (node : Trie) : node ∈ node.subtries := by
  cases node <;> simp [subtries]

theorem mem_subtries_branch {id : Nat} {children : Entries Trie} {sub : Trie} :
    sub ∈ (branch id children).subtries
      ↔ sub = branch id children ∨ ∃ child ∈ children, sub ∈ child.2.subtries := by
  rw [subtries, List.mem_cons, subtriesBelow_eq, List.mem_flatMap]

/-! ## Finding -/

@[simp] theorem find?_nil (node : Trie) : find? [] node = some node := rfl

theorem find?_cons (segment : String) (rest : List String) (node : Trie) :
    find? (segment :: rest) node = (node.children.get? segment).bind (find? rest) := rfl

@[simp] theorem find?_cons_leaf (segment : String) (rest : List String) (id : Nat)
    (declaration : Json) : find? (segment :: rest) (leaf id declaration) = none := rfl

theorem find?_of_get? {children : Entries Trie} {segment : String} {child : Trie}
    (h : children.get? segment = some child) (root : Nat) (rest : List String) :
    find? (segment :: rest) (branch root children) = find? rest child := by
  rw [find?_cons, Trie.children, h, Option.bind_some]

theorem find?_of_get?_none {children : Entries Trie} {segment : String}
    (h : children.get? segment = none) (root : Nat) (rest : List String) :
    find? (segment :: rest) (branch root children) = none := by
  rw [find?_cons, Trie.children, h, Option.bind_none]

@[simp] theorem find?_put_self (root : Nat) (children : Entries Trie) (segment : String)
    (child : Trie) (rest : List String) :
    find? (segment :: rest) (branch root (children.put segment child)) = find? rest child :=
  find?_of_get? (Entries.get?_put_self children segment child) root rest

theorem find?_put_of_ne (root : Nat) (children : Entries Trie) {segment other : String}
    (h : other ≠ segment) (child : Trie) (rest : List String) :
    find? (other :: rest) (branch root (children.put segment child))
      = find? (other :: rest) (branch root children) := by
  rw [find?_cons, find?_cons, Trie.children, Trie.children, Entries.get?_put_of_ne _ h]

theorem find?_append (front back : List String) (node : Trie) :
    find? (front ++ back) node = (find? front node).bind (find? back) := by
  induction front generalizing node with
  | nil => rfl
  | cons segment rest ih =>
    rw [List.cons_append, find?_cons, find?_cons, Option.bind_assoc]
    refine congrArg _ (funext fun child => ?_)
    exact ih child

/-- Nothing is found beyond a leaf. -/
theorem find?_beyond_leaf {front back : List String} {node : Trie} {id : Nat} {declaration : Json}
    (h : find? front node = some (leaf id declaration)) (hback : back ≠ []) :
    find? (front ++ back) node = none := by
  rw [find?_append, h]
  cases back with
  | nil => exact absurd rfl hback
  | cons segment rest => rfl

end Trie

/-! ## Inserting -/

/-- What an insertion of a leaf makes of the children of a branch, with the number of the leaf.
New nodes take their numbers from `free` on; the last argument is the number that is free then. -/
inductive Grafts (declaration : Json) :
    List String → Entries Trie → Nat → Entries Trie → Nat → Nat → Prop
  /-- The leaf is new. -/
  | fresh {last : String} {children : Entries Trie} {free : Nat}
      (habsent : children.get? last = none) :
      Grafts declaration [last] children free (children.put last (.leaf free declaration)) free
        (free + 1)
  /-- The leaf takes the place of an earlier one. -/
  | replaced {last : String} {children : Entries Trie} {free id : Nat} {old : Json}
      (hleaf : children.get? last = some (.leaf id old)) :
      Grafts declaration [last] children free (children.put last (.leaf id declaration)) id free
  /-- The way goes through a new branch. -/
  | through_new {segment : String} {rest : List String} {children below : Entries Trie}
      {free leaf free' : Nat} (habsent : children.get? segment = none)
      (hbelow : Grafts declaration rest [] (free + 1) below leaf free') :
      Grafts declaration (segment :: rest) children free
        (children.put segment (.branch free below)) leaf free'
  /-- The way goes through a branch that was there. -/
  | through_old {segment : String} {rest : List String} {children before below : Entries Trie}
      {free id leaf free' : Nat} (hbranch : children.get? segment = some (.branch id before))
      (hbelow : Grafts declaration rest before free below leaf free') :
      Grafts declaration (segment :: rest) children free
        (children.put segment (.branch id below)) leaf free'

/-- Why `path` cannot be inserted below a branch whose own segments are `passed`. -/
inductive Blocked (path : String) : List String → List String → Entries Trie → SchemaError → Prop
  /-- A branch stands at the path itself. -/
  | branch {passed : List String} {last : String} {children below : Entries Trie} {id : Nat}
      (hbranch : children.get? last = some (.branch id below)) :
      Blocked path passed [last] children (.nestedConflict path)
  /-- A leaf stands in the way. -/
  | leaf {passed rest : List String} {segment : String} {children : Entries Trie} {id : Nat}
      {existing : Json} (hrest : rest ≠ [])
      (hleaf : children.get? segment = some (.leaf id existing)) :
      Blocked path passed (segment :: rest) children
        (.pathConflict path (Path.ofSegments (passed ++ [segment]))
          (TreeNode.declaredTypeName existing))
  /-- The obstacle lies further on. -/
  | further {passed rest : List String} {segment : String} {children below : Entries Trie}
      {id : Nat} {e : SchemaError} (hbranch : children.get? segment = some (.branch id below))
      (hbelow : Blocked path (passed ++ [segment]) rest below e) :
      Blocked path passed (segment :: rest) children e

namespace Blocked

variable {path : String} {passed segs : List String} {children : Entries Trie} {e : SchemaError}

/-- Behind a new branch nothing is in the way. -/
theorem not_nil : ¬Blocked path passed segs [] e := by
  intro h
  cases h with
  | branch hbranch => cases hbranch
  | leaf _ hleaf => cases hleaf
  | further hbranch _ => cases hbranch

/-- What is in the way: a leaf above the path, or a branch at it. -/
theorem obstacle (h : Blocked path passed segs children e) (root : Nat) :
    (∃ front back id existing, front ≠ [] ∧ back ≠ [] ∧ segs = front ++ back ∧
      Trie.find? front (.branch root children) = some (.leaf id existing) ∧
      e = .pathConflict path (Path.ofSegments (passed ++ front))
        (TreeNode.declaredTypeName existing)) ∨
    (∃ id below, Trie.find? segs (.branch root children) = some (.branch id below) ∧
      e = .nestedConflict path) := by
  induction h generalizing root with
  | branch hbranch => exact .inr ⟨_, _, Trie.find?_of_get? hbranch root [], rfl⟩
  | @leaf passed rest segment children id existing hrest hleaf =>
    exact .inl ⟨[segment], rest, id, existing, by simp, hrest, rfl,
      Trie.find?_of_get? hleaf root [], rfl⟩
  | @further passed rest segment children below id e hbranch _ ih =>
    rcases ih id with ⟨front, back, leaf, existing, hfront, hback, rfl, hfind, rfl⟩ |
      ⟨at', kids, hfind, rfl⟩
    · refine .inl ⟨segment :: front, back, leaf, existing, by simp, hback, rfl, ?_, by simp⟩
      rw [Trie.find?_of_get? hbranch, hfind]
    · exact .inr ⟨at', kids, by rw [Trie.find?_of_get? hbranch, hfind], rfl⟩

end Blocked

namespace Grafts

variable {declaration : Json} {segs : List String} {children after : Entries Trie}
  {free leaf free' : Nat}

theorem after_ne_nil (h : Grafts declaration segs children free after leaf free') : after ≠ [] := by
  cases h with
  | fresh => exact Entries.put_ne_nil _ _ _
  | replaced => exact Entries.put_ne_nil _ _ _
  | through_new => exact Entries.put_ne_nil _ _ _
  | through_old => exact Entries.put_ne_nil _ _ _

/-- The inserted leaf is found. -/
theorem find?_self (h : Grafts declaration segs children free after leaf free') (root : Nat) :
    Trie.find? segs (.branch root after) = some (.leaf leaf declaration) := by
  induction h generalizing root with
  | fresh => rw [Trie.find?_put_self, Trie.find?_nil]
  | replaced => rw [Trie.find?_put_self, Trie.find?_nil]
  | through_new _ _ ih => rw [Trie.find?_put_self, ih]
  | through_old _ _ ih => rw [Trie.find?_put_self, ih]

/-- A single segment has nothing but the root above it. -/
private theorem front_eq_nil {last : String} {front back : List String}
    (h : [last] = front ++ back) (hback : back ≠ []) : front = [] := by
  cases front with
  | nil => rfl
  | cons segment front =>
    rw [List.cons_append, List.cons.injEq] at h
    exact absurd (List.append_eq_nil_iff.1 h.2.symm).2 hback

/-- A branch is found at each place on the way. -/
theorem find?_between (h : Grafts declaration segs children free after leaf free') (root : Nat)
    {front back : List String} (hsegs : segs = front ++ back) (hback : back ≠ []) :
    ∃ id below, Trie.find? front (.branch root after) = some (.branch id below) := by
  induction h generalizing root front with
  | fresh => exact ⟨root, _, by rw [front_eq_nil hsegs hback, Trie.find?_nil]⟩
  | replaced => exact ⟨root, _, by rw [front_eq_nil hsegs hback, Trie.find?_nil]⟩
  | through_new _ _ ih =>
    cases front with
    | nil => exact ⟨root, _, rfl⟩
    | cons segment front =>
      obtain ⟨rfl, hrest⟩ := List.cons.inj hsegs
      rw [Trie.find?_put_self]
      exact ih _ hrest
  | through_old _ _ ih =>
    cases front with
    | nil => exact ⟨root, _, rfl⟩
    | cons segment front =>
      obtain ⟨rfl, hrest⟩ := List.cons.inj hsegs
      rw [Trie.find?_put_self]
      exact ih _ hrest

/-- What lies beside the way has not changed. -/
theorem find?_of_not_prefix (h : Grafts declaration segs children free after leaf free')
    (root : Nat) {other : List String} (hother : ¬other <+: segs) :
    Trie.find? other (.branch root after) = Trie.find? other (.branch root children) := by
  cases other with
  | nil => exact absurd List.nil_prefix hother
  | cons segment rest =>
    induction h generalizing root segment rest with
    | @fresh last children free habsent =>
      by_cases hseg : segment = last
      · subst hseg
        have hrest : rest ≠ [] := fun he => hother (he ▸ List.prefix_rfl)
        obtain ⟨next, rest, rfl⟩ := List.exists_cons_of_ne_nil hrest
        rw [Trie.find?_put_self, Trie.find?_of_get?_none habsent, Trie.find?_cons_leaf]
      · rw [Trie.find?_put_of_ne _ _ hseg]
    | @replaced last children free id old hleaf =>
      by_cases hseg : segment = last
      · subst hseg
        have hrest : rest ≠ [] := fun he => hother (he ▸ List.prefix_rfl)
        obtain ⟨next, rest, rfl⟩ := List.exists_cons_of_ne_nil hrest
        rw [Trie.find?_put_self, Trie.find?_of_get? hleaf, Trie.find?_cons_leaf,
          Trie.find?_cons_leaf]
      · rw [Trie.find?_put_of_ne _ _ hseg]
    | @through_new first way children below free leaf free' habsent _ ih =>
      by_cases hseg : segment = first
      · subst hseg
        have hrest : ¬rest <+: way := fun hp => hother (by simpa using hp)
        cases rest with
        | nil => exact absurd List.nil_prefix hrest
        | cons next rest =>
          rw [Trie.find?_put_self, Trie.find?_of_get?_none habsent, ih free next rest hrest]
          rfl
      · rw [Trie.find?_put_of_ne _ _ hseg]
    | @through_old first way children before below free id leaf free' hbranch _ ih =>
      by_cases hseg : segment = first
      · subst hseg
        have hrest : ¬rest <+: way := fun hp => hother (by simpa using hp)
        cases rest with
        | nil => exact absurd List.nil_prefix hrest
        | cons next rest =>
          rw [Trie.find?_put_self, Trie.find?_of_get? hbranch, ih id next rest hrest]
      · rw [Trie.find?_put_of_ne _ _ hseg]

/-- No leaf was in the way. -/
theorem no_leaf_above (h : Grafts declaration segs children free after leaf free') (root : Nat)
    {front back : List String} (hsegs : segs = front ++ back) (hback : back ≠ []) (id : Nat)
    (existing : Json) : Trie.find? front (.branch root children) ≠ some (.leaf id existing) := by
  induction h generalizing root front with
  | fresh => simp [front_eq_nil hsegs hback]
  | replaced => simp [front_eq_nil hsegs hback]
  | through_new habsent _ ih =>
    cases front with
    | nil => simp
    | cons segment front =>
      obtain ⟨rfl, hrest⟩ := List.cons.inj hsegs
      simp [Trie.find?_of_get?_none habsent]
  | through_old hbranch _ ih =>
    cases front with
    | nil => simp
    | cons segment front =>
      obtain ⟨rfl, hrest⟩ := List.cons.inj hsegs
      rw [Trie.find?_of_get? hbranch]
      exact ih _ hrest

/-- No branch stood at the place of the leaf. -/
theorem no_branch_at (h : Grafts declaration segs children free after leaf free') (root : Nat)
    (id : Nat) (below : Entries Trie) :
    Trie.find? segs (.branch root children) ≠ some (.branch id below) := by
  induction h generalizing root with
  | fresh habsent => simp [Trie.find?_of_get?_none habsent]
  | replaced hleaf => simp [Trie.find?_of_get? hleaf]
  | through_new habsent _ _ => simp [Trie.find?_of_get?_none habsent]
  | through_old hbranch _ ih =>
    rw [Trie.find?_of_get? hbranch]
    exact ih _

/-- The numbers after an insertion: those before, and the free ones up to the new end. -/
theorem perm_ids (h : Grafts declaration segs children free after leaf free') :
    ∃ made, free' = free + made ∧
      (Trie.idsBelow after).Perm (Trie.idsBelow children ++ List.range' free made) := by
  induction h with
  | @fresh last children free habsent =>
    refine ⟨1, rfl, ?_⟩
    rw [Entries.put_of_get?_none habsent, Trie.idsBelow_append, Trie.idsBelow_singleton]
    exact .refl _
  | @replaced last children free id old hleaf =>
    obtain ⟨rest, hold, hnew⟩ := Entries.perm_put_of_get? hleaf
    refine ⟨0, rfl, ?_⟩
    rw [List.range'_zero, List.append_nil]
    exact (Trie.idsBelow_perm (hnew _)).trans (Trie.idsBelow_perm hold).symm
  | @through_new segment rest children below free leaf free' habsent _ ih =>
    obtain ⟨made, rfl, hperm⟩ := ih
    refine ⟨made + 1, by omega, ?_⟩
    rw [Entries.put_of_get?_none habsent, Trie.idsBelow_append, Trie.idsBelow_singleton,
      Trie.ids_branch, List.range'_succ]
    exact (hperm.cons free).append_left _
  | @through_old segment rest children before below free id leaf free' hbranch _ ih =>
    obtain ⟨made, rfl, hperm⟩ := ih
    obtain ⟨others, hold, hnew⟩ := Entries.perm_put_of_get? hbranch
    refine ⟨made, rfl, ?_⟩
    have hbefore : (Trie.idsBelow children).Perm
        (id :: (Trie.idsBelow before ++ Trie.idsBelow others)) := by
      simpa [Trie.idsBelow_cons, Trie.ids_branch] using Trie.idsBelow_perm hold
    have hafter : (Trie.idsBelow (children.put segment (.branch id below))).Perm
        (id :: (Trie.idsBelow below ++ Trie.idsBelow others)) := by
      simpa [Trie.idsBelow_cons, Trie.ids_branch] using Trie.idsBelow_perm (hnew (.branch id below))
    refine hafter.trans (.trans (.cons id ?_) (hbefore.symm.append_right _))
    calc Trie.idsBelow below ++ Trie.idsBelow others
      _ |>.Perm (Trie.idsBelow before ++ List.range' free made ++ Trie.idsBelow others) :=
        hperm.append_right _
      _ |>.Perm (Trie.idsBelow before ++ Trie.idsBelow others ++ List.range' free made) := by
        rw [List.append_assoc, List.append_assoc]
        exact List.perm_append_comm.append_left _

end Grafts

/-! ## Tidy tries -/

/-- The children of a branch have distinct segments, and the same holds below, where no branch is
without children. -/
inductive IsTidy : Entries Trie → Prop
  | intro {children : Entries Trie} (distinct : (Entries.keys children).Nodup)
      (filled : ∀ {segment : String} {id : Nat} {below : Entries Trie},
        (segment, .branch id below) ∈ children → below ≠ [])
      (below : ∀ {segment : String} {id : Nat} {below : Entries Trie},
        (segment, .branch id below) ∈ children → IsTidy below) : IsTidy children

namespace IsTidy

theorem nil : IsTidy [] :=
  .intro (by simp [Entries.keys]) (fun h => absurd h List.not_mem_nil)
    (fun h => absurd h List.not_mem_nil)

theorem distinct {children : Entries Trie} (h : IsTidy children) :
    (Entries.keys children).Nodup := by
  cases h with
  | intro distinct _ _ => exact distinct

theorem filled {children below : Entries Trie} (h : IsTidy children) {segment : String} {id : Nat}
    (hmem : (segment, .branch id below) ∈ children) : below ≠ [] := by
  cases h with
  | intro _ filled _ => exact filled hmem

theorem tidy_below {children below : Entries Trie} (h : IsTidy children) {segment : String}
    {id : Nat} (hmem : (segment, .branch id below) ∈ children) : IsTidy below := by
  cases h with
  | intro _ _ hbelow => exact hbelow hmem

theorem child {children : Entries Trie} (h : IsTidy children) {segment : String} {node : Trie}
    (hmem : (segment, node) ∈ children) : IsTidy node.children := by
  cases node with
  | leaf => exact .nil
  | branch => exact h.tidy_below hmem

theorem put_leaf {children : Entries Trie} (h : IsTidy children) (segment : String) (id : Nat)
    (declaration : Json) : IsTidy (children.put segment (.leaf id declaration)) := by
  refine .intro (Entries.nodup_keys_put h.distinct _ _) (fun hmem => ?_) (fun hmem => ?_)
  · rcases Entries.mem_put hmem with hold | hnew
    · exact h.filled hold
    · cases hnew
  · rcases Entries.mem_put hmem with hold | hnew
    · exact h.tidy_below hold
    · cases hnew

theorem put_branch {children kids : Entries Trie} (h : IsTidy children) (segment : String)
    (id : Nat) (hkids : IsTidy kids) (hne : kids ≠ []) :
    IsTidy (children.put segment (.branch id kids)) := by
  refine .intro (Entries.nodup_keys_put h.distinct _ _) (fun hmem => ?_) (fun hmem => ?_)
  · rcases Entries.mem_put hmem with hold | hnew
    · exact h.filled hold
    · cases hnew
      exact hne
  · rcases Entries.mem_put hmem with hold | hnew
    · exact h.tidy_below hold
    · cases hnew
      exact hkids

/-- Insertion keeps a trie tidy. -/
theorem graft {declaration : Json} {segs : List String} {children after : Entries Trie}
    {free leaf free' : Nat} (h : IsTidy children)
    (hgraft : Grafts declaration segs children free after leaf free') : IsTidy after := by
  induction hgraft with
  | fresh => exact h.put_leaf _ _ _
  | replaced => exact h.put_leaf _ _ _
  | through_new _ hbelow ih => exact h.put_branch _ _ (ih .nil) hbelow.after_ne_nil
  | through_old hbranch hbelow ih =>
    exact h.put_branch _ _ (ih (h.tidy_below (Entries.mem_of_get? hbranch))) hbelow.after_ne_nil

/-- What is found in a tidy trie is tidy, and no empty branch. -/
theorem found {node sub : Trie} {segs : List String} (h : IsTidy node.children)
    (hfind : Trie.find? segs node = some sub) (hsegs : segs ≠ []) :
    IsTidy sub.children ∧ ∀ id, sub ≠ .branch id [] := by
  induction segs generalizing node with
  | nil => exact absurd rfl hsegs
  | cons segment rest ih =>
    obtain ⟨child, hget, hrest⟩ := Option.bind_eq_some_iff.1 hfind
    have hmem := Entries.mem_of_get? hget
    cases rest with
    | nil =>
      obtain rfl : child = sub := Option.some.inj hrest
      refine ⟨h.child hmem, fun id he => ?_⟩
      subst he
      exact h.filled hmem rfl
    | cons next rest => exact ih (h.child hmem) hrest (by simp)

end IsTidy

/-! ## Leaves -/

namespace Trie

/-- The leaves listed are those that can be found. -/
theorem mem_leaves_iff {node : Trie} (htidy : IsTidy node.children) (segs : List String)
    (declaration : Json) : (segs, declaration) ∈ node.leaves
      ↔ ∃ id, find? segs node = some (leaf id declaration) := by
  induction node using Trie.induction generalizing segs with
  | leaf id existing =>
    cases segs with
    | nil => simp [leaves, eq_comm]
    | cons segment rest => simp [leaves]
  | branch id children ih =>
    rw [leaves, leavesBelow_eq, List.mem_flatMap]
    constructor
    · rintro ⟨⟨segment, child⟩, hchild, hleaf⟩
      obtain ⟨⟨rest, found⟩, hrest, heq⟩ := List.mem_map.1 hleaf
      cases heq
      have hget : Entries.get? children segment = some child :=
        Entries.get?_of_mem htidy.distinct hchild
      show ∃ leafId, find? (segment :: rest) (branch id children) = some (leaf leafId found)
      rw [find?_of_get? hget]
      exact (ih _ hchild (htidy.child hchild) rest).1 hrest
    · rintro ⟨leafId, hfind⟩
      cases segs with
      | nil => cases hfind
      | cons segment rest =>
        obtain ⟨child, hget, hrest⟩ := Option.bind_eq_some_iff.1 hfind
        have hchild := Entries.mem_of_get? hget
        exact ⟨_, hchild, List.mem_map.2
          ⟨(rest, declaration), (ih _ hchild (htidy.child hchild) rest).2 ⟨leafId, hrest⟩, rfl⟩⟩

/-- No leaf is listed twice. -/
theorem nodup_leaves {node : Trie} (htidy : IsTidy node.children) :
    (node.leaves.map Prod.fst).Nodup := by
  induction node using Trie.induction with
  | leaf id declaration => simp [leaves]
  | branch id children ih =>
    rw [leaves, leavesBelow_eq, List.map_flatMap, List.nodup_flatMap]
    refine ⟨fun child hchild => ?_, ?_⟩
    · have hmap : (child.2.leaves.map fun leaf => (child.1 :: leaf.1, leaf.2)).map Prod.fst
          = (child.2.leaves.map Prod.fst).map (child.1 :: ·) := by
        simp only [List.map_map, Function.comp_def]
      rw [hmap]
      exact (ih child hchild (htidy.child hchild)).map fun _ _ h => (List.cons.inj h).2
    · -- leaves below different children differ in their first segment
      have hkeys : children.Pairwise fun a b => a.1 ≠ b.1 := List.pairwise_map.1 htidy.distinct
      refine hkeys.imp fun hne => ?_
      intro segs hleft hright
      simp only [List.map_map, List.mem_map, Function.comp_apply] at hleft hright
      obtain ⟨_, _, rfl⟩ := hleft
      obtain ⟨_, _, heq⟩ := hright
      exact hne (List.cons.inj heq).1.symm

/-- Below a branch with children there is a leaf. -/
theorem leaves_ne_nil {node : Trie} (htidy : IsTidy node.children)
    (hfilled : ∀ id, node ≠ branch id []) : node.leaves ≠ [] := by
  induction node using Trie.induction with
  | leaf id declaration => simp [leaves]
  | branch id children ih =>
    cases children with
    | nil => exact absurd rfl (hfilled id)
    | cons first rest =>
      obtain ⟨segment, child⟩ := first
      have hmem : (segment, child) ∈ (segment, child) :: rest := List.mem_cons_self
      have hchild := ih _ hmem (htidy.child hmem) fun id he => by
        subst he
        exact htidy.filled hmem rfl
      rw [leaves, leavesBelow]
      simp [hchild]

end Trie

end RecordSchema
