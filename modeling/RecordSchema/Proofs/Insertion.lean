import Mathlib
import RecordSchema.Proofs.DeclaredPaths

/-!
# Insertion and look-up

A tree of paths is a map from paths to nodes in which no leaf has anything below it. An insertion
that succeeds writes one leaf and makes the branches that were missing above it; every other path
leads where it led before. It fails only when a leaf stands above the path or a branch at it, and
then it changes nothing.

## Main definitions

* `PathTree.ofInsertions`: the tree that insertions lead to, whether they succeed or not.
* `PathTree.idAt?`: the number of the node at a path.

## Main statements

* `Grafts.leaf_eq_of_find?`, `Grafts.leaf_of_find?_none`: the number of the inserted leaf.
* `Grafts.free_eq`: how many nodes an insertion makes.
* `PathTree.IsProper.insert_error_iff`: when an insertion fails, and how.
* `insertion_laws`: what an insertion does to look-up, to the numbers and to the array.
-/

namespace RecordSchema

open RecordSchema.Path Trie

/-! ## Initial parts of lists -/

section Inits

variable {α : Type}

theorem nodup_inits (l : List α) : l.inits.Nodup := by
  induction l with
  | nil => simp
  | cons a l ih =>
    rw [List.inits_cons, List.nodup_cons]
    exact ⟨by simp, ih.map List.cons_injective⟩

/-- The initial parts of a list that begins with an item, without the empty one. -/
theorem tail_inits_cons (a : α) (l : List α) :
    (a :: l).inits.tail = [a] :: l.inits.tail.map (a :: ·) := by
  cases l <;> simp

theorem mem_tail_inits {front l : List α} : front ∈ l.inits.tail ↔ front ≠ [] ∧ front <+: l := by
  cases l with
  | nil => simp +contextual
  | cons a l =>
    rw [List.inits_cons, List.tail_cons, List.mem_map, List.prefix_cons_iff]
    simp only [List.mem_inits]
    constructor
    · rintro ⟨front, hfront, rfl⟩
      exact ⟨List.cons_ne_nil a front, .inr ⟨front, rfl, hfront⟩⟩
    · rintro ⟨hne, rfl | ⟨front, rfl, hfront⟩⟩
      · exact absurd rfl hne
      · exact ⟨front, hfront, rfl⟩

end Inits

/-! ## Numbers -/

namespace Grafts

variable {declaration : Json} {segs : List String} {children after : Entries Trie}
  {free leaf free' : Nat}

/-- A leaf that takes the place of an earlier one has its number. -/
theorem leaf_eq_of_find? (h : Grafts declaration segs children free after leaf free') (root : Nat)
    {id : Nat} {old : Json} (hfind : find? segs (.branch root children) = some (.leaf id old)) :
    leaf = id := by
  induction h generalizing root with
  | fresh habsent =>
    rw [find?_of_get?_none habsent] at hfind
    cases hfind
  | replaced hleaf =>
    rw [find?_of_get? hleaf] at hfind
    cases hfind
    rfl
  | through_new habsent _ _ =>
    rw [find?_of_get?_none habsent] at hfind
    cases hfind
  | through_old hbranch _ ih =>
    rw [find?_of_get? hbranch] at hfind
    exact ih _ hfind

/-- A leaf in a new place has one of the numbers that were free. -/
theorem leaf_of_find?_none (h : Grafts declaration segs children free after leaf free')
    (root : Nat) (hfind : find? segs (.branch root children) = none) : free ≤ leaf := by
  induction h generalizing root with
  | fresh => exact le_refl _
  | replaced hleaf =>
    rw [find?_of_get? hleaf] at hfind
    cases hfind
  | @through_new segment rest children below free leaf free' habsent hbelow ih =>
    -- below the new branch there is nothing yet
    have hnone : find? rest (.branch free []) = none := by
      cases hbelow <;> rfl
    exact Nat.le_of_succ_le (ih free hnone)
  | through_old hbranch _ ih =>
    rw [find?_of_get? hbranch] at hfind
    exact ih _ hfind

/-- An insertion makes the nodes that are missing on its way. -/
theorem free_eq (h : Grafts declaration segs children free after leaf free') (root : Nat) :
    free' = free
      + segs.inits.tail.countP fun front => (find? front (.branch root children)).isNone := by
  induction h generalizing root with
  | fresh habsent => simp [find?_of_get?_none habsent]
  | replaced hleaf => simp [find?_of_get? hleaf]
  | @through_new segment rest children below free leaf free' habsent _ ih =>
    -- all of them are missing, before the new branch is made and below it
    have hempty : ∀ front ∈ rest.inits.tail, (find? front (.branch free [])).isNone := by
      intro front hfront
      obtain ⟨next, front, rfl⟩ := List.exists_cons_of_ne_nil (mem_tail_inits.1 hfront).1
      rfl
    rw [tail_inits_cons, List.countP_cons, List.countP_map, ih free,
      List.countP_eq_length.2 hempty, List.countP_eq_length.2 fun front _ => by
        simp [find?_of_get?_none habsent]]
    simp only [find?_of_get?_none habsent, Option.isNone_none, if_true]
    omega
  | @through_old segment rest children before below free id leaf free' hbranch _ ih =>
    rw [tail_inits_cons, List.countP_cons, List.countP_map, find?_of_get? hbranch, ih id]
    simp [Function.comp_def, find?_of_get? hbranch]

end Grafts

/-- A path and those above it are those whose segments are an initial part of its own. -/
theorem eq_or_isAbove_iff {front path : String} :
    front = path ∨ IsAbove front path ↔ segments front <+: segments path := by
  rw [isAbove_iff_prefix_ne]
  constructor
  · rintro (rfl | ⟨hinit, _⟩)
    · exact List.prefix_rfl
    · exact hinit
  · intro hinit
    by_cases heq : front = path
    · exact .inl heq
    · exact .inr ⟨hinit, heq⟩

namespace PathTree

/-- The number of the node at a path. -/
def idAt? (tree : PathTree) (path : String) : Option Nat :=
  walk tree.nodes rootId (segments path)

/-- The tree that insertions lead to, one after the other, whether they succeed or not. -/
def ofInsertions (insertions : List (String × Json)) : PathTree :=
  insertions.foldl (fun tree entry => (tree.insert entry.1 entry.2).1) empty

theorem ofInsertions_concat (insertions : List (String × Json)) (entry : String × Json) :
    ofInsertions (insertions ++ [entry])
      = ((ofInsertions insertions).insert entry.1 entry.2).1 := by
  rw [ofInsertions, List.foldl_append]
  rfl

/-! ## Failure -/

/-- An insertion keeps the layout of a tree, whether it succeeds or not. -/
theorem IsProper.insert {tree : PathTree} (h : tree.IsProper) (path : String)
    (declaration : Json) : (tree.insert path declaration).1.IsProper := by
  rcases h.insert_outcome path declaration with
    ⟨parent, existing, _, _, hinsert⟩ | ⟨below, _, _, hinsert⟩ | ⟨leaf, _, hproper, _⟩
  · rwa [hinsert]
  · rwa [hinsert]
  · exact hproper

theorem isProper_ofInsertions (insertions : List (String × Json)) :
    (ofInsertions insertions).IsProper := by
  induction insertions using List.reverseRecOn with
  | nil => exact isProper_empty
  | append_singleton insertions entry ih =>
    rw [ofInsertions_concat]
    exact ih.insert entry.1 entry.2

/-- An insertion fails when a leaf stands above its path, and names it, or when a branch stands at
the path. -/
theorem IsProper.insert_error_iff {tree : PathTree} (h : tree.IsProper) (path : String)
    (declaration : Json) (e : SchemaError) : (tree.insert path declaration).2 = .error e ↔
      (∃ parent existing, IsAbove parent path ∧ tree.get? parent = some (.leaf existing) ∧
        e = .pathConflict path parent (TreeNode.declaredTypeName existing)) ∨
      (∃ children, tree.get? path = some (.branch children)) ∧ e = .nestedConflict path := by
  constructor
  · intro hfails
    rcases h.insert_outcome path declaration with
      ⟨parent, existing, habove, hparent, hinsert⟩ | ⟨below, habove, hbelow, hinsert⟩ |
      ⟨leaf, hok, _⟩
    · rw [hinsert] at hfails
      cases hfails
      exact .inl ⟨parent, existing, habove, declaration?_eq_some_iff.1 hparent, rfl⟩
    · rw [hinsert] at hfails
      cases hfails
      exact .inr ⟨h.branch_iff.2 ⟨below, habove, hbelow⟩, rfl⟩
    · rw [hok] at hfails
      cases hfails
  · rintro (⟨parent, existing, habove, hparent, rfl⟩ | ⟨hbranch, rfl⟩)
    · rw [← declaration?_eq_some_iff] at hparent
      have hdeclared := Option.isSome_of_eq_some hparent
      rcases h.insert_outcome path declaration with
        ⟨other, existing', habove', hother, hinsert⟩ | ⟨below, hbelow, hdeclared', _⟩ |
        ⟨leaf, _, _, hclear, _⟩
      · -- of two leaves above the path one would be above the other
        have hdeclared' := Option.isSome_of_eq_some hother
        rcases habove.comparable habove' with rfl | hlt | hgt
        · cases hparent.symm.trans hother
          rw [hinsert]
        · exact absurd hlt (h.not_isAbove hdeclared hdeclared')
        · exact absurd hgt (h.not_isAbove hdeclared' hdeclared)
      · exact absurd (habove.trans hbelow) (h.not_isAbove hdeclared hdeclared')
      · exact absurd habove (hclear parent hdeclared).1
    · obtain ⟨below, hbelow, hdeclared⟩ := h.branch_iff.1 hbranch
      rcases h.insert_outcome path declaration with
        ⟨parent, existing, habove, hparent, _⟩ | ⟨_, _, _, hinsert⟩ | ⟨leaf, _, _, hclear, _⟩
      · exact absurd (habove.trans hbelow)
          (h.not_isAbove (Option.isSome_of_eq_some hparent) hdeclared)
      · rw [hinsert]
      · exact absurd hbelow (hclear below hdeclared).2

/-- An insertion that fails changes nothing. -/
theorem IsProper.insert_of_error {tree after : PathTree} (h : tree.IsProper) {path : String}
    {declaration : Json} {e : SchemaError}
    (hfails : tree.insert path declaration = (after, .error e)) : after = tree := by
  rcases h.insert_outcome path declaration with
    ⟨_, _, _, _, hinsert⟩ | ⟨_, _, _, hinsert⟩ | ⟨leaf, hok, _⟩
  · cases hinsert.symm.trans hfails
    rfl
  · cases hinsert.symm.trans hfails
    rfl
  · rw [hfails] at hok
    cases hok

/-! ## Success -/

namespace Unfolds

variable {tree after : PathTree} {children grown : Entries Trie} {path : String}
  {declaration : Json} {free leaf free' : Nat}

theorem idAt?_eq (h : tree.Unfolds children) (path : String) :
    tree.idAt? path = (find? (segments path) (.branch rootId children)).map Trie.id :=
  h.lies.walk_eq (segments path)

theorem get?_eq_leaf_iff (h : tree.Unfolds children) {existing : Json} :
    tree.get? path = some (.leaf existing)
      ↔ ∃ id, find? (segments path) (.branch rootId children) = some (.leaf id existing) := by
  rw [← declaration?_eq_some_iff, h.declaration?_iff]

theorem get?_isNone (h : tree.Unfolds children) (path : String) : (tree.get? path).isNone
    = (find? (segments path) (.branch rootId children)).isNone := by
  rw [h.get?_eq, Option.isNone_map]

/-- The paths without a node among a path and those above it are as many as the initial parts of
its segments that lead nowhere. -/
theorem ncard_missing (h : tree.Unfolds children) (path : String) :
    {front : String | (front = path ∨ IsAbove front path) ∧ tree.get? front = none}.ncard
      = (segments path).inits.tail.countP fun front =>
          (find? front (.branch rootId children)).isNone := by
  let missing := (segments path).inits.tail.filter fun front =>
    (find? front (.branch rootId children)).isNone
  have hsegs : ∀ front ∈ missing, segments (ofSegments front) = front := fun front hfront => by
    obtain ⟨hne, hinit⟩ := mem_tail_inits.1 (List.mem_of_mem_filter hfront)
    exact segments_ofSegments hne fun segment hmem =>
      dot_not_mem_segment path (hinit.subset hmem)
  have hnodup : (missing.map ofSegments).Nodup := by
    refine ((nodup_inits (segments path)).tail.filter _).map_on ?_
    intro front hfront other hother heq
    rw [← hsegs front hfront, heq, hsegs other hother]
  have hset : {front : String | (front = path ∨ IsAbove front path) ∧ tree.get? front = none}
      = ((missing.map ofSegments).toFinset : Set String) := by
    ext front
    have hmissing : front ∈ missing.map ofSegments ↔ segments front ∈ missing := by
      rw [List.mem_map]
      constructor
      · rintro ⟨segs, hmem, rfl⟩
        rwa [hsegs segs hmem]
      · exact fun hmem => ⟨_, hmem, ofSegments_segments front⟩
    rw [Set.mem_ofPred_eq, List.coe_toFinset, Set.mem_ofPred_eq, hmissing, List.mem_filter,
      mem_tail_inits, ← h.get?_isNone, Option.isNone_iff_eq_none, eq_or_isAbove_iff]
    simp [segments_ne_nil]
  rw [hset, Set.ncard_coe_finset, List.toFinset_card_of_nodup hnodup, List.length_map,
    ← List.countP_eq_length_filter]

end Unfolds

end PathTree

open PathTree in
/-- In every tree that insertions lead to, an insertion that succeeds puts its leaf at its path and
has branches at all paths above; every other path leads where it led before. The leaf keeps the
number of a leaf that it replaces, and has a new number otherwise, and there are as many more nodes
as there were paths missing, of the path itself and those above it. An insertion that fails changes
nothing. It fails just when a leaf stands above the path, which it names, or a branch at it. -/
theorem insertion_laws (insertions : List (String × Json)) (path : String) (declaration : Json) :
    let tree := ofInsertions insertions
    (∀ after leaf, tree.insert path declaration = (after, .ok leaf) →
      after.get? path = some (.leaf declaration) ∧
      (∀ above, IsAbove above path → ∃ children, after.get? above = some (.branch children)) ∧
      (∀ other, other ≠ path → ¬IsAbove other path → after.get? other = tree.get? other) ∧
      after.idAt? path = some leaf ∧
      (∀ old, tree.get? path = some (.leaf old) → tree.idAt? path = some leaf) ∧
      ((∀ old, tree.get? path ≠ some (.leaf old)) → tree.nodes[leaf]? = none) ∧
      after.nodes.size = tree.nodes.size + {front : String |
        (front = path ∨ IsAbove front path) ∧ tree.get? front = none}.ncard) ∧
    (∀ after e, tree.insert path declaration = (after, .error e) → after = tree) ∧
    ∀ e, (tree.insert path declaration).2 = .error e ↔
      (∃ parent existing, IsAbove parent path ∧ tree.get? parent = some (.leaf existing) ∧
        e = .pathConflict path parent (TreeNode.declaredTypeName existing)) ∨
      (∃ children, tree.get? path = some (.branch children)) ∧ e = .nestedConflict path := by
  intro tree
  have hproper : tree.IsProper := isProper_ofInsertions insertions
  refine ⟨fun after leaf hinsert => ?_, fun after e hfails => hproper.insert_of_error hfails,
    hproper.insert_error_iff path declaration⟩
  obtain ⟨children, h⟩ := hproper
  rcases h.insert_outcome path declaration with ⟨e, _, hfails⟩ | ⟨grown, _, hgraft, hok, hafter⟩
  · cases hfails.symm.trans hinsert
  · rw [hinsert] at hgraft hok hafter
    cases hok
    refine ⟨?_, fun above habove => ?_, fun other hne hother => ?_, ?_, fun old hold => ?_,
      fun hnew => ?_, ?_⟩
    · exact hafter.get?_eq_leaf_iff.2 ⟨leaf, hgraft.find?_self rootId⟩
    · obtain ⟨rest, hrest, hsegs⟩ := isAbove_iff.1 habove
      obtain ⟨id, below, hbranch⟩ := hgraft.find?_between rootId hsegs hrest
      exact ⟨links below, by rw [hafter.get?_eq, hbranch]; rfl⟩
    · have hprefix : ¬segments other <+: segments path := fun hinit =>
        (eq_or_isAbove_iff.2 hinit).elim hne hother
      rw [hafter.get?_eq, h.get?_eq, hgraft.find?_of_not_prefix rootId hprefix]
    · rw [hafter.idAt?_eq, hgraft.find?_self rootId]
      rfl
    · obtain ⟨id, hfind⟩ := h.get?_eq_leaf_iff.1 hold
      rw [h.idAt?_eq, hfind, hgraft.leaf_eq_of_find? rootId hfind]
      rfl
    · -- there was no leaf, and where an insertion succeeds there was no branch either
      have hnone : find? (segments path) (.branch rootId children) = none := by
        cases hfind : find? (segments path) (.branch rootId children) with
        | none => rfl
        | some node =>
          cases node with
          | leaf id old => exact absurd (h.get?_eq_leaf_iff.2 ⟨id, hfind⟩) (hnew old)
          | branch id below => exact absurd hfind (hgraft.no_branch_at rootId id below)
      exact Array.getElem?_eq_none (hgraft.leaf_of_find?_none rootId hnone)
    · rw [h.ncard_missing]
      exact hgraft.free_eq rootId

end RecordSchema
