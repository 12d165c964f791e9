import Mathlib
import RecordSchema.Proofs.Consistency

/-!
# Declaring a field anew

A definition that succeeds is a local change. The field at its path is what its declaration means,
and nothing of what was attached to the path before is left; every other field stays as it is, with
everything attached to it. A new path comes last among the fields, and takes one place in the
listing of the tree, however many branches have been made for it; a path that was declared before
keeps its places in both.

## Main statements

* `Grafts.leavesBelow_split`: a graft changes one place of the listing of a trie.
* `Schema.Tracks.leafPaths_define`: a definition changes one place of the listing of a schema.
* `definition_is_local`: what a definition changes, and what it leaves alone.
-/

namespace RecordSchema

open RecordSchema.Path

/-! ## The listing after a graft -/

open Trie in
/-- A graft changes one place of the listing: the leaf stands between the leaves that were there, in
the place of an earlier one if it replaces one. -/
theorem Grafts.leavesBelow_split {declaration : Json} {segs : List String}
    {children after : Entries Trie} {free leaf free' : Nat}
    (h : Grafts declaration segs children free after leaf free') :
    ∃ front back, leavesBelow after = front ++ (segs, declaration) :: back ∧
      (leavesBelow children = front ++ back ∨
        ∃ old, leavesBelow children = front ++ (segs, old) :: back) := by
  induction h with
  | fresh habsent =>
    refine ⟨leavesBelow _, [], ?_, .inl (List.append_nil _).symm⟩
    rw [Entries.put_of_get?_none habsent, leavesBelow_append]
    rfl
  | @replaced last children free id old hleaf =>
    obtain ⟨before, rest, rfl, hput⟩ := Entries.put_split hleaf
    refine ⟨leavesBelow before, leavesBelow rest, ?_, .inr ⟨old, ?_⟩⟩
    · rw [hput, leavesBelow_append]
      rfl
    · rw [leavesBelow_append]
      rfl
  | @through_new segment rest children below free leaf free' habsent _ ih =>
    -- a new branch has the leaf and no other
    obtain ⟨front, back, hafter, hbefore⟩ := ih
    obtain ⟨rfl, rfl⟩ : front = [] ∧ back = [] := by
      rcases hbefore with hnew | ⟨old, hold⟩
      · exact List.append_eq_nil_iff.1 hnew.symm
      · exact absurd hold.symm (List.append_ne_nil_of_right_ne_nil _ (List.cons_ne_nil _ _))
    refine ⟨leavesBelow children, [], ?_, .inl (List.append_nil _).symm⟩
    rw [Entries.put_of_get?_none habsent, leavesBelow_append, leavesBelow_cons, leaves, hafter]
    rfl
  | @through_old segment rest children before below free id leaf free' hbranch _ ih =>
    obtain ⟨front, back, hafter, hbefore⟩ := ih
    obtain ⟨left, right, rfl, hput⟩ := Entries.put_split hbranch
    refine ⟨leavesBelow left ++ front.map fun leaf => (segment :: leaf.1, leaf.2),
      (back.map fun leaf => (segment :: leaf.1, leaf.2)) ++ leavesBelow right, ?_, ?_⟩
    · rw [hput, leavesBelow_append, leavesBelow_cons, leaves, hafter]
      simp
    · rw [leavesBelow_append, leavesBelow_cons, leaves]
      rcases hbefore with hnew | ⟨old, hold⟩
      · exact .inl (by simp [hnew])
      · exact .inr ⟨old, by simp [hold]⟩

/-- An insertion that succeeds changes one place of the listing. -/
theorem PathTree.IsProper.leafPaths_insert {tree : PathTree} {path : String} {declaration : Json}
    {leaf : Nat} (h : tree.IsProper)
    (hinsert : (tree.insert path declaration).2 = .ok leaf)
    (hfirst : ∀ path, (tree.declaration? path).isSome → ¬IsAbove "" path)
    (hfirst' : ∀ other, ((tree.insert path declaration).1.declaration? other).isSome →
      ¬IsAbove "" other) :
    ∃ front back, (tree.insert path declaration).1.leafPaths = front ++ path :: back ∧
      (tree.leafPaths = front ++ back ∨ tree.leafPaths = front ++ path :: back) := by
  obtain ⟨children, hunfolds⟩ := h
  rcases hunfolds.insert_outcome path declaration with
    ⟨e, _, hfails⟩ | ⟨after, _, hgraft, _, hafter⟩
  · rw [hfails] at hinsert
    cases hinsert
  · obtain ⟨front, back, hleaves, hbefore⟩ := hgraft.leavesBelow_split
    rw [hunfolds.leafPaths_eq hfirst, hafter.leafPaths_eq hfirst', Trie.leaves, Trie.leaves,
      hleaves]
    refine ⟨front.map (ofSegments ·.1), back.map (ofSegments ·.1), by simp, ?_⟩
    rcases hbefore with hnew | ⟨old, hold⟩
    · exact .inl (by rw [hnew, List.map_append])
    · exact .inr (by simp [hold])

/-! ## Fields and leaves after a definition -/

namespace Schema

variable {schema after : Schema} {options : SchemaOptions} {log : List Change} {path : String}
  {declaration : Json}

/-- A definition that succeeds keeps the order of the fields; a new one comes last. -/
theorem paths_define (hdone : schema.define path declaration = (after, none)) :
    after.paths = if path ∈ schema.paths then schema.paths else schema.paths ++ [path] := by
  obtain ⟨_, leaf, descriptor, _, _, rfl⟩ := define_done_iff.1 hdone
  exact Entries.keys_put _ _ _

/-- A definition that succeeds changes one place of the listing: a new path stands between the paths
that were there, and a path that was there keeps its place. -/
theorem Tracks.leafPaths_define (h : schema.Tracks options log)
    (hdone : schema.define path declaration = (after, none)) :
    (path ∈ schema.paths → after.leafPaths = schema.leafPaths) ∧
    (path ∉ schema.paths → ∃ front back, schema.leafPaths = front ++ back ∧
      after.leafPaths = front ++ path :: back) := by
  have hafter := h.define path declaration
  rw [hdone] at hafter
  obtain ⟨_, leaf, descriptor, _, hinsert, rfl⟩ := define_done_iff.1 hdone
  obtain ⟨front, back, hleaves, hbefore⟩ :=
    h.proper.leafPaths_insert hinsert h.not_isAbove_empty hafter.not_isAbove_empty
  rw [← h.mem_leafPaths_iff]
  constructor
  · intro hmem
    rcases hbefore with hnew | hold
    · -- the path would stand in two places
      have hnodup := hafter.nodup_leafPaths
      rw [leafPaths, hleaves, List.nodup_middle, List.nodup_cons, ← hnew] at hnodup
      exact absurd hmem hnodup.1
    · exact hleaves.trans hold.symm
  · intro hmem
    rcases hbefore with hnew | hold
    · exact ⟨front, back, hnew, hleaves⟩
    · exact absurd (by rw [leafPaths, hold]; simp) hmem

end Schema

/-- In every schema that edits lead to, a definition that succeeds gives its path the descriptor
that the declaration means, whatever was attached to the path before. All other paths keep their
descriptors, with all that was attached to them. The fields keep their order, and so do the leaves
of the tree: a new path comes last among the fields and stands at one place between the leaves, and
a path that was declared before changes neither list. The registered parents stay. -/
theorem definition_is_local {options : SchemaOptions} {edits : List Edit} {path : String}
    {declaration : Json} {after : Schema}
    (hdone : (Schema.reached options edits).define path declaration = (after, none)) :
    let schema := Schema.reached options edits
    (∃ meaning, interpret schema.options path declaration = .ok meaning ∧
      after.find? path = some meaning) ∧
    (∀ other, other ≠ path → after.find? other = schema.find? other) ∧
    (path ∈ schema.paths → after.paths = schema.paths ∧ after.leafPaths = schema.leafPaths) ∧
    (path ∉ schema.paths → after.paths = schema.paths ++ [path] ∧
      ∃ front back, schema.leafPaths = front ++ back ∧ after.leafPaths = front ++ path :: back) ∧
    after.nested = schema.nested := by
  intro schema
  have h : schema.Tracks options (history options edits) := Schema.reached_tracks options edits
  have hpaths := Schema.paths_define hdone
  obtain ⟨hkept, hplaced⟩ := h.leafPaths_define hdone
  obtain ⟨_, leaf, meaning, hmeaning, _, hafter⟩ := Schema.define_done_iff.1 hdone
  refine ⟨⟨meaning, hmeaning, ?_⟩, fun other hother => ?_, fun hmem => ⟨?_, hkept hmem⟩,
    fun hmem => ⟨?_, hplaced hmem⟩, ?_⟩
  · rw [hafter]
    exact Entries.get?_put_self _ _ _
  · rw [hafter]
    exact Entries.get?_put_of_ne _ hother _
  · exact hpaths.trans (if_pos hmem)
  · exact hpaths.trans (if_neg hmem)
  · rw [hafter]

/-- A field with a check and a default of its own is declared anew, beside another field with a
default. -/
theorem definition_is_local_redeclared :
    let edits : List Edit := [
      .add (.obj [("a", .obj [("x", .str "string"), ("y", .str "string")])]) "",
      .attach "a.x" (.validate (fun _ _ => false) "never"),
      .attach "a.x" (.setDefault (.str "old")), .attach "a.y" (.setDefault (.str "kept"))]
    let schema := Schema.reached {} edits
    ∃ after, schema.define "a.x" (.str "number") = (after, none) ∧
      (∃ meaning, interpret schema.options "a.x" (.str "number") = .ok meaning ∧
        after.find? "a.x" = some meaning) ∧
      after.find? "a.y" = schema.find? "a.y" ∧ after.paths = schema.paths ∧
      after.leafPaths = schema.leafPaths ∧ after.nested = schema.nested := by
  intro edits schema
  have hsucceeds : (schema.define "a.x" (.str "number")).2.isNone = true := by cbv
  have hdeclared : schema.declares "a.x" = true := by cbv
  cases hdone : schema.define "a.x" (.str "number") with
  | mk after answer =>
    rw [hdone] at hsucceeds
    obtain rfl := Option.isNone_iff_eq_none.1 hsucceeds
    obtain ⟨hself, hothers, hkept, _, hnested⟩ := definition_is_local hdone
    obtain ⟨hpaths, hleaves⟩ := hkept ((Entries.has_iff_mem_keys _ _).1 hdeclared)
    exact ⟨after, rfl, hself, hothers "a.y" (by decide), hpaths, hleaves, hnested⟩

end RecordSchema
