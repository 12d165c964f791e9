import RecordSchema.Proofs.Insertion

/-!
# What a tree lists

The listing of a tree puts its paths together from segments and takes a lead that is empty for no
lead at all. So a leading dot is lost, and two leaves may come out under one path. Where no path
starts with a dot the listing names each leaf once: the leaves are those that insertions have put
there, since none of them is ever taken away.

## Main statements

* `Path.isAbove_empty_iff_head?`: the paths that start with a dot.
* `PathTree.IsProper.isSome_declaration?_insert`: which paths are declared after an insertion.
* `PathTree.isSome_declaration?_ofInsertions`: which paths are declared after a run of them.
* `leaves_listed_once`: the listing after a run of insertions.
-/

namespace RecordSchema

open RecordSchema.Path

/-- What lies below the empty path starts with a dot. -/
theorem Path.isAbove_empty_iff_head? {path : String} :
    IsAbove "" path ↔ path.toList.head? = some '.' := by
  rw [isAbove_iff_toList, List.head?_eq_some_iff]
  rfl

namespace PathTree

theorem isSome_declaration?_iff {tree : PathTree} {path : String} :
    (tree.declaration? path).isSome
      ↔ ∃ declaration, tree.get? path = some (.leaf declaration) := by
  simp only [Option.isSome_iff_exists, declaration?_eq_some_iff]

/-- An insertion declares its path when it succeeds, and takes no declaration away. -/
theorem IsProper.isSome_declaration?_insert {tree : PathTree} (h : tree.IsProper) (path : String)
    (declaration : Json) (other : String) :
    ((tree.insert path declaration).1.declaration? other).isSome
      ↔ (tree.declaration? other).isSome ∨
        other = path ∧ ∃ leaf, (tree.insert path declaration).2 = .ok leaf := by
  rcases h.insert_outcome path declaration with
    ⟨parent, existing, _, _, hfails⟩ | ⟨below, _, _, hfails⟩ | ⟨leaf, hok, _, _, hafter⟩
  · simp [hfails]
  · simp [hfails]
  · rw [hafter, hok]
    by_cases heq : other = path
    · simp [heq]
    · simp [heq]

/-- A path is declared after a run of insertions when one of them has declared it. -/
theorem isSome_declaration?_ofInsertions (insertions : List (String × Json)) (path : String) :
    ((ofInsertions insertions).declaration? path).isSome
      ↔ ∃ front declaration back leaf, insertions = front ++ (path, declaration) :: back ∧
        ((ofInsertions front).insert path declaration).2 = .ok leaf := by
  induction insertions using List.reverseRecOn with
  | nil => simp [ofInsertions, unfolds_empty.declaration?_of_nil]
  | append_singleton insertions entry ih =>
    rw [ofInsertions_concat, (isProper_ofInsertions insertions).isSome_declaration?_insert, ih]
    constructor
    · rintro (⟨front, declaration, back, leaf, rfl, hok⟩ | ⟨rfl, leaf, hok⟩)
      · exact ⟨front, declaration, back ++ [entry], leaf, by simp, hok⟩
      · exact ⟨insertions, entry.2, [], leaf, rfl, hok⟩
    · rintro ⟨front, declaration, back, leaf, hsplit, hok⟩
      -- the insertion that declares the path is the last one or one before it
      rcases List.eq_nil_or_concat back with rfl | ⟨back, last, rfl⟩
      · obtain ⟨rfl, hentry⟩ := List.append_inj' hsplit rfl
        cases hentry
        exact .inr ⟨rfl, leaf, hok⟩
      · rw [List.concat_eq_append, ← List.cons_append, ← List.append_assoc] at hsplit
        exact .inl ⟨front, declaration, back, leaf, List.append_inj_left' hsplit rfl, hok⟩

end PathTree

open PathTree in
/-- In every tree that insertions lead to, whether they succeed or not, the listing holds no path
twice when none of the inserted paths starts with a dot. It holds the paths that lead to a leaf,
and those are the paths of the insertions that have succeeded. -/
theorem leaves_listed_once (insertions : List (String × Json))
    (hdot : ∀ entry ∈ insertions, entry.1.toList.head? ≠ some '.') :
    let tree := ofInsertions insertions
    tree.leafPaths.Nodup ∧ ∀ path,
      (path ∈ tree.leafPaths ↔ ∃ declaration, tree.get? path = some (.leaf declaration)) ∧
      ((∃ declaration, tree.get? path = some (.leaf declaration)) ↔
        ∃ front declaration back leaf, insertions = front ++ (path, declaration) :: back ∧
          ((ofInsertions front).insert path declaration).2 = .ok leaf) := by
  intro tree
  have hproper : tree.IsProper := isProper_ofInsertions insertions
  have hfirst : ∀ path, (tree.declaration? path).isSome → ¬IsAbove "" path := by
    intro path hdeclared
    obtain ⟨front, declaration, back, leaf, hsplit, _⟩ :=
      (isSome_declaration?_ofInsertions insertions path).1 hdeclared
    rw [isAbove_empty_iff_head?]
    exact hdot (path, declaration) (by simp [hsplit])
  refine ⟨hproper.nodup_leafPaths hfirst, fun path => ⟨?_, ?_⟩⟩
  · rw [hproper.mem_leafPaths_iff hfirst, isSome_declaration?_iff]
  · rw [← isSome_declaration?_iff]
    exact isSome_declaration?_ofInsertions insertions path

open PathTree in
/-- Empty segments that are not the first of several, and an insertion that fails. -/
theorem leaves_listed_once_empty_segments :
    let insertions := [("a..b", Json.str "string"), ("a", .str "number"), ("", .str "date")]
    (∀ entry ∈ insertions, entry.1.toList.head? ≠ some '.') ∧
    (ofInsertions insertions).leafPaths.Nodup ∧
    "a..b" ∈ (ofInsertions insertions).leafPaths ∧ "" ∈ (ofInsertions insertions).leafPaths ∧
    "a" ∉ (ofInsertions insertions).leafPaths := by
  intro insertions
  have hdot : ∀ entry ∈ insertions, entry.1.toList.head? ≠ some '.' := by decide
  obtain ⟨hnodup, hlisted⟩ := leaves_listed_once insertions hdot
  have hfirst : (empty.insert "a..b" (.str "string")).2 = .ok 3 := by cbv
  have hlast : ((ofInsertions [("a..b", .str "string"), ("a", .str "number")]).insert ""
      (.str "date")).2 = .ok 4 := by cbv
  have hbranch : (ofInsertions insertions).declaration? "a" = none := by cbv
  refine ⟨hdot, hnodup, ?_, ?_, ?_⟩
  · rw [(hlisted "a..b").1, (hlisted "a..b").2]
    exact ⟨[], _, _, 3, rfl, hfirst⟩
  · rw [(hlisted "").1, (hlisted "").2]
    exact ⟨[("a..b", .str "string"), ("a", .str "number")], _, [], 4, rfl, hlast⟩
  · rw [(hlisted "a").1, ← isSome_declaration?_iff, hbranch]
    simp

open PathTree in
/-- Two leaves under one path, where one of the inserted paths starts with a dot. -/
example : (ofInsertions [(".a", .null), ("a", .null)]).leafPaths = ["a", "a"] := by cbv

end RecordSchema
