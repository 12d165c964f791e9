import RecordSchema.Proofs.History
import RecordSchema.Statement

/-!
# The two sides of a schema agree

A schema keeps its fields twice: in the tree, with their declarations, and under their paths, with
their descriptors. After any run of edits both sides hold the same paths, and the descriptor of a
path comes from the declaration in the tree.

## Main statements

* `Schema.Tracks.perm_leafPaths`: the tree lists the paths of the descriptors.
* `Schema.Tracks.not_isAbove`: no declared path lies below another one.
* `Schema.Tracks.find?_described`: where a descriptor comes from.
* `reached_consistent`: all this after any run of edits.
-/

namespace RecordSchema

open RecordSchema.Path

theorem Schema.mem_paths_of_find? {schema : Schema} {path : String} {field : Descriptor}
    (h : schema.find? path = some field) : path ∈ schema.paths :=
  List.mem_map_of_mem (Entries.mem_of_get? h)

namespace Schema.Tracks

variable {schema : Schema} {options : SchemaOptions} {log : List Change}

/-- Where a descriptor comes from. -/
theorem find?_described (h : schema.Tracks options log) {path : String} {field : Descriptor}
    (hfind : schema.find? path = some field) :
    pathFault? path = none ∧ ∃ declaration meaning,
      lastDeclaration? path log = some declaration ∧
      interpret options path declaration = .ok meaning ∧
      field = (attachments path log).foldl Attachment.applyTo meaning := by
  cases hlast : lastDeclaration? path log with
  | none =>
    rw [h.undescribed hlast] at hfind
    cases hfind
  | some declaration =>
    obtain ⟨hpath, meaning, hmeaning, hfound⟩ := h.described hlast
    rw [hfound] at hfind
    exact ⟨hpath, declaration, meaning, rfl, hmeaning, (Option.some.inj hfind).symm⟩

theorem mem_paths_iff (h : schema.Tracks options log) {path : String} :
    path ∈ schema.paths ↔ (lastDeclaration? path log).isSome := by
  rw [paths, ← Entries.has_iff_mem_keys, Entries.has, ← Schema.find?]
  cases hlast : lastDeclaration? path log with
  | none => simp [h.undescribed hlast]
  | some declaration =>
    obtain ⟨_, meaning, _, hfound⟩ := h.described hlast
    simp [hfound]

theorem declaration?_isSome_iff (h : schema.Tracks options log) {path : String} :
    (schema.tree.declaration? path).isSome ↔ path ∈ schema.paths := by
  rw [h.declared, h.mem_paths_iff]

theorem exists_find? (h : schema.Tracks options log) {path : String} (hpath : path ∈ schema.paths) :
    ∃ field, schema.find? path = some field := by
  obtain ⟨declaration, hlast⟩ := Option.isSome_iff_exists.1 (h.mem_paths_iff.1 hpath)
  obtain ⟨_, meaning, _, hfound⟩ := h.described hlast
  exact ⟨_, hfound⟩

/-- A declared path has no empty segments. -/
theorem empty_not_mem_segments (h : schema.Tracks options log) {path : String}
    (hpath : path ∈ schema.paths) : "" ∉ segments path := by
  obtain ⟨field, hfind⟩ := h.exists_find? hpath
  exact (pathFault?_eq_none_iff.1 (h.find?_described hfind).1).2

theorem not_isAbove_empty (h : schema.Tracks options log) (path : String)
    (hpath : (schema.tree.declaration? path).isSome) : ¬IsAbove "" path := by
  rw [isAbove_empty_iff]
  rintro ⟨rest, _, hsegs⟩
  have hfilled := h.empty_not_mem_segments (h.declaration?_isSome_iff.1 hpath)
  rw [hsegs] at hfilled
  exact hfilled List.mem_cons_self

/-- No declared path lies below another one. -/
theorem not_isAbove (h : schema.Tracks options log) {path other : String}
    (hpath : path ∈ schema.paths) (hother : other ∈ schema.paths) : ¬IsAbove path other :=
  h.proper.not_isAbove (h.declaration?_isSome_iff.2 hpath) (h.declaration?_isSome_iff.2 hother)

/-- At most one declared path lies above a path. -/
theorem eq_of_isAbove (h : schema.Tracks options log) {path other below : String}
    (hpath : path ∈ schema.paths) (hother : other ∈ schema.paths) (habove : IsAbove path below)
    (habove' : IsAbove other below) : path = other := by
  rcases habove.comparable habove' with heq | hlt | hgt
  · exact heq
  · exact absurd hlt (h.not_isAbove hpath hother)
  · exact absurd hgt (h.not_isAbove hother hpath)

theorem nodup_leafPaths (h : schema.Tracks options log) : schema.leafPaths.Nodup :=
  h.proper.nodup_leafPaths h.not_isAbove_empty

theorem mem_leafPaths_iff (h : schema.Tracks options log) {path : String} :
    path ∈ schema.leafPaths ↔ path ∈ schema.paths := by
  rw [leafPaths, h.proper.mem_leafPaths_iff h.not_isAbove_empty, h.declaration?_isSome_iff]

theorem mem_leafPaths_of_find? (h : schema.Tracks options log) {path : String} {field : Descriptor}
    (hfind : schema.find? path = some field) : path ∈ schema.leafPaths :=
  h.mem_leafPaths_iff.2 (mem_paths_of_find? hfind)

/-- The tree lists the paths of the descriptors. -/
theorem perm_leafPaths (h : schema.Tracks options log) : schema.leafPaths.Perm schema.paths :=
  (List.perm_ext_iff_of_nodup h.nodup_leafPaths h.distinct).2 fun _ => h.mem_leafPaths_iff

theorem path_eq (h : schema.Tracks options log) {path : String} {field : Descriptor}
    (hfind : schema.find? path = some field) : field.path = path := by
  obtain ⟨_, declaration, meaning, _, hmeaning, rfl⟩ := h.find?_described hfind
  obtain ⟨default, happlied⟩ := Attachment.foldl_applyTo meaning (attachments path log)
  rw [happlied]
  exact (interpret_described hmeaning).path_eq

/-- Looking up the leaves of a sublist of the tree drops none of them. -/
theorem map_path_filterMap_find? (h : schema.Tracks options log) {leaves : List String}
    (hleaves : leaves ⊆ schema.leafPaths) :
    (leaves.filterMap schema.find?).map Descriptor.path = leaves := by
  induction leaves with
  | nil => rfl
  | cons path rest ih =>
    obtain ⟨hpath, hrest⟩ := List.cons_subset.1 hleaves
    obtain ⟨field, hfind⟩ := h.exists_find? (h.mem_leafPaths_iff.1 hpath)
    rw [List.filterMap_cons_some hfind, List.map_cons, h.path_eq hfind, ih hrest]

end Schema.Tracks

/-- After any run of edits, the tree lists each described path once and no other; no declared path
is below another one; and each descriptor stands at its own path, where the tree holds the last
declaration, which means its column, type, items and options. So no leaf is without a descriptor,
and no leaf is lost where descriptors are looked up. -/
theorem reached_consistent (options : SchemaOptions) (edits : List Edit) :
    let schema := Schema.reached options edits
    schema.leafPaths.Nodup ∧
    schema.leafPaths.Perm schema.paths ∧
    (∀ path ∈ schema.paths, ∀ other ∈ schema.paths, ¬IsAbove path other) ∧
    (∀ path field, (path, field) ∈ schema.fields →
      field.path = path ∧ ∃ declaration meaning,
        lastDeclaration? path (history options edits) = some declaration ∧
        schema.tree.get? path = some (.leaf declaration) ∧
        interpret schema.options path declaration = .ok meaning ∧
        field.column = meaning.column ∧ field.type = meaning.type ∧
        field.element = meaning.element ∧ field.options = meaning.options) ∧
    (∀ path ∈ schema.leafPaths, ∃ field, schema.find? path = some field) ∧
    ∀ listed, (((schema.leafPaths.filter (isListed listed)).filterMap schema.find?).map
      Descriptor.path) = schema.leafPaths.filter (isListed listed) := by
  intro schema
  have h : schema.Tracks options (history options edits) := Schema.reached_tracks options edits
  refine ⟨h.nodup_leafPaths, h.perm_leafPaths, fun path hpath other hother => ?_, ?_, ?_, ?_⟩
  · exact h.not_isAbove hpath hother
  · intro path field hmem
    have hfind : schema.find? path = some field := Entries.get?_of_mem h.distinct hmem
    obtain ⟨_, declaration, meaning, hlast, hmeaning, hfield⟩ := h.find?_described hfind
    obtain ⟨default, happlied⟩ :=
      Attachment.foldl_applyTo meaning (attachments path (history options edits))
    rw [happlied] at hfield
    refine ⟨h.path_eq hfind, declaration, meaning, hlast, ?_, h.options_eq.symm ▸ hmeaning, ?_⟩
    · rw [← PathTree.declaration?_eq_some_iff, h.declared, hlast]
    · rw [hfield]
      exact ⟨rfl, rfl, rfl, rfl⟩
  · exact fun path hpath => h.exists_find? (h.mem_leafPaths_iff.1 hpath)
  · exact fun listed => h.map_path_filterMap_find? (List.filter_subset_self _)

end RecordSchema
