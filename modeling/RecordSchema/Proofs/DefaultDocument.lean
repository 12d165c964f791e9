import RecordSchema.Proofs.Defaults

/-!
# What a default document holds

A default document holds the default of each declared field that the projection wants, an object
above each declared field, and nothing else. No default stands in the way of another one, because
no declared path lies above another one.

## Main definitions

* `Selection.defaults`: the paths of fields, each with its default where the field is wanted.
* `Schema.PrefixFree`: whether no declared path lies above another one.
* `Schema.populated?`: the default that a projection gives to a declared field.

## Main statements

* `Schema.PrefixFree.built`: the document of the first fields, for any number of them.
* `build_document`: the whole document.
-/

namespace RecordSchema

open RecordSchema.Path

/-! ## The document -/

/-- The paths of some fields, each with its default where the field is wanted. -/
def Selection.defaults (selection : Selection) (fields : List (String × Descriptor)) :
    List (String × Option Json) :=
  fields.map fun entry => (entry.1, Schema.wantedDefault selection entry.1 entry.2)

namespace Schema

variable {schema : Schema}

theorem build_fst (schema : Schema) (projection : Option Projection) :
    (schema.build projection).1
      = .obj (placeAll (Selection.ofProjection schema projection).blocks
          ((Selection.ofProjection schema projection).defaults schema.fields)) := by
  rw [placeAll, Selection.defaults, List.foldl_map]
  rfl

/-- Whether no path is declared twice and none lies above another one. -/
structure PrefixFree (schema : Schema) : Prop where
  /-- No path is declared twice. -/
  distinct : schema.paths.Nodup
  /-- No path lies above another one. -/
  not_isAbove {path other : String} (hpath : path ∈ schema.paths) (hother : other ∈ schema.paths) :
    ¬ IsAbove path other

theorem Tracks.prefixFree {options : SchemaOptions} {log : List Change}
    (h : schema.Tracks options log) : schema.PrefixFree :=
  ⟨h.distinct, h.not_isAbove⟩

namespace PrefixFree

theorem build (h : schema.PrefixFree) (projection : Option Projection) :
    (schema.build projection).2.PrefixFree where
  distinct := by
    rw [paths_build]
    exact h.distinct
  not_isAbove hpath hother := by
    rw [paths_build] at hpath hother
    exact h.not_isAbove hpath hother

theorem rebuilt (h : schema.PrefixFree) (earlier : List (Option Projection)) :
    (schema.rebuilt earlier).PrefixFree := by
  induction earlier generalizing schema with
  | nil => exact h
  | cons projection earlier ih => exact ih (h.build projection)

theorem apart (h : schema.PrefixFree) {path other : String} (hpath : path ∈ schema.paths)
    (hother : other ∈ schema.paths) (hne : path ≠ other) : Apart path other :=
  ⟨fun hinit => h.not_isAbove hpath hother (isAbove_iff_prefix_ne.2 ⟨hinit, hne⟩),
    fun hinit => h.not_isAbove hother hpath (isAbove_iff_prefix_ne.2 ⟨hinit, hne.symm⟩)⟩

theorem pairwise_apart (h : schema.PrefixFree) (selection : Selection) :
    (selection.defaults schema.fields).Pairwise fun entry other => Apart entry.1 other.1 := by
  rw [Selection.defaults, List.pairwise_map]
  refine (List.pairwise_map.1 h.distinct).imp_of_mem fun {entry other} hentry hother hne => ?_
  exact h.apart (List.mem_map_of_mem hentry) (List.mem_map_of_mem hother) hne

/-- The document of the first fields, for any number of them. -/
theorem built (h : schema.PrefixFree) (selection : Selection)
    {before after : List (String × Descriptor)} (hfields : schema.fields = before ++ after) :
    Built selection.blocks (selection.defaults before)
      (placeAll selection.blocks (selection.defaults before)) := by
  have hpairwise := h.pairwise_apart selection
  rw [hfields, Selection.defaults, List.map_append] at hpairwise
  exact built_placeAll (List.pairwise_append.1 hpairwise).1

/-- When the default of a field is written, its place is free, and what is on the way to it is an
object. -/
theorem slot (h : schema.PrefixFree) (selection : Selection) {path : String} {field : Descriptor}
    {before after : List (String × Descriptor)} {front : List String} {value : Json}
    (hfields : schema.fields = before ++ (path, field) :: after)
    (hne : front ≠ []) (hinit : front <+: segments path)
    (hvalue : (Json.obj (placeAll selection.blocks (selection.defaults before))).at? front
      = some value) : front ≠ segments path ∧ ∃ fields, value = .obj fields := by
  have hpairwise := h.pairwise_apart selection
  rw [hfields, Selection.defaults, List.map_append] at hpairwise
  obtain ⟨_, _, hapart⟩ := List.pairwise_append.1 hpairwise
  obtain ⟨hfree, fields, hobj, _⟩ := (h.built selection hfields).slot
    (fun entry hentry => hapart entry hentry _ (.head _)) hne hinit hvalue
  exact ⟨hfree, fields, hobj⟩

end PrefixFree

theorem mem_paths_of_mem_defaults {selection : Selection} {entry : String × Option Json}
    (hmem : entry ∈ selection.defaults schema.fields) : entry.1 ∈ schema.paths := by
  obtain ⟨field, hfield, rfl⟩ := List.mem_map.1 hmem
  exact List.mem_map_of_mem hfield

theorem wantedDefault_eq_some_iff {projection : Option Projection} {path : String}
    {field : Descriptor} {value : Json} :
    wantedDefault (Selection.ofProjection schema projection) path field = some value ↔
      Wanted schema projection path ∧ field.defaultValue = some value := by
  rw [wantedDefault, ← wants_ofProjection_iff]
  split
  · rename_i hwants
    exact (and_iff_right hwants).symm
  · rename_i hwants
    exact iff_of_false (by simp) fun h => hwants h.1

/-- The default that a projection gives to a declared field. -/
def populated? (schema : Schema) (projection : Option Projection) (path : String) : Option Json :=
  (schema.find? path).bind (wantedDefault (Selection.ofProjection schema projection) path)

theorem populated?_of_wanted {projection : Option Projection} {path : String} {field : Descriptor}
    (hfind : schema.find? path = some field) (hwanted : Wanted schema projection path) :
    schema.populated? projection path = field.defaultValue := by
  rw [populated?, hfind]
  exact if_pos (wants_ofProjection_iff.2 hwanted)

theorem populated?_of_not_wanted {projection : Option Projection} {path : String}
    {field : Descriptor} (hfind : schema.find? path = some field)
    (hunwanted : ¬ Wanted schema projection path) : schema.populated? projection path = none := by
  rw [populated?, hfind]
  exact if_neg (mt wants_ofProjection_iff.1 hunwanted)

theorem populated?_eq_some_iff {projection : Option Projection} {path : String} {value : Json} :
    schema.populated? projection path = some value ↔ ∃ field, schema.find? path = some field ∧
      Wanted schema projection path ∧ field.defaultValue = some value := by
  simp only [populated?, Option.bind_eq_some_iff, wantedDefault_eq_some_iff]

namespace PrefixFree

theorem mem_defaults_iff (h : schema.PrefixFree) {projection : Option Projection} {path : String}
    {value : Json} : (path, some value)
      ∈ (Selection.ofProjection schema projection).defaults schema.fields ↔
        schema.populated? projection path = some value := by
  rw [Selection.defaults, List.mem_map, populated?, Option.bind_eq_some_iff]
  constructor
  · rintro ⟨⟨other, field⟩, hmem, heq⟩
    obtain ⟨rfl, hvalue⟩ := Prod.mk.inj heq
    exact ⟨field, Entries.get?_of_mem h.distinct hmem, hvalue⟩
  · rintro ⟨field, hfind, hvalue⟩
    exact ⟨(path, field), Entries.mem_of_get? hfind, by rw [hvalue]⟩

/-- What lies at a path from the place of a declared field on belongs to this field. -/
theorem eq_of_prefix (h : schema.PrefixFree) {path other : String} (hpath : path ∈ schema.paths)
    (hother : other ∈ schema.paths) (hinit : segments path <+: segments other) : path = other := by
  by_contra hne
  exact (h.apart hpath hother hne).1 hinit

variable (projection : Option Projection)

/-- A document holds what the projection gives to a declared field, at its segments. -/
theorem at?_build (h : schema.PrefixFree) {path : String} (hpath : path ∈ schema.paths) :
    (schema.build projection).1.at? (segments path) = schema.populated? projection path := by
  have hbuilt := h.built (Selection.ofProjection schema projection) (List.append_nil _).symm
  rw [build_fst]
  cases hvalue : schema.populated? projection path with
  | some value =>
    obtain ⟨field, _, hwanted, _⟩ := populated?_eq_some_iff.1 hvalue
    exact hbuilt.default (h.mem_defaults_iff.2 hvalue)
      (isOpen_ofProjection_iff.2 hwanted.not_leftOut)
  | none =>
    -- anything found there would belong to another declared path above or below this one
    refine Option.eq_none_iff_forall_ne_some.2 fun found hfound => ?_
    rcases hbuilt.only (segments_ne_nil path) hfound with
      ⟨entry, hmem, hinit, hproper, _⟩ | ⟨other, default, rest, hmem, _, hsegs, _⟩
    · cases h.eq_of_prefix hpath (mem_paths_of_mem_defaults hmem) hinit
      exact hproper rfl
    · obtain rfl : other = path :=
        h.eq_of_prefix (mem_paths_of_mem_defaults hmem) hpath ⟨rest, hsegs.symm⟩
      rw [h.mem_defaults_iff.1 hmem] at hvalue
      cases hvalue

/-- A document has an object above a declared field, unless it is left out. -/
theorem at?_build_parent (h : schema.PrefixFree) {parent path : String}
    (hpath : path ∈ schema.paths) (habove : IsAbove parent path)
    (hkept : ¬ LeftOut schema projection parent) : ∃ fields,
      (schema.build projection).1.at? (segments parent) = some (.obj fields) ∧
        (Entries.keys fields).Nodup := by
  have hbuilt := h.built (Selection.ofProjection schema projection) (List.append_nil _).symm
  obtain ⟨entry, hentry, rfl⟩ := List.mem_map.1 hpath
  obtain ⟨hinit, hne⟩ := isAbove_iff_prefix_ne.1 habove
  rw [build_fst]
  exact hbuilt.parent (List.mem_map_of_mem hentry) (segments_ne_nil parent) hinit
    (fun hsegs => hne (segments_inj hsegs)) (isOpen_ofProjection_iff.2 hkept)

/-- Whatever a document holds is itself, an object above a declared field, or part of a default. -/
theorem at?_build_cases (h : schema.PrefixFree) {segs : List String} {value : Json}
    (hvalue : (schema.build projection).1.at? segs = some value) : segs = [] ∨
    (∃ parent, ∃ path ∈ schema.paths, IsAbove parent path ∧
      ¬ LeftOut schema projection parent ∧ segs = segments parent) ∨
    ∃ path default rest, schema.populated? projection path = some default ∧
      segs = segments path ++ rest ∧ default.at? rest = some value := by
  have hbuilt := h.built (Selection.ofProjection schema projection) (List.append_nil _).symm
  rw [build_fst] at hvalue
  by_cases hne : segs = []
  · exact .inl hne
  · refine .inr ?_
    rcases hbuilt.only hne hvalue with
      ⟨entry, hmem, hinit, hproper, hopen⟩ | ⟨path, default, rest, hmem, _, hsegs, hrest⟩
    · have hparent : segments (ofSegments segs) = segs := segments_ofSegments hne
        fun segment hsegment => dot_not_mem_segment entry.1 (hinit.subset hsegment)
      refine .inl ⟨ofSegments segs, entry.1, mem_paths_of_mem_defaults hmem, ?_, ?_, hparent.symm⟩
      · refine isAbove_iff_prefix_ne.2 ⟨by rwa [hparent], fun heq => hproper ?_⟩
        rw [← heq, hparent]
      · rw [← isOpen_ofProjection_iff, hparent]
        exact hopen
    · exact .inr ⟨path, default, rest, h.mem_defaults_iff.1 hmem, hsegs, hrest⟩

/-- A document has nothing above a declared field where it is left out. -/
theorem at?_build_leftOut (h : schema.PrefixFree) {parent path : String}
    (hpath : path ∈ schema.paths) (habove : IsAbove parent path)
    (hleft : LeftOut schema projection parent) :
    (schema.build projection).1.at? (segments parent) = none := by
  refine Option.eq_none_iff_forall_ne_some.2 fun value hvalue => ?_
  rcases h.at?_build_cases projection hvalue with
    hnil | ⟨other, _, _, _, hkept, hsegs⟩ | ⟨other, default, rest, hdefault, hsegs, _⟩
  · exact segments_ne_nil parent hnil
  · cases segments_inj hsegs
    exact hkept hleft
  · -- the default would be that of a declared path above another one
    obtain ⟨field, hfind, _⟩ := populated?_eq_some_iff.1 hdefault
    obtain ⟨hinit, hne⟩ := isAbove_iff_prefix_ne.1 habove
    have hother : segments other <+: segments parent := ⟨rest, hsegs.symm⟩
    obtain rfl : other = path :=
      h.eq_of_prefix (mem_paths_of_find? hfind) hpath (hother.trans hinit)
    exact hne (segments_inj (hinit.eq_of_length_le hother.length_le))

end PrefixFree

end Schema

/-- The default of a field is what is declared for its path: a fixed value, or the answer of a
producer to its next call, which has been called once for each earlier document that wanted the
path; without a declared default, a collection is an empty list and any other field has none. A
projection is exclusive when it excludes a path that is no identifier. A default document holds the
default of each wanted field, where it has one, and nothing at the other declared paths. Above a
declared field it holds an object, unless an exclusive projection lists it or a path above it; then
there is nothing. Apart from what the defaults contain it holds nothing else. When the default of a
field is written, its place is free, and what is already there on the way to it is an object. -/
theorem build_document (options : SchemaOptions) (edits : List Edit)
    (earlier : List (Option Projection)) (projection : Option Projection) :
    let schema := (Schema.reached options edits).rebuilt earlier
    let selection := Selection.ofProjection schema projection
    let document := (schema.build projection).1
    (∀ path field, schema.find? path = some field →
      GivesDefault field.type (timesWanted (Schema.reached options edits) earlier path)
        (declaredDefault? path (history options edits)) field.defaultValue ∧
      (Wanted schema projection path → document.at? (segments path) = field.defaultValue) ∧
      (¬ Wanted schema projection path → document.at? (segments path) = none)) ∧
    (∀ flagged, projection = some flagged → (flagged.isExclusive schema = true ↔
      ∃ path, (path, false) ∈ flagged.flags ∧ ¬ schema.IsIdentifier path)) ∧
    (∀ path ∈ schema.paths, ∀ parent, IsAbove parent path →
      (¬ LeftOut schema projection parent → ∃ fields,
        document.at? (segments parent) = some (.obj fields) ∧ (Entries.keys fields).Nodup) ∧
      (LeftOut schema projection parent → document.at? (segments parent) = none)) ∧
    (∃ fields, document = .obj fields ∧ (Entries.keys fields).Nodup) ∧
    (∀ segs value, document.at? segs = some value → segs = [] ∨
      (∃ parent, ∃ path ∈ schema.paths, IsAbove parent path ∧
        ¬ LeftOut schema projection parent ∧ segs = segments parent) ∨
      ∃ path field default rest, schema.find? path = some field ∧
        Wanted schema projection path ∧ field.defaultValue = some default ∧
        segs = segments path ++ rest ∧ default.at? rest = some value) ∧
    (document = .obj (placeAll selection.blocks (selection.defaults schema.fields)) ∧
      ∀ before path field after, schema.fields = before ++ (path, field) :: after →
        ∀ front value, front ≠ [] → front <+: segments path →
          (Json.obj (placeAll selection.blocks (selection.defaults before))).at? front
            = some value →
          front ≠ segments path ∧ ∃ fields, value = .obj fields) := by
  intro schema selection document
  have htracks := Schema.reached_tracks options edits
  have h : schema.PrefixFree := htracks.prefixFree.rebuilt earlier
  refine ⟨fun path field hfind => ⟨htracks.givesDefault_rebuilt earlier hfind, fun hwanted => ?_,
      fun hunwanted => ?_⟩, fun flagged _ => Projection.isExclusive_iff,
    fun path hpath parent habove => ⟨h.at?_build_parent projection hpath habove, fun hleft => ?_⟩,
    ?_, fun segs value hvalue => ?_, schema.build_fst projection, ?_⟩
  · exact (h.at?_build projection (Schema.mem_paths_of_find? hfind)).trans
      (Schema.populated?_of_wanted hfind hwanted)
  · exact (h.at?_build projection (Schema.mem_paths_of_find? hfind)).trans
      (Schema.populated?_of_not_wanted hfind hunwanted)
  · exact h.at?_build_leftOut projection hpath habove hleft
  · have hbuilt := h.built selection (List.append_nil _).symm
    exact ⟨_, schema.build_fst projection, hbuilt.nodup⟩
  · rcases h.at?_build_cases projection hvalue with
      hnil | hparent | ⟨path, default, rest, hdefault, hsegs, hrest⟩
    · exact .inl hnil
    · exact .inr (.inl hparent)
    · obtain ⟨field, hfind, hwanted, hvalue⟩ := Schema.populated?_eq_some_iff.1 hdefault
      exact .inr (.inr ⟨path, field, default, rest, hfind, hwanted, hvalue, hsegs, hrest⟩)
  · exact fun before path field after hfields front value hne hinit =>
      h.slot selection hfields hne hinit

end RecordSchema
