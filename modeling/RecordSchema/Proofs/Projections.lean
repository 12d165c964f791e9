import RecordSchema.Proofs.Placement

/-!
# What a projection means

A projection wants a declared field, or leaves out a parent of fields, by the paths that it flags:
those of the field and of what lies above it. Its flags are first read all together. One that
excludes a path other than an identifier makes the projection exclusive.

## Main definitions

* `Projection.Lists`: whether a projection flags a path or one above it.
* `Wanted`, `LeftOut`: what a projection means for a field and for a parent of fields.
* `Schema.IsIdentifier`: the paths whose flags never decide the mode.

## Main statements

* `Projection.mem_lineage_iff`: the lineage of a path is the path and those above it.
* `Projection.isExclusive_iff`: which flags make a projection exclusive.
* `wants_ofProjection_iff`, `isOpen_ofProjection_iff`: the meaning of a projection.
-/

namespace RecordSchema

open RecordSchema.Path

/-! ## Lineages -/

namespace Projection

theorem mem_lineageFrom_iff {passed path : String} {segs : List String} :
    path ∈ lineageFrom passed segs ↔
      ∃ front, front ≠ [] ∧ front <+: segs ∧ path = passed ++ ofSegments front := by
  induction segs generalizing passed with
  | nil => simp [lineageFrom]
  | cons segment rest ih =>
    have hsingle : ofSegments [segment] = segment := by simp [ofSegments]
    rw [lineageFrom, List.mem_cons, ih]
    constructor
    · rintro (rfl | ⟨front, hne, hinit, rfl⟩)
      · exact ⟨[segment], by simp, List.prefix_append [segment] rest, by rw [hsingle]⟩
      · refine ⟨segment :: front, by simp, List.cons_prefix_cons.2 ⟨rfl, hinit⟩, ?_⟩
        rw [ofSegments_cons segment hne]
        simp only [String.append_assoc]
    · rintro ⟨front, hne, hinit, rfl⟩
      obtain ⟨first, front, rfl⟩ := List.exists_cons_of_ne_nil hne
      obtain ⟨rfl, htail⟩ := List.cons_prefix_cons.1 hinit
      by_cases hfront : front = []
      · exact .inl (by rw [hfront, hsingle])
      · refine .inr ⟨front, hfront, htail, ?_⟩
        rw [ofSegments_cons first hfront]
        simp only [String.append_assoc]

/-- The lineage of a path is the path and those above it. -/
theorem mem_lineage_iff {key path : String} :
    key ∈ lineage path ↔ key = path ∨ IsAbove key path := by
  rw [lineage, mem_lineageFrom_iff]
  constructor
  · rintro ⟨front, hne, hinit, rfl⟩
    have hsegs : segments (ofSegments front) = front := segments_ofSegments hne
      fun segment hsegment => dot_not_mem_segment path (hinit.subset hsegment)
    by_cases heq : ofSegments front = path
    · exact .inl (by simpa using heq)
    · exact .inr (isAbove_iff_prefix_ne.2 ⟨by simpa [hsegs] using hinit, by simpa using heq⟩)
  · rintro (rfl | habove)
    · exact ⟨segments key, segments_ne_nil key, List.prefix_refl _, by simp⟩
    · exact ⟨segments key, segments_ne_nil key, (isAbove_iff_prefix_ne.1 habove).1, by simp⟩

/-- Whether a projection flags a path or one above it. -/
def Lists (projection : Projection) (path : String) : Prop :=
  ∃ key ∈ Entries.keys projection.flags, key = path ∨ IsAbove key path

theorem any_lineage_iff {projection : Projection} {path : String} :
    (lineage path).any projection.flags.has = true ↔ projection.Lists path := by
  rw [List.any_eq_true]
  constructor
  · rintro ⟨key, hkey, hflag⟩
    exact ⟨key, (Entries.has_iff_mem_keys _ _).1 hflag, mem_lineage_iff.1 hkey⟩
  · rintro ⟨key, hflag, hkey⟩
    exact ⟨key, mem_lineage_iff.2 hkey, (Entries.has_iff_mem_keys _ _).2 hflag⟩

end Projection

/-! ## The mode -/

/-- Whether a path is the key of the identity or a declared identifier. -/
def Schema.IsIdentifier (schema : Schema) (path : String) : Prop :=
  path = Projection.identityKey ∨
    ∃ field, schema.find? path = some field ∧ field.type.isIdentifier = true

/-- An excluded path that is no identifier makes a projection exclusive. -/
theorem Projection.isExclusive_iff {projection : Projection} {schema : Schema} :
    projection.isExclusive schema = true ↔
      ∃ path, (path, false) ∈ projection.flags ∧ ¬ schema.IsIdentifier path := by
  simp only [isExclusive, List.any_eq_true, Prod.exists, Schema.IsIdentifier, not_or]
  constructor
  · rintro ⟨path, flag, hflag, hdecides⟩
    obtain ⟨⟨rfl, hkey⟩, htype⟩ : (flag = false ∧ path ≠ identityKey) ∧ _ := by
      simpa using hdecides
    refine ⟨path, hflag, hkey, ?_⟩
    rintro ⟨field, hfind, hidentifier⟩
    simp [hfind, hidentifier] at htype
  · rintro ⟨path, hflag, hkey, hplain⟩
    refine ⟨path, false, hflag, ?_⟩
    cases hfind : schema.find? path with
    | none => simp [hkey]
    | some field => simp [hkey, Bool.eq_false_iff.2 fun h => hplain ⟨field, hfind, h⟩]

/-! ## Fields and their parents -/

/-- Whether a projection wants a declared field: all are wanted without flags, those that are not
listed by an exclusive projection, and those that are flagged by any other. -/
def Wanted (schema : Schema) : Option Projection → String → Prop
  | none, _ => True
  | some projection, path => projection.flags = [] ∨
      (projection.isExclusive schema = true ∧ ¬ projection.Lists path) ∨
      (projection.isExclusive schema = false ∧ path ∈ Entries.keys projection.flags)

/-- Whether a projection leaves out a path with all below it: an exclusive one that lists it. -/
def LeftOut (schema : Schema) : Option Projection → String → Prop
  | none, _ => False
  | some projection, path => projection.isExclusive schema = true ∧ projection.Lists path

section

variable {schema : Schema} {projection : Option Projection} {path : String}

theorem wants_ofProjection_iff : (Selection.ofProjection schema projection).wants path = true ↔
    Wanted schema projection path := by
  cases projection with
  | none => exact iff_of_true rfl trivial
  | some projection =>
    simp only [Selection.ofProjection, Wanted]
    split
    · rename_i hflags
      exact iff_of_true rfl (.inl (List.isEmpty_iff.1 hflags))
    · rename_i hflags
      have hne : projection.flags ≠ [] := fun hnil => hflags (List.isEmpty_iff.2 hnil)
      split
      · rename_i hexclusive
        simp [Selection.wants, hne, hexclusive, ← Projection.any_lineage_iff]
      · rename_i hexclusive
        simp [Selection.wants, hne, hexclusive, Entries.has_iff_mem_keys]

theorem isOpen_ofProjection_iff :
    IsOpen (Selection.ofProjection schema projection).blocks "" (segments path) ↔
      ¬ LeftOut schema projection path := by
  cases projection with
  | none => exact iff_of_true (fun _ _ => rfl) id
  | some projection =>
    simp only [Selection.ofProjection, LeftOut]
    split
    · rename_i hflags
      have hexclusive : projection.isExclusive schema = false := by
        rw [Projection.isExclusive, List.isEmpty_iff.1 hflags]
        rfl
      exact iff_of_true (fun _ _ => rfl) (by simp [hexclusive])
    · split
      · rename_i hexclusive
        rw [and_iff_right hexclusive, ← Projection.any_lineage_iff, List.any_eq_true]
        simp only [IsOpen, Selection.blocks, Projection.lineage, not_exists, not_and,
          Bool.not_eq_true]
      · rename_i hexclusive
        exact iff_of_true (fun _ _ => rfl) (by simp [hexclusive])

/-- A wanted field is not left out. -/
theorem Wanted.not_leftOut (h : Wanted schema projection path) :
    ¬ LeftOut schema projection path := by
  cases projection with
  | none => exact id
  | some projection =>
    rintro ⟨hexclusive, hlists⟩
    obtain ⟨key, hkey, _⟩ := id hlists
    rcases h with hnil | ⟨_, hfree⟩ | ⟨hinclusive, _⟩
    · rw [hnil] at hkey
      exact absurd hkey List.not_mem_nil
    · exact hfree hlists
    · rw [hexclusive] at hinclusive
      cases hinclusive

end

end RecordSchema
