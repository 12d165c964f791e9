import Mathlib
import RecordSchema.Proofs.DefaultDocument

/-!
# Flags and the mode of a projection

The flags of a projection are first read all together, and they decide its mode. From then on it
only counts whether a path is flagged, no longer how. So the flag of a declared field holds where it
agrees with the mode. An exclusive projection leaves a field out even when the field is flagged as
included.

## Main statements

* `Schema.build_eq_of_keys`: beyond the mode only the flagged paths count.
* `flags_by_mode`: what the document holds at a flagged field.
-/

namespace RecordSchema

open RecordSchema.Path

variable {schema : Schema} {projection other : Projection} {path : String} {field : Descriptor}

namespace Schema

/-! ## The flagged paths -/

/-- Beyond the mode only the flagged paths count. -/
theorem build_eq_of_keys (hkeys : Entries.keys projection.flags = Entries.keys other.flags)
    (hmode : projection.isExclusive schema = other.isExclusive schema) :
    schema.build (some projection) = schema.build (some other) := by
  have hhas : projection.flags.has = other.flags.has := by
    funext path
    rw [Bool.eq_iff_iff, Entries.has_iff_mem_keys, Entries.has_iff_mem_keys, hkeys]
  have hempty : projection.flags.isEmpty = other.flags.isEmpty := by
    simpa [Entries.keys] using congrArg List.isEmpty hkeys
  have hwants : (Selection.ofProjection schema (some projection)).wants
      = (Selection.ofProjection schema (some other)).wants := by
    funext path
    simp only [Selection.ofProjection, hempty, hmode]
    split_ifs <;> simp only [Selection.wants, hhas]
  have hblocks : (Selection.ofProjection schema (some projection)).blocks
      = (Selection.ofProjection schema (some other)).blocks := by
    funext path
    simp only [Selection.ofProjection, hempty, hmode]
    split_ifs <;> simp only [Selection.blocks, hhas]
  simp only [build, wantedDefault, hwants, hblocks]

/-- An exclusive projection leaves out a flagged field, however it is flagged. -/
theorem PrefixFree.at?_build_flagged_exclusive (h : schema.PrefixFree)
    (hpath : path ∈ schema.paths) (hflag : path ∈ Entries.keys projection.flags)
    (hmode : projection.isExclusive schema = true) :
    (schema.build (some projection)).1.at? (segments path) = none := by
  have hlists : projection.Lists path := ⟨path, hflag, .inl rfl⟩
  rw [h.at?_build (some projection) hpath]
  refine Option.eq_none_iff_forall_ne_some.2 fun value hvalue => ?_
  obtain ⟨_, _, hwanted, _⟩ := populated?_eq_some_iff.1 hvalue
  exact hwanted.not_leftOut ⟨hmode, hlists⟩

/-- Any other projection gives a flagged field its default. -/
theorem PrefixFree.at?_build_flagged (h : schema.PrefixFree)
    (hfind : schema.find? path = some field) (hflag : path ∈ Entries.keys projection.flags)
    (hmode : projection.isExclusive schema = false) :
    (schema.build (some projection)).1.at? (segments path) = field.defaultValue := by
  have hwanted : Wanted schema (some projection) path := .inr (.inr ⟨hmode, hflag⟩)
  rw [h.at?_build (some projection) (mem_paths_of_find? hfind),
    populated?_of_wanted hfind hwanted]

end Schema

/-- A projection is exclusive when it excludes a path that is no identifier, and then the document
holds nothing at a flagged field. So it holds nothing at a field that is excluded and no identifier.
When a field is flagged as included and the projection is not exclusive, the document holds its
default there, where it has one; that is what is declared for its path. -/
theorem flags_by_mode (options : SchemaOptions) (edits : List Edit)
    (earlier : List (Option Projection)) (projection : Projection) :
    let schema := (Schema.reached options edits).rebuilt earlier
    let document := (schema.build (some projection)).1
    (projection.isExclusive schema = true ↔
      ∃ path, (path, false) ∈ projection.flags ∧ ¬ schema.IsIdentifier path) ∧
    ∀ path field flag, schema.find? path = some field → projection.flags.get? path = some flag →
      (projection.isExclusive schema = true → document.at? (segments path) = none) ∧
      GivesDefault field.type (timesWanted (Schema.reached options edits) earlier path)
        (declaredDefault? path (history options edits)) field.defaultValue ∧
      (flag = true → projection.isExclusive schema = false →
        document.at? (segments path) = field.defaultValue) ∧
      (flag = false → ¬ schema.IsIdentifier path → document.at? (segments path) = none) := by
  intro schema document
  have htracks := Schema.reached_tracks options edits
  have h : schema.PrefixFree := htracks.prefixFree.rebuilt earlier
  refine ⟨Projection.isExclusive_iff, fun path field flag hfind hget => ?_⟩
  have hpath : path ∈ schema.paths := Schema.mem_paths_of_find? hfind
  have hflag : path ∈ Entries.keys projection.flags :=
    List.mem_map_of_mem (Entries.mem_of_get? hget)
  refine ⟨h.at?_build_flagged_exclusive hpath hflag, htracks.givesDefault_rebuilt earlier hfind,
    ?_, ?_⟩
  · rintro -
    exact h.at?_build_flagged hfind hflag
  · -- the flag of the field is enough to make the projection exclusive
    rintro rfl hplain
    refine h.at?_build_flagged_exclusive hpath hflag (Projection.isExclusive_iff.2 ?_)
    exact ⟨path, Entries.mem_of_get? hget, hplain⟩

/-- An identity and an age with defaults. -/
def identifiedAge : Schema :=
  Schema.reached {} [
    .define "_id" (.obj [("type", .str "ObjectId"), ("default", .str "507f1f77bcf86cd799439011")]),
    .define "age" (.obj [("type", .str "Number"), ("default", .num (.int 30))])]

/-- A field that is flagged as included gets no default from an exclusive projection, and an
excluded identifier gets one from a projection that is not exclusive. -/
theorem flag_overruled_by_mode :
    let mixed := Projection.ofPairs [("age", true), ("tags", false)]
    let withoutIdentity := Projection.ofPairs [("_id", false), ("age", true)]
    ((identifiedAge.find? "age").bind Descriptor.defaultValue = some (.num (.int 30)) ∧
      mixed.flags.get? "age" = some true ∧
      (∀ key ∈ Entries.keys mixed.flags, ¬ IsAbove key "age") ∧
      (identifiedAge.build (some mixed)).1.at? (segments "age") = none) ∧
    ((identifiedAge.find? "_id").isSome = true ∧
      withoutIdentity.flags.get? "_id" = some false ∧
      (∀ key ∈ Entries.keys withoutIdentity.flags, ¬ IsAbove key "_id") ∧
      (identifiedAge.build (some withoutIdentity)).1.at? (segments "_id")
        = some (.str "507f1f77bcf86cd799439011")) := by
  intro mixed withoutIdentity
  have h : identifiedAge.PrefixFree := (Schema.reached_tracks _ _).prefixFree
  have hruns : ((identifiedAge.find? "age").bind Descriptor.defaultValue,
      (identifiedAge.find? "_id").bind Descriptor.defaultValue,
      (Projection.ofPairs [("age", true), ("tags", false)]).isExclusive identifiedAge,
      (Projection.ofPairs [("_id", false), ("age", true)]).isExclusive identifiedAge)
      = (some (.num (.int 30)), some (.str "507f1f77bcf86cd799439011"), true, false) := by
    cbv
  obtain ⟨hage, hid, hmixed, hwithout⟩ := by simpa only [Prod.mk.injEq] using hruns
  obtain ⟨age, hfind, _⟩ := Option.bind_eq_some_iff.1 hage
  obtain ⟨id, hfind', hdefault⟩ := Option.bind_eq_some_iff.1 hid
  refine ⟨⟨hage, by decide, fun key _ => not_isAbove_of_dot_not_mem (by decide), ?_⟩,
    by rw [hfind']; rfl, by decide, fun key _ => not_isAbove_of_dot_not_mem (by decide), ?_⟩
  · exact h.at?_build_flagged_exclusive (Schema.mem_paths_of_find? hfind) (by decide) hmixed
  · rw [h.at?_build_flagged hfind' (by decide) hwithout, hdefault]

end RecordSchema
