import RecordSchema.Proofs.Consistency
import RecordSchema.Proofs.Projections

/-!
# What the default of a field is

The log of a schema says which default a path has: the last one that was attached to it since its
last definition, or else the one that this definition gives. A fixed default is given to each
document. A producer is asked anew, for each document that wants its path, and gives its answer to
that call. Where no default is declared a collection is empty, and any other field is left out.

## Main definitions

* `declaredDefault?`: the default that a log declares for a path.
* `GivesDefault`: what a declared default gives to a document.
* `Schema.rebuilt`: a schema after documents have been built.
* `timesWanted`: how many documents want a path.

## Main statements

* `Schema.find?_build`, `Schema.isExclusive_rebuilt`: what building a document leaves alone.
* `Schema.rebuilt_eq`: what documents leave behind in a schema.
* `Schema.Tracks.default_eq`: the default of a descriptor is the one declared.
* `Schema.Tracks.givesDefault_rebuilt`: what a field is in the next document.
-/

namespace RecordSchema

open RecordSchema.Path

/-! ## Declared defaults -/

/-- The default that is attached, if it is one. A producer has not been called yet. -/
def Attachment.default? : Attachment → Option Default
  | validate _ _ => none
  | validateWith _ => none
  | setDefault value => some (.literal value)
  | defaultWith answer => some (.producer answer 0)

/-- The default that a log declares for a path. The log has its newest entry first; a definition
begins anew, with the default of its options. -/
def declaredDefault? (path : String) : List Change → Option Default
  | [] => none
  | .defined key declaration :: earlier =>
    if key = path then ((fieldOptions declaration).get? "default").map .literal
    else declaredDefault? path earlier
  | .attached key attachment :: earlier =>
    if key = path then attachment.default?.or (declaredDefault? path earlier)
    else declaredDefault? path earlier

/-- What a declared default gives to the document for which it has been asked a number of times
before, in a field of a type. -/
inductive GivesDefault (type : FieldType) (asked : Nat) : Option Default → Option Json → Prop
  /-- A fixed value is given as it is. -/
  | literal (value : Json) : GivesDefault type asked (some (.literal value)) (some value)
  /-- A producer gives its answer to this call; it may answer that there is no default. -/
  | producer (answer : Nat → Option Json) :
      GivesDefault type asked (some (.producer answer 0)) (answer asked)
  /-- A collection without a default is empty. -/
  | empty (htype : type = .collection) : GivesDefault type asked none (some (.arr []))
  /-- Any other field without a default is left out. -/
  | nothing (htype : type ≠ .collection) : GivesDefault type asked none none

theorem Attachment.default_applyTo (descriptor : Descriptor) (attachment : Attachment) :
    (attachment.applyTo descriptor).default = attachment.default?.or descriptor.default := by
  cases attachment <;> rfl

/-- What is attached after a definition decides the default as the log says. -/
theorem default_foldl_attachments {path : String} {log : List Change} {declaration : Json}
    {meaning : Descriptor} (hlast : lastDeclaration? path log = some declaration)
    (hmeaning : meaning.default = ((fieldOptions declaration).get? "default").map .literal) :
    ((attachments path log).foldl Attachment.applyTo meaning).default
      = declaredDefault? path log := by
  induction log with
  | nil => cases hlast
  | cons change earlier ih =>
    cases change with
    | defined key other =>
      rw [lastDeclaration?] at hlast
      rw [attachments, declaredDefault?]
      by_cases hkey : key = path
      · rw [if_pos hkey] at hlast ⊢
        rw [if_pos hkey, List.foldl_nil, hmeaning, Option.some.inj hlast]
      · rw [if_neg hkey] at hlast ⊢
        rw [if_neg hkey, ih hlast]
    | attached key attachment =>
      rw [lastDeclaration?] at hlast
      rw [attachments, declaredDefault?]
      by_cases hkey : key = path
      · rw [if_pos hkey, if_pos hkey, List.foldl_append, List.foldl_cons, List.foldl_nil,
          Attachment.default_applyTo, ih hlast]
      · rw [if_neg hkey, if_neg hkey, ih hlast]

/-- A producer that a log declares has not been called yet. -/
theorem calls_eq_zero_of_declaredDefault? {path : String} {log : List Change}
    {answer : Nat → Option Json} {calls : Nat}
    (h : declaredDefault? path log = some (.producer answer calls)) : calls = 0 := by
  induction log with
  | nil => cases h
  | cons change earlier ih =>
    cases change with
    | defined key declaration =>
      rw [declaredDefault?] at h
      split at h
      · obtain ⟨value, _, hvalue⟩ := Option.map_eq_some_iff.1 h
        cases hvalue
      · exact ih h
    | attached key attachment =>
      rw [declaredDefault?] at h
      split at h
      · cases attachment with
        | validate | validateWith => exact ih h
        | setDefault value => cases h
        | defaultWith answer =>
          cases h
          rfl
      · exact ih h

/-! ## Asking for defaults -/

/-- A default after it has been asked a number of times. -/
def Default.asked (times : Nat) : Default → Default
  | literal value => literal value
  | producer answer calls => producer answer (calls + times)

/-- A descriptor after its default has been asked a number of times. -/
def Descriptor.asked (times : Nat) (field : Descriptor) : Descriptor :=
  { field with default := field.default.map (Default.asked times) }

theorem Descriptor.asked_zero (field : Descriptor) : field.asked 0 = field := by
  have hdefault : field.default.map (Default.asked 0) = field.default := by
    rcases field.default with _ | _ | _ <;> rfl
  rw [asked, hdefault]
  cases field
  rfl

theorem Descriptor.asked_succ (times : Nat) (field : Descriptor) :
    field.asked (times + 1) = (field.asked times).advance := by
  have hdefault : field.default.map (Default.asked (times + 1))
      = (field.default.map (Default.asked times)).map Default.advance := by
    rcases field.default with _ | _ | _ <;> rfl
  rw [asked, hdefault]
  rfl

/-- What a field is after its default has been asked a number of times. -/
theorem Descriptor.givesDefault_asked {field : Descriptor}
    (hfresh : ∀ answer calls, field.default = some (.producer answer calls) → calls = 0)
    (times : Nat) :
    GivesDefault field.type times field.default (field.asked times).defaultValue := by
  rw [defaultValue, asked]
  cases hdefault : field.default with
  | none =>
    by_cases htype : field.type = .collection
    · simpa [htype] using GivesDefault.empty htype
    · simpa [htype] using GivesDefault.nothing htype
  | some default =>
    cases default with
    | literal value => exact .literal value
    | producer answer calls =>
      obtain rfl := hfresh answer calls hdefault
      simpa [Default.asked, Default.value] using GivesDefault.producer answer

/-! ## What building a document leaves behind -/

namespace Schema

variable {schema : Schema}

@[simp] theorem paths_build (schema : Schema) (projection : Option Projection) :
    (schema.build projection).2.paths = schema.paths := by
  simp [build, paths, Entries.keys, Function.comp_def]

/-- Building a document asks the wanted fields for their next default, and changes no field beyond
that. -/
theorem find?_build (schema : Schema) (projection : Option Projection) (path : String) :
    (schema.build projection).2.find? path = (schema.find? path).map fun field =>
      if (Selection.ofProjection schema projection).wants path then field.advance else field :=
  Entries.get?_map_keyed (fun path (field : Descriptor) =>
    if (Selection.ofProjection schema projection).wants path then field.advance else field)
    schema.fields path

/-- The schema after documents have been built, which may have asked producers for defaults. -/
def rebuilt (schema : Schema) (earlier : List (Option Projection)) : Schema :=
  earlier.foldl (fun schema projection => (schema.build projection).2) schema

theorem isIdentifier_build (projection : Option Projection) (path : String) :
    (schema.build projection).2.IsIdentifier path ↔ schema.IsIdentifier path := by
  rw [IsIdentifier, IsIdentifier, find?_build]
  cases schema.find? path with
  | none => exact Iff.rfl
  | some field =>
    have htype : (if (Selection.ofProjection schema projection).wants path then field.advance
        else field).type = field.type := by
      split <;> rfl
    simp [htype]

/-- Building documents does not change the mode of a projection. -/
theorem isExclusive_rebuilt {projection : Projection} (earlier : List (Option Projection)) :
    projection.isExclusive (schema.rebuilt earlier) = projection.isExclusive schema := by
  induction earlier generalizing schema with
  | nil => rfl
  | cons first earlier ih =>
    refine (@ih (schema.build first).2).trans (Bool.eq_iff_iff.2 ?_)
    simp only [Projection.isExclusive_iff, isIdentifier_build]

theorem wanted_rebuilt_iff {earlier : List (Option Projection)} {projection : Option Projection}
    {path : String} :
    Wanted (schema.rebuilt earlier) projection path ↔ Wanted schema projection path := by
  cases projection with
  | none => exact Iff.rfl
  | some projection => rw [Wanted, Wanted, isExclusive_rebuilt]

end Schema

instance (schema : Schema) (projection : Option Projection) :
    DecidablePred (Wanted schema projection) := fun _ =>
  decidable_of_iff _ wants_ofProjection_iff

/-- How many of some projections want a path. -/
def timesWanted (schema : Schema) (projections : List (Option Projection)) (path : String) : Nat :=
  projections.countP fun projection => Wanted schema projection path

namespace Schema

/-- Documents leave behind in a schema that each default has been asked as often as its path was
wanted, and nothing else. -/
theorem rebuilt_eq (schema : Schema) (earlier : List (Option Projection)) :
    schema.rebuilt earlier = { schema with fields := schema.fields.map fun entry =>
      (entry.1, entry.2.asked (timesWanted schema earlier entry.1)) } := by
  induction earlier using List.reverseRecOn with
  | nil =>
    have hfields : (schema.fields.map fun entry =>
        (entry.1, entry.2.asked (timesWanted schema [] entry.1))) = schema.fields := by
      simp [timesWanted, Descriptor.asked_zero]
    rw [hfields, eta]
    rfl
  | append_singleton earlier projection ih =>
    have hrebuilt : schema.rebuilt (earlier ++ [projection])
        = ((schema.rebuilt earlier).build projection).2 := by
      rw [rebuilt, List.foldl_append]
      rfl
    have hwants : ∀ path,
        (Selection.ofProjection (schema.rebuilt earlier) projection).wants path
          = decide (Wanted schema projection path) := by
      intro path
      rw [Bool.eq_iff_iff, wants_ofProjection_iff, wanted_rebuilt_iff, decide_eq_true_iff]
    rw [hrebuilt, build]
    simp only [hwants]
    rw [ih]
    simp only [List.map_map, Function.comp_def, timesWanted, List.countP_append,
      List.countP_singleton, decide_eq_true_eq]
    refine congrArg (fun fields => Schema.mk fields _ _ _) (List.map_congr_left fun entry _ => ?_)
    by_cases hwanted : Wanted schema projection entry.1
    · simp only [hwanted, if_true, Descriptor.asked_succ]
    · simp only [hwanted, if_false, Nat.add_zero]

@[simp] theorem paths_rebuilt (schema : Schema) (earlier : List (Option Projection)) :
    (schema.rebuilt earlier).paths = schema.paths := by
  rw [rebuilt_eq, paths, Entries.keys, List.map_map]
  rfl

theorem find?_rebuilt (schema : Schema) (earlier : List (Option Projection)) (path : String) :
    (schema.rebuilt earlier).find? path
      = (schema.find? path).map (Descriptor.asked (timesWanted schema earlier path)) := by
  rw [rebuilt_eq]
  exact Entries.get?_map_keyed (fun path => Descriptor.asked (timesWanted schema earlier path))
    schema.fields path

/-! ## Defaults of declared fields -/

namespace Tracks

variable {schema : Schema} {options : SchemaOptions} {log : List Change} {path : String}
  {field : Descriptor}

/-- The default of a descriptor is the one that the log declares for its path. -/
theorem default_eq (h : schema.Tracks options log) (hfind : schema.find? path = some field) :
    field.default = declaredDefault? path log := by
  obtain ⟨_, declaration, meaning, hlast, hmeaning, rfl⟩ := h.find?_described hfind
  exact default_foldl_attachments hlast (interpret_described hmeaning).default_eq

/-- In a schema that edits lead to no producer has been called yet. -/
theorem calls_eq_zero (h : schema.Tracks options log) {answer : Nat → Option Json} {calls : Nat}
    (hfind : schema.find? path = some field)
    (hproducer : field.default = some (.producer answer calls)) : calls = 0 :=
  calls_eq_zero_of_declaredDefault? ((h.default_eq hfind).symm.trans hproducer)

/-- What a declared field is in the next document: what its declared default gives after it has been
asked as often as the documents so far wanted its path. -/
theorem givesDefault_rebuilt (h : schema.Tracks options log) (earlier : List (Option Projection))
    (hfind : (schema.rebuilt earlier).find? path = some field) :
    GivesDefault field.type (timesWanted schema earlier path) (declaredDefault? path log)
      field.defaultValue := by
  rw [find?_rebuilt] at hfind
  obtain ⟨fresh, hfresh, rfl⟩ := Option.map_eq_some_iff.1 hfind
  rw [← h.default_eq hfresh]
  exact fresh.givesDefault_asked (fun answer calls => h.calls_eq_zero hfresh) _

end Tracks

end Schema

end RecordSchema
