import RecordSchema.Proofs.FieldLists
import RecordSchema.Proofs.Placement

/-!
# The spelling of a record

An INSERT reads a record only at declared paths, unless a check looks at the record itself. A value
may be spelt by its path as a key or by nested objects. No declared path lies above another one, so
in a record whose keys are declared paths no key is walked into for another path: what is read there
is what stands under the path itself. So each record says the same as its flat form.

## Main definitions

* `Schema.IgnoresRecord`: whether the checks of all fields look at the value alone.
* `Schema.IsFlatForm`, `Schema.flatForm`: the record with the same values under declared paths.

## Main statements

* `Schema.reached_ignoresRecord`: only attached checks may look at the record.
* `Schema.Tracks.valueAt?_of_isFlatForm`: a flat form has the values of the record.
* `Schema.Tracks.insert_congr`: records with the same values at declared paths.
* `insert_ignores_spelling`: a record and its flat form, after any run of edits.
-/

namespace RecordSchema

open RecordSchema.Path

/-! ## Checks that look at the value alone -/

/-- Whether the checks of all declared fields look at the value alone. -/
def Schema.IgnoresRecord (schema : Schema) : Prop :=
  ∀ path field, schema.find? path = some field →
    ∀ validator ∈ field.validators, validator.IgnoresRecord

theorem Descriptor.check_eq_of_ignoresRecord {field : Descriptor}
    (h : ∀ validator ∈ field.validators, validator.IgnoresRecord) (value record record' : Json) :
    field.check value record = field.check value record' := by
  unfold check
  generalize field.validators = validators at h
  induction validators with
  | nil => rfl
  | cons validator rest ih =>
    obtain ⟨hfirst, hrest⟩ := List.forall_mem_cons.1 h
    rw [List.findSome?_cons, List.findSome?_cons, hfirst.run_eq field.path value record record',
      ih hrest]

theorem attached_mem_of_mem_attachments {path : String} {attachment : Attachment}
    {log : List Change} (h : attachment ∈ attachments path log) :
    Change.attached path attachment ∈ log := by
  induction log with
  | nil => cases h
  | cons change earlier ih =>
    cases change with
    | defined key declaration =>
      rw [attachments] at h
      split at h
      · cases h
      · exact .tail _ (ih h)
    | attached key other =>
      rw [attachments] at h
      split at h
      · rename_i hkey
        rcases List.mem_append.1 h with hearlier | hnew
        · exact .tail _ (ih hearlier)
        · rw [List.mem_singleton.1 hnew, hkey]
          exact .head _
      · exact .tail _ (ih h)

namespace Schema

/-- Events attach nothing. -/
theorem attached_not_mem_eventLog (schema : Schema) (events : List Event) (path : String)
    (attachment : Attachment) : Change.attached path attachment ∉ schema.eventLog events := by
  induction events generalizing schema with
  | nil => exact List.not_mem_nil
  | cons event rest ih =>
    rw [eventLog]
    split
    · rename_i after _
      rw [List.mem_append]
      rintro (hrest | hevent)
      · exact ih after hrest
      · cases event <;> simp [Event.change] at hevent
    · exact List.not_mem_nil

/-- What a log has attached comes from an edit. -/
theorem attach_mem_of_mem_log {schema : Schema} {edits : List Edit} {path : String}
    {attachment : Attachment} (h : Change.attached path attachment ∈ schema.log edits) :
    Edit.attach path attachment ∈ edits := by
  induction edits generalizing schema with
  | nil => cases h
  | cons edit rest ih =>
    rcases List.mem_append.1 h with hrest | hedit
    · exact .tail _ (ih hrest)
    · cases edit with
      | add | define => exact absurd hedit (attached_not_mem_eventLog _ _ _ _)
      | attach key other =>
        cases List.mem_singleton.1 hedit
        exact .head _

/-- The checks of options look at the value alone, so only attached ones may look at the record. -/
theorem reached_ignoresRecord (options : SchemaOptions) {edits : List Edit}
    (h : ∀ path attachment, Edit.attach path attachment ∈ edits →
      ∀ validator, attachment.validator? = some validator → validator.IgnoresRecord) :
    (reached options edits).IgnoresRecord := by
  intro path field hfind validator hmem
  obtain ⟨validators, hoptions, hall⟩ :=
    (reached_tracks options edits).exists_optionValidators hfind
  rw [hall, List.mem_append] at hmem
  rcases hmem with hoption | hattached
  · exact (optionCheck_of_mem hoptions hoption).ignoresRecord
  · obtain ⟨attachment, hattachment, hcheck⟩ := List.mem_filterMap.1 hattached
    have hedit := attach_mem_of_mem_log (attached_mem_of_mem_attachments hattachment)
    exact h path attachment hedit validator hcheck

end Schema

/-! ## Records with the same values -/

namespace Schema

variable {schema : Schema} {options : SchemaOptions} {log : List Change} {record record' : Json}

/-- One turn of the loop, for records with the same value. -/
theorem IgnoresRecord.draftField_eq (h : schema.IgnoresRecord) {path : String}
    (hvalue : record.valueAt? path = record'.valueAt? path) (listed : List String)
    (draft : Draft) :
    schema.draftField record listed draft path = schema.draftField record' listed draft path := by
  unfold draftField
  cases hfind : schema.find? path with
  | none => rfl
  | some field =>
    have hchecks := Descriptor.check_eq_of_ignoresRecord (h path field hfind)
      ((record'.valueAt? path).getD .null) record record'
    simp only [hvalue, hchecks]

/-- Records with the same values at declared paths lead to the same INSERT. -/
theorem Tracks.insert_congr (h : schema.Tracks options log) (hblind : schema.IgnoresRecord)
    (hrecord : record = .null ∨ ∃ fields, record = .obj fields)
    (hrecord' : record' = .null ∨ ∃ fields, record' = .obj fields)
    (hvalues : ∀ path ∈ schema.paths, record.valueAt? path = record'.valueAt? path)
    (table : String) (listed : List String) :
    schema.insert table record listed = schema.insert table record' listed := by
  obtain ⟨fields, hfields⟩ := argumentFields_of_taken "record" hrecord
  obtain ⟨fields', hfields'⟩ := argumentFields_of_taken "record" hrecord'
  have hloop : schema.leafPaths.foldl (schema.draftField record listed) {}
      = schema.leafPaths.foldl (schema.draftField record' listed) {} :=
    List.foldl_ext _ _ _ fun draft path hpath =>
      hblind.draftField_eq (hvalues path (h.mem_leafPaths_iff.1 hpath)) listed draft
  unfold insert
  rw [hfields, hfields', hloop]
  rfl

end Schema

/-! ## Flat forms -/

namespace Schema

variable {schema : Schema} {options : SchemaOptions} {log : List Change} {record : Json}

/-- Whether an object has, for each declared path at which a record has a value, the path as a key
with this value, and no other key. -/
def IsFlatForm (schema : Schema) (record : Json) (flat : Fields) : Prop :=
  ∀ key, flat.get? key = if key ∈ schema.paths then record.valueAt? key else none

/-- The flat form of a record, in the order of declaration. -/
def flatForm (schema : Schema) (record : Json) : Fields :=
  labelled record.valueAt? schema.paths

namespace Tracks

theorem nodup_keys_flatForm (h : schema.Tracks options log) (record : Json) :
    (Entries.keys (schema.flatForm record)).Nodup :=
  (map_fst_labelled_sublist record.valueAt? schema.paths).nodup h.distinct

theorem isFlatForm_flatForm (h : schema.Tracks options log) (record : Json) :
    schema.IsFlatForm record (schema.flatForm record) := by
  intro key
  cases hget : Entries.get? (schema.flatForm record) key with
  | some value =>
    obtain ⟨hkey, hvalue⟩ := mem_labelled_iff.1 (Entries.mem_of_get? hget)
    rw [if_pos hkey, hvalue]
  | none =>
    split
    · rename_i hkey
      cases hvalue : record.valueAt? key with
      | none => rfl
      | some value =>
        have hmem : (key, value) ∈ schema.flatForm record := mem_labelled_iff.2 ⟨hkey, hvalue⟩
        rw [Entries.get?_of_mem (h.nodup_keys_flatForm record) hmem] at hget
        cases hget
    · rfl

/-- A flat form has the values of the record: where a path is no key, its first segment is none
either, so there is nothing to walk into. -/
theorem valueAt?_of_isFlatForm (h : schema.Tracks options log) {flat : Fields}
    (hflat : schema.IsFlatForm record flat) {path : String} (hpath : path ∈ schema.paths) :
    (Json.obj flat).valueAt? path = record.valueAt? path := by
  have hkey : (Json.obj flat).get? path = record.valueAt? path := by
    rw [Json.get?, hflat, if_pos hpath]
  rw [Json.valueAt?, hkey]
  cases hvalue : record.valueAt? path with
  | some value => rfl
  | none =>
    change (Json.obj flat).at? (segments path) = none
    obtain ⟨first, rest, hsegments⟩ := List.exists_cons_of_ne_nil (segments_ne_nil path)
    have hfirst : segments first = [first] :=
      segments_of_mem_segments (hsegments ▸ List.mem_cons_self)
    rw [hsegments, Json.at?_cons]
    by_cases hrest : rest = []
    · -- a path of one segment has been looked up already
      have hsame : first = path := segments_inj (by rw [hfirst, hsegments, hrest])
      rw [hsame, hkey, hvalue]
      rfl
    · have habove : IsAbove first path :=
        isAbove_iff.2 ⟨rest, hrest, by rw [hfirst, hsegments, List.singleton_append]⟩
      have hundeclared : first ∉ schema.paths := fun hmem => h.not_isAbove hmem hpath habove
      rw [Json.get?, hflat, if_neg hundeclared]
      rfl

end Tracks

end Schema

/-- Where no check looks at the record, a record and each of its flat forms lead to the same INSERT
under every list of fields, and a record has a flat form. -/
theorem insert_ignores_spelling (options : SchemaOptions) (edits : List Edit) (record : Json)
    (hblind : (Schema.reached options edits).IgnoresRecord)
    (hrecord : record = .null ∨ ∃ fields, record = .obj fields) :
    let schema := Schema.reached options edits
    (Entries.keys (schema.flatForm record)).Nodup ∧
    schema.IsFlatForm record (schema.flatForm record) ∧
    ∀ flat, schema.IsFlatForm record flat → ∀ table listed,
      schema.insert table record listed = schema.insert table (.obj flat) listed := by
  intro schema
  have h : schema.Tracks options (history options edits) := Schema.reached_tracks options edits
  refine ⟨h.nodup_keys_flatForm record, h.isFlatForm_flatForm record,
    fun flat hflat table listed => ?_⟩
  refine h.insert_congr hblind hrecord (.inr ⟨flat, rfl⟩) (fun path hpath => ?_) table listed
  exact (h.valueAt?_of_isFlatForm hflat hpath).symm

/-- A record with a nested object, a dotted key and two keys that are not declared. -/
theorem insert_ignores_spelling_mixed :
    let schema := Schema.reached {} [.define "a.b" (.str "string"), .define "a.c" (.str "string"),
      .define "d" (.str "string")]
    let record := Json.obj [("a", .obj [("b", .str "x"), ("z", .bool true)]), ("a.c", .str "y"),
      ("e", .str "w")]
    schema.IgnoresRecord ∧ (record = .null ∨ ∃ fields, record = .obj fields) ∧
    ∀ table listed, schema.insert table record listed
      = schema.insert table (.obj [("a.b", .str "x"), ("a.c", .str "y")]) listed := by
  have hflat : (Schema.reached {} [.define "a.b" (.str "string"), .define "a.c" (.str "string"),
      .define "d" (.str "string")]).flatForm (.obj [
        ("a", .obj [("b", .str "x"), ("z", .bool true)]), ("a.c", .str "y"), ("e", .str "w")])
      = [("a.b", .str "x"), ("a.c", .str "y")] := by
    cbv
  have hblind : (Schema.reached {} [.define "a.b" (.str "string"), .define "a.c" (.str "string"),
      .define "d" (.str "string")]).IgnoresRecord :=
    Schema.reached_ignoresRecord {} fun path attachment hmem => by simp at hmem
  obtain ⟨_, hform, hinsert⟩ := insert_ignores_spelling {} _ _ hblind (.inr ⟨_, rfl⟩)
  rw [hflat] at hform
  exact ⟨hblind, .inr ⟨_, rfl⟩, hinsert _ hform⟩

end RecordSchema
