import RecordSchema.Proofs.Placement
import RecordSchema.Proofs.Positions
import RecordSchema.Statement

/-!
# The fields of embedded documents

The fields of an embedded document are found by its keys. A declared path that is a key of the
document leads to a descriptor, and its value is stored in the form of that descriptor. A declared
path that the document spells as nested objects is not found: its first segment leads nowhere, so
everything below that key is stored as it is.

## Main statements

* `get?_eq_some_of_fieldForms`: what a stored document has at a key.
* `Schema.Tracks.path?_head`: the first segment of a longer declared path leads nowhere.
* `fields_stored_by_key`: what a collection of documents stores at each declared path.
* `nested_field_stored_unchanged`: a nested number that a text field does not turn into a text.
-/

namespace RecordSchema

open RecordSchema.Path

/-! ## Keys of a stored document -/

section

variable {form : Descriptor → Json → Json → Prop} {schema : Schema} {document record : Fields}

theorem FieldForm.key_eq {field stored : String × Json} (h : FieldForm form schema field stored) :
    stored.1 = field.1 := by
  cases h <;> rfl

theorem get?_eq_none_of_fieldForms (h : List.Forall₂ (FieldForm form schema) document record)
    {key : String} (hkey : document.get? key = none) : record.get? key = none := by
  induction h with
  | nil => rfl
  | cons hfield _ ih =>
    unfold Entries.get? at hkey ⊢
    split at hkey
    · cases hkey
    · rename_i hne
      rw [if_neg (hfield.key_eq ▸ hne)]
      exact ih hkey

/-- A stored document has under each key the form of the value there. -/
theorem get?_eq_some_of_fieldForms (h : List.Forall₂ (FieldForm form schema) document record)
    {key : String} {value : Json} (hkey : document.get? key = some value) :
    ∃ stored, record.get? key = some stored ∧ FieldForm form schema (key, value) (key, stored) := by
  induction h with
  | nil => cases hkey
  | @cons field result _ _ hfield _ ih =>
    obtain ⟨name, inside⟩ := field
    obtain ⟨other, stored⟩ := result
    obtain rfl : other = name := hfield.key_eq
    unfold Entries.get? at hkey ⊢
    split at hkey
    · rename_i heq
      cases hkey
      cases heq
      exact ⟨stored, if_pos rfl, hfield⟩
    · rename_i hne
      rw [if_neg hne]
      exact ih hkey

end

/-! ## Paths into a document -/

namespace Schema

variable {schema : Schema}

/-- The first segment of a longer declared path leads nowhere. -/
theorem Tracks.path?_head {options : SchemaOptions} {log : List Change}
    (h : schema.Tracks options log) {path first : String} {rest : List String}
    (hpath : path ∈ schema.paths) (hsegs : segments path = first :: rest) (hrest : rest ≠ []) :
    schema.path? first = none := by
  have hmem : first ∈ segments path := by simp [hsegs]
  have hsingle : segments first = [first] := segments_of_mem_segments hmem
  have habove : IsAbove first path := isAbove_iff.2 ⟨rest, hrest, by simp [hsingle, hsegs]⟩
  rw [path?_of_not_positional (by simp [isPositional, hsingle]), ← Option.not_isSome_iff_eq_none,
    Option.isSome_iff_exists]
  rintro ⟨field, hfind⟩
  exact h.not_isAbove (Schema.mem_paths_of_find? hfind) hpath habove

end Schema

/-! ## What is stored -/

section

variable {options : SchemaOptions} {log : List Change} {inner : Schema} {document record : Fields}
  {path : String} {descriptor : Descriptor} {value : Json}

/-- A declared path that is a key is stored in the form of its descriptor. -/
theorem valueAt?_stored_key
    (hforms : List.Forall₂ (FieldForm (fun field value stored => field.cast value = .ok stored)
      inner) document record)
    (hfind : inner.find? path = some descriptor) (hkey : document.get? path = some value) :
    ∃ param, descriptor.cast value = .ok param ∧ (Json.obj record).valueAt? path = some param := by
  obtain ⟨stored, hstored, hform⟩ := get?_eq_some_of_fieldForms hforms hkey
  have hpath : inner.path? path = some descriptor := by simp [Schema.path?, Schema.locate?, hfind]
  cases hform with
  | known hknown hcast =>
    cases hknown.symm.trans hpath
    exact ⟨stored, hcast, by simp [Json.valueAt?, Json.get?, hstored]⟩
  | unknown hnone => cases hnone.symm.trans hpath

/-- A declared path that is spelt as nested objects is stored as it is. -/
theorem valueAt?_stored_nested (h : inner.Tracks options log)
    {form : Descriptor → Json → Json → Prop}
    (hforms : List.Forall₂ (FieldForm form inner) document record)
    (hpath : path ∈ inner.paths) (hkey : document.get? path = none)
    (hvalue : (Json.obj document).valueAt? path = some value) :
    (Json.obj record).valueAt? path = some value := by
  obtain ⟨first, rest, hsegs⟩ := List.exists_cons_of_ne_nil (segments_ne_nil path)
  simp only [Json.valueAt?, Json.get?, hkey, get?_eq_none_of_fieldForms hforms hkey] at hvalue ⊢
  rw [hsegs, ← Json.at?, Json.at?_cons, Json.get?] at hvalue ⊢
  obtain ⟨below, hbelow, hvalue⟩ := Option.bind_eq_some_iff.1 hvalue
  -- were the path a single segment, it would be a key
  have hrest : rest ≠ [] := by
    rintro rfl
    have hfirst : first = path := by rw [← ofSegments_segments path, hsegs]; simp [ofSegments]
    rw [hfirst, hkey] at hbelow
    cases hbelow
  obtain ⟨stored, hstored, hform⟩ := get?_eq_some_of_fieldForms hforms hbelow
  cases hform with
  | known hknown => cases hknown.symm.trans (h.path?_head hpath hsegs hrest)
  | unknown =>
    -- without a descriptor the value under the first segment stands as it was
    rw [hstored]
    exact hvalue

end

theorem getElem?_of_forall₂ {α β : Type} {R : α → β → Prop} {as : List α} {bs : List β}
    (h : List.Forall₂ R as bs) {i : Nat} {a : α} (ha : as[i]? = some a) :
    ∃ b, bs[i]? = some b ∧ R a b := by
  obtain ⟨hi, rfl⟩ := List.getElem?_eq_some_iff.1 ha
  have hi' : i < bs.length := h.length_eq ▸ hi
  exact ⟨bs[i], List.getElem?_eq_getElem hi', h.get hi hi'⟩

/-- A collection of documents, at any depth of a schema, stores a list as a list of as many items.
Take a document among them and a path that is declared for the documents and at which this one holds
a value. Where the path is a key of the document, the stored document holds the value's form at the
path; where it is spelt as nested objects, the stored document holds the value itself. So the path
holds what its descriptor stores just when it is a key or its value is already in stored form. -/
theorem fields_stored_by_key (options : SchemaOptions) (edits : List Edit) {field : Descriptor}
    {inner : Schema} {items : List Json} {result : Json}
    (hfield : (Schema.reached options edits).Contains field)
    (hinner : field.embedded? = some inner) (hcast : field.cast (.arr items) = .ok result) :
    ∃ stored, result = .arr stored ∧ stored.length = items.length ∧
      ∀ (i : Nat) (document : Fields), items[i]? = some (.obj document) →
        ∃ record, stored[i]? = some (.obj record) ∧
        ∀ path descriptor value, inner.find? path = some descriptor →
          (Json.obj document).valueAt? path = some value →
          (document.get? path = some value → ∃ param, descriptor.cast value = .ok param ∧
            (Json.obj record).valueAt? path = some param) ∧
          (document.get? path = none → (Json.obj record).valueAt? path = some value) ∧
          ((∃ param, descriptor.cast value = .ok param ∧
              (Json.obj record).valueAt? path = some param) ↔
            document.get? path = some value ∨ descriptor.cast value = .ok value) := by
  have hmeant := (Schema.reached_tracks options edits).isMeant_of_contains hfield
  have helement := Descriptor.element_of_embedded? hinner
  obtain ⟨innerEdits, rfl⟩ := hmeant.embedded hinner
  have h := Schema.reached_tracks options innerEdits
  cases Descriptor.cast_eq_ok_iff.1 hcast with
  | scalar htype => exact absurd (hmeant.type_eq helement) htype
  | @list _ stored htype _ hitems =>
    rw [helement] at hitems
    refine ⟨stored, rfl, hitems.length_eq.symm, fun i document hdocument => ?_⟩
    obtain ⟨item, hitem, hform⟩ := getElem?_of_forall₂ hitems hdocument
    cases hform with
    | @document _ _ record hforms =>
      refine ⟨record, hitem, fun path descriptor value hfind hvalue => ?_⟩
      have hpath := Schema.mem_paths_of_find? hfind
      have hkey : document.get? path = some value → ∃ param, descriptor.cast value = .ok param ∧
          (Json.obj record).valueAt? path = some param := valueAt?_stored_key hforms hfind
      have hnested := fun hkey => valueAt?_stored_nested h hforms hpath hkey hvalue
      refine ⟨hkey, hnested, ?_⟩
      cases hget : document.get? path with
      | some other =>
        obtain rfl : other = value := by simpa [Json.valueAt?, Json.get?, hget] using hvalue
        exact iff_of_true (hkey hget) (.inl rfl)
      | none =>
        rw [hnested hget]
        simp [eq_comm]

/-- A nested number that a text field does not turn into a text. -/
theorem nested_field_stored_unchanged : ∃ field inner descriptor,
    (Schema.reached {} [.define "c"
      (.arr [.obj [("a", .obj [("b", .str "string")])]])]).find? "c" = some field ∧
    field.embedded? = some inner ∧ inner.find? "a.b" = some descriptor ∧
    (Json.obj [("a", .obj [("b", .ofInt 5)])]).valueAt? "a.b" = some (.ofInt 5) ∧
    descriptor.cast (.ofInt 5) = .ok (.str "5") ∧
    field.cast (.arr [.obj [("a", .obj [("b", .ofInt 5)])]])
      = .ok (.arr [.obj [("a", .obj [("b", .ofInt 5)])]]) := by
  have hfields : ((Schema.reached {} [.define "c"
      (.arr [.obj [("a", .obj [("b", .str "string")])]])]).find? "c").bind (fun field =>
        field.embedded?.bind fun inner => (inner.find? "a.b").map fun descriptor =>
          descriptor.cast (.ofInt 5)) = some (.ok (.str "5")) := by
    cbv
  have hitems : ((Schema.reached {} [.define "c"
      (.arr [.obj [("a", .obj [("b", .str "string")])]])]).find? "c").map (fun field =>
        field.cast (.arr [.obj [("a", .obj [("b", .ofInt 5)])]]))
      = some (.ok (.arr [.obj [("a", .obj [("b", .ofInt 5)])]])) := by
    cbv
  simp only [Option.bind_eq_some_iff, Option.map_eq_some_iff] at hfields
  obtain ⟨field, hfind, inner, hinner, descriptor, hdescriptor, hvalue⟩ := hfields
  rw [hfind] at hitems
  exact ⟨field, inner, descriptor, hfind, hinner, hdescriptor, rfl, hvalue,
    Option.some.inj hitems⟩

/-- A list of documents with a text in a nested object, which is spelt once as nested objects and
once as a key. -/
theorem fields_stored_by_key_names : ∃ field inner descriptor stored nested keyed,
    (Schema.reached {} [.define "c"
      (.arr [.obj [("a", .obj [("b", .str "string")])]])]).Contains field ∧
    field.embedded? = some inner ∧ inner.find? "a.b" = some descriptor ∧
    field.cast (.arr [.obj [("a", .obj [("b", .ofInt 5)])], .obj [("a.b", .ofInt 5)]])
      = .ok (.arr stored) ∧
    stored.length = 2 ∧ stored[0]? = some (.obj nested) ∧ stored[1]? = some (.obj keyed) ∧
    (Json.obj nested).valueAt? "a.b" = some (.ofInt 5) ∧
    ∃ param, descriptor.cast (.ofInt 5) = .ok param ∧
      (Json.obj keyed).valueAt? "a.b" = some param := by
  have hfields : (((Schema.reached {} [.define "c"
      (.arr [.obj [("a", .obj [("b", .str "string")])]])]).find? "c").bind (fun field =>
        field.embedded?.bind (·.find? "a.b"))).isSome := by
    cbv
  have hitems : ((Schema.reached {} [.define "c"
      (.arr [.obj [("a", .obj [("b", .str "string")])]])]).find? "c").map (fun field =>
        field.cast (.arr [.obj [("a", .obj [("b", .ofInt 5)])],
          .obj [("a.b", .ofInt 5)]]))
      = some (.ok (.arr [.obj [("a", .obj [("b", .ofInt 5)])],
          .obj [("a.b", .str "5")]])) := by
    cbv
  simp only [Option.isSome_iff_exists, Option.bind_eq_some_iff] at hfields
  obtain ⟨descriptor, field, hfind, inner, hinner, hdescriptor⟩ := hfields
  rw [hfind] at hitems
  have hcast := Option.some.inj hitems
  obtain ⟨stored, hresult, hlength, hdocuments⟩ :=
    fields_stored_by_key {} _ (.declared hfind) hinner hcast
  obtain ⟨nested, hnested, hread⟩ := hdocuments 0 _ rfl
  obtain ⟨keyed, hkeyed, hreadKey⟩ := hdocuments 1 _ rfl
  exact ⟨field, inner, descriptor, stored, nested, keyed, .declared hfind, hinner, hdescriptor,
    hresult ▸ hcast, hlength, hnested, hkeyed, (hread _ _ _ hdescriptor rfl).2.1 rfl,
    (hreadKey _ _ _ hdescriptor rfl).1 rfl⟩

end RecordSchema
