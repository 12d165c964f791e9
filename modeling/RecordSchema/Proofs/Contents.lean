import RecordSchema.Proofs.Consistency
import RecordSchema.Proofs.Elements

/-!
# What a schema contains

A schema contains its declared fields, the descriptors of their items, and what the schemas of
embedded documents contain. Wherever a descriptor stands, its type and items come from a
declaration: only collections have items, and the schema of embedded documents is one that a run of
edits reaches.

## Main definitions

* `Meaning`: what an interpreted descriptor says about its items, one case for each kind.
* `Descriptor.IsMeant`: whether type and items come from a declaration.
* `Schema.Contains`: the descriptors in a schema, at any depth.

## Main statements

* `meaning_of_interpret`: these are all the cases.
* `Descriptor.IsMeant.caster`, `Descriptor.IsMeant.embedded`: what stands one level below.
* `Schema.Tracks.isMeant_of_contains`: everything in a schema comes from a declaration.
-/

namespace RecordSchema

/-! ## Items of an interpreted descriptor -/

/-- What an interpreted descriptor says about its items. -/
inductive Meaning (options : SchemaOptions) (path : String) (descriptor : Descriptor) : Prop
  /-- A field that is no collection has none. -/
  | scalar (htype : descriptor.type ≠ .collection) (helement : descriptor.element = none)
  /-- Values, with a descriptor that is declared at the path of the collection. -/
  | values {item : Descriptor} {declaration : Json} (htype : descriptor.type = .collection)
      (helement : descriptor.element = some (.caster item))
      (hitem : interpret options path declaration = .ok item)
  /-- Documents, with a schema that is declared by an object. -/
  | documents {inner : Schema} {fields : Fields} (htype : descriptor.type = .collection)
      (helement : descriptor.element = some (.document inner))
      (hinner : inner = Schema.reached options [.add (.obj fields) ""])

theorem interpretScalar_items {options : SchemaOptions} {path : String} {fields : Fields}
    {descriptor : Descriptor} (h : interpretScalar options path fields = .ok descriptor) :
    descriptor.type ≠ .collection ∧ descriptor.element = none := by
  unfold interpretScalar at h
  simp only at h
  split at h
  · cases h
  · obtain ⟨type, htype, h⟩ := bind_eq_ok_iff.1 h
    obtain ⟨validators, _, h⟩ := bind_eq_ok_iff.1 h
    cases h
    exact ⟨FieldType.ne_collection_of_resolve htype, rfl⟩

/-- A field of any value is what the type name for it means. -/
theorem interpret_mixed (options : SchemaOptions) (path : String) :
    interpret options path (.str "Mixed")
      = interpretScalar options path [("type", .str "Mixed")] := by
  rw [interpret, if_neg (by decide)]
  rfl

theorem collection_items {path column : String} {element : Element} {fields : Fields}
    {descriptor : Descriptor}
    (h : Descriptor.collection path column element fields = .ok descriptor) :
    descriptor.type = .collection ∧ descriptor.element = some element := by
  refine ⟨(collection_described h).2, ?_⟩
  obtain ⟨scalar, _, h⟩ := bind_eq_ok_iff.1 h
  cases h
  rfl

/-- Items are values that are declared at the path of the collection, or documents. -/
theorem interpretItem_cases {options : SchemaOptions} {path : String} {declaration : Json}
    {element : Element} (h : interpretItem options path declaration = .ok element) :
    (∃ item declaration, element = .caster item ∧ interpret options path declaration = .ok item) ∨
    ∃ fields, element = .document (Schema.reached options [.add (.obj fields) ""]) := by
  rcases itemKind_cases declaration with rfl | ⟨fields, rfl, hshape⟩ | ⟨hdeclared, hfield⟩
  · rw [interpretItem_null] at h
    obtain ⟨item, hitem, rfl⟩ := map_eq_ok_iff.1 h
    exact .inl ⟨item, _, rfl, (interpret_mixed options path).trans hitem⟩
  · rw [interpretItem_of_shape _ _ hshape] at h
    obtain ⟨inner, hinner, rfl⟩ := map_eq_ok_iff.1 h
    refine .inr ⟨fields, ?_⟩
    rcases hadd : addFields (Schema.empty options) "" fields with ⟨schema, _ | e⟩ <;>
      rw [hadd] at hinner <;> cases hinner
    simp [Schema.reached, Schema.editAll, Schema.edit, Schema.add, hadd]
  · rw [interpretItem_of_field _ _ hdeclared hfield] at h
    obtain ⟨item, hitem, rfl⟩ := map_eq_ok_iff.1 h
    exact .inl ⟨item, _, rfl, hitem⟩

/-- These are all the cases. -/
theorem meaning_of_interpret {options : SchemaOptions} {path : String} {declaration : Json}
    {descriptor : Descriptor} (h : interpret options path declaration = .ok descriptor) :
    Meaning options path descriptor := by
  rw [interpret] at h
  split at h
  · simp only at h
    split at h
    · obtain ⟨element, helement, hcollection⟩ := bind_eq_ok_iff.1 h
      obtain ⟨htype, hsome⟩ := collection_items hcollection
      rcases interpretItem_cases helement with ⟨item, part, rfl, hitem⟩ | ⟨fields, rfl⟩
      · exact .values htype hsome hitem
      · exact .documents htype hsome rfl
    · obtain ⟨element, helement, hcollection⟩ := bind_eq_ok_iff.1 h
      obtain ⟨htype, hsome⟩ := collection_items hcollection
      obtain ⟨item, hitem, rfl⟩ := map_eq_ok_iff.1 helement
      exact .values htype hsome ((interpret_mixed options path).trans hitem)
  · obtain ⟨htype, hnone⟩ := interpretScalar_items h
    exact .scalar htype hnone

/-! ## One level below -/

/-- Whether the type and the items of a descriptor come from a declaration. What is attached to a
field changes neither. -/
def Descriptor.IsMeant (options : SchemaOptions) (descriptor : Descriptor) : Prop :=
  ∃ path declaration meaning, interpret options path declaration = .ok meaning ∧
    descriptor.type = meaning.type ∧ descriptor.element = meaning.element

namespace Descriptor.IsMeant

variable {options : SchemaOptions} {descriptor : Descriptor}

theorem of_interpret {path : String} {declaration : Json}
    (h : interpret options path declaration = .ok descriptor) : descriptor.IsMeant options :=
  ⟨path, declaration, descriptor, h, rfl, rfl⟩

/-- Only collections have items. -/
theorem type_eq (h : descriptor.IsMeant options) {element : Element}
    (helement : descriptor.element = some element) : descriptor.type = .collection := by
  obtain ⟨path, declaration, meaning, hmeaning, htype, hsame⟩ := h
  rw [htype]
  cases meaning_of_interpret hmeaning with
  | scalar _ hnone => cases helement.symm.trans (hsame.trans hnone)
  | values htype => exact htype
  | documents htype => exact htype

/-- The descriptor of items comes from a declaration again. -/
theorem caster (h : descriptor.IsMeant options) {item : Descriptor}
    (helement : descriptor.element = some (.caster item)) : item.IsMeant options := by
  obtain ⟨path, declaration, meaning, hmeaning, -, hsame⟩ := h
  rw [hsame] at helement
  cases meaning_of_interpret hmeaning with
  | scalar _ hnone => cases helement.symm.trans hnone
  | values _ hvalues hitem =>
    cases helement.symm.trans hvalues
    exact of_interpret hitem
  | documents _ hdocuments => cases helement.symm.trans hdocuments

/-- The schema of embedded documents is one that a run of edits reaches. -/
theorem embedded (h : descriptor.IsMeant options) {inner : Schema}
    (hinner : descriptor.embedded? = some inner) :
    ∃ edits, inner = Schema.reached options edits := by
  obtain ⟨path, declaration, meaning, hmeaning, -, hsame⟩ := h
  have helement := (element_of_embedded? hinner).symm.trans hsame
  cases meaning_of_interpret hmeaning with
  | scalar _ hnone => cases helement.trans hnone
  | values _ hvalues => cases helement.trans hvalues
  | documents _ hdocuments hreached =>
    cases helement.trans hdocuments
    exact ⟨_, hreached⟩

end Descriptor.IsMeant

/-! ## Everything below -/

/-- Whether a descriptor stands in a schema, at any depth. -/
inductive Schema.Contains : Schema → Descriptor → Prop
  /-- At a declared path. -/
  | declared {schema : Schema} {path : String} {field : Descriptor}
      (hfind : schema.find? path = some field) : schema.Contains field
  /-- As the descriptor of items. -/
  | item {schema : Schema} {field item : Descriptor} (hfield : schema.Contains field)
      (helement : field.element = some (.caster item)) : schema.Contains item
  /-- In the schema of embedded documents. -/
  | embedded {schema inner : Schema} {field descriptor : Descriptor}
      (hfield : schema.Contains field) (hinner : field.embedded? = some inner)
      (hdescriptor : inner.Contains descriptor) : schema.Contains descriptor

/-- A declared field comes from its last declaration. -/
theorem Schema.Tracks.isMeant {schema : Schema} {options : SchemaOptions} {log : List Change}
    (h : schema.Tracks options log) {path : String} {field : Descriptor}
    (hfind : schema.find? path = some field) : field.IsMeant options := by
  obtain ⟨_, declaration, meaning, _, hmeaning, rfl⟩ := h.find?_described hfind
  -- attaching changes the default and the checks only
  obtain ⟨default, happlied⟩ := Attachment.foldl_applyTo meaning (attachments path log)
  rw [happlied]
  exact ⟨path, declaration, meaning, hmeaning, rfl, rfl⟩

/-- Everything in a schema comes from a declaration. -/
theorem Schema.Tracks.isMeant_of_contains {schema : Schema} {options : SchemaOptions}
    {log : List Change} (h : schema.Tracks options log) {descriptor : Descriptor}
    (hdescriptor : schema.Contains descriptor) : descriptor.IsMeant options := by
  induction hdescriptor generalizing log with
  | declared hfind => exact h.isMeant hfind
  | item _ helement ih => exact (ih h).caster helement
  | embedded _ hinner _ ihfield ih =>
    obtain ⟨edits, rfl⟩ := (ihfield h).embedded hinner
    exact ih (Schema.reached_tracks options edits)

end RecordSchema
