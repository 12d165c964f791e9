import Mathlib
import RecordSchema.Proofs.SameMeaning

/-!
# Shorthands

A declaration that is no object stands for an object with this type, and a list of one item stands
for a collection with these items. Either may be written out at any place where a field or an item
is declared, at any depth. What is written out stays a field and never becomes a shape, for neither
the type it is given has a type of its own, nor does a field named `type` lose its own. So the
declaration keeps its meaning, and a schema answers everything as before.

## Main definitions

* `WritesOut`: writing out one shorthand in the declaration of a field or of items.
* `WritesOutField`: the same in the declaration of a schema.

## Main statements

* `WritesOut.isFilledShape_put`: a shape stays a shape.
* `WritesOut.sameMeaning`: what is written out means the same.
* `shorthands_answer_alike`: schemas before and after.
-/

namespace RecordSchema

/-! ## Types and items in the options of a field -/

section parts

variable {fields : Fields} {items : List Json} {key : String} {declaration value : Json}

theorem hasTypeKey_of_not_obj (h : ∀ fields, declaration ≠ .obj fields) :
    hasTypeKey declaration = false := by
  cases declaration with
  | obj fields => exact absurd rfl (h fields)
  | null | bool | num | str | arr => rfl

theorem isFilledShape_of_not_obj (h : ∀ fields, declaration ≠ .obj fields) :
    isFilledShape declaration = false := by
  cases declaration with
  | obj fields => exact absurd rfl (h fields)
  | null | bool | num | str | arr => rfl

/-- An object whose type counts and has no type itself is a field. -/
theorem isFilledShape_of_type (htype : fields.get? "type" = some value)
    (hcounts : value.isTruthy = true) (hplain : hasTypeKey value = false) :
    isFilledShape (.obj fields) = false := by
  rw [isFilledShape, isShape, htype]
  simp [hcounts, hplain]

/-- Whether an object with keys is a shape depends on its type only. -/
theorem isFilledShape_put_of_ne (hne : "type" ≠ key) (hkey : fields.get? key = some declaration) :
    isFilledShape (.obj (fields.put key value)) = isFilledShape (.obj fields) := by
  have hfilled : fields ≠ [] := by
    rintro rfl
    cases hkey
  rw [Bool.eq_iff_iff, isFilledShape_obj_iff, isFilledShape_obj_iff, IsNested, IsNested,
    Entries.get?_put_of_ne fields hne]
  exact and_congr_left fun _ => iff_of_true (Entries.put_ne_nil _ _ _) hfilled

theorem typePart_of_arr (htype : fields.get? "type" = some (.arr items)) :
    typePart fields = .arr items := by
  rw [typePart, htype]
  exact if_pos rfl

theorem typePart_put_of_ne (hne : "type" ≠ key) :
    typePart (fields.put key value) = typePart fields := by
  rw [typePart, typePart, Entries.get?_put_of_ne fields hne]

theorem isCollection_of_arr (htype : typePart fields = .arr items) :
    isCollection fields = true := by
  rw [isCollection, htype]

theorem isCollection_of_cast (hcast : fields.get? "cast" = some value) :
    isCollection fields = true := by
  have hhas : Entries.has fields "cast" = true := by
    rw [Entries.has, hcast]
    rfl
  unfold isCollection
  split
  · rfl
  · rw [hhas, Bool.or_true]

theorem itemPart_of_arr (htype : typePart fields = .arr items) :
    itemPart fields = items.head? := by
  rw [itemPart, htype]

theorem itemPart_of_not_arr (htype : ∀ items, typePart fields ≠ .arr items) :
    itemPart fields = fields.get? "cast" := by
  unfold itemPart
  split
  · rename_i items harr
    exact absurd harr (htype items)
  · rfl

end parts

/-! ## Writing a shorthand out -/

/-- Whether a declaration comes from another one by writing out one shorthand. It may be the whole
declaration, or stand in it as what items are or in a field of a shape. -/
inductive WritesOut : Json → Json → Prop
  /-- What counts and is no object becomes the type of an object. -/
  | type {type : Json} (hcounts : type.isTruthy = true) (hplain : ∀ fields, type ≠ .obj fields) :
      WritesOut type (.obj [("type", type)])
  /-- A list of one item becomes an object that says what the items are. -/
  | list (item : Json) :
      WritesOut (.arr [item]) (.obj [("type", .str "Array"), ("cast", item)])
  /-- In the items of a list. -/
  | listItem {item item' : Json} (rest : List Json) (h : WritesOut item item') :
      WritesOut (.arr (item :: rest)) (.arr (item' :: rest))
  /-- In the items of an object whose type is a list. -/
  | typeItem {fields : Fields} {item item' : Json} {rest : List Json}
      (htype : fields.get? "type" = some (.arr (item :: rest))) (h : WritesOut item item') :
      WritesOut (.obj fields) (.obj (fields.put "type" (.arr (item' :: rest))))
  /-- In the items that an object names beside its type. -/
  | castItem {fields : Fields} {item item' : Json} (hfield : isFilledShape (.obj fields) = false)
      (hcast : fields.get? "cast" = some item) (h : WritesOut item item') :
      WritesOut (.obj fields) (.obj (fields.put "cast" item'))
  /-- In a field of a shape, be it a parent of fields or an embedded document. -/
  | field {fields : Fields} {key : String} {declaration declaration' : Json}
      (hshape : isFilledShape (.obj fields) = true)
      (hkey : fields.get? key = some declaration) (h : WritesOut declaration declaration') :
      WritesOut (.obj fields) (.obj (fields.put key declaration'))

/-- Whether the declaration of a schema comes from another one by writing out one shorthand, in one
of its fields. -/
inductive WritesOutField : Json → Json → Prop
  /-- In the field at a key. -/
  | intro {fields : Fields} {key : String} {declaration declaration' : Json}
      (hkey : fields.get? key = some declaration) (h : WritesOut declaration declaration') :
      WritesOutField (.obj fields) (.obj (fields.put key declaration'))

namespace WritesOut

variable {declaration declaration' : Json}

theorem isTruthy (h : WritesOut declaration declaration') : declaration.isTruthy = true := by
  cases h with
  | type hcounts _ => exact hcounts
  | list | listItem | typeItem | castItem | field => rfl

theorem isTruthy' (h : WritesOut declaration declaration') : declaration'.isTruthy = true := by
  cases h <;> rfl

/-- An object with a type keeps one. -/
theorem hasTypeKey (h : WritesOut declaration declaration')
    (htyped : RecordSchema.hasTypeKey declaration = true) :
    RecordSchema.hasTypeKey declaration' = true := by
  rw [hasTypeKey_iff] at htyped ⊢
  obtain ⟨inner, hinner, hcounts⟩ := htyped
  cases h with
  | type _ hplain =>
    cases declaration with
    | obj fields => exact absurd rfl (hplain fields)
    | null | bool | num | str | arr => cases hinner
  | list | listItem => cases hinner
  | typeItem => exact ⟨_, Entries.get?_put_self _ _ _, rfl⟩
  | castItem =>
    exact ⟨inner, (Entries.get?_put_of_ne _ (by decide) _).trans hinner, hcounts⟩
  | @field fields key _ value _ _ h =>
    by_cases hne : "type" = key
    · subst hne
      exact ⟨value, Entries.get?_put_self _ _ _, h.isTruthy'⟩
    · exact ⟨inner, (Entries.get?_put_of_ne _ hne _).trans hinner, hcounts⟩

/-- A shape with keys stays one when something in one of its fields is written out. -/
theorem isFilledShape_put {fields : Fields} {key : String}
    (h : WritesOut declaration declaration') (hkey : fields.get? key = some declaration)
    (hshape : isFilledShape (.obj fields) = true) :
    isFilledShape (.obj (fields.put key declaration')) = true := by
  by_cases hne : "type" = key
  · -- a field named `type` makes a shape only because it has a type itself
    subst hne
    rw [isFilledShape_obj_iff] at hshape ⊢
    obtain ⟨_, hnone | ⟨type, htype, hfalse | htyped⟩⟩ := hshape
    · cases hnone.symm.trans hkey
    · cases htype.symm.trans hkey
      cases hfalse.symm.trans h.isTruthy
    · cases htype.symm.trans hkey
      refine ⟨Entries.put_ne_nil _ _ _, .inr ⟨_, Entries.get?_put_self _ _ _, .inr ?_⟩⟩
      exact hasTypeKey_iff.1 (h.hasTypeKey (hasTypeKey_iff.2 htyped))
  · rwa [isFilledShape_put_of_ne hne hkey]

end WritesOut

/-! ## The same meaning -/

/-- Fields whose types are lists mean the same when the first items do, and the other options are
the same. -/
theorem SameMeaning.interpret_arr {declaration declaration' item item' : Json} {rest : List Json}
    (h : SameMeaning item item')
    (hoptions : SameOptions (fieldOptions declaration) (fieldOptions declaration'))
    (htype : (fieldOptions declaration).get? "type" = some (.arr (item :: rest)))
    (htype' : (fieldOptions declaration').get? "type" = some (.arr (item' :: rest)))
    (options : SchemaOptions) (path : String) :
    SameResult Descriptor.erased (interpret options path declaration)
      (interpret options path declaration') := by
  have harr := typePart_of_arr htype
  have harr' := typePart_of_arr htype'
  refine sameResult_interpret_collection hoptions (isCollection_of_arr harr)
    (isCollection_of_arr harr') ?_
  rw [itemPart_of_arr harr, itemPart_of_arr harr']
  exact h.asItem options path

/-- Fields mean the same when what they name as items does. -/
theorem SameMeaning.interpret_cast {fields : Fields} {item item' : Json}
    (h : SameMeaning item item') (hcast : fields.get? "cast" = some item)
    (options : SchemaOptions) (path : String) :
    SameResult Descriptor.erased (interpret options path (.obj fields))
      (interpret options path (.obj (fields.put "cast" item'))) := by
  have hsame : typePart (fields.put "cast" item') = typePart fields :=
    typePart_put_of_ne (by decide)
  refine sameResult_interpret_collection (.put (.inr rfl) _) (isCollection_of_cast hcast)
    (isCollection_of_cast (Entries.get?_put_self _ _ _)) ?_
  rw [fieldOptions, fieldOptions]
  by_cases hlist : ∃ items, typePart fields = .arr items
  · -- the items of a type that is a list count, and not those named beside it
    obtain ⟨items, harr⟩ := hlist
    rw [itemPart_of_arr harr, itemPart_of_arr (hsame.trans harr)]
    exact .refl _
  · have harr : ∀ items, typePart fields ≠ .arr items := not_exists.1 hlist
    rw [itemPart_of_not_arr harr, itemPart_of_not_arr fun items => hsame ▸ harr items, hcast,
      Entries.get?_put_self]
    exact h.asItem options path

/-- What is written out means the same. -/
theorem WritesOut.sameMeaning {declaration declaration' : Json}
    (h : WritesOut declaration declaration') : SameMeaning declaration declaration' := by
  induction h with
  | @type type hcounts hplain =>
    have hnull : type ≠ .null := by
      rintro rfl
      cases hcounts
    have hoptions : fieldOptions type = fieldOptions (.obj [("type", type)]) := by
      cases type with
      | obj fields => exact absurd rfl (hplain fields)
      | null | bool | num | str | arr => rfl
    refine .of_field hnull (by simp) (isFilledShape_of_not_obj hplain)
      (isFilledShape_of_type rfl hcounts (hasTypeKey_of_not_obj hplain)) fun options path => ?_
    rw [interpret_congr hoptions]
    exact .refl _
  | list item =>
    have hoptions : SameOptions (fieldOptions (.arr [item]))
        (fieldOptions (.obj [("type", .str "Array"), ("cast", item)])) := by
      intro key htype hcast
      simp only [fieldOptions, Entries.get?, if_neg htype.symm, if_neg hcast.symm]
    refine .of_field (by simp) (by simp) rfl rfl fun options path => ?_
    exact sameResult_interpret_collection hoptions rfl rfl (.refl _)
  | listItem rest _ ih =>
    refine .of_field (by simp) (by simp) rfl rfl ?_
    exact ih.interpret_arr (.put (.inl rfl) _) rfl rfl
  | @typeItem fields item item' rest htype _ ih =>
    have hoptions : SameOptions (fieldOptions (.obj fields))
        (fieldOptions (.obj (fields.put "type" (.arr (item' :: rest))))) := .put (.inl rfl) _
    refine .of_field (by simp) (by simp) (isFilledShape_of_type htype rfl rfl)
      (isFilledShape_of_type (Entries.get?_put_self _ _ _) rfl rfl) ?_
    exact ih.interpret_arr hoptions htype (Entries.get?_put_self _ _ _)
  | @castItem fields item item' hfield hcast _ ih =>
    have hfield' : isFilledShape (.obj (fields.put "cast" item')) = false := by
      rwa [isFilledShape_put_of_ne (by decide) hcast]
    exact .of_field (by simp) (by simp) hfield hfield' (ih.interpret_cast hcast)
  | field hshape hkey h ih =>
    exact .of_shape hshape (h.isFilledShape_put hkey hshape) (ih.events_put hkey)

/-! ## The same answers -/

/-- Writing out one shorthand does not change the schema beyond the declarations in it. -/
theorem WritesOutField.sameResult {declaration written : Json}
    (h : WritesOutField declaration written) (options : SchemaOptions) :
    SameResult Schema.erased (Schema.ofDeclaration declaration options)
      (Schema.ofDeclaration written options) := by
  have hresult : ∀ fields, Schema.ofDeclaration (.obj fields) options
      = Schema.result ((Schema.empty options).performAll (events "" fields)) := by
    intro fields
    rw [Schema.ofDeclaration, Schema.add, addFields_eq_performAll]
    rfl
  cases h with
  | intro hkey h =>
    rw [hresult, hresult]
    exact (Schema.SameOutcome.performAll (h.sameMeaning.events_put hkey options "") rfl rfl).result

/-- When shorthands are written out in a declaration, at any number of places and any depth, then
both declarations fail, or both give a schema. These have the same paths and parents, a path leads
to the same in both, and both compile the same statements and build the same documents. -/
theorem shorthands_answer_alike {declaration written : Json}
    (h : Relation.ReflTransGen WritesOutField declaration written) (options : SchemaOptions) :
    ((∃ e, Schema.ofDeclaration declaration options = .error e) ∧
      ∃ e, Schema.ofDeclaration written options = .error e) ∨
    ∃ schema other, Schema.ofDeclaration declaration options = .ok schema ∧
      Schema.ofDeclaration written options = .ok other ∧ schema.AnswersAlike other := by
  have hsame : SameResult Schema.erased (Schema.ofDeclaration declaration options)
      (Schema.ofDeclaration written options) := by
    induction h with
    | refl => exact .refl _
    | tail _ hstep ih => exact ih.trans (hstep.sameResult options)
  generalize Schema.ofDeclaration declaration options = attempt at hsame ⊢
  generalize Schema.ofDeclaration written options = attempt' at hsame ⊢
  cases hsame with
  | error e e' => exact .inl ⟨⟨e, rfl⟩, e', rfl⟩
  | ok h => exact .inr ⟨_, _, rfl, rfl, Schema.answersAlike_of_erased h⟩

/-- A list of texts, and a number in the documents of a list. -/
theorem shorthands_answer_alike_nested : ∃ schema other,
    Schema.ofDeclaration (.obj [("tags", .arr [.str "String"]),
      ("c", .arr [.obj [("a", .str "Number")]])]) {} = .ok schema ∧
    Schema.ofDeclaration (.obj [("tags", .obj [("type", .str "Array"), ("cast", .str "String")]),
      ("c", .arr [.obj [("a", .obj [("type", .str "Number")])]])]) {} = .ok other ∧
    schema.AnswersAlike other := by
  have htags : WritesOutField
      (.obj [("tags", .arr [.str "String"]), ("c", .arr [.obj [("a", .str "Number")]])])
      (.obj [("tags", .obj [("type", .str "Array"), ("cast", .str "String")]),
        ("c", .arr [.obj [("a", .str "Number")]])]) :=
    @WritesOutField.intro _ "tags" _ _ rfl (.list (.str "String"))
  have hnumber : WritesOut (.str "Number") (.obj [("type", .str "Number")]) :=
    .type (by decide) nofun
  have hdocument : WritesOut (.obj [("a", .str "Number")])
      (.obj [("a", .obj [("type", .str "Number")])]) :=
    @WritesOut.field [("a", .str "Number")] "a" _ _ (by decide) rfl hnumber
  have hitems : WritesOutField
      (.obj [("tags", .obj [("type", .str "Array"), ("cast", .str "String")]),
        ("c", .arr [.obj [("a", .str "Number")]])])
      (.obj [("tags", .obj [("type", .str "Array"), ("cast", .str "String")]),
        ("c", .arr [.obj [("a", .obj [("type", .str "Number")])]])]) :=
    @WritesOutField.intro _ "c" _ _ rfl (.listItem [] hdocument)
  have hdone : (Schema.ofDeclaration (.obj [("tags", .arr [.str "String"]),
      ("c", .arr [.obj [("a", .str "Number")]])]) {}).toOption.isSome = true := by
    cbv
  rcases shorthands_answer_alike (.tail (.single htags) hitems) {} with ⟨⟨e, he⟩, _⟩ | hschemas
  · rw [he] at hdone
    cases hdone
  · exact hschemas

end RecordSchema
