import Mathlib
import RecordSchema.Proofs.Flattening
import RecordSchema.Proofs.Outlines

/-!
# The tree mirrors the declaration

When no key of a declaration holds a dot, the events of the declaration insert the leaves of its
outline one after the other. A tree that has grown from the leaves of an outline, in their order,
has this outline. So the tree of such a declaration is rendered as the declaration itself, and it
lists the paths in the order in which they were declared.

## Main definitions

* `HasDistinctKeys`: whether no key comes up twice in an object or in a nested shape of it.
* `declaredOutline`: the outline of an object, branches for the nested shapes.
* `shapeSegments`: the segments of the nested shapes in an object, depth first.

## Main statements

* `shape_induction`: objects are built from fields and nested shapes.
* `foldl_plant_declaredOutline`: the leaves of a declared outline grow into it.
* `Flattens.fields_eq`, `Flattens.parents_eq`: the events of a declaration follow its outline.
* `Schema.Runs.hasOutline`, `Schema.Runs.paths_eq`, `Schema.Runs.nested_eq`: what events lead to.
* `tree_mirrors_declaration`: rendering, listing and parents of the tree of a declaration.
-/

namespace RecordSchema

open RecordSchema.Path Outline

/-! ## Outlines of declarations -/

/-- Whether no key comes up twice in an object or in a nested shape of it. -/
def HasDistinctKeys (fields : Fields) : Prop :=
  EveryShape (fun shape => (Entries.keys shape).Nodup) fields

namespace HasDistinctKeys

variable {key : String} {declaration : Json} {rest : Fields}

theorem not_mem (h : HasDistinctKeys ((key, declaration) :: rest)) : key ∉ Entries.keys rest :=
  (List.nodup_cons.1 h.self).1

theorem tail (h : HasDistinctKeys ((key, declaration) :: rest)) : HasDistinctKeys rest :=
  EveryShape.tail h fun hkeys => (List.nodup_cons.1 hkeys).2

end HasDistinctKeys

/-- Objects are built from fields and nested shapes, from the last key on. -/
theorem shape_induction {motive : Fields → Prop} (nil : motive [])
    (nest : ∀ key inner rest, IsNested inner → motive inner → motive rest →
      motive ((key, .obj inner) :: rest))
    (field : ∀ key declaration rest, (∀ inner, declaration = .obj inner → ¬IsNested inner) →
      motive rest → motive ((key, declaration) :: rest)) (fields : Fields) : motive fields := by
  generalize "" = lead
  induction lead, fields using events.induct with
  | case1 => exact nil
  | case2 lead key rest ih => exact field key .null rest (fun inner h => by cases h) ih
  | case3 lead key fields rest hshape ihbelow ih =>
    exact nest key fields rest (isFilledShape_obj_iff.1 hshape) ihbelow ih
  | case4 lead key fields rest hshape ih =>
    refine field key (.obj fields) rest (fun inner h => ?_) ih
    cases h
    exact mt isFilledShape_obj_iff.2 hshape
  | case5 lead key declaration rest hnull hobject ih =>
    exact field key declaration rest (fun inner h => absurd h (hobject inner)) ih

/-- The outline of an object: branches for its nested shapes, and leaves for its fields. -/
def declaredOutline : List (String × Json) → Entries Outline
  | [] => []
  | (key, .obj fields) :: rest =>
    if isFilledShape (.obj fields) then
      (key, .branch (declaredOutline fields)) :: declaredOutline rest
    else (key, .leaf (.obj fields)) :: declaredOutline rest
  | (key, declaration) :: rest => (key, .leaf declaration) :: declaredOutline rest
termination_by fields => sizeOf fields
decreasing_by
  all_goals
    simp only [List.cons.sizeOf_spec, Prod.mk.sizeOf_spec, Json.obj.sizeOf_spec]
    omega

/-- The segments of the nested shapes in an object, each in front of those inside it. -/
def shapeSegments : List (String × Json) → List (List String)
  | [] => []
  | (key, .obj fields) :: rest =>
    if isFilledShape (.obj fields) then
      [key] :: ((shapeSegments fields).map (key :: ·) ++ shapeSegments rest)
    else shapeSegments rest
  | (_, _) :: rest => shapeSegments rest
termination_by fields => sizeOf fields
decreasing_by
  all_goals
    simp only [List.cons.sizeOf_spec, Prod.mk.sizeOf_spec, Json.obj.sizeOf_spec]
    omega

section equations

variable {key : String} {inner rest : Fields} {declaration : Json}

theorem declaredOutline_nest (h : IsNested inner) : declaredOutline ((key, .obj inner) :: rest)
    = (key, .branch (declaredOutline inner)) :: declaredOutline rest := by
  rw [declaredOutline, if_pos (isFilledShape_obj_iff.2 h)]

theorem declaredOutline_field (h : ∀ inner, declaration = .obj inner → ¬IsNested inner) :
    declaredOutline ((key, declaration) :: rest)
      = (key, .leaf declaration) :: declaredOutline rest := by
  cases declaration with
  | obj fields => rw [declaredOutline, if_neg (mt isFilledShape_obj_iff.1 (h fields rfl))]
  | null | bool | num | str | arr => rw [declaredOutline]; simp

theorem shapeSegments_nest (h : IsNested inner) : shapeSegments ((key, .obj inner) :: rest)
    = [key] :: ((shapeSegments inner).map (key :: ·) ++ shapeSegments rest) := by
  rw [shapeSegments, if_pos (isFilledShape_obj_iff.2 h)]

theorem shapeSegments_field (h : ∀ inner, declaration = .obj inner → ¬IsNested inner) :
    shapeSegments ((key, declaration) :: rest) = shapeSegments rest := by
  cases declaration with
  | obj fields => rw [shapeSegments, if_neg (mt isFilledShape_obj_iff.1 (h fields rfl))]
  | null | bool | num | str | arr => rw [shapeSegments]; simp

end equations

/-- The outline of a declaration is rendered as the declaration. -/
theorem fieldsBelow_declaredOutline (fields : Fields) :
    fieldsBelow (declaredOutline fields) = fields := by
  induction fields using shape_induction with
  | nil => rw [declaredOutline, fieldsBelow]
  | nest key inner rest hnested ihbelow ih =>
    rw [declaredOutline_nest hnested, fieldsBelow, toJson, ihbelow, ih]
  | field key declaration rest hfield ih =>
    rw [declaredOutline_field hfield, fieldsBelow, toJson, ih]

theorem leavesBelow_declaredOutline_ne_nil (fields : Fields) :
    fields ≠ [] → leavesBelow (declaredOutline fields) ≠ [] := by
  induction fields using shape_induction with
  | nil => exact fun h => absurd rfl h
  | nest key inner rest hnested ihbelow ih =>
    rw [declaredOutline_nest hnested, leavesBelow, leaves]
    intro _ hnil
    exact ihbelow hnested.1 (List.map_eq_nil_iff.1 (List.append_eq_nil_iff.1 hnil).1)
  | field key declaration rest hfield ih =>
    rw [declaredOutline_field hfield, leavesBelow, leaves]
    exact fun _ => List.cons_ne_nil _ _

/-- A leaf or branch under the first key leaves the other keys clear. -/
theorem clear_put {key : String} {declaration : Json} {rest : Fields} {children : Entries Outline}
    (hdistinct : HasDistinctKeys ((key, declaration) :: rest))
    (hclear : ∀ other ∈ Entries.keys ((key, declaration) :: rest), children.get? other = none)
    (node : Outline) : ∀ other ∈ Entries.keys rest, (children.put key node).get? other = none := by
  intro other hother
  have hne : other ≠ key := fun heq => hdistinct.not_mem (heq ▸ hother)
  rw [Entries.get?_put_of_ne _ hne, hclear other (.tail _ hother)]

/-- The leaves of a declared outline grow into it, behind whatever was there under other keys. -/
theorem foldl_plant_declaredOutline {fields : Fields} (hdistinct : HasDistinctKeys fields)
    {children : Entries Outline} (hclear : ∀ key ∈ Entries.keys fields, children.get? key = none) :
    (leavesBelow (declaredOutline fields)).foldl plant children
      = children ++ declaredOutline fields := by
  induction fields using shape_induction generalizing children with
  | nil =>
    rw [declaredOutline, leavesBelow, List.append_nil]
    rfl
  | nest key inner rest hnested ihbelow ih =>
    have habsent : children.get? key = none := hclear key List.mem_cons_self
    have hkids : kids children key = [] := by rw [kids, habsent]
    have hinner : (leavesBelow (declaredOutline inner)).foldl plant [] = declaredOutline inner :=
      ihbelow (hdistinct.head hnested) fun _ _ => rfl
    rw [declaredOutline_nest hnested, leavesBelow, leaves, List.foldl_append,
      foldl_plant_below key (leavesBelow_declaredOutline_ne_nil inner hnested.1)
        segments_ne_nil_of_mem_leavesBelow, hkids, hinner,
      ih hdistinct.tail (clear_put hdistinct hclear _), Entries.put_of_get?_none habsent,
      List.append_assoc, List.singleton_append]
  | field key declaration rest hfield ih =>
    have habsent : children.get? key = none := hclear key List.mem_cons_self
    have hplant : plant children ([key], declaration) = children.put key (.leaf declaration) := rfl
    rw [declaredOutline_field hfield, leavesBelow, leaves, List.map_singleton,
      List.singleton_append, List.foldl_cons, hplant,
      ih hdistinct.tail (clear_put hdistinct hclear _), Entries.put_of_get?_none habsent,
      List.append_assoc, List.singleton_append]

/-! ## Segments of shapes -/

theorem exists_cons_of_mem_shapeSegments {fields : Fields} : ∀ segs ∈ shapeSegments fields,
    ∃ key rest, segs = key :: rest ∧ key ∈ Entries.keys fields := by
  induction fields using shape_induction with
  | nil =>
    rw [shapeSegments]
    exact fun segs h => absurd h List.not_mem_nil
  | nest key inner rest hnested _ ih =>
    rw [shapeSegments_nest hnested]
    intro segs hsegs
    rcases List.mem_cons.1 hsegs with rfl | hsegs
    · exact ⟨key, [], rfl, List.mem_cons_self⟩
    · rcases List.mem_append.1 hsegs with hbelow | hrest
      · obtain ⟨below, _, rfl⟩ := List.mem_map.1 hbelow
        exact ⟨key, below, rfl, List.mem_cons_self⟩
      · obtain ⟨other, back, rfl, hother⟩ := ih segs hrest
        exact ⟨other, back, rfl, .tail _ hother⟩
  | field key declaration rest hfield ih =>
    rw [shapeSegments_field hfield]
    intro segs hsegs
    obtain ⟨other, back, rfl, hother⟩ := ih segs hsegs
    exact ⟨other, back, rfl, .tail _ hother⟩

/-- No nested shape is listed twice. -/
theorem nodup_shapeSegments {fields : Fields} (hdistinct : HasDistinctKeys fields) :
    (shapeSegments fields).Nodup := by
  induction fields using shape_induction with
  | nil =>
    rw [shapeSegments]
    exact List.nodup_nil
  | nest key inner rest hnested ihbelow ih =>
    have hbelow : ((shapeSegments inner).map (key :: ·)).Nodup :=
      (ihbelow (hdistinct.head hnested)).map fun _ _ h => (List.cons.inj h).2
    rw [shapeSegments_nest hnested, List.nodup_cons, List.nodup_append]
    refine ⟨fun hmem => ?_, hbelow, ih hdistinct.tail, ?_⟩
    · rcases List.mem_append.1 hmem with hmem | hmem
      · obtain ⟨segs, hsegs, heq⟩ := List.mem_map.1 hmem
        obtain ⟨_, _, rfl, _⟩ := exists_cons_of_mem_shapeSegments segs hsegs
        cases heq
      · obtain ⟨_, _, heq, hkey⟩ := exists_cons_of_mem_shapeSegments _ hmem
        cases heq
        exact hdistinct.not_mem hkey
    · -- what is below the first key begins with it, and what follows does not
      rintro segs hsegs _ hrest rfl
      obtain ⟨below, _, rfl⟩ := List.mem_map.1 hsegs
      obtain ⟨_, _, heq, hkey⟩ := exists_cons_of_mem_shapeSegments _ hrest
      cases heq
      exact hdistinct.not_mem hkey
  | field key declaration rest hfield ih =>
    rw [shapeSegments_field hfield]
    exact ih hdistinct.tail

/-! ## Events of a declaration -/

/-- The fields that events declare, with their declarations. -/
def declaredFields : List Event → List (String × Json)
  | [] => []
  | .define path declaration :: rest => (path, declaration) :: declaredFields rest
  | .nest _ :: rest => declaredFields rest
  | .refuse _ :: rest => declaredFields rest

/-- The parents that events register. -/
def registeredParents : List Event → List String
  | [] => []
  | .nest path :: rest => path :: registeredParents rest
  | .define _ _ :: rest => registeredParents rest
  | .refuse _ :: rest => registeredParents rest

theorem declaredFields_append (front back : List Event) :
    declaredFields (front ++ back) = declaredFields front ++ declaredFields back := by
  induction front with
  | nil => rfl
  | cons event rest ih => cases event <;> simp [declaredFields, ih]

theorem registeredParents_append (front back : List Event) :
    registeredParents (front ++ back) = registeredParents front ++ registeredParents back := by
  induction front with
  | nil => rfl
  | cons event rest ih => cases event <;> simp [registeredParents, ih]

/-- Whether a lead puts segments in front of plain keys. -/
def Leads (lead : String) (front : List String) : Prop :=
  ∀ key, '.' ∉ key.toList → segments (lead ++ key) = front ++ [key]

theorem leads_empty : Leads "" [] := fun key hkey => by
  rw [String.empty_append, segments_of_dot_not_mem hkey, List.nil_append]

theorem Leads.extend {lead key : String} {front : List String} (h : Leads lead front)
    (hkey : '.' ∉ key.toList) : Leads (lead ++ key ++ ".") (front ++ [key]) := fun next hnext => by
  rw [segments_append_dot, h key hkey, segments_of_dot_not_mem hnext]

namespace Flattens

variable {lead : String} {front : List String} {fields : Fields} {run : List Event}

/-- The fields that the events declare are the leaves of the outline. -/
theorem fields_eq (hflat : Flattens lead fields run) (hrefuse : ∀ path, .refuse path ∉ run)
    (hlead : Leads lead front) (hkeys : HasPlainKeys fields) :
    (declaredFields run).map (fun field => (segments field.1, field.2))
      = (leavesBelow (declaredOutline fields)).map fun leaf => (front ++ leaf.1, leaf.2) := by
  induction hflat generalizing front with
  | nil =>
    rw [declaredOutline, leavesBelow]
    rfl
  | refuse _ _ => exact absurd List.mem_cons_self (hrefuse _)
  | @nest lead key inner rest below after hnested _ _ ihbelow ih =>
    have hbelow := ihbelow (fun path h => hrefuse path (.tail _ (List.mem_append_left _ h)))
      (hlead.extend hkeys.dot_not_mem) (hkeys.head hnested)
    have hrest := ih (fun path h => hrefuse path (.tail _ (List.mem_append_right _ h))) hlead
      hkeys.tail
    rw [declaredFields, declaredFields_append, List.map_append, hbelow, hrest,
      declaredOutline_nest hnested, leavesBelow, leaves, List.map_append, List.map_map]
    simp only [Function.comp_def, List.append_assoc, List.singleton_append]
  | @define lead key declaration rest after _ hfield _ ih =>
    have hrest := ih (fun path h => hrefuse path (.tail _ h)) hlead hkeys.tail
    rw [declaredFields, List.map_cons, hrest, declaredOutline_field hfield, leavesBelow, leaves,
      hlead key hkeys.dot_not_mem]
    rfl

/-- The parents that the events register are the nested shapes. -/
theorem parents_eq (hflat : Flattens lead fields run) (hlead : Leads lead front)
    (hkeys : HasPlainKeys fields) : (registeredParents run).map segments
      = (shapeSegments fields).map (front ++ ·) := by
  induction hflat generalizing front with
  | nil =>
    rw [shapeSegments]
    rfl
  | refuse _ ih =>
    rw [registeredParents, ih hlead hkeys.tail, shapeSegments_field fun inner h => by cases h]
  | @nest lead key inner rest below after hnested _ _ ihbelow ih =>
    have hbelow := ihbelow (hlead.extend hkeys.dot_not_mem) (hkeys.head hnested)
    rw [registeredParents, registeredParents_append, List.map_cons, List.map_append, hbelow,
      ih hlead hkeys.tail, shapeSegments_nest hnested, List.map_cons, List.map_append,
      List.map_map, hlead key hkeys.dot_not_mem]
    simp only [Function.comp_def, List.append_assoc, List.singleton_append]
  | @define lead key declaration rest after _ hfield _ ih =>
    rw [registeredParents, ih hlead hkeys.tail, shapeSegments_field hfield]

end Flattens

/-! ## What events lead to -/

namespace Schema

variable {schema after : Schema} {run : List Event}

namespace Runs

theorem refuse_not_mem (hrun : schema.Runs run after) (path : String) : .refuse path ∉ run := by
  induction hrun with
  | nil => exact List.not_mem_nil
  | cons hstep _ ih =>
    intro hmem
    rcases List.mem_cons.1 hmem with rfl | hrest
    · cases hstep
    · exact ih hrest

/-- Events graft the fields that they declare onto the outline of the tree. -/
theorem hasOutline (hrun : schema.Runs run after) {children : Entries Outline}
    (h : schema.tree.HasOutline children) : after.tree.HasOutline
      (((declaredFields run).map fun field => (segments field.1, field.2)).foldl plant
        children) := by
  induction hrun generalizing children with
  | nil => exact h
  | cons hstep _ ih =>
    rcases perform_done hstep with
      ⟨path, rfl, rfl⟩ | ⟨path, declaration, leaf, descriptor, rfl, hinsert, rfl⟩
    · exact ih (by rwa [tree_addNested])
    · exact ih (h.insert hinsert)

/-- Events add the paths that they declare behind those that are declared. -/
theorem paths_eq (hrun : schema.Runs run after)
    (hnodup : (schema.paths ++ (declaredFields run).map Prod.fst).Nodup) :
    after.paths = schema.paths ++ (declaredFields run).map Prod.fst := by
  induction hrun with
  | nil => exact (List.append_nil _).symm
  | @cons schema next after event rest hstep _ ih =>
    rcases perform_done hstep with
      ⟨path, rfl, rfl⟩ | ⟨path, declaration, leaf, descriptor, rfl, _, rfl⟩
    · rw [paths_addNested] at ih
      exact ih hnodup
    · rw [declaredFields, List.map_cons] at hnodup ⊢
      have hnew : Entries.has schema.fields path = false := by
        rw [← Bool.not_eq_true, Entries.has_iff_mem_keys]
        exact fun hmem => (List.nodup_append.1 hnodup).2.2 path hmem path List.mem_cons_self rfl
      have hput : Entries.keys (Entries.put schema.fields path descriptor)
          = schema.paths ++ [path] := Entries.keys_put_of_not_has hnew descriptor
      rw [paths, hput, List.append_assoc, List.singleton_append] at ih
      exact ih hnodup

/-- Events add the parents that they register behind those that are registered. -/
theorem nested_eq (hrun : schema.Runs run after)
    (hnodup : (schema.nested ++ registeredParents run).Nodup) :
    after.nested = schema.nested ++ registeredParents run := by
  induction hrun with
  | nil => exact (List.append_nil _).symm
  | @cons schema next after event rest hstep _ ih =>
    rcases perform_done hstep with
      ⟨path, rfl, rfl⟩ | ⟨path, declaration, leaf, descriptor, rfl, _, rfl⟩
    · rw [registeredParents] at hnodup ⊢
      have hnew : path ∉ schema.nested := fun hmem =>
        (List.nodup_append.1 hnodup).2.2 path hmem path List.mem_cons_self rfl
      rw [nested_addNested_of_not_mem hnew, List.append_assoc, List.singleton_append] at ih
      exact ih hnodup
    · exact ih hnodup

end Runs

end Schema

/-- When no key of a declaration or of its nested shapes holds a dot, or comes up twice in an
object, the tree of its schema is rendered as the declaration; the paths stand in the tree in the
order in which they were declared; and the parents are the nested shapes, depth first. -/
theorem tree_mirrors_declaration {declaration : Json} {options : SchemaOptions} {schema : Schema}
    (hkeys : ∀ fields, declaration = .obj fields → HasPlainKeys fields)
    (hdistinct : ∀ fields, declaration = .obj fields → HasDistinctKeys fields)
    (hdone : Schema.ofDeclaration declaration options = .ok schema) :
    ∃ fields, declaration = .obj fields ∧
      schema.tree.toJson = declaration ∧
      schema.leafPaths = schema.paths ∧
      schema.nested = (shapeSegments fields).map ofSegments := by
  obtain ⟨fields, rfl⟩ : ∃ fields, declaration = .obj fields := by
    cases declaration with
    | obj fields => exact ⟨fields, rfl⟩
    | null | bool | num | str | arr => cases hdone
  have hplain := hkeys fields rfl
  have hdistinct := hdistinct fields rfl
  have hrun : (Schema.empty options).Runs (events "" fields) schema := by
    rw [← Schema.performAll_eq_none_iff, ← addFields_eq_performAll]
    unfold Schema.ofDeclaration Schema.add at hdone
    split at hdone
    · rename_i hadd
      cases hdone
      exact hadd
    · cases hdone
  have hflat := flattens_events "" fields
  have hfields := hflat.fields_eq hrun.refuse_not_mem leads_empty hplain
  have hparents := hflat.parents_eq leads_empty hplain
  simp only [List.nil_append, List.map_id'] at hfields hparents
  have htree : schema.tree.HasOutline (declaredOutline fields) := by
    have hgrown := hrun.hasOutline PathTree.hasOutline_empty
    rwa [hfields, foldl_plant_declaredOutline hdistinct fun _ _ => rfl] at hgrown
  obtain ⟨log, htracks⟩ := hrun.tracks (Schema.Tracks.empty options)
  have hleaves : schema.leafPaths = (declaredFields (events "" fields)).map Prod.fst := by
    rw [Schema.leafPaths, htree.leafPaths_eq htracks.not_isAbove_empty, ← hfields, List.map_map]
    exact List.map_congr_left fun field _ => ofSegments_segments field.1
  refine ⟨fields, rfl, ?_, ?_, ?_⟩
  · rw [htree.toJson_eq, fieldsBelow_declaredOutline]
  · have hnodup := htracks.nodup_leafPaths
    rw [hleaves] at hnodup
    rw [hleaves]
    exact (hrun.paths_eq hnodup).symm
  · have hnodup : (registeredParents (events "" fields)).Nodup :=
      List.Nodup.of_map segments (hparents ▸ nodup_shapeSegments hdistinct)
    rw [hrun.nested_eq hnodup, ← hparents, List.map_map]
    exact (List.map_id'' (fun path => ofSegments_segments path) _).symm

/-- A shape beside a field, with an empty object and an object with a type as its fields. -/
theorem tree_mirrors_declaration_shape :
    let declaration : Json := .obj [("a", .obj [("b", .obj []),
      ("c", .obj [("type", .str "string")])]), ("d", .str "date")]
    ∃ schema, Schema.ofDeclaration declaration {} = .ok schema ∧
      schema.tree.toJson = declaration ∧ schema.leafPaths = schema.paths ∧
      schema.nested = ["a"] := by
  have hbuilt : (Schema.ofDeclaration (.obj [("a", .obj [("b", .obj []),
      ("c", .obj [("type", .str "string")])]), ("d", .str "date")]) {}).toOption.isSome = true := by
    cbv
  have hshapes : (shapeSegments [
      ("a", .obj [("b", .obj []), ("c", .obj [("type", .str "string")])]),
      ("d", .str "date")]).map ofSegments = ["a"] := by
    cbv
  -- what holds of the keys of all four objects holds of every shape
  have hevery : ∀ holds : Fields → Prop, holds [] → holds [("type", .str "string")] →
      holds [("b", .obj []), ("c", .obj [("type", .str "string")])] →
      holds [("a", .obj [("b", .obj []), ("c", .obj [("type", .str "string")])]),
        ("d", .str "date")] →
      EveryShape holds [("a", .obj [("b", .obj []), ("c", .obj [("type", .str "string")])]),
        ("d", .str "date")] := by
    intro holds hempty htype hinner houter
    refine .intro houter fun key inner hmem _ => ?_
    simp only [List.mem_cons, Prod.mk.injEq, Json.obj.injEq, reduceCtorEq, and_false,
      List.not_mem_nil, or_false] at hmem
    obtain ⟨_, rfl⟩ := hmem
    refine .intro hinner fun key inner hmem _ => ?_
    simp only [List.mem_cons, Prod.mk.injEq, Json.obj.injEq, List.not_mem_nil, or_false] at hmem
    obtain ⟨_, rfl⟩ | ⟨_, rfl⟩ := hmem
    · exact .intro hempty fun _ _ h => absurd h List.not_mem_nil
    · exact .intro htype fun _ _ h => by simp at h
  intro declaration
  cases hdone : Schema.ofDeclaration declaration {} with
  | error e =>
    rw [hdone] at hbuilt
    cases hbuilt
  | ok schema =>
    have hkeys : ∀ fields, declaration = .obj fields → HasPlainKeys fields := by
      intro fields hfields
      rw [← Json.obj.inj hfields]
      exact hevery _ (by decide) (by decide) (by decide) (by decide)
    have hdistinct : ∀ fields, declaration = .obj fields → HasDistinctKeys fields := by
      intro fields hfields
      rw [← Json.obj.inj hfields]
      exact hevery _ (by decide) (by decide) (by decide) (by decide)
    obtain ⟨fields, hfields, htree, hpaths, hnested⟩ :=
      tree_mirrors_declaration hkeys hdistinct hdone
    rw [← Json.obj.inj hfields, hshapes] at hnested
    exact ⟨schema, rfl, htree, hpaths, hnested⟩

end RecordSchema
