import RecordSchema.Proofs.Refusals

/-!
# Definitions in either order

Whether a path can be defined depends on the path, on what is declared at it means, and on the
fields declared above and below it. So two definitions do not see each other as long as neither path
lies above the other: each has the same outcome whichever comes first, and both orders lead to the
same fields. When one path lies above the other, the second definition is refused in either order,
each time with an error of its own.

## Main definitions

* `Schema.AgreesAround`: whether the same is declared above and below a path.
* `Schema.SameContents`: whether two schemas hold the same, whatever the order.

## Main statements

* `Schema.Tracks.define_answer_congr`: the outcome depends on what is declared around the path.
* `Schema.Tracks.find?_define`, `Schema.Tracks.declaration?_define`: what a definition changes.
* `Schema.Tracks.sameContents`: descriptors, declarations and parents determine the contents.
* `definitions_commute`: both orders of two definitions.
-/

namespace RecordSchema

open RecordSchema.Path

variable {schema other : Schema} {options : SchemaOptions} {log log' : List Change}
  {path : String} {declaration : Json}

/-! ## What a definition depends on -/

/-- Whether two schemas with the same options hold the same declarations above and below a path. -/
structure Schema.AgreesAround (path : String) (schema other : Schema) : Prop where
  /-- The options. -/
  options_eq : other.options = schema.options
  /-- The declarations. -/
  declaration?_eq : ∀ key, IsAbove key path ∨ IsAbove path key →
    other.tree.declaration? key = schema.tree.declaration? key

namespace Schema.AgreesAround

theorem symm (h : AgreesAround path schema other) : AgreesAround path other schema :=
  ⟨h.options_eq.symm, fun key hkey => (h.declaration?_eq key hkey).symm⟩

variable (h : AgreesAround path schema other) (hschema : schema.Tracks options log)
  (hother : other.Tracks options log')

include h hschema hother

theorem mem_paths_iff {key : String} (hkey : IsAbove key path ∨ IsAbove path key) :
    key ∈ other.paths ↔ key ∈ schema.paths := by
  rw [← hschema.declaration?_isSome_iff, ← hother.declaration?_isSome_iff,
    h.declaration?_eq key hkey]

theorem definable (hdefinable : Definable schema path declaration) :
    Definable other path declaration := by
  obtain ⟨hname, hfilled, ⟨meaning, hmeaning⟩, hclear, hfree⟩ := hdefinable
  refine ⟨hname, hfilled, ⟨meaning, h.options_eq ▸ hmeaning⟩, fun key hkey habove => ?_,
    fun key hkey hbelow => ?_⟩
  · exact hclear key ((h.mem_paths_iff hschema hother (.inl habove)).1 hkey) habove
  · exact hfree key ((h.mem_paths_iff hschema hother (.inr hbelow)).1 hkey) hbelow

theorem refusal {e : SchemaError} (hrefusal : Refusal schema path declaration e) :
    Refusal other path declaration e := by
  cases hrefusal with
  | reserved hname => exact .reserved hname
  | empty_segment hname hsegment => exact .empty_segment hname hsegment
  | meaningless hname hfilled hmeaning =>
    exact .meaningless hname hfilled (h.options_eq ▸ hmeaning)
  | below_field hname hfilled hmeaning hparent habove honly hleaf =>
    refine .below_field hname hfilled (h.options_eq ▸ hmeaning)
      ((h.mem_paths_iff hschema hother (.inl habove)).2 hparent) habove
      (fun key hkey hlies => ?_) ?_
    · exact honly key ((h.mem_paths_iff hschema hother (.inl hlies)).1 hkey) hlies
    · rw [← PathTree.declaration?_eq_some_iff] at hleaf ⊢
      rw [h.declaration?_eq _ (.inl habove), hleaf]
  | above_field hname hfilled hmeaning hclear hbelow habove =>
    refine .above_field hname hfilled (h.options_eq ▸ hmeaning) (fun key hkey hlies => ?_)
      ((h.mem_paths_iff hschema hother (.inr habove)).2 hbelow) habove
    exact hclear key ((h.mem_paths_iff hschema hother (.inl hlies)).1 hkey) hlies

end Schema.AgreesAround

namespace Schema.Tracks

/-- A definition is refused just when a cause applies. -/
theorem define_eq_some_iff (h : schema.Tracks options log) {e : SchemaError} :
    (schema.define path declaration).2 = some e ↔ Refusal schema path declaration e := by
  rcases h.define_definable_or_refused path declaration with
    ⟨hdefinable, hdone⟩ | ⟨e', hrefusal, hdone⟩ <;> rw [hdone]
  · exact iff_of_false (by simp) fun hrefusal => hrefusal.not_definable hdefinable
  · rw [Option.some.injEq]
    exact ⟨fun heq => heq ▸ hrefusal, fun hrefusal' => hrefusal.unique hrefusal'⟩

theorem define_eq_none_iff (h : schema.Tracks options log) :
    (schema.define path declaration).2 = none ↔ Definable schema path declaration := by
  rcases h.define_definable_or_refused path declaration with
    ⟨hdefinable, hdone⟩ | ⟨e, hrefusal, hdone⟩ <;> rw [hdone]
  · exact iff_of_true rfl hdefinable
  · exact iff_of_false (by simp) hrefusal.not_definable

/-- The outcome of a definition depends on what is declared around its path. -/
theorem define_answer_congr (h : schema.Tracks options log) (h' : other.Tracks options log')
    (hagrees : AgreesAround path schema other) :
    (other.define path declaration).2 = (schema.define path declaration).2 := by
  cases hdone : (schema.define path declaration).2 with
  | none => exact h'.define_eq_none_iff.2 (hagrees.definable h h' (h.define_eq_none_iff.1 hdone))
  | some e => exact h'.define_eq_some_iff.2 (hagrees.refusal h h' (h.define_eq_some_iff.1 hdone))

/-! ## What a definition changes -/

theorem exists_define (h : schema.Tracks options log) (path : String) (declaration : Json) :
    ∃ log', (schema.define path declaration).1.Tracks options log' := by
  have hdefine := h.define path declaration
  rcases hdone : schema.define path declaration with ⟨after, _ | e⟩ <;> rw [hdone] at hdefine
  · exact ⟨_, hdefine⟩
  · exact ⟨_, hdefine⟩

/-- A definition that succeeds gives its path a new descriptor, and no other path. -/
theorem find?_define (h : schema.Tracks options log) (key : String) :
    (schema.define path declaration).1.find? key =
      if key = path ∧ (schema.define path declaration).2 = none then
        (interpret options path declaration).toOption
      else schema.find? key := by
  have houtcome := schema.define_outcome h.proper path declaration
  rcases hdone : schema.define path declaration with ⟨after, answer⟩
  rw [hdone] at houtcome
  cases houtcome with
  | faulty | meaningless | below_field | above_field => simp
  | declared hpath hmeaning hclear hproper htree =>
    rw [h.options_eq] at hmeaning
    by_cases hkey : key = path
    · subst hkey
      rw [if_pos ⟨rfl, rfl⟩, hmeaning]
      exact Entries.get?_put_self _ _ _
    · rw [if_neg fun h => hkey h.1]
      exact Entries.get?_put_of_ne _ hkey _

/-- A definition that succeeds puts its declaration into the tree, and changes no other one. -/
theorem declaration?_define (h : schema.Tracks options log) (key : String) :
    (schema.define path declaration).1.tree.declaration? key =
      if key = path ∧ (schema.define path declaration).2 = none then some declaration
      else schema.tree.declaration? key := by
  have houtcome := schema.define_outcome h.proper path declaration
  rcases hdone : schema.define path declaration with ⟨after, answer⟩
  rw [hdone] at houtcome
  cases houtcome with
  | faulty | meaningless | below_field | above_field => simp
  | declared hpath hmeaning hclear hproper htree => simp [htree]

/-- A definition changes nothing around a path that is neither its own nor above or below it. -/
theorem agreesAround_define (h : schema.Tracks options log) {key : String} (hne : key ≠ path)
    (hkey : ¬IsAbove key path) (hpath : ¬IsAbove path key) :
    AgreesAround key schema (schema.define path declaration).1 where
  options_eq := schema.options_define path declaration
  declaration?_eq := by
    intro other hother
    have hne : other ≠ path := by
      rintro rfl
      rcases hother with habove | hbelow
      · exact hpath habove
      · exact hkey hbelow
    rw [h.declaration?_define, if_neg fun h => hne h.1]

end Schema.Tracks

/-! ## The same contents -/

/-- Whether two schemas hold the same descriptors, declarations and parents. The order of the fields
and of the leaves may differ. -/
structure Schema.SameContents (schema other : Schema) : Prop where
  /-- Paths have the same descriptors. -/
  find?_eq : ∀ path, schema.find? path = other.find? path
  /-- The descriptors are the same, in any order. -/
  fields_perm : schema.fields.Perm other.fields
  /-- The leaves are the same, in any order. -/
  leafPaths_perm : schema.leafPaths.Perm other.leafPaths
  /-- The leaves hold the same declarations. -/
  leaf_iff : ∀ path declaration, schema.tree.get? path = some (.leaf declaration) ↔
    other.tree.get? path = some (.leaf declaration)
  /-- The registered parents are the same, in the same order. -/
  nested_eq : schema.nested = other.nested

/-- Descriptors, declarations and parents determine the contents. -/
theorem Schema.Tracks.sameContents (h : schema.Tracks options log)
    (h' : other.Tracks options log') (hfind : ∀ path, schema.find? path = other.find? path)
    (hdeclared : ∀ path, schema.tree.declaration? path = other.tree.declaration? path)
    (hnested : schema.nested = other.nested) : schema.SameContents other := by
  have hfields : schema.fields.Perm other.fields := by
    refine (List.perm_ext_iff_of_nodup (.of_map _ h.distinct) (.of_map _ h'.distinct)).2 ?_
    rintro ⟨path, field⟩
    constructor
    · intro hmem
      refine Entries.mem_of_get? ((hfind path).symm.trans ?_)
      exact Entries.get?_of_mem h.distinct hmem
    · intro hmem
      refine Entries.mem_of_get? ((hfind path).trans ?_)
      exact Entries.get?_of_mem h'.distinct hmem
  refine ⟨hfind, hfields, ?_, fun path declaration => ?_, hnested⟩
  · exact h.perm_leafPaths.trans ((hfields.map Prod.fst).trans h'.perm_leafPaths.symm)
  · rw [← PathTree.declaration?_eq_some_iff, ← PathTree.declaration?_eq_some_iff, hdeclared]

/-! ## Two definitions -/

namespace Schema.Tracks

variable {second : String} {declaration' : Json}

/-- Below a field that has been defined nothing can be defined. -/
theorem define_below (h : schema.Tracks options log) (habove : IsAbove path second)
    (hfirst : (schema.define path declaration).2 = none)
    (hsecond : (schema.define second declaration').2 = none) :
    ((schema.define path declaration).1.define second declaration').2
      = some (.pathConflict second path (TreeNode.declaredTypeName declaration)) := by
  obtain ⟨log', hafter⟩ := h.exists_define path declaration
  obtain ⟨hname, hfilled, ⟨meaning, hmeaning⟩, _⟩ := h.define_eq_none_iff.1 hsecond
  have hpath : path ∈ (schema.define path declaration).1.paths :=
    mem_paths_define.2 (.inr ⟨rfl, hfirst⟩)
  refine hafter.define_eq_some_iff.2 (.below_field hname hfilled
    (by rwa [options_define]) hpath habove (fun key hkey hlies => ?_) ?_)
  · exact hafter.eq_of_isAbove hkey hpath hlies habove
  · rw [← PathTree.declaration?_eq_some_iff, h.declaration?_define, if_pos ⟨rfl, hfirst⟩]

/-- Above a field that has been defined nothing can be defined. -/
theorem define_above (h : schema.Tracks options log) (habove : IsAbove path second)
    (hfirst : (schema.define path declaration).2 = none)
    (hsecond : (schema.define second declaration').2 = none) :
    ((schema.define second declaration').1.define path declaration).2
      = some (.nestedConflict path) := by
  obtain ⟨log', hafter⟩ := h.exists_define second declaration'
  obtain ⟨hname, hfilled, ⟨meaning, hmeaning⟩, _⟩ := h.define_eq_none_iff.1 hfirst
  have hpath : second ∈ (schema.define second declaration').1.paths :=
    mem_paths_define.2 (.inr ⟨rfl, hsecond⟩)
  refine hafter.define_eq_some_iff.2 (.above_field hname hfilled
    (by rwa [options_define]) (fun key hkey hlies => ?_) hpath habove)
  exact hafter.not_isAbove hkey hpath (hlies.trans habove)

/-- Definitions of which neither path lies above the other may come in either order. -/
theorem define_comm (h : schema.Tracks options log) (hne : path ≠ second)
    (habove : ¬IsAbove path second) (hbelow : ¬IsAbove second path) :
    ((schema.define second declaration').1.define path declaration).2
        = (schema.define path declaration).2 ∧
    ((schema.define path declaration).1.define second declaration').2
        = (schema.define second declaration').2 ∧
    ((schema.define path declaration).1.define second declaration').1.SameContents
      ((schema.define second declaration').1.define path declaration).1 := by
  obtain ⟨_, hpath⟩ := h.exists_define path declaration
  obtain ⟨_, hsecond⟩ := h.exists_define second declaration'
  obtain ⟨_, hthen⟩ := hpath.exists_define second declaration'
  obtain ⟨_, hthen'⟩ := hsecond.exists_define path declaration
  -- neither definition sees the other, so each has the outcome that it has alone
  have hanswer : ((schema.define second declaration').1.define path declaration).2
      = (schema.define path declaration).2 :=
    h.define_answer_congr hsecond (h.agreesAround_define hne habove hbelow)
  have hanswer' : ((schema.define path declaration).1.define second declaration').2
      = (schema.define second declaration').2 :=
    h.define_answer_congr hpath (h.agreesAround_define hne.symm hbelow habove)
  refine ⟨hanswer, hanswer', hthen.sameContents hthen' (fun key => ?_) (fun key => ?_) ?_⟩
  · rw [hpath.find?_define, hsecond.find?_define, h.find?_define, h.find?_define, hanswer, hanswer']
    rw [ite_ite_comm]
    rintro ⟨rfl, -⟩ ⟨hkey, -⟩
    exact hne hkey.symm
  · rw [hpath.declaration?_define, hsecond.declaration?_define, h.declaration?_define,
      h.declaration?_define, hanswer, hanswer']
    rw [ite_ite_comm]
    rintro ⟨rfl, -⟩ ⟨hkey, -⟩
    exact hne hkey.symm
  · simp only [nested_define]

end Schema.Tracks

/-- Two definitions of which neither path lies above the other have the same outcomes in either
order, and both orders lead to the same contents. When one path lies above the other and each could
be defined alone, the second definition is refused: the path below because of the field above it,
and the path above because it is a parent already. -/
theorem definitions_commute (options : SchemaOptions) (edits : List Edit) (path other : String)
    (declaration declaration' : Json) :
    let schema := Schema.reached options edits
    let first := schema.define path declaration
    let second := schema.define other declaration'
    let firstThenSecond := first.1.define other declaration'
    let secondThenFirst := second.1.define path declaration
    (path ≠ other → ¬IsAbove path other → ¬IsAbove other path →
      secondThenFirst.2 = first.2 ∧ firstThenSecond.2 = second.2 ∧
      firstThenSecond.1.SameContents secondThenFirst.1) ∧
    (IsAbove path other → first.2 = none → second.2 = none →
      firstThenSecond.2 = some (.pathConflict other path (TreeNode.declaredTypeName declaration)) ∧
      secondThenFirst.2 = some (.nestedConflict path)) := by
  intro schema first second firstThenSecond secondThenFirst
  have h : schema.Tracks options (history options edits) := Schema.reached_tracks options edits
  constructor
  · intro hne habove hbelow
    exact h.define_comm hne habove hbelow
  · intro habove hfirst hsecond
    exact ⟨h.define_below habove hfirst hsecond, h.define_above habove hfirst hsecond⟩

end RecordSchema
