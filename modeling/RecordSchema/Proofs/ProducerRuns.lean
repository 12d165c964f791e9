import Mathlib
import RecordSchema.Proofs.ProjectionFlags

/-!
# How often producers run

A document is built in one pass over the declared paths. For each path the pass goes down the
document to the place of the field; a projection may stop it on the way, and only at the end is the
default of the field asked for. Whatever asking may do, the pass asks once for each wanted path, in
the order of the paths, and for no other. So a producer has been asked as often as documents have
been built that wanted its path, and the next document holds its answer to that call.

## Main definitions

* `Selection.visit`, `Schema.buildAsking`: the pass, with any way of asking for defaults.
* `Selection.answered`: the defaults of paths after the wanted ones have been asked for.
* `Schema.ask`: asking for the default of a field, which counts as a call of its producer.

## Main statements

* `Selection.visit_eq`: a visit asks when nothing stops it and the path is taken.
* `Schema.buildAsking_eq`: the pass asks for the wanted paths, in their order.
* `Schema.PrefixFree.buildAsking_ask`: the pass with calls that are counted.
* `producers_run_when_wanted`: all this after any run of edits and any documents.
-/

namespace RecordSchema

open RecordSchema.Path

/-! ## The pass -/

section pass

variable {m : Type → Type} [Monad m]

/-- Whether the default of a path is taken once its place has been reached. -/
def Selection.takes : Selection → String → Bool
  | everything, _ => true
  | only flags, path => flags.has path
  | allBut flags, path => !flags.has path

/-- Goes down a document to the place of a field and there asks for its default. Objects are made on
the way, up to the first blocked path. `passed` is the path so far with a dot at its end. -/
def Selection.visit (selection : Selection) (path : String) (ask : m (Option Json))
    (passed : String) : List String → Fields → m Fields
  | [], document => pure document
  | [last], document =>
    if selection.blocks (passed ++ last) then pure document
    else if selection.takes path then do
      match ← ask with
      | some value => pure (document.put last value)
      | none => pure document
    else pure document
  | segment :: next :: rest, document =>
    if selection.blocks (passed ++ segment) then pure document
    else do
      let inner ← selection.visit path ask (passed ++ segment ++ ".") (next :: rest)
        (Json.fieldsAt document segment)
      pure (document.put segment (.obj inner))

/-- The default document under a projection, in one pass that asks for defaults as it comes to the
places of the fields. -/
def Schema.buildAsking (schema : Schema) (ask : String → m (Option Json))
    (projection : Option Projection) : m Json := do
  let selection := Selection.ofProjection schema projection
  let document ← schema.paths.foldlM (fun document path =>
    selection.visit path (ask path) "" (segments path) document) []
  pure (.obj document)

/-- The defaults of paths after the wanted ones have been asked for, with their answers in turn. -/
def Selection.answered (selection : Selection) :
    List String → List (Option Json) → List (String × Option Json)
  | [], _ => []
  | path :: rest, answers =>
    if selection.wants path then
      (path, answers.head?.join) :: selection.answered rest answers.tail
    else (path, none) :: selection.answered rest answers

end pass

/-! ## Which paths are asked for -/

section

variable {m : Type → Type} [Monad m] [LawfulMonad m] (selection : Selection)

omit [LawfulMonad m] in
/-- A visit stops at a blocked path. -/
theorem Selection.visit_of_blocked (path : String) (ask : m (Option Json)) {passed segment : String}
    (h : selection.blocks (passed ++ segment) = true) (rest : List String) (document : Fields) :
    selection.visit path ask passed (segment :: rest) document = pure document := by
  cases rest <;> simp [visit, h]

/-- A visit asks when nothing stops it and the path is taken, and then writes the default. -/
theorem Selection.visit_eq (path : String) (ask : m (Option Json)) (passed : String)
    (segs : List String) (hsegs : segs ≠ []) (document : Fields) :
    selection.visit path ask passed segs document =
      (fun default => placeDefault selection.blocks default passed segs document) <$>
        if (Projection.lineageFrom passed segs).all (fun key => !selection.blocks key)
          && selection.takes path then ask else pure none := by
  induction segs generalizing passed document with
  | nil => exact absurd rfl hsegs
  | cons segment rest ih =>
    cases hblocked : selection.blocks (passed ++ segment) with
    | true =>
      -- the visit stops here, and the default would not be written either
      simp [selection.visit_of_blocked path ask hblocked, Projection.lineageFrom, hblocked,
        placeDefault_of_blocked hblocked]
    | false =>
      rcases rest with _ | ⟨next, rest⟩
      · cases htakes : selection.takes path with
        | false => simp [visit, hblocked, htakes, placeDefault]
        | true =>
          simp only [visit, hblocked, htakes, Projection.lineageFrom, List.all_cons, List.all_nil,
            Bool.not_false, Bool.and_self, if_true, Bool.false_eq_true, if_false, map_eq_pure_bind]
          refine bind_congr fun default => ?_
          cases default <;> simp [placeDefault, hblocked]
      · have hbelow := ih (passed ++ segment ++ ".") (List.cons_ne_nil _ _)
          (Json.fieldsAt document segment)
        have hplace : ∀ default, placeDefault selection.blocks default passed
            (segment :: next :: rest) document = document.put segment
              (.obj (placeDefault selection.blocks default (passed ++ segment ++ ".")
                (next :: rest) (Json.fieldsAt document segment))) := by
          intro default
          rw [placeDefault_cons (List.cons_ne_nil _ _), if_neg (by simp [hblocked])]
        have hall : (Projection.lineageFrom passed (segment :: next :: rest)).all
              (fun key => !selection.blocks key)
            = (Projection.lineageFrom (passed ++ segment ++ ".") (next :: rest)).all
              fun key => !selection.blocks key := by
          rw [Projection.lineageFrom, List.all_cons, hblocked, Bool.not_false, Bool.true_and]
        rw [visit, if_neg (by simp [hblocked]), hbelow, hall]
        simp only [hplace, map_eq_pure_bind, bind_assoc, pure_bind]

/-- A path is wanted when nothing stops the visit of its place and it is taken there. -/
theorem Selection.wants_eq (path : String) : selection.wants path =
    ((Projection.lineage path).all (fun key => !selection.blocks key) && selection.takes path) := by
  cases selection with
  | everything => simp [wants, blocks, takes]
  | only flags => simp [wants, blocks, takes]
  | allBut flags =>
    have hself : path ∈ Projection.lineage path := Projection.mem_lineage_iff.2 (.inl rfl)
    rw [Bool.eq_iff_iff]
    simp only [wants, blocks, takes, Bool.not_eq_true', List.any_eq_false, Bool.and_eq_true,
      List.all_eq_true, Bool.not_eq_true]
    exact ⟨fun h => ⟨h, h path hself⟩, And.left⟩

/-- Visits in turn ask for the wanted paths, in their order. -/
theorem Selection.foldlM_visit (ask : String → m (Option Json)) (paths : List String)
    (document : Fields) :
    paths.foldlM (fun document path =>
        selection.visit path (ask path) "" (segments path) document) document
      = (fun answers => (selection.answered paths answers).foldl (fun document entry =>
          placeDefault selection.blocks entry.2 "" (segments entry.1) document) document) <$>
        (paths.filter selection.wants).mapM ask := by
  induction paths generalizing document with
  | nil => simp [answered]
  | cons path rest ih =>
    have hvisit := selection.visit_eq path (ask path) "" (segments path) (segments_ne_nil path)
      document
    rw [← Projection.lineage, ← selection.wants_eq] at hvisit
    rw [List.foldlM_cons, hvisit]
    cases hwants : selection.wants path with
    | false =>
      simp only [Bool.false_eq_true, if_false, map_pure, pure_bind, ih, List.filter_cons, hwants,
        answered, List.foldl_cons]
    | true =>
      simp only [if_true, ih, List.filter_cons, hwants, List.mapM_cons, answered, List.foldl_cons,
        map_eq_pure_bind, bind_assoc, pure_bind, List.head?_cons, List.tail_cons, Option.join_some]

/-- The pass asks once for each wanted path, in the order of the paths, and for no other; the
document is made of the answers. -/
theorem Schema.buildAsking_eq (schema : Schema) (ask : String → m (Option Json))
    (projection : Option Projection) :
    let selection := Selection.ofProjection schema projection
    schema.buildAsking ask projection =
      (fun answers => .obj (placeAll selection.blocks (selection.answered schema.paths answers)))
        <$> (schema.paths.filter selection.wants).mapM ask := by
  intro selection
  rw [buildAsking, Selection.foldlM_visit, bind_pure_comp, Functor.map_map]
  rfl

/-- Answers that depend on the path alone. -/
theorem Selection.answered_map (answer : String → Option Json) (paths : List String) :
    selection.answered paths ((paths.filter selection.wants).map answer)
      = paths.map fun path => (path, if selection.wants path then answer path else none) := by
  induction paths with
  | nil => rfl
  | cons path rest ih =>
    cases hwants : selection.wants path with
    | false => simp [answered, hwants, ih]
    | true => simp [answered, hwants, ih]

end

/-! ## Counting calls -/

namespace Schema

variable {schema : Schema}

/-- Asks for the default of the field at a path, which counts as a call of its producer. -/
def ask (path : String) : StateM Schema (Option Json) := fun schema =>
  ((schema.find? path).bind Descriptor.defaultValue, schema.modify path Descriptor.advance)

/-- Asking for several paths in turn gives each its own default. -/
theorem mapM_ask {paths : List String} (hpaths : paths.Nodup) (schema : Schema) :
    (paths.mapM ask).run schema =
      (paths.map fun path => (schema.find? path).bind Descriptor.defaultValue,
        { schema with fields := schema.fields.map fun entry =>
            (entry.1, if entry.1 ∈ paths then entry.2.advance else entry.2) }) := by
  induction paths generalizing schema with
  | nil =>
    have hfields : (schema.fields.map fun entry => (entry.1,
        if entry.1 ∈ ([] : List String) then entry.2.advance else entry.2)) = schema.fields := by
      simp
    rw [hfields, eta]
    rfl
  | cons path rest ih =>
    obtain ⟨hpath, hrest⟩ := List.nodup_cons.1 hpaths
    have hrun : ((path :: rest).mapM ask).run schema =
        ((schema.find? path).bind Descriptor.defaultValue
            :: ((rest.mapM ask).run (schema.modify path Descriptor.advance)).1,
          ((rest.mapM ask).run (schema.modify path Descriptor.advance)).2) := by
      rw [List.mapM_cons]
      rfl
    rw [hrun, ih hrest]
    refine Prod.ext (congrArg (List.cons _) ?_) ?_
    · -- the other paths have not been asked yet
      refine List.map_congr_left fun other hother => ?_
      have hne : other ≠ path := fun heq => hpath (heq ▸ hother)
      rw [find?_modify]
      simp [hne]
    · have hentry : ∀ entry : String × Descriptor,
          (fun entry : String × Descriptor =>
              (entry.1, if entry.1 ∈ rest then entry.2.advance else entry.2))
            (if entry.1 = path then (entry.1, entry.2.advance) else entry)
          = (entry.1, if entry.1 ∈ path :: rest then entry.2.advance else entry.2) := by
        intro entry
        by_cases heq : entry.1 = path
        · simp [heq, hpath]
        · simp [heq]
      simp only [modify, Entries.modify, List.map_map, Function.comp_def, hentry]

/-- The pass with calls that are counted is the building of a document. -/
theorem PrefixFree.buildAsking_ask (h : schema.PrefixFree) (projection : Option Projection) :
    (schema.buildAsking ask projection).run schema = schema.build projection := by
  let selection := Selection.ofProjection schema projection
  have hwanted : (schema.paths.filter selection.wants).Nodup := h.distinct.filter _
  have hrun : (schema.buildAsking ask projection).run schema =
      (Json.obj (placeAll selection.blocks (selection.answered schema.paths
          (((schema.paths.filter selection.wants).mapM ask).run schema).1)),
        (((schema.paths.filter selection.wants).mapM ask).run schema).2) := by
    rw [buildAsking_eq]
    rfl
  have hdefaults : (schema.paths.map fun path => (path, if selection.wants path then
      (schema.find? path).bind Descriptor.defaultValue else none))
      = selection.defaults schema.fields := by
    rw [paths, Entries.keys, List.map_map, Selection.defaults]
    refine List.map_congr_left fun entry hentry => ?_
    have hfind : schema.find? entry.1 = some entry.2 := Entries.get?_of_mem h.distinct hentry
    rw [Function.comp_apply, hfind, Option.bind_some, wantedDefault]
  have hfields : (schema.fields.map fun entry => (entry.1,
      if entry.1 ∈ schema.paths.filter selection.wants then entry.2.advance else entry.2))
      = schema.fields.map fun entry =>
        (entry.1, if selection.wants entry.1 then entry.2.advance else entry.2) := by
    refine List.map_congr_left fun entry hentry => ?_
    have hpath : entry.1 ∈ schema.paths := List.mem_map_of_mem hentry
    simp [List.mem_filter, hpath]
  rw [hrun, mapM_ask hwanted, selection.answered_map, hdefaults, hfields]
  refine Prod.ext ?_ rfl
  rw [build_fst]

end Schema

/-! ## Documents in turn -/

namespace Schema

variable {schema : Schema}

/-- The next document holds the answer of a producer to the call of that number, if its path is
wanted. -/
theorem PrefixFree.at?_build_producer (h : schema.PrefixFree)
    (earlier : List (Option Projection)) (projection : Option Projection) {path : String}
    {field : Descriptor} {answer : Nat → Option Json} (hfind : schema.find? path = some field)
    (hproducer : field.default = some (.producer answer 0)) :
    ((schema.rebuilt earlier).build projection).1.at? (segments path)
      = if Wanted schema projection path then answer (timesWanted schema earlier path)
        else none := by
  have hpath : path ∈ (schema.rebuilt earlier).paths := by
    rw [paths_rebuilt]
    exact mem_paths_of_find? hfind
  rw [(h.rebuilt earlier).at?_build projection hpath, populated?, find?_rebuilt, hfind,
    Option.map_some, Option.bind_some, wantedDefault]
  simp only [wants_ofProjection_iff, wanted_rebuilt_iff]
  have hvalue : (field.asked (timesWanted schema earlier path)).defaultValue
      = answer (timesWanted schema earlier path) := by
    simp [Descriptor.defaultValue, Descriptor.asked, hproducer, Default.asked, Default.value]
  rw [hvalue]

end Schema

/-- Take any schema that edits lead to, and any documents that have been built from it with any
projections. Whatever asking for defaults may do, the next document asks once for each path that its
projection wants, in the order of the paths, and for no other; and building it is asking with calls
that are counted. The documents so far have left behind in the schema that the default of each path
has been asked as often as the path was wanted, and nothing else. So a producer has been called that
often, and the next document holds its answer to that call where the path is wanted, and otherwise
nothing there. -/
theorem producers_run_when_wanted (options : SchemaOptions) (edits : List Edit)
    (earlier : List (Option Projection)) (projection : Option Projection) :
    let schema := Schema.reached options edits
    let current := schema.rebuilt earlier
    let selection := Selection.ofProjection schema projection
    (∀ (m : Type → Type) [Monad m] [LawfulMonad m] (ask : String → m (Option Json)),
      current.buildAsking ask projection =
        (fun answers => .obj (placeAll selection.blocks (selection.answered schema.paths answers)))
          <$> (schema.paths.filter fun path => Wanted schema projection path).mapM ask) ∧
    (current.buildAsking Schema.ask projection).run current = current.build projection ∧
    current = { schema with fields := schema.fields.map fun entry =>
      (entry.1, entry.2.asked (timesWanted schema earlier entry.1)) } ∧
    ∀ path field answer calls, schema.find? path = some field →
      field.default = some (.producer answer calls) →
      calls = 0 ∧
      current.find? path = some { field with
        default := some (.producer answer (timesWanted schema earlier path)) } ∧
      (current.build projection).1.at? (segments path)
        = if Wanted schema projection path then answer (timesWanted schema earlier path)
          else none := by
  intro schema current selection
  have h : schema.Tracks options (history options edits) := Schema.reached_tracks options edits
  have hselection : Selection.ofProjection current projection = selection := by
    cases projection with
    | none => rfl
    | some projection =>
      simp only [selection, Selection.ofProjection]
      rw [Schema.isExclusive_rebuilt]
  refine ⟨fun m _ _ ask => ?_, (h.prefixFree.rebuilt earlier).buildAsking_ask projection,
    schema.rebuilt_eq earlier, fun path field answer calls hfind hproducer => ?_⟩
  · have hfilter : schema.paths.filter selection.wants
        = schema.paths.filter fun path => Wanted schema projection path := by
      refine List.filter_congr fun path _ => ?_
      rw [Bool.eq_iff_iff, wants_ofProjection_iff, decide_eq_true_iff]
    rw [Schema.buildAsking_eq, hselection, Schema.paths_rebuilt, hfilter]
  · obtain rfl := h.calls_eq_zero hfind hproducer
    refine ⟨rfl, ?_, h.prefixFree.at?_build_producer earlier projection hfind hproducer⟩
    rw [Schema.find?_rebuilt, hfind, Option.map_some, Descriptor.asked, hproducer, Option.map_some,
      Default.asked, Nat.zero_add]

end RecordSchema
