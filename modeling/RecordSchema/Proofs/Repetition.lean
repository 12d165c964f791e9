import RecordSchema.Proofs.Erasure
import RecordSchema.Proofs.Parents

/-!
# Declaring an object twice

An object that has been declared can be declared again, and that changes nothing. The second time
every path of the object is declared already, so that no field is in the way of another one, and
each definition takes the place of an earlier one: the paths, the registered parents and the layout
of the tree stay as they are. What the paths hold is decided by the last definition of each, which
is the same in both runs, also where two keys spell one path.

## Main definitions

* `PathTree.Redeclares`: whether a tree comes from another one by new declarations at its paths.
* `Schema.Redeclares`: whether a schema does, with new descriptors at its paths.
* `Event.Repeats`: whether an event has nothing to do but to declare a path anew.

## Main statements

* `PathTree.insert_declared`: an insertion at a declared path sets its leaf.
* `Schema.runs_of_repeats`: events that repeat what is declared run again.
* `lastDeclaration?_append`, `attachments_append`: what a log holds behind an earlier one.
* `declaring_twice`: the second declaration of an object changes nothing.
-/

namespace RecordSchema

open RecordSchema.Path

/-! ## Trees -/

namespace PathTree

/-- An insertion where a leaf stands sets this leaf and does nothing else. -/
theorem insertFrom_declared (path : String) (declaration : Json) (passed segs : List String)
    (nodes : Array TreeNode) (current : Nat) {id : Nat} {old : Json} (hsegs : segs ≠ [])
    (hwalk : walk nodes current segs = some id) (hleaf : nodes[id]? = some (.leaf old)) :
    insertFrom path declaration passed segs nodes current
      = (nodes.setIfInBounds id (.leaf declaration), .ok id) := by
  fun_induction insertFrom path declaration passed segs nodes current with
  | case1 => exact absurd rfl hsegs
  | case2 passed last nodes current hchild => simp [walk, hchild] at hwalk
  | case3 passed last nodes current existing hchild children hbranch =>
    obtain rfl : existing = id := by simpa [walk, hchild] using hwalk
    cases hbranch.symm.trans hleaf
  | case4 passed last nodes current existing hchild _ =>
    obtain rfl : existing = id := by simpa [walk, hchild] using hwalk
    rfl
  | case5 passed segment rest nodes current hrest passed' hchild _ => simp [walk, hchild] at hwalk
  | case6 passed segment rest nodes current hrest passed' child hchild existing hstop =>
    -- nothing lies behind a leaf
    obtain ⟨next, rest, rfl⟩ := List.exists_cons_of_ne_nil hrest
    have hnone : child? nodes child next = none := by rw [child?, hstop]; rfl
    simp [walk, hchild, hnone] at hwalk
  | case7 passed segment rest nodes current hrest passed' child hchild _ ih =>
    refine ih hrest ?_ hleaf
    simpa [walk, hchild] using hwalk

/-- An insertion at a declared path sets the leaf there and does nothing else. -/
theorem insert_declared {tree : PathTree} {path : String} {old : Json}
    (h : tree.declaration? path = some old) (declaration : Json) :
    ∃ id, walk tree.nodes rootId (segments path) = some id ∧ tree.nodes[id]? = some (.leaf old) ∧
      (tree.insert path declaration).1.nodes = tree.nodes.setIfInBounds id (.leaf declaration) ∧
      (tree.insert path declaration).2 = .ok id := by
  obtain ⟨id, hwalk, hleaf⟩ := Option.bind_eq_some_iff.1 (declaration?_eq_some_iff.1 h)
  have hinsert := insertFrom_declared path declaration [] (segments path) tree.nodes rootId
    (segments_ne_nil path) hwalk hleaf
  exact ⟨id, hwalk, hleaf, congrArg Prod.fst hinsert, congrArg Prod.snd hinsert⟩

/-- Whether a tree comes from another one by new declarations at its paths: the nodes are laid out
in the same way, and only those that a path leads to may differ. -/
structure Redeclares (tree other : PathTree) : Prop where
  /-- The layout. -/
  erased_eq : other.erased = tree.erased
  /-- Nodes that no path leads to. -/
  nodes_eq : ∀ id, (∀ path, walk tree.nodes rootId (segments path) ≠ some id) →
    other.nodes[id]? = tree.nodes[id]?

namespace Redeclares

variable {tree other last : PathTree}

theorem refl (tree : PathTree) : tree.Redeclares tree :=
  ⟨rfl, fun _ _ => rfl⟩

theorem walk_eq (h : tree.Redeclares other) (segs : List String) :
    walk other.nodes rootId segs = walk tree.nodes rootId segs := by
  rw [← walk_erased other.nodes, ← walk_erased tree.nodes]
  exact congrArg (walk · rootId segs) (congrArg nodes h.erased_eq)

theorem trans (h : tree.Redeclares other) (h' : other.Redeclares last) : tree.Redeclares last where
  erased_eq := h'.erased_eq.trans h.erased_eq
  nodes_eq := by
    intro id hid
    refine (h'.nodes_eq id fun path => ?_).trans (h.nodes_eq id hid)
    rw [h.walk_eq]
    exact hid path

/-- An insertion at a declared path declares it anew. -/
theorem insert {path : String} {old : Json} (h : tree.declaration? path = some old)
    (declaration : Json) : tree.Redeclares (tree.insert path declaration).1 := by
  obtain ⟨id, hwalk, hleaf, hnodes, _⟩ := insert_declared h declaration
  refine ⟨?_, fun other hother => ?_⟩
  · rw [erased, erased, PathTree.mk.injEq, hnodes, Array.map_setIfInBounds]
    refine Array.ext_getElem? fun other => ?_
    rw [Array.getElem?_setIfInBounds]
    split
    · rename_i heq
      subst heq
      have hlt := (Array.getElem?_eq_some_iff.1 hleaf).1
      rw [Array.size_map, if_pos hlt, Array.getElem?_map, hleaf]
      rfl
    · rfl
  · have hne : id ≠ other := fun heq => hother path (heq ▸ hwalk)
    rw [hnodes, Array.getElem?_setIfInBounds_ne hne]

/-- With the same declarations at its paths the tree is the same, node for node. -/
theorem eq_of_declaration? (h : tree.Redeclares other)
    (hdeclared : ∀ path, other.declaration? path = tree.declaration? path) : other = tree := by
  have hnodes : other.nodes = tree.nodes := by
    refine Array.ext_getElem? fun id => ?_
    by_cases hreached : ∃ path, walk tree.nodes rootId (segments path) = some id
    · obtain ⟨path, hwalk⟩ := hreached
      have hpath := hdeclared path
      rw [declaration?, declaration?, get?, get?, h.walk_eq, hwalk, Option.bind_some,
        Option.bind_some] at hpath
      have hlayout : (other.nodes[id]?).map TreeNode.erased
          = (tree.nodes[id]?).map TreeNode.erased := by
        rw [← Array.getElem?_map, ← Array.getElem?_map]
        exact congrArg (·[id]?) (congrArg nodes h.erased_eq)
      -- nodes of the same kind are branches with the same children, or leaves of the path
      rcases hother : other.nodes[id]? with _ | children | declaration <;>
        rcases htree : tree.nodes[id]? with _ | children' | declaration' <;>
        simp_all [TreeNode.erased]
    · exact h.nodes_eq id (not_exists.1 hreached)
  cases other
  cases tree
  exact (PathTree.mk.injEq ..).mpr hnodes

end Redeclares

end PathTree

/-! ## Schemas -/

/-- Whether a schema comes from another one by new declarations at its paths. -/
structure Schema.Redeclares (schema other : Schema) : Prop where
  /-- The order of the fields. -/
  paths_eq : other.paths = schema.paths
  /-- The tree. -/
  tree : schema.tree.Redeclares other.tree
  /-- The registered parents. -/
  nested_eq : other.nested = schema.nested
  /-- The options. -/
  options_eq : other.options = schema.options

namespace Schema.Redeclares

variable {schema other last : Schema}

theorem refl (schema : Schema) : schema.Redeclares schema :=
  ⟨rfl, .refl _, rfl, rfl⟩

theorem trans (h : schema.Redeclares other) (h' : other.Redeclares last) :
    schema.Redeclares last where
  paths_eq := h'.paths_eq.trans h.paths_eq
  tree := h.tree.trans h'.tree
  nested_eq := h'.nested_eq.trans h.nested_eq
  options_eq := h'.options_eq.trans h.options_eq

end Schema.Redeclares

/-- Whether an event has nothing to do but to declare a path anew: its parent is registered, or its
path is declared and its declaration means a field. -/
inductive Event.Repeats (schema : Schema) : Event → Prop
  /-- The parent is registered. -/
  | nest {path : String} (hnested : path ∈ schema.nested) : Repeats schema (.nest path)
  /-- The path is declared. -/
  | define {path : String} {declaration : Json} {meaning : Descriptor}
      (hpath : path ∈ schema.paths)
      (hmeaning : interpret schema.options path declaration = .ok meaning) :
      Repeats schema (.define path declaration)

namespace Schema

variable {schema other after : Schema} {options : SchemaOptions} {log : List Change}
  {event : Event} {run : List Event}

theorem Redeclares.repeats (h : schema.Redeclares other) (hevent : event.Repeats schema) :
    event.Repeats other := by
  cases hevent with
  | nest hnested => exact .nest (h.nested_eq ▸ hnested)
  | define hpath hmeaning => exact .define (h.paths_eq ▸ hpath) (h.options_eq ▸ hmeaning)

/-- An event that repeats what is declared succeeds. -/
theorem Tracks.perform_repeats (h : schema.Tracks options log) (hevent : event.Repeats schema) :
    ∃ next, schema.perform event = (next, none) ∧ schema.Redeclares next := by
  cases hevent with
  | @nest path hnested =>
    refine ⟨schema, ?_, .refl schema⟩
    rw [Schema.perform, Schema.addNested, if_pos (List.contains_iff_mem.2 hnested)]
  | @define path declaration meaning hpath hmeaning =>
    obtain ⟨field, hfind⟩ := h.exists_find? hpath
    obtain ⟨old, hold⟩ := Option.isSome_iff_exists.1 (h.declaration?_isSome_iff.2 hpath)
    obtain ⟨id, _, _, _, hinsert⟩ := PathTree.insert_declared hold declaration
    have hfault := (h.find?_described hfind).1
    have hhas : Entries.has schema.fields path = true := (Entries.has_iff_mem_keys _ _).2 hpath
    refine ⟨_, define_done_iff.2 ⟨hfault, id, meaning, hmeaning, hinsert, rfl⟩, ?_⟩
    exact ⟨Entries.keys_put_of_has hhas _, .insert hold declaration, rfl, rfl⟩

/-- Events that repeat what is declared run again. -/
theorem runs_of_repeats (h : schema.Tracks options log)
    (hrun : ∀ event ∈ run, event.Repeats schema) :
    ∃ after, schema.Runs run after ∧ schema.Redeclares after := by
  induction run generalizing schema log with
  | nil => exact ⟨schema, .nil, .refl schema⟩
  | cons event rest ih =>
    obtain ⟨hevent, hrest⟩ := List.forall_mem_cons.1 hrun
    obtain ⟨next, hstep, hnext⟩ := h.perform_repeats hevent
    have htracks := h.perform event
    rw [hstep] at htracks
    obtain ⟨after, hruns, hafter⟩ :=
      ih htracks fun other hother => hnext.repeats (hrest other hother)
    exact ⟨after, .cons hstep hruns, hnext.trans hafter⟩

/-- A run leaves a schema in which its events have nothing left to do. -/
theorem Runs.repeats (hrun : schema.Runs run after) :
    after.options = schema.options ∧ ∀ event ∈ run, event.Repeats after := by
  induction hrun with
  | nil => exact ⟨rfl, fun event h => absurd h List.not_mem_nil⟩
  | @cons schema next after event rest hstep hrest ih =>
    obtain ⟨hoptions, hrepeats⟩ := ih
    have hnext := options_perform schema event
    rw [hstep] at hnext
    refine ⟨hoptions.trans hnext, List.forall_mem_cons.2 ⟨?_, hrepeats⟩⟩
    cases event with
    | refuse path => cases hstep
    | nest path =>
      cases hstep
      exact .nest (hrest.nested_subset (mem_nested_addNested.2 (.inr rfl)))
    | define path declaration =>
      obtain ⟨_, leaf, meaning, hmeaning, _, hafter⟩ := define_done_iff.1 hstep
      have hpath : path ∈ next.paths := by
        rw [hafter, paths, Entries.mem_keys_put]
        exact .inr rfl
      rw [← hnext, ← hoptions] at hmeaning
      exact .define (hrest.paths_subset hpath) hmeaning

end Schema

/-! ## Logs -/

section logs

variable (path : String)

/-- The last declaration of a path is the one in the newer log, or else the one in the older. -/
theorem lastDeclaration?_append (newer older : List Change) :
    lastDeclaration? path (newer ++ older)
      = (lastDeclaration? path newer).or (lastDeclaration? path older) := by
  induction newer with
  | nil => rfl
  | cons change rest ih =>
    cases change with
    | attached key attachment => exact ih
    | defined key declaration =>
      rw [List.cons_append, lastDeclaration?, lastDeclaration?, ih]
      split <;> rfl

variable {newer : List Change} (older : List Change)

/-- What is attached to a path is what was, as long as the newer log only defines other paths. -/
theorem attachments_append (hnewer : ∀ key attachment, .attached key attachment ∉ newer) :
    attachments path (newer ++ older)
      = if (lastDeclaration? path newer).isSome then [] else attachments path older := by
  induction newer with
  | nil => rfl
  | cons change rest ih =>
    have hrest := ih fun key attachment hmem => hnewer key attachment (.tail _ hmem)
    cases change with
    | attached key attachment => exact absurd List.mem_cons_self (hnewer key attachment)
    | defined key declaration =>
      rw [List.cons_append, attachments, lastDeclaration?, hrest]
      split <;> rfl

end logs

namespace Schema

variable {schema after : Schema} {options : SchemaOptions} {log : List Change} {run : List Event}

/-- The log of a run that succeeds does not depend on the schema. -/
theorem Runs.eventLog_eq (hrun : schema.Runs run after) :
    schema.eventLog run = run.reverse.flatMap Event.change := by
  induction hrun with
  | nil => rfl
  | cons hstep _ ih =>
    rw [eventLog, hstep, List.reverse_cons, List.flatMap_append, List.flatMap_singleton, ← ih]

theorem Runs.tracks_log (hrun : schema.Runs run after) (h : schema.Tracks options log) :
    after.Tracks options (run.reverse.flatMap Event.change ++ log) := by
  have hafter := h.performAll run
  rwa [performAll_eq_none_iff.2 hrun, hrun.eventLog_eq] at hafter

/-- Events attach nothing. -/
theorem attached_not_mem_log (key : String) (attachment : Attachment) :
    .attached key attachment ∉ run.reverse.flatMap Event.change := by
  intro hmem
  obtain ⟨event, _, hevent⟩ := List.mem_flatMap.1 hmem
  cases event <;> simp [Event.change] at hevent

/-- The fields and the tree of a schema that redeclares another one are the same when both logs tell
the same of each path. -/
theorem Redeclares.eq_of_logs {other : Schema} {log' : List Change} (h : schema.Redeclares other)
    (hschema : schema.Tracks options log) (hother : other.Tracks options log')
    (hlast : ∀ path, lastDeclaration? path log' = lastDeclaration? path log)
    (hattached : ∀ path, attachments path log' = attachments path log) : other = schema := by
  have hfields : other.fields = schema.fields := by
    refine Entries.ext_get? h.paths_eq hother.distinct fun path => ?_
    show other.find? path = schema.find? path
    cases hdeclared : lastDeclaration? path log with
    | none => rw [hschema.undescribed hdeclared, hother.undescribed ((hlast path).trans hdeclared)]
    | some declaration =>
      obtain ⟨_, meaning, hmeaning, hfind⟩ := hschema.described hdeclared
      obtain ⟨_, meaning', hmeaning', hfind'⟩ := hother.described ((hlast path).trans hdeclared)
      obtain rfl := Except.ok.inj (hmeaning.symm.trans hmeaning')
      rw [hfind, hfind', hattached]
  have htree : other.tree = schema.tree := by
    refine h.tree.eq_of_declaration? fun path => ?_
    rw [hother.declared, hschema.declared, hlast]
  rw [← eta other, hfields, htree, h.nested_eq, h.options_eq, eta]

/-- A run that has succeeded succeeds again, and leads to the same schema. -/
theorem Runs.again (hrun : schema.Runs run after) (h : schema.Tracks options log) :
    after.Runs run after := by
  have hafter := hrun.tracks_log h
  obtain ⟨last, hruns, hredeclares⟩ := runs_of_repeats hafter hrun.repeats.2
  have hlast := hruns.tracks_log hafter
  -- the second log is in front of the first one, and says the same
  have heq : last = after := by
    refine hredeclares.eq_of_logs hafter hlast (fun path => ?_) fun path => ?_
    · rw [lastDeclaration?_append path _ (_ ++ log), lastDeclaration?_append path _ log,
        ← Option.or_assoc, Option.or_self]
    · rw [attachments_append path (_ ++ log) attached_not_mem_log,
        attachments_append path log attached_not_mem_log]
      split <;> rfl
  rwa [heq] at hruns

end Schema

/-- In every schema that edits lead to, an object that has been declared below a lead can be
declared there again, and this leaves the schema as the first time has made it: the fields in their
order with their descriptors, the tree node for node, and the registered parents. -/
theorem declaring_twice {options : SchemaOptions} {edits : List Edit} {declaration : Json}
    {lead : String} {after : Schema}
    (hdone : (Schema.reached options edits).add declaration lead = (after, none)) :
    after.add declaration lead = (after, none) := by
  have h := Schema.reached_tracks options edits
  rw [Schema.add_eq_performAll, Schema.performAll_eq_none_iff] at hdone ⊢
  exact hdone.again h

/-- One path that is spelled by a dotted key and by a shape, and has a default from before. -/
theorem declaring_twice_spelled_twice :
    let declaration : Json :=
      .obj [("a.b", .str "string"), ("a", .obj [("b", .str "number")])]
    let schema := Schema.reached {}
      [.define "a.b" (.str "date"), .attach "a.b" (.setDefault .null)]
    ∃ after, schema.add declaration "" = (after, none) ∧
      after.add declaration "" = (after, none) := by
  intro declaration schema
  have hsucceeds : (schema.add declaration "").2.isNone = true := by cbv
  cases hdone : schema.add declaration "" with
  | mk after answer =>
    rw [hdone] at hsucceeds
    obtain rfl := Option.isNone_iff_eq_none.1 hsucceeds
    exact ⟨after, rfl, declaring_twice hdone⟩

end RecordSchema
