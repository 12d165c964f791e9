import RecordSchema.Proofs.Parents
import RecordSchema.Proofs.Positions

/-!
# Kinds of paths

The kind of a path is decided by three tests in turn: whether it is declared, whether it is
registered as a parent, and whether positions lead from it to a descriptor. The second test stands
in front of the third and might take a path away from it. It never does where every parent has
fields below it: a path that is resolved by positions begins with a declared path, so nothing is
declared below it.

## Main statements

* `Path.parts_head`: the first name of a path is the path or lies above it.
* `Schema.exists_isAbove_of_path?`: what resolves without being declared is below a field.
* `path_kinds_agree`: a path is real just when it resolves, and nested only above a field.
-/

namespace RecordSchema

open RecordSchema.Path

/-! ## Where a path starts -/

/-- The name with which a path starts is the path itself or lies above it. -/
theorem Path.parts_head {path head : String} {rest : List Part}
    (h : parts path = .name head :: rest) : head = path ∨ IsAbove head path := by
  obtain ⟨first, others, hsegs⟩ := List.exists_cons_of_ne_nil (segments_ne_nil path)
  -- the name goes on up to the first position
  let names := others.takeWhile (!isIndex ·)
  let tail := others.dropWhile (!isIndex ·)
  have hothers : names ++ tail = others := List.takeWhile_append_dropWhile
  have hnames : ∀ name ∈ names, isIndex name = false := fun name hname => by
    simpa using List.mem_takeWhile_imp hname
  have htail : ∀ next ∈ tail.head?, isIndex next = true := fun next hnext => by
    have hstop := List.head?_dropWhile_not (!isIndex ·) others
    rw [show (others.dropWhile (!isIndex ·)).head? = some next from hnext] at hstop
    simpa using hstop
  rw [parts, hsegs, ← hothers] at h
  have hhead : head = ofSegments (first :: names) := by
    have hparts : Part.prepend first (Part.ofSegments (names ++ tail))
        = .name (ofSegments (first :: names)) :: Part.ofSegments tail :=
      Part.prepend_ofSegments hnames htail
    cases hparts.symm.trans h
    rfl
  have hpath : path = ofSegments ((first :: names) ++ tail) := by
    rw [List.cons_append, hothers, ← hsegs, ofSegments_segments]
  by_cases hnil : tail = []
  · rw [hnil, List.append_nil, ← hhead] at hpath
    exact .inl hpath.symm
  · rw [ofSegments_append (by simp) hnil, ← hhead] at hpath
    exact .inr ⟨_, hpath⟩

namespace Schema

variable {schema : Schema} {options : SchemaOptions} {log : List Change} {path : String}
  {field : Descriptor}

/-! ## Resolved paths -/

theorem path?_of_find? (h : schema.find? path = some field) : schema.path? path = some field := by
  rw [path?, locate?, h]
  rfl

/-- A path that resolves without being declared goes on behind a declared one. -/
theorem exists_isAbove_of_path? (hfield : schema.path? path = some field)
    (hpath : schema.find? path = none) : ∃ head ∈ schema.paths, IsAbove head path := by
  obtain ⟨located, hlocated, _⟩ := Option.map_eq_some_iff.1 hfield
  rw [locate?, hpath] at hlocated
  obtain ⟨head, rest, hparts⟩ := exists_parts_eq path
  have hpositional : schema.positional? path = some located := by
    by_cases hpos : isPositional path = true
    · simpa [hpos] using hlocated
    · simp [hpos] at hlocated
  rw [positional?, hparts] at hpositional
  obtain ⟨first, hfirst, _⟩ := Option.bind_eq_some_iff.1 hpositional
  rcases parts_head hparts with rfl | habove
  · cases hpath.symm.trans hfirst
  · exact ⟨head, Schema.mem_paths_of_find? hfirst, habove⟩

/-! ## Real and nested paths -/

theorem pathKind_eq_real_iff : schema.pathKind path = .real ↔
    path ∈ schema.paths ∨ path ∉ schema.nested ∧ (schema.path? path).isSome := by
  unfold pathKind
  by_cases hpath : path ∈ schema.paths
  · simp [declares_iff.2 hpath, hpath]
  · have hdeclares : schema.declares path = false := by
      rw [← Bool.not_eq_true, declares_iff]
      exact hpath
    by_cases hnested : path ∈ schema.nested
    · simp [hdeclares, hpath, hnested]
    · simp [hdeclares, hpath, hnested, Option.isSome_iff_ne_none]

/-- What resolves is not above a field. -/
theorem Tracks.not_isAbove_of_path? (h : schema.Tracks options log)
    (hpath : schema.path? path = some field) {below : String} (hbelow : below ∈ schema.paths) :
    ¬IsAbove path below := by
  intro habove
  -- the path itself is declared, or it goes on behind a declared one
  cases hfind : schema.find? path with
  | some declared => exact h.not_isAbove (Schema.mem_paths_of_find? hfind) hbelow habove
  | none =>
    obtain ⟨head, hhead, hlead⟩ := exists_isAbove_of_path? hpath hfind
    exact h.not_isAbove hhead hbelow (hlead.trans habove)

/-- Where every parent has fields below it, no parent is in the way of a path that resolves. -/
theorem Tracks.pathKind_eq_real_iff (h : schema.Tracks options log)
    (hpopulated : schema.IsPopulated) :
    schema.pathKind path = .real ↔ ∃ field, schema.path? path = some field := by
  rw [Schema.pathKind_eq_real_iff, ← Option.isSome_iff_exists]
  constructor
  · rintro (hpath | ⟨_, hpath⟩)
    · obtain ⟨field, hfind⟩ := h.exists_find? hpath
      simp [path?_of_find? hfind]
    · exact hpath
  · -- the test for parents stands before the resolver, and the path passes it
    intro hpath
    refine .inr ⟨fun hnested => ?_, hpath⟩
    obtain ⟨field, hfield⟩ := Option.isSome_iff_exists.1 hpath
    obtain ⟨below, hbelow, habove⟩ := hpopulated path hnested
    exact h.not_isAbove_of_path? hfield hbelow habove

/-- A parent with fields below it is a branch of the tree. -/
theorem Tracks.get?_of_isAbove (h : schema.Tracks options log) {below : String}
    (hbelow : below ∈ schema.paths) (habove : IsAbove path below) :
    ∃ children, schema.tree.get? path = some (.branch children) :=
  h.proper.branch_iff.2 ⟨below, habove, h.declaration?_isSome_iff.2 hbelow⟩

end Schema

/-- After any run of edits in which no declaration of an object failed, a path is real just when it
resolves to a descriptor, and a path that is nested is a branch of the tree with a declared field
below it. -/
theorem path_kinds_agree (options : SchemaOptions) (edits : List Edit)
    (hsucceeds : ∀ front declaration lead back, edits = front ++ .add declaration lead :: back →
      ((Schema.reached options front).add declaration lead).2 = none) (path : String) :
    let schema := Schema.reached options edits
    (schema.pathKind path = .real ↔ ∃ field, schema.path? path = some field) ∧
    (schema.pathKind path = .nested →
      (∃ children, schema.tree.get? path = some (.branch children)) ∧
      ∃ below ∈ schema.paths, IsAbove path below) := by
  intro schema
  have h : schema.Tracks options (history options edits) := Schema.reached_tracks options edits
  have hpopulated : schema.IsPopulated := Schema.IsPopulated.reached hsucceeds
  refine ⟨h.pathKind_eq_real_iff hpopulated, fun hnested => ?_⟩
  obtain ⟨below, hbelow, habove⟩ := hpopulated path (Schema.pathKind_eq_nested_iff.1 hnested).2
  exact ⟨h.get?_of_isAbove hbelow habove, below, hbelow, habove⟩

/-- An item of a list below a parent, and the parent, after a definition that fails because it would
take the place of the parent. -/
theorem path_kinds_agree_below :
    let schema := Schema.reached {} [.add (.obj [("a", .obj [("b", .arr [.str "string"])])]) "",
      .define "a" (.str "number")]
    (∃ item, schema.path? "a.b.0" = some item) ∧ schema.pathKind "a.b.0" = .real ∧
    schema.pathKind "a" = .nested ∧ (∃ children, schema.tree.get? "a" = some (.branch children)) ∧
    ∃ below ∈ schema.paths, IsAbove "a" below := by
  have hkinds : (fun schema : Schema => (schema.pathKind "a.b.0", schema.pathKind "a"))
      (Schema.reached {} [.add (.obj [("a", .obj [("b", .arr [.str "string"])])]) "",
        .define "a" (.str "number")]) = (.real, .nested) := by
    cbv
  have hdone : ((Schema.empty {}).add (.obj [("a", .obj [("b", .arr [.str "string"])])]) "").2
      = none := by
    cbv
  have hsucceeds : ∀ front declaration lead back,
      [Edit.add (.obj [("a", .obj [("b", .arr [.str "string"])])]) "",
        .define "a" (.str "number")] = front ++ .add declaration lead :: back →
      ((Schema.reached {} front).add declaration lead).2 = none := by
    intro front declaration lead back hedits
    rcases front with _ | ⟨first, _ | ⟨second, front⟩⟩
    · obtain ⟨hadd, _⟩ := List.cons.inj hedits
      cases hadd
      exact hdone
    · simp at hedits
    · simp at hedits
  intro schema
  obtain ⟨hreal, hnested⟩ := Prod.mk.inj hkinds
  have hitem := (path_kinds_agree {} _ hsucceeds "a.b.0").1.1 hreal
  obtain ⟨hbranch, hbelow⟩ := (path_kinds_agree {} _ hsucceeds "a").2 hnested
  exact ⟨hitem, hreal, hnested, hbranch, hbelow⟩

-- a declaration that fails below a list leaves a parent behind, which hides an item
example : (fun schema : Schema =>
      ((schema.path? "a.0").map Descriptor.type, schema.pathKind "a.0"))
    (Schema.reached {} [.define "a" (.arr [.str "string"]),
      .add (.obj [("a", .obj [("0", .obj [("b", .null)])])]) ""])
    = (some .string, .nested) := by
  cbv

end RecordSchema
