import Mathlib
import RecordSchema.Proofs.Contents
import RecordSchema.Schema.Position

/-!
# Paths with positions

Behind a declared collection a path goes on with a position. One position leads to the items, so
what follows it is looked up among the fields of the embedded documents. Further positions right
behind it are passed over: they lead no deeper into lists of lists, and they are accepted where
there is no deeper list.

## Main definitions

* `Descriptor.item?`: the descriptor that answers for the items of a collection.
* `Descriptor.listAt?`: the collection that is some levels down.

## Main statements

* `Path.Part.prepend_ofSegments`, `Path.Part.ofSegments_positions`: the parts of a path.
* `Schema.Tracks.path?_below`: what a path leads to that goes on behind a declared one.
* `positions_descend_once`: several positions in a row lead as far as one.
* `nested_items_unreached`: two positions that do not lead to the numbers in a list of lists.
* `positional_composes`: behind a position a path is one of the embedded schema.
-/

namespace RecordSchema

open RecordSchema.Path

/-! ## Parts of a path -/

namespace Path

/-- A position holds no dot. -/
theorem segments_of_isIndex {position : String} (h : isIndex position = true) :
    segments position = [position] := by
  have hdigits : ∀ c ∈ position.toList, c.isDigit = true := by
    simpa using (Bool.and_eq_true_iff.1 h).2
  exact segments_of_dot_not_mem fun hmem => absurd (hdigits '.' hmem) (by decide)

namespace Part

/-- Names up to the next position make up one part. -/
theorem prepend_ofSegments {first : String} {names tail : List String}
    (hnames : ∀ name ∈ names, isIndex name = false)
    (htail : ∀ next ∈ tail.head?, isIndex next = true) :
    prepend first (ofSegments (names ++ tail))
      = .name (Path.ofSegments (first :: names)) :: ofSegments tail := by
  induction names generalizing first with
  | nil =>
    -- a position, or the end, closes the name
    have hfirst : Path.ofSegments [first] = first := by simp [Path.ofSegments]
    cases tail with
    | nil => rw [hfirst]; rfl
    | cons next rest =>
      have hnext : isIndex next = true := htail next rfl
      rw [hfirst, List.nil_append, ofSegments, if_pos hnext]
      rfl
  | cons name names ih =>
    obtain ⟨hname, hrest⟩ := List.forall_mem_cons.1 hnames
    rw [List.cons_append, ofSegments, if_neg (by simp [hname]), ih hrest,
      ofSegments_cons first (by simp)]
    rfl

theorem ofSegments_positions {positions : List String}
    (h : ∀ position ∈ positions, isIndex position = true) (rest : List String) :
    ofSegments (positions ++ rest) = List.replicate positions.length .index ++ ofSegments rest := by
  induction positions with
  | nil => rfl
  | cons position positions ih =>
    obtain ⟨hposition, hpositions⟩ := List.forall_mem_cons.1 h
    rw [List.cons_append, ofSegments, if_pos hposition, ih hpositions]
    rfl

end Part

/-- A path starts with a name. -/
theorem exists_parts_eq (path : String) : ∃ first rest, parts path = .name first :: rest := by
  obtain ⟨first, rest, hsegs⟩ := List.exists_cons_of_ne_nil (segments_ne_nil path)
  rw [parts, hsegs]
  show ∃ name others, Part.prepend first (Part.ofSegments rest) = .name name :: others
  cases Part.ofSegments rest with
  | nil => exact ⟨_, _, rfl⟩
  | cons part others => cases part <;> exact ⟨_, _, rfl⟩

/-- Behind a position, a path without a leading one has the parts that it has on its own. -/
theorem parts_eq {path : String} (h : ∀ first ∈ (segments path).head?, isIndex first = false) :
    parts path = Part.ofSegments (segments path) := by
  obtain ⟨first, rest, hsegs⟩ := List.exists_cons_of_ne_nil (segments_ne_nil path)
  have hfirst : isIndex first = false := h first (by rw [hsegs]; rfl)
  rw [parts, hsegs, Part.ofSegments, if_neg (by simp [hfirst])]

theorem isPositional_eq_false_iff {path first : String} {rest : List String}
    (hsegs : segments path = first :: rest) :
    isPositional path = false ↔ ∀ name ∈ rest, isIndex name = false := by
  simp [isPositional, hsegs]

/-- A path without positions is one name, up to where a position goes on behind it. -/
theorem parts_append {path below : String} (h : isPositional path = false)
    (hbelow : ∀ next ∈ (segments below).head?, isIndex next = true) :
    parts (path ++ "." ++ below) = .name path :: Part.ofSegments (segments below) := by
  obtain ⟨first, names, hsegs⟩ := List.exists_cons_of_ne_nil (segments_ne_nil path)
  rw [parts, segments_append_dot, hsegs, List.cons_append]
  show Part.prepend first (Part.ofSegments (names ++ segments below)) = _
  rw [Part.prepend_ofSegments ((isPositional_eq_false_iff hsegs).1 h) hbelow, ← hsegs,
    ofSegments_segments]

theorem parts_of_not_positional {path : String} (h : isPositional path = false) :
    parts path = [.name path] := by
  obtain ⟨first, names, hsegs⟩ := List.exists_cons_of_ne_nil (segments_ne_nil path)
  have hnames := (isPositional_eq_false_iff hsegs).1 h
  rw [parts, hsegs, ← List.append_nil names]
  show Part.prepend first (Part.ofSegments (names ++ [])) = _
  rw [Part.prepend_ofSegments hnames (by simp), ← hsegs, ofSegments_segments]
  rfl

end Path

/-! ## Following the parts -/

/-- The descriptor that answers for the items of a collection. For documents it is that of the
collection. -/
def Descriptor.item? (descriptor : Descriptor) : Option Descriptor :=
  match descriptor.element with
  | some (.caster item) => some item
  | some (.document _) => some descriptor
  | none => none

namespace Located

theorem follow_index (here : Located) :
    (here.follow [.index]).map descriptor = here.descriptor.item? := by
  unfold Descriptor.item?
  rw [follow]
  cases here.descriptor.element with
  | none => rfl
  | some element => cases element <;> rfl

/-- A position that something follows is passed over. -/
theorem follow_index_cons (here : Located) {rest : List Part} (h : rest ≠ []) :
    here.follow (.index :: rest) = here.follow rest := by
  rw [follow]
  exact h

theorem follow_name (here : Located) (path : String) (rest : List Part) :
    here.follow (.name path :: rest) = (here.descriptor.embedded?.bind (·.find? path)).bind
      fun field => follow ⟨field, false⟩ rest := by
  rw [follow]
  cases here.descriptor.embedded?.bind (·.find? path) <;> rfl

/-- Positions in a row are passed over but for the last one, if nothing follows it. -/
theorem follow_positions (here : Located) (n : Nat) {rest : List Part} (h : rest ≠ []) :
    here.follow (List.replicate n .index ++ rest) = here.follow rest := by
  induction n with
  | zero => rfl
  | succ n ih =>
    rw [List.replicate_succ, List.cons_append, follow_index_cons here (by simp [h]), ih]

/-- Where a path leads does not depend on whether it starts at a declared field. -/
theorem map_descriptor_follow (field : Descriptor) (isDeclared other : Bool) (parts : List Part) :
    (follow ⟨field, isDeclared⟩ parts).map descriptor
      = (follow ⟨field, other⟩ parts).map descriptor := by
  induction parts with
  | nil => rfl
  | cons part rest ih =>
    cases part with
    | name path => rw [follow_name, follow_name]
    | index =>
      by_cases hrest : rest = []
      · rw [hrest, follow_index, follow_index]
      · rw [follow_index_cons _ hrest, follow_index_cons _ hrest, ih]

end Located

/-! ## Behind a declared path -/

namespace Schema

variable {schema : Schema}

theorem path?_of_not_positional {path : String} (h : isPositional path = false) :
    schema.path? path = schema.find? path := by
  unfold path? locate?
  cases hfind : schema.find? path with
  | some field => rfl
  | none => simp [h]

/-- A path that goes on with a position behind a declared one is followed from there. -/
theorem Tracks.path?_below {options : SchemaOptions} {log : List Change}
    (h : schema.Tracks options log) {path below : String} {field : Descriptor}
    (hfind : schema.find? path = some field) (hpath : isPositional path = false)
    (hbelow : ∀ next ∈ (segments below).head?, isIndex next = true) :
    schema.path? (path ++ "." ++ below) = (Located.follow ⟨field, true⟩
      (Part.ofSegments (segments below))).map Located.descriptor := by
  -- nothing is declared below a declared path, so the whole path is no hit by itself
  have hnone : schema.find? (path ++ "." ++ below) = none := by
    rw [← Option.not_isSome_iff_eq_none, Option.isSome_iff_exists]
    rintro ⟨other, hother⟩
    exact h.not_isAbove (Schema.mem_paths_of_find? hfind) (Schema.mem_paths_of_find? hother)
      ⟨below, rfl⟩
  have hpositional : isPositional (path ++ "." ++ below) = true := by
    obtain ⟨first, names, hsegs⟩ := List.exists_cons_of_ne_nil (segments_ne_nil path)
    obtain ⟨next, rest, hnext⟩ := List.exists_cons_of_ne_nil (segments_ne_nil below)
    have hindex : isIndex next = true := hbelow next (by rw [hnext]; rfl)
    simp [isPositional, segments_append_dot, hsegs, hnext, hindex]
  rw [path?, locate?, hnone]
  simp only [hpositional, if_true, positional?, parts_append hpath hbelow, hfind,
    Option.bind_some]

/-- A path of the embedded schema, looked up from the collection. -/
theorem map_follow_parts {inner : Schema} {field : Descriptor} {path : String}
    (hinner : field.embedded? = some inner)
    (hnames : ∀ declared ∈ inner.paths, isPositional declared = false) :
    (Located.follow ⟨field, true⟩ (parts path)).map Located.descriptor = inner.path? path := by
  rw [path?, locate?]
  cases hfind : inner.find? path with
  | some descriptor =>
    -- a declared path holds no positions, so it is one part here as well
    have hmem : path ∈ inner.paths := List.mem_map_of_mem (Entries.mem_of_get? hfind)
    rw [parts_of_not_positional (hnames path hmem), Located.follow_name, hinner, Option.bind_some,
      hfind]
    rfl
  | none =>
    by_cases hpositional : isPositional path = true
    · obtain ⟨first, rest, hparts⟩ := exists_parts_eq path
      simp only [hpositional, if_true, positional?, hparts, Located.follow_name, hinner,
        Option.bind_some]
      cases inner.find? first with
      | none => rfl
      | some descriptor => exact Located.map_descriptor_follow descriptor false true rest
    · rw [if_neg hpositional, parts_of_not_positional (by simpa using hpositional),
        Located.follow_name, hinner, Option.bind_some, hfind]
      rfl

end Schema

/-! ## Lists of lists -/

namespace Descriptor

/-- The collection that is some levels down. -/
def listAt? (descriptor : Descriptor) : Nat → Option Descriptor
  | 0 => some descriptor
  | n + 1 =>
    match descriptor.element with
    | some (.caster item) => item.listAt? n
    | _ => none

theorem sizeOf_listAt?_le {descriptor list : Descriptor} {n : Nat}
    (h : descriptor.listAt? n = some list) : sizeOf list ≤ sizeOf descriptor := by
  induction n generalizing descriptor with
  | zero =>
    cases h
    exact Nat.le_refl _
  | succ n ih =>
    rw [listAt?] at h
    split at h
    · rename_i item hitem
      have hlist := ih h
      have hsize := sizeOf_lt_of_caster hitem
      omega
    · cases h

theorem sizeOf_item?_le {descriptor item : Descriptor} (h : descriptor.item? = some item) :
    sizeOf item ≤ sizeOf descriptor := by
  unfold item? at h
  split at h
  · rename_i hitem
    cases h
    exact Nat.le_of_lt (sizeOf_lt_of_caster hitem)
  · cases h
    exact Nat.le_refl _
  · cases h

theorem item?_eq_self_iff {descriptor : Descriptor} :
    descriptor.item? = some descriptor ↔ descriptor.embedded?.isSome := by
  unfold item? embedded?
  cases helement : descriptor.element with
  | none => simp
  | some element =>
    cases element with
    | document inner => simp
    | caster item =>
      have hsize := sizeOf_lt_of_caster helement
      have hne : item ≠ descriptor := by
        rintro rfl
        exact Nat.lt_irrefl _ hsize
      simp [hne]

/-- The items of a list lie deeper than the list itself, unless they are documents. -/
theorem item?_listAt?_eq_some_iff {list : Descriptor} {n : Nat} :
    (list.listAt? n).bind item? = some list ↔ n = 0 ∧ list.embedded?.isSome := by
  cases n with
  | zero => simp [listAt?, item?_eq_self_iff]
  | succ n =>
    -- what lies deeper is smaller than the list
    refine iff_of_false ?_ (by simp)
    intro h
    obtain ⟨deeper, hdeeper, hitem⟩ := Option.bind_eq_some_iff.1 h
    rw [listAt?] at hdeeper
    split at hdeeper
    · rename_i item helement
      have hbelow := sizeOf_lt_of_caster helement
      have hlist := sizeOf_listAt?_le hdeeper
      have hsize := sizeOf_item?_le hitem
      omega
    · cases hdeeper

/-- Going down one level is going down each level just where the items are no lists, or lists of
documents and two levels are asked for. -/
theorem item?_eq_item?_listAt?_iff {field : Descriptor} {n : Nat} :
    field.item? = (field.listAt? n).bind item? ↔ n = 0 ∨ field.element = none ∨
      n = 1 ∧ ∃ list, field.element = some (.caster list) ∧ list.embedded?.isSome := by
  cases n with
  | zero => simp [listAt?]
  | succ n =>
    rw [listAt?]
    cases helement : field.element with
    | none => simp [item?, helement]
    | some element =>
      cases element with
      | document inner => simp [item?, helement]
      | caster list =>
        have hitem : field.item? = some list := by simp [item?, helement]
        rw [hitem, eq_comm]
        simp [item?_listAt?_eq_some_iff]

end Descriptor

/-! ## Several positions -/

section

variable {schema : Schema} {options : SchemaOptions} {log : List Change} {path : String}
  {field : Descriptor} {position : String} {further : List String}

theorem segments_positions (hpositions : ∀ next ∈ position :: further, isIndex next = true) :
    segments (ofSegments (position :: further)) = position :: further :=
  segments_ofSegments (by simp) fun next hnext =>
    dot_not_mem_segment next (by simp [segments_of_isIndex (hpositions next hnext)])

/-- Positions at the end lead to the items. -/
theorem Schema.Tracks.path?_positions (h : schema.Tracks options log)
    (hfind : schema.find? path = some field) (hpath : isPositional path = false)
    (hpositions : ∀ next ∈ position :: further, isIndex next = true) :
    schema.path? (path ++ "." ++ ofSegments (position :: further)) = field.item? := by
  have hsegs := segments_positions hpositions
  have hparts := Part.ofSegments_positions hpositions []
  have hlast : List.replicate (position :: further).length Part.index
      = List.replicate further.length .index ++ [.index] := List.replicate_succ'
  rw [List.append_nil, Part.ofSegments, List.append_nil, hlast] at hparts
  rw [h.path?_below hfind hpath (by simpa [hsegs] using hpositions position List.mem_cons_self),
    hsegs, hparts, Located.follow_positions _ _ (by simp), Located.follow_index]

/-- Which positions they are makes no difference to what stands behind them. -/
theorem Schema.Tracks.path?_behind_positions (h : schema.Tracks options log)
    (hfind : schema.find? path = some field) (hpath : isPositional path = false)
    (hpositions : ∀ next ∈ position :: further, isIndex next = true) (name : String) :
    schema.path? (path ++ "." ++ ofSegments (position :: further) ++ "." ++ name)
      = (Located.follow ⟨field, true⟩ (List.replicate (position :: further).length .index
        ++ Part.ofSegments (segments name))).map Located.descriptor := by
  have hsegs : segments (ofSegments (position :: further) ++ "." ++ name)
      = (position :: further) ++ segments name := by
    rw [segments_append_dot, segments_positions hpositions]
  have hassoc : path ++ "." ++ ofSegments (position :: further) ++ "." ++ name
      = path ++ "." ++ (ofSegments (position :: further) ++ "." ++ name) := by
    simp only [String.append_assoc]
  rw [hassoc, h.path?_below hfind hpath
    (by simpa [hsegs] using hpositions position List.mem_cons_self), hsegs,
    Part.ofSegments_positions hpositions]

/-- Positions in front of a name lead inside the embedded documents. -/
theorem Schema.Tracks.path?_positions_name (h : schema.Tracks options log)
    (hfind : schema.find? path = some field) (hpath : isPositional path = false)
    (hpositions : ∀ next ∈ position :: further, isIndex next = true) {name : String}
    (hname : ∀ first ∈ (segments name).head?, isIndex first = false) :
    schema.path? (path ++ "." ++ ofSegments (position :: further) ++ "." ++ name)
      = (Located.follow ⟨field, true⟩ (parts name)).map Located.descriptor := by
  have hnonempty : parts name ≠ [] := by
    obtain ⟨first, rest, hparts⟩ := exists_parts_eq name
    simp [hparts]
  rw [h.path?_behind_positions hfind hpath hpositions, ← parts_eq hname,
    Located.follow_positions _ _ hnonempty]

end

/-- Several positions in a row behind a declared path lead as far as one: to the items, and with a
name behind them to the field of the embedded documents with that name. One that goes a level down
with each position leads to the same only where there is one position, where the field has no items,
or where two positions follow a list of lists of documents. -/
theorem positions_descend_once (options : SchemaOptions) (edits : List Edit) {path : String}
    {field : Descriptor} {position : String} {further : List String}
    (hfind : (Schema.reached options edits).find? path = some field)
    (hpath : isPositional path = false)
    (hpositions : ∀ next ∈ position :: further, isIndex next = true) :
    let schema := Schema.reached options edits
    let items := path ++ "." ++ ofSegments (position :: further)
    schema.path? items = field.item? ∧
    (∀ name, (∀ segment ∈ segments name, isIndex segment = false) →
      schema.path? (items ++ "." ++ name) = field.embedded?.bind (·.path? name)) ∧
    (schema.path? items = (field.listAt? further.length).bind Descriptor.item? ↔
      further = [] ∨ field.element = none ∨ further.length = 1 ∧
        ∃ list, field.element = some (.caster list) ∧ list.embedded?.isSome) := by
  intro schema items
  have h := Schema.reached_tracks options edits
  have hitems : schema.path? items = field.item? := h.path?_positions hfind hpath hpositions
  refine ⟨hitems, fun name hname => ?_, ?_⟩
  · have hfirst : ∀ first ∈ (segments name).head?, isIndex first = false := fun first hmem =>
      hname first (List.mem_of_mem_head? hmem)
    have hsimple : isPositional name = false := by
      rw [isPositional, List.any_eq_false]
      intro segment hsegment
      simp [hname segment (List.mem_of_mem_tail hsegment)]
    rw [h.path?_positions_name hfind hpath hpositions hfirst, parts_of_not_positional hsimple,
      Located.follow_name]
    cases hinner : field.embedded? with
    | none => rfl
    | some inner =>
      rw [Option.bind_some, Option.bind_some, Schema.path?_of_not_positional hsimple]
      cases inner.find? name <;> rfl
  · rw [hitems, Descriptor.item?_eq_item?_listAt?_iff, List.length_eq_zero_iff]

/-- In a list of lists of numbers, two positions lead to the inner list and not to its numbers, and
three positions lead there as well. A text that the numbers store as a number is stored as a list by
what two positions lead to. -/
theorem nested_items_unreached : ∃ field list number,
    let schema := Schema.reached {} [.define "m" (.arr [.arr [.str "number"]])]
    schema.find? "m" = some field ∧
    schema.path? "m.0.0" = some list ∧ schema.path? "m.0.0.0" = some list ∧
    (field.listAt? 1).bind Descriptor.item? = some number ∧
    (field.listAt? 2).bind Descriptor.item? = none ∧
    list.type = .collection ∧ list.cast (.str "5") = .ok (.arr [.ofInt 5]) ∧
    number.type = .number ∧ number.cast (.str "5") = .ok (.ofInt 5) := by
  have hlist : ((Schema.reached {} [.define "m" (.arr [.arr [.str "number"]])]).find? "m").bind
      (fun field => field.item?.map fun list => (list.type, list.cast (.str "5")))
      = some (.collection, .ok (.arr [.ofInt 5])) := by
    cbv
  have hnumber : ((Schema.reached {} [.define "m" (.arr [.arr [.str "number"]])]).find? "m").bind
      (fun field => ((field.listAt? 1).bind Descriptor.item?).map fun number =>
        (number.type, number.cast (.str "5")))
      = some (.number, .ok (.ofInt 5)) := by
    cbv
  have hdeeper : ((Schema.reached {} [.define "m" (.arr [.arr [.str "number"]])]).find? "m").map
      (fun field => (field.listAt? 2).bind Descriptor.item?) = some none := by
    cbv
  have h := Schema.reached_tracks {} [.define "m" (.arr [.arr [.str "number"]])]
  simp only [Option.bind_eq_some_iff, Option.map_eq_some_iff] at hlist
  obtain ⟨field, hfind, list, hitem, hforms⟩ := hlist
  simp only [hfind, Option.bind_some, Option.map_eq_some_iff] at hnumber
  obtain ⟨number, hdeep, hnumberForms⟩ := hnumber
  simp only [hfind, Option.map_some, Option.some.injEq] at hdeeper
  obtain ⟨htype, hcast⟩ := Prod.mk.inj hforms
  obtain ⟨hnumberType, hnumberCast⟩ := Prod.mk.inj hnumberForms
  refine ⟨field, list, number, hfind, ?_, ?_, hdeep, hdeeper, htype, hcast, hnumberType,
    hnumberCast⟩
  · have htwo : ∀ next ∈ ["0", "0"], isIndex next = true := by decide
    exact (h.path?_positions hfind (by decide) htwo).trans hitem
  · have hthree : ∀ next ∈ ["0", "0", "0"], isIndex next = true := by decide
    exact (h.path?_positions hfind (by decide) hthree).trans hitem

/-- Two positions in front of a text in a list of documents. -/
theorem positions_descend_once_text : ∃ field inner text,
    let schema := Schema.reached {} [.define "c" (.arr [.obj [("a", .str "string")]])]
    schema.find? "c" = some field ∧ field.embedded? = some inner ∧
    inner.path? "a" = some text ∧ text.type = .string ∧
    schema.path? "c.0.1" = some field ∧ schema.path? "c.0.1.a" = some text ∧
    schema.path? "c.0.1" ≠ (field.listAt? 1).bind Descriptor.item? := by
  have hdecl :
      ((Schema.reached {} [.define "c" (.arr [.obj [("a", .str "string")]])]).find? "c").bind
        (fun field => field.embedded?.bind fun inner => (inner.path? "a").map Descriptor.type)
      = some .string := by
    cbv
  simp only [Option.bind_eq_some_iff, Option.map_eq_some_iff] at hdecl
  obtain ⟨field, hfind, inner, hinner, text, htext, htype⟩ := hdecl
  have helement := Descriptor.element_of_embedded? hinner
  have hpositions : ∀ next ∈ ["0", "1"], isIndex next = true := by decide
  obtain ⟨hitems, hnames, hlevels⟩ := positions_descend_once {} _ hfind (by decide) hpositions
  refine ⟨field, inner, text, hfind, hinner, htext, htype, ?_, ?_, ?_⟩
  · exact hitems.trans (by simp [Descriptor.item?, helement])
  · exact (hnames "a" (by decide)).trans (by rw [hinner, Option.bind_some, htext])
  · intro heq
    simpa [helement] using hlevels.1 heq

/-! ## One position -/

/-- Behind a declared path and a position, a path that goes on with a name resolves as it does in
the schema of the embedded documents, if that schema declares no positions, and a position at the
end leads to the descriptor of the items. Which position it is makes no difference. -/
theorem positional_composes (options : SchemaOptions) (edits : List Edit) {path : String}
    {field : Descriptor} (hfind : (Schema.reached options edits).find? path = some field)
    (hpath : isPositional path = false) :
    let schema := Schema.reached options edits
    (∀ inner, field.element = some (.document inner) →
      (∀ declared ∈ inner.paths, isPositional declared = false) →
      ∀ position name, isIndex position = true →
        (∀ first ∈ (segments name).head?, isIndex first = false) →
        schema.path? (path ++ "." ++ position ++ "." ++ name) = inner.path? name) ∧
    (∀ item, field.element = some (.caster item) → ∀ position, isIndex position = true →
      schema.path? (path ++ "." ++ position) = some item) ∧
    ∀ position other, isIndex position = true → isIndex other = true →
      schema.path? (path ++ "." ++ position) = schema.path? (path ++ "." ++ other) ∧
      ∀ name, schema.path? (path ++ "." ++ position ++ "." ++ name)
        = schema.path? (path ++ "." ++ other ++ "." ++ name) := by
  intro schema
  have h := Schema.reached_tracks options edits
  have hone : ∀ position, ofSegments [position] = position := fun position => by simp [ofSegments]
  have hitem : ∀ position, isIndex position = true →
      schema.path? (path ++ "." ++ position) = field.item? := by
    intro position hposition
    have hlead := h.path?_positions hfind hpath (List.forall_mem_singleton.2 hposition)
    rwa [hone] at hlead
  refine ⟨?_, ?_, ?_⟩
  · intro inner hinner hnames position name hposition hname
    have hlead := h.path?_positions_name hfind hpath (List.forall_mem_singleton.2 hposition) hname
    rw [hone] at hlead
    exact hlead.trans (Schema.map_follow_parts (by simp [Descriptor.embedded?, hinner]) hnames)
  · intro item helement position hposition
    rw [hitem position hposition]
    simp [Descriptor.item?, helement]
  · intro position other hposition hother
    refine ⟨(hitem position hposition).trans (hitem other hother).symm, fun name => ?_⟩
    have hbehind :=
      h.path?_behind_positions hfind hpath (List.forall_mem_singleton.2 hposition) name
    have hother := h.path?_behind_positions hfind hpath (List.forall_mem_singleton.2 hother) name
    rw [hone] at hbehind hother
    exact hbehind.trans hother.symm

/-- A text two lists deep: from the outer collection, the rest of the path behind the first position
is a path with a position of its own. -/
theorem positional_composes_nested : ∃ field inner text,
    let schema := Schema.reached {} [.define "c"
      (.arr [.obj [("a", .arr [.obj [("b", .str "string")]])]])]
    schema.find? "c" = some field ∧ field.element = some (.document inner) ∧
    inner.paths = ["a"] ∧ inner.path? "a.1.b" = some text ∧ text.type = .string ∧
    schema.path? "c.0.a.1.b" = some text := by
  have hdecl : ((Schema.reached {} [.define "c"
      (.arr [.obj [("a", .arr [.obj [("b", .str "string")]])]])]).find? "c").bind
      (fun field => field.embedded?.bind fun inner => (inner.path? "a.1.b").map fun text =>
        (inner.paths, text.type)) = some (["a"], .string) := by
    cbv
  simp only [Option.bind_eq_some_iff, Option.map_eq_some_iff] at hdecl
  obtain ⟨field, hfind, inner, hinner, text, htext, hforms⟩ := hdecl
  obtain ⟨hpaths, htype⟩ := Prod.mk.inj hforms
  have helement := Descriptor.element_of_embedded? hinner
  have hnames : ∀ declared ∈ inner.paths, isPositional declared = false := by
    rw [hpaths]
    decide
  refine ⟨field, inner, text, hfind, helement, hpaths, htext, htype, ?_⟩
  exact ((positional_composes {} _ hfind (by decide)).1 inner helement hnames "0" "a.1.b"
    (by decide) (by decide)).trans htext

end RecordSchema
