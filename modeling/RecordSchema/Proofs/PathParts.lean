import RecordSchema.Proofs.Positions

/-!
# Paths in parts

A path is cut into names and positions in such a way that each name goes as far as it can. Written
out again, each name as its segments and each position as a mark, the parts give the segments of
the path with marks in the places of its positions. Parts of which no two neighbours are names can
be read off what they give when written out, so a path has no other parts of that kind. So it comes
to the same whether the parts are put together from the last segment on or from the first one.

## Main definitions

* `Path.marked`: the segments of a path with marks for positions.
* `Path.Part.expand`: a part written out.
* `Path.Part.Alternate`: whether no two names are neighbours.
* `Path.Gathering`, `Path.Gathering.take`: parts from the first segment on, with a name pending.

## Main statements

* `Path.Part.expand_prepend`, `Path.Part.Alternate.prepend`: what one more segment in front does.
* `Path.Part.eq_of_expand_eq`: parts without neighbouring names are known by what they expand to.
* `Path.Gathering.Gathers.take`: what one more segment at the end does.
* `Path.parts_foldl_take`: the parts of a path from its first segment on.
* `parts_lose_nothing`: the parts of a path.
-/

namespace RecordSchema

namespace Path

/-- Segments with a mark for each that is a position. The first one never is. -/
def marks (segs : List String) : List (Option String) :=
  segs.mapIdx fun i segment => if 0 < i && isIndex segment then none else some segment

/-- The segments of a path with marks for its positions. -/
def marked (path : String) : List (Option String) :=
  marks (segments path)

theorem marks_cons (first : String) (rest : List String) : marks (first :: rest)
    = some first :: rest.map fun segment => if isIndex segment then none else some segment := by
  rw [marks, List.mapIdx_cons]
  refine congrArg₂ List.cons rfl (List.ext_getElem (by simp) fun i _ _ => ?_)
  simp

theorem marks_concat (segs : List String) (segment : String) : marks (segs ++ [segment])
    = marks segs ++ [if 0 < segs.length && isIndex segment then none else some segment] := by
  simp [marks, List.mapIdx_append]

theorem marks_eq_nil_iff {segs : List String} : marks segs = [] ↔ segs = [] :=
  List.mapIdx_eq_nil_iff

namespace Part

/-- A part written out: the segments of a name, or the mark of a position. -/
def expand : Part → List (Option String)
  | name path => (segments path).map some
  | index => [none]

/-- Whether no two names are neighbours. -/
def Alternate (parts : List Part) : Prop :=
  parts.IsChain fun part next => part = index ∨ next = index

theorem expand_ne_nil (part : Part) : part.expand ≠ [] := by
  cases part with
  | name path => simp [expand, segments_ne_nil]
  | index => simp [expand]

theorem flatMap_expand_eq_nil_iff {parts : List Part} : parts.flatMap expand = [] ↔ parts = [] := by
  cases parts with
  | nil => simp
  | cons part rest => simp [expand_ne_nil]

/-! ## One more segment -/

theorem expand_prepend {segment : String} (h : segments segment = [segment]) (parts : List Part) :
    (prepend segment parts).flatMap expand = some segment :: parts.flatMap expand := by
  rcases parts with _ | ⟨part, rest⟩
  · simp [prepend, expand, h]
  · cases part with
    | index => simp [prepend, expand, h]
    | name path => simp [prepend, expand, segments_append_dot, h]

theorem Alternate.prepend {parts : List Part} (h : Alternate parts) (segment : String) :
    Alternate (prepend segment parts) := by
  rcases parts with _ | ⟨part, rest⟩
  · exact .singleton _
  · cases part with
    | index => exact .cons_cons (.inr rfl) h
    | name path =>
      -- the name that takes the segment in has the neighbour that it had before
      cases rest with
      | nil => exact .singleton _
      | cons next rest =>
        obtain ⟨hnext, hrest⟩ := List.isChain_cons_cons.1 h
        exact .cons_cons (.inr (hnext.resolve_left (by simp))) hrest

theorem index_mem_prepend_iff (segment : String) (parts : List Part) :
    index ∈ prepend segment parts ↔ index ∈ parts := by
  rcases parts with _ | ⟨part, rest⟩
  · simp [prepend]
  · cases part <;> simp [prepend]

/-! ## The segments behind the first one -/

theorem flatMap_expand_ofSegments {segs : List String}
    (h : ∀ segment ∈ segs, segments segment = [segment]) : (ofSegments segs).flatMap expand
      = segs.map fun segment => if isIndex segment then none else some segment := by
  induction segs with
  | nil => rfl
  | cons segment rest ih =>
    obtain ⟨hsegment, hrest⟩ := List.forall_mem_cons.1 h
    rw [ofSegments]
    split
    · rename_i hindex
      rw [List.flatMap_cons, ih hrest, List.map_cons, if_pos hindex]
      rfl
    · rename_i hindex
      rw [expand_prepend hsegment, ih hrest, List.map_cons, if_neg hindex]

theorem alternate_ofSegments (segs : List String) : Alternate (ofSegments segs) := by
  induction segs with
  | nil => exact .nil
  | cons segment rest ih =>
    rw [ofSegments]
    split
    · cases hparts : ofSegments rest with
      | nil => exact .singleton _
      | cons part others => exact .cons_cons (.inl rfl) (hparts ▸ ih)
    · exact ih.prepend segment

theorem index_mem_ofSegments_iff (segs : List String) :
    index ∈ ofSegments segs ↔ segs.any isIndex = true := by
  induction segs with
  | nil => simp [ofSegments]
  | cons segment rest ih =>
    rw [ofSegments]
    split
    · rename_i hindex
      simp [hindex]
    · rename_i hindex
      rw [index_mem_prepend_iff, ih]
      simp [hindex]

/-! ## Parts read off their expansion -/

/-- Segments up to the first mark. -/
theorem map_some_append_inj {front front' : List String} {back back' : List (Option String)}
    (hback : ∀ segment, back.head? ≠ some (some segment))
    (hback' : ∀ segment, back'.head? ≠ some (some segment))
    (h : front.map some ++ back = front'.map some ++ back') : front = front' ∧ back = back' := by
  induction front generalizing front' with
  | nil =>
    cases front' with
    | nil => exact ⟨rfl, h⟩
    | cons segment rest =>
      have hmore : back = some segment :: (rest.map some ++ back') := h
      exact absurd (by rw [hmore, List.head?_cons]) (hback segment)
  | cons segment rest ih =>
    cases front' with
    | nil =>
      have hmore : some segment :: (rest.map some ++ back) = back' := h
      exact absurd (by rw [← hmore, List.head?_cons]) (hback' segment)
    | cons segment' rest' =>
      obtain ⟨hsegment, hrest⟩ := List.cons.inj h
      obtain ⟨rfl, rfl⟩ := ih hrest
      exact ⟨by rw [Option.some.inj hsegment], rfl⟩

/-- Behind a name there is a mark or the end. -/
theorem Alternate.head?_expand {path : String} {rest : List Part}
    (h : Alternate (name path :: rest)) (segment : String) :
    (rest.flatMap expand).head? ≠ some (some segment) := by
  cases rest with
  | nil => simp
  | cons next rest =>
    obtain rfl : next = index := (List.isChain_cons_cons.1 h).1.resolve_left (by simp)
    simp [expand]

/-- A name begins with a segment and a position is a mark. -/
theorem expand_name_append_ne (path : String) (front back : List (Option String)) :
    (name path).expand ++ front ≠ index.expand ++ back := by
  obtain ⟨segment, segs, hsegs⟩ := List.exists_cons_of_ne_nil (segments_ne_nil path)
  simp [expand, hsegs]

/-- Two lists of parts without neighbouring names that are the same when written out are the
same. -/
theorem eq_of_expand_eq {parts others : List Part} (hparts : Alternate parts)
    (hothers : Alternate others) (h : parts.flatMap expand = others.flatMap expand) :
    parts = others := by
  induction parts generalizing others with
  | nil => exact (flatMap_expand_eq_nil_iff.1 h.symm).symm
  | cons part rest ih =>
    rcases others with _ | ⟨other, others⟩
    · simp [expand_ne_nil] at h
    · have hrest : Alternate rest := hparts.tail
      have hothers' : Alternate others := hothers.tail
      rw [List.flatMap_cons, List.flatMap_cons] at h
      cases part with
      | index =>
        cases other with
        | index => rw [ih hrest hothers' (List.cons.inj h).2]
        | name path => exact absurd h.symm (expand_name_append_ne _ _ _)
      | name path =>
        cases other with
        | index => exact absurd h (expand_name_append_ne _ _ _)
        | name path' =>
          obtain ⟨hsegs, hback⟩ :=
            map_some_append_inj hparts.head?_expand hothers.head?_expand h
          rw [segments_inj hsegs, ih hrest hothers' hback]

end Part

/-! ## The parts of a path -/

theorem parts_of_segments_eq {path first : String} {rest : List String}
    (h : segments path = first :: rest) :
    parts path = Part.prepend first (Part.ofSegments rest) := by
  rw [parts, h]

theorem alternate_parts (path : String) : Part.Alternate (parts path) := by
  obtain ⟨first, rest, hsegs⟩ := List.exists_cons_of_ne_nil (segments_ne_nil path)
  rw [parts_of_segments_eq hsegs]
  exact (Part.alternate_ofSegments rest).prepend first

theorem flatMap_expand_parts (path : String) :
    (parts path).flatMap Part.expand = marked path := by
  obtain ⟨first, rest, hsegs⟩ := List.exists_cons_of_ne_nil (segments_ne_nil path)
  have hself : ∀ segment ∈ first :: rest, segments segment = [segment] := fun segment hmem =>
    segments_of_mem_segments (hsegs ▸ hmem)
  obtain ⟨hfirst, hrest⟩ := List.forall_mem_cons.1 hself
  rw [parts_of_segments_eq hsegs, Part.expand_prepend hfirst, Part.flatMap_expand_ofSegments hrest,
    marked, hsegs, marks_cons]

theorem index_mem_parts_iff (path : String) :
    .index ∈ parts path ↔ isPositional path = true := by
  obtain ⟨first, rest, hsegs⟩ := List.exists_cons_of_ne_nil (segments_ne_nil path)
  rw [parts_of_segments_eq hsegs, Part.index_mem_prepend_iff, Part.index_mem_ofSegments_iff,
    isPositional, hsegs, List.tail_cons]

/-! ## Parts from the first segment on -/

/-- The parts of segments that have been taken so far. -/
structure Gathering where
  /-- The parts that stay as they are. -/
  closed : List Part
  /-- The segments of a name that may go on. -/
  pending : List String

namespace Gathering

/-- All parts, with what is pending as a name. -/
def parts (gathering : Gathering) : List Part :=
  if gathering.pending.isEmpty then gathering.closed
  else gathering.closed ++ [.name (Path.ofSegments gathering.pending)]

/-- Takes one more segment. It is a position only when it is not the first one, and then it closes
the name before it. -/
def take (gathering : Gathering) (segment : String) : Gathering :=
  if isIndex segment && !(gathering.closed.isEmpty && gathering.pending.isEmpty) then
    ⟨gathering.parts ++ [.index], []⟩
  else ⟨gathering.closed, gathering.pending ++ [segment]⟩

/-- Whether these segments have been taken. -/
structure Gathers (gathering : Gathering) (taken : List String) : Prop where
  /-- The closed parts and the pending segments make up what has been taken. -/
  expand : gathering.closed.flatMap Part.expand ++ gathering.pending.map some = marks taken
  /-- Closed names are no neighbours. -/
  alternate : Part.Alternate gathering.closed
  /-- Names are closed by positions. -/
  ends : ∀ part ∈ gathering.closed.getLast?, part = .index
  /-- What is pending can be read off the name that it makes up. -/
  dotless : ∀ segment ∈ gathering.pending, '.' ∉ segment.toList

theorem gathers_nil : Gathers ⟨[], []⟩ [] :=
  ⟨rfl, .nil, by simp, by simp⟩

namespace Gathers

variable {gathering : Gathering} {taken : List String}

theorem expand_parts (h : gathering.Gathers taken) :
    gathering.parts.flatMap Part.expand = marks taken := by
  rw [← h.expand, parts]
  split
  · rename_i hempty
    simp [List.isEmpty_iff.1 hempty]
  · rename_i hpending
    have hsegs : segments (Path.ofSegments gathering.pending) = gathering.pending :=
      segments_ofSegments (fun hnil => hpending (by simp [hnil])) h.dotless
    simp [Part.expand, hsegs]

theorem alternate_parts (h : gathering.Gathers taken) : Part.Alternate gathering.parts := by
  rw [parts]
  split
  · exact h.alternate
  · exact List.isChain_append.2 ⟨h.alternate, .singleton _, fun part hpart _ _ =>
      .inl (h.ends part hpart)⟩

/-- Nothing has been gathered just when nothing has been taken. -/
theorem isEmpty_eq (h : gathering.Gathers taken) :
    (gathering.closed.isEmpty && gathering.pending.isEmpty) = taken.isEmpty := by
  rw [Bool.eq_iff_iff, Bool.and_eq_true, List.isEmpty_iff, List.isEmpty_iff, List.isEmpty_iff,
    ← @marks_eq_nil_iff taken, ← h.expand, List.append_eq_nil_iff, List.map_eq_nil_iff,
    Part.flatMap_expand_eq_nil_iff]

/-- One more segment at the end. -/
theorem take (h : gathering.Gathers taken) {segment : String} (hdot : '.' ∉ segment.toList) :
    (gathering.take segment).Gathers (taken ++ [segment]) := by
  have hstarted : (0 < taken.length : Bool)
      = !(gathering.closed.isEmpty && gathering.pending.isEmpty) := by
    rw [h.isEmpty_eq]
    cases taken <;> simp
  rw [Gathering.take]
  split
  · rename_i hindex
    -- what was pending is closed, and the position behind it
    refine ⟨?_, ?_, by simp, by simp⟩
    · rw [marks_concat, hstarted, Bool.and_comm, if_pos hindex, List.flatMap_append,
        h.expand_parts]
      simp [Part.expand]
    · exact List.isChain_append.2 ⟨h.alternate_parts, .singleton _, fun _ _ next hnext =>
        .inr (by simpa using hnext.symm)⟩
  · rename_i hname
    refine ⟨?_, h.alternate, h.ends, ?_⟩
    · rw [marks_concat, hstarted, Bool.and_comm, if_neg hname, ← h.expand, List.map_append,
        List.append_assoc]
      rfl
    · simpa [or_imp, forall_and] using ⟨h.dotless, hdot⟩

/-- Several more segments at the end. -/
theorem foldl_take (h : gathering.Gathers taken) {segs : List String}
    (hdot : ∀ segment ∈ segs, '.' ∉ segment.toList) :
    (segs.foldl Gathering.take gathering).Gathers (taken ++ segs) := by
  induction segs generalizing gathering taken with
  | nil => simpa using h
  | cons segment rest ih =>
    obtain ⟨hsegment, hrest⟩ := List.forall_mem_cons.1 hdot
    simpa using ih (h.take hsegment) hrest

end Gathers

end Gathering

/-- The parts of a path come out as well when its segments are taken from the first one on. -/
theorem parts_foldl_take (path : String) :
    ((segments path).foldl Gathering.take ⟨[], []⟩).parts = parts path := by
  have h := Gathering.gathers_nil.foldl_take fun _ hsegment => dot_not_mem_segment path hsegment
  exact Part.eq_of_expand_eq h.alternate_parts (alternate_parts path)
    (h.expand_parts.trans (flatMap_expand_parts path).symm)

end Path

open RecordSchema.Path in
/-- The parts of a path begin with a name, and no two names are neighbours. Written out they give
the segments of the path with a mark for each position behind the first segment, in their order, and
they are the only parts without neighbouring names that do. There is a position among them just when
a segment behind the first one is a position. The same parts come out when the segments are taken
one by one from the first one on, with a name pending. -/
theorem parts_lose_nothing (path : String) :
    (∃ first rest, parts path = .name first :: rest) ∧
    (∀ front name next back, parts path ≠ front ++ .name name :: .name next :: back) ∧
    (parts path).flatMap Part.expand = marked path ∧
    (∀ others, Part.Alternate others → others.flatMap Part.expand = marked path →
      others = parts path) ∧
    (.index ∈ parts path ↔ isPositional path = true) ∧
    ((segments path).foldl Gathering.take ⟨[], []⟩).parts = parts path := by
  refine ⟨exists_parts_eq path, fun front name next back heq => ?_, flatMap_expand_parts path,
    fun others hothers hsame => ?_, index_mem_parts_iff path, parts_foldl_take path⟩
  · have halternate := alternate_parts path
    rw [heq] at halternate
    have hneighbours := (List.isChain_append.1 halternate).2.1
    simpa using (List.isChain_cons_cons.1 hneighbours).1
  · exact Part.eq_of_expand_eq hothers (alternate_parts path)
      (hsame.trans (flatMap_expand_parts path).symm)

end RecordSchema
