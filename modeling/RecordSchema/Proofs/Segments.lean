import RecordSchema.Path

/-!
# Paths and their segments

A path and the list of its segments determine each other. A path lies below another one when it
continues it behind a dot, which is to say that its segments continue those of the other one.

## Main definitions

* `Path.IsAbove`: whether a path is a proper dotted prefix of another one.

## Main statements

* `Path.ofSegments_segments`, `Path.segments_ofSegments`: splitting and joining are inverse.
* `Path.isAbove_iff`: a path above another one has a proper initial part of its segments.
* `Path.covers_iff`: an entry of a list of fields covers its own path and those below it.
* `Path.foldl_extend`: extending segment by segment joins the segments.
-/

namespace RecordSchema

namespace Path

/-- Whether `parent` is a proper dotted prefix of `path`. -/
def IsAbove (parent path : String) : Prop :=
  ∃ rest, path = parent ++ "." ++ rest

/-! ## Splitting and joining -/

theorem segments_ne_nil (path : String) : segments path ≠ [] := by
  simp [segments]

@[simp] theorem ofSegments_segments (path : String) : ofSegments (segments path) = path := by
  simp only [ofSegments, segments, List.map_map]
  have hid : (String.toList ∘ String.ofList) = id := by
    funext cs
    simp
  rw [hid, List.map_id, List.intercalate_splitOn, String.ofList_toList]

theorem segments_inj {p q : String} (h : segments p = segments q) : p = q := by
  rw [← ofSegments_segments p, h, ofSegments_segments]

/-- The parts between dots hold no dot. -/
theorem dot_not_mem_splitOn : ∀ (cs : List Char), ∀ part ∈ cs.splitOn '.', '.' ∉ part
  | [], part, h => by
    simp only [List.splitOn_nil, List.mem_singleton] at h
    simp [h]
  | c :: cs, part, h => by
    rw [List.splitOn_cons_eq_if_modifyHead] at h
    split at h
    · rcases List.mem_cons.1 h with rfl | hrest
      · exact List.not_mem_nil
      · exact dot_not_mem_splitOn cs part hrest
    · rename_i hc
      have hc' : c ≠ '.' := by simpa using hc
      cases hsplit : cs.splitOn '.' with
      | nil => exact absurd hsplit (List.splitOn_ne_nil '.' cs)
      | cons first rest =>
        rw [hsplit, List.modifyHead_cons] at h
        have hpart : ∀ other ∈ first :: rest, '.' ∉ other := by
          rw [← hsplit]
          exact dot_not_mem_splitOn cs
        rcases List.mem_cons.1 h with rfl | hrest
        · intro hmem
          rcases List.mem_cons.1 hmem with hdot | htail
          · exact hc' hdot.symm
          · exact hpart first List.mem_cons_self htail
        · exact hpart part (List.mem_cons_of_mem _ hrest)

theorem dot_not_mem_segment (path : String) {segment : String} (h : segment ∈ segments path) :
    '.' ∉ segment.toList := by
  obtain ⟨part, hpart, rfl⟩ := List.mem_map.1 h
  simpa using dot_not_mem_splitOn _ part hpart

theorem segments_ofSegments {segs : List String} (hne : segs ≠ [])
    (hdot : ∀ segment ∈ segs, '.' ∉ segment.toList) : segments (ofSegments segs) = segs := by
  have hsplit : (['.'].intercalate (segs.map String.toList)).splitOn '.'
      = segs.map String.toList := by
    refine List.splitOn_intercalate '.' ?_ (by simpa using hne)
    intro part hpart
    obtain ⟨segment, hsegment, rfl⟩ := List.mem_map.1 hpart
    exact hdot segment hsegment
  simp [segments, ofSegments, hsplit, Function.comp_def]

/-- A path without a dot is a single segment. -/
theorem segments_of_dot_not_mem {path : String} (h : '.' ∉ path.toList) :
    segments path = [path] := by
  have hsegs : segments (ofSegments [path]) = [path] :=
    segments_ofSegments (by simp) fun segment hsegment => by
      obtain rfl := List.mem_singleton.1 hsegment
      exact h
  simpa [ofSegments] using hsegs

/-- A segment is a path of its own. -/
theorem segments_of_mem_segments {path other : String} (h : path ∈ segments other) :
    segments path = [path] :=
  segments_of_dot_not_mem (dot_not_mem_segment other h)

/-- A dot between two paths separates their segments. -/
theorem segments_append_dot (front back : String) :
    segments (front ++ "." ++ back) = segments front ++ segments back := by
  have hlist : (front ++ "." ++ back).toList = front.toList ++ '.' :: back.toList := by
    simp [String.toList_append]
  rw [segments, hlist, List.splitOn_append_cons_self, List.map_append]
  rfl

theorem ofSegments_cons (segment : String) {rest : List String} (h : rest ≠ []) :
    ofSegments (segment :: rest) = segment ++ "." ++ ofSegments rest := by
  cases rest with
  | nil => exact absurd rfl h
  | cons next rest =>
    refine String.toList_injective ?_
    simp [ofSegments, String.toList_append]

theorem ofSegments_append {front back : List String} (hfront : front ≠ []) (hback : back ≠ []) :
    ofSegments (front ++ back) = ofSegments front ++ "." ++ ofSegments back := by
  induction front with
  | nil => exact absurd rfl hfront
  | cons segment rest ih =>
    cases rest with
    | nil =>
      rw [List.singleton_append, ofSegments_cons segment hback]
      simp [ofSegments]
    | cons next rest =>
      rw [List.cons_append, ofSegments_cons segment (by simp), ih (by simp),
        ofSegments_cons segment (by simp)]
      simp [String.append_assoc]

/-! ## Prefixes -/

/-- A path is above another one when its segments are a proper initial part of the other's. -/
theorem isAbove_iff {parent path : String} :
    IsAbove parent path ↔ ∃ rest, rest ≠ [] ∧ segments path = segments parent ++ rest := by
  constructor
  · rintro ⟨rest, rfl⟩
    exact ⟨segments rest, segments_ne_nil rest, segments_append_dot parent rest⟩
  · rintro ⟨rest, hne, hsegs⟩
    refine ⟨ofSegments rest, ?_⟩
    rw [← ofSegments_segments path, hsegs, ofSegments_append (segments_ne_nil parent) hne,
      ofSegments_segments]

theorem isAbove_iff_prefix_ne {parent path : String} :
    IsAbove parent path ↔ segments parent <+: segments path ∧ parent ≠ path := by
  rw [isAbove_iff]
  constructor
  · rintro ⟨rest, hne, hsegs⟩
    refine ⟨⟨rest, hsegs.symm⟩, ?_⟩
    rintro rfl
    exact hne (by simpa using hsegs)
  · rintro ⟨⟨rest, hsegs⟩, hne⟩
    refine ⟨rest, ?_, hsegs.symm⟩
    rintro rfl
    exact hne (segments_inj (by simpa using hsegs))

/-- Nothing lies above a path without a dot. -/
theorem not_isAbove_of_dot_not_mem {parent path : String} (h : '.' ∉ path.toList) :
    ¬ IsAbove parent path := by
  rintro ⟨rest, rfl⟩
  simp at h

theorem IsAbove.trans {p q r : String} (hpq : IsAbove p q) (hqr : IsAbove q r) : IsAbove p r := by
  obtain ⟨front, rfl⟩ := hpq
  obtain ⟨back, rfl⟩ := hqr
  exact ⟨front ++ "." ++ back, by simp [String.append_assoc]⟩

/-- Of two paths above the same path, one is above the other unless they are the same. -/
theorem IsAbove.comparable {p q r : String} (hp : IsAbove p r) (hq : IsAbove q r) :
    p = q ∨ IsAbove p q ∨ IsAbove q p := by
  by_cases heq : p = q
  · exact .inl heq
  · refine .inr ?_
    rcases List.prefix_or_prefix_of_prefix (isAbove_iff_prefix_ne.1 hp).1
        (isAbove_iff_prefix_ne.1 hq).1 with hpq | hqp
    · exact .inl (isAbove_iff_prefix_ne.2 ⟨hpq, heq⟩)
    · exact .inr (isAbove_iff_prefix_ne.2 ⟨hqp, Ne.symm heq⟩)

theorem isAbove_iff_toList {parent path : String} :
    IsAbove parent path ↔ ∃ rest, path.toList = parent.toList ++ '.' :: rest := by
  constructor
  · rintro ⟨rest, rfl⟩
    exact ⟨rest.toList, by simp [String.toList_append]⟩
  · rintro ⟨rest, hrest⟩
    refine ⟨String.ofList rest, String.toList_injective ?_⟩
    simp [String.toList_append, hrest]

/-- What is above a path that a lead begins is above the lead, if no dot follows the lead. -/
theorem isAbove_append_iff {lead key path : String} (hkey : '.' ∉ key.toList) :
    IsAbove path (lead ++ key) ↔ IsAbove path lead := by
  simp only [isAbove_iff_toList, String.toList_append]
  constructor
  · rintro ⟨rest, hrest⟩
    rcases List.append_eq_append_iff.1 hrest with ⟨middle, _, hmiddle⟩ | ⟨middle, hmiddle, hback⟩
    · exact absurd (by simp [hmiddle]) hkey
    · cases middle with
      | nil =>
        rw [List.nil_append] at hback
        exact absurd (hback ▸ List.mem_cons_self) hkey
      | cons c middle =>
        obtain ⟨rfl, _⟩ := List.cons.inj hback
        exact ⟨middle, hmiddle⟩
  · rintro ⟨rest, hrest⟩
    exact ⟨rest ++ key.toList, by simp [hrest]⟩

/-- Above a path that ends in a dot are the path without it and those above that one. -/
theorem isAbove_dot_iff {parent path : String} :
    IsAbove path (parent ++ ".") ↔ path = parent ∨ IsAbove path parent := by
  simp only [isAbove_iff_toList, String.toList_append]
  constructor
  · rintro ⟨rest, hrest⟩
    rcases List.eq_nil_or_concat rest with rfl | ⟨front, last, rfl⟩
    · exact .inl (String.toList_injective (List.append_inj_left' hrest rfl).symm)
    · refine .inr ⟨front, ?_⟩
      rw [List.concat_eq_append, ← List.cons_append, ← List.append_assoc] at hrest
      exact List.append_inj_left' hrest rfl
  · rintro (rfl | ⟨rest, hrest⟩)
    · exact ⟨[], rfl⟩
    · exact ⟨rest ++ ['.'], by simp [hrest]⟩

/-- An entry of a list of fields covers its own path and all paths below it. -/
theorem covers_iff (field path : String) :
    covers field path = true ↔ path = field ∨ IsAbove field path := by
  simp only [covers, Bool.or_eq_true, decide_eq_true_eq, List.isPrefixOf_iff_prefix]
  refine or_congr Iff.rfl ?_
  constructor
  · rintro ⟨rest, hrest⟩
    refine ⟨String.ofList rest, String.toList_injective ?_⟩
    simp [String.toList_append, ← hrest]
  · rintro ⟨rest, rfl⟩
    exact ⟨rest.toList, by simp [String.toList_append]⟩

/-! ## Extending -/

/-- Extending a path by segments joins them behind it. -/
theorem foldl_extend {lead : String} (hlead : lead ≠ "") :
    ∀ {segs : List String}, segs ≠ [] → segs.foldl extend lead = lead ++ "." ++ ofSegments segs
  | [], h => absurd rfl h
  | [segment], _ => by simp [extend, hlead, ofSegments]
  | segment :: next :: rest, _ => by
    have hne : lead ++ "." ++ segment ≠ "" := by
      intro he
      simpa [String.toList_append] using congrArg String.toList he
    rw [List.foldl_cons, extend, if_neg (by simpa using hlead), foldl_extend hne (by simp),
      ofSegments_cons segment (by simp)]
    simp [String.append_assoc]

/-- Extending the empty path by segments joins them, unless an empty one comes first. -/
theorem foldl_extend_empty {segment : String} {rest : List String} (h : segment ≠ "" ∨ rest = []) :
    (segment :: rest).foldl extend "" = ofSegments (segment :: rest) := by
  rw [List.foldl_cons, extend, if_pos (by rfl)]
  cases rest with
  | nil => simp [ofSegments]
  | cons next rest =>
    have hsegment : segment ≠ "" := h.resolve_right (by simp)
    rw [foldl_extend hsegment (by simp), ofSegments_cons segment (by simp)]

/-- A path lies below the empty one when its first segment of several is empty. -/
theorem isAbove_empty_iff {path : String} :
    IsAbove "" path ↔ ∃ rest, rest ≠ [] ∧ segments path = "" :: rest := by
  have hempty : segments "" = [""] := by decide
  rw [isAbove_iff, hempty]
  rfl

end Path

end RecordSchema
