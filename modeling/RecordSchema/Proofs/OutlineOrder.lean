import Mathlib
import RecordSchema.Proofs.FirstOccurrences
import RecordSchema.Proofs.Outlines

/-!
# The order of the leaves of an outline

The leaves of an outline are listed depth first. So what lies below some segments stands side by
side in the listing, and the leaves under one segment of a branch stand before those under the next
one. In an outline that has grown from a list of paths, the segments of each branch stand in the
order in which the paths have first led there.

## Main definitions

* `Outline.listing`: the segments of the leaves, depth first.
* `Outline.childrenAt`: the children of the branch that segments lead to.
* `Outline.IsPlain`: whether the segments of each branch are distinct.
* `Outline.grown`: the outline that grows from paths, one after the other.
* `following`, `nextSegment`: the segment that comes next behind others.

## Main statements

* `Outline.IsPlain.listing_split`: what lies below segments is one block of the listing.
* `Outline.IsPlain.listing_ordered`: the order of the segments of a branch is that of the leaves.
* `Outline.keys_grown`: the segments of a branch of a grown outline.
-/

namespace RecordSchema

open RecordSchema.Path

namespace Outline

/-! ## Listing -/

/-- The segments of the leaves in a list of children, depth first. -/
def listing (children : Entries Outline) : List (List String) :=
  (leavesBelow children).map Prod.fst

theorem listing_eq (children : Entries Outline) : listing children
    = children.flatMap fun child => child.2.leaves.map fun leaf => child.1 :: leaf.1 := by
  induction children with
  | nil => rfl
  | cons head rest ih =>
    rw [listing] at ih
    rw [listing, leavesBelow, List.map_append, ih, List.map_map, List.flatMap_cons]
    rfl

theorem listing_append (front back : Entries Outline) :
    listing (front ++ back) = listing front ++ listing back := by
  rw [listing_eq, listing_eq, listing_eq, List.flatMap_append]

theorem listing_branch (segment : String) (below back : Entries Outline) :
    listing ((segment, branch below) :: back)
      = (listing below).map (segment :: ·) ++ listing back := by
  rw [listing, listing, listing, leavesBelow, leaves, List.map_append, List.map_map, List.map_map]
  rfl

theorem mem_listing_iff {children : Entries Outline} {segs : List String} :
    segs ∈ listing children ↔
      ∃ child ∈ children, ∃ leaf ∈ child.2.leaves, child.1 :: leaf.1 = segs := by
  rw [listing_eq, List.mem_flatMap]
  simp only [List.mem_map]

/-- No leaf lies under a segment that no child has. -/
theorem cons_not_mem_listing {children : Entries Outline} {segment : String}
    (h : segment ∉ Entries.keys children) (rest : List String) :
    segment :: rest ∉ listing children := by
  intro hmem
  obtain ⟨child, hchild, leaf, _, hcons⟩ := mem_listing_iff.1 hmem
  have hkey : child.1 ∈ Entries.keys children := List.mem_map_of_mem hchild
  exact h ((List.cons.inj hcons).1 ▸ hkey)

/-- The children of the branch that segments lead to; none if no branch is there. -/
def childrenAt (children : Entries Outline) : List String → Entries Outline
  | [] => children
  | segment :: rest => childrenAt (kids children segment) rest

theorem childrenAt_nil (segs : List String) : childrenAt [] segs = [] := by
  induction segs with
  | nil => rfl
  | cons segment rest ih => exact ih

/-- Whether the segments of each branch are distinct. -/
def IsPlain (children : Entries Outline) : Prop :=
  ∀ segs, (Entries.keys (childrenAt children segs)).Nodup

namespace IsPlain

variable {children : Entries Outline} (h : IsPlain children)

include h

theorem distinct : (Entries.keys children).Nodup :=
  h []

theorem kids (segment : String) : IsPlain (kids children segment) :=
  fun segs => h (segment :: segs)

/-- A leaf behind a segment is a leaf of the branch there. -/
theorem mem_listing_cons {segment : String} {rest : List String} (hrest : rest ≠ []) :
    segment :: rest ∈ listing children ↔ rest ∈ listing (Outline.kids children segment) := by
  rw [mem_listing_iff]
  constructor
  · rintro ⟨⟨first, node⟩, hchild, leaf, hleaf, heq⟩
    obtain ⟨rfl, rfl⟩ := List.cons.inj heq
    cases node with
    | leaf declaration => simp_all [leaves]
    | branch below =>
      rw [Outline.kids, Entries.get?_of_mem h.distinct hchild]
      exact List.mem_map_of_mem hleaf
  · intro hmem
    unfold Outline.kids at hmem
    split at hmem
    · rename_i below hget
      obtain ⟨leaf, hleaf, rfl⟩ := List.mem_map.1 hmem
      exact ⟨_, Entries.mem_of_get? hget, leaf, hleaf, rfl⟩
    · exact absurd hmem List.not_mem_nil

/-- A leaf behind segments is a leaf of the branch there. -/
theorem mem_listing_append (front : List String) {rest : List String} (hrest : rest ≠ []) :
    front ++ rest ∈ listing children ↔ rest ∈ listing (childrenAt children front) := by
  induction front generalizing children with
  | nil => rfl
  | cons segment front ih =>
    have htail : front ++ rest ≠ [] := by simp [hrest]
    rw [List.cons_append, h.mem_listing_cons htail]
    exact ih (h.kids segment)

/-- What lies below segments is one block of the listing. -/
theorem listing_split (front : List String) : ∃ before after,
    listing children = before ++ (listing (childrenAt children front)).map (front ++ ·) ++ after ∧
      ∀ segs ∈ before ++ after, ∀ rest, rest ≠ [] → segs ≠ front ++ rest := by
  induction front generalizing children with
  | nil => exact ⟨[], [], by simp [childrenAt], by simp⟩
  | cons segment front ih =>
    by_cases hbranch : ∃ kids, children.get? segment = some (branch kids)
    · obtain ⟨kids, hget⟩ := hbranch
      have hkids : Outline.kids children segment = kids := by rw [Outline.kids, hget]
      obtain ⟨before, after, hlisting, hoff⟩ := ih (h.kids segment)
      rw [hkids] at hlisting
      obtain ⟨left, right, rfl, _⟩ := Entries.put_split hget
      refine ⟨listing left ++ before.map (segment :: ·), after.map (segment :: ·) ++ listing right,
        ?_, fun segs hsegs rest hrest heq => ?_⟩
      · rw [listing_append, listing_branch, hlisting, childrenAt, hkids]
        simp
      · subst heq
        -- beside the branch no child has its segment
        obtain ⟨hleft, hright⟩ :
            segment ∉ Entries.keys left ∧ segment ∉ Entries.keys right := by
          have hdistinct := h.distinct
          simp only [Entries.keys, List.map_append, List.map_cons, List.nodup_middle,
            List.nodup_cons, List.mem_append, not_or] at hdistinct
          exact hdistinct.1
        have hinside : ∀ part : List (List String), (∀ segs ∈ part, segs ∈ before ++ after) →
            segment :: front ++ rest ∉ part.map (segment :: ·) := by
          intro part hpart hmem
          obtain ⟨segs, hsegs, hcons⟩ := List.mem_map.1 hmem
          exact hoff segs (hpart segs hsegs) rest hrest (List.cons.inj hcons).2
        simp only [List.mem_append] at hsegs
        rcases hsegs with (hmem | hmem) | (hmem | hmem)
        · exact cons_not_mem_listing hleft _ hmem
        · exact hinside before (fun _ => List.mem_append_left _) hmem
        · exact hinside after (fun _ => List.mem_append_right _) hmem
        · exact cons_not_mem_listing hright _ hmem
    · -- no branch is there, and so nothing lies below
      have hkids : Outline.kids children segment = [] := by
        unfold Outline.kids
        split
        · rename_i kids hget
          exact absurd ⟨kids, hget⟩ hbranch
        · rfl
      refine ⟨listing children, [], ?_, fun segs hsegs rest hrest heq => ?_⟩
      · rw [childrenAt, hkids, childrenAt_nil]
        simp [listing, leavesBelow]
      · rw [List.append_nil, heq, h.mem_listing_append _ hrest, childrenAt, hkids,
          childrenAt_nil] at hsegs
        exact absurd hsegs List.not_mem_nil

/-- Leaves under different segments of the root stand in the order of these segments. -/
theorem listing_ordered_root {first second : String} {left right : List String}
    (horder : [first, second].Sublist (Entries.keys children))
    (hleft : first :: left ∈ listing children) (hright : second :: right ∈ listing children) :
    [first :: left, second :: right].Sublist (listing children) := by
  obtain ⟨pair, hpair, hkeys⟩ := List.sublist_map_iff.1 horder
  obtain ⟨child, rest, rfl, hchild, hrest⟩ := List.map_eq_cons_iff.1 hkeys.symm
  obtain ⟨child', rest, rfl, hchild', hnil⟩ := List.map_eq_cons_iff.1 hrest
  obtain rfl := List.map_eq_nil_iff.1 hnil
  -- each leaf lies under the child that has its first segment
  have hunder : ∀ child ∈ children, ∀ segs, child.1 :: segs ∈ listing children →
      [child.1 :: segs].Sublist (child.2.leaves.map fun leaf => child.1 :: leaf.1) := by
    intro child hmem segs hsegs
    obtain ⟨other, hother, leaf, hleaf, heq⟩ := mem_listing_iff.1 hsegs
    obtain ⟨hsame, rfl⟩ := List.cons.inj heq
    obtain rfl := List.inj_on_of_nodup_map h.distinct hother hmem hsame
    exact List.singleton_sublist.2 (List.mem_map_of_mem hleaf)
  have hmem : child ∈ children := hpair.subset List.mem_cons_self
  have hmem' : child' ∈ children := hpair.subset (.tail _ List.mem_cons_self)
  subst hchild hchild'
  have hboth := (hunder child hmem left hleft).append (hunder child' hmem' right hright)
  rw [listing_eq]
  refine .trans ?_ (hpair.flatMap _)
  simpa using hboth

/-- Leaves under different segments of a branch stand in the order of these segments. -/
theorem listing_ordered {front : List String} {first second : String} {left right : List String}
    (horder : [first, second].Sublist (Entries.keys (childrenAt children front)))
    (hleft : front ++ first :: left ∈ listing children)
    (hright : front ++ second :: right ∈ listing children) :
    [front ++ first :: left, front ++ second :: right].Sublist (listing children) := by
  rw [h.mem_listing_append front (List.cons_ne_nil _ _)] at hleft hright
  have hplain : IsPlain (childrenAt children front) := by
    clear horder hleft hright
    induction front generalizing children with
    | nil => exact h
    | cons segment front ih => exact ih (h.kids segment)
  have hblock := (hplain.listing_ordered_root horder hleft hright).map (front ++ ·)
  obtain ⟨before, after, hlisting, _⟩ := h.listing_split front
  rw [hlisting]
  exact hblock.trans ((List.sublist_append_right _ _).trans (List.sublist_append_left _ _))

end IsPlain

end Outline

/-! ## Growing -/

/-- The segment that comes next behind others. -/
def following : List String → List String → Option String
  | [], segs => segs.head?
  | segment :: front, other :: segs => if segment = other then following front segs else none
  | _ :: _, [] => none

theorem following_eq_some_iff {front segs : List String} {segment : String} :
    following front segs = some segment ↔ ∃ rest, segs = front ++ segment :: rest := by
  induction front generalizing segs with
  | nil => cases segs <;> simp [following, eq_comm]
  | cons first front ih =>
    cases segs with
    | nil => simp [following]
    | cons other segs =>
      by_cases heq : first = other
      · simp [following, heq, ih]
      · simp [following, heq, Ne.symm heq]

/-- The segment of a path that comes next behind others. -/
def nextSegment (front : List String) (path : String) : Option String :=
  following front (segments path)

theorem nextSegment_eq_some_iff {front : List String} {path segment : String} :
    nextSegment front path = some segment ↔ ∃ rest, segments path = front ++ segment :: rest :=
  following_eq_some_iff

namespace Outline

variable {children : Entries Outline} {declaration : Json}

theorem kids_put_of_ne {segment other : String} (h : other ≠ segment) (node : Outline) :
    kids (children.put segment node) other = kids children other := by
  rw [kids, kids, Entries.get?_put_of_ne _ h]

theorem kids_put_leaf (segment : String) : kids (children.put segment (leaf declaration)) segment
    = [] := by
  rw [kids, Entries.get?_put_self]

/-- A graft where no branch stands adds the segments on its way behind those that are there. -/
theorem keys_graft {segs : List String} (hfree : childrenAt children segs = [])
    (front : List String) : Entries.keys (childrenAt (graft declaration segs children) front) =
      let keys := Entries.keys (childrenAt children front)
      match following front segs with
      | none => keys
      | some segment => if segment ∈ keys then keys else keys ++ [segment] := by
  induction front generalizing segs children with
  | nil =>
    rcases segs with _ | ⟨segment, _ | ⟨next, rest⟩⟩
    · rfl
    · exact Entries.keys_put _ _ _
    · exact Entries.keys_put _ _ _
  | cons first front ih =>
    rcases segs with _ | ⟨segment, _ | ⟨next, rest⟩⟩
    · rfl
    · -- the leaf takes a place that no branch has
      have hnone : following (first :: front) [segment] = none := by
        unfold following
        split
        · cases front <;> rfl
        · rfl
      rw [hnone, graft, childrenAt, childrenAt]
      by_cases heq : first = segment
      · subst heq
        have hkids : kids children first = [] := hfree
        rw [kids_put_leaf, hkids]
      · rw [kids_put_of_ne heq]
    · rw [graft, childrenAt, childrenAt]
      by_cases heq : first = segment
      · subst heq
        rw [kids_put_self, following, if_pos rfl]
        exact ih hfree
      · rw [kids_put_of_ne heq, following, if_neg heq]

/-- The outline that grows from paths, one after the other. -/
def grown (paths : List String) : Entries Outline :=
  paths.foldl (fun children path => graft .null (segments path) children) []

theorem grown_concat (paths : List String) (path : String) :
    grown (paths ++ [path]) = graft .null (segments path) (grown paths) := by
  rw [grown, List.foldl_append]
  rfl

/-- When no path lies below another one, the segments of each branch are those that follow on the
paths, in the order of the paths. -/
theorem keys_grown {paths : List String}
    (hapart : ∀ path ∈ paths, ∀ other ∈ paths, ¬IsAbove path other) (front : List String) :
    Entries.keys (childrenAt (grown paths) front)
      = (paths.filterMap (nextSegment front)).eraseDups := by
  induction paths using List.reverseRecOn generalizing front with
  | nil =>
    have hgrown : grown [] = [] := rfl
    rw [hgrown, childrenAt_nil]
    rfl
  | append_singleton paths path ih =>
    have hbefore := ih fun other hother last hlast =>
      hapart other (List.mem_append_left _ hother) last (List.mem_append_left _ hlast)
    -- no earlier path leads on behind the new one
    have hfree : childrenAt (grown paths) (segments path) = [] := by
      refine List.map_eq_nil_iff.1 ((hbefore (segments path)).trans ?_)
      have hnone : ∀ other ∈ paths, nextSegment (segments path) other = none := by
        intro other hother
        refine Option.eq_none_iff_forall_ne_some.2 fun segment hsegment => ?_
        obtain ⟨rest, hrest⟩ := nextSegment_eq_some_iff.1 hsegment
        exact hapart path (by simp) other (List.mem_append_left _ hother)
          (isAbove_iff.2 ⟨segment :: rest, List.cons_ne_nil _ _, hrest⟩)
      rw [List.filterMap_eq_nil_iff.2 hnone]
      rfl
    rw [grown_concat, keys_graft hfree, hbefore, List.filterMap_append, ← nextSegment]
    cases hnext : nextSegment front path with
    | none => simp [hnext]
    | some segment =>
      have hlast : [path].filterMap (nextSegment front) = [segment] := by simp [hnext]
      simp only [hlast, eraseDups_concat, List.mem_eraseDups]

theorem isPlain_grown {paths : List String}
    (hapart : ∀ path ∈ paths, ∀ other ∈ paths, ¬IsAbove path other) : IsPlain (grown paths) := by
  intro front
  rw [keys_grown hapart]
  exact nodup_eraseDups _

end Outline

end RecordSchema
