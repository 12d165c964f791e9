import Mathlib.Data.List.Induction
import RecordSchema.Document
import RecordSchema.Proofs.Segments

/-!
# Writing defaults into a document

A default is written segment by segment, and only the objects on its way and its own place change.
When no path lies above another one, the places of all paths are apart: each keeps its default, and
the document holds nothing but the defaults and the objects above them.

## Main definitions

* `Json.at?`: the value at segments inside nested objects.
* `IsOpen`: whether no initial part of some segments is blocked.
* `placeAll`: the document of several defaults.
* `Built`: whether a document holds the defaults of some paths and nothing else.

## Main statements

* `at?_placeDefault_self`, `at?_placeDefault_parent`, `at?_placeDefault_of_untouched`: what is read
  back after one default is written.
* `Built.place`, `built_placeAll`: one more default, and all of them.
* `Built.slot`: what a default meets on its way.
-/

namespace RecordSchema

open RecordSchema.Path

/-! ## Nested objects -/

/-- The value at segments inside nested objects. -/
def Json.at? (value : Json) (segs : List String) : Option Json :=
  segs.foldlM Json.get? value

namespace Json

@[simp] theorem at?_nil (value : Json) : value.at? [] = some value := rfl

theorem at?_cons (value : Json) (segment : String) (rest : List String) :
    value.at? (segment :: rest) = (value.get? segment).bind (·.at? rest) :=
  rfl

theorem at?_append (value : Json) (front back : List String) :
    value.at? (front ++ back) = (value.at? front).bind (·.at? back) :=
  List.foldlM_append

/-- The fields of the object at a key; none when there is no object. -/
def fieldsAt (document : Fields) (segment : String) : Fields :=
  ((document.get? segment).bind asFields?).getD []

/-- What lies below a key is what lies in the object there. -/
theorem at?_obj_fieldsAt (document : Fields) (segment : String) {rest : List String}
    (h : rest ≠ []) :
    (obj (fieldsAt document segment)).at? rest = (obj document).at? (segment :: rest) := by
  obtain ⟨next, rest, rfl⟩ := List.exists_cons_of_ne_nil h
  rw [at?_cons (obj document)]
  cases hvalue : document.get? segment with
  | none => simp [fieldsAt, hvalue, at?_cons, get?, Entries.get?]
  | some value => cases value <;> simp [fieldsAt, hvalue, at?_cons, get?, Entries.get?, asFields?]

end Json

/-! ## Writing one default -/

/-- Whether no initial part of the segments is blocked; `passed` comes before them all, with a dot
at its end unless it is empty. -/
def IsOpen (blocks : String → Bool) (passed : String) (segs : List String) : Prop :=
  ∀ path ∈ Projection.lineageFrom passed segs, blocks path = false

section

variable {blocks : String → Bool} {default : Option Json} {passed segment : String}
  {segs rest : List String} {document : Fields}

theorem isOpen_nil : IsOpen blocks passed [] :=
  fun _ hpath => absurd hpath List.not_mem_nil

theorem isOpen_cons : IsOpen blocks passed (segment :: rest) ↔
    blocks (passed ++ segment) = false ∧ IsOpen blocks (passed ++ segment ++ ".") rest :=
  List.forall_mem_cons

theorem placeDefault_cons (h : rest ≠ []) :
    placeDefault blocks default passed (segment :: rest) document =
      if blocks (passed ++ segment) then document
      else document.put segment (.obj (placeDefault blocks default (passed ++ segment ++ ".") rest
        (Json.fieldsAt document segment))) := by
  obtain ⟨next, rest, rfl⟩ := List.exists_cons_of_ne_nil h
  rfl

theorem placeDefault_of_blocked (h : blocks (passed ++ segment) = true) :
    placeDefault blocks default passed (segment :: rest) document = document := by
  by_cases hrest : rest = []
  · subst hrest
    cases default <;> simp [placeDefault, h]
  · rw [placeDefault_cons hrest, if_pos h]

/-- Only the first key of the way changes. -/
theorem get?_placeDefault_of_ne {key : String} (h : key ≠ segment) :
    (placeDefault blocks default passed (segment :: rest) document).get? key
      = document.get? key := by
  by_cases hrest : rest = []
  · subst hrest
    cases default with
    | none => rfl
    | some value =>
      rw [placeDefault]
      split
      · rfl
      · exact Entries.get?_put_of_ne document h value
  · rw [placeDefault_cons hrest]
    split
    · rfl
    · exact Entries.get?_put_of_ne document h _

/-- Below the first key, the default is written into the object there. -/
theorem at?_placeDefault_below (hrest : rest ≠ []) (hsegment : blocks (passed ++ segment) = false)
    (other : List String) :
    (Json.obj (placeDefault blocks default passed (segment :: rest) document)).at?
        (segment :: other)
      = (Json.obj (placeDefault blocks default (passed ++ segment ++ ".") rest
          (Json.fieldsAt document segment))).at? other := by
  rw [placeDefault_cons hrest, hsegment, Json.at?_cons]
  simp [Json.get?]

theorem nodup_placeDefault (h : (Entries.keys document).Nodup) :
    (Entries.keys (placeDefault blocks default passed segs document)).Nodup := by
  unfold placeDefault
  split
  · exact h
  · split
    · split
      · exact h
      · exact Entries.nodup_keys_put h _ _
    · exact h
  · split
    · exact h
    · exact Entries.nodup_keys_put h _ _

/-- A default that is not blocked is read back. -/
theorem at?_placeDefault_self {value : Json} (hne : segs ≠ []) (hopen : IsOpen blocks passed segs) :
    (Json.obj (placeDefault blocks (some value) passed segs document)).at? segs = some value := by
  induction segs generalizing passed document with
  | nil => exact absurd rfl hne
  | cons segment rest ih =>
    obtain ⟨hsegment, hopen⟩ := isOpen_cons.1 hopen
    by_cases hrest : rest = []
    · subst hrest
      simp [placeDefault, hsegment, Json.at?_cons, Json.get?]
    · rw [at?_placeDefault_below hrest hsegment]
      exact ih hrest hopen

/-- The objects on the way to a default go on to the place of the default. -/
theorem at?_placeDefault_parent {front back : List String} (hfront : front ≠ []) (hback : back ≠ [])
    (hopen : IsOpen blocks passed front) :
    (Json.obj (placeDefault blocks default passed (front ++ back) document)).at? front
      = some (.obj (placeDefault blocks default (passed ++ ofSegments front ++ ".") back
          ((((Json.obj document).at? front).bind Json.asFields?).getD []))) := by
  induction front generalizing passed document with
  | nil => exact absurd rfl hfront
  | cons segment front ih =>
    obtain ⟨hsegment, hopen⟩ := isOpen_cons.1 hopen
    rw [List.cons_append, at?_placeDefault_below (by simp [hback]) hsegment]
    by_cases hnil : front = []
    · subst hnil
      simp [Json.get?, Json.at?_cons, Json.fieldsAt, ofSegments]
    · rw [ih hnil hopen, Json.at?_obj_fieldsAt document segment hnil, ofSegments_cons segment hnil]
      simp only [String.append_assoc]

/-- Everything but the objects on the way to a default and its own place stays as it is. -/
theorem at?_placeDefault_of_untouched {other : List String}
    (hparent : other <+: segs → other ≠ segs → ¬ IsOpen blocks passed other)
    (hself : segs <+: other → IsOpen blocks passed segs → default = none) :
    (Json.obj (placeDefault blocks default passed segs document)).at? other
      = (Json.obj document).at? other := by
  induction segs generalizing passed document other with
  | nil => rfl
  | cons segment rest ih =>
    cases hsegment : blocks (passed ++ segment) with
    | true => rw [placeDefault_of_blocked hsegment]
    | false =>
      -- the empty list and the first key alone are on the way, so neither of them is meant
      obtain ⟨first, other, rfl⟩ : ∃ first tail, other = first :: tail := by
        refine List.exists_cons_of_ne_nil fun hnil => ?_
        subst hnil
        exact hparent List.nil_prefix (by simp) isOpen_nil
      by_cases hfirst : first = segment
      · subst hfirst
        by_cases hrest : rest = []
        · subst hrest
          have hdefault : default = none :=
            hself (List.cons_prefix_cons.2 ⟨rfl, List.nil_prefix⟩)
              (isOpen_cons.2 ⟨hsegment, isOpen_nil⟩)
          rw [hdefault]
          rfl
        · have hother : other ≠ [] := by
            rintro rfl
            exact hparent (List.cons_prefix_cons.2 ⟨rfl, List.nil_prefix⟩) (by simp [Ne.symm hrest])
              (isOpen_cons.2 ⟨hsegment, isOpen_nil⟩)
          rw [at?_placeDefault_below hrest hsegment, ← Json.at?_obj_fieldsAt document first hother]
          refine ih (fun hinit hne hopen => ?_) fun hinit hopen => ?_
          · exact hparent (List.cons_prefix_cons.2 ⟨rfl, hinit⟩) (by simpa using hne)
              (isOpen_cons.2 ⟨hsegment, hopen⟩)
          · exact hself (List.cons_prefix_cons.2 ⟨rfl, hinit⟩)
              (isOpen_cons.2 ⟨hsegment, hopen⟩)
      · rw [Json.at?_cons, Json.at?_cons, Json.get?, Json.get?, get?_placeDefault_of_ne hfirst]

end

/-! ## Writing several defaults -/

/-- The document of several defaults, written in turn. -/
def placeAll (blocks : String → Bool) (entries : List (String × Option Json)) : Fields :=
  entries.foldl (fun document entry =>
    placeDefault blocks entry.2 "" (segments entry.1) document) []

/-- Whether neither of two paths continues the other one. -/
def Apart (path other : String) : Prop :=
  ¬ segments path <+: segments other ∧ ¬ segments other <+: segments path

/-- Whether a document holds the defaults of some paths, the objects above them, and nothing
else. -/
structure Built (blocks : String → Bool) (entries : List (String × Option Json))
    (document : Fields) : Prop where
  /-- A default that is not blocked is in its place. -/
  default {path : String} {value : Json} (hmem : (path, some value) ∈ entries)
    (hopen : IsOpen blocks "" (segments path)) :
    (Json.obj document).at? (segments path) = some value
  /-- An object is above each path, as far as nothing is blocked. -/
  parent {entry : String × Option Json} {front : List String} (hmem : entry ∈ entries)
    (hne : front ≠ []) (hinit : front <+: segments entry.1) (hproper : front ≠ segments entry.1)
    (hopen : IsOpen blocks "" front) :
    ∃ fields, (Json.obj document).at? front = some (.obj fields) ∧ (Entries.keys fields).Nodup
  /-- Whatever is there is such an object or lies in a default. -/
  only {segs : List String} {value : Json} (hne : segs ≠ [])
    (hvalue : (Json.obj document).at? segs = some value) :
    (∃ entry ∈ entries, segs <+: segments entry.1 ∧ segs ≠ segments entry.1 ∧
      IsOpen blocks "" segs) ∨
    ∃ path default rest, (path, some default) ∈ entries ∧ IsOpen blocks "" (segments path) ∧
      segs = segments path ++ rest ∧ default.at? rest = some value
  /-- The keys are distinct. -/
  nodup : (Entries.keys document).Nodup

namespace Built

variable {blocks : String → Bool} {entries : List (String × Option Json)} {document : Fields}
  {path : String} {default : Option Json}

theorem empty : Built blocks [] [] where
  default hmem := absurd hmem List.not_mem_nil
  parent hmem := absurd hmem List.not_mem_nil
  only hne hvalue := by
    obtain ⟨first, rest, rfl⟩ := List.exists_cons_of_ne_nil hne
    cases hvalue
  nodup := List.nodup_nil

/-- What a default meets on its way is an object, and its own place is free. Anything else there
would belong to a path above or below the one that is written. -/
theorem slot (h : Built blocks entries document) (hapart : ∀ entry ∈ entries, Apart entry.1 path)
    {front : List String} {value : Json} (hne : front ≠ []) (hinit : front <+: segments path)
    (hvalue : (Json.obj document).at? front = some value) :
    front ≠ segments path ∧ ∃ fields, value = .obj fields ∧ (Entries.keys fields).Nodup := by
  rcases h.only hne hvalue with
    ⟨entry, hmem, habove, hproper, hopen⟩ | ⟨other, _, rest, hmem, _, rfl, _⟩
  · obtain ⟨fields, hfields, hnodup⟩ := h.parent hmem hne habove hproper hopen
    refine ⟨?_, fields, Option.some.inj (hvalue.symm.trans hfields), hnodup⟩
    rintro rfl
    exact (hapart entry hmem).2 habove
  · exact absurd ((List.prefix_append _ _).trans hinit) (hapart _ hmem).1

/-- One more default. -/
theorem place (h : Built blocks entries document) (hapart : ∀ entry ∈ entries, Apart entry.1 path) :
    Built blocks (entries ++ [(path, default)])
      (placeDefault blocks default "" (segments path) document) where
  default {other value} hmem hopen := by
    rcases List.mem_append.1 hmem with hmem | hmem
    · have hother := hapart _ hmem
      rw [at?_placeDefault_of_untouched (fun hinit _ => absurd hinit hother.1)
        (fun hinit => absurd hinit hother.2)]
      exact h.default hmem hopen
    · cases List.mem_singleton.1 hmem
      exact at?_placeDefault_self (segments_ne_nil path) hopen
  parent {entry front} hmem hne hinit hproper hopen := by
    by_cases habove : front <+: segments path ∧ front ≠ segments path
    · -- the object is on the way of the new default
      obtain ⟨⟨back, hback⟩, hpath⟩ := habove
      have hbackne : back ≠ [] := by
        rintro rfl
        exact hpath (by simpa using hback)
      refine ⟨_, hback ▸ at?_placeDefault_parent hne hbackne hopen, nodup_placeDefault ?_⟩
      cases hvalue : (Json.obj document).at? front with
      | none => exact List.nodup_nil
      | some value =>
        obtain ⟨_, fields, rfl, hnodup⟩ := h.slot hapart hne ⟨back, hback⟩ hvalue
        exact hnodup
    · -- otherwise it is above an earlier default, apart from which the new one is written
      rcases List.mem_append.1 hmem with hmem | hmem
      · rw [at?_placeDefault_of_untouched (fun hfront hne => absurd ⟨hfront, hne⟩ habove)
          (fun hfront => absurd (hfront.trans hinit) (hapart entry hmem).2)]
        exact h.parent hmem hne hinit hproper hopen
      · cases List.mem_singleton.1 hmem
        exact absurd ⟨hinit, hproper⟩ habove
  only {segs value} hne hvalue := by
    -- above the new default, inside it, or where nothing has changed
    by_cases habove : segs <+: segments path ∧ segs ≠ segments path ∧ IsOpen blocks "" segs
    · exact .inl ⟨(path, default), by simp, habove⟩
    · by_cases hbelow : segments path <+: segs ∧ IsOpen blocks "" (segments path) ∧ default.isSome
      · obtain ⟨⟨rest, rfl⟩, hopen, hsome⟩ := hbelow
        obtain ⟨inner, rfl⟩ := Option.isSome_iff_exists.1 hsome
        rw [Json.at?_append, at?_placeDefault_self (segments_ne_nil path) hopen] at hvalue
        exact .inr ⟨path, inner, rest, by simp, hopen, rfl, hvalue⟩
      · rw [at?_placeDefault_of_untouched
          (fun hinit hproper hopen => habove ⟨hinit, hproper, hopen⟩)
          (fun hinit hopen => by
            cases default with
            | none => rfl
            | some inner => exact absurd ⟨hinit, hopen, rfl⟩ hbelow)] at hvalue
        rcases h.only hne hvalue with ⟨entry, hmem, hfound⟩ | ⟨other, inner, rest, hmem, hfound⟩
        · exact .inl ⟨entry, List.mem_append_left _ hmem, hfound⟩
        · exact .inr ⟨other, inner, rest, List.mem_append_left _ hmem, hfound⟩
  nodup := nodup_placeDefault h.nodup

end Built

/-- Defaults of paths that are apart from each other keep their places. -/
theorem built_placeAll {blocks : String → Bool} {entries : List (String × Option Json)}
    (h : entries.Pairwise fun entry other => Apart entry.1 other.1) :
    Built blocks entries (placeAll blocks entries) := by
  induction entries using List.reverseRecOn with
  | nil => exact .empty
  | append_singleton entries entry ih =>
    obtain ⟨hentries, _, hapart⟩ := List.pairwise_append.1 h
    rw [placeAll, List.foldl_append]
    exact (ih hentries).place fun other hmem => hapart other hmem entry (.head _)

end RecordSchema
