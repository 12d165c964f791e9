import Mathlib.Data.List.Forall2
import Mathlib.Data.List.TakeWhile
import RecordSchema.Proofs.CaseTables
import RecordSchema.Schema.Basic

/-!
# Styled text

Putting a text in lower case, in upper case, or in lower and then in upper case, changes nothing
the second time, and none of these puts a blank at an end of the text. So a style changes nothing
the second time either.

## Main definitions

* `IsTrimmed`: whether a text has no blanks at its ends.
* `TextStyle.applyCase`: the letter case part of a style.

## Main statements

* `lowerText_lowerText`, `upperText_upperText`, `upperText_lowerText_capitals`: letter case.
* `isTrimmed_lowerText`, `isTrimmed_upperText`: blanks at the ends.
* `TextStyle.apply_apply`: a style applied twice.
-/

namespace RecordSchema

/-! ## Letter case -/

/-- A character that stays in lower case is no capital sigma, whose lower case depends on where it
stands. -/
theorem ne_sigma_of_lowerChar {c : Char} (h : lowerChar c = [c]) : c ≠ 'Σ' := by
  rintro rfl
  exact absurd h (by decide +kernel)

theorem lowerFrom_eq_self {before cs : List Char} (h : ∀ c ∈ cs, lowerChar c = [c]) :
    lowerFrom before cs = cs := by
  induction cs generalizing before with
  | nil => rfl
  | cons c rest ih =>
    obtain ⟨hc, hrest⟩ := List.forall_mem_cons.1 h
    rw [lowerFrom, if_neg (ne_sigma_of_lowerChar hc), hc, ih hrest, List.singleton_append]

theorem lowerChar_lowerSigma (before after : List Char) :
    lowerChar (lowerSigma before after) = [lowerSigma before after] := by
  have hfinal : lowerChar 'ς' = ['ς'] := by decide +kernel
  have hinner : lowerChar 'σ' = ['σ'] := by decide +kernel
  unfold lowerSigma
  split
  · exact hfinal
  · exact hinner

theorem lowerChar_of_mem_lowerFrom {before cs : List Char} {d : Char}
    (h : d ∈ lowerFrom before cs) : lowerChar d = [d] := by
  induction cs generalizing before with
  | nil => exact absurd h List.not_mem_nil
  | cons c rest ih =>
    rw [lowerFrom] at h
    rcases List.mem_append.1 h with hfirst | hrest
    · split at hfirst
      · rw [List.mem_singleton.1 hfirst]
        exact lowerChar_lowerSigma before rest
      · exact lowerChar_of_mem_lowerChar hfirst
    · exact ih hrest

@[simp] theorem lowerText_lowerText (s : String) : lowerText (lowerText s) = lowerText s := by
  rw [lowerText, lowerText, String.toList_ofList,
    lowerFrom_eq_self fun c hc => lowerChar_of_mem_lowerFrom hc]

theorem flatMap_upperChar_eq_self {cs : List Char} (h : ∀ c ∈ cs, upperChar c = [c]) :
    cs.flatMap upperChar = cs := by
  induction cs with
  | nil => rfl
  | cons c rest ih =>
    obtain ⟨hc, hrest⟩ := List.forall_mem_cons.1 h
    rw [List.flatMap_cons, hc, ih hrest, List.singleton_append]

@[simp] theorem upperText_upperText (s : String) : upperText (upperText s) = upperText s := by
  rw [upperText, upperText, String.toList_ofList, flatMap_upperChar_eq_self]
  intro d hd
  obtain ⟨c, _, hc⟩ := List.mem_flatMap.1 hd
  exact upperChar_of_mem_upperChar hc

theorem upperChar_lowerSigma (before after : List Char) :
    upperChar (lowerSigma before after) = ['Σ'] := by
  have hfinal : upperChar 'ς' = ['Σ'] := by decide +kernel
  have hinner : upperChar 'σ' = ['Σ'] := by decide +kernel
  unfold lowerSigma
  split
  · exact hfinal
  · exact hinner

/-- Capitals that come back from lower case one by one come back together. -/
theorem flatMap_upperChar_lowerFrom {before cs : List Char}
    (h : ∀ c ∈ cs, (lowerChar c).flatMap upperChar = [c]) :
    (lowerFrom before cs).flatMap upperChar = cs := by
  induction cs generalizing before with
  | nil => rfl
  | cons c rest ih =>
    obtain ⟨hc, hrest⟩ := List.forall_mem_cons.1 h
    rw [lowerFrom, List.flatMap_append, ih hrest]
    split
    · rename_i hsigma
      rw [List.flatMap_singleton, upperChar_lowerSigma, hsigma, List.singleton_append]
    · rw [hc, List.singleton_append]

theorem upperText_lowerText_capitals (s : String) :
    upperText (lowerText (upperText (lowerText s))) = upperText (lowerText s) := by
  have hcapitals : ∀ d ∈ (lowerText s).toList.flatMap upperChar,
      (lowerChar d).flatMap upperChar = [d] := by
    intro d hd
    obtain ⟨c, hc, hupper⟩ := List.mem_flatMap.1 hd
    rw [lowerText, String.toList_ofList] at hc
    exact flatMap_upperChar_lowerChar (lowerChar_of_mem_lowerFrom hc) hupper
  rw [upperText, upperText, lowerText, String.toList_ofList, String.toList_ofList,
    flatMap_upperChar_lowerFrom hcapitals]

/-! ## Blanks at the ends -/

/-- Whether characters neither begin nor end with a blank. -/
def IsTrimmed (cs : List Char) : Prop :=
  (∀ c, cs.head? = some c → isBlank c = false) ∧ ∀ c, cs.getLast? = some c → isBlank c = false

theorem dropWhile_isBlank_eq_self {cs : List Char}
    (h : ∀ c, cs.head? = some c → isBlank c = false) : cs.dropWhile isBlank = cs := by
  cases cs with
  | nil => rfl
  | cons c rest => rw [List.dropWhile_cons_of_neg (by simp [h c rfl])]

theorem trimBlank_eq_self {s : String} (h : IsTrimmed s.toList) : trimBlank s = s := by
  have hend : ∀ c, s.toList.reverse.head? = some c → isBlank c = false := by
    intro c hc
    exact h.2 c (by rwa [List.head?_reverse] at hc)
  rw [trimBlank, dropBlankEnd, dropWhile_isBlank_eq_self h.1, dropWhile_isBlank_eq_self hend,
    List.reverse_reverse, String.ofList_toList]

theorem head?_dropWhile_isBlank {cs : List Char} {c : Char}
    (h : (cs.dropWhile isBlank).head? = some c) : isBlank c = false := by
  have hnot := List.head?_dropWhile_not isBlank cs
  rw [h] at hnot
  simpa using hnot

theorem isTrimmed_trimBlank (s : String) : IsTrimmed (trimBlank s).toList := by
  rw [trimBlank, String.toList_ofList, dropBlankEnd]
  generalize hfront : s.toList.dropWhile isBlank = front
  constructor
  · intro c hc
    -- the first character is left when the end is trimmed
    obtain ⟨dropped, hdropped⟩ := List.dropWhile_suffix (l := front.reverse) isBlank
    have hsplit : front = (front.reverse.dropWhile isBlank).reverse ++ dropped.reverse := by
      rw [← List.reverse_append, hdropped, List.reverse_reverse]
    have hhead : front.head? = some c := by
      rw [hsplit, List.head?_append, hc]
      rfl
    exact head?_dropWhile_isBlank (hfront ▸ hhead)
  · intro c hc
    rw [List.getLast?_reverse] at hc
    exact head?_dropWhile_isBlank hc

/-- Nothing is left of a text just when it is all blank. -/
theorem isEmpty_trimBlank_iff {s : String} :
    (trimBlank s).isEmpty = true ↔ ∀ c ∈ s.toList, isBlank c = true := by
  -- what is left behind the first blanks starts with no blank
  have hfront : (s.toList.dropWhile isBlank).dropWhile isBlank = s.toList.dropWhile isBlank :=
    dropWhile_isBlank_eq_self fun c hc => head?_dropWhile_isBlank hc
  rw [trimBlank, dropBlankEnd, String.isEmpty_iff, String.ofList_eq_empty_iff,
    List.reverse_eq_nil_iff, List.dropWhile_eq_nil_iff]
  simp only [List.mem_reverse]
  rw [← List.dropWhile_eq_nil_iff, hfront, List.dropWhile_eq_nil_iff]

/-- Whether a piece may stand for a character without a new blank at an end of the text. -/
def Keeps (c : Char) (piece : List Char) : Prop :=
  piece ≠ [] ∧ (isBlank c = false → ∀ d ∈ piece, isBlank d = false)

theorem isTrimmed_flatten {cs : List Char} {pieces : List (List Char)}
    (h : List.Forall₂ Keeps cs pieces) (htrimmed : IsTrimmed cs) : IsTrimmed pieces.flatten := by
  obtain ⟨hhead, hlast⟩ := htrimmed
  constructor
  · cases h with
    | nil => simp
    | @cons c piece rest others hc hrest =>
      intro d hd
      rw [List.flatten_cons, List.head?_append_of_ne_nil _ hc.1] at hd
      exact hc.2 (hhead c rfl) d (List.mem_of_head? hd)
  · -- the last piece is that of the last character, so the induction goes along the pieces
    clear hhead
    induction h with
    | nil => simp
    | @cons c piece rest others hc hrest ih =>
      intro d hd
      cases hrest with
      | nil =>
        rw [List.flatten_singleton] at hd
        exact hc.2 (hlast c rfl) d (List.mem_of_getLast? hd)
      | cons hnext _ =>
        refine ih (fun c' hc' => hlast c' (by rwa [List.getLast?_cons_cons])) d ?_
        rw [List.flatten_cons, List.getLast?_append_of_ne_nil _ (by simp [hnext.1])] at hd
        exact hd

theorem keeps_lowerSigma (c : Char) (before after : List Char) :
    Keeps c [lowerSigma before after] := by
  have hfinal : isBlank 'ς' = false := by decide
  have hinner : isBlank 'σ' = false := by decide
  refine ⟨by simp, fun _ d hd => ?_⟩
  rw [List.mem_singleton.1 hd, lowerSigma]
  split
  · exact hfinal
  · exact hinner

/-- Lower case as one piece for each character. -/
theorem exists_pieces_lowerFrom (before cs : List Char) :
    ∃ pieces, List.Forall₂ Keeps cs pieces ∧ lowerFrom before cs = pieces.flatten := by
  induction cs generalizing before with
  | nil => exact ⟨[], .nil, rfl⟩
  | cons c rest ih =>
    obtain ⟨pieces, hpieces, hrest⟩ := ih (c :: before)
    refine ⟨_ :: pieces, .cons ?_ hpieces, by rw [lowerFrom, hrest, List.flatten_cons]⟩
    split
    · exact keeps_lowerSigma c before rest
    · exact ⟨lowerChar_ne_nil c, fun hc d hd => isBlank_of_mem_lowerChar hc hd⟩

theorem isTrimmed_lowerText {s : String} (h : IsTrimmed s.toList) :
    IsTrimmed (lowerText s).toList := by
  obtain ⟨pieces, hpieces, hlower⟩ := exists_pieces_lowerFrom [] s.toList
  rw [lowerText, String.toList_ofList, hlower]
  exact isTrimmed_flatten hpieces h

theorem isTrimmed_upperText {s : String} (h : IsTrimmed s.toList) :
    IsTrimmed (upperText s).toList := by
  rw [upperText, String.toList_ofList, List.flatMap_def]
  refine isTrimmed_flatten ?_ h
  rw [List.forall₂_map_right_iff, List.forall₂_same]
  exact fun c _ => ⟨upperChar_ne_nil c, fun hc d hd => isBlank_of_mem_upperChar hc hd⟩

/-! ## Styles -/

namespace TextStyle

/-- The text in the letter case of the style. -/
def applyCase (style : TextStyle) (s : String) : String :=
  let s := if style.lowercase then lowerText s else s
  if style.uppercase then upperText s else s

theorem applyText_eq (style : TextStyle) (s : String) :
    style.applyText s = style.applyCase (if style.trim then trimBlank s else s) :=
  rfl

theorem applyCase_applyCase (style : TextStyle) (s : String) :
    style.applyCase (style.applyCase s) = style.applyCase s := by
  obtain ⟨lower, upper, trim⟩ := style
  cases lower <;> cases upper <;> simp [applyCase, upperText_lowerText_capitals]

theorem isTrimmed_applyCase (style : TextStyle) {s : String} (h : IsTrimmed s.toList) :
    IsTrimmed (style.applyCase s).toList := by
  unfold applyCase
  split <;> split
  · exact isTrimmed_upperText (isTrimmed_lowerText h)
  · exact isTrimmed_lowerText h
  · exact isTrimmed_upperText h
  · exact h

theorem applyText_applyText (style : TextStyle) (s : String) :
    style.applyText (style.applyText s) = style.applyText s := by
  rw [applyText_eq, applyText_eq]
  cases htrim : style.trim with
  | false => exact applyCase_applyCase style s
  | true =>
    have htrimmed := style.isTrimmed_applyCase (isTrimmed_trimBlank s)
    simp only [if_true]
    rw [trimBlank_eq_self htrimmed, applyCase_applyCase]

/-- A style changes nothing the second time. -/
theorem apply_apply (style : TextStyle) (value : Json) :
    style.apply (style.apply value) = style.apply value := by
  cases value with
  | str s => exact congrArg Json.str (style.applyText_applyText s)
  | null | bool | num | arr | obj => rfl

end TextStyle

end RecordSchema
