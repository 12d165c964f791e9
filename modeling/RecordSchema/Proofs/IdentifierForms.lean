import RecordSchema.Identifier
import RecordSchema.Proofs.StyledText

/-!
# The stored forms of identifiers

A stored identifier consists of hexadecimal digits, all in lower case or, when its field asks for
it, all in upper case. Either form is read back as the same identifier.

## Main definitions

* `hexDigits`: the digits in one letter case.
* `IsDocumentId`, `IsUuid`: the stored forms of the two kinds of identifiers.

## Main statements

* `isDocumentId_of_documentId?`, `isUuid_of_uuid?`: reading gives a form in lower case.
* `IsDocumentId.styled`, `IsUuid.styled`: a styled form is in one letter case and is read back.
-/

namespace RecordSchema

/-! ## Digits -/

/-- The hexadecimal digits in one letter case. -/
def hexDigits (upper : Bool) : List Char :=
  if upper then "0123456789ABCDEF".toList else "0123456789abcdef".toList

theorem isHexDigit_of_mem {upper : Bool} {c : Char} (h : c ∈ hexDigits upper) :
    isHexDigit c = true := by
  have hall : ∀ upper, (hexDigits upper).all isHexDigit = true := by decide
  exact List.all_eq_true.1 (hall upper) c h

theorem toLower_mem_of_isHexDigit {c : Char} (h : isHexDigit c = true) :
    c.toLower ∈ hexDigits false := by
  have hall : ∀ n < 103, isHexDigit (Char.ofNat n) = true →
      (Char.ofNat n).toLower ∈ hexDigits false := by decide
  have hlt : c.toNat < 103 := by
    simp [isHexDigit, Char.isDigit, Char.le_def, UInt32.le_iff_toNat_le] at h
    have hval : c.val.toNat = c.toNat := rfl
    omega
  have hc := hall c.toNat hlt
  rw [Char.ofNat_toNat] at hc
  exact hc h

/-- The characters of identifiers in lower case. -/
def identifierChars : List Char :=
  '-' :: hexDigits false

theorem lowerChar_of_mem_identifierChars {c : Char} (h : c ∈ identifierChars) :
    lowerChar c = [c] := by
  have hall : (identifierChars.all fun c =>
      !(sourceBits lowerRules lowerExpansions).testBit c.toNat) = true := by decide +kernel
  exact mapCase_of_not_source (by simpa using List.all_eq_true.1 hall c h)

theorem upperChar_of_mem_identifierChars {c : Char} (h : c ∈ identifierChars) :
    upperChar c = [c.toUpper] := by
  have hall : (identifierChars.all fun c => upperChar c = [c.toUpper]) = true := by decide +kernel
  exact of_decide_eq_true (List.all_eq_true.1 hall c h)

/-- The text of identifier characters under a style: only upper case changes it. -/
theorem toList_applyText_of_identifier {s : String} (h : ∀ c ∈ s.toList, c ∈ identifierChars)
    (style : TextStyle) : (style.applyText s).toList
      = if style.uppercase then s.toList.map Char.toUpper else s.toList := by
  have hblank : ∀ c ∈ s.toList, isBlank c = false := by
    have hall : (identifierChars.all fun c => !isBlank c) = true := by decide
    exact fun c hc => by simpa using List.all_eq_true.1 hall c (h c hc)
  have htrim : trimBlank s = s := trimBlank_eq_self
    ⟨fun c hc => hblank c (List.mem_of_head? hc), fun c hc => hblank c (List.mem_of_getLast? hc)⟩
  have hlower : lowerText s = s := by
    rw [lowerText, lowerFrom_eq_self fun c hc => lowerChar_of_mem_identifierChars (h c hc),
      String.ofList_toList]
  have hupper : (upperText s).toList = s.toList.map Char.toUpper := by
    rw [upperText, String.toList_ofList, List.map_eq_flatMap]
    exact List.flatMap_congr fun c hc => upperChar_of_mem_identifierChars (h c hc)
  simp only [TextStyle.applyText, htrim, hlower, ite_self]
  split
  · exact hupper
  · rfl

theorem map_toLower_applyText {s : String} (h : ∀ c ∈ s.toList, c ∈ identifierChars)
    (style : TextStyle) : (style.applyText s).toList.map Char.toLower = s.toList := by
  have hback : ∀ c ∈ s.toList, c.toUpper.toLower = c ∧ c.toLower = c := by
    have hall : (identifierChars.all fun c => c.toUpper.toLower = c ∧ c.toLower = c) = true := by
      decide
    exact fun c hc => of_decide_eq_true (List.all_eq_true.1 hall c (h c hc))
  rw [toList_applyText_of_identifier h]
  split
  · rw [List.map_map]
    exact (List.map_congr_left fun c hc => (hback c hc).1).trans (List.map_id _)
  · exact (List.map_congr_left fun c hc => (hback c hc).2).trans (List.map_id _)

theorem toUpper_mem_hexDigits {c : Char} (h : c ∈ hexDigits false) :
    c.toUpper ∈ hexDigits true := by
  have hall : ((hexDigits false).all fun c => c.toUpper ∈ hexDigits true) = true := by decide
  exact of_decide_eq_true (List.all_eq_true.1 hall c h)

/-! ## Document identifiers -/

/-- Whether a text is a document identifier in one letter case. -/
def IsDocumentId (upper : Bool) (s : String) : Prop :=
  s.toList.length = 24 ∧ ∀ c ∈ s.toList, c ∈ hexDigits upper

/-- Reading gives a document identifier in lower case. -/
theorem isDocumentId_of_documentId? {s t : String} (h : documentId? s = some t) :
    IsDocumentId false t := by
  unfold documentId? at h
  split at h
  · rename_i hs
    simp only [Bool.and_eq_true, decide_eq_true_eq, List.all_eq_true] at hs
    cases h
    refine ⟨by simp [hs.1], fun c hc => ?_⟩
    rw [String.toList_ofList] at hc
    obtain ⟨d, hd, rfl⟩ := List.mem_map.1 hc
    exact toLower_mem_of_isHexDigit (hs.2 d hd)
  · cases h

namespace IsDocumentId

variable {upper : Bool} {s : String}

theorem documentId?_eq (h : IsDocumentId upper s) :
    documentId? s = some (String.ofList (s.toList.map Char.toLower)) := by
  refine if_pos ?_
  simp only [Bool.and_eq_true, decide_eq_true_eq, List.all_eq_true]
  exact ⟨h.1, fun c hc => isHexDigit_of_mem (h.2 c hc)⟩

/-- A style puts a document identifier in its letter case, and it is read back. -/
theorem styled (h : IsDocumentId false s) (style : TextStyle) :
    IsDocumentId style.uppercase (style.applyText s) ∧
      documentId? (style.applyText s) = some s := by
  have hchars : ∀ c ∈ s.toList, c ∈ identifierChars := fun c hc => .tail _ (h.2 c hc)
  have hform : IsDocumentId style.uppercase (style.applyText s) := by
    unfold IsDocumentId
    rw [toList_applyText_of_identifier hchars]
    cases style.uppercase with
    | false => exact h
    | true =>
      refine ⟨by simp [h.1], fun c hc => ?_⟩
      obtain ⟨d, hd, rfl⟩ := List.mem_map.1 hc
      exact toUpper_mem_hexDigits (h.2 d hd)
  refine ⟨hform, ?_⟩
  rw [hform.documentId?_eq, map_toLower_applyText hchars, String.ofList_toList]

end IsDocumentId

/-! ## Universally unique identifiers -/

namespace Uuid

theorem cut_flatten (groups : List (List Char)) :
    cut (groups.map List.length) groups.flatten = groups := by
  induction groups with
  | nil => rfl
  | cons group groups ih => simp [cut, ih]

theorem map_length_cut {s : List Char} (h : s.length = 32) :
    (cut groupLengths s).map List.length = groupLengths := by
  simp [cut, groupLengths, h]

theorem mem_of_mem_cut {ns : List Nat} {s group : List Char} {c : Char} (hg : group ∈ cut ns s)
    (hc : c ∈ group) : c ∈ s := by
  induction ns generalizing s with
  | nil => cases hg
  | cons n ns ih =>
    rcases List.mem_cons.1 hg with rfl | hg
    · exact List.mem_of_mem_take hc
    · exact List.mem_of_mem_drop (ih hg)

/-- Groups joined by hyphens are read as their digits. -/
theorem grouped?_intercalate {groups : List (List Char)}
    (hlen : groups.map List.length = groupLengths)
    (hhex : ∀ group ∈ groups, ∀ c ∈ group, isHexDigit c = true) :
    grouped? (['-'].intercalate groups) = some groups.flatten := by
  have hne : groups ≠ [] := by rintro rfl; cases hlen
  have hsplit : (['-'].intercalate groups).splitOn '-' = groups :=
    List.splitOn_intercalate '-' (fun group hg hmem => by
      have := hhex group hg '-' hmem
      revert this
      decide) hne
  have hall : (groups.all fun group => group.all isHexDigit) = true := by
    simpa only [List.all_eq_true] using hhex
  simp [grouped?, hsplit, hlen, hall]

theorem digits_of_grouped? {s digits : List Char} (h : grouped? s = some digits) :
    digits.length = 32 ∧ ∀ c ∈ digits, isHexDigit c = true := by
  unfold grouped? at h
  dsimp only at h
  split at h
  · rename_i hs
    simp only [Bool.and_eq_true, decide_eq_true_eq, List.all_eq_true] at hs
    cases h
    refine ⟨by rw [List.length_flatten, hs.1]; rfl, fun c hc => ?_⟩
    obtain ⟨group, hg, hc⟩ := List.mem_flatten.1 hc
    exact hs.2 group hg c hc
  · cases h

/-- Every written form stands for 32 digits. -/
theorem digits_of_digits? {s digits : List Char} (h : digits? s = some digits) :
    digits.length = 32 ∧ ∀ c ∈ digits, isHexDigit c = true := by
  unfold digits? at h
  dsimp only at h
  split at h
  · split at h
    · rename_i hlen hall
      cases h
      exact ⟨hlen, List.all_eq_true.1 hall⟩
    · cases h
  · split at h
    · exact digits_of_grouped? h
    · split at h
      · exact digits_of_grouped? h
      · exact digits_of_grouped? h

theorem length_intercalate_hyphen {groups : List (List Char)}
    (h : groups.map List.length = groupLengths) : (['-'].intercalate groups).length = 36 := by
  obtain ⟨a, groups, rfl, ha, h⟩ := List.map_eq_cons_iff.1 h
  obtain ⟨b, groups, rfl, hb, h⟩ := List.map_eq_cons_iff.1 h
  obtain ⟨c, groups, rfl, hc, h⟩ := List.map_eq_cons_iff.1 h
  obtain ⟨d, groups, rfl, hd, h⟩ := List.map_eq_cons_iff.1 h
  obtain ⟨e, groups, rfl, he, h⟩ := List.map_eq_cons_iff.1 h
  obtain rfl := List.map_eq_nil_iff.1 h
  simp [ha, hb, hc, hd, he]

theorem map_intercalate_hyphen {f : Char → Char} (hf : f '-' = '-') (groups : List (List Char)) :
    (['-'].intercalate groups).map f = ['-'].intercalate (groups.map (List.map f)) := by
  induction groups with
  | nil => rfl
  | cons group groups ih =>
    cases groups with
    | nil => simp
    | cons next groups =>
      rw [List.intercalate_cons_cons, List.map_append, List.map_append, ih]
      simp [hf]

theorem mem_of_mem_intercalate_hyphen {groups : List (List Char)} {c : Char}
    (h : c ∈ ['-'].intercalate groups) : c = '-' ∨ ∃ group ∈ groups, c ∈ group := by
  induction groups with
  | nil => cases h
  | cons group groups ih =>
    cases groups with
    | nil => exact .inr ⟨group, .head _, by simpa using h⟩
    | cons next groups =>
      rw [List.intercalate_cons_cons, List.mem_append, List.mem_append, List.mem_singleton] at h
      rcases h with (h | h) | h
      · exact .inr ⟨group, .head _, h⟩
      · exact .inl h
      · obtain h | ⟨found, hf, h⟩ := ih h
        · exact .inl h
        · exact .inr ⟨found, .tail _ hf, h⟩

end Uuid

/-- Whether a text is five groups of digits in one letter case, joined by hyphens. -/
def IsUuid (upper : Bool) (s : String) : Prop :=
  ∃ groups : List (List Char), groups.map List.length = Uuid.groupLengths ∧
    (∀ group ∈ groups, ∀ c ∈ group, c ∈ hexDigits upper) ∧ s.toList = ['-'].intercalate groups

/-- Reading gives a universally unique identifier in lower case. -/
theorem isUuid_of_uuid? {s t : String} (h : uuid? s = some t) : IsUuid false t := by
  obtain ⟨digits, hd, rfl⟩ := Option.map_eq_some_iff.1 h
  obtain ⟨hlen, hhex⟩ := Uuid.digits_of_digits? hd
  refine ⟨Uuid.cut Uuid.groupLengths (digits.map Char.toLower), ?_, fun group hg c hc => ?_, ?_⟩
  · exact Uuid.map_length_cut (by rw [List.length_map, hlen])
  · obtain ⟨d, hd, rfl⟩ := List.mem_map.1 (Uuid.mem_of_mem_cut hg hc)
    exact toLower_mem_of_isHexDigit (hhex d hd)
  · exact String.toList_ofList

namespace IsUuid

variable {upper : Bool} {s : String}

theorem length_eq (h : IsUuid upper s) : s.toList.length = 36 := by
  obtain ⟨groups, hlen, -, hs⟩ := h
  rw [hs, Uuid.length_intercalate_hyphen hlen]

theorem uuid?_eq (h : IsUuid upper s) :
    uuid? s = some (String.ofList (s.toList.map Char.toLower)) := by
  obtain ⟨groups, hlen, hhex, hs⟩ := h
  have hdigits : Uuid.digits? s.toList = some groups.flatten := by
    have h36 := Uuid.length_intercalate_hyphen hlen
    have hgrouped := Uuid.grouped?_intercalate hlen
      fun group hg c hc => isHexDigit_of_mem (hhex group hg c hc)
    rw [hs]
    simp [Uuid.digits?, h36, hgrouped]
  have hlower : (groups.map (List.map Char.toLower)).map List.length = Uuid.groupLengths := by
    simpa [Function.comp_def] using hlen
  rw [uuid?, hdigits, Option.map_some, Uuid.canonical, List.map_flatten, ← hlower,
    Uuid.cut_flatten, hs, Uuid.map_intercalate_hyphen (by decide)]

theorem mem_identifierChars (h : IsUuid false s) {c : Char} (hc : c ∈ s.toList) :
    c ∈ identifierChars := by
  obtain ⟨groups, -, hhex, hs⟩ := h
  rw [hs] at hc
  obtain rfl | ⟨group, hg, hc⟩ := Uuid.mem_of_mem_intercalate_hyphen hc
  · exact .head _
  · exact .tail _ (hhex group hg c hc)

/-- A style puts an identifier in its letter case, and it is read back. -/
theorem styled (h : IsUuid false s) (style : TextStyle) :
    IsUuid style.uppercase (style.applyText s) ∧ uuid? (style.applyText s) = some s := by
  have hchars : ∀ c ∈ s.toList, c ∈ identifierChars := fun c hc => h.mem_identifierChars hc
  have hform : IsUuid style.uppercase (style.applyText s) := by
    obtain ⟨groups, hlen, hhex, hs⟩ := h
    unfold IsUuid
    rw [toList_applyText_of_identifier hchars, hs]
    cases style.uppercase with
    | false => exact ⟨groups, hlen, hhex, rfl⟩
    | true =>
      refine ⟨groups.map (List.map Char.toUpper), ?_, fun group hg c hc => ?_, ?_⟩
      · simpa [Function.comp_def] using hlen
      · obtain ⟨lower, hl, rfl⟩ := List.mem_map.1 hg
        obtain ⟨d, hd, rfl⟩ := List.mem_map.1 hc
        exact toUpper_mem_hexDigits (hhex lower hl d hd)
      · exact Uuid.map_intercalate_hyphen (by decide) groups
  refine ⟨hform, ?_⟩
  rw [hform.uuid?_eq, map_toLower_applyText hchars, String.ofList_toList]

end IsUuid

end RecordSchema
