import RecordSchema.Text.Blank
import RecordSchema.Text.Case

/-!
# What the case tables map onto what

A table never maps a character that has come out of it, and a capital letter that comes out of the
upper-case table comes back when it is put in lower and then in upper case. No blank is mapped, and
nothing is mapped to a blank. All this is about finite sets of code points. Such a set is kept as
one number with a bit for each code point, so that two sets are compared by one operation.

## Main definitions

* `runBits`, `unionBits`: sets of code points as numbers.
* `CaseRule.sourceBits`, `CaseRule.targetBits`, `sourceBits`, `targetBits`: the code points that a
  rule, and a table, takes and gives.
* `areApart`: whether no two rules take the same code point.

## Main statements

* `mapCase_of_not_source`, `mapCase_cases`: what a table does to a character.
* `lowerChar_of_mem_lowerChar`, `upperChar_of_mem_upperChar`: a second mapping changes nothing.
* `flatMap_upperChar_lowerChar`: capitals come back from lower case.
-/

namespace RecordSchema

/-! ## Sets of code points -/

/-- The set of `count` numbers from `first` on, `step` apart. -/
def runBits (first step : Nat) : Nat → Nat
  | 0 => 0
  | count + 1 => 1 <<< (first + count * step) ||| runBits first step count

/-- The union of sets. -/
def unionBits (sets : List Nat) : Nat :=
  sets.foldr (· ||| ·) 0

theorem testBit_one_shiftLeft {n m : Nat} : (1 <<< n).testBit m = true ↔ m = n := by
  rw [Nat.one_shiftLeft, Nat.testBit_two_pow, decide_eq_true_eq, eq_comm]

theorem testBit_runBits {first step count n : Nat} :
    (runBits first step count).testBit n = true ↔ ∃ k < count, n = first + k * step := by
  induction count with
  | zero => simp [runBits]
  | succ count ih =>
    rw [runBits, Nat.testBit_or, Bool.or_eq_true, testBit_one_shiftLeft, ih]
    constructor
    · rintro (hlast | ⟨k, hk, hn⟩)
      · exact ⟨count, Nat.lt_succ_self _, hlast⟩
      · exact ⟨k, Nat.lt_succ_of_lt hk, hn⟩
    · rintro ⟨k, hk, hn⟩
      rcases Nat.lt_succ_iff_lt_or_eq.1 hk with hlt | rfl
      · exact .inr ⟨k, hlt, hn⟩
      · exact .inl hn

theorem testBit_runBits_one {first count n : Nat} :
    (runBits first 1 count).testBit n = true ↔ first ≤ n ∧ n < first + count := by
  rw [testBit_runBits]
  constructor
  · rintro ⟨k, hk, rfl⟩
    omega
  · rintro ⟨hfirst, hlast⟩
    exact ⟨n - first, by omega, by omega⟩

theorem testBit_unionBits {sets : List Nat} {n : Nat} :
    (unionBits sets).testBit n = true ↔ ∃ set ∈ sets, set.testBit n = true := by
  induction sets with
  | nil => simp [unionBits]
  | cons set rest ih =>
    have hcons : unionBits (set :: rest) = set ||| unionBits rest := rfl
    simp only [hcons, Nat.testBit_or, Bool.or_eq_true, ih, List.mem_cons, exists_eq_or_imp]

/-- Sets that have no bit in common have no member in common. -/
theorem testBit_eq_false_of_and_eq_zero {set other n : Nat} (h : set &&& other = 0)
    (hn : set.testBit n = true) : other.testBit n = false := by
  have hbit := congrArg (fun bits : Nat => bits.testBit n) h
  simpa [Nat.testBit_and, hn] using hbit

/-! ## Rules -/

namespace CaseRule

/-- The number of code points that a rule takes. -/
def size (rule : CaseRule) : Nat :=
  (rule.last - rule.first) / rule.step + 1

/-- The code points that a rule takes. -/
def sourceBits (rule : CaseRule) : Nat :=
  runBits rule.first rule.step rule.size

/-- The code points that a rule gives. -/
def targetBits (rule : CaseRule) : Nat :=
  runBits (rule.first + rule.shift).toNat rule.step rule.size

/-- Whether a rule takes characters only, in order, and gives no negative number. -/
def isProper (rule : CaseRule) : Bool :=
  rule.first ≤ rule.last && 0 ≤ rule.first + rule.shift
    && (rule.last < 0xD800 || (0xDFFF < rule.first && rule.last < 0x110000))

variable {rule : CaseRule} {code image : Nat}

theorem image?_eq_some_iff : rule.image? code = some image ↔
    (rule.first ≤ code ∧ code ≤ rule.last ∧ (code - rule.first) % rule.step = 0) ∧
      (code + rule.shift).toNat = image := by
  unfold image?
  split
  · rename_i h
    simp only [Bool.and_eq_true, decide_eq_true_eq, beq_iff_eq] at h
    simp [h]
  · rename_i h
    simp only [Bool.and_eq_true, decide_eq_true_eq, beq_iff_eq, not_and] at h
    constructor
    · intro hnone
      cases hnone
    · rintro ⟨⟨hfirst, hlast, hstep⟩, _⟩
      exact absurd hstep (h ⟨hfirst, hlast⟩)

/-- The member with number `k` of the run. -/
theorem exists_of_image? (h : rule.image? code = some image) :
    ∃ k < rule.size, code = rule.first + k * rule.step := by
  obtain ⟨⟨hfirst, hlast, hstep⟩, _⟩ := image?_eq_some_iff.1 h
  refine ⟨(code - rule.first) / rule.step, ?_, ?_⟩
  · have hle : (code - rule.first) / rule.step ≤ (rule.last - rule.first) / rule.step :=
      Nat.div_le_div_right (by omega)
    exact Nat.lt_succ_of_le hle
  · have hcode := Nat.div_add_mod (code - rule.first) rule.step
    rw [hstep, Nat.add_zero, Nat.mul_comm] at hcode
    omega

theorem image?_of_lt_size (hproper : rule.isProper = true) {k : Nat} (hk : k < rule.size) :
    rule.image? (rule.first + k * rule.step)
      = some ((rule.first + rule.shift).toNat + k * rule.step) := by
  simp only [isProper, Bool.and_eq_true, decide_eq_true_eq] at hproper
  have hle : k * rule.step ≤ rule.last - rule.first :=
    calc k * rule.step
        ≤ (rule.last - rule.first) / rule.step * rule.step :=
          Nat.mul_le_mul_right _ (Nat.le_of_lt_succ hk)
      _ ≤ rule.last - rule.first := Nat.div_mul_le_self _ _
  refine image?_eq_some_iff.2 ⟨⟨by omega, by omega, ?_⟩, ?_⟩
  · rw [Nat.add_sub_cancel_left, Nat.mul_mod_left]
  · push_cast
    omega

theorem testBit_sourceBits (h : rule.image? code = some image) :
    rule.sourceBits.testBit code = true :=
  testBit_runBits.2 (exists_of_image? h)

theorem testBit_targetBits (hproper : rule.isProper = true) (h : rule.image? code = some image) :
    rule.targetBits.testBit image = true := by
  obtain ⟨k, hk, rfl⟩ := exists_of_image? h
  rw [image?_of_lt_size hproper hk, Option.some.injEq] at h
  exact testBit_runBits.2 ⟨k, hk, h.symm⟩

/-- What a rule gives, it gives for a character. -/
theorem exists_image?_of_testBit (hproper : rule.isProper = true)
    (h : rule.targetBits.testBit image = true) :
    ∃ code, rule.image? code = some image ∧ (code : Int) + rule.shift = image ∧
      code.isValidChar := by
  obtain ⟨k, hk, rfl⟩ := testBit_runBits.1 h
  have himage := image?_of_lt_size hproper hk
  obtain ⟨⟨_, hlast, _⟩, _⟩ := image?_eq_some_iff.1 himage
  simp only [isProper, Bool.and_eq_true, decide_eq_true_eq, Bool.or_eq_true] at hproper
  refine ⟨_, himage, ?_, ?_⟩
  · push_cast
    omega
  · rcases hproper.2 with hlow | ⟨hhigh, hmax⟩
    · exact .inl (by omega)
    · exact .inr ⟨by omega, by omega⟩

end CaseRule

/-! ## Tables -/

/-- The code points that a list of longer images takes. -/
def expandedBits (expansions : List (Nat × List Nat)) : Nat :=
  unionBits (expansions.map fun entry => 1 <<< entry.1)

/-- The code points that a table takes. -/
def sourceBits (rules : List CaseRule) (expansions : List (Nat × List Nat)) : Nat :=
  expandedBits expansions ||| unionBits (rules.map CaseRule.sourceBits)

/-- The code points that a table gives, and zero, as which a number is read that is no character. -/
def targetBits (rules : List CaseRule) (expansions : List (Nat × List Nat)) : Nat :=
  1 ||| (unionBits (rules.map CaseRule.targetBits)
    ||| unionBits (expansions.flatMap fun entry => entry.2.map (1 <<< ·)))

/-- Whether the rules of a table are proper and its longer images are not empty. -/
def isProperTable (rules : List CaseRule) (expansions : List (Nat × List Nat)) : Bool :=
  rules.all CaseRule.isProper && expansions.all fun entry => !entry.2.isEmpty

/-- Whether no two rules take the same code point, nor one that is taken already. -/
def areApart (taken : Nat) : List CaseRule → Bool
  | [] => true
  | rule :: rest => (taken &&& rule.sourceBits) == 0 && areApart (taken ||| rule.sourceBits) rest

/-- A number that is no character is read as zero. -/
theorem toNat_ofNat_cases (n : Nat) : (Char.ofNat n).toNat = n ∨ (Char.ofNat n).toNat = 0 := by
  by_cases h : n.isValidChar
  · exact .inl (by rw [Char.ofNat, dif_pos h]; rfl)
  · exact .inr (by rw [Char.ofNat, dif_neg h]; rfl)

section Table

variable {rules : List CaseRule} {expansions : List (Nat × List Nat)} {c d : Char} {code : Nat}

theorem testBit_expandedBits {codes : List Nat} (h : expansions.lookup code = some codes) :
    (code, codes) ∈ expansions ∧ (expandedBits expansions).testBit code = true := by
  obtain ⟨front, back, hexpansions, _⟩ := List.lookup_eq_some_iff.1 h
  have hmem : (code, codes) ∈ expansions := by simp [hexpansions]
  exact ⟨hmem, testBit_unionBits.2 ⟨_, List.mem_map_of_mem hmem, testBit_one_shiftLeft.2 rfl⟩⟩

theorem testBit_sourceBits_of_rule {rule : CaseRule} {image : Nat} (hrule : rule ∈ rules)
    (h : rule.image? code = some image) : (sourceBits rules expansions).testBit code = true := by
  rw [sourceBits, Nat.testBit_or, Bool.or_eq_true]
  exact .inr (testBit_unionBits.2
    ⟨_, List.mem_map_of_mem hrule, CaseRule.testBit_sourceBits h⟩)

/-- A character that a table does not take stays as it is. -/
theorem mapCase_of_not_source (h : (sourceBits rules expansions).testBit c.toNat = false) :
    mapCase rules expansions c = [c] := by
  have hlookup : expansions.lookup c.toNat = none := by
    refine Option.eq_none_iff_forall_ne_some.2 fun codes hcodes => ?_
    rw [sourceBits, Nat.testBit_or, (testBit_expandedBits hcodes).2] at h
    cases h
  have hrules : rules.findSome? (·.image? c.toNat) = none := by
    refine List.findSome?_eq_none_iff.2 fun rule hrule => ?_
    refine Option.eq_none_iff_forall_ne_some.2 fun image himage => ?_
    rw [testBit_sourceBits_of_rule hrule himage] at h
    cases h
  rw [mapCase, hlookup, hrules]
  rfl

/-- A table leaves a character as it is or gives at least one character for it. -/
theorem mapCase_cases (hproper : isProperTable rules expansions = true) (c : Char) :
    mapCase rules expansions c = [c] ∨ mapCase rules expansions c ≠ [] ∧
      ∀ d ∈ mapCase rules expansions c, (targetBits rules expansions).testBit d.toNat = true := by
  simp only [isProperTable, Bool.and_eq_true, List.all_eq_true] at hproper
  have htarget : ∀ n, n = 0 ∨ (unionBits (rules.map CaseRule.targetBits)).testBit n = true ∨
      (unionBits (expansions.flatMap fun entry => entry.2.map (1 <<< ·))).testBit n = true →
      (targetBits rules expansions).testBit n = true := by
    intro n hn
    simp only [targetBits, Nat.testBit_or, Bool.or_eq_true,
      Nat.testBit_one_eq_true_iff_self_eq_zero]
    exact hn
  unfold mapCase
  cases hlookup : expansions.lookup c.toNat with
  | some codes =>
    obtain ⟨hmem, _⟩ := testBit_expandedBits hlookup
    refine .inr ⟨?_, fun d hd => ?_⟩
    · have hfilled := hproper.2 _ hmem
      simpa using hfilled
    · obtain ⟨n, hn, rfl⟩ := List.mem_map.1 hd
      rcases toNat_ofNat_cases n with hchar | hchar <;> rw [hchar]
      · exact htarget n (.inr (.inr (testBit_unionBits.2 ⟨1 <<< n, List.mem_flatMap.2
          ⟨_, hmem, List.mem_map_of_mem hn⟩, testBit_one_shiftLeft.2 rfl⟩)))
      · exact htarget 0 (.inl rfl)
  | none =>
    cases himage : rules.findSome? (·.image? c.toNat) with
    | none => exact .inl rfl
    | some image =>
      obtain ⟨rule, hrule, himage⟩ := List.exists_of_findSome?_eq_some himage
      refine .inr ⟨by simp, fun d hd => ?_⟩
      obtain rfl : d = Char.ofNat image := by simpa using hd
      rcases toNat_ofNat_cases image with hchar | hchar <;> rw [hchar]
      · exact htarget image (.inr (.inl (testBit_unionBits.2 ⟨_, List.mem_map_of_mem hrule,
          CaseRule.testBit_targetBits (hproper.1 rule hrule) himage⟩)))
      · exact htarget 0 (.inl rfl)

/-- Among rules that are apart, a rule that takes a code point decides its image. -/
theorem findSome?_of_areApart {taken image : Nat} {rule : CaseRule}
    (hapart : areApart taken rules = true) (hrule : rule ∈ rules)
    (himage : rule.image? code = some image) :
    rules.findSome? (·.image? code) = some image ∧ taken.testBit code = false := by
  induction rules generalizing taken with
  | nil => exact absurd hrule List.not_mem_nil
  | cons first rest ih =>
    simp only [areApart, Bool.and_eq_true, beq_iff_eq] at hapart
    rw [List.findSome?_cons]
    rcases List.mem_cons.1 hrule with rfl | hrest
    · rw [himage]
      refine ⟨rfl, testBit_eq_false_of_and_eq_zero ?_ (CaseRule.testBit_sourceBits himage)⟩
      rw [Nat.and_comm, hapart.1]
    · obtain ⟨hfind, htaken⟩ := ih hapart.2 hrest
      rw [Nat.testBit_or, Bool.or_eq_false_iff] at htaken
      cases hfirst : first.image? code with
      | none => exact ⟨hfind, htaken.1⟩
      | some other =>
        rw [CaseRule.testBit_sourceBits hfirst] at htaken
        cases htaken.2

end Table

/-- Whether the capitals that a rule takes come back by one of the rules that move the other way.
The ends are compared first, which costs least. -/
def CaseRule.comesBack (rule : CaseRule) (capitals : Nat) (rules : List CaseRule) : Bool :=
  (rule.sourceBits &&& capitals) == 0 || rules.any fun other =>
    Nat.ble (rule.last + rule.shift).toNat other.last && other.shift == -rule.shift &&
      (rule.sourceBits &&& capitals &&& other.targetBits) == rule.sourceBits &&& capitals

/-! ## The tables of the standard -/

theorem lower_isProperTable : isProperTable lowerRules lowerExpansions = true := by
  decide +kernel

theorem upper_isProperTable : isProperTable upperRules upperExpansions = true := by
  decide +kernel

theorem lower_apart :
    targetBits lowerRules lowerExpansions &&& sourceBits lowerRules lowerExpansions = 0 := by
  decide +kernel

theorem upper_apart :
    targetBits upperRules upperExpansions &&& sourceBits upperRules upperExpansions = 0 := by
  decide +kernel

theorem upperRules_areApart : areApart (expandedBits upperExpansions) upperRules = true := by
  decide +kernel

/-- No capital is a letter with a longer lower case. -/
theorem capital_not_expanded :
    targetBits upperRules upperExpansions &&& expandedBits lowerExpansions = 0 := by
  decide +kernel

theorem capitals_come_back : (lowerRules.all fun rule =>
    rule.comesBack (targetBits upperRules upperExpansions) upperRules) = true := by
  decide +kernel

/-! ## Characters -/

section Characters

variable {c d : Char}

theorem mapCase_of_target {rules : List CaseRule} {expansions : List (Nat × List Nat)}
    (hapart : targetBits rules expansions &&& sourceBits rules expansions = 0)
    (h : (targetBits rules expansions).testBit c.toNat = true) :
    mapCase rules expansions c = [c] :=
  mapCase_of_not_source (testBit_eq_false_of_and_eq_zero hapart h)

/-- A table whose targets it does not take maps no character twice. -/
theorem mapCase_of_mem_mapCase {rules : List CaseRule} {expansions : List (Nat × List Nat)}
    (hproper : isProperTable rules expansions = true)
    (hapart : targetBits rules expansions &&& sourceBits rules expansions = 0)
    (h : d ∈ mapCase rules expansions c) : mapCase rules expansions d = [d] := by
  rcases mapCase_cases hproper c with hsame | ⟨_, htarget⟩
  · rw [hsame, List.mem_singleton] at h
    rw [h, hsame]
  · exact mapCase_of_target hapart (htarget d h)

theorem lowerChar_of_mem_lowerChar (h : d ∈ lowerChar c) : lowerChar d = [d] :=
  mapCase_of_mem_mapCase lower_isProperTable lower_apart h

theorem upperChar_of_mem_upperChar (h : d ∈ upperChar c) : upperChar d = [d] :=
  mapCase_of_mem_mapCase upper_isProperTable upper_apart h

theorem lowerChar_ne_nil (c : Char) : lowerChar c ≠ [] := by
  rcases mapCase_cases lower_isProperTable c with hsame | ⟨hne, _⟩
  · rw [lowerChar, hsame]
    exact List.cons_ne_nil _ _
  · exact hne

theorem upperChar_ne_nil (c : Char) : upperChar c ≠ [] := by
  rcases mapCase_cases upper_isProperTable c with hsame | ⟨hne, _⟩
  · rw [upperChar, hsame]
    exact List.cons_ne_nil _ _
  · exact hne

/-- A capital that a rule puts in lower case comes back from there. -/
theorem upperChar_ofNat_image {rule : CaseRule} {image : Nat} (hrule : rule ∈ lowerRules)
    (himage : rule.image? c.toNat = some image)
    (hcapital : (targetBits upperRules upperExpansions).testBit c.toNat = true) :
    upperChar (Char.ofNat image) = [c] := by
  have hback := List.all_eq_true.1 capitals_come_back rule hrule
  have hsource := CaseRule.testBit_sourceBits himage
  simp only [CaseRule.comesBack, Bool.or_eq_true, beq_iff_eq] at hback
  rcases hback with hnone | hback
  · have hfalse := testBit_eq_false_of_and_eq_zero hnone hsource
    rw [hcapital] at hfalse
    cases hfalse
  · obtain ⟨other, hother, hback⟩ := List.any_eq_true.1 hback
    simp only [Bool.and_eq_true, beq_iff_eq] at hback
    obtain ⟨⟨_, hshift⟩, hcovers⟩ := hback
    have hgiven : other.targetBits.testBit c.toNat = true := by
      have hbit := congrArg (fun bits : Nat => bits.testBit c.toNat) hcovers
      simpa [Nat.testBit_and, hsource, hcapital] using hbit
    have hproper := (Bool.and_eq_true _ _ ▸ upper_isProperTable : _ ∧ _).1
    obtain ⟨code, hcode, hsum, hvalid⟩ :=
      CaseRule.exists_image?_of_testBit (List.all_eq_true.1 hproper other hother) hgiven
    -- the other rule starts where the first one ends
    have himage' : image = code := by
      have := (CaseRule.image?_eq_some_iff.1 himage).2
      omega
    -- no rule before it and no longer image takes the same letter
    obtain ⟨hfind, hapart⟩ := findSome?_of_areApart upperRules_areApart hother hcode
    have hnum : (Char.ofNat code).toNat = code := by
      rw [Char.ofNat, dif_pos hvalid]
      rfl
    have hlookup : upperExpansions.lookup code = none := by
      refine Option.eq_none_iff_forall_ne_some.2 fun codes hcodes => ?_
      rw [(testBit_expandedBits hcodes).2] at hapart
      cases hapart
    rw [himage', upperChar, mapCase, hnum, hlookup, hfind]
    simp

/-- A capital letter of a small one comes back when it is put in lower case. -/
theorem flatMap_upperChar_lowerChar (hc : lowerChar c = [c]) (hd : d ∈ upperChar c) :
    (lowerChar d).flatMap upperChar = [d] := by
  have hupper := upperChar_of_mem_upperChar hd
  rcases mapCase_cases upper_isProperTable c with hsame | ⟨_, htarget⟩
  · rw [upperChar, hsame, List.mem_singleton] at hd
    rw [hd, hc, List.flatMap_singleton, upperChar, hsame]
  · have hcapital := htarget d hd
    cases hlookup : lowerExpansions.lookup d.toNat with
    | some codes =>
      have hfalse := testBit_eq_false_of_and_eq_zero capital_not_expanded hcapital
      rw [(testBit_expandedBits hlookup).2] at hfalse
      cases hfalse
    | none =>
      cases himage : lowerRules.findSome? (·.image? d.toNat) with
      | none =>
        rw [lowerChar, mapCase, hlookup, himage]
        simpa using hupper
      | some image =>
        obtain ⟨rule, hrule, hrule'⟩ := List.exists_of_findSome?_eq_some himage
        rw [lowerChar, mapCase, hlookup, himage]
        simpa using upperChar_ofNat_image hrule hrule' hcapital

/-! ## Blanks -/

/-- The blank characters. -/
def blankBits : Nat :=
  unionBits [runBits 9 1 5, 1 <<< 0x20, 1 <<< 0x85, 1 <<< 0xA0, 1 <<< 0x1680, runBits 0x2000 1 11,
    1 <<< 0x2028, 1 <<< 0x2029, 1 <<< 0x202F, 1 <<< 0x205F, 1 <<< 0x3000]

theorem testBit_blankBits (h : isBlank c = true) : blankBits.testBit c.toNat = true := by
  simp only [isBlank, Bool.or_eq_true, Bool.and_eq_true, decide_eq_true_eq, beq_iff_eq] at h
  simp only [blankBits, testBit_unionBits, List.mem_cons, exists_eq_or_imp, testBit_one_shiftLeft,
    testBit_runBits_one]
  omega

theorem blank_not_target : (targetBits lowerRules lowerExpansions
    ||| targetBits upperRules upperExpansions) &&& blankBits = 0 := by
  decide +kernel

theorem isBlank_eq_false_of_target
    (h : (targetBits lowerRules lowerExpansions).testBit c.toNat = true ∨
      (targetBits upperRules upperExpansions).testBit c.toNat = true) : isBlank c = false := by
  rw [← Bool.or_eq_true, ← Nat.testBit_or] at h
  cases hblank : isBlank c with
  | false => rfl
  | true =>
    have hfalse := testBit_eq_false_of_and_eq_zero blank_not_target h
    rw [testBit_blankBits hblank] at hfalse
    cases hfalse

theorem isBlank_of_mem_lowerChar (hc : isBlank c = false) (hd : d ∈ lowerChar c) :
    isBlank d = false := by
  rcases mapCase_cases lower_isProperTable c with hsame | ⟨_, htarget⟩
  · rw [lowerChar, hsame, List.mem_singleton] at hd
    rwa [hd]
  · exact isBlank_eq_false_of_target (.inl (htarget d hd))

theorem isBlank_of_mem_upperChar (hc : isBlank c = false) (hd : d ∈ upperChar c) :
    isBlank d = false := by
  rcases mapCase_cases upper_isProperTable c with hsame | ⟨_, htarget⟩
  · rw [upperChar, hsame, List.mem_singleton] at hd
    rwa [hd]
  · exact isBlank_eq_false_of_target (.inr (htarget d hd))

end Characters

end RecordSchema
