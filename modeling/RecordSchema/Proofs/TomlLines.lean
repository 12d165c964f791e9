import Mathlib
import RecordSchema.Config.Basic
import RecordSchema.Toml.Parser

/-!
# Lines of TOML documents

The headers of tables and the pairs of a bare key and a bare word are read whatever follows them, so
a text of such lines is read line by line. The words for truth values and the decimal digits of
whole numbers are read as what they stand for.

## Main definitions

* `IsRun`: a word of characters of one kind.
* `TomlText.Reads`, `TomlText.ReadsAll`: what a line and what lines do to a draft.

## Main statements

* `TomlText.reads_header`, `TomlText.reads_pair`: headers and pairs.
* `TomlText.ReadsAll.run_document`: a text is read line by line.
* `TomlScalar.ofWord?_flagText`, `TomlScalar.ofWord?_decimalText`: truth values and whole numbers.
-/

namespace RecordSchema

/-! ## Runs of characters -/

/-- Whether a word has at least one character, and only characters of a kind. -/
structure IsRun (isKind : Char → Bool) (word : List Char) : Prop where
  /-- The characters are of the kind. -/
  kind : ∀ c ∈ word, isKind c = true
  /-- There is one. -/
  ne_nil : word ≠ []

namespace IsRun

variable {isKind isOther : Char → Bool} {word rest : List Char}

theorem of_all (h : (word.all isKind && !word.isEmpty) = true) : IsRun isKind word := by
  rw [Bool.and_eq_true, List.all_eq_true] at h
  exact ⟨h.1, by simpa using h.2⟩

theorem imp (h : IsRun isKind word) (himp : ∀ c, isKind c = true → isOther c = true) :
    IsRun isOther word :=
  ⟨fun c hc => himp c (h.kind c hc), h.ne_nil⟩

/-- A text that begins with a run begins with no character of another kind. -/
theorem head?_ne (h : IsRun isKind word) {c : Char} (hc : isKind c = false) (rest : List Char) :
    (word ++ rest).head? ≠ some c := by
  obtain ⟨d, ds, rfl⟩ := List.exists_cons_of_ne_nil h.ne_nil
  rintro hfirst
  cases hfirst
  rw [h.kind c List.mem_cons_self] at hc
  cases hc

theorem not_isPrefixOf (h : IsRun isKind word) {c : Char} (hc : isKind c = false)
    (other rest : List Char) : (c :: other).isPrefixOf (word ++ rest) = false := by
  obtain ⟨d, ds, rfl⟩ := List.exists_cons_of_ne_nil h.ne_nil
  have hd : c ≠ d := fun he => h.head?_ne hc rest (congrArg some he.symm)
  simp [List.isPrefixOf, hd]

/-- Taking characters of the kind takes a run off what begins with another kind. -/
theorem takeWhile_append (hword : ∀ c ∈ word, isKind c = true)
    (hrest : rest.head?.all (!isKind ·) = true) : (word ++ rest).takeWhile isKind = word := by
  rw [List.takeWhile_append_of_pos hword]
  cases rest with
  | nil => simp
  | cons c cs => rw [List.takeWhile_cons_of_neg (by simpa using hrest), List.append_nil]

theorem dropWhile_append (hword : ∀ c ∈ word, isKind c = true)
    (hrest : rest.head?.all (!isKind ·) = true) : (word ++ rest).dropWhile isKind = rest := by
  rw [List.dropWhile_append_of_pos hword]
  cases rest with
  | nil => rfl
  | cons c cs => rw [List.dropWhile_cons_of_neg (by simpa using hrest)]

end IsRun

namespace TomlText

open Reader (accept run_accept)

/-! ## Blanks and marks -/

/-- Whether a character is a blank within a line. -/
def isLineBlank (c : Char) : Bool := c = ' ' || c = '\t'

/-- Whether a character may stand in a key without quotation marks. -/
def isBare (c : Char) : Bool := c.isAlphanum || c = '_' || c = '-'

/-- Whether a character may stand in a bare word. -/
def isWordChar (c : Char) : Bool :=
  c.isAlphanum || c = '+' || c = '-' || c = '_' || c = '.' || c = ':'

theorem isWordChar_of_isBare {c : Char} (h : isBare c = true) : isWordChar c = true := by
  simp only [isBare, isWordChar, Bool.or_eq_true] at h ⊢
  tauto

theorem isWordChar_of_isDigit {c : Char} (h : c.isDigit = true) : isWordChar c = true := by
  simp [isWordChar, Char.isAlphanum, h]

theorem isLineBlank_of_isWordChar {c : Char} (h : isWordChar c = true) :
    isLineBlank c = false := by
  cases hblank : isLineBlank c with
  | false => rfl
  | true =>
    simp only [isLineBlank, Bool.or_eq_true, decide_eq_true_eq] at hblank
    obtain rfl | rfl := hblank <;> cases h

theorem head?_word {word : List Char} (hword : IsRun isWordChar word) (rest : List Char) :
    (word ++ rest).head?.all (!isLineBlank ·) = true := by
  obtain ⟨c, cs, rfl⟩ := List.exists_cons_of_ne_nil hword.ne_nil
  simp [isLineBlank_of_isWordChar (hword.kind c List.mem_cons_self)]

theorem run_skipBlanks {blanks rest : List Char} (hblanks : ∀ c ∈ blanks, isLineBlank c = true)
    (hrest : rest.head?.all (!isLineBlank ·) = true) :
    skipBlanks.run (blanks ++ rest) = some ((), rest) :=
  congrArg (fun s => some ((), s)) (IsRun.dropWhile_append hblanks hrest)

theorem run_skipBlanks_self {rest : List Char} (hrest : rest.head?.all (!isLineBlank ·) = true) :
    skipBlanks.run rest = some ((), rest) :=
  run_skipBlanks (List.forall_mem_nil _) hrest

theorem run_accept_append (word s : List Char) :
    (accept word).run (word ++ s) = some (true, s) := by
  rw [run_accept, if_pos (by simp), List.drop_left]

theorem run_accept_of_not_isPrefixOf {word s : List Char} (h : word.isPrefixOf s = false) :
    (accept word).run s = some (false, s) := by
  rw [run_accept, h]
  rfl

/-! ## Keys and values -/

section Key

variable {key : String} (hkey : IsRun isBare key.toList)

include hkey

theorem run_simpleKey {rest : List Char} (hrest : rest.head?.all (!isBare ·) = true) :
    simpleKey.run (key.toList ++ rest) = some (key, rest) := by
  have htake : (key.toList ++ rest).takeWhile (fun c => c.isAlphanum || c = '_' || c = '-')
      = key.toList := IsRun.takeWhile_append hkey.kind hrest
  unfold simpleKey
  simp only [StateT.run_bind, StateT.run_get, pure_bind]
  split
  · exact absurd ‹_› (hkey.head?_ne rfl rest)
  · exact absurd ‹_› (hkey.head?_ne rfl rest)
  · rw [htake]
    simp [hkey.ne_nil]

/-- A bare key up to the character that ends it. -/
theorem run_dottedKey {blanks : List Char} {c : Char}
    (hblanks : ∀ c ∈ blanks, isLineBlank c = true) (hend : c = ']' ∨ c = '=')
    (rest : List Char) (fuel : Nat) :
    (dottedKey (fuel + 1) []).run (key.toList ++ (blanks ++ c :: rest))
      = some (([], key), c :: rest) := by
  have hfirst : (key.toList ++ (blanks ++ c :: rest)).head?.all (!isLineBlank ·) = true :=
    head?_word (hkey.imp fun _ => isWordChar_of_isBare) _
  have hbare : (blanks ++ c :: rest).head?.all (!isBare ·) = true := by
    cases blanks with
    | nil => obtain rfl | rfl := hend <;> rfl
    | cons d ds =>
      cases hd : isBare d with
      | false => simp [hd]
      | true =>
        have hblank := hblanks d List.mem_cons_self
        rw [isLineBlank_of_isWordChar (isWordChar_of_isBare hd)] at hblank
        cases hblank
  have hblank : (c :: rest).head?.all (!isLineBlank ·) = true := by
    obtain rfl | rfl := hend <;> rfl
  have hdot : ['.'].isPrefixOf (c :: rest) = false := by
    obtain rfl | rfl := hend <;> rfl
  unfold dottedKey
  simp only [StateT.run_bind, run_skipBlanks_self hfirst, run_simpleKey hkey hbare,
    run_skipBlanks hblanks hblank, run_accept_of_not_isPrefixOf hdot, Option.bind_eq_bind,
    Option.bind_some]
  rfl

end Key

section Word

variable {word : List Char} (hword : IsRun isWordChar word)

include hword

theorem run_bareWord (rest : List Char) : bareWord.run (word ++ '\n' :: rest)
    = (TomlScalar.ofWord? word).map fun json => (json, '\n' :: rest) := by
  have htake : (word ++ '\n' :: rest).takeWhile
      (fun c => c.isAlphanum || c = '+' || c = '-' || c = '_' || c = '.' || c = ':') = word :=
    IsRun.takeWhile_append hword.kind rfl
  unfold bareWord
  simp [StateT.run_bind, htake, Option.map_eq_bind]

/-- A bare word up to the end of its line. -/
theorem run_value (rest : List Char) (depth fuel : Nat) :
    (value depth (fuel + 1)).run (word ++ '\n' :: rest)
      = (TomlScalar.ofWord? word).map fun json => (json, '\n' :: rest) := by
  unfold value
  simp only [StateT.run_bind, StateT.run_get, pure_bind]
  split
  · exact absurd ‹_› (hword.head?_ne rfl _)
  · exact absurd ‹_› (hword.head?_ne rfl _)
  · exact absurd ‹_› (hword.head?_ne rfl _)
  · exact absurd ‹_› (hword.head?_ne rfl _)
  · exact run_bareWord hword rest

end Word

/-! ## Lines -/

/-- Whether a line, up to its end, leads from one draft to another. -/
def Reads (draft : Draft) (text : List Char) (next : Draft) : Prop :=
  ∀ rest, (line draft).run (text ++ '\n' :: rest) = some (next, '\n' :: rest)

theorem reads_nil (draft : Draft) : Reads draft [] draft := fun rest => by
  have hblank : skipBlanks.run ('\n' :: rest) = some ((), '\n' :: rest) := run_skipBlanks_self rfl
  unfold line
  simp [StateT.run_bind, hblank, run_accept]

section Lines

variable {draft : Draft} {key : String} (hkey : IsRun isBare key.toList)

include hkey

/-- The header of a table. -/
theorem reads_header {root : TomlTable} (hroot : draft.root.openTable [] key = some root) :
    Reads draft ('[' :: key.toList ++ [']']) ⟨root, [key]⟩ := fun rest => by
  have hblank : skipBlanks.run ('[' :: (key.toList ++ ']' :: '\n' :: rest))
      = some ((), '[' :: (key.toList ++ ']' :: '\n' :: rest)) := run_skipBlanks_self rfl
  have hdouble : (accept ['[', '[']).run ('[' :: (key.toList ++ ']' :: '\n' :: rest))
      = some (false, '[' :: (key.toList ++ ']' :: '\n' :: rest)) :=
    run_accept_of_not_isPrefixOf (hkey.not_isPrefixOf rfl [] _)
  have hsingle : (accept ['[']).run ('[' :: (key.toList ++ ']' :: '\n' :: rest))
      = some (true, key.toList ++ ']' :: '\n' :: rest) := run_accept_append ['['] _
  have hdotted : ∀ fuel, (dottedKey (fuel + 1) []).run (key.toList ++ ']' :: '\n' :: rest)
      = some (([], key), ']' :: '\n' :: rest) :=
    run_dottedKey hkey (List.forall_mem_nil _) (.inl rfl) _
  have hclose : (accept [']']).run (']' :: '\n' :: rest) = some (true, '\n' :: rest) :=
    run_accept_append [']'] _
  unfold line
  simp [StateT.run_bind, hblank, hdouble, hsingle, hdotted, hclose, hroot]

/-- A bare key and a bare word. -/
theorem reads_pair {word : List Char} (hword : IsRun isWordChar word) {json : Json}
    (hjson : TomlScalar.ofWord? word = some json) {root : TomlTable}
    (hroot : draft.root.change false (·.addPair [] key json) draft.place = some root) :
    Reads draft (key.toList ++ ' ' :: '=' :: ' ' :: word) { draft with root } := fun rest => by
  have hblank : ∀ rest, skipBlanks.run (key.toList ++ rest) = some ((), key.toList ++ rest) :=
    fun rest => run_skipBlanks_self (head?_word (hkey.imp fun _ => isWordChar_of_isBare) rest)
  have hbracket : ∀ other rest,
      (accept ('[' :: other)).run (key.toList ++ rest) = some (false, key.toList ++ rest) :=
    fun other rest => run_accept_of_not_isPrefixOf (hkey.not_isPrefixOf rfl other rest)
  have hdotted : ∀ fuel,
      (dottedKey (fuel + 1) []).run (key.toList ++ ' ' :: '=' :: ' ' :: (word ++ '\n' :: rest))
      = some (([], key), '=' :: ' ' :: (word ++ '\n' :: rest)) :=
    run_dottedKey hkey (List.forall_mem_singleton.2 rfl) (.inr rfl) _
  have hequals : (accept ['=']).run ('=' :: ' ' :: (word ++ '\n' :: rest))
      = some (true, ' ' :: (word ++ '\n' :: rest)) := run_accept_append ['='] _
  have hspace : skipBlanks.run (' ' :: (word ++ '\n' :: rest))
      = some ((), word ++ '\n' :: rest) :=
    run_skipBlanks (List.forall_mem_singleton.2 rfl) (head?_word hword _)
  have hvalue := run_value hword rest
  rw [hjson] at hvalue
  -- the bound for keys is the length of the line
  obtain ⟨fuel, hfuel⟩ : ∃ fuel,
      (key.toList ++ ' ' :: '=' :: ' ' :: (word ++ '\n' :: rest)).length = fuel + 1 :=
    Nat.exists_eq_add_one_of_ne_zero (by simp)
  rw [List.append_assoc, List.cons_append, List.cons_append, List.cons_append]
  unfold line
  simp only [StateT.run_bind, StateT.run_get, hblank, hbracket, hfuel, Option.bind_eq_bind,
    Option.bind_some, Bool.false_eq_true, if_false, pure_bind]
  split
  · exact absurd ‹_› (by simp)
  · exact absurd ‹_› (hkey.head?_ne rfl _)
  · exact absurd ‹_› (hkey.head?_ne rfl _)
  · exact absurd ‹_› (hkey.head?_ne rfl _)
  · simp [StateT.run_bind, hdotted, hequals, hspace, hvalue, hroot]

end Lines

/-! ## Documents -/

/-- A line and its end. -/
theorem run_document_line {draft next : Draft} {text : List Char} (h : Reads draft text next)
    (rest : List Char) (fuel : Nat) :
    (document (fuel + 1) draft).run (text ++ '\n' :: rest) = (document fuel next).run rest := by
  have hblank : skipBlanks.run ('\n' :: rest) = some ((), '\n' :: rest) := run_skipBlanks_self rfl
  have hcomment : skipComment.run ('\n' :: rest) = some ((), '\n' :: rest) := by
    simp [skipComment, StateT.run_bind, run_accept]
  have hend : acceptLineEnd.run ('\n' :: rest) = some (true, rest) := by
    simp [acceptLineEnd, StateT.run_bind, run_accept]
  conv_lhs => unfold document
  simp [StateT.run_bind, h rest, hblank, hcomment, hend]

theorem run_document_nil (draft : Draft) (fuel : Nat) :
    (document (fuel + 1) draft).run [] = some (draft, []) :=
  rfl

/-- The lines of a text lead from one draft to another, line by line. -/
inductive ReadsAll : Draft → List (List Char) → Draft → Prop
  /-- No lines. -/
  | nil (draft : Draft) : ReadsAll draft [] draft
  /-- A line before other lines. -/
  | cons {draft next last : Draft} {text : List Char} {texts : List (List Char)}
      (hline : Reads draft text next) (hrest : ReadsAll next texts last) :
      ReadsAll draft (text :: texts) last

theorem length_le_length_flatMap (texts : List (List Char)) :
    texts.length ≤ (texts.flatMap (· ++ ['\n'])).length := by
  induction texts with
  | nil => exact Nat.le_refl 0
  | cons text texts ih =>
    simp only [List.flatMap_cons, List.length_append, List.length_cons, List.length_nil]
    omega

/-- A document is read when its lines are. -/
theorem ReadsAll.run_document {draft last : Draft} {texts : List (List Char)}
    (h : ReadsAll draft texts last) {fuel : Nat} (hfuel : texts.length < fuel) :
    (document fuel draft).run (texts.flatMap (· ++ ['\n'])) = some (last, []) := by
  induction h generalizing fuel with
  | nil draft =>
    obtain ⟨fuel, rfl⟩ := Nat.exists_eq_add_one_of_ne_zero (Nat.ne_of_gt hfuel)
    exact run_document_nil draft fuel
  | cons hline _ ih =>
    obtain ⟨fuel, rfl⟩ := Nat.exists_eq_add_one_of_ne_zero (Nat.ne_of_gt (Nat.zero_lt_of_lt hfuel))
    rw [List.flatMap_cons, List.append_assoc, List.singleton_append, run_document_line hline]
    exact ih (Nat.lt_of_succ_lt_succ hfuel)

end TomlText

/-! ## Bare words -/

namespace TomlScalar

theorem ofWord?_flagText (flag : Bool) :
    ofWord? (Config.flagText flag).toList = some (.bool flag) := by
  cases flag <;> rfl

/-- The digits of a number stand for it. -/
theorem digitsValue_toDigits (n : Nat) : digitsValue (Nat.toDigits 10 n) = n :=
  Nat.ofDigitChars_toDigits (by decide) (by decide)

theorem isDigit_of_mem_toDigits {n : Nat} {c : Char} (h : c ∈ Nat.toDigits 10 n) :
    c.isDigit = true :=
  Nat.isDigit_of_mem_toDigits (by decide) (by decide) h

/-- Only zero begins with the digit zero. -/
theorem eq_nil_of_toDigits_eq_zero_cons {n : Nat} {rest : List Char}
    (h : Nat.toDigits 10 n = '0' :: rest) : rest = [] := by
  induction n using Nat.strong_induction_on generalizing rest with
  | _ n ih =>
    by_cases hn : n < 10
    · rw [Nat.toDigits_of_lt_base hn] at h
      exact (List.cons.inj h).2.symm
    · rw [Nat.toDigits_of_base_le (by decide) (Nat.le_of_not_lt hn)] at h
      obtain ⟨front, hfront⟩ : ∃ front, Nat.toDigits 10 (n / 10) = '0' :: front := by
        cases hdigits : Nat.toDigits 10 (n / 10) with
        | nil => exact absurd hdigits Nat.toDigits_ne_nil
        | cons d ds =>
          rw [hdigits, List.cons_append] at h
          exact ⟨ds, by rw [(List.cons.inj h).1]⟩
      have hnil := ih (n / 10) (by omega) hfront
      have hzero := digitsValue_toDigits (n / 10)
      rw [hfront, hnil] at hzero
      exact absurd hzero (by simp [digitsValue, digitValue]; omega)

theorem decimalDigits?_toDigits (n : Nat) :
    decimalDigits? (Nat.toDigits 10 n) = some (Nat.toDigits 10 n) := by
  have hgroups : (Nat.toDigits 10 n).splitOn '_' = [Nat.toDigits 10 n] :=
    List.splitOn_eq_singleton fun h => by cases isDigit_of_mem_toDigits h
  have hdigits : digits? Char.isDigit (Nat.toDigits 10 n) = some (Nat.toDigits 10 n) := by
    unfold digits?
    rw [hgroups]
    simp [Nat.toDigits_ne_nil]
    exact fun c hc => isDigit_of_mem_toDigits hc
  unfold decimalDigits?
  rw [hdigits]
  split
  · rename_i heq
    cases eq_nil_of_toDigits_eq_zero_cons (Option.some.inj heq)
  · rfl

theorem spanSign_toDigits (n : Nat) :
    spanSign (Nat.toDigits 10 n) = (false, Nat.toDigits 10 n) := by
  have hdigit : ∀ c ∈ Nat.toDigits 10 n, c.isDigit = true := fun _ => isDigit_of_mem_toDigits
  unfold spanSign
  split
  · rename_i heq
    rw [heq] at hdigit
    cases hdigit '-' List.mem_cons_self
  · rename_i heq
    rw [heq] at hdigit
    cases hdigit '+' List.mem_cons_self
  · rfl

theorem fitted?_of_fitsSigned {n : Int} (h : Word64.fitsSigned n = true) :
    fitted? n = some (.num (.int n)) := by
  rw [fitted?, if_pos h]
  rfl

/-- Digits are a whole number: they are no number in another base. -/
theorem integer?_of_digits {digits : List Char} {n : Nat} (hdigit : ∀ c ∈ digits, c.isDigit = true)
    (hsign : spanSign digits = (false, digits)) (hdecimal : decimalDigits? digits = some digits)
    (hvalue : digitsValue digits = n) (h : Word64.fitsSigned n = true) :
    integer? digits = some (.num (.int n)) := by
  have hsecond : ∀ c rest, digits = '0' :: c :: rest → c.isDigit = true := fun c rest heq =>
    hdigit c (heq ▸ List.mem_cons_of_mem _ List.mem_cons_self)
  unfold integer?
  split
  · exact absurd (hsecond _ _ rfl) (by decide)
  · exact absurd (hsecond _ _ rfl) (by decide)
  · exact absurd (hsecond _ _ rfl) (by decide)
  · rw [hsign]
    dsimp only
    rw [hdecimal, Option.bind_some, hvalue]
    exact fitted?_of_fitsSigned h

theorem ofWord?_of_digits {digits : List Char} (hdigit : ∀ c ∈ digits, c.isDigit = true)
    {json : Json} (h : integer? digits = some json) : ofWord? digits = some json := by
  have hword : ∀ c rest, c.isDigit = false → digits ≠ c :: rest := fun c rest hc heq => by
    rw [hdigit c (heq ▸ List.mem_cons_self)] at hc
    cases hc
  have htrue : digits ≠ "true".toList := hword 't' _ rfl
  have hfalse : digits ≠ "false".toList := hword 'f' _ rfl
  rw [ofWord?, if_neg htrue, if_neg hfalse, h]
  rfl

theorem ofWord?_decimalText {n : Nat} (h : Word64.fitsSigned n = true) :
    ofWord? (decimalText n).toList = some (.num (.int n)) := by
  have hdigit : ∀ c ∈ Nat.toDigits 10 n, c.isDigit = true := fun _ => isDigit_of_mem_toDigits
  rw [decimalText, String.toList_ofList]
  exact ofWord?_of_digits hdigit (integer?_of_digits hdigit (spanSign_toDigits n)
    (decimalDigits?_toDigits n) (digitsValue_toDigits n) h)

end TomlScalar

end RecordSchema
