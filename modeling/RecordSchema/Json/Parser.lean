import RecordSchema.Json.Basic
import RecordSchema.Decimal.Reader

/-!
# Reading JSON text

The reader works on a list of characters. Each step takes characters off the front and hands back
what is left together with the fact that it is shorter, so no step needs a count of its own.

Whole numbers stay whole while they fit 64 bits (signed when negative); every other number is
floating point, and one that is too large is refused. A repeated key keeps its first place and
its last value. Lists and objects may be nested `depth` levels deep and no deeper.

## Main definitions

* `Json.parseWithin`: the value of a whole text, or `none` when the text is not JSON.
* `Json.parse`: the same with the usual limit of 127 levels.

## Termination

Every loop shortens the text it has yet to read.
-/

namespace RecordSchema

namespace Json

/-- What a reader leaves: a rest shorter than the text it was given. -/
abbrev Shorter (s : List Char) := { rest : List Char // rest.length < s.length }

/-- Blanks between the parts of a text: space, tab, line feed and carriage return. -/
def isBlank (c : Char) : Bool :=
  c = ' ' || c = '\n' || c = '\t' || c = '\r'

/-- Drops the blanks at the front. -/
def skipBlanks (s : List Char) : List Char :=
  s.dropWhile isBlank

theorem length_dropWhile_le (p : Char → Bool) (s : List Char) :
    (s.dropWhile p).length ≤ s.length :=
  (List.dropWhile_sublist p).length_le

theorem length_skipBlanks_le (s : List Char) : (skipBlanks s).length ≤ s.length :=
  length_dropWhile_le isBlank s

/-- The value of a hexadecimal digit. -/
def hexValue? (c : Char) : Option Nat :=
  if c.isDigit then some (c.toNat - '0'.toNat)
  else if 'a' ≤ c && c ≤ 'f' then some (c.toNat - 'a'.toNat + 10)
  else if 'A' ≤ c && c ≤ 'F' then some (c.toNat - 'A'.toNat + 10)
  else none

/-- A 16-bit unit written as four hexadecimal digits. -/
def unit? : (s : List Char) → Option (Nat × Shorter s)
  | a :: b :: c :: d :: rest => do
    let a ← hexValue? a
    let b ← hexValue? b
    let c ← hexValue? c
    let d ← hexValue? d
    some (((a * 16 + b) * 16 + c) * 16 + d, ⟨rest, by simp; omega⟩)
  | _ => none

/-- The character of the escape after `\u`. A unit of the upper half of a pair has to be followed
by one of the lower half; a half on its own is refused. -/
def unitEscape? (s : List Char) : Option (Char × Shorter s) := do
  let (high, rest) ← unit? s
  if high < 0xD800 || 0xE000 ≤ high then some (Char.ofNat high, rest)
  else if 0xDC00 ≤ high then none
  else match h : rest.val with
    | '\\' :: 'u' :: after => do
      let (low, rest') ← unit? after
      if 0xDC00 ≤ low && low < 0xE000 then
        some (Char.ofNat (0x10000 + (high - 0xD800) * 0x400 + (low - 0xDC00)),
          ⟨rest'.val, by have := rest'.property; have := rest.property; simp_all; omega⟩)
      else none
    | _ => none

/-- The character of the escape after a backslash. -/
def escape? : (s : List Char) → Option (Char × Shorter s)
  | '"' :: rest => some ('"', ⟨rest, by simp⟩)
  | '\\' :: rest => some ('\\', ⟨rest, by simp⟩)
  | '/' :: rest => some ('/', ⟨rest, by simp⟩)
  | 'b' :: rest => some ('\x08', ⟨rest, by simp⟩)
  | 'f' :: rest => some ('\x0c', ⟨rest, by simp⟩)
  | 'n' :: rest => some ('\n', ⟨rest, by simp⟩)
  | 'r' :: rest => some ('\r', ⟨rest, by simp⟩)
  | 't' :: rest => some ('\t', ⟨rest, by simp⟩)
  | 'u' :: rest => (unitEscape? rest).map fun (c, r) =>
      (c, ⟨r.val, Nat.lt_trans r.property (by simp)⟩)
  | _ => none

/-- The characters up to the closing quotation mark, collected in reverse. -/
def textBody? (collected : List Char) : (s : List Char) → Option (String × Shorter s)
  | [] => none
  | '"' :: rest => some (String.ofList collected.reverse, ⟨rest, by simp⟩)
  | '\\' :: rest =>
    match escape? rest with
    | none => none
    | some (c, r) =>
      have := r.property
      (textBody? (c :: collected) r.val).map fun (text, r') =>
        (text, ⟨r'.val, by have := r'.property; simp; omega⟩)
  | c :: rest =>
    if c.toNat < 0x20 then none
    else (textBody? (c :: collected) rest).map fun (text, r) =>
      (text, ⟨r.val, by have := r.property; simp; omega⟩)
termination_by s => s.length

/-- Takes digits into a significand while it stays below `2 ^ 64`: the significand and the digits
left over. -/
def absorb (significand : Nat) : List Char → Nat × List Char
  | [] => (significand, [])
  | c :: rest =>
    let next := significand * 10 + digitValue c
    if next < 0x10000000000000000 then absorb next rest else (significand, c :: rest)

/-- The number with these parts. Only a number without fraction and exponent can be whole. Digits
beyond the 64-bit significand count as zeros before the point and are dropped after it. -/
def numberOf? (negative : Bool) (whole : List Char) (fraction : Option (List Char))
    (exponent : Option (Bool × List Char)) : Option Number :=
  let sign (x : Float) : Number := .float (if negative then -x else x)
  let (significand, dropped) := absorb 0 whole
  let (significand', ignored) := absorb significand (fraction.getD [])
  let place : Int := (dropped.length : Int) - ((fraction.getD []).length - ignored.length : Nat)
  match fraction, exponent with
  | none, none =>
    if !dropped.isEmpty then (scale? significand place).map sign
    else if !negative then some (.int significand)
    else if significand = 0 || 0x8000000000000000 < significand then
      some (sign (Float.ofNat significand))
    else some (.int (-(significand : Int)))
  | _, none => (scale? significand' place).map sign
  | _, some (down, digits) =>
    let size := digitsValue digits
    if 0x80000000 ≤ size then
      if significand' ≠ 0 && !down then none else some (sign 0.0)
    else (scale? significand' (if down then place - size else place + size)).map sign

/-- A fraction at the front: a point and at least one digit. `none` when the digits are missing. -/
def spanFraction? (s : List Char) : Option (Option (List Char) × List Char) :=
  match s with
  | '.' :: rest =>
    if (spanDigits rest).1.isEmpty then none
    else some (some (spanDigits rest).1, (spanDigits rest).2)
  | _ => some (none, s)

/-- An exponent at the front: `e`, an optional sign and at least one digit. -/
def spanExponent? (s : List Char) : Option (Option (Bool × List Char) × List Char) :=
  match s with
  | e :: rest =>
    if e = 'e' || e = 'E' then
      let (down, digits) := spanSign rest
      if (spanDigits digits).1.isEmpty then none
      else some (some (down, (spanDigits digits).1), (spanDigits digits).2)
    else some (none, s)
  | [] => some (none, s)

theorem length_spanDigits_le (s : List Char) : (spanDigits s).2.length ≤ s.length :=
  length_dropWhile_le Char.isDigit s

theorem length_spanSign_le (s : List Char) : (spanSign s).2.length ≤ s.length := by
  unfold spanSign; split <;> simp

theorem length_spanFraction_le {s rest : List Char} {f : Option (List Char)}
    (h : spanFraction? s = some (f, rest)) : rest.length ≤ s.length := by
  unfold spanFraction? at h
  split at h
  · rename_i tail
    split at h
    · simp at h
    · simp only [Option.some.injEq, Prod.mk.injEq] at h
      have := length_spanDigits_le tail
      simp only [List.length_cons, ← h.2]; omega
  · simp only [Option.some.injEq, Prod.mk.injEq] at h
    simp [h.2]

theorem length_spanExponent_le {s rest : List Char} {e : Option (Bool × List Char)}
    (h : spanExponent? s = some (e, rest)) : rest.length ≤ s.length := by
  unfold spanExponent? at h
  split at h
  · rename_i tail
    split at h
    · simp only at h
      split at h
      · simp at h
      · simp only [Option.some.injEq, Prod.mk.injEq] at h
        have h1 := length_spanDigits_le (spanSign tail).2
        have h2 := length_spanSign_le tail
        simp only [List.length_cons, ← h.2]; omega
    · simp only [Option.some.injEq, Prod.mk.injEq] at h
      simp [h.2]
  · simp only [Option.some.injEq, Prod.mk.injEq] at h
    simp [← h.2]

/-- A number without its sign. -/
def unsigned? (negative : Bool) (s : List Char) : Option (Number × Shorter s) :=
  match hw : (spanDigits s).1 with
  | [] => none
  | first :: more =>
    if first = '0' && !more.isEmpty then none
    else match hf : spanFraction? (spanDigits s).2 with
      | none => none
      | some (fraction, s') =>
        match he : spanExponent? s' with
        | none => none
        | some (exponent, s'') =>
          (numberOf? negative (first :: more) fraction exponent).map fun n => (n, ⟨s'', by
            have h1 := length_spanFraction_le hf
            have h2 := length_spanExponent_le he
            have h3 : (spanDigits s).1.length + (spanDigits s).2.length = s.length := by
              rw [← List.length_append]
              simp [spanDigits, List.takeWhile_append_dropWhile]
            rw [hw] at h3
            simp at h3
            omega⟩)

/-- A number. -/
def number? : (s : List Char) → Option (Number × Shorter s)
  | '-' :: rest => (unsigned? true rest).map fun (n, r) =>
      (n, ⟨r.val, by have := r.property; simp; omega⟩)
  | s => unsigned? false s

/-- A word at the front. -/
def word? (word : List Char) (s : List Char) (h : word ≠ []) : Option (Shorter s) :=
  if hp : word <+: s then
    some ⟨s.drop word.length, by
      have := hp.length_le
      have : 0 < word.length := List.length_pos_iff.2 h
      simp; omega⟩
  else none

mutual

/-- A value at the front, which may be nested `depth` levels deep. -/
def value? (depth : Nat) (s : List Char) : Option (Json × Shorter s) :=
  match s with
  | 'n' :: rest => (word? "null".toList ('n' :: rest) (by decide)).map fun r => (null, r)
  | 't' :: rest => (word? "true".toList ('t' :: rest) (by decide)).map fun r => (bool true, r)
  | 'f' :: rest => (word? "false".toList ('f' :: rest) (by decide)).map fun r => (bool false, r)
  | '"' :: rest => (textBody? [] rest).map fun (text, r) =>
      (str text, ⟨r.val, by have := r.property; simp; omega⟩)
  | '[' :: rest =>
    match depth with
    | 0 => none
    | depth + 1 =>
      have := length_skipBlanks_le rest
      match h : skipBlanks rest with
      | ']' :: after => some (arr [], ⟨after, by rw [h] at this; simp at this ⊢; omega⟩)
      | _ => (items? depth [] (skipBlanks rest)).map fun (items, r) =>
          (arr items, ⟨r.val, by have := r.property; simp; omega⟩)
  | '\x7b' :: rest =>
    match depth with
    | 0 => none
    | depth + 1 =>
      have := length_skipBlanks_le rest
      match h : skipBlanks rest with
      | '\x7d' :: after => some (obj [], ⟨after, by rw [h] at this; simp at this ⊢; omega⟩)
      | _ => (members? depth [] (skipBlanks rest)).map fun (members, r) =>
          (obj (Entries.ofPairs members), ⟨r.val, by have := r.property; simp; omega⟩)
  | s => (number? s).map fun (n, r) => (num n, r)
termination_by (s.length, 0)

/-- The items of a list from the first one on, collected in reverse. -/
def items? (depth : Nat) (collected : List Json) (s : List Char) :
    Option (List Json × Shorter s) :=
  match value? depth s with
  | none => none
  | some (item, r) =>
    have hr := r.property
    have hb := length_skipBlanks_le r.val
    match h : skipBlanks r.val with
    | ',' :: after =>
      have ha := length_skipBlanks_le after
      have hs : (skipBlanks after).length < s.length := by
        rw [h] at hb; simp only [List.length_cons] at hb; omega
      (items? depth (item :: collected) (skipBlanks after)).map fun (items, r') =>
        (items, ⟨r'.val, Nat.lt_trans r'.property hs⟩)
    | ']' :: after =>
      some ((item :: collected).reverse, ⟨after, by rw [h] at hb; simp at hb; omega⟩)
    | _ => none
termination_by (s.length, 1)

/-- The members of an object from the first key on, collected in reverse. -/
def members? (depth : Nat) (collected : List (String × Json)) (s : List Char) :
    Option (List (String × Json) × Shorter s) :=
  match s with
  | '"' :: afterQuote =>
    match textBody? [] afterQuote with
    | none => none
    | some (key, rk) =>
      have hk := rk.property
      have hbk := length_skipBlanks_le rk.val
      match hc : skipBlanks rk.val with
      | ':' :: afterColon =>
        have hv := length_skipBlanks_le afterColon
        have hsv : (skipBlanks afterColon).length < afterQuote.length := by
          rw [hc] at hbk; simp only [List.length_cons] at hbk; omega
        match value? depth (skipBlanks afterColon) with
        | none => none
        | some (value, r) =>
          have hr := r.property
          have hb := length_skipBlanks_le r.val
          match h : skipBlanks r.val with
          | ',' :: after =>
            have ha := length_skipBlanks_le after
            have hs : (skipBlanks after).length < afterQuote.length := by
              rw [h] at hb; simp only [List.length_cons] at hb; omega
            (members? depth ((key, value) :: collected) (skipBlanks after)).map
              fun (members, r') => (members, ⟨r'.val, by
                have := r'.property; simp only [List.length_cons]; omega⟩)
          | '\x7d' :: after =>
            some (((key, value) :: collected).reverse, ⟨after, by
              rw [h] at hb; simp only [List.length_cons] at hb ⊢; omega⟩)
          | _ => none
      | _ => none
  | _ => none
termination_by (s.length, 1)

end

/-- The value of a whole text, nested at most `depth` levels deep. -/
def parseWithin (depth : Nat) (text : String) : Option Json :=
  match value? depth (skipBlanks text.toList) with
  | some (value, rest) => if (skipBlanks rest.val).isEmpty then some value else none
  | none => none

/-- The value of a whole text, nested at most 127 levels deep. -/
def parse (text : String) : Option Json :=
  parseWithin 127 text

end Json

end RecordSchema
