import Mathlib.Data.List.Induction
import RecordSchema.Proofs.IdentifierForms
import RecordSchema.Schema.Basic

/-!
# The stored forms of scalars

Each scalar type stores its values in one form, and a value in stored form is stored as it is: its
text style has nothing left to change, and the type reads it back as itself.

## Main definitions

* `StoredScalar`: the stored forms of each type, identifiers in one letter case.

## Main statements

* `Timestamp.fitsSigned_millis`: a written point in time fits a signed 64-bit word.
* `FieldType.storedScalar_of_cast`: a conversion gives a stored form.
* `StoredScalar.styled`: a style leaves the form of the type, apart from the letter case.
* `StoredScalar.cast_styled`: a styled stored form is stored as itself.
-/

namespace RecordSchema

/-! ## The range of points in time -/

theorem digitsValue_append (s : List Char) (c : Char) :
    digitsValue (s ++ [c]) = 10 * digitsValue s + digitValue c := by
  simp [digitsValue]

theorem digitsValue_lt {s : List Char} (h : s.all Char.isDigit = true) :
    digitsValue s < Nat.pow 10 s.length := by
  induction s using List.reverseRecOn with
  | nil => decide
  | append_singleton s c ih =>
    rw [List.all_append, Bool.and_eq_true] at h
    have hfront := ih h.1
    have hdigit : digitValue c < 10 := by
      have hc : c.isDigit = true := by simpa using h.2
      simp [Char.isDigit, UInt32.le_iff_toNat_le] at hc
      have hval : c.val.toNat = c.toNat := rfl
      have hzero : '0'.toNat = 48 := rfl
      rw [digitValue]
      omega
    have hpow : Nat.pow 10 (s.length + 1) = Nat.pow 10 s.length * 10 := rfl
    rw [digitsValue_append, List.length_append, List.length_singleton, hpow]
    omega

namespace Timestamp

theorem digits?_lt {count n : Nat} {s rest : List Char} (h : digits? count s = some (n, rest)) :
    n < Nat.pow 10 count := by
  unfold digits? at h
  dsimp only at h
  split at h
  · rename_i hs
    rw [Bool.and_eq_true, decide_eq_true_eq] at hs
    cases h
    simpa only [hs.1] using digitsValue_lt hs.2
  · cases h

theorem fraction?_lt {n : Nat} {s rest : List Char} (h : fraction? s = some (n, rest)) :
    n < 1000000000 := by
  unfold fraction? at h
  split at h
  · rename_i digits
    dsimp only at h
    split at h
    · cases h
    · cases h
      generalize hkept : (spanDigits digits).1.take 9 = kept
      have hall : kept.all Char.isDigit = true := List.all_eq_true.2 fun c hc =>
        List.all_eq_true.1 List.all_takeWhile c (List.mem_of_mem_take (hkept ▸ hc))
      have hlen : kept.length ≤ 9 := hkept ▸ List.length_take_le _ _
      calc digitsValue kept * Nat.pow 10 (9 - kept.length)
          < Nat.pow 10 kept.length * Nat.pow 10 (9 - kept.length) :=
            Nat.mul_lt_mul_of_pos_right (digitsValue_lt hall) (Nat.pow_pos (by decide))
        _ = Nat.pow 10 (kept.length + (9 - kept.length)) := (Nat.pow_add 10 _ _).symm
        _ = 1000000000 := by rw [Nat.add_sub_cancel' hlen]
  · cases h
    decide

theorem offset?_bounds {n : Int} {s rest : List Char} (h : offset? s = some (n, rest)) :
    -1440 < n ∧ n < 1440 := by
  unfold offset? at h
  split at h
  · cases h
  · split at h
    · cases h
      decide
    · split at h
      · simp only [Option.bind_eq_bind, Option.bind_eq_some_iff, Prod.exists] at h
        obtain ⟨hours, _, -, _, -, minutes, _, -, h⟩ := h
        split at h
        · rename_i hlt
          simp only [Bool.and_eq_true, decide_eq_true_eq] at hlt
          simp only [Option.some.injEq, Prod.mk.injEq] at h
          obtain ⟨rfl, -⟩ := h
          split <;> omega
        · cases h
      · cases h

/-- The parts of a written point in time are those of a calendar and a clock. -/
structure InRange (t : Timestamp) : Prop where
  year : t.year < 10000
  month : t.month ≤ 12
  day : t.day ≤ 31
  hour : t.hour < 24
  minute : t.minute < 60
  nanosecond : t.nanosecond < 1000000000
  offset : -1440 < t.offset ∧ t.offset < 1440

theorem daysInMonth_le (year month : Nat) : daysInMonth year month ≤ 31 := by
  unfold daysInMonth
  split <;> first | decide | (split <;> decide)

theorem month_le {year month : Nat} (h : 0 < daysInMonth year month) : month ≤ 12 := by
  by_contra hgt
  have hzero : daysInMonth year month = 0 := by
    unfold daysInMonth
    split <;> omega
  omega

theorem inRange_of_parse? {text : String} {t : Timestamp} (h : parse? text = some t) :
    t.InRange := by
  -- one step for each part and each mark between parts
  obtain ⟨⟨year, _⟩, hyear, h⟩ := Option.bind_eq_some_iff.1 h
  obtain ⟨_, _, h⟩ := Option.bind_eq_some_iff.1 h
  obtain ⟨⟨month, _⟩, _, h⟩ := Option.bind_eq_some_iff.1 h
  obtain ⟨_, _, h⟩ := Option.bind_eq_some_iff.1 h
  obtain ⟨⟨day, _⟩, _, h⟩ := Option.bind_eq_some_iff.1 h
  obtain ⟨_, _, h⟩ := Option.bind_eq_some_iff.1 h
  obtain ⟨⟨hour, _⟩, _, h⟩ := Option.bind_eq_some_iff.1 h
  obtain ⟨_, _, h⟩ := Option.bind_eq_some_iff.1 h
  obtain ⟨⟨minute, _⟩, _, h⟩ := Option.bind_eq_some_iff.1 h
  obtain ⟨_, _, h⟩ := Option.bind_eq_some_iff.1 h
  obtain ⟨⟨second, _⟩, _, h⟩ := Option.bind_eq_some_iff.1 h
  obtain ⟨⟨nanosecond, _⟩, hnanosecond, h⟩ := Option.bind_eq_some_iff.1 h
  obtain ⟨⟨offset, _⟩, hoffset, h⟩ := Option.bind_eq_some_iff.1 h
  dsimp only at h
  split at h
  · rename_i hvalid
    cases h
    simp only [isValid, Bool.and_eq_true, decide_eq_true_eq] at hvalid
    obtain ⟨-, ⟨⟨⟨hpos, hday⟩, hhour⟩, hminute⟩, -⟩ := hvalid
    exact {
      year := digits?_lt hyear
      month := month_le (Nat.lt_of_lt_of_le hpos hday)
      day := Nat.le_trans hday (daysInMonth_le _ _)
      hour := hhour
      minute := hminute
      nanosecond := fraction?_lt hnanosecond
      offset := offset?_bounds hoffset }
  · cases h

theorem dayNumber_bounds {year month day : Nat} (hyear : year < 10000) (hmonth : month ≤ 12)
    (hday : day ≤ 31) :
    -1000000 < dayNumber year month day ∧ dayNumber year month day < 10000000 := by
  unfold dayNumber
  simp only [Int.fdiv_eq_ediv_of_nonneg _ (show (0 : Int) ≤ 4 by decide),
    Int.fdiv_eq_ediv_of_nonneg _ (show (0 : Int) ≤ 100 by decide),
    Int.fdiv_eq_ediv_of_nonneg _ (show (0 : Int) ≤ 400 by decide),
    Int.fdiv_eq_ediv_of_nonneg _ (show (0 : Int) ≤ 5 by decide)]
  split <;> omega

/-- A written point in time fits a signed 64-bit word. -/
theorem fitsSigned_millis {t : Timestamp} (h : t.InRange) :
    Word64.fitsSigned t.millis = true := by
  have hdays := dayNumber_bounds h.year h.month h.day
  have hhour := h.hour
  have hminute := h.minute
  have hoffset := h.offset
  have hfraction : (if t.second = 60 then t.nanosecond + 1000000000 else t.nanosecond) / 1000000
      < 2000 := by
    have := h.nanosecond
    split <;> omega
  rw [Word64.fitsSigned_iff, millis, seconds]
  omega

end Timestamp

/-! ## Stored forms -/

/-- The stored forms of a scalar type; identifiers are in one letter case. -/
inductive StoredScalar (upper : Bool) : FieldType → Json → Prop
  | null (type : FieldType) : StoredScalar upper type .null
  | string (s : String) : StoredScalar upper .string (.str s)
  | number (n : Number) : StoredScalar upper .number (.num n)
  | boolean (b : Bool) : StoredScalar upper .boolean (.bool b)
  | date (n : Int) (fits : Word64.fitsSigned n = true) : StoredScalar upper .date (.ofInt n)
  | objectId (s : String) (form : IsDocumentId upper s) : StoredScalar upper .objectId (.str s)
  | uuid (s : String) (form : IsUuid upper s) : StoredScalar upper .uuid (.str s)
  | mixed (value : Json) : StoredScalar upper .mixed value

theorem fitsSigned_of_millis? {value : Json} {n : Int} (h : FieldType.millis? value = some n) :
    Word64.fitsSigned n = true := by
  unfold FieldType.millis? at h
  split at h
  · unfold Number.toInt64? at h
    split at h
    · split at h
      · rename_i hfits
        cases h
        exact hfits
      · cases h
    · cases h
  · rcases Option.or_eq_some_iff.1 h with h | ⟨-, h⟩
    · exact (Option.filter_eq_some_iff.1 h).2
    · obtain ⟨t, ht, rfl⟩ := Option.map_eq_some_iff.1 h
      exact Timestamp.fitsSigned_millis (Timestamp.inRange_of_parse? ht)
  · cases h

theorem storedScalar_of_numberOfText? {s : String} {value : Json}
    (h : FieldType.numberOfText? s = some value) (upper : Bool) :
    StoredScalar upper .number value := by
  unfold FieldType.numberOfText? at h
  dsimp only at h
  split at h
  · cases h
    exact .null _
  · split at h
    · cases h
      exact .number _
    · obtain ⟨x, -, h⟩ := Option.bind_eq_some_iff.1 h
      split at h
      · cases h
        exact .number _
      · cases h

theorem storedScalar_of_stored? {type : FieldType} {value stored : Json}
    (hscalar : type ≠ .collection) (h : type.stored? value = some stored) :
    StoredScalar false type stored := by
  cases type with
  | string => cases value <;> cases h <;> exact .string _
  | number =>
    cases value with
    | str s =>
      have htext : FieldType.numberOfText? s = some stored := h
      exact storedScalar_of_numberOfText? htext false
    | _ => cases h <;> exact .number _
  | boolean =>
    cases value with
    | bool b =>
      cases h
      exact .boolean b
    | str s =>
      simp only [FieldType.stored?, FieldType.storedBoolean?] at h
      split at h
      · cases h
        exact .boolean _
      · split at h
        · cases h
          exact .boolean _
        · cases h
    | num n =>
      simp only [FieldType.stored?, FieldType.storedBoolean?] at h
      split at h <;> cases h <;> exact .boolean _
    | _ => cases h
  | date =>
    obtain ⟨n, hn, rfl⟩ := Option.map_eq_some_iff.1 h
    exact .date n (fitsSigned_of_millis? hn)
  | objectId =>
    obtain ⟨s, hs, rfl⟩ := Option.map_eq_some_iff.1 h
    obtain ⟨text, -, hs⟩ := Option.bind_eq_some_iff.1 hs
    exact .objectId s (isDocumentId_of_documentId? hs)
  | uuid =>
    obtain ⟨s, hs, rfl⟩ := Option.map_eq_some_iff.1 h
    obtain ⟨text, -, hs⟩ := Option.bind_eq_some_iff.1 hs
    exact .uuid s (isUuid_of_uuid? hs)
  | mixed => exact .mixed stored
  | collection => exact absurd rfl hscalar

namespace FieldType

variable {type : FieldType} {path : String} {value stored : Json}

theorem cast_of_stored? (hnull : value.isNull = false) (h : type.stored? value = some stored) :
    type.cast path value = .ok stored := by
  simp [cast, hnull, h]

/-- A conversion gives a stored form. -/
theorem storedScalar_of_cast (hscalar : type ≠ .collection)
    (h : type.cast path value = .ok stored) : StoredScalar false type stored := by
  unfold cast at h
  split at h
  · cases h
    exact .null type
  · split at h
    · rename_i hs
      cases h
      exact storedScalar_of_stored? hscalar hs
    · cases h

/-- A failed conversion says which value the field cannot store. -/
theorem eq_of_cast_eq_error {e : SchemaError} (h : type.cast path value = .error e) :
    e = .cast path type.name value := by
  unfold cast at h
  split at h
  · cases h
  · split at h
    · cases h
    · cases h
      rfl

end FieldType

namespace StoredScalar

variable {type : FieldType} {value : Json}

/-- A style leaves the form of the type, apart from the letter case of identifiers. -/
theorem styled (h : StoredScalar false type value) (style : TextStyle) :
    StoredScalar style.uppercase type (style.apply value) := by
  cases h with
  | null => exact .null _
  | string s => exact .string _
  | number n => exact .number n
  | boolean b => exact .boolean b
  | date n fits => exact .date n fits
  | objectId s form => exact .objectId _ (form.styled style).1
  | uuid s form => exact .uuid _ (form.styled style).1
  | mixed value => exact .mixed _

/-- A styled stored form is stored as itself. -/
theorem cast_styled (h : StoredScalar false type value) (style : TextStyle) (path : String) :
    (type.cast path (style.apply value)).map style.apply = .ok (style.apply value) := by
  cases h with
  | null => rfl
  | string s =>
    have hcast : FieldType.string.cast path (.str (style.applyText s))
        = .ok (.str (style.applyText s)) := rfl
    exact (congrArg (Except.map style.apply) hcast).trans
      (congrArg Except.ok (style.apply_apply (.str s)))
  | number n => rfl
  | boolean b => rfl
  | date n fits =>
    have hstored : FieldType.date.stored? (.ofInt n) = some (.ofInt n) := by
      simp [FieldType.stored?, FieldType.millis?, Json.ofInt, Number.toInt64?, fits]
    exact congrArg (Except.map style.apply) (FieldType.cast_of_stored? rfl hstored)
  | objectId s form =>
    have hstored : FieldType.objectId.stored? (.str (style.applyText s)) = some (.str s) := by
      simp [FieldType.stored?, Json.asText?, (form.styled style).2]
    exact congrArg (Except.map style.apply) (FieldType.cast_of_stored? rfl hstored)
  | uuid s form =>
    have hstored : FieldType.uuid.stored? (.str (style.applyText s)) = some (.str s) := by
      simp [FieldType.stored?, Json.asText?, (form.styled style).2]
    exact congrArg (Except.map style.apply) (FieldType.cast_of_stored? rfl hstored)
  | mixed value =>
    have hcast : ∀ value, FieldType.mixed.cast path value = .ok value := by
      intro value
      cases value <;> rfl
    rw [hcast]
    exact congrArg Except.ok (style.apply_apply value)

end StoredScalar

end RecordSchema
