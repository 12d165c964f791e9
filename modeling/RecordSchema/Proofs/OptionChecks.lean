import RecordSchema.Proofs.InsertContents

/-!
# The checks that options ask for

Each of the options `required`, `enum`, `match`, `min` and `max` asks for one check where it is
given, and a declaration is accepted only when each option that is given has a usable value. The
checks look at the value alone, and none of them reports a failure of the kind that a value without
a stored form has.

## Main definitions

* `OptionCheck`: the checks that options can ask for, one case for each option.
* `BoundCheck`: the options that bound a number.
* `Validator.IgnoresRecord`: whether a check looks at the value alone.

## Main statements

* `enumOption_eq_ok_iff`, `matchOption_eq_ok_iff`, `boundOption_eq_ok_iff`: one option.
* `optionCheck_of_mem`: these are all the checks of options.
* `Schema.Tracks.exists_optionValidators`: all checks of a declared field.
* `exists_enum_check`, `exists_match_check`, `exists_bound_check`: an option that is given has its
  check.
-/

namespace RecordSchema

/-! ## What a check looks at -/

/-- Whether a check looks at the value alone. -/
def Validator.IgnoresRecord (validator : Validator) : Prop :=
  ∀ value record record', validator.check value record = validator.check value record'

theorem Validator.IgnoresRecord.run_eq {validator : Validator} (h : validator.IgnoresRecord)
    (path : String) (value record record' : Json) :
    validator.run path value record = validator.run path value record' := by
  rw [run, run, h value record record']

/-! ## One option -/

variable {type : FieldType} {path key : String} {options : Fields} {validators : List Validator}

theorem requiredOption_cases (h : requiredOption type path options = .ok validators) :
    validators = [] ∨ ∃ message, validators = [requiredValidator type message] := by
  unfold requiredOption at h
  split at h
  · cases h
    exact .inl rfl
  · cases h
    exact .inl rfl
  · cases h
    exact .inl rfl
  · cases h
    exact .inr ⟨_, rfl⟩
  · cases h
    exact .inr ⟨_, rfl⟩
  · cases h

theorem enumOption_eq_ok_iff : enumOption path options = .ok validators ↔
    (options.get? "enum" = none ∧ validators = []) ∨ ∃ allowed,
      options.get? "enum" = some (.arr allowed) ∧ validators = [enumValidator allowed] := by
  unfold enumOption
  split
  · rename_i hoption
    simp [hoption, eq_comm]
  · rename_i allowed hoption
    simp [hoption, eq_comm]
  · rename_i option hother hoption
    rw [hoption]
    refine iff_of_false (by simp) ?_
    rintro (⟨hnone, _⟩ | ⟨allowed, hsome, _⟩)
    · cases hnone
    · exact hother allowed (Option.some.inj hsome)

theorem matchOption_eq_ok_iff : matchOption path options = .ok validators ↔
    (options.get? "match" = none ∧ validators = []) ∨
    ∃ source pattern, options.get? "match" = some (.str source) ∧
      Pattern.ofText source = .ok pattern ∧ validators = [matchValidator pattern] := by
  unfold matchOption
  split
  · rename_i hoption
    simp [hoption, eq_comm]
  · rename_i source hoption
    split
    · rename_i pattern hpattern
      simp [hoption, hpattern, eq_comm]
    · rename_i fault hpattern
      simp [hoption, hpattern]
  · rename_i option hother hoption
    rw [hoption]
    refine iff_of_false (by simp) ?_
    rintro (⟨hnone, _⟩ | ⟨source, pattern, hsome, _⟩)
    · cases hnone
    · exact hother source (Option.some.inj hsome)

theorem boundOption_eq_ok_iff {validator : Float → Validator} :
    boundOption key validator path options = .ok validators ↔
      (options.get? key = none ∧ validators = []) ∨
      ∃ option bound, options.get? key = some option ∧ option.asFloat? = some bound ∧
        validators = [validator bound] := by
  unfold boundOption
  split
  · rename_i hoption
    simp [hoption, eq_comm]
  · rename_i option hoption
    split
    · rename_i bound hbound
      simp [hoption, hbound, eq_comm]
    · rename_i hbound
      simp [hoption, hbound]

/-! ## All options -/

/-- The checks that options can ask for. -/
inductive OptionCheck (type : FieldType) (options : Fields) : Validator → Prop
  /-- That there is a value. -/
  | required (message : String) : OptionCheck type options (requiredValidator type message)
  /-- That the value is one of those listed. -/
  | enum {allowed : List Json} (hoption : options.get? "enum" = some (.arr allowed)) :
      OptionCheck type options (enumValidator allowed)
  /-- That the text matches a pattern. -/
  | pattern {source : String} {pattern : Pattern}
      (hoption : options.get? "match" = some (.str source))
      (hpattern : Pattern.ofText source = .ok pattern) :
      OptionCheck type options (matchValidator pattern)
  /-- That the number is not below a bound. -/
  | min {option : Json} {bound : Float} (hoption : options.get? "min" = some option)
      (hbound : option.asFloat? = some bound) : OptionCheck type options (minValidator type bound)
  /-- That the number is not above a bound. -/
  | max {option : Json} {bound : Float} (hoption : options.get? "max" = some option)
      (hbound : option.asFloat? = some bound) : OptionCheck type options (maxValidator type bound)

/-- The options that bound a number, with the check that each asks for. -/
inductive BoundCheck (type : FieldType) : String → (Float → Validator) → Prop
  /-- The least number allowed. -/
  | min : BoundCheck type "min" (minValidator type)
  /-- The greatest number allowed. -/
  | max : BoundCheck type "max" (maxValidator type)

/-- These are all the checks. -/
theorem optionCheck_of_mem (h : optionValidators type path options = .ok validators)
    {validator : Validator} (hmem : validator ∈ validators) :
    OptionCheck type options validator := by
  obtain ⟨required, enum, pattern, min, max, hrequired, henum, hpattern, hmin, hmax, rfl⟩ :=
    optionValidators_eq_ok_iff.1 h
  simp only [List.mem_append] at hmem
  rcases hmem with (((hmem | hmem) | hmem) | hmem) | hmem
  · rcases requiredOption_cases hrequired with rfl | ⟨message, rfl⟩
    · cases hmem
    · rw [List.mem_singleton.1 hmem]
      exact .required message
  · rcases enumOption_eq_ok_iff.1 henum with ⟨_, rfl⟩ | ⟨allowed, hoption, rfl⟩
    · cases hmem
    · rw [List.mem_singleton.1 hmem]
      exact .enum hoption
  · rcases matchOption_eq_ok_iff.1 hpattern with ⟨_, rfl⟩ | ⟨source, _, hoption, htext, rfl⟩
    · cases hmem
    · rw [List.mem_singleton.1 hmem]
      exact .pattern hoption htext
  · rcases boundOption_eq_ok_iff.1 hmin with ⟨_, rfl⟩ | ⟨option, bound, hoption, hbound, rfl⟩
    · cases hmem
    · rw [List.mem_singleton.1 hmem]
      exact .min hoption hbound
  · rcases boundOption_eq_ok_iff.1 hmax with ⟨_, rfl⟩ | ⟨option, bound, hoption, hbound, rfl⟩
    · cases hmem
    · rw [List.mem_singleton.1 hmem]
      exact .max hoption hbound

namespace OptionCheck

variable {validator : Validator}

/-- A failure of an option's check is told from one of a value without a stored form. -/
theorem kind_ne_cast (h : OptionCheck type options validator) : validator.kind ≠ .cast := by
  cases h <;> exact ValidatorKind.noConfusion

theorem ignoresRecord (h : OptionCheck type options validator) : validator.IgnoresRecord := by
  cases h <;> exact fun _ _ _ => rfl

end OptionCheck

/-- The checks of a declared field: those of its options, and after them those attached to it. -/
theorem Schema.Tracks.exists_optionValidators {schema : Schema} {schemaOptions : SchemaOptions}
    {log : List Change} (h : schema.Tracks schemaOptions log) {path : String} {field : Descriptor}
    (hfind : schema.find? path = some field) : ∃ validators,
      optionValidators field.type path field.options = .ok validators ∧
      field.validators
        = validators ++ (attachments path log).filterMap Attachment.validator? := by
  obtain ⟨required, enum, pattern, min, max, hrequired, henum, hpattern, hmin, hmax, hall⟩ :=
    h.validators_eq hfind
  exact ⟨_, optionValidators_eq_ok_iff.2
    ⟨required, enum, pattern, min, max, hrequired, henum, hpattern, hmin, hmax, rfl⟩, hall⟩

/-! ## Options that are given -/

section

variable {option : Json}

theorem boundOption_of_given {validator : Float → Validator}
    (h : boundOption key validator path options = .ok validators)
    (hoption : options.get? key = some option) :
    ∃ bound, option.asFloat? = some bound ∧ validators = [validator bound] := by
  rcases boundOption_eq_ok_iff.1 h with ⟨hnone, _⟩ | ⟨other, bound, hsome, hbound, hall⟩
  · cases hnone.symm.trans hoption
  · cases hsome.symm.trans hoption
    exact ⟨bound, hbound, hall⟩

theorem exists_enum_check (h : optionValidators type path options = .ok validators)
    (hoption : options.get? "enum" = some option) :
    ∃ allowed, option = .arr allowed ∧ enumValidator allowed ∈ validators := by
  obtain ⟨required, enum, pattern, min, max, -, henum, -, -, -, rfl⟩ :=
    optionValidators_eq_ok_iff.1 h
  rcases enumOption_eq_ok_iff.1 henum with ⟨hnone, _⟩ | ⟨allowed, hsome, rfl⟩
  · cases hnone.symm.trans hoption
  · cases hsome.symm.trans hoption
    exact ⟨allowed, rfl, by simp⟩

theorem exists_match_check (h : optionValidators type path options = .ok validators)
    (hoption : options.get? "match" = some option) :
    ∃ source pattern, option = .str source ∧ Pattern.ofText source = .ok pattern ∧
      matchValidator pattern ∈ validators := by
  obtain ⟨required, enum, pattern, min, max, -, -, hpattern, -, -, rfl⟩ :=
    optionValidators_eq_ok_iff.1 h
  rcases matchOption_eq_ok_iff.1 hpattern with ⟨hnone, _⟩ | ⟨source, found, hsome, htext, rfl⟩
  · cases hnone.symm.trans hoption
  · cases hsome.symm.trans hoption
    exact ⟨source, found, rfl, htext, by simp⟩

/-- A bound that is given is checked. -/
theorem exists_bound_check {validator : Float → Validator} (hkey : BoundCheck type key validator)
    (h : optionValidators type path options = .ok validators)
    (hoption : options.get? key = some option) :
    ∃ bound, option.asFloat? = some bound ∧ validator bound ∈ validators := by
  obtain ⟨required, enum, pattern, min, max, -, -, -, hmin, hmax, rfl⟩ :=
    optionValidators_eq_ok_iff.1 h
  obtain ⟨asked, hasked, hsubset⟩ : ∃ asked, boundOption key validator path options = .ok asked ∧
      asked ⊆ required ++ enum ++ pattern ++ min ++ max := by
    cases hkey with
    | min => exact ⟨min, hmin, fun _ hmem => by simp [hmem]⟩
    | max => exact ⟨max, hmax, fun _ hmem => by simp [hmem]⟩
  obtain ⟨bound, hbound, rfl⟩ := boundOption_of_given hasked hoption
  exact ⟨bound, hbound, hsubset List.mem_cons_self⟩

end

end RecordSchema
