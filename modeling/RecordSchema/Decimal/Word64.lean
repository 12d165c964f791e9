/-!
# The ranges of 64-bit words

Whole numbers are kept exact everywhere; these tests say which of them a word can hold.

## Main definitions

* `Word64.fitsSigned`, `Word64.fitsUnsigned`: the numbers of a signed and of an unsigned word.
-/

namespace RecordSchema

namespace Word64

/-- Whether a signed 64-bit word can hold a number: from `-2 ^ 63` up to `2 ^ 63`, which is the
first that it cannot hold. -/
def fitsSigned (n : Int) : Bool :=
  -0x8000000000000000 ≤ n && n < 0x8000000000000000

/-- Whether an unsigned 64-bit word can hold a number: from zero up to `2 ^ 64`, which is the first
that it cannot hold. -/
def fitsUnsigned (n : Int) : Bool :=
  0 ≤ n && n < 0x10000000000000000

theorem fitsSigned_iff {n : Int} :
    fitsSigned n = true ↔ -0x8000000000000000 ≤ n ∧ n < 0x8000000000000000 := by
  simp [fitsSigned]

end Word64

end RecordSchema
