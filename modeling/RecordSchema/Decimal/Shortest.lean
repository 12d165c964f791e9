/-!
# The fewest decimal digits of a floating point number

A binary floating point number stands for every real number that rounds to it. Among the
decimals in that interval the *shortest* ones have the fewest digits, and of those the nearest
to the number itself is the one that is written.

All arithmetic is exact and on natural numbers: the number is `mantissa * 2 ^ exponent`, and
both the number and the ends of its interval are put over one denominator.

## Main definitions

* `Binary64`: sign, mantissa and exponent of a finite number, read off its bits.
* `Decimal`: a digit string and the power of ten of its last digit.
* `Binary64.shortest`: the shortest decimal, with a rule for exact ties.

## Termination

`Binary64.search` counts the digits still allowed; seventeen digits always suffice.
-/

namespace RecordSchema

/-- A finite floating point number, `± mantissa * 2 ^ exponent`. -/
structure Binary64 where
  /-- Whether the sign bit is set. -/
  negative : Bool
  /-- The mantissa, below `2 ^ 53`. -/
  mantissa : Nat
  /-- The power of two, at least `-1074`. -/
  exponent : Int
deriving DecidableEq, Repr

/-- A decimal number, `digits * 10 ^ exponent`. -/
structure Decimal where
  /-- The digits, read as a number. -/
  digits : Nat
  /-- The power of ten of the last digit. -/
  exponent : Int
deriving DecidableEq, Repr

/-- Which of two equally near decimals is taken. -/
inductive Tie where
  /-- The one whose last digit is even. -/
  | toEven
  /-- The larger one. -/
  | up
deriving DecidableEq, Repr

namespace Decimal

/-- Drops up to `limit` zeros at the end of the digits. -/
def trimZeros : Nat → Decimal → Decimal
  | 0, d => d
  | limit + 1, d =>
    if d.digits ≠ 0 ∧ d.digits % 10 = 0 then trimZeros limit ⟨d.digits / 10, d.exponent + 1⟩ else d

end Decimal

namespace Binary64

/-- Reads the parts of a number off its bits; `none` for infinities and not-a-number. -/
def ofFloat? (x : Float) : Option Binary64 :=
  let bits := x.toBits.toNat
  let biased : Nat := bits / 0x10000000000000 % 0x800
  let fraction : Nat := bits % 0x10000000000000
  if biased = 0x7FF then none
  else if biased = 0 then some ⟨bits / 0x8000000000000000 = 1, fraction, -1074⟩
  else some ⟨bits / 0x8000000000000000 = 1, 0x10000000000000 + fraction, (biased : Int) - 1075⟩

/-- The number and the two ends of its rounding interval, in units of a power of ten:
`value / unit`, `low / unit` and `high / unit`. -/
structure Interval where
  /-- The number itself. -/
  value : Nat
  /-- The lower end. -/
  low : Nat
  /-- The upper end. -/
  high : Nat
  /-- The common denominator. -/
  unit : Nat
  /-- Whether the ends themselves round to the number. -/
  closed : Bool

/-- The interval of a number on the grid of multiples of `10 ^ place`. The lower end is only a
quarter step away when the number is the least of its binade. -/
def interval (x : Binary64) (place : Int) : Interval :=
  let scale := Nat.pow 2 (x.exponent - 2).toNat * Nat.pow 10 (-place).toNat
  let below : Nat := if x.mantissa = 0x10000000000000 ∧ x.exponent ≠ -1074 then 1 else 2
  { value := 4 * x.mantissa * scale
    low := (4 * x.mantissa - below) * scale
    high := (4 * x.mantissa + 2) * scale
    unit := Nat.pow 2 (2 - x.exponent).toNat * Nat.pow 10 place.toNat
    closed := x.mantissa % 2 = 0 }

/-- Whether the multiple `n` of the grid lies in the interval. -/
def Interval.holds (i : Interval) (n : Nat) : Bool :=
  if i.closed then i.low ≤ n * i.unit && n * i.unit ≤ i.high
  else i.low < n * i.unit && n * i.unit < i.high

/-- The multiple of the grid that lies in the interval and is nearest to the number. -/
def Interval.nearest? (i : Interval) (tie : Tie) : Option Nat :=
  let floor := i.value / i.unit
  let above := i.value - floor * i.unit
  let below := (floor + 1) * i.unit - i.value
  let first :=
    if above < below then floor
    else if below < above then floor + 1
    else match tie with
      | .toEven => if floor % 2 = 0 then floor else floor + 1
      | .up => floor + 1
  let second := if first = floor then floor + 1 else floor
  if i.holds first then some first else if i.holds second then some second else none

/-- The power of ten of the first digit of a positive number: `10 ^ e ≤ x < 10 ^ (e + 1)`. -/
def leadingPlace (x : Binary64) : Int :=
  let guess := Int.fdiv ((x.mantissa.log2 + x.exponent) * 30103) 100000
  let atLeast (e : Int) : Bool := let i := x.interval e; i.unit ≤ i.value
  if atLeast (guess + 1) then guess + 1 else if atLeast guess then guess else guess - 1

/-- Tries one digit more at a time, from the leading place downwards. -/
def search (x : Binary64) (tie : Tie) (leading : Int) (count : Nat) : Nat → Decimal
  | 0 => ⟨0, 0⟩
  | more + 1 =>
    let place := leading - count
    match (x.interval place).nearest? tie with
    | some digits => ⟨digits, place⟩
    | none => search x tie leading (count + 1) more

/-- The shortest decimal that reads back as the number's size, without zeros at its end. -/
def shortest (x : Binary64) (tie : Tie) : Decimal :=
  if x.mantissa = 0 then ⟨0, 0⟩ else (x.search tie x.leadingPlace 0 17).trimZeros 17

end Binary64

end RecordSchema
