import RecordSchema.Decimal.Word64

/-!
# Reading numbers from decimal text

Two readers of floating point text are kept apart. `readFloat?` takes the free-standing form
(`.5`, `1.`, `+2e3`, `inf`, `nan`) and rounds the exact decimal to the nearest number. `scale?`
is the quick rule used for numbers inside JSON text: a 64-bit significand is converted first and
then multiplied or divided once by a power of ten, so the last digit may be off.

## Main definitions

* `digitsValue`: the value of a run of decimal digits.
* `readInteger?`, `readInt64?`, `readUInt64?`: signed and unsigned whole numbers.
* `readFloat?`: a floating point number, correctly rounded.
* `scale?`: significand times power of ten, with the quick rule.

## Termination

`scaleDown` takes 308 off its exponent in each round.
-/

namespace RecordSchema

/-- The value of a decimal digit. -/
def digitValue (c : Char) : Nat :=
  c.toNat - '0'.toNat

/-- The value of a run of decimal digits, first digit first. -/
def digitsValue (digits : List Char) : Nat :=
  digits.foldl (fun n c => 10 * n + digitValue c) 0

/-- Splits off the run of decimal digits at the front. -/
def spanDigits (s : List Char) : List Char × List Char :=
  (s.takeWhile Char.isDigit, s.dropWhile Char.isDigit)

/-- Splits off a sign; the flag says whether it was a minus. -/
def spanSign : List Char → Bool × List Char
  | '-' :: rest => (true, rest)
  | '+' :: rest => (false, rest)
  | s => (false, s)

/-- A whole number of decimal digits with an optional sign. -/
def readInteger? (s : String) : Option Int :=
  let (negative, body) := spanSign s.toList
  if body.isEmpty || !body.all Char.isDigit then none
  else
    let size : Int := digitsValue body
    some (if negative then -size else size)

/-- A whole number that fits a signed 64-bit word. -/
def readInt64? (s : String) : Option Int :=
  (readInteger? s).filter Word64.fitsSigned

/-- A whole number that fits an unsigned 64-bit word; no minus sign, not even before zero. -/
def readUInt64? (s : String) : Option Nat :=
  if s.toList.head? = some '-' then none
  else ((readInteger? s).filter Word64.fitsUnsigned).map Int.toNat

/-- The floating point number nearest to `digits * 10 ^ exponent`, where `digits` has `length`
digits. Far outside the range of exponents the answer is infinity or zero without any large power
being formed. -/
def nearestFloat (digits : Nat) (length : Nat) (exponent : Int) : Float :=
  if digits = 0 then 0.0
  else if 400 < exponent + length then 1.0 / 0.0
  else if exponent + length < -400 then 0.0
  else if 0 ≤ exponent then Float.ofScientific digits false exponent.toNat
  else Float.ofScientific digits true (-exponent).toNat

/-- The exponent part after the digits: nothing, or `e`, an optional sign and digits. -/
def readExponent? : List Char → Option Int
  | [] => some 0
  | e :: rest =>
    if e = 'e' || e = 'E' then
      let (negative, digits) := spanSign rest
      if digits.isEmpty || !digits.all Char.isDigit then none
      else
        let size : Int := digitsValue digits
        some (if negative then -size else size)
    else none

/-- Digits with at most one point among them and an optional exponent. -/
def readUnsignedFloat? (s : List Char) : Option Float :=
  let (whole, afterWhole) := spanDigits s
  let (fraction, rest) := match afterWhole with
    | '.' :: afterPoint => spanDigits afterPoint
    | other => ([], other)
  if whole.isEmpty && fraction.isEmpty then none
  else (readExponent? rest).map fun exponent =>
    let digits := (whole ++ fraction).dropWhile (· = '0')
    nearestFloat (digitsValue digits) digits.length (exponent - fraction.length)

/-- A floating point number in free-standing text; `inf`, `infinity` and `nan` are read in any
letter case. -/
def readFloat? (s : String) : Option Float :=
  let (negative, body) := spanSign s.toList
  let word := body.map Char.toLower
  let size? :=
    if word = "inf".toList || word = "infinity".toList then some (1.0 / 0.0)
    else if word = "nan".toList then some (0.0 / 0.0)
    else readUnsignedFloat? body
  size?.map fun size => if negative then -size else size

/-- Divides by `10 ^ exponent`, in rounds of `10 ^ 308` while the exponent is larger. -/
def scaleDown (x : Float) (exponent : Nat) : Float :=
  if exponent ≤ 308 then x / Float.ofScientific 1 false exponent
  else if x == 0.0 then x
  else scaleDown (x / Float.ofScientific 1 false 308) (exponent - 308)
termination_by exponent

/-- The significand times a power of ten by one multiplication or by divisions; `none` when the
result is out of range. -/
def scale? (significand : Nat) (exponent : Int) : Option Float :=
  let x := Float.ofNat significand
  if exponent < 0 then some (scaleDown x exponent.natAbs)
  else if significand = 0 then some 0.0
  else if 308 < exponent then none
  else
    let scaled := x * Float.ofScientific 1 false exponent.toNat
    if scaled.isInf then none else some scaled

end RecordSchema
