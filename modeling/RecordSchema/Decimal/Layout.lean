import RecordSchema.Decimal.Shortest

/-!
# Written forms of numbers

Whole numbers are written in plain decimal. A floating point number is written with its shortest
digits, and a `FloatLayout` decides the rest: which exponents are spelled out with zeros, whether
a number without a fraction keeps `.0`, and where an exact tie goes.

## Main definitions

* `decimalText`: a natural number in base ten.
* `FloatLayout.write`: the text of a floating point number.
* `FloatLayout.json`, `FloatLayout.plain`: the two layouts in use.
-/

namespace RecordSchema

/-- The digits of a natural number in base ten. -/
def decimalText (n : Nat) : String :=
  String.ofList (Nat.toDigits 10 n)

/-- A whole number in base ten, with a minus sign when negative. -/
def integerText (n : Int) : String :=
  match n with
  | .ofNat n => decimalText n
  | .negSucc n => "-" ++ decimalText (n + 1)

/-- How a floating point number is laid out. -/
structure FloatLayout where
  /-- Which of two equally near digit strings is written. -/
  tie : Tie
  /-- The exponents of the first digit that are written without an exponent. -/
  positional : Int → Bool
  /-- Whether a number without a fraction ends in `.0`. -/
  fraction : Bool

namespace FloatLayout

/-- Numbers in JSON text: exponents from -5 to 15 are spelled out, always with a fraction, and
a tie goes to the even digit. -/
def json : FloatLayout where
  tie := .toEven
  positional e := -5 ≤ e && e < 16
  fraction := true

/-- Numbers in a sentence: never an exponent, never a trailing `.0`. -/
def plain : FloatLayout where
  tie := .up
  positional _ := true
  fraction := false

/-- Digits around a decimal point that stands after the digit of `10 ^ 0`. -/
def pointed (layout : FloatLayout) (digits : List Char) (leading : Int) : List Char :=
  if leading < 0 then
    '0' :: '.' :: (List.replicate (-leading - 1).toNat '0' ++ digits)
  else
    let whole := leading.toNat + 1
    if digits.length ≤ whole then
      digits ++ List.replicate (whole - digits.length) '0'
        ++ (if layout.fraction then ['.', '0'] else [])
    else digits.take whole ++ '.' :: digits.drop whole

/-- One digit before the point and an explicitly signed exponent. -/
def scientific (digits : List Char) (leading : Int) : List Char :=
  let sign := if leading < 0 then '-' else '+'
  let mantissa := match digits with
    | first :: second :: rest => first :: '.' :: second :: rest
    | short => short
  mantissa ++ 'e' :: sign :: Nat.toDigits 10 leading.natAbs

/-- The text of a finite number. -/
def writeFinite (layout : FloatLayout) (x : Binary64) : String :=
  let decimal := x.shortest layout.tie
  let digits := Nat.toDigits 10 decimal.digits
  let leading := decimal.exponent + (digits.length - 1 : Nat)
  let body := if layout.positional leading then layout.pointed digits leading
    else scientific digits leading
  String.ofList (if x.negative then '-' :: body else body)

/-- The text of a number; infinities and not-a-number have none and are written `null`. -/
def write (layout : FloatLayout) (x : Float) : String :=
  match Binary64.ofFloat? x with
  | some finite => layout.writeFinite finite
  | none => "null"

end FloatLayout

end RecordSchema
