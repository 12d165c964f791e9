import RecordSchema.Decimal.Reader
import RecordSchema.Json.Basic
import RecordSchema.Toml.Moment

/-!
# TOML scalars without quotes

Truth values, whole numbers in four bases, floating point numbers and points in time are written
as bare words.

## Main definitions

* `TomlScalar.ofWord?`: the value of a bare word.
-/

namespace RecordSchema

namespace TomlScalar

/-- Digits of one kind with single underscores between them; the digits without the underscores. -/
def digits? (isDigit : Char → Bool) (s : List Char) : Option (List Char) :=
  let groups := s.splitOn '_'
  if groups.all fun group => !group.isEmpty && group.all isDigit then some groups.flatten else none

/-- Decimal digits without a leading zero. -/
def decimalDigits? (s : List Char) : Option (List Char) :=
  match digits? Char.isDigit s with
  | some ('0' :: _ :: _) => none
  | other => other

/-- A whole number that fits a signed 64-bit word. -/
def fitted? (n : Int) : Option Json :=
  if Word64.fitsSigned n then some (.ofInt n) else none

/-- The value of a digit in bases up to sixteen. -/
def digitOf (c : Char) : Nat :=
  if c.isDigit then digitValue c else c.toLower.toNat - 'a'.toNat + 10

/-- A whole number in a base other than ten. -/
def based? (base : Nat) (s : List Char) : Option Json :=
  let isDigit (c : Char) : Bool := c.isAlphanum && digitOf c < base
  (digits? isDigit s).bind fun digits =>
    fitted? (digits.foldl (fun n c => n * base + digitOf c) 0 : Nat)

/-- A whole number. -/
def integer? (s : List Char) : Option Json :=
  match s with
  | '0' :: 'x' :: rest => based? 16 rest
  | '0' :: 'o' :: rest => based? 8 rest
  | '0' :: 'b' :: rest => based? 2 rest
  | _ =>
    let (negative, body) := spanSign s
    (decimalDigits? body).bind fun digits =>
      let size : Int := digitsValue digits
      fitted? (if negative then -size else size)

/-- The fraction and exponent of a floating point number: at least one of them, each with digits. -/
def isFloatTail (s : List Char) : Bool :=
  let (fraction, exponent) := (s.takeWhile fun c => c ≠ 'e' && c ≠ 'E',
    s.dropWhile fun c => c ≠ 'e' && c ≠ 'E')
  let fractionOk := match fraction with
    | [] => !exponent.isEmpty
    | '.' :: digits => (digits? Char.isDigit digits).isSome
    | _ => false
  let exponentOk := match exponent with
    | [] => true
    | _ :: rest => (digits? Char.isDigit (spanSign rest).2).isSome
  fractionOk && exponentOk

/-- A floating point number. Digits must not stand for more than the largest one. -/
def float? (s : List Char) : Option Json := do
  let (_, body) := spanSign s
  let x ← readFloat? (String.ofList (s.filter (· ≠ '_')))
  let whole := body.takeWhile fun c => c.isDigit || c = '_'
  let isSpecial := body = "inf".toList || body = "nan".toList
  let isPlain := (decimalDigits? whole).isSome && isFloatTail (body.drop whole.length)
  if isSpecial || (isPlain && x != 1.0 / 0.0) then some (.num (.float x)) else none

/-- The value of a bare word. -/
def ofWord? (s : List Char) : Option Json :=
  if s = "true".toList then some (.bool true)
  else if s = "false".toList then some (.bool false)
  else
    let moment := if Moment.isWord s then some (Moment.table (String.ofList s)) else none
    (integer? s).or ((float? s).or moment)

end TomlScalar

end RecordSchema
