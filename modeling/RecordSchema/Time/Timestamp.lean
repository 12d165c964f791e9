import RecordSchema.Decimal.Reader

/-!
# Points in time

A point in time is written as a date, a time of day and an offset from universal time
(`2024-02-29T23:59:60.5+01:00`), and stored as milliseconds since the start of 1970. The calendar
is Gregorian throughout. A sixtieth second is a leap second: it counts as the fifty-ninth with a
fraction between one and two.

## Main definitions

* `dayNumber`: days from the first of January 1970 to a date.
* `Timestamp`: the parts of a written point in time.
* `Timestamp.parse?`: reads one; nothing may be left over.
* `Timestamp.millis`: the milliseconds since the start of 1970, rounded down.
-/

namespace RecordSchema

/-- Whether a year has a 29th of February. -/
def isLeapYear (year : Nat) : Bool :=
  year % 4 == 0 && (year % 100 != 0 || year % 400 == 0)

/-- The number of days of a month, zero when there is no such month. -/
def daysInMonth (year month : Nat) : Nat :=
  match month with
  | 1 | 3 | 5 | 7 | 8 | 10 | 12 => 31
  | 4 | 6 | 9 | 11 => 30
  | 2 => if isLeapYear year then 29 else 28
  | _ => 0

/-- Days from the first of January 1970 to a date. Years are counted from March, so that the leap
day is the last of its year. -/
def dayNumber (year month day : Nat) : Int :=
  let marchYear : Int := if month < 3 then (year : Int) - 1 else year
  let marchMonth : Int := if month < 3 then (month : Int) + 9 else (month : Int) - 3
  365 * marchYear + Int.fdiv marchYear 4 - Int.fdiv marchYear 100 + Int.fdiv marchYear 400
    + Int.fdiv (153 * marchMonth + 2) 5 + (day : Int) - 719469

/-- A date, a time of day and an offset from universal time. -/
structure Timestamp where
  /-- The year. -/
  year : Nat
  /-- The month, from 1. -/
  month : Nat
  /-- The day of the month, from 1. -/
  day : Nat
  /-- The hour. -/
  hour : Nat
  /-- The minute. -/
  minute : Nat
  /-- The second, 60 in a leap second. -/
  second : Nat
  /-- The nanoseconds of the second. -/
  nanosecond : Nat
  /-- The offset from universal time in minutes, positive to the east. -/
  offset : Int
deriving DecidableEq, Repr

namespace Timestamp

/-- Reads exactly `count` digits. -/
def digits? (count : Nat) (s : List Char) : Option (Nat × List Char) :=
  let taken := s.take count
  if taken.length = count && taken.all Char.isDigit then some (digitsValue taken, s.drop count)
  else none

/-- Reads one given character. -/
def mark? (c : Char) : List Char → Option (List Char)
  | d :: rest => if c = d then some rest else none
  | [] => none

/-- Reads the letter or blank between date and time. -/
def separator? : List Char → Option (List Char)
  | c :: rest => if c = 't' || c = 'T' || c = ' ' then some rest else none
  | [] => none

/-- Reads the fraction of a second in nanoseconds: at least one digit after the point, of which
nine count. -/
def fraction? : List Char → Option (Nat × List Char)
  | '.' :: rest =>
    let (digits, after) := spanDigits rest
    let kept := digits.take 9
    if digits.isEmpty then none else some (digitsValue kept * Nat.pow 10 (9 - kept.length), after)
  | s => some (0, s)

/-- Reads an offset: `Z`, or a sign, hours and minutes. -/
def offset? : List Char → Option (Int × List Char)
  | [] => none
  | c :: rest =>
    if c = 'Z' || c = 'z' then some (0, rest)
    else if c = '+' || c = '-' || c = '−' then do
      let (hours, rest) ← digits? 2 rest
      let rest ← mark? ':' rest
      let (minutes, rest) ← digits? 2 rest
      if hours < 24 && minutes < 60 then
        let size : Int := (60 * hours + minutes : Nat)
        some (if c = '+' then size else -size, rest)
      else none
    else none

/-- Whether the date is in the calendar and the time of day on the clock. -/
def isValid (t : Timestamp) : Bool :=
  1 ≤ t.day && t.day ≤ daysInMonth t.year t.month && t.hour < 24 && t.minute < 60 && t.second ≤ 60

/-- Reads a whole text as a point in time. -/
def parse? (text : String) : Option Timestamp := do
  let (year, s) ← digits? 4 text.toList
  let s ← mark? '-' s
  let (month, s) ← digits? 2 s
  let s ← mark? '-' s
  let (day, s) ← digits? 2 s
  let s ← separator? s
  let (hour, s) ← digits? 2 s
  let s ← mark? ':' s
  let (minute, s) ← digits? 2 s
  let s ← mark? ':' s
  let (second, s) ← digits? 2 s
  let (nanosecond, s) ← fraction? s
  let (offset, s) ← offset? s
  let t : Timestamp := { year, month, day, hour, minute, second, nanosecond, offset }
  if s.isEmpty && t.isValid then some t else none

/-- Seconds since the start of 1970 in universal time, a leap second counted as the one before. -/
def seconds (t : Timestamp) : Int :=
  dayNumber t.year t.month t.day * 86400
    + ((t.hour * 60 + t.minute) * 60 + min t.second 59 : Nat) - t.offset * 60

/-- Milliseconds since the start of 1970, the rest of the fraction dropped. -/
def millis (t : Timestamp) : Int :=
  t.seconds * 1000
    + ((if t.second = 60 then t.nanosecond + 1000000000 else t.nanosecond) / 1000000 : Nat)

end Timestamp

end RecordSchema
