import Dialogue.Decimal.Reading
import Dialogue.Json.Basic

/-!
# Numbers in JSON text

A number is an optional minus sign, digits without a needless zero, and an optional fraction and
power of ten. A number of digits alone is an integer as long as it fits 64 bits, signed or unsigned.
Every other number is computed in two roundings: its leading digits, as many as fit 64 bits, are
rounded to a floating-point number, and that is multiplied or divided by a power of ten. A number
too large is unreadable.
-/

namespace Dialogue.Json

/-- Extends a number by digits while it stays below `2 ^ 64` and counts the digits that are left. -/
def extend (n : Nat) : List Char → Nat × Nat
  | [] => (n, 0)
  | d :: rest =>
    let longer := Decimal.ofDigits [d] + 10 * n
    if longer < Decimal.twoTo 64 then extend longer rest else (n, rest.length + 1)

/-- A power of ten as a floating-point number. -/
def powerOfTen (n : Nat) : Float := Decimal.nearest false (Decimal.tenTo n) 1

/-- A floating-point number times a power of ten, unless it is too large. -/
def scale? (x : Float) (exponent : Int) : Option Float :=
  let size := exponent.natAbs
  if x == 0 then some x
  else if 0 ≤ exponent then
    if size ≤ 308 then
      let y := x * powerOfTen size
      if y.isInf then none else some y
    else none
  else if size ≤ 308 then some (x / powerOfTen size)
  else if size ≤ 616 then some (x / powerOfTen 308 / powerOfTen (size - 308))
  else some 0

/-- The decimal of a sign, a natural number and a power of ten. -/
def ofScientific (negative : Bool) (n : Nat) (exponent : Int) : Json :=
  match scale? (Decimal.nearest false n 1) exponent with
  | some x => .decimal (if negative then -x else x)
  | none => .unreadable

/-- The number of a sign and digits alone. -/
def ofWhole (negative : Bool) (digits : List Char) : Json :=
  match extend 0 digits with
  | (n, 0) =>
    if !negative then .integer n
    else if 0 < n ∧ n ≤ Decimal.twoTo 63 then .integer (-n)
    else ofScientific true n 0
  | (n, left) => ofScientific negative n left

/-- The number of a sign, digits before and behind the point, and a power of ten. -/
def ofParts (negative : Bool) (digits fraction : List Char) (exponent : Int) : Json :=
  let (n, left) := extend 0 digits
  let (n, unread) := extend n fraction
  let place : Int := left - (fraction.length - unread : Nat)
  if exponent.natAbs < Decimal.twoTo 31 then ofScientific negative n (place + exponent)
  else if 0 < n ∧ 0 < exponent then .unreadable
  else ofScientific negative 0 0

/-- A non-empty run of digits, and the rest. -/
def takeDigits? (cs : List Char) : Option (List Char × List Char) :=
  match cs.takeWhile Char.isDigit with
  | [] => none
  | digits => some (digits, cs.dropWhile Char.isDigit)

/-- The fraction behind the digits of a number, if there is one, and the rest. -/
def takeFraction? : List Char → Option (List Char × List Char)
  | '.' :: rest => takeDigits? rest
  | cs => some ([], cs)

/-- The power of ten behind the digits of a number, if there is one, and the rest. -/
def takeExponent? (cs : List Char) : Option (Option Int × List Char) :=
  match cs with
  | e :: rest =>
    if e = 'e' ∨ e = 'E' then do
      let (negative, rest) := Decimal.takeSign rest
      let (digits, rest) ← takeDigits? rest
      let n : Int := Decimal.ofDigits digits
      return (some (if negative then -n else n), rest)
    else some (none, cs)
  | [] => some (none, [])

/-- The number at the start of a text, and the rest. -/
def takeNumber? (cs : List Char) : Option (Json × List Char) := do
  let (negative, cs) := match cs with
    | '-' :: rest => (true, rest)
    | cs => (false, cs)
  let (digits, rest) ← takeDigits? cs
  if digits.head? = some '0' ∧ 1 < digits.length then none
  let (fraction, rest) ← takeFraction? rest
  let (exponent, rest) ← takeExponent? rest
  let number := match fraction, exponent with
    | [], none => ofWhole negative digits
    | fraction, exponent => ofParts negative digits fraction (exponent.getD 0)
  return (number, rest)

end Dialogue.Json
