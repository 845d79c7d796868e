import Dialogue.Decimal.Shortest

/-!
# Reading numbers

The numbers that text can spell: an optional sign, then decimal digits with an optional point and
an optional power of ten, or a word for infinity or for no number. Blanks and separators are no part
of a number. What is read is the floating-point number nearest to what is written.
-/

namespace Dialogue.Decimal

/-- The natural number that a list of decimal digits spells. -/
def ofDigits (digits : List Char) : Nat := digits.foldl (fun n c => 10 * n + (c.toNat - 48)) 0

/-- The floating-point number nearest to a decimal with a sign. A decimal far outside the range of
these numbers is infinite or zero. -/
def nearestDecimal (negative : Bool) (d : Digits) : Float :=
  let magnitude := digitCount d.digits + d.exponent
  if d.digits = 0 ∨ magnitude < -400 then signedFloat negative 0
  else if 400 < magnitude then signedFloat negative infinityBits
  else nearest negative (d.digits * tenTo d.exponent.toNat) (tenTo (-d.exponent).toNat)

/-- A sign in front of a text, and the rest. A missing sign is positive. -/
def takeSign : List Char → Bool × List Char
  | '-' :: rest => (true, rest)
  | '+' :: rest => (false, rest)
  | cs => (false, cs)

/-- The power of ten behind the digits of a number: nothing, or a letter and a whole number. -/
def exponentPart? : List Char → Option Int
  | [] => some 0
  | e :: rest =>
    let (negative, digits) := takeSign rest
    if (e = 'e' ∨ e = 'E') ∧ digits ≠ [] ∧ digits.all Char.isDigit then
      some (if negative then -(ofDigits digits : Int) else ofDigits digits)
    else none

/-- The decimal that a text without sign spells. There is a digit before the point or behind it. -/
def unsigned? (cs : List Char) : Option Digits :=
  let whole := cs.takeWhile Char.isDigit
  let rest := cs.dropWhile Char.isDigit
  let (fraction, rest) := match rest with
    | '.' :: rest => (rest.takeWhile Char.isDigit, rest.dropWhile Char.isDigit)
    | rest => ([], rest)
  if whole = [] ∧ fraction = [] then none
  else (exponentPart? rest).map fun exponent =>
    ⟨ofDigits (whole ++ fraction), exponent - fraction.length⟩

/-- The number that a text spells. -/
def parse? (s : String) : Option Float :=
  let (negative, cs) := takeSign s.toList
  let word := String.ofList (cs.map Char.toLower)
  if word = "nan" then some (Float.ofBits 0x7ff8000000000000)
  else if word = "inf" ∨ word = "infinity" then some (signedFloat negative infinityBits)
  else (unsigned? cs).map (nearestDecimal negative)

/-- The natural number that a text spells in decimal digits, a plus sign allowed in front, if it is
below `2 ^ 64`. -/
def natural? (s : String) : Option Nat :=
  let digits := match s.toList with
    | '+' :: rest => rest
    | cs => cs
  if digits ≠ [] ∧ digits.all Char.isDigit then
    let n := ofDigits digits
    if n < twoTo 64 then some n else none
  else none

end Dialogue.Decimal
