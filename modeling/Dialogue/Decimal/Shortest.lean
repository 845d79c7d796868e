import Dialogue.Decimal.Binary

/-!
# Shortest decimals

The decimal with the fewest digits that reads back as a given floating-point number, the nearest to
the number where several have that many digits. Which of two equally near it is, a `Tie` says.
`Layout.write` lays out its digits.
-/

namespace Dialogue.Decimal

/-- The number `digits * 10 ^ exponent`. -/
structure Digits where
  digits : Nat
  exponent : Int
  deriving DecidableEq, Repr

/-- Which of two neighbours on a grid stands for a number halfway between them. -/
inductive Tie where
  /-- The one with the even last digit. -/
  | toEven
  /-- The one farther from zero. -/
  | awayFromZero
  deriving DecidableEq, Repr

/-- The chosen one of a grid point and the next above it, counted from zero. -/
def Tie.choose (tie : Tie) (low : Nat) : Nat :=
  match tie with
  | toEven => low + low % 2
  | awayFromZero => low + 1

/-- How many decimal digits a number has; one for zero. -/
def digitCount (n : Nat) : Nat := (Nat.toDigits 10 n).length

/-- The place of the first digit of a positive fraction: the least power of ten above it. -/
def leadingPlace (num den : Nat) : Int :=
  if den ≤ num then digitCount (num / den) else 1 - digitCount (den / num)

/-- A number in units of a quarter of the distance to its neighbour above, and the lowest and
highest of the values that are nearest to it, in the same units. -/
structure Neighbourhood where
  value : Nat
  low : Nat
  high : Nat
  /-- The power of two of the unit. -/
  unit : Int
  /-- Whether the two ends read back as the number. -/
  closed : Bool

/-- The neighbourhood of a positive number. Below a power of two the next number is nearer, save
where the exponent is the least. -/
def Neighbourhood.of (mantissa : Nat) (exponent : Int) : Neighbourhood where
  value := 4 * mantissa
  low := if mantissa = twoTo 52 ∧ -1074 < exponent then 4 * mantissa - 1 else 4 * mantissa - 2
  high := 4 * mantissa + 2
  unit := exponent - 2
  closed := mantissa % 2 = 0

/-- The decimal nearest to a number among the multiples of `10 ^ place` in its neighbourhood. -/
def Neighbourhood.onGrid? (b : Neighbourhood) (tie : Tie) (place : Int) : Option Digits :=
  let (units, parts) := scaled 1 1 b.unit
  let grid := tenTo place.toNat * parts
  let fine := tenTo (-place).toNat * units
  let low := b.value * fine / grid
  let inside (digits : Nat) : Bool :=
    let point := digits * grid
    if b.closed then b.low * fine ≤ point && point ≤ b.high * fine
    else b.low * fine < point && point < b.high * fine
  let below := b.value * fine - low * grid
  let above := (low + 1) * grid - b.value * fine
  let first := if below < above then low else if above < below then low + 1 else tie.choose low
  let second := if first = low then low + 1 else low
  if inside first then some ⟨first, place⟩
  else if inside second then some ⟨second, place⟩
  else none

/-- The first decimal found with as many digits as the fuel allows, from `count` on. -/
def Neighbourhood.search (b : Neighbourhood) (tie : Tie) (leading : Int) (count : Nat) :
    Nat → Digits
  | 0 => ⟨0, 0⟩
  | fuel + 1 =>
    match b.onGrid? tie (leading - count) with
    | some d => if d.digits = 10 then ⟨1, d.exponent + 1⟩ else d
    | none => b.search tie leading (count + 1) fuel

/-- The decimal of the fewest digits that reads back as the number `mantissa * 2 ^ exponent`.
Seventeen digits always do. -/
def shortest (tie : Tie) (mantissa : Nat) (exponent : Int) : Digits :=
  if mantissa = 0 then ⟨0, 0⟩
  else
    let (num, den) := scaled mantissa 1 exponent
    (Neighbourhood.of mantissa exponent).search tie (leadingPlace num den) 1 17

/-- How the digits of a number are chosen and laid out. -/
structure Layout where
  /-- The least power of ten of a first digit in a number written out in full, if there is one. -/
  leastExponent : Option Int
  /-- The greatest such power, if there is one. -/
  greatestExponent : Option Int
  /-- Whether a whole number that is written out in full is followed by a point and a zero. -/
  pointZero : Bool
  /-- Which of two equally near decimals is written. -/
  tie : Tie

/-- Whether a number is written out in full, by the power of ten of its first digit. -/
def Layout.positional (l : Layout) (exponent : Int) : Bool :=
  l.leastExponent.all (· ≤ exponent) && l.greatestExponent.all (exponent ≤ ·)

/-- The digits of a number around a point, `place` of them before it. -/
def positionalDigits (digits : List Char) (place : Int) (pointZero : Bool) : List Char :=
  if place ≤ 0 then '0' :: '.' :: List.replicate (-place).toNat '0' ++ digits
  else
    let whole := digits.take place.toNat ++ List.replicate (place.toNat - digits.length) '0'
    match digits.drop place.toNat with
    | [] => if pointZero then whole ++ ['.', '0'] else whole
    | fraction => whole ++ '.' :: fraction

/-- The digits of a number with one of them before the point, and its power of ten. -/
def exponentialDigits (digits : List Char) (exponent : Int) : List Char :=
  let mark := if exponent < 0 then ['e', '-'] else ['e', '+']
  let head := match digits with
    | first :: second :: rest => first :: '.' :: second :: rest
    | short => short
  head ++ mark ++ Nat.toDigits 10 exponent.natAbs

/-- The text of the number `mantissa * 2 ^ exponent` with a sign. -/
def Layout.write (l : Layout) (negative : Bool) (mantissa : Nat) (exponent : Int) : String :=
  let decimal := shortest l.tie mantissa exponent
  let digits := Nat.toDigits 10 decimal.digits
  let power : Int := if decimal.digits = 0 then 0 else digits.length + decimal.exponent - 1
  let body := if l.positional power then positionalDigits digits (power + 1) l.pointZero
    else exponentialDigits digits power
  String.ofList (if negative then '-' :: body else body)

/-- Numbers in messages are written out in full, and of two equally near decimals the one farther
from zero. -/
def messageLayout : Layout := ⟨none, none, false, .awayFromZero⟩

/-- A number as in messages. -/
def plain (x : Float) : String :=
  match Binary.ofFloat x with
  | .notANumber => "NaN"
  | .infinite negative => if negative then "-inf" else "inf"
  | .finite negative mantissa exponent => messageLayout.write negative mantissa exponent

end Dialogue.Decimal
