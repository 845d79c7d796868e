/-!
# Binary floating-point numbers as fractions

A finite number is a sign, a natural mantissa and a power of two. `Binary.ofFloat` reads this form
from the bits of a number and `nearestBits` finds the bits of the number nearest to a fraction; all
else that is exact about floating point (reading and writing decimals, counting nanoseconds) is
arithmetic on naturals.
-/

namespace Dialogue.Decimal

/-- A power of two. -/
def twoTo (n : Nat) : Nat := Nat.pow 2 n

/-- A power of ten. -/
def tenTo (n : Nat) : Nat := Nat.pow 10 n

/-- What the bits of a floating-point number stand for. -/
inductive Binary where
  | notANumber
  | infinite (negative : Bool)
  /-- The number `mantissa * 2 ^ exponent`, with a sign. -/
  | finite (negative : Bool) (mantissa : Nat) (exponent : Int)
  deriving DecidableEq, Repr

/-- The sign, mantissa and exponent of a number. -/
def Binary.ofFloat (x : Float) : Binary :=
  let bits : Nat := x.toBits.toNat
  let negative : Bool := bits / twoTo 63 = 1
  let field : Nat := bits / twoTo 52 % twoTo 11
  let fraction : Nat := bits % twoTo 52
  if field = 2047 then
    if fraction = 0 then .infinite negative else .notANumber
  else if field = 0 then .finite negative fraction (-1074)
  else .finite negative (twoTo 52 + fraction) ((field : Int) - 1075)

/-- Whether a number is neither infinite nor `NaN`. -/
def isFinite (x : Float) : Bool :=
  match Binary.ofFloat x with
  | .finite .. => true
  | _ => false

/-- A fraction times a power of two, as a pair of naturals. -/
def scaled (num den : Nat) (exponent : Int) : Nat × Nat :=
  if 0 ≤ exponent then (num * twoTo exponent.toNat, den) else (num, den * twoTo (-exponent).toNat)

/-- The natural nearest to a fraction; of two equally near, the even one. -/
def roundToEven (num den : Nat) : Nat :=
  let low := num / den
  let twice := 2 * (num % den)
  if twice < den then low
  else if den < twice then low + 1
  else low + low % 2

/-- The power of two under which the mantissa of a fraction is a whole number of 53 bits, or the
least power that a number can have. -/
def mantissaExponent (num den : Nat) : Int :=
  let guess : Int := max (Nat.log2 num - Nat.log2 den - 53) (-1074)
  let (n, d) := scaled num den (-guess)
  if n / d < twoTo 53 then guess else guess + 1

/-- The bits of infinity. -/
def infinityBits : Nat := 2047 * twoTo 52

/-- The bits of the number nearest to a non-negative fraction; of two equally near, the one with
the even mantissa, and infinity beyond the largest. -/
def nearestBits (num den : Nat) : Nat :=
  if num = 0 then 0
  else
    let exponent := mantissaExponent num den
    let (n, d) := scaled num den (-exponent)
    let mantissa := roundToEven n d
    if mantissa < twoTo 52 then mantissa
    else min ((exponent + 1074).toNat * twoTo 52 + mantissa) infinityBits

/-- The number with the given sign and the given bits below the sign. -/
def signedFloat (negative : Bool) (bits : Nat) : Float :=
  Float.ofBits (UInt64.ofNat (if negative then twoTo 63 + bits else bits))

/-- The number nearest to a fraction with a sign. -/
def nearest (negative : Bool) (num den : Nat) : Float := signedFloat negative (nearestBits num den)

/-- The number nearest to a whole number. -/
def ofInteger (i : Int) : Float := nearest (i < 0) i.natAbs 1

end Dialogue.Decimal
