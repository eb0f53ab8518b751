/-!
# Floating point magnitudes

A magnitude is `mantissa * 2 ^ exponent` with at most 53 bits in the mantissa and
an exponent from -1074 to 971. `Magnitude.nearest?` rounds a quotient of natural
numbers to the nearest magnitude, and every operation is the exact result so
rounded: a point halfway between two magnitudes goes to the even mantissa.
-/

namespace TypedClient.Decimal

/-- The number `mantissa * 2 ^ exponent`. -/
structure Magnitude where
  /-- The significant bits, at most 53 of them. -/
  mantissa : Nat
  /-- The power of two that they are counted in. -/
  exponent : Int
  deriving DecidableEq, Repr

namespace Magnitude

/-- The least exponent of a magnitude. -/
def minExponent : Int := -1074

/-- The greatest exponent of a magnitude. -/
def maxExponent : Int := 971

/-- The mantissa with the highest of its bits alone. -/
def topBit : Nat := 0x10000000000000

/-- Zero. -/
def zero : Magnitude := ⟨0, minExponent⟩

/-- A quotient rounded to the nearest whole number, halves to the even one. -/
def roundQuotient (num den : Nat) : Nat :=
  let q := num / den
  let r := num % den
  if den < 2 * r || (2 * r == den && q % 2 == 1) then q + 1 else q

/-- The quotient `num / den * 2 ^ (- exponent)` as a pair of natural numbers. -/
def scaled (num den : Nat) (exponent : Int) : Nat × Nat :=
  if exponent < 0 then (num * Nat.pow 2 (-exponent).toNat, den)
  else (num, den * Nat.pow 2 exponent.toNat)

/-- The whole part of the logarithm to base two of a positive quotient. -/
def floorLog (num den : Nat) : Int :=
  let guess : Int := (num.log2 : Int) - (den.log2 : Int)
  let (n, d) := scaled num den guess
  if n < d then guess - 1 else guess

/-- The magnitude nearest to a quotient; none if the quotient is too large for any. -/
def nearest? (num den : Nat) : Option Magnitude :=
  if num = 0 then some zero
  else
    let exponent := max (floorLog num den - 52) minExponent
    let (n, d) := scaled num den exponent
    let mantissa := roundQuotient n d
    let rounded : Magnitude :=
      if mantissa = 2 * topBit then ⟨topBit, exponent + 1⟩ else ⟨mantissa, exponent⟩
    if maxExponent < rounded.exponent then none else some rounded

/-- A magnitude as a quotient of natural numbers. -/
def toQuotient (x : Magnitude) : Nat × Nat :=
  if x.exponent < 0 then (x.mantissa, Nat.pow 2 (-x.exponent).toNat)
  else (x.mantissa * Nat.pow 2 x.exponent.toNat, 1)

/-- The product of two magnitudes, rounded. -/
def mul? (x y : Magnitude) : Option Magnitude :=
  nearest? (x.toQuotient.1 * y.toQuotient.1) (x.toQuotient.2 * y.toQuotient.2)

/-- The quotient of two magnitudes, rounded. -/
def div? (x y : Magnitude) : Option Magnitude :=
  nearest? (x.toQuotient.1 * y.toQuotient.2) (x.toQuotient.2 * y.toQuotient.1)

/-- The magnitude nearest to a power of ten. -/
def powTen? (n : Nat) : Option Magnitude :=
  nearest? (Nat.pow 10 n) 1

/-- The greatest power of ten that one step of scaling multiplies or divides by. -/
def maxPower : Nat := 308

/-- A magnitude divided by `p` so many times, or until nothing is left of it. -/
def divRepeat? (p : Magnitude) : Nat → Magnitude → Option Magnitude
  | 0, x => some x
  | n + 1, x => if x.mantissa = 0 then some x else (x.div? p).bind (divRepeat? p n)

/-- A magnitude times a power of ten, by one product or quotient with a power of ten that is a
magnitude itself. What is missing to a power of ten below the least of these is divided out
first, in steps of the greatest. None if the result is too large. -/
def timesPowTen? (x : Magnitude) (power : Int) : Option Magnitude :=
  if 0 ≤ power then
    if power ≤ maxPower then (powTen? power.toNat).bind x.mul?
    else if x.mantissa = 0 then some x
    else none
  else
    let down := (-power).toNat
    let steps := (down - 1) / maxPower
    (powTen? maxPower).bind fun greatest =>
      (divRepeat? greatest steps x).bind fun y =>
        (powTen? (down - steps * maxPower)).bind y.div?

end Magnitude

end TypedClient.Decimal
