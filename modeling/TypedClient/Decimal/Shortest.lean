import TypedClient.Decimal.Magnitude

/-!
# The fewest digits that read back

`Shortest.digits` gives a positive magnitude as a decimal with as few digits as
any decimal that rounds to it, and of those the nearest. It tries one digit, then
two, up to 17, and looks at the two decimals of that length on either side of the
magnitude.
-/

namespace TypedClient.Decimal

/-- The decimal `digits * 10 ^ exponent`. -/
structure Digits where
  /-- The digits, as a whole number. -/
  digits : Nat
  /-- The power of ten of the last digit. -/
  exponent : Int
  deriving DecidableEq, Repr

namespace Shortest

/-- The quotients, in units of a quarter of the last place of the mantissa, between which a
decimal rounds to `x`. The ends belong to it when the mantissa is even. -/
def bounds (x : Magnitude) : Nat × Nat :=
  let below := if x.mantissa = Magnitude.topBit && Magnitude.minExponent < x.exponent then 1 else 2
  (4 * x.mantissa - below, 4 * x.mantissa + 2)

/-- Whether the quotient `num / den` rounds to `x`. -/
def roundsTo (x : Magnitude) (num den : Nat) : Bool :=
  let (low, high) := bounds x
  let (n, d) := Magnitude.scaled num den (x.exponent - 2)
  if x.mantissa % 2 = 0 then decide (low * d ≤ n) && decide (n ≤ high * d)
  else decide (low * d < n) && decide (n < high * d)

/-- A decimal as a quotient of natural numbers. -/
def quotient (d : Digits) : Nat × Nat :=
  if d.exponent < 0 then (d.digits, Nat.pow 10 (-d.exponent).toNat)
  else (d.digits * Nat.pow 10 d.exponent.toNat, 1)

/-- The distance of a decimal from `x`, in units of one over the product of their denominators. -/
def distance (x : Magnitude) (d : Digits) : Nat :=
  let (n, m) := quotient d
  let (a, b) := x.toQuotient
  (n * b - a * m) + (a * m - n * b)

/-- The whole part of `x / 10 ^ exponent`. -/
def floorAt (x : Magnitude) (exponent : Int) : Nat :=
  let (a, b) := x.toQuotient
  if exponent < 0 then a * Nat.pow 10 (-exponent).toNat / b
  else a / (b * Nat.pow 10 exponent.toNat)

/-- The power of ten of the first digit of a positive magnitude, searched from `guess`
upwards. -/
def leadingPower (x : Magnitude) : Nat → Int → Int
  | 0, guess => guess
  | fuel + 1, guess => if floorAt x (guess + 1) = 0 then guess else leadingPower x fuel (guess + 1)

/-- The power of ten of the first digit of a positive magnitude. The search starts at most two
below it, because the logarithm of two to base ten lies between 30102/100000 and 30103/100000. -/
def firstPower (x : Magnitude) : Int :=
  let bits : Int := x.mantissa.log2 + x.exponent
  leadingPower x 4 (bits * 30103 / 100000 - 2)

/-- The decimals next to `x` with the last digit at `exponent`: of those that round to `x`, the
nearest, and of two equally near the one with the even digit. -/
def atPower (x : Magnitude) (exponent : Int) : Option Digits :=
  let low : Digits := ⟨floorAt x exponent, exponent⟩
  let high : Digits := ⟨low.digits + 1, exponent⟩
  let fits (d : Digits) : Bool := roundsTo x (quotient d).1 (quotient d).2
  match fits low, fits high with
  | true, true =>
    if distance x low < distance x high then some low
    else if distance x high < distance x low then some high
    else if low.digits % 2 = 0 then some low else some high
  | true, false => some low
  | false, true => some high
  | false, false => none

/-- The digits without the zeros at their end. -/
def stripZeros (fuel : Nat) (d : Digits) : Digits :=
  match fuel with
  | 0 => d
  | fuel + 1 => if d.digits % 10 = 0 then stripZeros fuel ⟨d.digits / 10, d.exponent + 1⟩ else d

/-- The shortest decimal that rounds to a positive magnitude. Seventeen digits always do. -/
def digits (x : Magnitude) : Digits :=
  let power := firstPower x
  let found := (List.range 17).findSome? fun (n : Nat) => atPower x (power - (n : Int))
  stripZeros 20 (found.getD ⟨x.mantissa, x.exponent⟩)

end Shortest

end TypedClient.Decimal
