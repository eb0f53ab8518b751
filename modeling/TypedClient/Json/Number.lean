import TypedClient.Decimal.Shortest

/-!
# Numbers of a JSON text

A number is a whole number of 64 bits, with or without a sign, or a floating
point number. The text of a whole number is its digits; the text of a floating
point number has the fewest digits that read back, always with a point or an
exponent, so the two kinds stay apart when they are read again.
-/

namespace TypedClient.Json

open TypedClient.Decimal

/-- A number: whole, from -2 ^ 63 to 2 ^ 64 - 1, or floating point. -/
inductive Number where
  /-- A whole number. -/
  | int (value : Int)
  /-- A floating point number, with a sign that zero has too. -/
  | float (negative : Bool) (magnitude : Magnitude)
  deriving DecidableEq, Repr

namespace Number

/-- The least and the greatest power of ten of the first digit for which the point is written in
its place; beyond them the number is written with an exponent. -/
def pointRange : Int × Int := (-5, 15)

/-- A decimal with the point in its place; `first` is the power of ten of the first digit. -/
def withPoint (digits : String) (first : Int) : String :=
  if first < 0 then
    "0." ++ "".pushn '0' (-first - 1).toNat ++ digits
  else
    let before := first.toNat + 1
    if digits.length ≤ before then digits.pushn '0' (before - digits.length) ++ ".0"
    else String.ofList (digits.toList.take before) ++ "." ++
      String.ofList (digits.toList.drop before)

/-- A decimal with one digit before the point and a signed exponent. -/
def withExponent (digits : String) (first : Int) : String :=
  let fraction := digits.toList.drop 1
  let mantissa := String.ofList (digits.toList.take 1) ++
    (if fraction.isEmpty then "" else "." ++ String.ofList fraction)
  mantissa ++ "e" ++ (if first < 0 then "-" else "+") ++ toString first.natAbs

/-- The text of a magnitude. -/
def magnitudeText (x : Magnitude) : String :=
  if x.mantissa = 0 then "0.0"
  else
    let d := Shortest.digits x
    let digits := toString d.digits
    let first := d.exponent + digits.length - 1
    if pointRange.1 ≤ first && first ≤ pointRange.2 then withPoint digits first
    else withExponent digits first

/-- The text of a number. -/
def text : Number → String
  | .int value => toString value
  | .float negative magnitude => (if negative then "-" else "") ++ magnitudeText magnitude

end Number

end TypedClient.Json
