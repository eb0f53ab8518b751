import TypedClient.Json.Problem

/-!
# Numbers as they are written

A number is read in one of two ways. *Kept*, it is given its value: the digits
that fit into 64 bits are a whole number, and a number with more digits, a
fraction or an exponent is that whole number scaled by a power of ten. *Skipped*,
only its form is checked. Both ways report where the form is broken, by the number
of bytes from the start of the number.
-/

namespace TypedClient.Json.Token

/-- A broken part of a token: the cause, and the bytes from the start of the token. -/
abbrev Broken := Problem × Nat

/-- Whether a byte is a decimal digit. -/
def isDigit (b : UInt8) : Bool :=
  48 ≤ b && b ≤ 57

/-- The value of a decimal digit. -/
def digitValue (b : UInt8) : Nat :=
  b.toNat - 48

/-- The greatest whole number of 64 bits. -/
def maxWhole : Nat := 0xFFFFFFFFFFFFFFFF

/-- The greatest exponent that is read. -/
def maxExponent : Nat := 0x7FFFFFFF

/-- A number followed by more digits, for as long as it is at most `limit`, and how many of them
were used. -/
def absorb (limit : Nat) (value : Nat) : List UInt8 → Nat × Nat
  | [] => (value, 0)
  | d :: rest =>
    let next := value * 10 + digitValue d
    if limit < next then (value, 0)
    else
      let (final, used) := absorb limit next rest
      (final, used + 1)

/-- The number `significand * 10 ^ exponent`, which ends after `length` bytes. -/
def scaledNumber (negative : Bool) (significand : Nat) (exponent : Int) (length : Nat) :
    Except Broken (Number × Nat) :=
  match (Decimal.Magnitude.nearest? significand 1).bind (·.timesPowTen? exponent) with
  | some magnitude => .ok (.float negative magnitude, length)
  | none => .error (.numberOutOfRange, length)

/-- The rest of a number from its exponent sign letter on, at `length` bytes. -/
def keepExponent (negative : Bool) (significand : Nat) (exponent : Int) (length : Nat)
    (rest : List UInt8) : Except Broken (Number × Nat) :=
  let signed := rest.head? == some 43 || rest.head? == some 45
  let down := rest.head? == some 45
  let digitsAt := length + (if signed then 2 else 1)
  let tail := if signed then rest.drop 1 else rest
  match tail with
  | [] => .error (.endInValue, digitsAt)
  | d :: _ =>
    if isDigit d then
      let digits := tail.takeWhile isDigit
      let (value, used) := absorb maxExponent 0 digits
      let stop := digitsAt + digits.length
      if used < digits.length then
        if significand ≠ 0 && !down then .error (.numberOutOfRange, digitsAt + used + 1)
        else .ok (.float negative .zero, stop)
      else
        scaledNumber negative significand (if down then exponent - value else exponent + value) stop
    else .error (.invalidNumber, digitsAt + 1)

/-- The rest of a number from its point on, at `length` bytes. `dropped` counts the digits before
the point that the significand has no room for. -/
def keepFraction (negative : Bool) (significand dropped : Nat) (length : Nat)
    (rest : List UInt8) : Except Broken (Number × Nat) :=
  let digits := rest.takeWhile isDigit
  let after := rest.dropWhile isDigit
  if digits.isEmpty then
    .error (if after.isEmpty then (.endInValue, length + 1) else (.invalidNumber, length + 2))
  else
    let (value, used) := absorb maxWhole significand digits
    let exponent : Int := (dropped : Int) - used
    let stop := length + 1 + digits.length
    match after with
    | [] => scaledNumber negative value exponent stop
    | c :: more =>
      if c == 101 || c == 69 then keepExponent negative value exponent stop more
      else scaledNumber negative value exponent stop

/-- The distance from zero of the least whole number below zero. -/
def maxNegative : Nat := 0x8000000000000000

/-- A whole number of 64 bits, which a minus sign takes to a floating point number when it is zero
or below the least of them. -/
def wholeNumber (negative : Bool) (value : Nat) : Number :=
  if !negative then .int value
  else if 0 < value && value ≤ maxNegative then .int (-(value : Int))
  else .float true ((Decimal.Magnitude.nearest? value 1).getD .zero)

/-- The rest of a number after its first digits, which end at `length` bytes. -/
def keepAfterDigits (negative : Bool) (significand dropped : Nat) (length : Nat)
    (after : List UInt8) : Except Broken (Number × Nat) :=
  let plain : Except Broken (Number × Nat) :=
    if dropped = 0 then .ok (wholeNumber negative significand, length)
    else scaledNumber negative significand dropped length
  match after with
  | [] => plain
  | c :: rest =>
    if c == 46 then keepFraction negative significand dropped length rest
    else if c == 101 || c == 69 then keepExponent negative significand dropped length rest
    else plain

/-- The number that stands at the start of the bytes, with its value. -/
def keepNumber (bytes : List UInt8) : Except Broken (Number × Nat) :=
  let negative := bytes.head? == some 45
  let start := if negative then 1 else 0
  match bytes.drop start with
  | [] => .error (.endInValue, start)
  | d :: rest =>
    if d == 48 then
      match rest with
      | e :: _ =>
        if isDigit e then .error (.invalidNumber, start + 2)
        else keepAfterDigits negative 0 0 (start + 1) rest
      | [] => keepAfterDigits negative 0 0 (start + 1) rest
    else if isDigit d then
      let digits := d :: rest.takeWhile isDigit
      let (value, used) := absorb maxWhole 0 digits
      keepAfterDigits negative value (digits.length - used) (start + digits.length)
        (rest.dropWhile isDigit)
    else .error (.invalidNumber, start + 1)

/-- The rest of a skipped number from its exponent letter on, at `length` bytes. -/
def skipExponent (length : Nat) (rest : List UInt8) : Except Broken Nat :=
  let signed := rest.head? == some 43 || rest.head? == some 45
  let digitsAt := length + (if signed then 2 else 1)
  let tail := if signed then rest.drop 1 else rest
  match tail with
  | [] => .error (.invalidNumber, digitsAt)
  | d :: _ =>
    if isDigit d then .ok (digitsAt + (tail.takeWhile isDigit).length)
    else .error (.invalidNumber, digitsAt + 1)

/-- The rest of a skipped number after its first digits, which end at `length` bytes. -/
def skipAfterDigits (length : Nat) (after : List UInt8) : Except Broken Nat :=
  match after with
  | [] => .ok length
  | c :: rest =>
    if c == 46 then
      let digits := rest.takeWhile isDigit
      let stop := length + 1 + digits.length
      match digits, rest.dropWhile isDigit with
      | [], [] => .error (.invalidNumber, stop)
      | [], _ => .error (.invalidNumber, stop + 1)
      | _, [] => .ok stop
      | _, e :: more => if e == 101 || e == 69 then skipExponent stop more else .ok stop
    else if c == 101 || c == 69 then skipExponent length rest
    else .ok length

/-- The length of the number that stands at the start of the bytes. -/
def skipNumber (bytes : List UInt8) : Except Broken Nat :=
  let start := if bytes.head? == some 45 then 1 else 0
  match bytes.drop start with
  | [] => .error (.invalidNumber, start)
  | d :: rest =>
    if d == 48 then
      if (rest.head?.map isDigit).getD false then .error (.invalidNumber, start + 2)
      else skipAfterDigits (start + 1) rest
    else if isDigit d then
      skipAfterDigits (start + 1 + (rest.takeWhile isDigit).length) (rest.dropWhile isDigit)
    else .error (.invalidNumber, start + 1)

end TypedClient.Json.Token
