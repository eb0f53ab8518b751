/-!
# Characters in a run of bytes

`Utf8.first?` reads the first character of a run of bytes, with the number of
bytes that it takes: one to four, in the shortest form, and never a surrogate.
-/

namespace TypedClient.Text.Utf8

/-- Whether a byte continues a character. -/
def isTail (b : UInt8) : Bool :=
  0x80 ≤ b && b ≤ 0xBF

/-- Whether a byte may follow `a`, the first byte of a character of three. -/
def isSecondOfThree (a b : UInt8) : Bool :=
  if a == 0xE0 then 0xA0 ≤ b && b ≤ 0xBF
  else if a == 0xED then 0x80 ≤ b && b ≤ 0x9F
  else 0xE1 ≤ a && a ≤ 0xEF && isTail b

/-- Whether a byte may follow `a`, the first byte of a character of four. -/
def isSecondOfFour (a b : UInt8) : Bool :=
  if a == 0xF0 then 0x90 ≤ b && b ≤ 0xBF
  else if a == 0xF4 then 0x80 ≤ b && b ≤ 0x8F
  else 0xF1 ≤ a && a ≤ 0xF3 && isTail b

/-- The bits that the bytes after the first add to a code point. -/
def extend (high : Nat) (tail : List UInt8) : Nat :=
  tail.foldl (fun n b => n * 64 + b.toNat % 64) high

/-- The first character of a run of bytes and its length in bytes; none where no character
starts. A byte that is missing is read as zero, which continues no character. -/
def first? : List UInt8 → Option (Char × Nat)
  | [] => none
  | a :: rest =>
    let b := rest.getD 0 0
    let c := rest.getD 1 0
    let d := rest.getD 2 0
    if a < 0x80 then some (Char.ofNat a.toNat, 1)
    else if 0xC2 ≤ a && a ≤ 0xDF && isTail b then
      some (Char.ofNat (extend (a.toNat % 32) [b]), 2)
    else if isSecondOfThree a b && isTail c then
      some (Char.ofNat (extend (a.toNat % 16) [b, c]), 3)
    else if isSecondOfFour a b && isTail c && isTail d then
      some (Char.ofNat (extend (a.toNat % 8) [b, c, d]), 4)
    else none

/-- The characters of a run of bytes; none if some byte belongs to no character. `ahead` counts
the bytes still to pass over that belong to the character just read. -/
def decode? (bytes : List UInt8) : Option (List Char) :=
  go 0 bytes
where
  /-- The characters from here on. -/
  go (ahead : Nat) : List UInt8 → Option (List Char)
    | [] => some []
    | b :: rest =>
      match ahead with
      | n + 1 => go n rest
      | 0 =>
        match first? (b :: rest) with
        | none => none
        | some (c, n) => (go (n - 1) rest).map (c :: ·)

end TypedClient.Text.Utf8
