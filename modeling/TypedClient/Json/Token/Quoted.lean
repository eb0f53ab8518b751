import TypedClient.Json.Problem
import TypedClient.Text.Utf8

/-!
# Strings as they are written

A string is read in one of two ways. *Kept*, its escapes are replaced by the
characters they stand for, and its bytes must be characters. *Skipped*, only the
form of its escapes is checked. Both ways start after the opening quote and report
how many bytes they took from there.
-/

namespace TypedClient.Json.Token

/-- The value of a hexadecimal digit. -/
def hexValue? (b : UInt8) : Option Nat :=
  if 48 ≤ b && b ≤ 57 then some (b.toNat - 48)
  else if 65 ≤ b && b ≤ 70 then some (b.toNat - 55)
  else if 97 ≤ b && b ≤ 102 then some (b.toNat - 87)
  else none

/-- The value of the four hexadecimal digits at the start of the bytes, which stand after `length`
others. -/
def hexFour? (length : Nat) : List UInt8 → Except (Problem × Nat) Nat
  | a :: b :: c :: d :: _ =>
    match hexValue? a, hexValue? b, hexValue? c, hexValue? d with
    | some a, some b, some c, some d => .ok (((a * 16 + b) * 16 + c) * 16 + d)
    | _, _, _, _ => .error (.invalidEscape, length + 4)
  | rest => .error (.endInString, length + rest.length)

/-- The character that a letter after a backslash stands for. -/
def plainEscape? (b : UInt8) : Option Char :=
  if b == 34 then some '"'
  else if b == 92 then some '\\'
  else if b == 47 then some '/'
  else if b == 98 then some (Char.ofNat 8)
  else if b == 102 then some (Char.ofNat 12)
  else if b == 110 then some '\n'
  else if b == 114 then some '\r'
  else if b == 116 then some '\t'
  else none

/-- Whether a number is the first half of a surrogate pair. -/
def isLeading (n : Nat) : Bool := 0xD800 ≤ n && n ≤ 0xDBFF

/-- Whether a number is the second half of a surrogate pair. -/
def isTrailing (n : Nat) : Bool := 0xDC00 ≤ n && n ≤ 0xDFFF

/-- The second half of a surrogate pair, written as an escape of its own after `length` bytes, and
the character of the pair. -/
def keepTrailing (length leading : Nat) : List UInt8 → Except (Problem × Nat) Char
  | [] => .error (.endInString, length)
  | a :: rest =>
    if a != 92 then .error (.surrogateCutShort, length + 1)
    else
      match rest with
      | [] => .error (.endInString, length + 1)
      | b :: digits =>
        if b != 117 then .error (.surrogateCutShort, length + 2)
        else
          match hexFour? (length + 2) digits with
          | .error e => .error e
          | .ok n =>
            if isTrailing n then
              .ok (Char.ofNat ((leading - 0xD800) * 1024 + (n - 0xDC00) + 0x10000))
            else .error (.loneSurrogate, length + 6)

/-- The character of an escape and the bytes it takes after the backslash, which is the last of
`length` bytes. -/
def keepEscape (length : Nat) : List UInt8 → Except (Problem × Nat) (Char × Nat)
  | [] => .error (.endInString, length)
  | b :: rest =>
    match plainEscape? b with
    | some c => .ok (c, 1)
    | none =>
      if b != 117 then .error (.invalidEscape, length + 1)
      else
        match hexFour? (length + 1) rest with
        | .error e => .error e
        | .ok n =>
          if isTrailing n then .error (.loneSurrogate, length + 5)
          else if isLeading n then
            match keepTrailing (length + 5) n (rest.drop 4) with
            | .error e => .error e
            | .ok c => .ok (c, 11)
          else .ok (Char.ofNat n, 5)

/-- The string that starts at the bytes, with the number of bytes up to and with its closing
quote. `length` counts the bytes before, `ahead` the bytes to pass over because they belong to
the character just read. `bad` counts the bytes of the content from the first one on that belongs
to no character, where an escape counts as the bytes of its character; the place of the fault is
as many bytes before the end of the string. -/
def keepString (length ahead : Nat) (bad : Option Nat) (read : List Char) :
    List UInt8 → Except (Problem × Nat) (String × Nat)
  | [] => .error (.endInString, length)
  | b :: rest =>
    match ahead with
    | n + 1 => keepString (length + 1) n bad read rest
    | 0 =>
      if b == 34 then
        match bad with
        | some count => .error (.invalidCharacter, length + 1 - count)
        | none => .ok (String.ofList read.reverse, length + 1)
      else if b == 92 then
        match keepEscape (length + 1) rest with
        | .error e => .error e
        | .ok (c, n) => keepString (length + 1) n (bad.map (· + c.utf8Size)) (c :: read) rest
      else if b < 32 then .error (.controlCharacter, length + 1)
      else
        match Text.Utf8.first? (b :: rest) with
        | some (c, n) => keepString (length + 1) (n - 1) (bad.map (· + n)) (c :: read) rest
        | none => keepString (length + 1) 0 (some (bad.getD 0 + 1)) read rest

/-- The bytes that a skipped escape takes after the backslash, which is the last of `length`
bytes. -/
def skipEscape (length : Nat) : List UInt8 → Except (Problem × Nat) Nat
  | [] => .error (.endInString, length)
  | b :: rest =>
    if (plainEscape? b).isSome then .ok 1
    else if b != 117 then .error (.invalidEscape, length + 1)
    else (hexFour? (length + 1) rest).map fun _ => 5

/-- The number of bytes up to and with the closing quote of a skipped string. -/
def skipString (length ahead : Nat) : List UInt8 → Except (Problem × Nat) Nat
  | [] => .error (.endInString, length)
  | b :: rest =>
    match ahead with
    | n + 1 => skipString (length + 1) n rest
    | 0 =>
      if b == 34 then .ok (length + 1)
      else if b == 92 then
        match skipEscape (length + 1) rest with
        | .error e => .error e
        | .ok n => skipString (length + 1) n rest
      else if b < 32 then .error (.controlCharacter, length)
      else skipString (length + 1) 0 rest

end TypedClient.Json.Token
