/-!
# Blank characters and trimming

The characters with the property White_Space, and the text left after blank
characters are taken off one end or both. Trimming removes blanks only at the
ends: what is left starts and ends with a character that is not blank.
-/

namespace TypedClient.Text

/-- The characters with the property White_Space. -/
def isBlank (c : Char) : Bool :=
  let n := c.toNat
  (0x09 ≤ n && n ≤ 0x0D) || n == 0x20 || n == 0x85 || n == 0xA0 || n == 0x1680 ||
    (0x2000 ≤ n && n ≤ 0x200A) || n == 0x2028 || n == 0x2029 || n == 0x202F ||
    n == 0x205F || n == 0x3000

/-- The control characters: U+0000 to U+001F and U+007F to U+009F. -/
def isControl (c : Char) : Bool :=
  c.toNat < 0x20 || (0x7F ≤ c.toNat && c.toNat ≤ 0x9F)

/-- The text without the leading characters that satisfy `p`. -/
def dropFront (p : Char → Bool) (text : List Char) : List Char :=
  text.dropWhile p

/-- The text without the trailing characters that satisfy `p`. -/
def dropBack (p : Char → Bool) (text : List Char) : List Char :=
  (text.reverse.dropWhile p).reverse

/-- The text without the characters at either end that satisfy `p`. -/
def dropEnds (p : Char → Bool) (text : List Char) : List Char :=
  dropBack p (dropFront p text)

/-- The text without the blanks at its end. -/
def trimEnd (text : List Char) : List Char :=
  dropBack isBlank text

/-- The text without the blanks at either end. -/
def trim (text : List Char) : List Char :=
  dropEnds isBlank text

end TypedClient.Text
