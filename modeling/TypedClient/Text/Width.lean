import TypedClient.Text.Emoji
import TypedClient.Text.Marks

/-!
# The width of a line

The number of columns that a line takes in a terminal. By itself a character takes two
if it is wide, none if it is not drawn or attaches to another, and one otherwise
(`charWidth`). Some characters together are drawn as one sign: a letter below another,
a ligature, a picture made of pictures. So a line is read from its end, and what has
been read is kept as far as it matters for the character before it: `Tail`.
-/

namespace TypedClient.Text

/-! ### Single characters -/

/-- The ranges of wide characters: those with the property East_Asian_Width of Wide or
Fullwidth. -/
def wideRanges : Ranges := [
  (0x1100, 0x115F), (0x231A, 0x231B), (0x2329, 0x232A), (0x23E9, 0x23EC), (0x23F0, 0x23F0),
  (0x23F3, 0x23F3), (0x25FD, 0x25FE), (0x2614, 0x2615), (0x2630, 0x2637), (0x2648, 0x2653),
  (0x267F, 0x267F), (0x268A, 0x268F), (0x2693, 0x2693), (0x26A1, 0x26A1), (0x26AA, 0x26AB),
  (0x26BD, 0x26BE), (0x26C4, 0x26C5), (0x26CE, 0x26CE), (0x26D4, 0x26D4), (0x26EA, 0x26EA),
  (0x26F2, 0x26F3), (0x26F5, 0x26F5), (0x26FA, 0x26FA), (0x26FD, 0x26FD), (0x2705, 0x2705),
  (0x270A, 0x270B), (0x2728, 0x2728), (0x274C, 0x274C), (0x274E, 0x274E), (0x2753, 0x2755),
  (0x2757, 0x2757), (0x2795, 0x2797), (0x27B0, 0x27B0), (0x27BF, 0x27BF), (0x2B1B, 0x2B1C),
  (0x2B50, 0x2B50), (0x2B55, 0x2B55), (0x2E80, 0x2E99), (0x2E9B, 0x2EF3), (0x2F00, 0x2FD5),
  (0x2FF0, 0x303E), (0x3041, 0x3096), (0x3099, 0x30FF), (0x3105, 0x312F), (0x3131, 0x318E),
  (0x3190, 0x31E5), (0x31EF, 0x321E), (0x3220, 0x3247), (0x3250, 0xA48C), (0xA490, 0xA4C6),
  (0xA960, 0xA97C), (0xAC00, 0xD7A3), (0xF900, 0xFAFF), (0xFE10, 0xFE19), (0xFE30, 0xFE52),
  (0xFE54, 0xFE66), (0xFE68, 0xFE6B), (0xFF01, 0xFF60), (0xFFE0, 0xFFE6), (0x16FE0, 0x16FE4),
  (0x16FF0, 0x16FF6), (0x17000, 0x18CD5), (0x18CFF, 0x18D1E), (0x18D80, 0x18DF2),
  (0x1AFF0, 0x1AFF3), (0x1AFF5, 0x1AFFB), (0x1AFFD, 0x1AFFE), (0x1B000, 0x1B122),
  (0x1B132, 0x1B132), (0x1B150, 0x1B152), (0x1B155, 0x1B155), (0x1B164, 0x1B167),
  (0x1B170, 0x1B2FB), (0x1D300, 0x1D356), (0x1D360, 0x1D376), (0x1F004, 0x1F004),
  (0x1F0CF, 0x1F0CF), (0x1F18E, 0x1F18E), (0x1F191, 0x1F19A), (0x1F200, 0x1F202),
  (0x1F210, 0x1F23B), (0x1F240, 0x1F248), (0x1F250, 0x1F251), (0x1F260, 0x1F265),
  (0x1F300, 0x1F320), (0x1F32D, 0x1F335), (0x1F337, 0x1F37C), (0x1F37E, 0x1F393),
  (0x1F3A0, 0x1F3CA), (0x1F3CF, 0x1F3D3), (0x1F3E0, 0x1F3F0), (0x1F3F4, 0x1F3F4),
  (0x1F3F8, 0x1F43E), (0x1F440, 0x1F440), (0x1F442, 0x1F4FC), (0x1F4FF, 0x1F53D),
  (0x1F54B, 0x1F54E), (0x1F550, 0x1F567), (0x1F57A, 0x1F57A), (0x1F595, 0x1F596),
  (0x1F5A4, 0x1F5A4), (0x1F5FB, 0x1F64F), (0x1F680, 0x1F6C5), (0x1F6CC, 0x1F6CC),
  (0x1F6D0, 0x1F6D2), (0x1F6D5, 0x1F6D8), (0x1F6DC, 0x1F6DF), (0x1F6EB, 0x1F6EC),
  (0x1F6F4, 0x1F6FC), (0x1F7E0, 0x1F7EB), (0x1F7F0, 0x1F7F0), (0x1F90C, 0x1F93A),
  (0x1F93C, 0x1F945), (0x1F947, 0x1F9FF), (0x1FA70, 0x1FA7C), (0x1FA80, 0x1FA8A),
  (0x1FA8E, 0x1FAC6), (0x1FAC8, 0x1FAC8), (0x1FACD, 0x1FADC), (0x1FADF, 0x1FAEA),
  (0x1FAEF, 0x1FAF8), (0x20000, 0x2FFFD), (0x30000, 0x3FFFD)]

/-- The ranges of the later parts of Hangul syllables, which are drawn together with the first. -/
def innerSyllableRanges : Ranges := [(0x1160, 0x11FF), (0xD7B0, 0xD7C6), (0xD7CB, 0xD7FB)]

/-- The ranges of marks that take a column all the same: a filler for the first part of a syllable,
the Tifinagh joiner and the narrow sound marks. -/
def drawnMarkRanges : Ranges := [(0x115F, 0x115F), (0x2D7F, 0x2D7F), (0xFF9E, 0xFF9F)]

/-- Whether a character takes no column. -/
def isUndrawn (c : Char) : Bool :=
  !inRanges drawnMarkRanges c &&
    (inRanges extendingRanges c || inRanges ignorableRanges c ||
      inRanges innerSyllableRanges c || inRanges preposedRanges c)

/-- The Khmer sign that stands for "and so on", which is drawn as three. -/
def isTripleSign (c : Char) : Bool := c.toNat == 0x17D8

/-- The last code point of those that are narrow without a look at any table. -/
def lastPlain : Nat := 0xA0

/-- The columns that a character takes by itself. A control character counts as one. -/
def charWidth (c : Char) : Nat :=
  if c.toNat ≤ lastPlain then 1
  else if isUndrawn c then 0
  else if isTripleSign c then 3
  else if inRanges wideRanges c then 2
  else 1

/-! ### What has been read of a line -/

/-- A letter, with what follows it, that may be drawn as one sign with the letter before. `joined`
tells that a joiner stands in front of it. -/
inductive LigatureTail where
  /-- An Arabic alef. -/
  | alef
  /-- A Hebrew lamed. -/
  | lamed (joined : Bool)
  /-- A Buginese ya. -/
  | ya (joined : Bool)
  /-- A Buginese vowel i and a ya joined to it. -/
  | vowelYa
  /-- A Tifinagh consonant. -/
  | tifinagh (joined : Bool)
  /-- The Tifinagh joiner and a consonant. -/
  | joinedTifinagh
  /-- A Lisu tone letter that may be the second of two. -/
  | lisuTone
  /-- An Old Turkic letter i. -/
  | orkhonI (joined : Bool)
  /-- A Khmer letter that may be written below another. -/
  | khmer
  deriving DecidableEq, Repr

/-- The front of a picture that may be drawn as one sign with the characters before. -/
inductive PictureTail where
  /-- A modifier of the tone of skin. -/
  | modifier
  /-- Half of a flag. -/
  | halfFlag
  /-- Several halves of flags. -/
  | flags
  /-- A picture. -/
  | picture
  /-- A picture with a joiner in front of it. -/
  | joined
  /-- The frame of a key and a joined picture. -/
  | joinedKey
  /-- Half of a flag and a joined picture. -/
  | joinedHalfFlag
  /-- Whole flags and a joined picture. -/
  | joinedFlags
  /-- Whole flags, half of another and a joined picture. -/
  | joinedFlagsAndHalf
  /-- A run of tags, of which `letters` were letters at its end, and a joined picture. -/
  | joinedLetterTags (letters : Nat)
  /-- A run of tags that begins with a number of digits, and a joined picture. -/
  | joinedDigitTags (digits : Nat)
  deriving DecidableEq, Repr

/-- What follows a place, as far as it matters for the character before. -/
inductive TailSign where
  /-- Nothing that matters. -/
  | plain
  /-- The front of a ligature. -/
  | ligature (tail : LigatureTail)
  /-- The front of a picture. -/
  | picture (tail : PictureTail)
  /-- The Kirat Rai vowel e. -/
  | kiratE
  /-- The Kirat Rai vowel ai, or two vowels e that make it up. -/
  | kiratAi
  deriving DecidableEq, Repr

/-- A selector, which asks for one of the styles of the character before it. -/
inductive Selector where
  /-- The style of text. -/
  | text
  /-- The style of emoji. -/
  | emoji
  /-- Quotation marks as wide as an ideograph. -/
  | wide
  deriving DecidableEq, Repr

/-- What has been read of a line from its end. -/
structure Tail where
  /-- The sign that it begins with. -/
  sign : TailSign
  /-- The selector in front of that sign. -/
  selector : Option Selector
  deriving DecidableEq, Repr

/-- The tail that matters for nothing. -/
def Tail.plain : Tail := ⟨.plain, none⟩

/-- The tail that begins with a ligature. -/
def Tail.ofLigature (tail : LigatureTail) : Tail := ⟨.ligature tail, none⟩

/-- The tail that begins with a picture. -/
def Tail.ofPicture (tail : PictureTail) : Tail := ⟨.picture tail, none⟩

/-! ### Classes for ligatures -/

/-- Whether a character is an Arabic alef. -/
def isAlef (c : Char) : Bool :=
  inRanges [(0x622, 0x623), (0x625, 0x625), (0x627, 0x627), (0x671, 0x673), (0x675, 0x675),
    (0x773, 0x774), (0x870, 0x882)] c

/-- Whether a character is an Arabic lam. -/
def isLam (c : Char) : Bool :=
  inRanges [(0x644, 0x644), (0x6B5, 0x6B8), (0x76A, 0x76A), (0x8A6, 0x8A6), (0x8C7, 0x8C7)] c

/-- Whether a character is a Tifinagh consonant. -/
def isTifinagh (c : Char) : Bool :=
  inRanges [(0x2D31, 0x2D65), (0x2D6F, 0x2D6F)] c

/-- Whether a character is a Khmer letter that is written below another after the sign for it. -/
def isKhmerLetter (c : Char) : Bool :=
  inRanges [(0x1780, 0x1782), (0x1784, 0x1787), (0x1789, 0x178C), (0x178E, 0x1793),
    (0x1795, 0x1798), (0x179B, 0x179D), (0x17A0, 0x17A0), (0x17A2, 0x17A2), (0x17A7, 0x17A7),
    (0x17AB, 0x17AC), (0x17AF, 0x17AF)] c

/-- The ranges of characters without width that do not have the property Joining_Type of
Transparent: they part an Arabic letter from the one before. -/
def opaqueRanges : Ranges := [
  (0x605, 0x605), (0x890, 0x891), (0x8E2, 0x8E2), (0x9BE, 0x9BE), (0x9D7, 0x9D7), (0xB3E, 0xB3E),
  (0xB57, 0xB57), (0xBBE, 0xBBE), (0xBD7, 0xBD7), (0xCC0, 0xCC0), (0xCC2, 0xCC2), (0xCC7, 0xCC8),
  (0xCCA, 0xCCB), (0xCD5, 0xCD6), (0xD3E, 0xD3E), (0xD4E, 0xD4E), (0xD57, 0xD57), (0xDCF, 0xDCF),
  (0xDDF, 0xDDF), (0x1160, 0x11FF), (0x1715, 0x1715), (0x1734, 0x1734), (0x180E, 0x180E),
  (0x1B35, 0x1B35), (0x1B3B, 0x1B3B), (0x1B3D, 0x1B3D), (0x1B43, 0x1B44), (0x1BAA, 0x1BAA),
  (0x1BF2, 0x1BF3), (0x200C, 0x200D), (0x2065, 0x2069), (0x302E, 0x302F), (0x3164, 0x3164),
  (0xA8FA, 0xA8FA), (0xA953, 0xA953), (0xA9C0, 0xA9C0), (0xD7B0, 0xD7C6), (0xD7CB, 0xD7FB),
  (0xFFA0, 0xFFA0), (0xFFF0, 0xFFF8), (0x111C0, 0x111C0), (0x111C2, 0x111C3), (0x11235, 0x11235),
  (0x1133E, 0x1133E), (0x1134D, 0x1134D), (0x11357, 0x11357), (0x113B8, 0x113B8),
  (0x113C2, 0x113C2), (0x113C5, 0x113C5), (0x113C7, 0x113C9), (0x113CF, 0x113CF),
  (0x113D1, 0x113D1), (0x114B0, 0x114B0), (0x114BD, 0x114BD), (0x115AF, 0x115AF),
  (0x116B6, 0x116B6), (0x11930, 0x11930), (0x1193D, 0x1193D), (0x1193F, 0x1193F),
  (0x11941, 0x11941), (0x11A84, 0x11A89), (0x11D46, 0x11D46), (0x11F02, 0x11F02),
  (0x11F41, 0x11F41), (0x16FF0, 0x16FF1), (0x1D165, 0x1D166), (0x1D16D, 0x1D172),
  (0xE0000, 0xE0000), (0xE0002, 0xE001F), (0xE0080, 0xE00FF), (0xE01F0, 0xE0FFF)]

/-- Whether an Arabic ligature reaches across a character. -/
def isTransparent (c : Char) : Bool :=
  c.toNat > lastPlain && isUndrawn c && !inRanges opaqueRanges c

/-- Whether the other ligatures reach across a character. -/
def isLigatureGap (c : Char) : Bool :=
  inRanges [(0x34F, 0x34F), (0x17B4, 0x17B5), (0x180B, 0x180D), (0x180F, 0x180F),
    (0xFE00, 0xFE0F), (0xE0100, 0xE01EF)] c

/-- Whether a character is a quotation mark with a wide form. -/
def isWideQuote (c : Char) : Bool :=
  inRanges [(0x2018, 0x2019), (0x201C, 0x201D)] c

/-- Whether a character is a picture of the style of emoji that also has one of text, which is
narrow; ideographs in frames have none. -/
def isNarrowAsText (c : Char) : Bool :=
  inRanges selectableRanges c && inRanges emojiRanges c && !inRanges [(0x1F200, 0x1F2FF)] c

/-- Whether a character is a tag that stands for a letter. -/
def isLetterTag (c : Char) : Bool := inRanges [(0xE0061, 0xE007A)] c

/-- Whether a character is a tag that stands for a digit. -/
def isDigitTag (c : Char) : Bool := inRanges [(0xE0030, 0xE0039)] c

/-! ### One character before a tail -/

/-- What a character begins by itself. -/
def signOf (c : Char) : TailSign :=
  if isAlef c then .ligature .alef
  else if c.toNat = 0x5DC then .ligature (.lamed false)
  else if isKhmerLetter c then .ligature .khmer
  else if c.toNat = 0x1A10 then .ligature (.ya false)
  else if isTifinagh c then .ligature (.tifinagh false)
  else if c.toNat = 0xA4FC || c.toNat = 0xA4FD then .ligature .lisuTone
  else if c.toNat = 0x10C03 then .ligature (.orkhonI false)
  else if c.toNat = 0x16D67 then .kiratE
  else if c.toNat = 0x16D68 then .kiratAi
  else if isRegional c then .picture .halfFlag
  else if isModifier c then .picture .modifier
  else if inRanges emojiRanges c then .picture .picture
  else .plain

/-- The selector that a character is. -/
def selectorOf? (c : Char) : Option Selector :=
  if isEmojiSelector c then some .emoji
  else if isTextSelector c then some .text
  else if c.toNat = 0xFE01 then some .wide
  else none

/-- What is left of a sign behind a selector that did not suit the character before it: a ligature
reaches across, a picture does not. -/
def TailSign.behindSelector : TailSign → TailSign
  | .ligature tail => .ligature tail
  | _ => .plain

/-- The sign behind a selector: a ligature may reach across any, a joined picture across that for
the style of emoji. -/
def TailSign.selected (selector : Selector) : TailSign → TailSign
  | .ligature tail => .ligature tail
  | .picture .joined => if selector = .emoji then .picture .joined else .plain
  | .picture .joinedKey => if selector = .emoji then .picture .joinedKey else .plain
  | _ => .plain

/-- The tail of a ligature with a joiner in front of it. -/
def LigatureTail.join : LigatureTail → LigatureTail
  | .lamed _ => .lamed true
  | .ya _ => .ya true
  | .tifinagh _ => .tifinagh true
  | .orkhonI _ => .orkhonI true
  | tail => tail

/-- The columns that a character adds in front of a ligature that it belongs to, and what has been
read then; none if it does not belong to it. -/
def LigatureTail.add? (c : Char) : LigatureTail → Option (Int × Tail)
  | .alef =>
    if isLam c then some (0, .plain)
    else if isTransparent c then some (0, .ofLigature .alef)
    else none
  | tail =>
    if isJoiner c then some (0, .ofLigature tail.join)
    else if isLigatureGap c then some (0, .ofLigature tail)
    else
      match tail with
      | .lamed true => if c.toNat = 0x5D0 then some (0, .plain) else none
      | .khmer => if c.toNat = 0x17D2 then some (-1, .plain) else none
      | .ya true => if c.toNat = 0x1A17 then some (0, .ofLigature .vowelYa) else none
      | .vowelYa => if c.toNat = 0x1A15 then some (0, .plain) else none
      | .tifinagh joined =>
        if c.toNat = 0x2D7F then some (1, .ofLigature .joinedTifinagh)
        else if joined && isTifinagh c then some (0, .plain)
        else none
      | .joinedTifinagh => if isTifinagh c then some (-1, .plain) else none
      | .lisuTone => if inRanges [(0xA4F8, 0xA4FB)] c then some (0, .plain) else none
      | .orkhonI true => if c.toNat = 0x10C32 then some (0, .plain) else none
      | _ => none

/-- The most letters that a run of tags may have. -/
def maxLetterTags : Nat := 6

/-- The most letters at the end of a run of tags after which digits may stand before them. -/
def maxLettersBeforeDigits : Nat := 4

/-- The number of digits of a run of tags, and the least number of its letters. -/
def tagLength : Nat := 3

/-- The columns that a character adds in front of a picture that it belongs to, and what has been
read then; none if it does not belong to it. -/
def PictureTail.add? (c : Char) : PictureTail → Option (Int × Tail)
  | .modifier =>
    if inRanges modifiableRanges c then some (0, .ofPicture .picture)
    else if isJoiner c then some (0, .ofPicture .joined)
    else none
  | .halfFlag => if isRegional c then some (1, .ofPicture .flags) else none
  | .flags =>
    if isRegional c then some (1, .ofPicture .flags)
    else if isJoiner c then some (0, .ofPicture .joined)
    else none
  | .picture => if isJoiner c then some (0, .ofPicture .joined) else none
  | .joined =>
    if c.toNat = 0x20E3 then some (0, .ofPicture .joinedKey)
    else if isRegional c then some (1, .ofPicture .joinedHalfFlag)
    else if isModifier c then some (0, .ofPicture .modifier)
    else if c.toNat = 0xE007F then some (0, .ofPicture (.joinedLetterTags 0))
    else if inRanges emojiRanges c then some (0, .ofPicture .picture)
    else none
  | .joinedKey => none
  | .joinedHalfFlag => if isRegional c then some (-1, .ofPicture .joinedFlags) else none
  | .joinedFlags =>
    if isRegional c then some (3, .ofPicture .joinedFlagsAndHalf)
    else if isJoiner c then some (0, .ofPicture .joined)
    else none
  | .joinedFlagsAndHalf =>
    if isRegional c then some (-1, .ofPicture .joinedFlags)
    else if isJoiner c then some (0, .ofPicture .joined)
    else none
  | .joinedLetterTags letters =>
    if isLetterTag c && letters < maxLetterTags then
      some (0, .ofPicture (.joinedLetterTags (letters + 1)))
    else if isDigitTag c && letters ≤ maxLettersBeforeDigits then
      some (0, .ofPicture (.joinedDigitTags 1))
    else if c.toNat = 0x1F3F4 && tagLength ≤ letters then some (0, .ofPicture .picture)
    else none
  | .joinedDigitTags digits =>
    if isDigitTag c && digits < tagLength then
      some (0, .ofPicture (.joinedDigitTags (digits + 1)))
    else if c.toNat = 0x1F3F4 && tagLength ≤ digits then some (0, .ofPicture .picture)
    else none

/-- The columns that a character adds in front of a sign that it belongs to, and what has been read
then; none if it does not belong to it. -/
def TailSign.add? (c : Char) : TailSign → Option (Int × Tail)
  | .plain => none
  | .ligature tail => tail.add? c
  | .picture tail => tail.add? c
  | .kiratE =>
    if c.toNat = 0x16D63 || c.toNat = 0x16D69 then some (0, .plain)
    else if c.toNat = 0x16D67 then some (0, ⟨.kiratAi, none⟩)
    else if c.toNat = 0x16D68 then some (1, ⟨.kiratE, none⟩)
    else none
  | .kiratAi => if c.toNat = 0x16D63 then some (0, .plain) else none

/-- The columns that a character adds in front of a sign with no selector, and what has been read
then. -/
def TailSign.add (c : Char) (sign : TailSign) : Int × Tail :=
  if c.toNat ≤ lastPlain then (1, .plain)
  else
    match selectorOf? c with
    | some selector => (0, ⟨sign.selected selector, some selector⟩)
    | none =>
      match sign.add? c with
      | some added => added
      | none => (charWidth c, ⟨signOf c, none⟩)

/-- The columns that a character adds in front of a tail, and what has been read then. -/
def Tail.add (c : Char) (tail : Tail) : Int × Tail :=
  match tail.selector with
  | none => tail.sign.add c
  | some .emoji =>
    if inRanges selectableRanges c then
      (if tail.sign matches .picture _ then 0 else 2, .ofPicture .picture)
    else tail.sign.behindSelector.add c
  | some .text =>
    if isNarrowAsText c then (1, .plain) else tail.sign.behindSelector.add c
  | some .wide =>
    if isWideQuote c then (2, .plain) else tail.sign.behindSelector.add c

/-! ### Lines -/

/-- The columns of a line, and what it is for a character before it. -/
def measure : List Char → Int × Tail
  | [] => (0, .plain)
  | c :: rest =>
    let (columns, tail) := measure rest
    let (added, all) := tail.add c
    (columns + added, all)

/-- The columns that a line takes. -/
def width (line : List Char) : Nat :=
  (measure line).1.toNat

end TypedClient.Text
