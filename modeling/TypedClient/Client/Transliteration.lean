import TypedClient.Client.WordCase

/-!
# Spelling text in ASCII

Names may be spelled in any way; this is the one that commands use. `toAscii` leaves
ASCII characters as they are, and spells others as `spellings` has them. It knows those
characters only, and leaves out the rest.
-/

namespace TypedClient.Client

/-- How characters beyond ASCII are spelled, by code point. -/
def spellings : List (Nat × String) := [
  (0x0085, ""), (0x009F, ""), (0x00A0, " "), (0x00A3, "GBP"), (0x00A7, "S"), (0x00AE, "(R)"),
  (0x00B0, "deg"), (0x00B2, "2"), (0x00B5, "u"), (0x00BD, "1/2"), (0x00C0, "A"), (0x00C6, "Ae"),
  (0x00C9, "E"), (0x00D7, "*"), (0x00DC, "U"), (0x00DF, "ss"), (0x00E9, "e"), (0x00EF, "i"),
  (0x00F1, "n"), (0x00F3, "o"), (0x00F6, "o"), (0x00F8, "o"), (0x00FA, "u"), (0x00FC, "u"),
  (0x00FD, "y"), (0x00FE, "th"), (0x010D, "c"), (0x0130, "I"), (0x0131, "i"), (0x0141, "L"),
  (0x0149, "'n"), (0x0153, "oe"), (0x015D, "s"), (0x0165, "t"), (0x017A, "z"), (0x017E, "z"),
  (0x01C5, "Dz"), (0x0301, ""), (0x0303, ""), (0x03A9, "O"), (0x03AE, "i"), (0x03B1, "a"),
  (0x03B2, "v"), (0x03B3, "g"), (0x03C5, "y"), (0x03C7, "ch"), (0x03C8, "ps"), (0x041C, "M"),
  (0x041F, "P"), (0x0430, "a"), (0x0432, "v"), (0x0435, "e"), (0x0436, "zh"), (0x0438, "i"),
  (0x043A, "k"), (0x043B, "l"), (0x043D, "n"), (0x043E, "o"), (0x043F, "p"), (0x0440, "r"),
  (0x0442, "t"), (0x0443, "u"), (0x0447, "ch"), (0x0449, "shch"), (0x044E, "yu"), (0x05D5, "v"),
  (0x05DC, "l"), (0x05DD, "m"), (0x05E9, "s"), (0x0627, ""), (0x0628, "b"), (0x062D, "h"),
  (0x0631, "r"), (0x0645, "m"), (0x0668, "8"), (0x0924, "t"), (0x0928, "n"), (0x092E, "m"),
  (0x0938, "s"), (0x0947, "e"), (0x094D, ""), (0x0E17, "th"), (0x0E22, "y"), (0x0E44, "ai"),
  (0x1E9E, "Ss"), (0x200B, ""), (0x200D, ""), (0x2013, "-"), (0x2014, "-"), (0x201C, "\""),
  (0x201D, "\""), (0x2022, "*"), (0x2026, "..."), (0x2028, " "), (0x2029, " "), (0x20AC, "EUR"),
  (0x2116, "No"), (0x2122, "TM"), (0x2460, "1"), (0x2713, "v"), (0x3000, " "), (0x304B, "ka"),
  (0x306A, "na"), (0x30AB, "ka"), (0x30CA, "na"), (0x4EAC, "Jing"), (0x5317, "Bei"), (0x65E5, "Ri"),
  (0x672C, "Ben"), (0x8A9E, "Yu"), (0xAD6D, "Gug"), (0xD55C, "Han"), (0xE000, ""), (0xFB01, "fi"),
  (0xFEFF, ""), (0xFF11, "1"), (0xFF21, "A"), (0x10348, "hw"), (0x1D400, "A"), (0x1F3FD, ""),
  (0x1F44D, ":thumbsup:"), (0x1F600, ":grinning:"), (0xE0041, "A")]

/-- The spelling of a character. -/
def spelling (c : Char) : List Char :=
  if c.toNat < 0x80 then [c]
  else ((spellings.find? fun entry => entry.1 == c.toNat).map fun entry => entry.2.toList).getD []

/-- A text spelled in ASCII. -/
def toAscii (text : List Char) : List Char :=
  text.flatMap spelling

/-- A text in ASCII is spelled as it is. -/
theorem toAscii_of_ascii {text : List Char} (h : ∀ c ∈ text, c.toNat < 0x80) :
    toAscii text = text := by
  induction text with
  | nil => rfl
  | cons c rest ih =>
    have hc : c.toNat < 0x80 := h c (by simp)
    have hr := ih fun d hd => h d (by simp [hd])
    simp only [toAscii] at hr
    simp [toAscii, spelling, hc, hr]

/-- The style of the names in the clients that commands make. -/
@[reducible] def usualStyle : NameStyle :=
  .ofSpelling toAscii

end TypedClient.Client
