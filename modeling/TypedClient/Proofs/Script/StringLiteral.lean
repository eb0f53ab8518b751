import Mathlib
import TypedClient.Client.Literal
import TypedClient.Proofs.Script.Reading

/-!
# Reading string literals

What stands between the single quotes of a string literal is read as characters. A
backslash makes one of the character or the code after it; a line end cannot stand
in a literal, and an unescaped quote would end it. A string that is written with
escapes is read as itself.
-/

namespace TypedClient.Script

open TypedClient.Client

/-- Where in a string literal its reader is. -/
inductive StringMode where
  /-- In text. -/
  | text
  /-- After a backslash. -/
  | escape
  /-- In the digits of a code, of which the ones so far are given. -/
  | code (digits : List Nat)
  deriving DecidableEq, Repr

/-- The value of a hexadecimal digit. -/
def hexValue? (c : Char) : Option Nat :=
  let n := c.toNat
  if 48 ≤ n ∧ n ≤ 57 then some (n - 48)
  else if 97 ≤ n ∧ n ≤ 102 then some (n - 87)
  else if 65 ≤ n ∧ n ≤ 70 then some (n - 55)
  else none

/-- Reads a character after a backslash. -/
def escapeStep (c : Char) : Option (List Char × StringMode) :=
  if c = '\\' ∨ c = '\'' then some ([c], .text)
  else if c = 'n' then some (['\n'], .text)
  else if c = 'r' then some (['\r'], .text)
  else if c = 't' then some (['\t'], .text)
  else if c = 'u' then some ([], .code [])
  else none

/-- Reads a digit of a code after the ones so far. The fourth ends the code, which is that of a
character. -/
def codeStep : List Nat → Nat → Option (List Char × StringMode)
  | [x, y, z], w =>
    let code := ((x * 16 + y) * 16 + z) * 16 + w
    if code.isValidChar then some ([Char.ofNat code], .text) else none
  | digits, w => some ([], .code (digits ++ [w]))

/-- Reads a character. -/
def StringMode.step : StringMode → Char → Option (List Char × StringMode)
  | .text, c =>
    if c = '\'' ∨ c = '\n' ∨ c = '\r' then none
    else if c = '\\' then some ([], .escape)
    else some ([c], .text)
  | .escape, c => escapeStep c
  | .code digits, c => (hexValue? c).bind (codeStep digits)

theorem StringMode.step_backslash : StringMode.step .text '\\' = some ([], .escape) := rfl

theorem StringMode.step_u : StringMode.step .escape 'u' = some ([], .code []) := rfl

theorem hexValue?_hexDigit {n : Nat} (h : n < 16) : hexValue? (Json.hexDigit n) = some n := by
  interval_cases n <;> rfl

/-- A code of four digits is read as the character that has it. -/
theorem feed_hexFour (c : Char) (h : c.toNat < 65536) :
    feed StringMode.step (.code []) (Json.hexFour c.toNat) = some ([c], .text) := by
  have hdigit (digits : List Nat) (n : Nat) :
      StringMode.step (.code digits) (Json.hexDigit (n % 16)) = codeStep digits (n % 16) := by
    rw [StringMode.step, hexValue?_hexDigit (Nat.mod_lt _ (by decide)), Option.bind_some]
  have hfirst (n : Nat) : StringMode.step (.code []) (Json.hexDigit (n % 16)) =
      some ([], .code [n % 16]) := hdigit [] n
  have hsecond (x n : Nat) : StringMode.step (.code [x]) (Json.hexDigit (n % 16)) =
      some ([], .code [x, n % 16]) := hdigit [x] n
  have hthird (x y n : Nat) : StringMode.step (.code [x, y]) (Json.hexDigit (n % 16)) =
      some ([], .code [x, y, n % 16]) := hdigit [x, y] n
  have hsum : ((c.toNat / 4096 % 16 * 16 + c.toNat / 256 % 16) * 16 + c.toNat / 16 % 16) * 16 +
      c.toNat % 16 = c.toNat := by omega
  have hvalid : c.toNat.isValidChar := c.valid
  have hlast : codeStep [c.toNat / 4096 % 16, c.toNat / 256 % 16, c.toNat / 16 % 16]
      (c.toNat % 16) = some ([c], .text) := by
    rw [codeStep, hsum, if_pos hvalid, Char.ofNat_toNat]
  rw [Json.hexFour, feed_cons (hfirst _), feed_cons (hsecond _ _), feed_cons (hthird _ _ _),
    feed_cons ((hdigit _ _).trans hlast)]
  rfl

private theorem lt_of_coded {c : Char}
    (h : (c.toNat = 0x2028 || c.toNat = 0x2029 || Text.isControl c) = true) :
    c.toNat < 65536 := by
  simp only [Text.isControl, Bool.or_eq_true, decide_eq_true_eq, Bool.and_eq_true] at h
  omega

/-- A character of a literal is read as itself. -/
theorem feed_literalChar (c : Char) :
    feed StringMode.step .text (literalChar c) = some ([c], .text) := by
  by_cases hback : c = '\\'
  · subst hback
    rfl
  by_cases hquote : c = '\''
  · subst hquote
    rfl
  by_cases hfeed : c = '\n'
  · subst hfeed
    rfl
  by_cases hreturn : c = '\r'
  · subst hreturn
    rfl
  by_cases htab : c = '\t'
  · subst htab
    rfl
  rw [literalChar, if_neg hback, if_neg hquote, if_neg hfeed, if_neg hreturn, if_neg htab]
  split
  · next hcode =>
    rw [feed_cons StringMode.step_backslash, feed_cons StringMode.step_u,
      feed_hexFour c (lt_of_coded hcode)]
    rfl
  · have hs : StringMode.step .text c = some ([c], .text) := by
      rw [StringMode.step, if_neg (by simp [hquote, hfeed, hreturn]), if_neg hback]
    rw [feed_cons hs]
    rfl

/-- A string that is written with escapes is read as itself. -/
theorem feed_literal (text : List Char) :
    feed StringMode.step .text (text.flatMap literalChar) = some (text, .text) := by
  induction text with
  | nil => rfl
  | cons c rest ih =>
    rw [List.flatMap_cons]
    exact feed_append (feed_literalChar c) ih

/-! ### The characters of a literal -/

/-- The hexadecimal digits. -/
def hexDigits : List Char := "0123456789abcdef".toList

theorem mem_hexDigits_of_mem_hexFour {n : Nat} {c : Char} (h : c ∈ Json.hexFour n) :
    c ∈ hexDigits := by
  have hdigit : ∀ k < 16, Json.hexDigit k ∈ hexDigits := by decide
  simp only [Json.hexFour, List.mem_cons, List.not_mem_nil, or_false] at h
  rcases h with rfl | rfl | rfl | rfl <;> exact hdigit _ (Nat.mod_lt _ (by decide))

/-- What a character is written as: itself if it is neither a quote nor a backslash nor has a
code, or a backslash, a character after it and digits. -/
theorem literalChar_cases (c : Char) :
    (literalChar c = [c] ∧ c ≠ '\'' ∧ c ≠ '\\' ∧
      (c.toNat = 0x2028 || c.toNat = 0x2029 || Text.isControl c) = false) ∨
    ∃ mark digits, literalChar c = '\\' :: mark :: digits ∧
      mark ∈ ['\\', '\'', 'n', 'r', 't', 'u'] ∧ ∀ d ∈ digits, d ∈ hexDigits := by
  by_cases hback : c = '\\'
  · exact Or.inr ⟨'\\', [], by rw [literalChar, if_pos hback], by decide, by simp⟩
  by_cases hquote : c = '\''
  · exact Or.inr ⟨'\'', [], by rw [literalChar, if_neg hback, if_pos hquote], by decide, by simp⟩
  rw [literalChar, if_neg hback, if_neg hquote]
  split
  · exact Or.inr ⟨'n', [], rfl, by decide, by simp⟩
  split
  · exact Or.inr ⟨'r', [], rfl, by decide, by simp⟩
  split
  · exact Or.inr ⟨'t', [], rfl, by decide, by simp⟩
  split
  · exact Or.inr ⟨'u', Json.hexFour c.toNat, rfl, by decide,
      fun d hd => mem_hexDigits_of_mem_hexFour hd⟩
  · next hcode => exact Or.inl ⟨rfl, hquote, hback, Bool.eq_false_iff.mpr hcode⟩

/-- Whether a character may stand in a literal as it is: it is no control character and separates
no lines and no paragraphs. -/
def standsRaw (c : Char) : Bool :=
  !(c.toNat = 0x2028 || c.toNat = 0x2029 || Text.isControl c)

theorem standsRaw_of_printable {c : Char} (h : 0x20 ≤ c.toNat ∧ c.toNat < 0x7F) :
    standsRaw c = true := by
  simp only [standsRaw, Text.isControl, Bool.not_eq_true', Bool.or_eq_false_iff,
    Bool.and_eq_false_iff, decide_eq_false_iff_not]
  omega

theorem standsRaw_of_mem_literalChar {c d : Char} (h : d ∈ literalChar c) : standsRaw d = true := by
  have hmarks : ∀ e ∈ ['\\', '\'', 'n', 'r', 't', 'u'], 0x20 ≤ e.toNat ∧ e.toNat < 0x7F :=
    List.forall_iff_forall_mem.mp (by decide)
  have hhex : ∀ e ∈ hexDigits, 0x20 ≤ e.toNat ∧ e.toNat < 0x7F :=
    List.forall_iff_forall_mem.mp (by decide)
  rcases literalChar_cases c with ⟨hl, -, -, hcode⟩ | ⟨mark, digits, hl, hmark, hdigits⟩
  · rw [hl] at h
    obtain rfl := List.mem_singleton.mp h
    rw [standsRaw, hcode]
    rfl
  · rw [hl] at h
    rcases List.mem_cons.mp h with rfl | h
    · decide
    rcases List.mem_cons.mp h with rfl | h
    · exact standsRaw_of_printable (hmarks _ hmark)
    · exact standsRaw_of_printable (hhex d (hdigits d h))

end TypedClient.Script
