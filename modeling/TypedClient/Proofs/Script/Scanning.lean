import TypedClient.Client.Comment
import TypedClient.Proofs.Naming.Locals
import TypedClient.Proofs.Script.Numeral
import TypedClient.Proofs.Script.Token
import TypedClient.Proofs.Text.Lines

/-!
# Scanning declarations

Where numerals may stand, a word that starts with a digit goes on over its point and
the sign of its exponent, so that a numeral is one token. A text is a block if its
reader is between tokens after it as it was before it; blocks one after the other are
a block, and have the tokens of both.
-/

namespace TypedClient.Script

open TypedClient.Client

/-- Whether a numeral goes on with a character. -/
def goesOn (soFar : List Char) (c : Char) : Bool :=
  inIdentifier c || c == '.' || ((c == '+' || c == '-') && soFar.getLast? == some 'e')

/-- Reads a character; a word that starts with a digit is a numeral. -/
def Mode.scan : Mode → Char → Option (List Token × Mode)
  | .word soFar, c =>
    if startsWithDigit soFar && goesOn soFar c then some ([], .word (soFar ++ [c]))
    else Mode.step (.word soFar) c
  | mode, c => mode.step c

/-- The tokens of a declaration. -/
def scan (text : String) : Option (List Token) :=
  match feed Mode.scan .blank text.toList with
  | none => none
  | some (ts, mode) => mode.pending?.map (ts ++ ·)

/-- The reader is between tokens after the text as it was before it, and has said these. -/
def IsBlock (text : String) (ts : List Token) : Prop :=
  feed Mode.scan .blank text.toList = some (ts, .blank)

theorem scan_of_isBlock {text : String} {ts : List Token} (h : IsBlock text ts) :
    scan text = some ts := by
  have hpending : Mode.blank.pending? = some [] := rfl
  rw [IsBlock] at h
  rw [scan, h]
  dsimp only
  rw [hpending, Option.map_some, List.append_nil]

theorem isBlock_empty : IsBlock "" [] := rfl

theorem IsBlock.append {a b : String} {x y : List Token} (ha : IsBlock a x) (hb : IsBlock b y) :
    IsBlock (a ++ b) (x ++ y) := by
  rw [IsBlock, String.toList_append]
  exact feed_append ha hb

/-- Blocks one below the other. -/
theorem IsBlock.lines_append {a b : List String} {x y : List Token}
    (ha : IsBlock ("\n".intercalate a) x) (hb : IsBlock ("\n".intercalate b) y) :
    IsBlock ("\n".intercalate (a ++ b)) (x ++ y) := by
  have hempty {ts : List Token} (h : IsBlock ("\n".intercalate []) ts) : ts = [] := by
    rw [String.intercalate_nil] at h
    exact (Prod.mk.inj (Option.some.inj h)).1.symm
  by_cases hna : a = []
  · subst hna
    rw [hempty ha]
    exact hb
  by_cases hnb : b = []
  · subst hnb
    rw [hempty hb, List.append_nil, List.append_nil]
    exact ha
  have hfeed : IsBlock "\n" [] := rfl
  have hfirst := ha.append hfeed
  rw [List.append_nil] at hfirst
  rw [String.intercalate_append_of_ne_nil hna hnb]
  exact hfirst.append hb

theorem toList_indent (level : Nat) : (indent level).toList = List.replicate level '\t' := by
  rw [indent, Text.toList_pushn]
  rfl

theorem isBlock_indent (level : Nat) : IsBlock (indent level) [] := by
  have htab : Mode.scan .blank '\t' = some ([], .blank) := rfl
  rw [IsBlock, toList_indent]
  induction level with
  | zero => rfl
  | succ n ih =>
    rw [List.replicate_succ, feed_cons htab, ih]
    rfl

/-! ### Words and numerals -/

/-- Whether a text starts with a character that ends a word. -/
def endsWord (text : String) : Bool :=
  text.toList.head?.any fun c => !inIdentifier c && c != '.' && c != '+' && c != '-'

theorem endsWord_append {a : String} (h : endsWord a = true) (b : String) :
    endsWord (a ++ b) = true := by
  rw [endsWord] at h ⊢
  cases hl : a.toList with
  | nil =>
    rw [hl] at h
    exact absurd h (by decide)
  | cons c rest =>
    rw [hl] at h
    rw [String.toList_append, hl]
    exact h

/-- A word is said where it ends. -/
theorem isBlock_word {word back : String} {ts : List Token}
    (hw : feed Mode.scan .blank word.toList = some ([], .word word.toList)) (hb : IsBlock back ts)
    (hend : endsWord back = true) : IsBlock (word ++ back) (.word word :: ts) := by
  rw [IsBlock, String.toList_append, feed_append_eq hw]
  rw [IsBlock] at hb
  rw [endsWord] at hend
  cases hl : back.toList with
  | nil =>
    rw [hl] at hend
    exact absurd hend (by decide)
  | cons c rest =>
    rw [hl] at hb hend
    have hc : ((inIdentifier c = false ∧ c ≠ '.') ∧ c ≠ '+') ∧ c ≠ '-' := by simpa using hend
    obtain ⟨⟨⟨hident, hpoint⟩, hplus⟩, hminus⟩ := hc
    have hgo : goesOn word.toList c = false := by
      simp [goesOn, hident, hpoint, hplus, hminus]
    have hstep : Mode.scan (.word word.toList) c =
        (Mode.scan .blank c).map (Prod.map ([.word word] ++ ·) id) := by
      rw [Mode.scan, hgo, Bool.and_false, if_neg (by decide), Mode.step, if_neg (by simp [hident]),
        String.ofList_toList]
      rfl
    rw [feed_after hstep, hb]
    rfl

theorem feed_inIdentifier (soFar : List Char) {rest : List Char}
    (h : ∀ c ∈ rest, inIdentifier c = true) :
    feed Mode.scan (.word soFar) rest = some ([], .word (soFar ++ rest)) := by
  induction rest generalizing soFar with
  | nil => simp [feed]
  | cons c rest ih =>
    have hc := h c List.mem_cons_self
    have hs : Mode.scan (.word soFar) c = some ([], .word (soFar ++ [c])) := by
      rw [Mode.scan]
      split
      · rfl
      · rw [Mode.step, if_pos hc]
    rw [feed_cons hs, ih _ fun d hd => h d (List.mem_cons_of_mem c hd), List.append_assoc]
    rfl

theorem scan_first {c : Char} (h : inIdentifier c = true) :
    Mode.scan .blank c = some ([], .word [c]) := by
  show Mode.step .blank c = _
  rw [Mode.step, firstStep, if_pos h]

theorem feed_identifier {word : List Char} (h : isIdentifier word = true) :
    feed Mode.scan .blank word = some ([], .word word) := by
  cases word with
  | nil => exact absurd h (by decide)
  | cons c rest =>
    have hmem (d : Char) (hd : d ∈ c :: rest) : inIdentifier d = true :=
      inIdentifier_of_mem_identifier h hd
    rw [feed_cons (scan_first (hmem c List.mem_cons_self)),
      feed_inIdentifier [c] fun d hd => hmem d (List.mem_cons_of_mem c hd)]
    rfl

theorem isBlock_identifier {name back : String} {ts : List Token}
    (h : isIdentifier name.toList = true) (hb : IsBlock back ts) (hend : endsWord back = true) :
    IsBlock (name ++ back) (.word name :: ts) :=
  isBlock_word (feed_identifier h) hb hend

theorem inIdentifier_of_isDigit {c : Char} (h : c.isDigit = true) : inIdentifier c = true := by
  simp [inIdentifier, Char.isAlphanum, h]

theorem startsWithDigit_append {soFar : List Char} (h : startsWithDigit soFar = true)
    (more : List Char) : startsWithDigit (soFar ++ more) = true := by
  cases soFar with
  | nil => exact absurd h (by decide)
  | cons => exact h

theorem scan_numeral {soFar : List Char} {c : Char} (hs : startsWithDigit soFar = true)
    (hgo : goesOn soFar c = true) :
    Mode.scan (.word soFar) c = some ([], .word (soFar ++ [c])) := by
  rw [Mode.scan, hs, hgo, Bool.and_true, if_pos rfl]

/-- A numeral goes on over digits and points. -/
theorem feed_digits {soFar : List Char} (hs : startsWithDigit soFar = true) {rest : List Char}
    (h : ∀ c ∈ rest, c.isDigit = true ∨ c = '.') :
    feed Mode.scan (.word soFar) rest = some ([], .word (soFar ++ rest)) := by
  induction rest generalizing soFar with
  | nil => simp [feed]
  | cons c rest ih =>
    have hgo : goesOn soFar c = true := by
      rcases h c List.mem_cons_self with hc | rfl
      · simp [goesOn, inIdentifier_of_isDigit hc]
      · simp [goesOn]
    rw [feed_cons (scan_numeral hs hgo),
      ih (startsWithDigit_append hs [c]) fun d hd => h d (List.mem_cons_of_mem c hd),
      List.append_assoc]
    rfl

/-- A numeral goes on over its exponent. -/
theorem feed_exponent {soFar tail : List Char} (hs : startsWithDigit soFar = true)
    (h : IsExponent tail) :
    feed Mode.scan (.word soFar) tail = some ([], .word (soFar ++ tail)) := by
  rcases h with rfl | ⟨sign, digits, rfl, hsign, hdigits⟩
  · simp [feed]
  · have hletter : goesOn soFar 'e' = true := rfl
    have hgo : goesOn (soFar ++ ['e']) sign = true := by
      rcases hsign with rfl | rfl <;> simp [goesOn]
    rw [feed_cons (scan_numeral hs hletter),
      feed_cons (scan_numeral (startsWithDigit_append hs ['e']) hgo),
      feed_inIdentifier _ fun c hc => inIdentifier_of_isDigit (hdigits c hc)]
    simp

theorem feed_numeral {word : List Char} {value : ℚ} (h : numeral? word = some value) :
    feed Mode.scan .blank word = some ([], .word word) := by
  obtain ⟨c, front, tail, rfl, hc, hfront, htail⟩ := exists_of_numeral? h
  have hstart (rest : List Char) : startsWithDigit (c :: rest) = true := by
    simpa [startsWithDigit] using hc
  rw [List.cons_append, feed_cons (scan_first (inIdentifier_of_isDigit hc)),
    feed_append (feed_digits (hstart []) hfront) (feed_exponent (hstart front) htail)]
  rfl

theorem isBlock_numeral {word back : String} {value : ℚ} {ts : List Token}
    (h : numeral? word.toList = some value) (hb : IsBlock back ts) (hend : endsWord back = true) :
    IsBlock (word ++ back) (.word word :: ts) :=
  isBlock_word (feed_numeral h) hb hend

/-- A string between quotes is one token. -/
theorem isBlock_quoted (s : String) : IsBlock (quoted s) [.string s] := by
  have hinner : ∀ said mode c out next, StringMode.step mode c = some (out, next) →
      Mode.scan (.string said mode) c = some ([], .string (said ++ out) next) := by
    intro said mode c out next h
    show Mode.step (.string said mode) c = _
    rw [Mode.step, h]
  have hliteral := feed_inner hinner [] (feed_literal s.toList)
  rw [List.nil_append] at hliteral
  have hopen : Mode.scan .blank '\'' = some ([], .string [] .text) := rfl
  have hclose : Mode.scan (.string s.toList .text) '\'' = some ([.string s], .blank) := by
    have hend : StringMode.step .text '\'' = none := rfl
    show Mode.step (.string s.toList .text) '\'' = _
    rw [Mode.step, hend, if_pos ⟨rfl, rfl⟩, String.ofList_toList]
  have hquote : "'".toList = ['\''] := rfl
  rw [IsBlock, quoted, String.toList_append, String.toList_append, hquote, String.toList_ofList,
    List.singleton_append, List.cons_append, feed_cons hopen, feed_append_eq hliteral,
    feed_cons hclose]
  rfl

end TypedClient.Script
