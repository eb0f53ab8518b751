import Mathlib
import TypedClient.Client.WordCase

/-!
# The words of a name

A slug is made of the characters of identifiers, and no two underscores in it are
neighbours. Joining its words therefore leaves characters of identifiers among
which there is no underscore, whatever the text was.
-/

namespace TypedClient.Client

/-- Whether a character may stand in a word: it may stand in an identifier and is no underscore. -/
def inWord (c : Char) : Bool :=
  inIdentifier c && c != '_'

theorem inWord_iff {c : Char} : inWord c = true ↔ inIdentifier c = true ∧ c ≠ '_' := by
  simp only [inWord, Bool.and_eq_true, bne_iff_ne]

/-- An identifier character that is no underscore does not stand between words. -/
theorem isWordBreak_eq_false {c : Char} (h : inWord c = true) : isWordBreak c = false := by
  obtain ⟨hi, hu⟩ := inWord_iff.mp h
  have hs : c ≠ ' ' := by rintro rfl; exact absurd hi (by decide)
  have hd : c ≠ '-' := by rintro rfl; exact absurd hi (by decide)
  simp [isWordBreak, hs, hd, hu]

/-- Every identifier character but the underscore belongs to a word. -/
theorem inWord_of_not_isWordBreak {c : Char} (hi : inIdentifier c = true)
    (hb : isWordBreak c = false) : inWord c = true := by
  rw [inWord_iff]
  refine ⟨hi, ?_⟩
  rintro rfl
  exact absurd hb (by decide)

private theorem inIdentifier_of_isAlpha {c : Char} (h : c.isAlpha = true) :
    inIdentifier c = true := by
  simp [inIdentifier, Char.isAlphanum, h]

private theorem ne_underscore_of_isAlpha {c : Char} (h : c.isAlpha = true) : c ≠ '_' := by
  rintro rfl
  exact absurd h (by decide)

/-- A word character stays one as a capital. -/
theorem inWord_toUpper {c : Char} (h : inWord c = true) : inWord c.toUpper = true := by
  by_cases ha : c.isAlpha = true
  · have hu : c.toUpper.isAlpha = true := by rw [Char.isAlpha_toUpper_eq_isAlpha, ha]
    exact inWord_iff.mpr ⟨inIdentifier_of_isAlpha hu, ne_underscore_of_isAlpha hu⟩
  · have hl : ¬ c.isLower = true := by
      intro hl
      exact ha (by simp [Char.isAlpha, hl])
    rwa [Char.toUpper_eq_of_not_isLower hl]

/-- A word character stays one as a small letter. -/
theorem inWord_toLower {c : Char} (h : inWord c = true) : inWord c.toLower = true := by
  by_cases ha : c.isAlpha = true
  · have hl : c.toLower.isAlpha = true := by rw [Char.isAlpha_toLower_eq_isAlpha, ha]
    exact inWord_iff.mpr ⟨inIdentifier_of_isAlpha hl, ne_underscore_of_isAlpha hl⟩
  · have hu : ¬ c.isUpper = true := by
      intro hu
      exact ha (by simp [Char.isAlpha, hu])
    rwa [Char.toLower_eq_of_not_isUpper hu]

/-! ### Slugs -/

/-- Not both characters are underscores. -/
def NotBothUnderscores (a b : Char) : Prop := ¬ (a = '_' ∧ b = '_')

theorem collapse_sublist (text : List Char) : (collapse text).Sublist text := by
  fun_induction collapse text with
  | case1 => exact List.Sublist.refl _
  | case2 c => exact List.Sublist.refl _
  | case3 c d rest h ih => exact ih.cons c
  | case4 c d rest h ih => exact ih.cons_cons c

private theorem head?_collapse (text : List Char) : (collapse text).head? = text.head? := by
  fun_induction collapse text with
  | case1 => rfl
  | case2 c => rfl
  | case3 c d rest h ih =>
    simp only [Bool.and_eq_true, decide_eq_true_eq] at h
    rw [ih, List.head?_cons, List.head?_cons, h.1, h.2]
  | case4 c d rest h ih => rfl

/-- One underscore is left of every run. -/
theorem isChain_collapse (text : List Char) : (collapse text).IsChain NotBothUnderscores := by
  fun_induction collapse text with
  | case1 => exact List.IsChain.nil
  | case2 c => exact List.IsChain.singleton c
  | case3 c d rest h ih => exact ih
  | case4 c d rest h ih =>
    have hh := head?_collapse (d :: rest)
    cases hc : collapse (d :: rest) with
    | nil => exact List.IsChain.singleton c
    | cons e more =>
      rw [hc] at hh ih
      obtain rfl : e = d := by simpa using hh
      refine List.IsChain.cons_cons ?_ ih
      simpa [NotBothUnderscores] using h

private theorem isInfix_dropEnds (p : Char → Bool) (text : List Char) :
    Text.dropEnds p text <:+: text := by
  have hf : Text.dropFront p text <:+ text := List.dropWhile_suffix p
  have hb : Text.dropBack p (Text.dropFront p text) <+: Text.dropFront p text := by
    rw [← List.reverse_suffix]
    simpa [Text.dropBack] using List.dropWhile_suffix (l := (Text.dropFront p text).reverse) p
  exact hb.isInfix.trans hf.isInfix

/-- A slug is made of identifier characters, however the text was spelled. -/
theorem inIdentifier_of_mem_tidy {text : List Char} {c : Char} (h : c ∈ tidy text) :
    inIdentifier c = true := by
  have hm := (collapse_sublist _).subset ((isInfix_dropEnds _ _).subset h)
  obtain ⟨d, -, rfl⟩ := List.mem_map.mp hm
  split
  · assumption
  · decide

/-- No two underscores of a slug are neighbours. -/
theorem isChain_tidy (text : List Char) : (tidy text).IsChain NotBothUnderscores :=
  List.IsChain.infix (isChain_collapse _) (isInfix_dropEnds _ _)

/-! ### Joined words -/

/-- Joining words leaves characters of words, if no underscore stands where a word has to start. -/
theorem inWord_of_mem_joinWords {capital : Bool} {previous : Option Char} {text : List Char}
    (hi : ∀ c ∈ text, inIdentifier c = true) (hc : text.IsChain NotBothUnderscores)
    (hs : capital = true → text.head? ≠ some '_') :
    ∀ c ∈ joinWords capital previous text, inWord c = true := by
  fun_induction joinWords capital previous text with
  | case1 => simp
  | case2 previous c rest ih =>
    have hw : inWord c = true := inWord_iff.mpr ⟨hi c (by simp), by simpa using hs rfl⟩
    intro d hd
    rcases List.mem_cons.mp hd with rfl | hd
    · exact inWord_toUpper hw
    · exact ih (fun e he => hi e (by simp [he])) hc.tail (by simp) d hd
  | case3 capital previous c rest hcap hb ih =>
    -- only an underscore breaks words here, and the next character is none
    have hu : c = '_' := by
      by_contra hne
      have hw := isWordBreak_eq_false (inWord_iff.mpr ⟨hi c (by simp), hne⟩)
      rw [hw] at hb
      exact absurd hb (by decide)
    refine ih (fun e he => hi e (by simp [he])) hc.tail fun _ hh => ?_
    cases rest with
    | nil => simp at hh
    | cons d more =>
      have hd : d = '_' := by simpa using hh
      exact (List.isChain_cons_cons.mp hc).1 ⟨hu, hd⟩
  | case4 capital previous c rest hcap hb hl ih =>
    have hw := inWord_of_not_isWordBreak (hi c (by simp)) (by simpa using hb)
    intro d hd
    rcases List.mem_cons.mp hd with rfl | hd
    · exact hw
    · exact ih (fun e he => hi e (by simp [he])) hc.tail (by simp) d hd
  | case5 capital previous c rest hcap hb hl ih =>
    have hw := inWord_of_not_isWordBreak (hi c (by simp)) (by simpa using hb)
    intro d hd
    rcases List.mem_cons.mp hd with rfl | hd
    · exact inWord_toLower hw
    · exact ih (fun e he => hi e (by simp [he])) hc.tail (by simp) d hd

/-- The joined words of a slug are made of word characters, however the text was spelled. -/
theorem inWord_of_mem_camelCase_tidy {text : List Char} {c : Char}
    (h : c ∈ camelCase (tidy text)) : inWord c = true :=
  inWord_of_mem_joinWords (fun _ hd => inIdentifier_of_mem_tidy hd) (isChain_tidy text) (by simp)
    c h

end TypedClient.Client
