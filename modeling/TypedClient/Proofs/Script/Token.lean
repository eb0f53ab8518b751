import TypedClient.Proofs.Script.StringLiteral
import TypedClient.Proofs.Script.TemplateLiteral

/-!
# Tokens

A script is read as words, literals and marks. A word is as many characters of
identifiers as there are; blanks and block comments stand between tokens. Two texts
side by side have the tokens of both unless a word would go on from the one into the
other.
-/

namespace TypedClient.Script

open TypedClient.Client

/-- A token of a script. -/
inductive Token where
  /-- A name, a keyword or a number. -/
  | word (text : String)
  /-- A string literal that stands for a string. -/
  | string (value : String)
  /-- A template literal, with what it says. -/
  | template (items : List TemplateItem)
  /-- Any other character. -/
  | mark (c : Char)
  deriving DecidableEq, Repr

/-- Where in a script its reader is. -/
inductive Mode where
  /-- Between tokens. -/
  | blank
  /-- In a word, of which the characters so far are given. -/
  | word (soFar : List Char)
  /-- In a string literal, of which the characters so far are given. -/
  | string (soFar : List Char) (mode : StringMode)
  /-- In a template literal, of which the items so far are given. -/
  | template (soFar : List TemplateItem) (mode : TemplateMode)
  /-- After a slash. -/
  | slash
  /-- In a comment, right after a star or not. -/
  | comment (star : Bool)
  deriving DecidableEq, Repr

/-- Reads the first character of a token. -/
def firstStep (c : Char) : Option (List Token × Mode) :=
  if inIdentifier c then some ([], .word [c])
  else if c = ' ' ∨ c = '\t' ∨ c = '\n' then some ([], .blank)
  else if c = '\'' then some ([], .string [] .text)
  else if c.toNat = 0x60 then some ([], .template [] .text)
  else if c = '/' then some ([], .slash)
  else if c = '"' ∨ c = '\\' then none
  else some ([.mark c], .blank)

/-- Reads a character. -/
def Mode.step : Mode → Char → Option (List Token × Mode)
  | .blank, c => firstStep c
  | .word soFar, c =>
    if inIdentifier c then some ([], .word (soFar ++ [c]))
    else (firstStep c).map fun (out, next) => (.word (String.ofList soFar) :: out, next)
  | .string soFar mode, c =>
    match mode.step c with
    | some (out, next) => some ([], .string (soFar ++ out) next)
    | none =>
      if mode = .text ∧ c = '\'' then some ([.string (String.ofList soFar)], .blank) else none
  | .template soFar mode, c =>
    match mode.step c with
    | some (out, next) => some ([], .template (soFar ++ out) next)
    | none =>
      if c.toNat = 0x60 then mode.pending?.map fun out => ([.template (soFar ++ out)], .blank)
      else none
  | .slash, c => if c = '*' then some ([], .comment false) else none
  | .comment star, c => if star ∧ c = '/' then some ([], .blank) else some ([], .comment (c == '*'))

/-- What is still to be said where a script ends; it cannot end in a literal or a comment. -/
def Mode.pending? : Mode → Option (List Token)
  | .blank => some []
  | .word soFar => some [.word (String.ofList soFar)]
  | _ => none

/-- The tokens of a script. -/
def tokens (script : String) : Option (List Token) :=
  match feed Mode.step .blank script.toList with
  | none => none
  | some (out, mode) => mode.pending?.map (out ++ ·)

/-! ### Texts side by side -/

/-- Whether a text ends in a character of a word. -/
def endsInWord (text : String) : Bool :=
  text.toList.getLast?.any inIdentifier

/-- Whether a text starts with a character of a word. -/
def startsWithWord (text : String) : Bool :=
  text.toList.head?.any inIdentifier

/-- Only a character of a word starts one. -/
theorem inIdentifier_of_firstStep {c : Char} {out : List Token} {soFar : List Char}
    (h : firstStep c = some (out, .word soFar)) : inIdentifier c = true := by
  by_contra hc
  rw [firstStep, if_neg hc] at h
  repeat' split at h
  all_goals simp at h

/-- Only a character of a word leaves the reader in one. -/
theorem inIdentifier_of_step {mode : Mode} {c : Char} {out : List Token} {soFar : List Char}
    (h : mode.step c = some (out, .word soFar)) : inIdentifier c = true := by
  by_contra hc
  cases mode with
  | blank => exact hc (inIdentifier_of_firstStep h)
  | word before =>
    rw [Mode.step, if_neg hc, Option.map_eq_some_iff] at h
    obtain ⟨⟨first, next⟩, hf, he⟩ := h
    obtain ⟨-, rfl⟩ := Prod.mk.inj he
    exact hc (inIdentifier_of_firstStep hf)
  | string before inner =>
    rw [Mode.step] at h
    repeat' split at h
    all_goals simp at h
  | template before inner =>
    rw [Mode.step] at h
    split at h
    · simp at h
    · split at h
      · rw [Option.map_eq_some_iff] at h
        obtain ⟨items, -, he⟩ := h
        simp at he
      · simp at h
  | slash =>
    rw [Mode.step] at h
    split at h <;> simp at h
  | comment star =>
    rw [Mode.step] at h
    split at h <;> simp at h

/-- A text after which the reader is in a word ends in one. -/
theorem inIdentifier_of_feed {mode : Mode} {text : List Char} {out : List Token}
    {soFar : List Char} (hne : text ≠ []) (h : feed Mode.step mode text = some (out, .word soFar)) :
    text.getLast?.any inIdentifier = true := by
  induction text generalizing mode out with
  | nil => exact absurd rfl hne
  | cons c rest ih =>
    obtain ⟨first, next, more, hs, hm, rfl⟩ := exists_of_feed_cons h
    cases rest with
    | nil =>
      obtain ⟨-, rfl⟩ : [] = more ∧ next = .word soFar := by simpa [feed] using hm
      exact inIdentifier_of_step hs
    | cons d rest =>
      rw [List.getLast?_cons_cons]
      exact ih (List.cons_ne_nil d rest) hm

/-- A word ends where no character of a word follows. -/
theorem feed_word {soFar : List Char} {c : Char} (h : inIdentifier c = false) (rest : List Char) :
    feed Mode.step (.word soFar) (c :: rest) =
      (feed Mode.step .blank (c :: rest)).map fun (out, last) =>
        (.word (String.ofList soFar) :: out, last) := by
  have hw : Mode.step (.word soFar) c =
      (Mode.step .blank c).map fun (out, next) =>
        ([.word (String.ofList soFar)] ++ out, next) := by
    rw [Mode.step, Mode.step, if_neg (by simp [h])]
    rfl
  exact feed_after hw rest

theorem tokens_eq_some_iff {script : String} {ts : List Token} :
    tokens script = some ts ↔
      ∃ out mode rest, feed Mode.step .blank script.toList = some (out, mode) ∧
        mode.pending? = some rest ∧ ts = out ++ rest := by
  rw [tokens]
  cases feed Mode.step .blank script.toList with
  | none => simp
  | some reply =>
    obtain ⟨out, mode⟩ := reply
    simp [eq_comm]

/-- Two texts side by side have the tokens of both, unless a word goes on from the one into the
other. -/
theorem tokens_append {a b : String} {x y : List Token} (ha : tokens a = some x)
    (hb : tokens b = some y) (h : endsInWord a = false ∨ startsWithWord b = false) :
    tokens (a ++ b) = some (x ++ y) := by
  obtain ⟨out, mode, rest, hfeed, hpending, rfl⟩ := tokens_eq_some_iff.mp ha
  obtain ⟨out', mode', rest', hfeed', hpending', rfl⟩ := tokens_eq_some_iff.mp hb
  rw [tokens_eq_some_iff, String.toList_append, feed_append_eq hfeed]
  cases mode with
  | blank =>
    obtain rfl := Option.some.inj hpending
    exact ⟨out ++ out', mode', rest', by rw [hfeed']; rfl, hpending', by simp⟩
  | word soFar =>
    obtain rfl := Option.some.inj hpending
    cases hl : b.toList with
    | nil =>
      rw [hl] at hfeed'
      obtain ⟨rfl, rfl⟩ : [] = out' ∧ Mode.blank = mode' := by simpa [feed] using hfeed'
      obtain rfl := Option.some.inj hpending'
      exact ⟨out, .word soFar, _, by simp [feed], rfl, by simp⟩
    | cons c more =>
      have hc : inIdentifier c = false := by
        rcases h with h | h
        · have hne : a.toList ≠ [] := by
            intro he
            rw [he] at hfeed
            simp [feed] at hfeed
          rw [endsInWord, inIdentifier_of_feed hne hfeed] at h
          exact absurd h (by decide)
        · simpa [startsWithWord, hl] using h
      rw [hl] at hfeed'
      exact ⟨out ++ (.word (String.ofList soFar) :: out'), mode', rest',
        by rw [feed_word hc, hfeed']; rfl, hpending', by simp⟩
  | string soFar inner => simp [Mode.pending?] at hpending
  | template soFar inner => simp [Mode.pending?] at hpending
  | slash => simp [Mode.pending?] at hpending
  | comment star => simp [Mode.pending?] at hpending

/-- Whether a text may stand between any two: it is not empty and no word is at its ends. -/
def separates (text : String) : Bool :=
  !text.isEmpty && !startsWithWord text && !endsInWord text

theorem startsWithWord_append {a : String} (h : a ≠ "") (b : String) :
    startsWithWord (a ++ b) = startsWithWord a := by
  have ha : a.toList ≠ [] := fun he => h (String.toList_eq_nil_iff.mp he)
  rw [startsWithWord, String.toList_append, List.head?_append_of_ne_nil _ ha]
  rfl

theorem endsInWord_append (a : String) {b : String} (h : b ≠ "") :
    endsInWord (a ++ b) = endsInWord b := by
  have hb : b.toList ≠ [] := fun he => h (String.toList_eq_nil_iff.mp he)
  rw [endsInWord, String.toList_append, List.getLast?_append_of_ne_nil _ hb]
  rfl

/-- Two texts and what separates them have the tokens of all three. -/
theorem tokens_separated {a separator b : String} {x marks y : List Token}
    (h : separates separator = true) (ha : tokens a = some x)
    (hs : tokens separator = some marks) (hb : tokens b = some y) :
    tokens (a ++ separator ++ b) = some (x ++ marks ++ y) := by
  simp only [separates, Bool.and_eq_true, Bool.not_eq_true', String.isEmpty_eq_false_iff] at h
  obtain ⟨⟨hne, hstart⟩, hend⟩ := h
  have hsb := tokens_append hs hb (Or.inl hend)
  rw [String.append_assoc, List.append_assoc]
  exact tokens_append ha hsb (Or.inr (by rw [startsWithWord_append hne, hstart]))

/-- Texts with the tokens of each. -/
def AreRead (texts : List String) (parts : List (List Token)) : Prop :=
  List.Forall₂ (fun text part => tokens text = some part) texts parts

theorem AreRead.append {texts more : List String} {parts others : List (List Token)}
    (h : AreRead texts parts) (h' : AreRead more others) :
    AreRead (texts ++ more) (parts ++ others) :=
  List.rel_append h h'

theorem areRead_map {α : Type} {text : α → String} {part : α → List Token} {l : List α}
    (h : ∀ a ∈ l, tokens (text a) = some (part a)) : AreRead (l.map text) (l.map part) := by
  rwa [AreRead, List.forall₂_map_left_iff, List.forall₂_map_right_iff, List.forall₂_same]

/-- Texts with a separator between each and the next have the tokens of all, with the tokens of the
separator between each and the next. -/
theorem tokens_intercalate {separator : String} {marks : List Token}
    (h : separates separator = true) (hs : tokens separator = some marks) {texts : List String}
    {parts : List (List Token)} (ht : AreRead texts parts) :
    tokens (separator.intercalate texts) = some (marks.intercalate parts) := by
  induction ht with
  | nil => rfl
  | @cons text part texts parts hfirst hrest ih =>
    cases hrest with
    | nil => rwa [String.intercalate_singleton, List.intercalate_singleton]
    | cons =>
      rw [String.intercalate_cons_cons, List.intercalate_cons_cons]
      exact tokens_separated h hfirst hs ih

/-! ### Words and literals -/

/-- An identifier is one word. -/
theorem tokens_word {text : String} (hne : text ≠ "")
    (h : ∀ c ∈ text.toList, inIdentifier c = true) : tokens text = some [.word text] := by
  have hword (soFar rest : List Char) (hr : ∀ c ∈ rest, inIdentifier c = true) :
      feed Mode.step (.word soFar) rest = some ([], .word (soFar ++ rest)) := by
    induction rest generalizing soFar with
    | nil => simp [feed]
    | cons c rest ih =>
      have hs : Mode.step (.word soFar) c = some ([], .word (soFar ++ [c])) := by
        rw [Mode.step, if_pos (hr c List.mem_cons_self)]
      rw [feed_cons hs, ih _ fun d hd => hr d (List.mem_cons_of_mem c hd), List.append_assoc]
      rfl
  rw [tokens_eq_some_iff]
  cases hl : text.toList with
  | nil => exact absurd (String.toList_eq_nil_iff.mp hl) hne
  | cons c rest =>
    rw [hl] at h
    have hs : Mode.step .blank c = some ([], .word [c]) := by
      rw [Mode.step, firstStep, if_pos (h c List.mem_cons_self)]
    refine ⟨[], .word (c :: rest), [.word text], ?_, ?_, rfl⟩
    · rw [feed_cons hs, hword _ _ fun d hd => h d (List.mem_cons_of_mem c hd)]
      rfl
    · rw [Mode.pending?, ← hl, String.ofList_toList]

/-- A string between quotes is one literal that stands for it. -/
theorem tokens_quoted (s : String) : tokens (quoted s) = some [.string s] := by
  have hinner : ∀ said mode c out next, StringMode.step mode c = some (out, next) →
      Mode.step (.string said mode) c = some ([], .string (said ++ out) next) := by
    intro said mode c out next h
    rw [Mode.step, h]
  have hliteral := feed_inner hinner [] (feed_literal s.toList)
  rw [List.nil_append] at hliteral
  have hopen : Mode.step .blank '\'' = some ([], .string [] .text) := rfl
  have hclose : Mode.step (.string s.toList .text) '\'' = some ([.string s], .blank) := by
    have hend : StringMode.step .text '\'' = none := rfl
    rw [Mode.step, hend, if_pos ⟨rfl, rfl⟩, String.ofList_toList]
  rw [tokens_eq_some_iff]
  refine ⟨[.string s], .blank, [], ?_, rfl, rfl⟩
  rw [quoted, String.toList_append, String.toList_append, String.toList_ofList,
    String.toList_ofList, List.singleton_append, List.cons_append, feed_cons hopen,
    feed_append_eq hliteral, feed_cons hclose]
  rfl

/-- A text between backquotes is one literal that says what the text says. -/
theorem tokens_template {text : String} {items : List TemplateItem}
    (h : readTemplate text.toList = some items) :
    tokens ("\x60" ++ text ++ "\x60") = some [.template items] := by
  have hinner : ∀ said mode c out next, TemplateMode.step mode c = some (out, next) →
      Mode.step (.template said mode) c = some ([], .template (said ++ out) next) := by
    intro said mode c out next hs
    rw [Mode.step, hs]
  rw [readTemplate] at h
  cases hf : feed TemplateMode.step .text text.toList with
  | none => simp [hf] at h
  | some reply =>
    obtain ⟨out, mode⟩ := reply
    rw [hf] at h
    obtain ⟨rest, hrest, rfl⟩ := Option.map_eq_some_iff.mp h
    have hliteral := feed_inner hinner [] hf
    rw [List.nil_append] at hliteral
    have hopen : Mode.step .blank '\x60' = some ([], .template [] .text) := rfl
    have hclose : Mode.step (.template out mode) '\x60' =
        some ([.template (out ++ rest)], .blank) := by
      have hend : mode.step '\x60' = none := by
        cases mode with
        | text => rfl
        | dollar => rfl
        | escape => simp [TemplateMode.pending?] at hrest
        | value soFar => simp [TemplateMode.pending?] at hrest
      rw [Mode.step, hend]
      dsimp only
      rw [if_pos (by decide), hrest, Option.map_some]
    have hquote : "\x60".toList = ['\x60'] := rfl
    rw [tokens_eq_some_iff]
    refine ⟨[.template (out ++ rest)], .blank, [], ?_, rfl, rfl⟩
    rw [String.toList_append, String.toList_append, hquote, List.singleton_append,
      List.cons_append, feed_cons hopen, feed_append_eq hliteral, feed_cons hclose]
    rfl

end TypedClient.Script
