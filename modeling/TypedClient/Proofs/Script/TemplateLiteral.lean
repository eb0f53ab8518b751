import Mathlib
import TypedClient.Client.Route
import TypedClient.Proofs.Script.Reading

/-!
# Reading template literals

What stands between the backquotes of a template literal is read as characters and
interpolations. A backslash makes the backslash, backquote or dollar sign after it a
character; an unescaped dollar sign opens an interpolation if a brace follows, which
the next closing brace ends; an unescaped backquote would end the literal and is
refused. A run of text that is written with escapes is read as itself.
-/

namespace TypedClient.Script

open TypedClient.Client

/-- A part of what a template literal says. -/
inductive TemplateItem where
  /-- A character. -/
  | char (c : Char)
  /-- The value of an expression. -/
  | value (expression : List Char)
  deriving DecidableEq, Repr

/-- Where in a template literal its reader is. -/
inductive TemplateMode where
  /-- In text. -/
  | text
  /-- After a dollar sign in text. -/
  | dollar
  /-- After a backslash in text. -/
  | escape
  /-- In an interpolation, of which the characters so far are given, last character first. -/
  | value (soFar : List Char)
  deriving DecidableEq, Repr

/-- Reads a character of text. -/
def textStep (c : Char) : Option (List TemplateItem × TemplateMode) :=
  if c.toNat = 0x60 then none
  else if c = '\\' then some ([], .escape)
  else if c = '$' then some ([], .dollar)
  else some ([.char c], .text)

/-- Reads a character. -/
def TemplateMode.step : TemplateMode → Char → Option (List TemplateItem × TemplateMode)
  | .text, c => textStep c
  | .dollar, c =>
    if c = '\x7b' then some ([], .value [])
    else (textStep c).map fun (items, mode) => (.char '$' :: items, mode)
  | .escape, c =>
    if c = '\\' ∨ c.toNat = 0x60 ∨ c = '$' then some ([.char c], .text) else none
  | .value soFar, c =>
    if c = '\x7d' then some ([.value soFar.reverse], .text) else some ([], .value (c :: soFar))

theorem TemplateMode.step_backslash : TemplateMode.step .text '\\' = some ([], .escape) := rfl

theorem TemplateMode.step_dollar : TemplateMode.step .text '$' = some ([], .dollar) := rfl

theorem TemplateMode.step_open : TemplateMode.step .dollar '\x7b' = some ([], .value []) := rfl

/-- What is still to be said where a literal ends; a literal ends in text. -/
def TemplateMode.pending? : TemplateMode → Option (List TemplateItem)
  | .text => some []
  | .dollar => some [.char '$']
  | .escape => none
  | .value _ => none

/-- What a text says between the backquotes of a template literal. -/
def readTemplate (text : List Char) : Option (List TemplateItem) :=
  match feed TemplateMode.step .text text with
  | none => none
  | some (items, mode) => mode.pending?.map (items ++ ·)

/-- The expressions that are interpolated, in order. -/
def interpolations (items : List TemplateItem) : List (List Char) :=
  items.filterMap fun
    | .char _ => none
    | .value expression => some expression

/-- The text of a template literal with names in braces in place of its interpolations, in order. -/
def putBack : List (List Char) → List TemplateItem → List Char
  | _, [] => []
  | names, .char c :: items => c :: putBack names items
  | [], .value _ :: items => putBack [] items
  | name :: names, .value _ :: items => '\x7b' :: name ++ '\x7d' :: putBack names items

theorem interpolations_append (items more : List TemplateItem) :
    interpolations (items ++ more) = interpolations items ++ interpolations more := by
  rw [interpolations, List.filterMap_append]
  rfl

theorem interpolations_chars (run : List Char) : interpolations (run.map .char) = [] := by
  rw [interpolations, List.filterMap_map, List.filterMap_eq_nil_iff]
  intro c _
  rfl

theorem interpolations_value_cons (expression : List Char) (items : List TemplateItem) :
    interpolations (.value expression :: items) = expression :: interpolations items := rfl

theorem putBack_chars_append (names : List (List Char)) (run : List Char)
    (items : List TemplateItem) :
    putBack names (run.map .char ++ items) = run ++ putBack names items := by
  induction run with
  | nil => rfl
  | cons c run ih => rw [List.map_cons, List.cons_append, putBack, ih, List.cons_append]

/-! ### Runs of text -/

/-- What is said on a run of text and where its reader is then: a dollar sign at its end is not said
before the next character is known. -/
def runReading (run : List Char) : List TemplateItem × TemplateMode :=
  if run.getLast? = some '$' then (run.dropLast.map .char, .dollar) else (run.map .char, .text)

theorem runReading_singleton {c : Char} (h : c ≠ '$') : runReading [c] = ([.char c], .text) := by
  simp [runReading, h]

theorem runReading_cons_cons (c d : Char) (rest : List Char) :
    runReading (c :: d :: rest) =
      (.char c :: (runReading (d :: rest)).1, (runReading (d :: rest)).2) := by
  simp only [runReading, List.getLast?_cons_cons, List.dropLast_cons_cons, List.map_cons]
  split <;> rfl

theorem runReading_cons {c : Char} (h : c ≠ '$') (rest : List Char) :
    runReading (c :: rest) = (.char c :: (runReading rest).1, (runReading rest).2) := by
  cases rest with
  | nil => exact runReading_singleton h
  | cons d rest => exact runReading_cons_cons c d rest

/-- A run of text is written with a brace first only if it has one there. -/
theorem exists_escapeRun_cons {run : List Char} (hne : run ≠ []) (h : run.head? ≠ some '\x7b') :
    ∃ d more, escapeRun run = d :: more ∧ d ≠ '\x7b' := by
  fun_cases escapeRun run with
  | case1 => exact absurd rfl hne
  | case2 rest => exact ⟨'\\', _, rfl, by decide⟩
  | case3 rest hd => exact ⟨'\\', _, rfl, by decide⟩
  | case4 c rest hd hc hb => exact ⟨'\\', _, rfl, by decide⟩
  | case5 c rest hd hc hb => exact ⟨c, _, rfl, by simpa using h⟩

/-- A dollar sign is a character if no brace follows. -/
theorem feed_dollar {c : Char} (h : c ≠ '\x7b') (rest : List Char) :
    feed TemplateMode.step .dollar (c :: rest) =
      (feed TemplateMode.step .text (c :: rest)).map fun (items, mode) =>
        (.char '$' :: items, mode) := by
  have hd : TemplateMode.step .dollar c =
      (TemplateMode.step .text c).map fun (items, mode) => ([.char '$'] ++ items, mode) := by
    rw [TemplateMode.step, TemplateMode.step, if_neg h]
    rfl
  exact feed_after hd rest

/-- A run of text that is written with escapes is read as itself. -/
theorem feed_escapeRun (run : List Char) :
    feed TemplateMode.step .text (escapeRun run) = some (runReading run) := by
  fun_induction escapeRun run with
  | case1 => rfl
  | case2 rest ih =>
    have hs : feed TemplateMode.step .text ('\\' :: '$' :: '\x7b' :: escapeRun rest) =
        (feed TemplateMode.step .text (escapeRun rest)).map fun (items, mode) =>
          (.char '$' :: .char '\x7b' :: items, mode) := by
      have hdollar : TemplateMode.step .escape '$' = some ([.char '$'], .text) := rfl
      have hbrace : TemplateMode.step .text '\x7b' = some ([.char '\x7b'], .text) := rfl
      rw [feed_cons TemplateMode.step_backslash, feed_cons hdollar, feed_cons hbrace]
      cases feed TemplateMode.step .text (escapeRun rest) <;> rfl
    rw [hs, ih, runReading_cons_cons, runReading_cons (by decide)]
    rfl
  | case3 rest hd ih =>
    have he : TemplateMode.step .escape '\\' = some ([.char '\\'], .text) := rfl
    rw [feed_cons TemplateMode.step_backslash, feed_cons he, ih, runReading_cons (by decide)]
    rfl
  | case4 c rest hd hc hb ih =>
    have hne : c ≠ '$' := by rintro rfl; exact absurd hb (by decide)
    have he : TemplateMode.step .escape c = some ([.char c], .text) := by
      rw [TemplateMode.step, if_pos (Or.inr (Or.inl hb))]
    rw [feed_cons TemplateMode.step_backslash, feed_cons he, ih, runReading_cons hne]
    rfl
  | case5 c rest hd hc hb ih =>
    by_cases hdollar : c = '$'
    · subst hdollar
      cases rest with
      | nil => rfl
      | cons d rest =>
        have hne : d ≠ '\x7b' := by
          rintro rfl
          exact hd rest rfl rfl
        obtain ⟨e, more, he, hb⟩ :=
          exists_escapeRun_cons (List.cons_ne_nil d rest) (by simpa using hne)
        rw [feed_cons TemplateMode.step_dollar, he, feed_dollar hb, ← he, ih,
          runReading_cons_cons]
        rfl
    · have hs : TemplateMode.step .text c = some ([.char c], .text) := by
        rw [TemplateMode.step, textStep, if_neg hb, if_neg hc, if_neg hdollar]
      rw [feed_cons hs, ih, runReading_cons hdollar]
      rfl

/-- A run of text that ends the literal is read as itself, whatever it ends in. -/
theorem readTemplate_escapeRun (run : List Char) :
    readTemplate (escapeRun run) = some (run.map .char) := by
  rw [readTemplate, feed_escapeRun, runReading]
  by_cases hd : run.getLast? = some '$'
  · have he : run.dropLast ++ ['$'] = run := List.dropLast_append_getLast? _ hd
    rw [if_pos hd]
    nth_rewrite 2 [← he]
    simp [TemplateMode.pending?]
  · rw [if_neg hd]
    simp [TemplateMode.pending?]

/-- What a literal says after a part of it that leaves its reader in text. -/
theorem readTemplate_append {a : List Char} {items : List TemplateItem}
    (h : feed TemplateMode.step .text a = some (items, .text)) (b : List Char) :
    readTemplate (a ++ b) = (readTemplate b).map (items ++ ·) := by
  rw [readTemplate, feed_append_eq h, readTemplate]
  cases feed TemplateMode.step .text b with
  | none => rfl
  | some reply =>
    obtain ⟨more, mode⟩ := reply
    rw [Option.map_some, Option.map_map]
    simp [Function.comp_def]

/-- A brace that closes is written as it is. -/
theorem escapeRun_append_brace (run : List Char) :
    escapeRun (run ++ ['\x7d']) = escapeRun run ++ ['\x7d'] := by
  fun_induction escapeRun run with
  | case1 => rfl
  | case2 rest ih =>
    rw [List.cons_append, List.cons_append, escapeRun, ih]
    rfl
  | case3 rest hd ih =>
    rw [List.cons_append, escapeRun.eq_3 _ _ (by simp), if_pos rfl, ih]
    rfl
  | case4 c rest hd hc hb ih =>
    rw [List.cons_append, escapeRun.eq_3 _ _ (by rintro _ rfl; exact absurd hb (by decide)),
      if_neg hc, if_pos hb, ih]
    rfl
  | case5 c rest hd hc hb ih =>
    have hd' : ∀ more, c = '$' → rest ++ ['\x7d'] = '\x7b' :: more → False := by
      intro more hdollar he
      cases rest with
      | nil => simp at he
      | cons d rest => exact hd rest hdollar (by rw [(List.cons.inj he).1])
    rw [List.cons_append, escapeRun.eq_3 _ _ hd', if_neg hc, if_neg hb, ih]
    rfl

/-- A run of text without a brace that closes is written without one. -/
theorem brace_not_mem_escapeRun {run : List Char} (h : '\x7d' ∉ run) : '\x7d' ∉ escapeRun run := by
  fun_induction escapeRun run with
  | case1 => exact h
  | case2 rest ih => simp_all
  | case3 rest hd ih => simp_all
  | case4 c rest hd hc hb ih => simp_all
  | case5 c rest hd hc hb ih => simp_all

/-! ### Interpolations -/

/-- The next brace that closes ends an interpolation. -/
theorem feed_value (soFar : List Char) {expression : List Char} (h : '\x7d' ∉ expression) :
    feed TemplateMode.step (.value soFar) (expression ++ ['\x7d']) =
      some ([.value (soFar.reverse ++ expression)], .text) := by
  induction expression generalizing soFar with
  | nil => simp [feed, TemplateMode.step]
  | cons c rest ih =>
    rw [List.mem_cons, not_or] at h
    have hs : TemplateMode.step (.value soFar) c = some ([], .value (c :: soFar)) := by
      rw [TemplateMode.step, if_neg (Ne.symm h.1)]
    rw [List.cons_append, feed_cons hs, ih _ h.2, List.reverse_cons, List.append_assoc]
    rfl

/-- An interpolation that is written in text is one. -/
theorem feed_interpolation {expression : List Char} (h : '\x7d' ∉ expression) :
    feed TemplateMode.step .text ('$' :: '\x7b' :: (expression ++ ['\x7d'])) =
      some ([.value expression], .text) := by
  rw [feed_cons TemplateMode.step_dollar, feed_cons TemplateMode.step_open, feed_value [] h]
  rfl

/-- A dollar sign before an interpolation is a character. -/
theorem feed_dollar_interpolation {expression : List Char} (h : '\x7d' ∉ expression) :
    feed TemplateMode.step .dollar ('$' :: '\x7b' :: (expression ++ ['\x7d'])) =
      some ([.char '$', .value expression], .text) := by
  rw [feed_dollar (by decide), feed_interpolation h]
  rfl

end TypedClient.Script
