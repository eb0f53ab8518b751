import TypedClient.Proofs.Script.TemplateLiteral

/-!
# Escapes of template literals

A character is escaped if an odd number of backslashes stands before it. A run of text is
written with every backquote and every dollar sign before a brace escaped, also where the
run itself has backslashes before them, and it is read as itself. Writing it in one pass is
the same as replacing, one kind after the other, the backslashes, the backquotes and the
openings of interpolations.
-/

namespace TypedClient.Script

open TypedClient.Client

private theorem not_prefix_of_ne {a c : Char} (h : c ≠ a) (more rest : List Char) :
    ¬ a :: more <+: c :: rest := by
  rw [List.cons_prefix_cons]
  exact fun hp => h hp.1.symm

/-- No interpolation opens in what is written for a run if none opens in the run and no brace is
written that the rest of the run does not start with. -/
private theorem not_opening {c : Char} {rest written : List Char}
    (h : ∀ more, c = '$' → rest = '\x7b' :: more → False)
    (hw : written.head? = some '\x7b' → rest.head? = some '\x7b') :
    ¬ ['$', '\x7b'] <+: c :: written := by
  rw [List.cons_prefix_cons]
  rintro ⟨hc, back, rfl⟩
  obtain ⟨more, hr⟩ := List.head?_eq_some_iff.mp (hw rfl)
  exact h more hc.symm hr

/-! ### Replacing -/

section Replacing

variable (part replacement : List Char)

/-- The text with a replacement for each `part`, looked for from left to right. Some characters at
the start still belong to the part that was found last. -/
def replaceFrom : Nat → List Char → List Char
  | _, [] => []
  | taken + 1, _ :: rest => replaceFrom taken rest
  | 0, c :: rest =>
    if part <+: c :: rest then replacement ++ replaceFrom (part.length - 1) rest
    else c :: replaceFrom 0 rest

/-- The text with a replacement for each `part` in it. -/
def replaceAll (text : List Char) : List Char :=
  replaceFrom part replacement 0 text

variable {part}

theorem replaceAll_cons_of_not_prefix {c : Char} {rest : List Char} (h : ¬ part <+: c :: rest) :
    replaceAll part replacement (c :: rest) = c :: replaceAll part replacement rest := by
  rw [replaceAll, replaceFrom, if_neg h]
  rfl

/-- A character is replaced wherever it stands. -/
theorem replaceAll_singleton (a : Char) (text : List Char) :
    replaceAll [a] replacement text = text.flatMap fun c => if c = a then replacement else [c] := by
  induction text with
  | nil => rfl
  | cons c rest ih =>
    rw [List.flatMap_cons, ← ih]
    by_cases hc : c = a
    · subst hc
      rw [if_pos rfl, replaceAll, replaceFrom, if_pos ⟨rest, rfl⟩]
      rfl
    · rw [if_neg hc, replaceAll_cons_of_not_prefix _ (not_prefix_of_ne hc [] rest)]
      rfl

theorem replaceAll_pair (a b : Char) (rest : List Char) :
    replaceAll [a, b] replacement (a :: b :: rest) =
      replacement ++ replaceAll [a, b] replacement rest := by
  rw [replaceAll, replaceFrom, if_pos ⟨rest, rfl⟩]
  rfl

end Replacing

/-- A character as the first two kinds of escapes leave it. -/
private def escapeChar (c : Char) : List Char :=
  if c = '\\' then ['\\', '\\'] else if c = '\x60' then ['\\', '\x60'] else [c]

private theorem replaceAll_backquotes (text : List Char) :
    replaceAll ['\x60'] ['\\', '\x60'] (replaceAll ['\\'] ['\\', '\\'] text) =
      text.flatMap escapeChar := by
  rw [replaceAll_singleton, replaceAll_singleton, List.flatMap_assoc]
  refine List.flatMap_congr fun c _ => ?_
  rw [escapeChar]
  by_cases hc : c = '\\'
  · rw [if_pos hc, if_pos hc]
    rfl
  · rw [if_neg hc, if_neg hc, List.flatMap_singleton]

/-- The escapes bring in no brace. -/
private theorem head?_flatMap_escapeChar {text : List Char}
    (h : (text.flatMap escapeChar).head? = some '\x7b') : text.head? = some '\x7b' := by
  cases text with
  | nil => exact h
  | cons c rest =>
    rw [List.flatMap_cons, escapeChar] at h
    split at h
    · simp at h
    · split at h
      · simp at h
      · simpa using h

/-- Writing a run of text in one pass is replacing, one after the other, backslashes, backquotes and
the openings of interpolations. -/
theorem escapeRun_eq_replaceAll (text : List Char) :
    escapeRun text =
      replaceAll ['$', '\x7b'] ['\\', '$', '\x7b']
        (replaceAll ['\x60'] ['\\', '\x60'] (replaceAll ['\\'] ['\\', '\\'] text)) := by
  rw [replaceAll_backquotes]
  fun_induction escapeRun text with
  | case1 => rfl
  | case2 rest ih =>
    have hc : ('$' :: '\x7b' :: rest).flatMap escapeChar =
        '$' :: '\x7b' :: rest.flatMap escapeChar := rfl
    rw [hc, replaceAll_pair, ih]
    rfl
  | case3 rest hd ih =>
    have hc : ('\\' :: rest).flatMap escapeChar = '\\' :: '\\' :: rest.flatMap escapeChar := rfl
    rw [hc, replaceAll_cons_of_not_prefix _ (not_prefix_of_ne (by decide) _ _),
      replaceAll_cons_of_not_prefix _ (not_prefix_of_ne (by decide) _ _), ih]
  | case4 c rest hd hc hb ih =>
    obtain rfl : c = '\x60' := Char.toNat_inj.mp hb
    have hc : ('\x60' :: rest).flatMap escapeChar = '\\' :: '\x60' :: rest.flatMap escapeChar := rfl
    rw [hc, replaceAll_cons_of_not_prefix _ (not_prefix_of_ne (by decide) _ _),
      replaceAll_cons_of_not_prefix _ (not_prefix_of_ne (by decide) _ _), ih]
  | case5 c rest hd hc hb ih =>
    have hb' : c ≠ '\x60' := by rintro rfl; exact hb rfl
    have hchar : (c :: rest).flatMap escapeChar = c :: rest.flatMap escapeChar := by
      rw [List.flatMap_cons, escapeChar, if_neg hc, if_neg hb']
      rfl
    rw [hchar, replaceAll_cons_of_not_prefix _ (not_opening hd head?_flatMap_escapeChar), ih]

/-! ### What is escaped -/

/-- What follows a text is escaped by it: an odd number of backslashes ends the text. -/
def EscapesNext (front : List Char) : Prop :=
  Odd (front.reverse.takeWhile (· == '\\')).length

/-- A part of a text is escaped wherever it stands. -/
def IsEscapedIn (part text : List Char) : Prop :=
  ∀ front back, text = front ++ part ++ back → EscapesNext front

theorem escapesNext_backslash : EscapesNext ['\\'] := by
  simp [EscapesNext]

/-- What escapes nothing does not change what is escaped after it. -/
theorem escapesNext_append_iff {start : List Char} (h : ¬ EscapesNext start) (front : List Char) :
    EscapesNext (start ++ front) ↔ EscapesNext front := by
  rw [EscapesNext, Nat.not_odd_iff_even] at h
  rw [EscapesNext, EscapesNext, List.reverse_append, List.takeWhile_append]
  split
  · next hall => rw [List.length_append, hall, Nat.odd_add, iff_true_right h]
  · rfl

theorem not_escapesNext_singleton {c : Char} (h : c ≠ '\\') : ¬ EscapesNext [c] := by
  simp [EscapesNext, h]

/-- A backslash escapes the character after it, be it a backslash itself, and that one none. -/
theorem not_escapesNext_pair (d : Char) : ¬ EscapesNext ['\\', d] := by
  by_cases hd : d = '\\'
  · subst hd
    simp [EscapesNext]
  · simp [EscapesNext, hd]

section IsEscapedIn

variable {p : Char} {more text : List Char}

/-- A character that is no backslash may stand before a text in which a part is escaped, if the
part does not start there. -/
theorem IsEscapedIn.cons {c : Char} (h : IsEscapedIn (p :: more) text) (hc : c ≠ '\\')
    (hp : ¬ p :: more <+: c :: text) : IsEscapedIn (p :: more) (c :: text) := by
  intro front back he
  cases front with
  | nil => exact absurd ⟨back, he.symm⟩ hp
  | cons d front =>
    simp only [List.cons_append, List.cons.injEq] at he
    obtain ⟨rfl, he⟩ := he
    have hn := h front back (by simpa using he)
    exact (escapesNext_append_iff (not_escapesNext_singleton hc) front).mpr hn

/-- An escaped character may stand before a text in which a part is escaped. -/
theorem IsEscapedIn.escape (h : IsEscapedIn (p :: more) text) (hp : p ≠ '\\') (d : Char) :
    IsEscapedIn (p :: more) ('\\' :: d :: text) := by
  intro front back he
  match front with
  | [] => exact absurd (List.cons.inj he).1.symm hp
  | [b] =>
    obtain rfl : '\\' = b := (List.cons.inj he).1
    exact escapesNext_backslash
  | b :: e :: front =>
    simp only [List.cons_append, List.cons.injEq] at he
    obtain ⟨rfl, rfl, he⟩ := he
    have hn := h front back (by simpa using he)
    exact (escapesNext_append_iff (not_escapesNext_pair d) front).mpr hn

end IsEscapedIn

theorem head?_of_head?_escapeRun {text : List Char} (h : (escapeRun text).head? = some '\x7b') :
    text.head? = some '\x7b' := by
  by_contra hhead
  have hne : text ≠ [] := by
    rintro rfl
    simp [escapeRun] at h
  obtain ⟨d, more, he, hd⟩ := exists_escapeRun_cons hne hhead
  rw [he] at h
  exact hd (by simpa using h)

/-- No backquote and no opening of an interpolation is left without its escape. -/
theorem isEscapedIn_escapeRun (text : List Char) :
    IsEscapedIn ['\x60'] (escapeRun text) ∧ IsEscapedIn ['$', '\x7b'] (escapeRun text) := by
  fun_induction escapeRun text with
  | case1 =>
    have hnil (p : Char) (more : List Char) : IsEscapedIn (p :: more) [] := by
      intro front back he
      simp at he
    exact ⟨hnil _ _, hnil _ _⟩
  | case2 rest ih =>
    have hb : ('\x7b' : Char) ≠ '\\' := by decide
    exact ⟨(ih.1.cons hb (not_prefix_of_ne (by decide) _ _)).escape (by decide) '$',
      (ih.2.cons hb (not_prefix_of_ne (by decide) _ _)).escape (by decide) '$'⟩
  | case3 rest hd ih => exact ⟨ih.1.escape (by decide) '\\', ih.2.escape (by decide) '\\'⟩
  | case4 c rest hd hc hb ih => exact ⟨ih.1.escape (by decide) c, ih.2.escape (by decide) c⟩
  | case5 c rest hd hc hb ih =>
    have hb' : c ≠ '\x60' := by rintro rfl; exact hb rfl
    exact ⟨ih.1.cons hc (not_prefix_of_ne hb' _ _),
      ih.2.cons hc (not_opening hd head?_of_head?_escapeRun)⟩

/-- Whatever a run of text is, it is written as if its backslashes, backquotes and openings of
interpolations were replaced one kind after the other. It is read as itself, and each backquote
and each opening in what is written has an odd number of backslashes before it. -/
theorem escapeRun_reads_back (text : List Char) :
    escapeRun text =
        replaceAll ['$', '\x7b'] ['\\', '$', '\x7b']
          (replaceAll ['\x60'] ['\\', '\x60'] (replaceAll ['\\'] ['\\', '\\'] text)) ∧
      readTemplate (escapeRun text) = some (text.map .char) ∧
      IsEscapedIn ['\x60'] (escapeRun text) ∧ IsEscapedIn ['$', '\x7b'] (escapeRun text) :=
  ⟨escapeRun_eq_replaceAll text, readTemplate_escapeRun text, isEscapedIn_escapeRun text⟩

/-- A backslash of the text before a backquote gets an escape of its own. -/
example : escapeRun ['\\', '\x60', '$', '$', '\x7b'] =
    ['\\', '\\', '\\', '\x60', '$', '\\', '$', '\x7b'] := by
  decide

end TypedClient.Script
