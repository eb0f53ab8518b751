import Mathlib
import TypedClient.Text.Lines

/-!
# Occurrences in lines

A text may hold another at several places, which may overlap. What has no line feed
in it never stands across the end of a line, so it stands in a text of lines as often
as in all its lines together.
-/

namespace TypedClient.Text

/-- The number of places in a text at which `part` stands. -/
def occurrences (part text : List Char) : Nat :=
  text.tails.countP part.isPrefixOf

theorem contains_iff_infix {part text : List Char} :
    contains part text = true ↔ part <:+: text := by
  induction text with
  | nil => simp [contains]
  | cons c rest ih =>
    rw [contains, Bool.or_eq_true, List.isPrefixOf_iff_prefix, ih, List.infix_cons_iff]

theorem occurrences_cons (part : List Char) (c : Char) (rest : List Char) :
    occurrences part (c :: rest) =
      occurrences part rest + if part <+: c :: rest then 1 else 0 := by
  rw [occurrences, List.tails_cons, List.countP_cons, occurrences]
  simp only [List.isPrefixOf_iff_prefix]

theorem occurrences_nil {part : List Char} (h : part ≠ []) : occurrences part [] = 0 := by
  cases part with
  | nil => exact absurd rfl h
  | cons c rest => rfl

/-- A text holds what occurs in it. -/
theorem occurrences_pos_iff {part text : List Char} :
    0 < occurrences part text ↔ part <:+: text := by
  rw [occurrences, List.countP_pos_iff, List.infix_iff_prefix_suffix]
  refine exists_congr fun suffix => ?_
  rw [List.mem_tails, List.isPrefixOf_iff_prefix]
  exact and_comm

/-! ### The first place -/

/-- The first place at which `part` stands in a text is after `before`. -/
structure IsFirst (part before text : List Char) : Prop where
  /-- There is such a place. -/
  stands : before ++ part <+: text
  /-- There is none before it. -/
  least : ∀ other, other ++ part <+: text → before <+: other

section Pair

variable {a b : Char}

/-- Two characters stand nowhere in a text if and only if no two neighbours in it are they. -/
theorem not_pair_infix_iff {text : List Char} :
    ¬ [a, b] <:+: text ↔ text.IsChain fun c d => ¬(c = a ∧ d = b) := by
  rw [List.isChain_iff_forall_rel_of_append_cons_cons]
  constructor
  · rintro h c d front rest rfl ⟨rfl, rfl⟩
    exact h ⟨front, rest, by simp⟩
  · rintro h ⟨front, rest, rfl⟩
    have hsplit : front ++ [a, b] ++ rest = front ++ a :: b :: rest := by simp
    exact h hsplit ⟨rfl, rfl⟩

/-- Two characters stand in a joined text only in one of its parts or across the join. -/
theorem not_pair_infix_append {left right : List Char} (hl : ¬ [a, b] <:+: left)
    (hr : ¬ [a, b] <:+: right) (h : left.getLast? = some a → right.head? ≠ some b) :
    ¬ [a, b] <:+: left ++ right := by
  rw [not_pair_infix_iff] at hl hr ⊢
  refine hl.append hr ?_
  rintro c hc d hd ⟨rfl, rfl⟩
  exact h hc hd

/-- Two characters that differ first stand where they are appended to a text without them. -/
theorem isFirst_append {before rest : List Char} (hab : a ≠ b) (h : ¬ [a, b] <:+: before) :
    IsFirst [a, b] before (before ++ [a, b] ++ rest) := by
  refine ⟨List.prefix_append _ _, fun other hother => ?_⟩
  have hbefore : before <+: before ++ [a, b] ++ rest := by
    rw [List.append_assoc]
    exact List.prefix_append _ _
  rcases Nat.lt_or_ge other.length before.length with hlt | hge
  · -- an earlier place would end within the text and the first of the two characters
    exfalso
    have hshort : ¬ [a, b] <:+: [a] := fun hi => absurd hi.length_le (by simp)
    have hone : ¬ [a, b] <:+: before ++ [a] :=
      not_pair_infix_append h hshort fun _ => by simpa using hab
    have hfront : before ++ [a] <+: before ++ [a, b] ++ rest := ⟨b :: rest, by simp⟩
    have hinside : other ++ [a, b] <+: before ++ [a] :=
      List.prefix_of_prefix_length_le hother hfront (by simp; omega)
    exact hone ((List.suffix_append other [a, b]).isInfix.trans hinside.isInfix)
  · exact List.prefix_of_prefix_length_le hbefore ((List.prefix_append _ _).trans hother) hge

end Pair

/-! ### Parts of lines -/

section Separator

variable {part : List Char} {c : Char} (hc : c ∉ part)
include hc

/-- What lacks a character does not reach across it. -/
theorem prefix_append_cons_iff (front rest : List Char) :
    part <+: front ++ c :: rest ↔ part <+: front := by
  induction part generalizing front with
  | nil => simp
  | cons d part ih =>
    rw [List.mem_cons, not_or] at hc
    cases front with
    | nil =>
      rw [List.nil_append, List.cons_prefix_cons]
      exact iff_of_false (fun h => hc.1 h.1.symm) (by simp)
    | cons e front =>
      rw [List.cons_append, List.cons_prefix_cons, List.cons_prefix_cons, ih hc.2]

/-- What lacks a character occurs before it and after it. -/
theorem occurrences_append_cons (hne : part ≠ []) (front rest : List Char) :
    occurrences part (front ++ c :: rest) =
      occurrences part (front ++ [c]) + occurrences part rest := by
  induction front with
  | nil =>
    have hsingle : ¬ part <+: [c] := by
      have h := prefix_append_cons_iff hc [] []
      rw [List.nil_append] at h
      rw [h, List.prefix_nil]
      exact hne
    have hfront : ¬ part <+: c :: rest := by
      have h := prefix_append_cons_iff hc [] rest
      rw [List.nil_append] at h
      rw [h, List.prefix_nil]
      exact hne
    rw [List.nil_append, List.nil_append, occurrences_cons, if_neg hfront, occurrences_cons,
      if_neg hsingle, occurrences_nil hne]
    omega
  | cons d front ih =>
    have hfront : part <+: d :: (front ++ c :: rest) ↔ part <+: d :: (front ++ [c]) := by
      rw [← List.cons_append, ← List.cons_append, prefix_append_cons_iff hc,
        prefix_append_cons_iff hc]
    rw [List.cons_append, List.cons_append, occurrences_cons, occurrences_cons, ih]
    simp only [hfront]
    omega

end Separator

/-! ### Lines with their ends -/

/-- Lines that each end in a line feed and have no other; only the last may lack its end. -/
inductive AreLines : List (List Char) → Prop where
  /-- No lines. -/
  | nil : AreLines []
  /-- A last line without an end. -/
  | last {line : List Char} (hne : line ≠ []) (h : '\n' ∉ line) : AreLines [line]
  /-- A line with its end. -/
  | cons {front : List Char} {rest : List (List Char)} (h : '\n' ∉ front) (hr : AreLines rest) :
    AreLines ((front ++ ['\n']) :: rest)

theorem areLines_linesKeepingEnds (text : List Char) : AreLines (linesKeepingEnds text) := by
  induction text with
  | nil => exact .nil
  | cons c rest ih =>
    rw [linesKeepingEnds]
    split
    · next hc =>
      subst hc
      have hline : AreLines (([] ++ ['\n']) :: linesKeepingEnds rest) := .cons List.not_mem_nil ih
      exact hline
    · next hc =>
      have hne : '\n' ≠ c := fun he => hc he.symm
      split
      · exact .last (List.cons_ne_nil _ _) (by simpa using hne)
      · next line lines hl =>
        rw [hl] at ih
        cases ih with
        | last hline h => exact .last (List.cons_ne_nil _ _) (by simp [hne, h])
        | @cons front _ h hr =>
          rw [← List.cons_append]
          exact .cons (by simp [hne, h]) hr

namespace AreLines

variable {lines : List (List Char)}

theorem linesKeepingEnds_flatten (h : AreLines lines) : linesKeepingEnds lines.flatten = lines := by
  induction h with
  | nil => rfl
  | @last line hne h =>
    rw [List.flatten_singleton]
    induction line with
    | nil => exact absurd rfl hne
    | cons c rest ih =>
      rw [List.mem_cons, not_or] at h
      rw [linesKeepingEnds, if_neg (Ne.symm h.1)]
      cases rest with
      | nil => rfl
      | cons d rest => rw [ih (List.cons_ne_nil _ _) h.2]
  | @cons front rest h hr ih =>
    rw [List.flatten_cons, List.append_assoc, List.singleton_append]
    clear hr
    induction front with
    | nil => rw [List.nil_append, linesKeepingEnds, if_pos rfl, ih, List.nil_append]
    | cons c front ihf =>
      rw [List.mem_cons, not_or] at h
      rw [List.cons_append, linesKeepingEnds, if_neg (Ne.symm h.1), ihf h.2, List.cons_append]

/-- Lines that are left when others are dropped are lines. -/
theorem filter (h : AreLines lines) (p : List Char → Bool) : AreLines (lines.filter p) := by
  induction h with
  | nil => exact .nil
  | @last line hne h =>
    by_cases hp : p line = true
    · rw [List.filter_cons_of_pos hp]
      exact .last hne h
    · rw [List.filter_cons_of_neg hp]
      exact .nil
  | @cons front rest h hr ih =>
    by_cases hp : p (front ++ ['\n']) = true
    · rw [List.filter_cons_of_pos hp]
      exact .cons h ih
    · rw [List.filter_cons_of_neg hp]
      exact ih

/-- What has no line feed in it occurs in a text as often as in all its lines together. -/
theorem occurrences_flatten (h : AreLines lines) {part : List Char} (hn : '\n' ∉ part)
    (hne : part ≠ []) :
    occurrences part lines.flatten = (lines.map (occurrences part)).sum := by
  induction h with
  | nil => exact occurrences_nil hne
  | last => simp
  | @cons front rest h hr ih =>
    rw [List.flatten_cons, List.append_assoc, List.singleton_append,
      occurrences_append_cons hn hne, ih, List.map_cons, List.sum_cons]

/-- Every line before another has its end. -/
theorem ends_of_append {before after : List (List Char)} {line : List Char}
    (h : AreLines (before ++ line :: after)) :
    ∀ earlier ∈ before, ∃ front, earlier = front ++ ['\n'] := by
  induction before with
  | nil => simp
  | cons first before ih =>
    intro earlier he
    generalize hl : first :: before ++ line :: after = lines at h
    cases h with
    | nil => simp at hl
    | last => simp at hl
    | @cons front rest hfront hr =>
      obtain ⟨rfl, rfl⟩ := List.cons.inj hl
      rcases List.mem_cons.mp he with rfl | he
      · exact ⟨front, rfl⟩
      · exact ih hr earlier he

end AreLines

/-- There is one way to cut a text into lines with their ends. -/
theorem linesKeepingEnds_eq_iff {text : List Char} {lines : List (List Char)} :
    linesKeepingEnds text = lines ↔ AreLines lines ∧ lines.flatten = text := by
  constructor
  · rintro rfl
    exact ⟨areLines_linesKeepingEnds text, flatten_linesKeepingEnds text⟩
  · rintro ⟨h, rfl⟩
    exact h.linesKeepingEnds_flatten

end TypedClient.Text
