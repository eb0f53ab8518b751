import TypedClient.Proofs.Text.Occurrences

/-!
# Numbers of lines

The lines of a text are counted from one. A line starts where the text does or after a
line feed, so its number is one more than that of the line feeds before it; the lines
that a text is cut into stand in the order of these numbers.
-/

namespace TypedClient.Text

/-- A line, with its end, stands between two parts of a text. -/
structure IsLineBetween (before line after : List Char) : Prop where
  /-- It starts the text or comes after a line feed. -/
  starts : before = [] ∨ ['\n'] <:+ before
  /-- There is something of it. -/
  ne_nil : line ≠ []
  /-- It has no line feed before its end. -/
  single : '\n' ∉ line.dropLast
  /-- It ends in a line feed or ends the text. -/
  ends : ['\n'] <:+ line ∨ after = []

/-- Whether a line of a text, with its end, has a number. -/
def IsLineAt (text : List Char) (number : Nat) (line : List Char) : Prop :=
  ∃ before after, before ++ line ++ after = text ∧ IsLineBetween before line after ∧
    number = before.count '\n' + 1

namespace AreLines

variable {lines : List (List Char)}

theorem of_append {before after : List (List Char)} (h : AreLines (before ++ after)) :
    AreLines before ∧ AreLines after := by
  induction before with
  | nil => exact ⟨.nil, h⟩
  | cons first before ih =>
    generalize hl : first :: before ++ after = lines at h
    cases h with
    | nil => simp at hl
    | last hne hline =>
      obtain ⟨rfl, hrest⟩ := List.cons.inj hl
      obtain ⟨rfl, rfl⟩ := List.append_eq_nil_iff.mp hrest
      exact ⟨.last hne hline, .nil⟩
    | cons hfront hr =>
      obtain ⟨rfl, rfl⟩ := List.cons.inj hl
      obtain ⟨hbefore, hafter⟩ := ih hr
      exact ⟨.cons hfront hbefore, hafter⟩

/-- Lines that all have their ends, and lines after them. -/
theorem append {after : List (List Char)} (h : AreLines lines)
    (he : ∀ line ∈ lines, ∃ front, line = front ++ ['\n']) (ha : AreLines after) :
    AreLines (lines ++ after) := by
  induction h with
  | nil => exact ha
  | @last line hne hline =>
    obtain ⟨front, rfl⟩ := he line List.mem_cons_self
    exact absurd (by simp) hline
  | cons hfront hr ih => exact .cons hfront (ih fun line hm => he line (List.mem_cons_of_mem _ hm))

/-- All lines of a text that ends in a line feed have their ends. -/
theorem ends_of_suffix (h : AreLines lines) (hs : lines = [] ∨ ['\n'] <:+ lines.flatten) :
    ∀ line ∈ lines, ∃ front, line = front ++ ['\n'] := by
  cases lines using List.reverseRecOn with
  | nil => simp
  | append_singleton before last =>
    intro line hm
    rcases List.mem_append.mp hm with hm | hm
    · exact h.ends_of_append line hm
    · obtain rfl := List.mem_singleton.mp hm
      have hline : AreLines [line] := h.of_append.2
      generalize hl : [line] = lines at hline
      cases hline with
      | nil => simp at hl
      | @last _ hne hfeed =>
        obtain rfl := List.singleton_inj.mp hl
        have hends : ['\n'] <:+ line := by
          rcases hs with hs | hs
          · simp at hs
          · rw [List.flatten_append, List.flatten_singleton] at hs
            refine List.suffix_of_suffix_length_le hs (List.suffix_append _ _) ?_
            exact List.length_pos_iff.mpr hne
        exact absurd (hends.subset List.mem_cons_self) hfeed
      | @cons front => exact ⟨front, (List.cons.inj hl).1⟩

/-- Lines that all have their ends have one line feed each. -/
theorem count_flatten (h : AreLines lines)
    (he : ∀ line ∈ lines, ∃ front, line = front ++ ['\n']) :
    lines.flatten.count '\n' = lines.length := by
  induction h with
  | nil => rfl
  | @last line hne hline =>
    obtain ⟨front, rfl⟩ := he line List.mem_cons_self
    exact absurd (by simp) hline
  | @cons front rest hfront hr ih =>
    have hrest := ih fun line hm => he line (List.mem_cons_of_mem _ hm)
    rw [List.flatten_cons, List.count_append, List.count_append, hrest,
      List.count_eq_zero_of_not_mem hfront, List.count_singleton_self, List.length_cons]
    omega

/-- A line stands between what the lines before it and those after it make up. -/
theorem isLineBetween {before after : List (List Char)} {line : List Char}
    (h : AreLines (before ++ line :: after)) :
    IsLineBetween before.flatten line after.flatten := by
  have hbefore := h.ends_of_append
  have hstarts : before.flatten = [] ∨ ['\n'] <:+ before.flatten := by
    cases before using List.reverseRecOn with
    | nil => exact Or.inl rfl
    | append_singleton before last =>
      obtain ⟨front, rfl⟩ := hbefore last (by simp)
      right
      rw [List.flatten_append, List.flatten_singleton]
      exact (List.suffix_append front _).trans (List.suffix_append _ _)
  have hline : AreLines (line :: after) := h.of_append.2
  cases hline with
  | last hne hfeed =>
    exact ⟨hstarts, hne, fun hm => hfeed (List.mem_of_mem_dropLast hm), Or.inr rfl⟩
  | @cons front _ hfront _ =>
    refine ⟨hstarts, by simp, ?_, Or.inl (List.suffix_append front _)⟩
    rwa [List.dropLast_concat]

end AreLines

namespace IsLineBetween

variable {before line after : List Char}

/-- A line starts the lines of what is left of the text from it on. -/
theorem areLines_cons (h : IsLineBetween before line after) :
    AreLines (line :: linesKeepingEnds after) := by
  rcases h.ends with ⟨front, rfl⟩ | rfl
  · have hfront := h.single
    rw [List.dropLast_concat] at hfront
    exact .cons hfront (areLines_linesKeepingEnds after)
  · rcases List.eq_nil_or_concat line with rfl | ⟨front, c, rfl⟩
    · exact absurd rfl h.ne_nil
    · have hfront := h.single
      rw [List.concat_eq_append, List.dropLast_concat] at hfront
      rw [List.concat_eq_append]
      by_cases hc : c = '\n'
      · rw [hc]
        exact .cons hfront .nil
      · refine .last (by simp) ?_
        simp [hfront, Ne.symm hc]

/-- The lines of a text are those before a line of it, the line, and those after it. -/
theorem linesKeepingEnds_eq (h : IsLineBetween before line after) :
    linesKeepingEnds (before ++ line ++ after) =
        linesKeepingEnds before ++ line :: linesKeepingEnds after ∧
      (linesKeepingEnds before).length = before.count '\n' := by
  have hbefore := areLines_linesKeepingEnds before
  have hends : ∀ line ∈ linesKeepingEnds before, ∃ front, line = front ++ ['\n'] := by
    refine hbefore.ends_of_suffix ?_
    rw [flatten_linesKeepingEnds]
    rcases h.starts with rfl | hs
    · exact Or.inl rfl
    · exact Or.inr hs
  constructor
  · rw [linesKeepingEnds_eq_iff]
    refine ⟨hbefore.append hends h.areLines_cons, ?_⟩
    simp [flatten_linesKeepingEnds]
  · rw [← hbefore.count_flatten hends, flatten_linesKeepingEnds]

end IsLineBetween

/-- The lines that a text is cut into have their numbers, in order. -/
theorem isLineAt_iff {text line : List Char} {number : Nat} :
    IsLineAt text number line ↔
      ∃ i, (linesKeepingEnds text)[i]? = some line ∧ number = i + 1 := by
  constructor
  · rintro ⟨before, after, rfl, h, rfl⟩
    obtain ⟨hlines, hlength⟩ := h.linesKeepingEnds_eq
    refine ⟨before.count '\n', ?_, rfl⟩
    rw [hlines, ← hlength, List.getElem?_append_right (Nat.le_refl _), Nat.sub_self]
    rfl
  · rintro ⟨i, hi, rfl⟩
    obtain ⟨hlt, rfl⟩ := List.getElem?_eq_some_iff.mp hi
    have hsplit : (linesKeepingEnds text).take i ++
        (linesKeepingEnds text)[i] :: (linesKeepingEnds text).drop (i + 1) =
          linesKeepingEnds text := by
      rw [← List.drop_eq_getElem_cons hlt, List.take_append_drop]
    have hlines := areLines_linesKeepingEnds text
    rw [← hsplit] at hlines
    refine ⟨_, _, ?_, hlines.isLineBetween, ?_⟩
    · conv_rhs => rw [← flatten_linesKeepingEnds text, ← hsplit]
      rw [List.flatten_append, List.flatten_cons, List.append_assoc]
    · rw [hlines.of_append.1.count_flatten hlines.ends_of_append, List.length_take,
        Nat.min_eq_left hlt.le]

end TypedClient.Text
