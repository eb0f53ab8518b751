import Mathlib
import TypedClient.Text.Lines
import TypedClient.Text.Blank

/-!
# Line feeds

Cutting a text into lines leaves no line feed inside a line: a line loses its line feed
and the carriage return before it, if there is one. Trimming a line brings in no character.
-/

namespace TypedClient.Text

theorem toList_pushn (s : String) (c : Char) (n : Nat) :
    (s.pushn c n).toList = s.toList ++ List.replicate n c := by
  rw [String.pushn_eq_repeat_push]
  induction n with
  | zero => simp [Nat.repeat]
  | succ n ih => rw [Nat.repeat, String.toList_push, ih, List.replicate_succ', List.append_assoc]

/-- A line with its end is a line without a line feed, and then a line feed or nothing. -/
theorem exists_of_mem_linesKeepingEnds {text line : List Char} (h : line ∈ linesKeepingEnds text) :
    ∃ front, '\n' ∉ front ∧ (line = front ∨ line = front ++ ['\n']) := by
  induction text generalizing line with
  | nil => exact absurd h List.not_mem_nil
  | cons c rest ih =>
    rw [linesKeepingEnds] at h
    split at h
    · next hc =>
      subst hc
      rcases List.mem_cons.mp h with rfl | h
      · exact ⟨[], List.not_mem_nil, Or.inr rfl⟩
      · exact ih h
    · next hc =>
      have hne : '\n' ≠ c := fun he => hc he.symm
      split at h
      · obtain rfl := List.mem_singleton.mp h
        exact ⟨[c], by simp [hne], Or.inl rfl⟩
      · next first others hl =>
        rcases List.mem_cons.mp h with rfl | h
        · obtain ⟨front, hfront, he⟩ := ih (hl ▸ List.mem_cons_self)
          refine ⟨c :: front, by simp [hne, hfront], ?_⟩
          rcases he with rfl | rfl
          · exact Or.inl rfl
          · exact Or.inr rfl
        · exact ih (hl ▸ List.mem_cons_of_mem first h)

/-- A line without the carriage return at its end. -/
def dropReturn (line : List Char) : List Char :=
  if line.getLast? = some '\r' then line.dropLast else line

theorem dropReturn_eq_self_iff {line : List Char} :
    dropReturn line = line ↔ line.getLast? ≠ some '\r' := by
  rw [dropReturn]
  by_cases h : line.getLast? = some '\r'
  · rw [if_pos h]
    refine iff_of_false (fun he => ?_) (not_not_intro h)
    have hlength := congrArg List.length he
    have hpos : line ≠ [] := by
      rintro rfl
      contradiction
    rw [List.length_dropLast] at hlength
    have hlt := List.length_pos_iff.mpr hpos
    omega
  · rw [if_neg h]
    exact iff_of_true rfl h

theorem dropReturn_concat_return (line : List Char) : dropReturn (line ++ ['\r']) = line := by
  rw [dropReturn, if_pos List.getLast?_concat, List.dropLast_concat]

theorem dropLineEnd_of_not_mem {line : List Char} (h : '\n' ∉ line) : dropLineEnd line = line := by
  rw [← List.mem_reverse] at h
  rw [dropLineEnd]
  split
  · next hr => exact absurd (hr ▸ List.mem_cons_self) h
  · next hr => exact absurd (hr ▸ List.mem_cons_self) h
  · rfl

/-- The end of a line is its line feed, with a carriage return before it. -/
theorem dropLineEnd_concat (line : List Char) : dropLineEnd (line ++ ['\n']) = dropReturn line := by
  rw [dropLineEnd, List.reverse_append, List.reverse_singleton, List.singleton_append]
  split
  · next rest hr =>
    have hline : line = rest.reverse ++ ['\r'] := by
      rw [← List.reverse_cons, ← (List.cons.inj hr).2, List.reverse_reverse]
    rw [hline, dropReturn_concat_return]
  · next rest hreturn hr =>
    obtain rfl : line.reverse = rest := (List.cons.inj hr).2
    rw [List.reverse_reverse, eq_comm, dropReturn_eq_self_iff]
    intro hlast
    apply hreturn line.dropLast.reverse
    rw [← List.dropLast_append_getLast? _ hlast]
    simp
  · next hother => exact absurd rfl (hother line.reverse)

/-- No line of a text has a line feed in it. -/
theorem lineFeed_not_mem_of_mem_lines {text line : List Char} (h : line ∈ lines text) :
    '\n' ∉ line := by
  rw [lines, List.mem_map] at h
  obtain ⟨whole, hw, rfl⟩ := h
  obtain ⟨front, hfront, rfl | rfl⟩ := exists_of_mem_linesKeepingEnds hw
  · rwa [dropLineEnd_of_not_mem hfront]
  · rw [dropLineEnd_concat, dropReturn]
    split
    · exact fun hfeed => hfront (List.mem_of_mem_dropLast hfeed)
    · exact hfront

/-- Whether there is no line feed in a text. -/
def IsLine (text : String) : Prop :=
  '\n' ∉ text.toList

instance (text : String) : Decidable (IsLine text) :=
  inferInstanceAs (Decidable ('\n' ∉ text.toList))

theorem IsLine.append {a b : String} (ha : IsLine a) (hb : IsLine b) : IsLine (a ++ b) := by
  rw [IsLine, String.toList_append, List.mem_append, not_or]
  exact ⟨ha, hb⟩

theorem IsLine.intercalate {separator : String} {texts : List String} (hs : IsLine separator)
    (h : ∀ text ∈ texts, IsLine text) : IsLine (separator.intercalate texts) := by
  induction texts with
  | nil =>
    rw [String.intercalate_nil]
    decide
  | cons text texts ih =>
    have hrest := ih fun other ho => h other (List.mem_cons_of_mem text ho)
    have hfirst := h text List.mem_cons_self
    by_cases hne : texts = []
    · subst hne
      rwa [String.intercalate_singleton]
    · rw [String.intercalate_cons_of_ne_nil hne]
      exact (hfirst.append hs).append hrest

theorem mem_of_mem_trimEnd {text : List Char} {c : Char} (h : c ∈ trimEnd text) : c ∈ text := by
  rw [trimEnd, dropBack, List.mem_reverse] at h
  exact List.mem_reverse.mp ((List.dropWhile_sublist isBlank).subset h)

/-- Trimming leaves nothing of a text if and only if it is blank. -/
theorem trim_eq_nil_iff {text : List Char} :
    trim text = [] ↔ ∀ c ∈ text, isBlank c = true := by
  rw [trim, dropEnds, dropBack, dropFront, List.reverse_eq_nil_iff, List.dropWhile_eq_nil_iff]
  simp only [List.mem_reverse]
  constructor
  · intro h c hc
    rw [← List.takeWhile_append_dropWhile (p := isBlank) (l := text), List.mem_append] at hc
    rcases hc with hc | hc
    · exact List.mem_takeWhile_imp hc
    · exact h c hc
  · intro h c hc
    exact h c ((List.dropWhile_sublist _).subset hc)

theorem lines_eq_nil_iff {text : List Char} : lines text = [] ↔ text = [] := by
  rw [lines, List.map_eq_nil_iff]
  constructor
  · intro h
    rw [← flatten_linesKeepingEnds text, h, List.flatten_nil]
  · rintro rfl
    rfl

end TypedClient.Text
