import TypedClient.Proofs.Text.Lines
import TypedClient.Proofs.Text.Occurrences
import TypedClient.Text.Split

/-!
# Lines that are joined and cut again

Joined with line feeds, lines without one are what the text is cut into at its line
feeds. Cut into lines it gives them back without a carriage return at their ends; so the
lines are restored exactly when none of them ends in one, except the last, whose end is
no line end.
-/

namespace TypedClient.Text

/-- Parts with a separator between them are the pieces of the text, if none of them holds it. -/
theorem pieces_intercalate {separator : Char} {parts : List (List Char)} (hne : parts ≠ [])
    (h : ∀ part ∈ parts, separator ∉ part) :
    pieces separator ([separator].intercalate parts) = parts := by
  -- both lists are what the library's `splitOn` gives
  have hparts := List.splitOn_intercalate separator h hne
  have hpieces := List.splitOn_intercalate separator
    (fun piece => @not_mem_of_mem_pieces separator ([separator].intercalate parts) piece)
    (pieces_ne_nil _ _)
  rwa [intercalate_pieces, hparts, eq_comm] at hpieces

/-- A text without a line feed is one line. -/
theorem lines_of_not_mem {line : List Char} (hne : line ≠ []) (h : '\n' ∉ line) :
    lines line = [line] := by
  have hcut : linesKeepingEnds line = [line] :=
    linesKeepingEnds_eq_iff.mpr ⟨.last hne h, List.flatten_singleton⟩
  rw [lines, hcut, List.map_singleton, dropLineEnd_of_not_mem h]

/-- The first line of a text ends at its first line feed. -/
theorem lines_append {front : List Char} (h : '\n' ∉ front) (rest : List Char) :
    lines (front ++ '\n' :: rest) = dropReturn front :: lines rest := by
  have hcut : linesKeepingEnds (front ++ '\n' :: rest) =
      (front ++ ['\n']) :: linesKeepingEnds rest := by
    rw [linesKeepingEnds_eq_iff]
    refine ⟨.cons h (areLines_linesKeepingEnds rest), ?_⟩
    rw [List.flatten_cons, flatten_linesKeepingEnds, List.append_assoc, List.singleton_append]
  rw [lines, hcut, List.map_cons, dropLineEnd_concat]
  rfl

/-- Of a text that does not end in a carriage return, the first line ends in one exactly when two
of them stand before the first line feed. -/
theorem getLast?_headD_lines_iff {text : List Char} (h : text.getLast? ≠ some '\r') :
    ((lines text).headD []).getLast? = some '\r' ↔
      ∃ front rest, '\n' ∉ front ∧ text = front ++ '\r' :: '\r' :: '\n' :: rest := by
  constructor
  · intro hlast
    by_cases hfeed : '\n' ∈ text
    · obtain ⟨first, rest, rfl, hfirst⟩ := List.eq_append_cons_of_mem hfeed
      rw [lines_append hfirst, List.headD_cons, dropReturn] at hlast
      by_cases hr : first.getLast? = some '\r'
      · rw [if_pos hr] at hlast
        have htwo : first = first.dropLast.dropLast ++ ['\r'] ++ ['\r'] := by
          rw [List.dropLast_append_getLast? _ hlast, List.dropLast_append_getLast? _ hr]
        refine ⟨first.dropLast.dropLast, rest, fun hm => hfirst ?_, ?_⟩
        · exact List.mem_of_mem_dropLast (List.mem_of_mem_dropLast hm)
        · conv_lhs => rw [htwo]
          simp
      · rw [if_neg hr] at hlast
        exact absurd hlast hr
    · by_cases hne : text = []
      · rw [hne] at hlast
        contradiction
      · rw [lines_of_not_mem hne hfeed, List.headD_cons] at hlast
        exact absurd hlast h
  · rintro ⟨front, rest, hfront, rfl⟩
    have hreturns : '\n' ∉ (front ++ ['\r']) ++ ['\r'] := by simp [hfront]
    have htext : front ++ '\r' :: '\r' :: '\n' :: rest =
        ((front ++ ['\r']) ++ ['\r']) ++ '\n' :: rest := by simp
    rw [htext, lines_append hreturns, dropReturn_concat_return, List.headD_cons,
      List.getLast?_concat]

/-- Cut into lines, a text of lines loses the carriage returns at the ends of all but the last. -/
theorem lines_intercalate {front : List (List Char)} {last : List Char}
    (hf : ∀ line ∈ front, '\n' ∉ line) (hl : '\n' ∉ last) (hne : last ≠ []) :
    lines (['\n'].intercalate (front ++ [last])) = front.map dropReturn ++ [last] := by
  induction front with
  | nil => rw [List.nil_append, List.intercalate_singleton, lines_of_not_mem hne hl]; rfl
  | cons line front ih =>
    have hrest := ih fun other ho => hf other (List.mem_cons_of_mem line ho)
    rw [List.cons_append, List.intercalate_cons_of_ne_nil (by simp), List.append_assoc,
      List.singleton_append, lines_append (hf line List.mem_cons_self), hrest, List.map_cons,
      List.cons_append]

/-- Joined again, the lines of a text of lines are the text exactly when none but the last ends in
a carriage return. -/
theorem intercalate_lines_eq_iff {front : List (List Char)} {last : List Char}
    (hf : ∀ line ∈ front, '\n' ∉ line) (hl : '\n' ∉ last) (hne : last ≠ []) :
    ['\n'].intercalate (lines (['\n'].intercalate (front ++ [last]))) =
        ['\n'].intercalate (front ++ [last]) ↔
      ∀ line ∈ front, line.getLast? ≠ some '\r' := by
  have hall : ∀ line ∈ front ++ [last], '\n' ∉ line := by
    intro line hm
    rcases List.mem_append.mp hm with hm | hm
    · exact hf line hm
    · exact List.mem_singleton.mp hm ▸ hl
  have hcut : lines (['\n'].intercalate (front ++ [last])) = front ++ [last] ↔
      ∀ line ∈ front, line.getLast? ≠ some '\r' := by
    have hmap := List.map_inj_left (l := front) (f := dropReturn) (g := id)
    rw [List.map_id] at hmap
    rw [lines_intercalate hf hl hne, List.append_left_inj, hmap]
    exact forall₂_congr fun _ _ => dropReturn_eq_self_iff
  rw [← hcut]
  constructor
  · intro h
    have hlines : lines (['\n'].intercalate (front ++ [last])) ≠ [] := by
      rw [lines_intercalate hf hl hne]
      simp
    have hpieces := congrArg (pieces '\n') h
    rwa [pieces_intercalate hlines fun _ => lineFeed_not_mem_of_mem_lines,
      pieces_intercalate (by simp) hall] at hpieces
  · intro h
    rw [h]

end TypedClient.Text
