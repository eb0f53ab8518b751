import Mathlib
import TypedClient.Text.Blank

/-!
# Runs of characters

The run of characters of a kind at the start of a text goes up to the first character
that is not of the kind. A text is that run and what is left. What is left after such
runs are dropped at both ends neither starts nor ends with a character of the kind.
-/

namespace TypedClient.Text

section Runs

variable {p : Char → Bool} {run rest : List Char}

theorem takeWhile_append (hr : ∀ c ∈ run, p c = true) (h : rest.head?.any p = false) :
    (run ++ rest).takeWhile p = run := by
  rw [List.takeWhile_append_of_pos hr]
  cases rest with
  | nil => rw [List.takeWhile_nil, List.append_nil]
  | cons c rest =>
    have hc : p c = false := by simpa using h
    rw [List.takeWhile_cons_of_neg (by simp [hc]), List.append_nil]

theorem dropWhile_append (hr : ∀ c ∈ run, p c = true) (h : rest.head?.any p = false) :
    (run ++ rest).dropWhile p = rest := by
  rw [List.dropWhile_append_of_pos hr]
  cases rest with
  | nil => rfl
  | cons c rest =>
    have hc : p c = false := by simpa using h
    rw [List.dropWhile_cons_of_neg (by simp [hc])]

theorem head?_dropWhile_any (p : Char → Bool) (text : List Char) :
    (text.dropWhile p).head?.any p = false := by
  have hfirst := List.head?_dropWhile_not p text
  cases hc : (text.dropWhile p).head? with
  | none => rfl
  | some c => rwa [hc] at hfirst

/-- A text is a run of characters of a kind, and what does not go on with it. -/
theorem exists_run_append (p : Char → Bool) (text : List Char) :
    ∃ run rest, text = run ++ rest ∧ (∀ c ∈ run, p c = true) ∧ rest.head?.any p = false :=
  ⟨text.takeWhile p, text.dropWhile p, List.takeWhile_append_dropWhile.symm,
    fun _ => List.mem_takeWhile_imp, head?_dropWhile_any p text⟩

end Runs

section Ends

variable (p : Char → Bool) (text : List Char)

theorem getLast?_dropBack_any : (dropBack p text).getLast?.any p = false := by
  rw [dropBack, List.getLast?_reverse]
  exact head?_dropWhile_any p text.reverse

/-- A text does not start with a character that was dropped at its ends. -/
theorem head?_dropEnds_any : (dropEnds p text).head?.any p = false := by
  obtain ⟨back, hback⟩ : dropBack p (dropFront p text) <+: dropFront p text :=
    List.rdropWhile_prefix p (dropFront p text)
  have hfront : (dropFront p text).head?.any p = false := head?_dropWhile_any p text
  rw [dropEnds]
  cases hc : dropBack p (dropFront p text) with
  | nil => rfl
  | cons c rest =>
    rw [hc] at hback
    rwa [← hback] at hfront

/-- A text does not end in a character that was dropped at its ends. -/
theorem getLast?_dropEnds_any : (dropEnds p text).getLast?.any p = false :=
  getLast?_dropBack_any p (dropFront p text)

variable {p text}

theorem dropFront_eq_self (h : text.head?.any p = false) : dropFront p text = text := by
  cases text with
  | nil => rfl
  | cons c rest => exact List.dropWhile_cons_of_neg (by simpa using h)

/-- Nothing is dropped if neither the first character nor the last is of the kind. -/
theorem dropEnds_eq_self (hh : text.head?.any p = false) (hl : text.getLast?.any p = false) :
    dropEnds p text = text := by
  have hback : text.reverse.dropWhile p = text.reverse :=
    dropFront_eq_self (by rwa [List.head?_reverse])
  rw [dropEnds, dropFront_eq_self hh, dropBack, hback, List.reverse_reverse]

end Ends

/-- A text that is trimmed does not end in a blank. -/
theorem isBlank_getLast?_trimEnd {text : List Char} {c : Char}
    (h : (trimEnd text).getLast? = some c) : isBlank c = false := by
  have hlast := getLast?_dropBack_any isBlank text
  rw [trimEnd] at h
  rwa [h] at hlast

end TypedClient.Text
