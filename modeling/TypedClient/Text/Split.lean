/-!
# Pieces of a text

`pieces` cuts a text at every occurrence of a separator. There is always at least one
piece, no piece holds the separator, and putting the separator between the pieces
gives the text back.
-/

namespace TypedClient.Text

/-- The pieces of a text between the separators. -/
def pieces (separator : Char) : List Char → List (List Char)
  | [] => [[]]
  | c :: rest =>
    if c = separator then [] :: pieces separator rest
    else
      match pieces separator rest with
      | [] => [[c]]
      | piece :: more => (c :: piece) :: more

/-- There is at least one piece. -/
theorem pieces_ne_nil (separator : Char) (text : List Char) : pieces separator text ≠ [] := by
  fun_cases pieces separator text <;> simp_all

/-- Cutting a text into pieces loses nothing. -/
theorem intercalate_pieces (separator : Char) (text : List Char) :
    [separator].intercalate (pieces separator text) = text := by
  fun_induction pieces separator text with
  | case1 => rfl
  | case2 rest ih =>
    obtain ⟨piece, more, h⟩ := List.exists_cons_of_ne_nil (pieces_ne_nil separator rest)
    rw [h] at ih ⊢
    simpa [List.intercalate] using ih
  | case3 c rest hc h ih => exact absurd h (pieces_ne_nil separator rest)
  | case4 c rest hc piece more h ih =>
    rw [h] at ih
    cases more <;> simp_all [List.intercalate]

/-- No piece holds the separator. -/
theorem not_mem_of_mem_pieces {separator : Char} {text piece : List Char}
    (h : piece ∈ pieces separator text) : separator ∉ piece := by
  fun_induction pieces separator text generalizing piece with
  | case1 => simp_all
  | case2 rest ih =>
    rcases List.mem_cons.1 h with rfl | h
    · simp
    · exact ih h
  | case3 c rest hc he ih => exact absurd he (pieces_ne_nil separator rest)
  | case4 c rest hc first more he ih =>
    rcases List.mem_cons.1 h with rfl | h
    · have := ih (he ▸ List.mem_cons_self)
      simp only [List.mem_cons, not_or]
      exact ⟨fun e => hc e.symm, this⟩
    · exact ih (he ▸ List.mem_cons_of_mem _ h)

end TypedClient.Text
