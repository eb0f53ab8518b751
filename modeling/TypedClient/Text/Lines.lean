/-!
# Lines of a text

A text is cut into lines in two ways: with the line feed that ends each of them,
and without it. Joining the pieces of the first kind gives the text back.
-/

namespace TypedClient.Text

/-- The lines of a text, each with the line feed that ends it. The last line may lack one. -/
def linesKeepingEnds : List Char → List (List Char)
  | [] => []
  | c :: rest =>
    if c = '\n' then [c] :: linesKeepingEnds rest
    else
      match linesKeepingEnds rest with
      | [] => [[c]]
      | line :: lines => (c :: line) :: lines

/-- A line without its end, which is a line feed and the carriage return before it, if any. -/
def dropLineEnd (line : List Char) : List Char :=
  match line.reverse with
  | '\n' :: '\r' :: rest => rest.reverse
  | '\n' :: rest => rest.reverse
  | _ => line

/-- The lines of a text without their ends. A line feed at the end of the text starts no line. -/
def lines (text : List Char) : List (List Char) :=
  (linesKeepingEnds text).map dropLineEnd

/-- Whether `part` stands somewhere in the text. -/
def contains (part : List Char) : List Char → Bool
  | [] => part.isEmpty
  | c :: rest => part.isPrefixOf (c :: rest) || contains part rest

/-- Cutting a text into lines with their ends loses nothing. -/
theorem flatten_linesKeepingEnds (text : List Char) : (linesKeepingEnds text).flatten = text := by
  fun_induction linesKeepingEnds text <;> simp_all

/-- A list of texts with a separator between each two. -/
def join (separator : String) (parts : List String) : String :=
  separator.intercalate parts

end TypedClient.Text
