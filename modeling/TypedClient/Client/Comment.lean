import TypedClient.Text.Lines
import TypedClient.Text.Blank

/-!
# Comment blocks

A description becomes a comment block of one line for each of its lines. The two
characters that would end the block are kept apart by a backslash.
-/

namespace TypedClient.Client

/-- One tab for each level. -/
def indent (level : Nat) : String :=
  "".pushn '\t' level

/-- The text with a backslash between every star and a slash after it. -/
def keepOpen : List Char → List Char
  | [] => []
  | [c] => [c]
  | '*' :: '/' :: rest => '*' :: '\\' :: '/' :: keepOpen rest
  | c :: rest => c :: keepOpen rest

/-- The lines inside a comment block for a description, without indentation. None for a
description that is blank. -/
def commentBody (description : Option String) : List String :=
  let text := Text.trim (description.getD "").toList
  (Text.lines text).map fun line =>
    match keepOpen (Text.trimEnd line) with
    | [] => " *"
    | words => " * " ++ String.ofList words

/-- The comment block for a description at a level of indentation. -/
def commentBlock (description : Option String) (level : Nat) : List String :=
  match commentBody description with
  | [] => []
  | body => (["/**"] ++ body ++ [" */"]).map (indent level ++ ·)

/-- The first line of a description, trimmed; none for a description that is blank. -/
def commentSummary? (description : Option String) : Option String :=
  match Text.trim (description.getD "").toList with
  | [] => none
  | text => some (String.ofList (keepOpen ((Text.lines text).headD [])))

end TypedClient.Client
