import TypedClient.Client.Generate
import TypedClient.Proofs.Text.Joining

/-!
# Indented blocks

A block is indented line by line, and the lines are found again in its text. They are the
lines that were joined if these have no line feed in them and do not end in a carriage
return, which belongs to the end of a line. Then taking one tab from the start of each
line restores the block.
-/

namespace TypedClient.Client

/-- The lines of a text, cut at its line feeds and nowhere else. -/
def cutLines (text : String) : List String :=
  (Text.pieces '\n' text.toList).map String.ofList

/-- A line with a tab before it, unless it is empty. -/
def tabbed (line : String) : String :=
  if line = "" then "" else "\t" ++ line

/-- A line without the tab at its start. -/
def untabbed (line : String) : String :=
  match line.toList with
  | '\t' :: rest => String.ofList rest
  | _ => line

/-- A text without the tab at the start of each line. -/
def outdented (text : String) : String :=
  "\n".intercalate ((cutLines text).map untabbed)

theorem untabbed_tabbed (line : String) : untabbed (tabbed line) = line := by
  rw [tabbed]
  by_cases h : line = ""
  · rw [if_pos h, h]
    rfl
  · rw [if_neg h, untabbed, String.toList_append]
    exact String.ofList_toList

theorem isLine_tabbed {line : String} (h : Text.IsLine line) : Text.IsLine (tabbed line) := by
  have htab : Text.IsLine "\t" := by decide
  rw [tabbed]
  split
  · decide
  · exact htab.append h

theorem isLine_of_mem_cutLines {text line : String} (h : line ∈ cutLines text) :
    Text.IsLine line := by
  obtain ⟨piece, hpiece, rfl⟩ := List.mem_map.mp h
  rw [Text.IsLine, String.toList_ofList]
  exact Text.not_mem_of_mem_pieces hpiece

private theorem toList_joined (lines : List String) :
    ("\n".intercalate lines).toList = ['\n'].intercalate (lines.map String.toList) := by
  rw [String.toList_intercalate]
  rfl

private theorem toList_joined_concat (front : List String) (last : String) :
    ("\n".intercalate (front ++ [last])).toList =
      ['\n'].intercalate (front.map String.toList ++ [last.toList]) := by
  rw [toList_joined, List.map_append, List.map_singleton]

private theorem toList_ofLists (lines : List (List Char)) :
    ("\n".intercalate (lines.map String.ofList)).toList = ['\n'].intercalate lines := by
  rw [toList_joined, List.map_map]
  congr 1
  exact List.map_id'' (fun _ => String.toList_ofList) _

/-- Lines are what their text is cut into exactly when none of them has a line feed in it. -/
theorem cutLines_intercalate_iff {lines : List String} (hne : lines ≠ []) :
    cutLines ("\n".intercalate lines) = lines ↔ ∀ line ∈ lines, Text.IsLine line := by
  constructor
  · intro h line hl
    rw [← h] at hl
    exact isLine_of_mem_cutLines hl
  · intro h
    rw [cutLines, toList_joined,
      Text.pieces_intercalate (by simpa using hne) (List.forall_mem_map.mpr h), List.map_map]
    exact List.map_id'' (fun _ => String.ofList_toList) _

theorem indented_eq (text : String) :
    indented text =
      "\n".intercalate (((Text.lines text.toList).map String.ofList).map tabbed) := by
  rw [indented, List.map_map]
  congr 1
  apply List.map_congr_left
  intro line _
  rw [Function.comp_apply, tabbed]
  by_cases h : line = []
  · rw [h]
    rfl
  · have hne : String.ofList line ≠ "" := by simpa using h
    rw [if_neg hne, if_neg (by simpa using h)]

/-- Without the tabs, an indented text is what its lines are when they are joined. -/
theorem outdented_indented (text : String) :
    outdented (indented text) =
      "\n".intercalate ((Text.lines text.toList).map String.ofList) := by
  by_cases hempty : text.toList = []
  · rw [String.toList_eq_nil_iff.mp hempty]
    rfl
  · have hne : ((Text.lines text.toList).map String.ofList).map tabbed ≠ [] := by
      simpa [Text.lines_eq_nil_iff] using hempty
    have hlines : ∀ line ∈ ((Text.lines text.toList).map String.ofList).map tabbed,
        Text.IsLine line := by
      intro line hl
      obtain ⟨plain, hplain, rfl⟩ := List.mem_map.mp hl
      obtain ⟨chars, hchars, rfl⟩ := List.mem_map.mp hplain
      apply isLine_tabbed
      rw [Text.IsLine, String.toList_ofList]
      exact Text.lineFeed_not_mem_of_mem_lines hchars
    rw [outdented, indented_eq, (cutLines_intercalate_iff hne).mpr hlines, List.map_map]
    congr 1
    exact List.map_id'' untabbed_tabbed _

/-- Whether a text ends in a carriage return. -/
def EndsInReturn (text : String) : Prop :=
  text.toList.getLast? = some '\r'

instance (text : String) : Decidable (EndsInReturn text) :=
  inferInstanceAs (Decidable (text.toList.getLast? = some '\r'))

section Block

variable {front : List String} {last : String}
variable (hf : ∀ line ∈ front, Text.IsLine line) (hl : Text.IsLine last) (hne : last ≠ "")
include hf hl hne

/-- A block of lines is restored exactly when none of them but the last ends in a carriage
return. -/
theorem outdented_indented_iff :
    outdented (indented ("\n".intercalate (front ++ [last]))) =
        "\n".intercalate (front ++ [last]) ↔
      ∀ line ∈ front, ¬ EndsInReturn line := by
  have hlast : last.toList ≠ [] := by simpa using hne
  have hiff := Text.intercalate_lines_eq_iff (List.forall_mem_map.mpr hf) hl hlast
  rw [← String.toList_inj, outdented_indented, toList_ofLists, toList_joined_concat, hiff,
    List.forall_mem_map]
  rfl

/-- A block of which no line ends in a carriage return has its lines with a tab before each. -/
theorem indented_intercalate (hr : ∀ line ∈ front, ¬ EndsInReturn line) :
    indented ("\n".intercalate (front ++ [last])) =
      "\n".intercalate ((front ++ [last]).map tabbed) := by
  have hlast : last.toList ≠ [] := by simpa using hne
  have hkept : (front.map String.toList).map Text.dropReturn = front.map String.toList := by
    rw [List.map_map]
    apply List.map_congr_left
    intro line hm
    exact Text.dropReturn_eq_self_iff.mpr (hr line hm)
  have hsame : ((front ++ [last]).map String.toList).map String.ofList = front ++ [last] := by
    rw [List.map_map]
    exact List.map_id'' (fun _ => String.ofList_toList) _
  rw [indented_eq, toList_joined_concat,
    Text.lines_intercalate (List.forall_mem_map.mpr hf) hl hlast, hkept, ← List.map_singleton,
    ← List.map_append, hsame]

/-- Cut again, the indented block is those lines. -/
theorem cutLines_indented (hr : ∀ line ∈ front, ¬ EndsInReturn line) :
    cutLines (indented ("\n".intercalate (front ++ [last]))) = (front ++ [last]).map tabbed := by
  have hlines : ∀ line ∈ (front ++ [last]).map tabbed, Text.IsLine line := by
    intro line hm
    obtain ⟨plain, hplain, rfl⟩ := List.mem_map.mp hm
    apply isLine_tabbed
    rcases List.mem_append.mp hplain with hfront | hlast
    · exact hf plain hfront
    · rwa [List.mem_singleton.mp hlast]
  rw [indented_intercalate hf hl hne hr]
  exact (cutLines_intercalate_iff (by simp)).mpr hlines

end Block

end TypedClient.Client
