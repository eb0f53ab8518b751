import TypedClient.Console.Wrap

/-!
# Tables

A table has a header and rows of cells. Every column is as wide as its longest line; if
the whole is wider than it may be, columns are made narrower and their cells
wrapped. `columnWidths` shares the width out: first to columns that need no more than
their share, then to those that leave some of it free once they are wrapped, and what
is left to the others in equal parts.
-/

namespace TypedClient.Console

open TypedClient.Text (width pieces)

/-- To which side the lines of a cell are pushed. -/
inductive Alignment where
  | left | right
  deriving DecidableEq, Repr

/-- A cell. -/
structure Cell where
  /-- Its text. -/
  text : String
  /-- To which side its lines are pushed. -/
  alignment : Alignment
  deriving DecidableEq, Repr

/-- The lines of a cell as they are given. -/
def Cell.lines (c : Cell) : List (List Char) :=
  pieces '\n' c.text.toList

/-- A table. Its rows are as long as its header. -/
structure Table where
  /-- The titles of the columns. -/
  header : List Cell
  /-- The rows. -/
  rows : List (List Cell)
  deriving DecidableEq, Repr

/-! ### The widths of the columns -/

/-- A column whose width is to be found. -/
structure Column where
  /-- The lines of all its cells. -/
  lines : List (List Char)
  /-- Its width, once that is known. -/
  fixed : Option Nat

namespace Column

/-- The width that a column has by itself. -/
def natural (c : Column) : Nat :=
  (c.lines.map width).foldl max 0

/-- The most bytes that a line has if a column is wrapped. -/
def longestWrapped (c : Column) (columns : Nat) : Nat :=
  ((c.lines.flatMap (wrap columns)).map fun line => (String.ofList line).utf8ByteSize).foldl max 0

end Column

/-- The width that is not given to columns, and the number of columns without one. -/
structure Budget where
  /-- The width left. -/
  left : Nat
  /-- The number of columns. -/
  unfixed : Nat

/-- The part of the width for each column without one. -/
def Budget.share (b : Budget) : Nat := b.left / b.unfixed

/-- What is left after a column has been given a width. -/
def Budget.give (b : Budget) (columns : Nat) : Budget := ⟨b.left - columns, b.unfixed - 1⟩

/-- Goes through the columns once and gives each the width that a rule has for it, if any. The rule
sees the part of the width that is there for each column at that point. -/
def fixColumns (rule : Column → Nat → Option Nat) : Budget → List Column → Budget × List Column
  | b, [] => (b, [])
  | b, c :: rest =>
    match c.fixed, rule c b.share with
    | none, some columns =>
      let (left, others) := fixColumns rule (b.give columns) rest
      (left, { c with fixed := some columns } :: others)
    | _, _ =>
      let (left, others) := fixColumns rule b rest
      (left, c :: others)

/-- Goes through the columns a number of times. -/
def fixColumnsTimes (rule : Column → Nat → Option Nat) :
    Nat → Budget × List Column → Budget × List Column
  | 0, state => state
  | n + 1, (b, columns) => fixColumnsTimes rule n (fixColumns rule b columns)

/-- The width of a column that needs no more than its part. -/
def fittingWidth (c : Column) (share : Nat) : Option Nat :=
  if c.natural ≤ share then some c.natural else none

/-- The columns that have to stay free for a column to be made narrower than its part. -/
def minSpare : Nat := 3

/-- The width of a column that, once wrapped, leaves enough of its part free. -/
def wrappedWidth (c : Column) (share : Nat) : Option Nat :=
  let longest := c.longestWrapped share
  if longest + minSpare ≤ share then some longest else none

/-- Gives the columns without a width equal parts, of which the first get one more where the width
cannot be divided. No column is without any width. -/
def shareOut (share : Nat) : Nat → List Column → List Nat
  | _, [] => []
  | excess, c :: rest =>
    match c.fixed with
    | some columns => columns :: shareOut share excess rest
    | none =>
      max 1 (if excess = 0 then share else share + 1) :: shareOut share (excess - 1) rest

/-- The widths of columns, given the width for all. Each round over the columns that changes
something gives a width to one at least, so as many rounds as columns are enough. -/
def columnWidths (total : Nat) (columns : List Column) : List Nat :=
  let rounds := columns.length
  let start : Budget × List Column := (⟨total, columns.length⟩, columns)
  let (b, all) :=
    fixColumnsTimes wrappedWidth rounds (fixColumnsTimes fittingWidth rounds start)
  shareOut b.share (b.left % b.unfixed) all

/-! ### Drawing -/

/-- A number of spaces. -/
def spaces (n : Nat) : List Char := List.replicate n ' '

/-- A line of a cell, as wide as the column and with a space on either side. -/
def Alignment.pad (alignment : Alignment) (columns : Nat) (line : List Char) : List Char :=
  let gap := spaces (columns - width line)
  match alignment with
  | .left => ' ' :: line ++ gap ++ [' ']
  | .right => ' ' :: gap ++ line ++ [' ']

/-- The lines of a cell as they are drawn. -/
def Cell.draw (c : Cell) (columns : Nat) : List (List Char) :=
  (c.lines.flatMap (wrap columns)).map (c.alignment.pad columns)

/-- The lines of a row. A cell with fewer lines than another is filled up with spaces. -/
def drawRow (widths : List Nat) (row : List Cell) : List String :=
  let cells := List.zipWith Cell.draw row widths
  let height := (cells.map List.length).foldl max 0
  (List.range height).map fun n =>
    let parts := List.zipWith (fun cell columns => cell.getD n (spaces (columns + 2))) cells widths
    String.ofList ([' '].intercalate parts)

/-- A part of a rule. -/
def ruleOf (columns : Nat) : List Char := List.replicate columns '─'

namespace Table

/-- The columns of a table. -/
def columns (t : Table) : List Column :=
  (List.range t.header.length).map fun n =>
    ⟨(t.header :: t.rows).flatMap fun row => (row[n]?.map Cell.lines).getD [], none⟩

/-- The width that borders and the spaces around cells take. -/
def frameWidth (t : Table) : Nat :=
  2 * t.header.length + (t.header.length - 1)

/-- The lines of a table that is at most `total` wide: rules above, below and under the header. -/
def draw (t : Table) (total : Nat) : List String :=
  let widths := columnWidths (total - t.frameWidth) t.columns
  let edge := String.ofList ([' '].intercalate (widths.map fun columns => ruleOf (columns + 2)))
  let underHeader := String.ofList (ruleOf (widths.foldl (· + ·) t.frameWidth))
  [edge] ++ drawRow widths t.header ++ [underHeader] ++ t.rows.flatMap (drawRow widths) ++ [edge]

end Table

end TypedClient.Console
