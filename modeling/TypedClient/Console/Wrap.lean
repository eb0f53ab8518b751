import TypedClient.Text.Cluster
import TypedClient.Text.Split
import TypedClient.Text.Width

/-!
# Wrapping lines

`wrap` breaks a line at spaces into lines of at most a given width. A word that is
wider than a line is broken between two signs; it starts on the current line if there
is enough room. A line that is as good as full is closed at once, so that a space at
its end may be lost.
-/

namespace TypedClient.Console

open TypedClient.Text (clusters flatten_clusters pieces width)

/-- The number of free columns up to which nothing more is put on a line. -/
def minFreeColumns : Nat := 2

/-- Whether a line is as good as full. -/
def isFull (columns : Nat) (line : List Char) : Bool :=
  columns - minFreeColumns < width line

/-- The longest run at the front of some signs that fits into some columns, and the rest. -/
def takeFitting (columns : Nat) : List (List Char) → List (List Char) × List (List Char)
  | [] => ([], [])
  | sign :: rest =>
    if width sign ≤ columns then
      let (front, back) := takeFitting (columns - width sign) rest
      (sign :: front, back)
    else ([], sign :: rest)

/-- Taking what fits loses nothing. -/
theorem takeFitting_append (columns : Nat) (signs : List (List Char)) :
    (takeFitting columns signs).1 ++ (takeFitting columns signs).2 = signs := by
  fun_induction takeFitting columns signs <;> simp_all

/-- The longest part at the front of a word that fits into some columns, and the rest. -/
def breakWord (columns : Nat) (word : List Char) : List Char × List Char :=
  let (front, back) := takeFitting columns (clusters word)
  (front.flatten, back.flatten)

/-- Breaking a word loses nothing. -/
theorem breakWord_append (columns : Nat) (word : List Char) :
    (breakWord columns word).1 ++ (breakWord columns word).2 = word := by
  simp only [breakWord, ← List.flatten_append, takeFitting_append, flatten_clusters]

/-- The part of a word that goes on a new line, and the rest. Of a sign that is wider than the line,
the first character stands there all the same. -/
def breakOnNewLine (columns : Nat) (word : List Char) : List Char × List Char :=
  match breakWord columns word with
  | ([], c :: rest) => ([c], rest)
  | parts => parts

/-- What is left of a word after a new line has been filled is shorter, unless there was nothing. -/
theorem length_breakOnNewLine (columns : Nat) (word : List Char) (h : word ≠ []) :
    (breakOnNewLine columns word).2.length < word.length := by
  have ha := congrArg List.length (breakWord_append columns word)
  unfold breakOnNewLine
  split
  next c rest he => rw [he] at ha; simp at ha ⊢; omega
  next parts hn =>
    rcases hp : breakWord columns word with ⟨front, back⟩
    rw [hp] at ha
    cases front with
    | nil =>
      cases back with
      | nil => simp at ha; exact absurd ha.symm (by simpa using h)
      | cons c rest => exact absurd hp (hn c rest)
    | cons c front => simp at ha ⊢; omega

/-- What is left of a word after its front is no longer than the word. -/
theorem length_breakWord_le (columns : Nat) (word : List Char) :
    (breakWord columns word).2.length ≤ word.length := by
  have h := congrArg List.length (breakWord_append columns word)
  simp only [List.length_append] at h
  omega

/-- The characters of words, counting one more for each word. -/
def wordsLength : List (List Char) → Nat
  | [] => 0
  | word :: rest => word.length + 1 + wordsLength rest

/-- The lines that begin with `line` and go on with words. -/
def wrapFrom (columns : Nat) (line : List Char) : List (List Char) → List (List Char)
  | [] => if line = [] then [] else [line]
  | word :: rest =>
    if hl : line = [] then
      if hw : width word ≤ columns then
        if isFull columns word then word :: wrapFrom columns [] rest
        else wrapFrom columns word rest
      else
        have := length_breakOnNewLine columns word (by rintro rfl; exact hw (Nat.zero_le _))
        (breakOnNewLine columns word).1 ::
          wrapFrom columns [] ((breakOnNewLine columns word).2 :: rest)
    else
      have := List.length_pos_iff.2 hl
      let joined := line ++ ' ' :: word
      if width line + 1 + width word ≤ columns then
        if isFull columns joined then joined :: wrapFrom columns [] rest
        else wrapFrom columns joined rest
      else if columns - width line - 1 ≤ minFreeColumns then
        line :: wrapFrom columns [] (word :: rest)
      else if columns < width word then
        have := length_breakWord_le (columns - width line - 1) word
        (line ++ ' ' :: (breakWord (columns - width line - 1) word).1) ::
          wrapFrom columns [] ((breakWord (columns - width line - 1) word).2 :: rest)
      else if isFull columns word then line :: word :: wrapFrom columns [] rest
      else line :: wrapFrom columns word rest
  termination_by words => 2 * wordsLength words + min line.length 1
  decreasing_by
    all_goals simp only [wordsLength, List.length_nil]
    all_goals omega

/-- The lines into which a line is broken. A line that fits stays as it is. -/
def wrap (columns : Nat) (line : List Char) : List (List Char) :=
  if width line ≤ columns then [line] else wrapFrom columns [] (pieces ' ' line)

end TypedClient.Console
