import TypedClient.Text.Split

/-!
# Paths

A path as it is spelled: names between slashes, from the root if it starts with a slash
and from the working directory otherwise. `components` is what two spellings of a
path have in common; it knows of no directory, so that `..` stays a component.
-/

namespace TypedClient.Files

/-- A path in the spelling in which it was given. -/
structure FilePath where
  /-- The spelling. -/
  text : String
  deriving DecidableEq, Repr

namespace FilePath

/-- The texts between the slashes. -/
def pieces (p : FilePath) : List String :=
  (Text.pieces '/' p.text.toList).map String.ofList

/-- The names that a path leads through, `.` and `..` among them. -/
def names (p : FilePath) : List String :=
  p.pieces.filter (· ≠ "")

/-- Whether a path starts at the root. -/
def isAbsolute (p : FilePath) : Bool :=
  p.text.toList.head? == some '/'

/-- Whether a path ends in a slash, so that it can only be that of a directory. -/
def endsInSlash (p : FilePath) : Bool :=
  p.text.toList.getLast? == some '/'

/-- Whether a path ends in a name that a new file can have. -/
def endsInName (p : FilePath) : Bool :=
  !p.endsInSlash && p.names.getLast?.any fun name => name ≠ "." && name ≠ ".."

/-- The components of a path. Empty names and `.` are none, save for a `.` at the very front. The
root is the component `/`. -/
def components (p : FilePath) : List String :=
  let proper (names : List String) := names.filter (· ≠ ".")
  if p.isAbsolute then "/" :: proper p.names
  else
    match p.names with
    | "." :: rest => "." :: proper rest
    | names => proper names

/-- Whether two spellings have the same components. -/
def same (p q : FilePath) : Bool :=
  p.components == q.components

/-- The path whose last piece is the first of the list. Nothing is the empty path, and a single
empty piece the root. -/
def ofReversedPieces : List String → FilePath
  | [""] => ⟨"/"⟩
  | pieces => ⟨"/".intercalate pieces.reverse⟩

/-- The pieces, the last one first, without those in front of the list that are no component. -/
def dropIdle : List String → List String
  | piece :: rest =>
    if (piece = "" ∨ piece = ".") ∧ rest ≠ [] then dropIdle rest else piece :: rest
  | [] => []

/-- The directories around a path whose pieces are given, the last one first; the innermost
directory is the first. -/
def parentsFrom : List String → List FilePath
  | [] => []
  | piece :: rest =>
    if (piece = "" ∨ piece = ".") ∧ rest ≠ [] then parentsFrom rest
    else if piece = "" then []
    else ofReversedPieces (dropIdle rest) :: parentsFrom rest

/-- The directories that a path goes through, the innermost first. The last is the root or the empty
path, which stands for the working directory. -/
def parents (p : FilePath) : List FilePath :=
  parentsFrom p.pieces.reverse

end FilePath

end TypedClient.Files
