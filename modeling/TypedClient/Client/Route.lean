/-!
# Routes

A path of a document holds placeholders in braces. `pieces` cuts it at each brace
that opens and the next one that closes, and loses nothing. A route has the value
of an argument in place of each placeholder that is its name; its text is what
stands between the backquotes of a template literal, where text never opens an
interpolation within a run and never ends the literal.
-/

namespace TypedClient.Client

/-- A part of a path. -/
inductive Piece where
  /-- A run of characters that are taken as they are. -/
  | text (run : List Char)
  /-- A name in braces. -/
  | placeholder (name : List Char)
  deriving DecidableEq, Repr

/-- The characters of a part of a path. -/
def Piece.chars : Piece → List Char
  | .text run => run
  | .placeholder name => '\x7b' :: name ++ ['\x7d']

/-- Where a path is being cut: in a run of text, or after a brace that opened in it. -/
inductive Cut where
  /-- In a run of text, read so far, last character first. -/
  | inText (run : List Char)
  /-- After the run and an opening brace, in a name, both last character first. -/
  | inName (run name : List Char)

/-- The parts of the rest of a path. A brace that no other closes belongs to the last run. -/
def piecesFrom : Cut → List Char → List Piece
  | .inText run, [] => [.text run.reverse]
  | .inName run name, [] => [.text (run.reverse ++ '\x7b' :: name.reverse)]
  | .inText run, c :: rest =>
    if c = '\x7b' then piecesFrom (.inName run []) rest else piecesFrom (.inText (c :: run)) rest
  | .inName run name, c :: rest =>
    if c = '\x7d' then
      .text run.reverse :: .placeholder name.reverse :: piecesFrom (.inText []) rest
    else piecesFrom (.inName run (c :: name)) rest

/-- The parts of a path. -/
def pieces (path : List Char) : List Piece :=
  piecesFrom (.inText []) path

/-- What a cut path has read since its last part. -/
def Cut.chars : Cut → List Char
  | .inText run => run.reverse
  | .inName run name => run.reverse ++ '\x7b' :: name.reverse

/-- Cutting a path loses nothing. -/
theorem flatMap_chars_piecesFrom (cut : Cut) (rest : List Char) :
    (piecesFrom cut rest).flatMap Piece.chars = cut.chars ++ rest := by
  fun_induction piecesFrom cut rest <;> simp_all [Piece.chars, Cut.chars]

/-- A run of text as it is written in a template literal. -/
def escapeRun : List Char → List Char
  | [] => []
  | '$' :: '\x7b' :: rest => '\\' :: '$' :: '\x7b' :: escapeRun rest
  | c :: rest =>
    if c = '\\' then '\\' :: '\\' :: escapeRun rest
    else if c.toNat = 0x60 then '\\' :: c :: escapeRun rest
    else c :: escapeRun rest

/-- A part of a route. -/
inductive RoutePart where
  /-- A run of characters that are taken as they are. -/
  | text (run : List Char)
  /-- The value of a local binding. -/
  | value (binding : String)
  deriving DecidableEq, Repr

/-- The text of a part of a route in a template literal. -/
def RoutePart.literalText : RoutePart → String
  | .text run => String.ofList (escapeRun run)
  | .value binding => "$\x7b" ++ binding ++ "\x7d"

/-- The part for a piece of a path, given the binding for each name that has one. -/
def Piece.part (binding? : String → Option String) : Piece → RoutePart
  | .text run => .text run
  | .placeholder name =>
    match binding? (String.ofList name) with
    | some binding => .value binding
    | none => .text (Piece.placeholder name).chars

/-- The names of the placeholders that have no binding, in order. -/
def unknownPlaceholders (binding? : String → Option String) (path : List Char) : List String :=
  (pieces path).filterMap fun
    | .text _ => none
    | .placeholder name =>
      let name := String.ofList name
      if (binding? name).isSome then none else some name

/-- The text of the route for a path. -/
def routeText (binding? : String → Option String) (path : List Char) : String :=
  String.join ((pieces path).map fun piece => (piece.part binding?).literalText)

end TypedClient.Client
