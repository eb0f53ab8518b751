import TypedClient.Text.Lines

/-!
# Templates

A template is the source of a client with three lines that mark where the
generated parts go. Lines with the removal tag are dropped before anything else.
A `Draft` takes in the lines one after another: lines that stay gather until a
marked line, or the end, closes the run. `Template.parse` succeeds when each mark
stands on exactly one of the lines and no line has two; `Template.fill` puts the
parts in place of the marked lines and never looks at them again.
-/

namespace TypedClient.Client

/-- A place for a generated part. -/
inductive Slot where
  /-- The methods. -/
  | methods
  /-- The request types. -/
  | requestTypes
  /-- The response types. -/
  | responseTypes
  deriving DecidableEq, Repr

/-- All places, in the order in which they are looked for. -/
def Slot.all : List Slot := [.methods, .requestTypes, .responseTypes]

/-- The mark of a place. -/
def Slot.marker : Slot → String
  | .methods => "//** METHODS **//"
  | .requestTypes => "//** REQUEST TYPES **//"
  | .responseTypes => "//** RESPONSE TYPES **//"

/-- The wording for a place. -/
def Slot.label : Slot → String
  | .methods => "methods"
  | .requestTypes => "request types"
  | .responseTypes => "response types"

/-- The tag of a line that is dropped. -/
def removalTag : String := "/* @generator-remove */"

/-- Whether a line is dropped. -/
def isRemoved (line : List Char) : Bool :=
  Text.contains removalTag.toList line

/-- The places marked on a line. -/
def slotsOn (line : List Char) : List Slot :=
  Slot.all.filter fun slot => Text.contains slot.marker.toList line

/-- The cause for which a template is refused. -/
inductive TemplateError where
  /-- A mark stands on no line. -/
  | missing (slot : Slot)
  /-- A mark stands on two lines. -/
  | duplicate (slot : Slot) (first second : Nat)
  /-- A line has two marks. -/
  | crowded (line : Nat)
  deriving DecidableEq, Repr

/-- The wording of an error. -/
def TemplateError.message : TemplateError → String
  | .missing slot => "template is missing the " ++ slot.label ++ " marker '" ++ slot.marker ++ "'"
  | .duplicate slot first second =>
    "template contains the " ++ slot.label ++ " marker '" ++ slot.marker ++
      "' more than once (lines " ++ toString first ++ " and " ++ toString second ++ ")"
  | .crowded line => "line " ++ toString line ++ " contains more than one marker"

/-- A part of a template. -/
inductive Segment where
  /-- Lines that stay as they are. -/
  | text (run : String)
  /-- A place for a generated part. -/
  | slot (slot : Slot)
  deriving DecidableEq, Repr

/-- A template. -/
structure Template where
  /-- Its parts in order. -/
  segments : List Segment
  deriving DecidableEq, Repr

/-- What has been read of a template. -/
structure Draft where
  /-- The parts that are closed. -/
  segments : List Segment
  /-- The lines that stay, since the last part. -/
  pending : String
  /-- The places found, each with the number of its line. -/
  seen : List (Slot × Nat)
  deriving DecidableEq, Repr

namespace Draft

/-- Nothing read. -/
def empty : Draft := ⟨[], "", []⟩

/-- The parts, with the pending lines as the last of them unless there are none. -/
def flushed (d : Draft) : List Segment :=
  if d.pending.isEmpty then d.segments else d.segments ++ [.text d.pending]

/-- The number of the line on which a place was found. -/
def lineOf? (d : Draft) (slot : Slot) : Option Nat :=
  (d.seen.find? fun s => s.1 == slot).map Prod.snd

/-- The draft with one more line, which has a number. -/
def addLine (d : Draft) (number : Nat) (line : List Char) : Except TemplateError Draft :=
  if isRemoved line then .ok d
  else
    match slotsOn line with
    | [] => .ok { d with pending := d.pending ++ String.ofList line }
    | [slot] =>
      match d.lineOf? slot with
      | some first => .error (.duplicate slot first number)
      | none => .ok ⟨d.flushed ++ [.slot slot], "", d.seen ++ [(slot, number)]⟩
    | _ => .error (.crowded number)

/-- The draft with more lines, numbered from `number` on. -/
def addLines (d : Draft) (number : Nat) : List (List Char) → Except TemplateError Draft
  | [] => .ok d
  | line :: rest =>
    match d.addLine number line with
    | .error error => .error error
    | .ok next => next.addLines (number + 1) rest

/-- The template of a draft that has all lines. -/
def finish (d : Draft) : Except TemplateError Template :=
  match Slot.all.find? fun slot => (d.lineOf? slot).isNone with
  | some slot => .error (.missing slot)
  | none => .ok ⟨d.flushed⟩

end Draft

namespace Template

/-- Reads a template. -/
def parse (source : String) : Except TemplateError Template :=
  match Draft.empty.addLines 1 (Text.linesKeepingEnds source.toList) with
  | .error error => .error error
  | .ok draft => draft.finish

/-- A generated part as it is put into a template: with a line feed at its end, unless there is
nothing of it. -/
def closed (part : String) : String :=
  match part.toList.getLast? with
  | none => part
  | some '\n' => part
  | some _ => part ++ "\n"

/-- The template with a generated part in each place. -/
def fill (t : Template) (part : Slot → String) : String :=
  String.join <| t.segments.map fun
    | .text run => run
    | .slot slot => closed (part slot)

end Template

end TypedClient.Client
