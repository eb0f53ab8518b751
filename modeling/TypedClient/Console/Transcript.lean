import TypedClient.Console.Generation

/-!
# What is shown while a client is made

Every step is shown as lines of output, in the colours of a palette. Warnings are shown
on a channel of their own: those for things left out always, the others only if all
are asked for. A quiet run shows nothing.
-/

namespace TypedClient.Console

open TypedClient.Client (Tally Warning)

/-- Where a line is shown. -/
inductive Channel where
  /-- Among the results. -/
  | output
  /-- Among the problems. -/
  | problems
  deriving DecidableEq, Repr

/-- A line that is shown. -/
structure Line where
  /-- Where it is shown. -/
  channel : Channel
  /-- The line without its end. -/
  text : String
  deriving DecidableEq, Repr

/-- Lines among the results. -/
def outputLines (texts : List String) : List Line :=
  texts.map (Line.mk .output)

/-- What a channel shows: its lines, each with a line feed. -/
def shownOn (channel : Channel) (lines : List Line) : String :=
  String.join ((lines.filter fun line => line.channel = channel).map fun line => line.text ++ "\n")

/-- How steps are shown. -/
structure View where
  /-- The colours. -/
  palette : Palette
  /-- The text that stands for the time. -/
  stamp : String
  /-- Whether every warning is shown. -/
  verbose : Bool

namespace View

/-- A message with the time before it. -/
def message (v : View) (role : Role) (text : String) : String :=
  v.palette.paint .timestamp v.stamp ++ " " ++ v.palette.paint role text

/-- The columns before a value with its label. -/
def margin : String := String.ofList (List.replicate 12 ' ')

/-- A value with its label. -/
def labelled (v : View) (label value : String) : String :=
  margin ++ v.palette.paint .label label ++ " " ++ v.palette.paint .value value

/-- The counts. -/
def counts (v : View) (tally : Tally) : List String :=
  [v.labelled "Paths visited:" (toString tally.paths),
    v.labelled "Methods generated:" (toString tally.operations),
    v.labelled "" (toString tally.withBody ++ " with a request body"),
    v.labelled "Request types:" (toString tally.requestTypes),
    v.labelled "Response types:" (toString tally.responseTypes)] ++
  (if tally.renamed = 0 then [] else [v.labelled "Arguments renamed:" (toString tally.renamed)]) ++
  [v.labelled "Warnings:" (toString tally.warnings.length)]

/-- The warnings that are shown. -/
def shownWarnings (v : View) (warnings : List Warning) : List Warning :=
  warnings.filter fun w => w.isSkip || v.verbose

/-- A warning after the word that tells whether something was left out. -/
def warning (v : View) (w : Warning) : Line :=
  ⟨.problems, v.palette.paint .accent (if w.isSkip then "Skipped:" else "Warning:") ++ " " ++
    v.palette.paint .primary w.text⟩

/-- The warnings after an empty line, if there are any to show. -/
def warnings (v : View) (warnings : List Warning) : List Line :=
  match v.shownWarnings warnings with
  | [] => []
  | shown => outputLines [""] ++ shown.map v.warning

/-- A count of overrides in words. -/
def countWord (count : Nat) : String :=
  if count = 0 then "no" else toString count

/-- The lines for a step. -/
def step (v : View) : Step → List Line
  | .loading input =>
    outputLines [v.message .primary ("Loading API document from: " ++ input.text)]
  | .loaded document =>
    outputLines <|
      (document.address?.map (v.labelled "API:")).toList ++
      [v.labelled "Paths:" (toString document.paths.length)]
  | .overridden path count =>
    outputLines [v.message .primary
      ("Loaded " ++ countWord count ++ " override entries from: " ++ path.text)]
  | .generating => outputLines [v.message .primary "Generating TypeScript client..."]
  | .generated tally => outputLines (v.counts tally) ++ v.warnings tally.warnings
  | .writing output => outputLines [v.message .primary ("Writing to: " ++ output.text)]
  | .written => outputLines ["", v.message .success "Successfully generated TypeScript client"]

end View

/-- The lines for the steps of a run. -/
def transcript (palette : Palette) (stamp : String) (verbosity : Verbosity) (steps : List Step) :
    List Line :=
  if verbosity.quiet then [] else steps.flatMap (View.mk palette stamp verbosity.verbose).step

end TypedClient.Console
