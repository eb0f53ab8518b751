import Std.Time.DateTime.Timestamp
import TypedClient.Console.Session
import TypedClient.Console.Usage

/-!
# The program

Reads the files that a command names, leaves the rest to the library, and writes and
shows what comes of it.
-/

open TypedClient.Console
open TypedClient.Files (FilePath FileError)

namespace TypedClient.Main

/-- The cause that an error of the system stands for. -/
def causeOf : IO.Error → FileError
  | .noFileOrDirectory .. => .missing
  | .alreadyExists .. => .present
  | .inappropriateType _ 20 _ => .notDirectory
  | .inappropriateType _ 21 _ => .isDirectory
  | e => .other (toString e)

/-- Reads a file. -/
def readSource (path : FilePath) : IO (Except FileError (List UInt8)) := do
  try
    return .ok (← IO.FS.readBinFile path.text).toList
  catch e =>
    return .error (causeOf e)

/-- Reads files, so that they can be looked up. -/
def readSources (paths : List FilePath) : IO Reader := do
  let contents ← paths.mapM fun path => return (path, ← readSource path)
  return fun path => (contents.lookup path).getD (.error .missing)

/-- Writes a file and makes the directories around it. -/
def store (path : FilePath) (text : String) : IO (Option Failure) := do
  match path.parents with
  | directory :: _ =>
    if directory.text ≠ "" then
      try
        IO.FS.createDirAll directory.text
      catch e =>
        return some (.directoryNotMade directory (causeOf e))
  | [] => pure ()
  try
    IO.FS.writeFile path.text text
    return none
  catch e =>
    return some (.outputNotWritten path (causeOf e))

/-- The time of day in brackets. -/
def timeOfDay : IO String := do
  let now ← Std.Time.Timestamp.now
  let seconds := (now.toSecondsSinceUnixEpoch.val % 86400).toNat
  let two (n : Nat) : String := (if n < 10 then "0" else "") ++ toString n
  return "[" ++ two (seconds / 3600) ++ ":" ++ two (seconds / 60 % 60) ++ ":" ++
    two (seconds % 60) ++ "]"

/-- The width of a terminal that does not tell it. -/
def usualColumns : Nat := 80

/-- Finds out about the terminal. -/
def terminal : IO Terminal := do
  let isTerminal ← (← IO.getStdout).isTty
  let unwanted := (← IO.getEnv "NO_COLOR").isSome
  return ⟨isTerminal && !unwanted, ← IO.getEnv "COLORFGBG", usualColumns⟩

/-- Shows lines on their channels. -/
def showLines (lines : List Line) : IO Unit :=
  lines.forM fun line =>
    match line.channel with
    | .output => IO.println line.text
    | .problems => IO.eprintln line.text

/-- Reports a failure. -/
def fail (failure : Failure) : IO UInt32 := do
  IO.eprintln failure.report
  return 1

/-- Makes a client. -/
def generate (request : Request) (verbosity : Verbosity) (palette : Palette) : IO UInt32 := do
  let plan := request.plan (← readSources request.sources)
  showLines (transcript palette (← timeOfDay) verbosity plan.steps)
  match plan.result with
  | .error failure => fail failure
  | .ok code =>
    match ← store request.output code with
    | some failure => fail failure
    | none =>
      showLines (transcript palette (← timeOfDay) verbosity [.written])
      return 0

/-- Shows the list of operations. -/
def list (input : FilePath) (columns : Nat) : IO UInt32 := do
  match operationList (← readSources [input]) input columns with
  | .error failure => fail failure
  | .ok lines =>
    showLines (outputLines lines)
    return 0

/-- Answers a command line that asks for no command. -/
def explain (e : UsageError) : IO UInt32 := do
  match e, e.answer? with
  | _, some answer => IO.print answer
  | .help, none => IO.print usageText
  | .nothingGiven, none => IO.eprint usageText
  | _, none => IO.eprintln ("error: " ++ e.message)
  return e.exitCode.toUInt32

end TypedClient.Main

/-- Does what the command line asks for. -/
def main (words : List String) : IO UInt32 := do
  match Invocation.parse words with
  | .error e => TypedClient.Main.explain e
  | .ok invocation =>
    let terminal ← TypedClient.Main.terminal
    match invocation.command with
    | .generate request verbosity =>
      TypedClient.Main.generate request verbosity (invocation.palette terminal)
    | .listOperations input => TypedClient.Main.list input terminal.columns
