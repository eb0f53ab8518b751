import TypedClient.Client.Transliteration
import TypedClient.Console.Table
import TypedClient.Console.Transcript

/-!
# Commands and their outcome

`Invocation.run` does on a file system what a command line asks for. Only the making of
a client changes files; the list of operations is shown and changes nothing.
-/

namespace TypedClient.Console

open TypedClient.Api (Document)
open TypedClient.Client (NameStyle methodName)
open TypedClient.Files (FilePath FileSystem)

/-! ### The list of operations -/

/-- An operation in the list. -/
structure ListedOperation where
  /-- The name of the operation. -/
  operationId : String
  /-- Its verb in capitals. -/
  verb : String
  /-- Its path. -/
  path : String
  /-- The name of its method. -/
  methodName : String
  deriving DecidableEq, Repr

/-- The operations of a document, in the order in which methods are made for them. -/
def listedOperations [NameStyle] (document : Document) : List ListedOperation :=
  document.endpoints.map fun e =>
    ⟨e.operation.operationId, e.verb.upper, e.path, methodName e.operation.operationId⟩

/-- The cells of a row. -/
def ListedOperation.cells (r : ListedOperation) : List Cell :=
  [⟨r.operationId, .left⟩, ⟨r.verb, .right⟩, ⟨r.path, .left⟩, ⟨r.methodName, .left⟩]

/-- The list of operations as a table. -/
def operationTable [NameStyle] (document : Document) : Table where
  header := ["OPERATION ID", "METHOD", "PATH", "CLIENT METHOD"].map fun title => ⟨title, .left⟩
  rows := (listedOperations document).map ListedOperation.cells

/-- The lines of the list of operations. -/
def operationList [NameStyle] (read : Reader) (input : FilePath) (columns : Nat) :
    Except Failure (List String) :=
  (documentAt read input).map fun document => (operationTable document).draw columns

/-! ### Running a command -/

/-- What has become of a command. -/
structure Outcome where
  /-- Why it failed, if it did. -/
  failure : Option Failure
  /-- What was shown, in order. -/
  lines : List Line
  /-- The files and directories after it. -/
  files : FileSystem

/-- The number that tells whether a command failed. -/
def Outcome.exitCode (o : Outcome) : Nat :=
  if o.failure.isSome then 1 else 0

/-- What a command does on a file system. `stamp` stands for the time in what is shown. -/
def Invocation.run [NameStyle] (invocation : Invocation) (terminal : Terminal) (stamp : String)
    (fs : FileSystem) : Outcome :=
  match invocation.command with
  | .generate request verbosity =>
    let run := request.run fs
    ⟨run.failure, transcript (invocation.palette terminal) stamp verbosity run.steps, run.files⟩
  | .listOperations input =>
    match operationList fs.read input terminal.columns with
    | .error failure => ⟨some failure, [], fs⟩
    | .ok lines => ⟨none, outputLines lines, fs⟩

/-- Commands spell names in the usual way. -/
instance : NameStyle := Client.usualStyle

end TypedClient.Console
