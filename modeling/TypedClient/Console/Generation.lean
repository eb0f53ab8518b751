import TypedClient.Client.Generate
import TypedClient.Console.CommandLine
import TypedClient.Files.FileSystem
import TypedClient.Text.Utf8

/-!
# Making a client from files

`Request.plan` reads the document, the template and the overrides, in this order, and
stops at the first that is of no use; it says what there is to write and
changes nothing. `Request.run` carries the plan out on a file system. Neither knows
how its steps are shown.
-/

namespace TypedClient.Console

open TypedClient.Api (Document Overrides)
open TypedClient.Client (NameStyle Template TemplateError Tally)
open TypedClient.Files (FilePath FileError FileSystem)
open TypedClient.Json (Fault)

/-- The cause for which there is no client, or no list. -/
inductive Failure where
  /-- The client would go where the document or the template is. -/
  | overwritesInput (output : FilePath)
  /-- The document cannot be read. -/
  | documentUnread (path : FilePath) (cause : FileError)
  /-- What is where the document should be cannot be held in memory. -/
  | documentUnmapped (path : FilePath) (cause : FileError)
  /-- The document has a fault, given in words. -/
  | documentInvalid (fault : String)
  /-- The template cannot be read. -/
  | templateUnread (path : FilePath) (cause : FileError)
  /-- The template has a fault. -/
  | templateInvalid (path : FilePath) (cause : TemplateError)
  /-- The overrides cannot be read. -/
  | overridesUnread (path : FilePath) (cause : FileError)
  /-- The overrides have a fault, given in words. -/
  | overridesInvalid (path : FilePath) (fault : String)
  /-- The directory for the client cannot be made. -/
  | directoryNotMade (path : FilePath) (cause : FileError)
  /-- The client cannot be written. -/
  | outputNotWritten (path : FilePath) (cause : FileError)
  deriving DecidableEq, Repr

/-- The wording of a failure: what could not be done, and then the causes, each by the next. -/
def Failure.chain : Failure → List String
  | .overwritesInput output =>
    ["Output path " ++ output.text ++ " would overwrite one of the inputs"]
  | .documentUnread path cause =>
    let inner := cause.message ++ ": IO error"
    ["failed to open API document " ++ path.text,
      path.text ++ ": unable to open file: " ++ inner, inner, cause.message]
  | .documentUnmapped path cause =>
    ["failed to open API document " ++ path.text, cause.message ++ ": mmap failed", cause.message]
  | .documentInvalid fault => ["failed to parse API document", fault]
  | .templateUnread path cause => ["failed to read template " ++ path.text, cause.message]
  | .templateInvalid path cause => ["invalid template " ++ path.text, cause.message]
  | .overridesUnread path cause =>
    ["failed to read overrides file " ++ path.text, cause.message]
  | .overridesInvalid path fault => ["failed to parse overrides file " ++ path.text, fault]
  | .directoryNotMade path cause =>
    ["failed to create directory " ++ path.text, cause.message]
  | .outputNotWritten path cause => ["failed to write " ++ path.text, cause.message]

/-- What the file at each path holds, or why it cannot be read. -/
abbrev Reader := FilePath → Except FileError (List UInt8)

/-- The document at a path. It is held in memory as it is, which a directory cannot be. -/
def documentAt (read : Reader) (path : FilePath) : Except Failure Document :=
  match read path with
  | .error .isDirectory => .error (.documentUnmapped path .notMappable)
  | .error cause => .error (.documentUnread path cause)
  | .ok bytes =>
    (Document.read bytes).mapError fun fault => .documentInvalid (fault.message bytes)

/-- The template at a path. -/
def templateAt (read : Reader) (path : FilePath) : Except Failure Template :=
  match read path with
  | .error cause => .error (.templateUnread path cause)
  | .ok bytes =>
    match Text.Utf8.decode? bytes with
    | none => .error (.templateUnread path .notText)
    | some source =>
      (Template.parse (String.ofList source)).mapError (Failure.templateInvalid path)

/-- The overrides at a path; none if there is no path. -/
def overridesAt (read : Reader) : Option FilePath → Except Failure Overrides
  | none => .ok []
  | some path =>
    match read path with
    | .error cause => .error (.overridesUnread path cause)
    | .ok bytes =>
      (Overrides.read bytes).mapError fun fault => .overridesInvalid path (fault.message bytes)

/-- Something that is done on the way to a client. -/
inductive Step where
  /-- The document is going to be read. -/
  | loading (input : FilePath)
  /-- The document has been read. -/
  | loaded (document : Document)
  /-- Overrides have been read. -/
  | overridden (path : FilePath) (count : Nat)
  /-- The client is going to be made. -/
  | generating
  /-- The client has been made. -/
  | generated (tally : Tally)
  /-- The client is going to be written. -/
  | writing (output : FilePath)
  /-- The client has been written. -/
  | written

/-- The steps before anything is written, and what there is to write. -/
structure Plan where
  /-- The steps in order. -/
  steps : List Step
  /-- The source of the client. -/
  result : Except Failure String

namespace Request

/-- Whether the client would go where the document or the template is, as far as the spelling of the
paths tells. -/
def overwritesInput (r : Request) : Bool :=
  r.input.same r.output || r.template.same r.output

/-- The files to read, in order. -/
def sources (r : Request) : List FilePath :=
  r.input :: r.template :: r.overrides.toList

/-- What is to be done for a request. -/
def plan [NameStyle] (r : Request) (read : Reader) : Plan :=
  if r.overwritesInput then ⟨[], .error (.overwritesInput r.output)⟩
  else
    let loading := [Step.loading r.input]
    match documentAt read r.input with
    | .error failure => ⟨loading, .error failure⟩
    | .ok document =>
      let loaded := loading ++ [.loaded document]
      match templateAt read r.template with
      | .error failure => ⟨loaded, .error failure⟩
      | .ok template =>
        match overridesAt read r.overrides with
        | .error failure => ⟨loaded, .error failure⟩
        | .ok overrides =>
          let client := Client.generate document template overrides r.mode
          let overridden := (r.overrides.map (Step.overridden · overrides.length)).toList
          ⟨loaded ++ overridden ++ [.generating, .generated client.tally, .writing r.output],
            .ok client.code⟩

end Request

/-- What has become of a request. -/
structure Run where
  /-- The steps in order. -/
  steps : List Step
  /-- Why it failed, if it did. -/
  failure : Option Failure
  /-- The files and directories after it. -/
  files : FileSystem

/-- The failure for what could not be done when a client was to be stored. -/
def Failure.ofStoreError (output : FilePath) : FileSystem.StoreError → Failure
  | .directory path cause => .directoryNotMade path cause
  | .file cause => .outputNotWritten output cause

/-- Fulfils a request: the client is stored once there is one, and before that nothing changes. -/
def Request.run [NameStyle] (r : Request) (fs : FileSystem) : Run :=
  let plan := r.plan fs.read
  match plan.result with
  | .error failure => ⟨plan.steps, some failure, fs⟩
  | .ok code =>
    match fs.store r.output code.toUTF8.toList with
    | (changed, some e) => ⟨plan.steps, some (.ofStoreError r.output e), changed⟩
    | (changed, none) => ⟨plan.steps ++ [.written], none, changed⟩

end TypedClient.Console
