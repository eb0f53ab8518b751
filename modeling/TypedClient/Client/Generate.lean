import TypedClient.Client.Compile
import TypedClient.Client.Template

/-!
# Generating a client

Every operation of a document becomes a method, except those whose method name an
operation before has already. Overrides that belong to no operation are reported
last. The methods, indented by one level, and the types, exported, go into the
places of a template.
-/

namespace TypedClient.Client

open TypedClient.Api

/-- The methods of a client and the counts made on the way. -/
structure Build where
  /-- The methods in order. -/
  methods : List Method
  /-- The counts. -/
  tally : Tally
  /-- The overrides that are left. -/
  resolver : Resolver
  /-- The names of the methods. -/
  names : List String

/-- The build with one more operation. -/
def Build.add [NameStyle] (b : Build) (endpoint : Endpoint) : Build :=
  let id := endpoint.operation.operationId
  let name := methodName id
  if name ∈ b.names then
    { b with tally := b.tally.addWarnings [.duplicateMethod id name] }
  else
    let (compiled, left) := compile b.resolver endpoint
    { methods := b.methods ++ [compiled.method]
      tally := ((b.tally.addOperation (!compiled.method.request.text.isEmpty)
        (!compiled.method.response.text.isEmpty) compiled.method.hasBody).addRenamed
          compiled.renamed).addWarnings compiled.warnings
      resolver := left
      names := name :: b.names }

/-- The warnings for overrides that belong to none of the operations. -/
def unusedOverrides (overrides : Overrides) (endpoints : List Endpoint) : List Warning :=
  (overrides.map Prod.fst).filterMap fun id =>
    if endpoints.any fun e => e.operation.operationId == id then none
    else some (.unusedOverride id)

/-- The methods of a client for a document. -/
def build [NameStyle] (document : Document) (overrides : Overrides) (mode : OverrideMode) : Build :=
  let start : Build :=
    ⟨[], Tally.empty.addPaths document.paths.length, .new overrides mode, []⟩
  let all := document.endpoints.foldl Build.add start
  { all with tally := all.tally.addWarnings (unusedOverrides overrides document.endpoints) }

/-- A text with a tab before every line that is not empty. -/
def indented (block : String) : String :=
  "\n".intercalate <| (Text.lines block.toList).map fun line =>
    if line.isEmpty then "" else "\t" ++ String.ofList line

/-- Declarations as exports, with an empty line between each two. One without any text is passed
over. -/
def exported (declarations : List String) : String :=
  "\n\n".intercalate <| (declarations.filter fun text => !text.isEmpty).map ("export type " ++ ·)

/-- The generated part for each place of a template. -/
def parts (methods : List Method) : Slot → String
  | .methods => "\n\n".intercalate (methods.map fun m => indented m.text)
  | .requestTypes => exported (methods.map fun m => m.request.text)
  | .responseTypes => exported (methods.map fun m => m.response.text)

/-- A generated client. -/
structure ClientSource where
  /-- Its text. -/
  code : String
  /-- The counts. -/
  tally : Tally

/-- The client for a document. -/
def generate [NameStyle] (document : Document) (template : Template) (overrides : Overrides)
    (mode : OverrideMode) : ClientSource :=
  let b := build document overrides mode
  ⟨template.fill (parts b.methods), b.tally⟩

end TypedClient.Client
