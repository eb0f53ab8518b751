import TypedClient.Api.Override
import TypedClient.Console.Grammar
import TypedClient.Console.Palette
import TypedClient.Files.FilePath

/-!
# The command line

The options and commands of the program, and what a command line that fits them asks
for. `Invocation.parse` reads one.
-/

namespace TypedClient.Console

open TypedClient.Api (OverrideMode)
open TypedClient.Files (FilePath)

/-- The files that a client is made from, and the one that it goes to. -/
structure Request where
  /-- The document. -/
  input : FilePath
  /-- The template. -/
  template : FilePath
  /-- The file for the client. -/
  output : FilePath
  /-- The overrides. -/
  overrides : Option FilePath
  /-- How long other names for arguments stay in force. -/
  mode : OverrideMode
  deriving DecidableEq, Repr

/-- How much is said about the making of a client. -/
structure Verbosity where
  /-- Whether every warning is shown. -/
  verbose : Bool
  /-- Whether nothing is shown. -/
  quiet : Bool
  deriving DecidableEq, Repr

/-- What the program is to do. -/
inductive Command where
  /-- To make a client. -/
  | generate (request : Request) (verbosity : Verbosity)
  /-- To list the operations of a document. -/
  | listOperations (input : FilePath)
  deriving DecidableEq, Repr

/-- What the program is to do and how its output looks. -/
structure Invocation where
  /-- When colours are used. -/
  color : ColorMode
  /-- Which theme is used. -/
  theme : ThemeMode
  /-- What is to be done. -/
  command : Command
  deriving DecidableEq, Repr

/-! ### Words for choices -/

/-- The words for the use of colours. -/
def ColorMode.words : List (String × ColorMode) :=
  [("always", .always), ("auto", .auto), ("never", .never)]

/-- The words for themes. -/
def ThemeMode.words : List (String × ThemeMode) :=
  [("dark", .dark), ("light", .light), ("auto", .auto)]

/-- The words for how long other names stay in force. -/
def overrideModeWords : List (String × OverrideMode) :=
  [("persistent", .persistent), ("consume", .consume)]

/-! ### The grammar -/

/-- An option that takes a path. -/
def pathOption (name : String) (letter : Option Char) (required : Bool) : OptionRule :=
  ⟨name, letter, .text, required⟩

/-- An option that takes a word. -/
def choiceOption {α : Type} (name : String) (words : List (String × α)) : OptionRule :=
  ⟨name, none, .choice (words.map Prod.fst), false⟩

/-- The options that every level has. -/
def commonOptions : List OptionRule := [
  choiceOption "color" ColorMode.words,
  choiceOption "theme" ThemeMode.words,
  ⟨"help", some 'h', .help, false⟩]

/-- The options for the making of a client. -/
def generateLevel : Level :=
  .mk (commonOptions ++ [
    pathOption "input" (some 'i') true,
    pathOption "template" (some 't') true,
    pathOption "output" (some 'o') true,
    pathOption "overrides" none false,
    choiceOption "override-mode" overrideModeWords,
    ⟨"verbose", some 'v', .flag, false⟩,
    ⟨"quiet", some 'q', .flag, false⟩]) []

/-- The options for the list of operations. -/
def operationsLevel : Level :=
  .mk (commonOptions ++ [pathOption "input" (some 'i') true]) []

/-- The things that can be listed. -/
def listLevel : Level :=
  .mk commonOptions [("operations", operationsLevel)]

/-- The whole grammar. -/
def programLevel : Level :=
  .mk (commonOptions ++ [⟨"version", some 'V', .version, false⟩])
    [("list", listLevel), ("generate", generateLevel)]

/-- The name of the program. -/
def programName : String := "highsystems-gen"

/-- The version of the program. -/
def programVersion : String := "0.4.1"

/-- The number that tells whether something is wrong with a command line: nothing is if it asks for
the help text or the version. -/
def UsageError.exitCode : UsageError → Nat
  | .help => 0
  | .version => 0
  | _ => 2

/-- The answer to a command line that asks for the version. -/
def UsageError.answer? : UsageError → Option String
  | .version => some (programName ++ " " ++ programVersion ++ "\n")
  | _ => none

/-! ### From words to commands -/

/-- The value of an option that takes a word. -/
def chosen {α : Type} (parsed : Parsed) (name : String) (words : List (String × α))
    (otherwise : α) : α :=
  ((parsed.value? name).bind fun word => words.lookup word).getD otherwise

/-- The value of an option that takes a path. -/
def pathOf (parsed : Parsed) (name : String) : FilePath :=
  ⟨(parsed.value? name).getD ""⟩

/-- The command that a command line asks for. -/
def Command.ofParsed (parsed : Parsed) : Command :=
  if parsed.commands = ["generate"] then
    .generate
      { input := pathOf parsed "input"
        template := pathOf parsed "template"
        output := pathOf parsed "output"
        overrides := (parsed.value? "overrides").map FilePath.mk
        mode := chosen parsed "override-mode" overrideModeWords .persistent }
      ⟨parsed.has "verbose", parsed.has "quiet"⟩
  else .listOperations (pathOf parsed "input")

/-- What a command line asks for. -/
def Invocation.ofParsed (parsed : Parsed) : Invocation :=
  { color := chosen parsed "color" ColorMode.words .auto
    theme := chosen parsed "theme" ThemeMode.words .auto
    command := .ofParsed parsed }

/-- Reads a command line. -/
def Invocation.parse (words : List String) : Except UsageError Invocation :=
  (programLevel.parse words).map Invocation.ofParsed

/-- The colours for the output. -/
def Invocation.palette (invocation : Invocation) (terminal : Terminal) : Palette :=
  ⟨invocation.color.isEnabled terminal, invocation.theme.theme terminal⟩

end TypedClient.Console
