/-!
# Grammars of command lines

A command line is read word by word against a `Level`: the options that it knows and
the commands below it. A command starts a level of its own, to which all words after
it belong. `Level.parse` gives the options of every level with their values, or
the first thing that is wrong.

A value follows its option as the next word, or in the same word after `=`, or directly
after the letter of the option. A value is judged only when the next option is read or
the words of the level end, so that a fault further on may be reported first.
-/

namespace TypedClient.Console

/-- What an option does. -/
inductive OptionKind where
  /-- It is on when it is given. -/
  | flag
  /-- It takes any value that is not empty. -/
  | text
  /-- It takes one of some words. -/
  | choice (words : List String)
  /-- It asks for the help text. -/
  | help
  /-- It asks for the version. -/
  | version
  deriving DecidableEq, Repr

/-- An option. -/
structure OptionRule where
  /-- The name after two dashes. -/
  name : String
  /-- The letter after one dash. -/
  letter : Option Char
  /-- What it does. -/
  kind : OptionKind
  /-- Whether it has to be given. -/
  required : Bool
  deriving DecidableEq, Repr

/-- Whether an option takes a value. -/
def OptionRule.takesValue (rule : OptionRule) : Bool :=
  match rule.kind with
  | .text => true
  | .choice _ => true
  | _ => false

/-- The options of a level and the commands below it, each with its own level. -/
inductive Level where
  | mk (options : List OptionRule) (commands : List (String × Level))

namespace Level

/-- The options of a level. -/
def options : Level → List OptionRule
  | mk options _ => options

/-- The commands below a level. -/
def commands : Level → List (String × Level)
  | mk _ commands => commands

end Level

/-- What is wrong with a command line, or what it asks for instead of a command. -/
inductive UsageError where
  /-- The help text is asked for. -/
  | help
  /-- The version is asked for. -/
  | version
  /-- Nothing at all is given where a command is needed. -/
  | nothingGiven
  /-- A command is needed after the options. -/
  | missingCommand
  /-- A word stands where only a command can, and is none. -/
  | unknownCommand (word : String)
  /-- A word is no option and no value of one. -/
  | unknownArgument (word : String)
  /-- An option that has to be given is not. -/
  | missingOption (rule : OptionRule)
  /-- An option is given twice. -/
  | repeatedOption (rule : OptionRule)
  /-- An option has no value. -/
  | missingValue (rule : OptionRule)
  /-- An option cannot have this value. -/
  | invalidValue (rule : OptionRule) (value : String)
  /-- An option takes no value but has one. -/
  | surplusValue (rule : OptionRule) (value : String)
  deriving DecidableEq, Repr

/-- The options of a level by name, with their values; that of a flag is empty. -/
abbrev Given := List (String × String)

/-- A command line that has been read: the commands in it, and the options of each level from
the outermost on. -/
structure Parsed where
  /-- The commands. -/
  commands : List String
  /-- The options of the levels. -/
  levels : List Given
  deriving DecidableEq, Repr

/-- The value that the innermost level gives for an option. -/
def Parsed.value? (parsed : Parsed) (name : String) : Option String :=
  parsed.levels.reverse.findSome? fun given => given.lookup name

/-- Whether a flag is given. -/
def Parsed.has (parsed : Parsed) (name : String) : Bool :=
  (parsed.value? name).isSome

/-- How far the words of a level have been read. -/
structure Reading where
  /-- The options so far. -/
  given : Given
  /-- The last option, with the value that it waits to be judged for. -/
  pending : Option (OptionRule × Option String)

/-- An option and its value among those that are given. -/
def Given.add (given : Given) (rule : OptionRule) (value : String) : Except UsageError Given :=
  if (given.lookup rule.name).isSome then .error (.repeatedOption rule)
  else
    let added : Given := given ++ [(rule.name, value)]
    match rule.kind with
    | .help => .error .help
    | .version => .error .version
    | .flag => .ok added
    | .text => if value = "" then .error (.invalidValue rule value) else .ok added
    | .choice words => if value ∈ words then .ok added else .error (.invalidValue rule value)

namespace Reading

/-- No word of a level has been read. -/
def start : Reading := ⟨[], none⟩

/-- Whether the next word can be the value of an option. -/
def awaitsValue (r : Reading) : Bool :=
  match r.pending with
  | some (_, none) => true
  | _ => false

/-- The options, with the last one judged. -/
def settle (r : Reading) : Except UsageError Given :=
  match r.pending with
  | none => .ok r.given
  | some (rule, none) => .error (.missingValue rule)
  | some (rule, some value) => r.given.add rule value

/-- The reading after an option with its value. -/
def take (r : Reading) (rule : OptionRule) (value : String) : Except UsageError Reading := do
  let given ← (← r.settle).add rule value
  return ⟨given, none⟩

/-- The reading after an option whose value is to be the next word. -/
def await (r : Reading) (rule : OptionRule) : Except UsageError Reading := do
  return ⟨← r.settle, some (rule, none)⟩

end Reading

namespace Level

/-- The name of the command that explains the others. -/
def helpCommand : String := "help"

/-- Whether a word is a command here. Wherever there are commands, one of them explains the
others. -/
def isCommand (level : Level) (word : String) : Bool :=
  (level.commands.lookup word).isSome || (word == helpCommand && !level.commands.isEmpty)

/-- The words after the command that explains the others: they have to be commands, each below the
one before. -/
def parseHelp (level : Level) : List String → UsageError
  | [] => .help
  | word :: rest =>
    match level.commands.lookup word with
    | some below => below.parseHelp rest
    | none =>
      if level.isCommand word then
        match rest with
        | [] => .help
        | next :: _ => .unknownCommand next
      else .unknownCommand word

/-- The reading after an option by name. -/
def readName (level : Level) (r : Reading) (word : String) (text : List Char) :
    Except UsageError Reading :=
  let name := String.ofList (text.takeWhile (· ≠ '='))
  let value? :=
    match text.dropWhile (· ≠ '=') with
    | [] => none
    | _ :: value => some (String.ofList value)
  match level.options.find? fun rule => rule.name = name, value? with
  | none, _ => .error (.unknownArgument word)
  | some rule, some value =>
    if rule.takesValue then r.take rule value else .error (.surplusValue rule value)
  | some rule, none => if rule.takesValue then r.await rule else r.take rule ""

/-- The reading after options by letter. What follows the letter of an option that takes a value is
its value. -/
def readLetters (level : Level) (word : String) : Reading → List Char → Except UsageError Reading
  | r, [] => .ok r
  | r, c :: rest =>
    match level.options.find? fun rule => rule.letter = some c with
    | none => .error (.unknownArgument word)
    | some rule =>
      if rule.takesValue then
        match rest with
        | [] => r.await rule
        | '=' :: value => r.take rule (String.ofList value)
        | value => r.take rule (String.ofList value)
      else
        match r.take rule "" with
        | .error e => .error e
        | .ok next => level.readLetters word next rest

/-- The error for a word that is no option and no value of one. -/
def surplus (level : Level) (onlyValues : Bool) (word : String) : UsageError :=
  if level.commands.isEmpty || onlyValues && level.isCommand word then .unknownArgument word
  else .unknownCommand word

/-- The options of a level at the end of its words. -/
def finish (level : Level) (r : Reading) : Except UsageError Parsed :=
  match r.settle with
  | .error e => .error e
  | .ok given =>
    if !level.commands.isEmpty then
      .error (if given.isEmpty then .nothingGiven else .missingCommand)
    else
      match level.options.find? fun rule => rule.required && (given.lookup rule.name).isNone with
      | some rule => .error (.missingOption rule)
      | none => .ok ⟨[], [given]⟩

/-- Reads the words of a level. After the word `--`, which sets `onlyValues`, no word is an option
or a command. -/
def parseFrom (level : Level) (r : Reading) (onlyValues : Bool) :
    List String → Except UsageError Parsed
  | [] => level.finish r
  | word :: rest =>
    if onlyValues then .error (level.surplus true word)
    else if !r.awaitsValue && level.isCommand word then
      match level.commands.lookup word with
      | none => .error (level.parseHelp rest)
      | some below =>
        match below.parseFrom .start false rest with
        | .error e => .error e
        | .ok parsed =>
          match r.settle with
          | .error e => .error e
          | .ok given => .ok ⟨word :: parsed.commands, given :: parsed.levels⟩
    else
      match word.toList with
      | ['-', '-'] => level.parseFrom r true rest
      | '-' :: '-' :: text =>
        match level.readName r word text with
        | .error e => .error e
        | .ok next => level.parseFrom next false rest
      | '-' :: c :: text =>
        match level.readLetters word r (c :: text) with
        | .error e => .error e
        | .ok next => level.parseFrom next false rest
      | _ =>
        match r.pending with
        | some (rule, none) => level.parseFrom ⟨r.given, some (rule, some word)⟩ false rest
        | _ => .error (level.surplus false word)

/-- Reads a command line. -/
def parse (level : Level) (words : List String) : Except UsageError Parsed :=
  level.parseFrom .start false words

end Level

end TypedClient.Console
