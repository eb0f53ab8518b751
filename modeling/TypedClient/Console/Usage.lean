import TypedClient.Console.Generation

/-!
# Messages to the user

The words in which the program says what is wrong with a command line, how it is used,
and why a command failed.
-/

namespace TypedClient.Console

/-- The spelling of an option. -/
def OptionRule.spelling (rule : OptionRule) : String :=
  "--" ++ rule.name

/-- The words for what is wrong with a command line. -/
def UsageError.message : UsageError → String
  | .help => "help is asked for"
  | .version => "the version is asked for"
  | .nothingGiven => "a command is required"
  | .missingCommand => "a command is required"
  | .unknownCommand word => "there is no command '" ++ word ++ "'"
  | .unknownArgument word => "unexpected argument '" ++ word ++ "'"
  | .missingOption rule => "the option " ++ rule.spelling ++ " is required"
  | .repeatedOption rule => "the option " ++ rule.spelling ++ " is given more than once"
  | .missingValue rule => "the option " ++ rule.spelling ++ " has no value"
  | .invalidValue rule value =>
    "the option " ++ rule.spelling ++ " cannot have the value '" ++ value ++ "'"
  | .surplusValue rule value =>
    "the option " ++ rule.spelling ++ " takes no value, but has '" ++ value ++ "'"

/-- How the program is used. -/
def usageText : String := "\n".intercalate [
  "Generates a typed client from the document of an API",
  "",
  "Usage: " ++ programName ++ " [OPTIONS] <COMMAND>",
  "",
  "Commands:",
  "  list operations  List all operations defined in the API document",
  "      -i, --input <FILE>        Path to the API JSON document",
  "  generate         Generate the client from the API document",
  "      -i, --input <FILE>        Path to the API JSON document",
  "      -t, --template <FILE>     Path to the client template with the insertion markers",
  "      -o, --output <FILE>       Path where the generated client will be written",
  "      --overrides <FILE>        JSON file with argument renames and schema patches",
  "      --override-mode <MODE>    persistent (default) or consume",
  "      -v, --verbose             Show all warnings",
  "      -q, --quiet               Show nothing but errors",
  "",
  "Options:",
  "      --color <WHEN>   always, auto (default) or never",
  "      --theme <THEME>  dark, light or auto (default)",
  "  -h, --help           Print this text",
  "  -V, --version        Print the version"] ++ "\n"

/-- The report of a failure with its causes, which are numbered if there are several. -/
def Failure.report (failure : Failure) : String :=
  match failure.chain with
  | [] => "Error"
  | [what] => "Error: " ++ what
  | [what, cause] => "Error: " ++ what ++ "\n\nCaused by:\n    " ++ cause
  | what :: causes =>
    "Error: " ++ what ++ "\n\nCaused by:" ++
      String.join (causes.mapIdx fun n cause => "\n    " ++ toString n ++ ": " ++ cause)

end TypedClient.Console
