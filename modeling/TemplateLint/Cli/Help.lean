import TemplateLint.Cli.Request

/-!
# Help texts

Main exports: `Cli.helpText`, `Cli.usageText`.
-/

namespace TemplateLint.Cli

/-- A line for an entry, with its explanation in a column of its own. -/
def entryLine (width : Nat) (entry : String × String) : String :=
  "  " ++ entry.1 ++ String.ofList (List.replicate (width - entry.1.length + 2) ' ') ++ entry.2 ++
    "\n"

def block (heading : String) (entries : List (String × String)) : String :=
  let width := entries.foldl (fun width entry => max width entry.1.length) 0
  if entries = [] then ""
  else "\n" ++ heading ++ "\n" ++ String.join (entries.map (entryLine width))

def configEntry : String × String :=
  ("-c, --config <CONFIG>", "Settings file (TOML) to use instead of discovering djlint-ls.toml")

def verboseEntry : String × String := ("-v, --verbose", "Show detailed output")

def helpEntry : String × String := ("-h, --help", "Print help")

def languageEntry : String × String :=
  ("    --language-id <LANGUAGE_ID>",
    "Language id to use instead of guessing from the file extension")

def pythonEntry : String × String :=
  ("    --python <PYTHON>", "Python interpreter that has djLint installed")

def about : CommandName → String
  | .server => "Start the Language Server Protocol server"
  | .format => "Format templates with djLint"
  | .lint => "Lint templates with djLint and print the problems"
  | .completions => "Generate shell completion scripts"
  | .version => "Show version information"

def usageLine : Option CommandName → String
  | none => "Usage: djlint-ls [OPTIONS] <COMMAND>\n"
  | some .server => "Usage: djlint-ls server [OPTIONS]\n"
  | some .format => "Usage: djlint-ls format [OPTIONS] <PATHS>...\n"
  | some .lint => "Usage: djlint-ls lint [OPTIONS] <PATHS>...\n"
  | some .completions => "Usage: djlint-ls completions [OPTIONS] [SHELL]\n"
  | some .version => "Usage: djlint-ls version [OPTIONS]\n"

def operandEntries : CommandName → List (String × String)
  | .format => [("<PATHS>...", "Template files to format (use '-' for stdin)")]
  | .lint => [("<PATHS>...", "Template files to lint (use '-' for stdin)")]
  | .completions =>
      [("[SHELL]",
        "Shell to generate completions for (detected from $SHELL if omitted) [possible values: bash, elvish, fish, powershell, zsh]")]
  | .server => []
  | .version => []

def optionEntries : CommandName → List (String × String)
  | .server =>
      [configEntry, ("    --port <PORT>", "TCP port to listen on (for debugging)"),
        ("    --stdio", "Use stdio for communication (default)"), verboseEntry, helpEntry]
  | .format =>
      [configEntry,
        ("    --check", "Exit with code 1 if any file would be reformatted, without writing"),
        verboseEntry, languageEntry, pythonEntry, helpEntry]
  | .lint => [configEntry, languageEntry, verboseEntry, pythonEntry, helpEntry]
  | .completions =>
      [configEntry, ("    --list", "List available shells"), verboseEntry, helpEntry]
  | .version => [configEntry, verboseEntry, helpEntry]

/-- The help on a command, or on the program. -/
def helpText : Option CommandName → String
  | none =>
      "Language server and CLI front end for the djLint template linter\n\n" ++ usageLine none ++
        block "Commands:"
          (CommandName.all.map (fun command => (command.word, about command)) ++
            [("help", "Print this message or the help of the given subcommand(s)")]) ++
        block "Options:" [configEntry, verboseEntry, helpEntry, ("-V, --version", "Print version")]
  | some command =>
      about command ++ "\n\n" ++ usageLine (some command) ++
        block "Arguments:" (operandEntries command) ++ block "Options:" (optionEntries command)

/-- What is said about arguments that make no sense. -/
def usageText : String :=
  "error: the arguments make no sense\n\n" ++ usageLine none ++
    "\nFor more information, try '--help'.\n"

end TemplateLint.Cli
