import TemplateLint.Cli.Arguments
import TemplateLint.Cli.Shell

/-!
# Requests on the command line

The first operand names a command, whose own options and operands follow.  Options for all commands
may stand before or after the name; those after it win.
Main exports: `Cli.Request`, `Cli.Parsed`, `Cli.parse`.
-/

namespace TemplateLint.Cli

/-- The commands. -/
inductive CommandName where
  | server
  | format
  | lint
  | completions
  | version
deriving DecidableEq, Repr

namespace CommandName

/-- All commands, in the order in which they are listed. -/
def all : List CommandName := [server, format, lint, completions, version]

def word : CommandName → String
  | server => "server"
  | format => "format"
  | lint => "lint"
  | completions => "completions"
  | version => "version"

def ofWord? (text : String) : Option CommandName :=
  all.find? fun command => command.word = text

end CommandName

/-- What formatting and linting have in common. -/
structure Sources where
  config : Option String
  paths : List String
  languageId : Option String
  python : Option String
deriving DecidableEq, Repr

/-- What the user wants done. -/
inductive Request where
  | serve (config : Option String) (port : Option Nat)
  | format (sources : Sources) (check : Bool)
  | lint (sources : Sources)
  | completions (shell : Option Shell) (list : Bool)
  | version
deriving DecidableEq, Repr

/-- What a command line amounts to. -/
inductive Parsed where
  | request (request : Request)
  /-- The arguments make no sense. -/
  | usage
  /-- Help on a command, or on the program. -/
  | help (command : Option CommandName)
  /-- No command was given. -/
  | noCommand
deriving DecidableEq, Repr

/-! ## The levels -/

def commonOptions : List OptionForm :=
  [⟨.config, "config".toList, some 'c', true⟩,
    ⟨.verbose, "verbose".toList, some 'v', false⟩,
    ⟨.help, "help".toList, some 'h', false⟩]

def outerGrammar : Grammar :=
  { options := commonOptions ++ [⟨.version, "version".toList, some 'V', false⟩]
    admits := fun _ _ => false
    endsAtOperand := true }

def ownOptions : CommandName → List OptionForm
  | .server =>
      [⟨.port, "port".toList, none, true⟩, ⟨.stdio, "stdio".toList, none, false⟩]
  | .format =>
      [⟨.check, "check".toList, none, false⟩,
        ⟨.languageId, "language-id".toList, none, true⟩,
        ⟨.python, "python".toList, none, true⟩]
  | .lint =>
      [⟨.languageId, "language-id".toList, none, true⟩,
        ⟨.python, "python".toList, none, true⟩]
  | .completions => [⟨.list, "list".toList, none, false⟩]
  | .version => []

/-- The operands of a command: any number of paths, one shell, or none. -/
def admitsOperand (command : CommandName) (before : Nat) (text : String) : Bool :=
  match command with
  | .format => true
  | .lint => true
  | .completions => before == 0 && (Shell.ofName? text).isSome
  | .server => false
  | .version => false

def innerGrammar (command : CommandName) : Grammar :=
  { options := commonOptions ++ ownOptions command
    admits := admitsOperand command
    endsAtOperand := false }

/-! ## Reading -/

/-- The request that the items of both levels make; formatting and linting want a path. -/
def request? (command : CommandName) (outer inner : List Item) : Option Request :=
  let config := (valueOf? .config inner).or (valueOf? .config outer)
  let sources : Sources :=
    ⟨config, operands inner, valueOf? .languageId inner, valueOf? .python inner⟩
  match command with
  | .server => some (.serve config ((valueOf? .port inner).bind port?))
  | .format => if sources.paths = [] then none else some (.format sources (isGiven .check inner))
  | .lint => if sources.paths = [] then none else some (.lint sources)
  | .completions =>
      some (.completions ((operands inner).head?.bind Shell.ofName?) (isGiven .list inner))
  | .version => some .version

/-- What a command with its arguments amounts to. -/
def parseCommand (outer : List Item) (command : CommandName) (arguments : List String) : Parsed :=
  match readItems (innerGrammar command) [] arguments with
  | .error .help => .help (some command)
  | .error _ => .usage
  | .ok (inner, _) =>
      match request? command outer inner with
      | some request => .request request
      | none => .usage

/-- What the arguments of the command `help` amount to. -/
def parseHelp : List String → Parsed
  | [] => .help none
  | [word] =>
      match CommandName.ofWord? word with
      | some command => .help (some command)
      | none => if word = "help" then .help none else .usage
  | _ => .usage

def parse (arguments : List String) : Parsed :=
  match readItems outerGrammar [] arguments with
  | .error .help => .help none
  | .error .version => .request .version
  | .error .usage => .usage
  | .ok (outer, []) => if outer = [] then .noCommand else .usage
  | .ok (outer, word :: rest) =>
      if word = "help" then parseHelp rest
      else
        match CommandName.ofWord? word with
        | some command => parseCommand outer command rest
        | none => .usage

end TemplateLint.Cli
