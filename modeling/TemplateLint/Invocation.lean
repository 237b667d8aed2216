import TemplateLint.Interpreter
import TemplateLint.Report

/-!
# Runs of the tool

What one run is asked for, the command that it becomes, and what its end amounts to.
Main exports: `Invocation`, `Invocation.command`, `workingDirectory`, `ToolOutput`, `conclude`,
`Invocation.edits`, `Invocation.problems`.
-/

namespace TemplateLint

/-- What one run of the tool needs besides the interpreter. -/
structure Invocation where
  document : Document
  settings : Settings
  folder : Option Path
  /-- The width of a tabulator, when an editor asks. -/
  tabSize : Option Nat

/-- The directory to run the tool in: with a configuration file the workspace folder, so that the
file is found where the user means it; otherwise the directory of the document. -/
def workingDirectory (arguments : List String) (document : Document) (folder : Option Path) :
    Option Path :=
  if arguments.contains Flag.configuration.name ∧ folder.isSome then folder
  else document.directory?

namespace Invocation

def arguments (invocation : Invocation) (mode : Mode) : List String :=
  ["-m", "djlint", "-"] ++
    mode.words invocation.settings invocation.document.languageId invocation.tabSize

/-- The command: the tool reads the document. -/
def command (invocation : Invocation) (mode : Mode) (python : Path) : Command :=
  let arguments := invocation.arguments mode
  { program := python
    arguments
    directory := workingDirectory arguments invocation.document invocation.folder
    input := invocation.document.text }

end Invocation

/-- What a finished run printed, as text, and its exit code unless it was killed. -/
structure ToolOutput where
  stdout : String
  stderr : String
  exitCode : Option Int
deriving DecidableEq, Repr

namespace ToolOutput

def ofOutcome (outcome : Outcome) : ToolOutput :=
  ⟨Utf8.decodeLossy outcome.stdout, Utf8.decodeLossy outcome.stderr,
    outcome.ending.code?.map Int.ofNat⟩

def success (output : ToolOutput) : Bool :=
  output.exitCode == some 0

end ToolOutput

def Command.report (command : Command) (output : ToolOutput) : FailureReport :=
  { program := command.program.display
    arguments := command.arguments
    directory := command.directory.map Path.display
    exitCode := output.exitCode
    stdout := output.stdout
    stderr := output.stderr }

/-- What a finished run amounts to: its output when it ended with code zero, and also when it ended
with another one but complained about nothing. -/
def conclude (command : Command) (output : ToolOutput) : Except Failure String :=
  if output.success then .ok output.stdout
  else
    match Failure.ofReport? command.program (command.report output) with
    | some failure => .error failure
    | none => .ok output.stdout

/-- What an attempt to run a command amounts to. -/
def concludeAttempt (command : Command) : Except IoError Outcome → Except Failure String
  | .error reason => .error (.spawn command.program reason)
  | .ok outcome => conclude command (ToolOutput.ofOutcome outcome)

/-! ## Results for an editor -/

/-- A change of a document. -/
structure TextEdit where
  range : Range
  newText : String
deriving DecidableEq, Repr

namespace Document

/-- The changes that make the document the formatted text: none, or one of the whole. -/
def editsTo (document : Document) (formatted : String) : List TextEdit :=
  if formatted = document.text then [] else [⟨document.fullRange, formatted⟩]

end Document

namespace Invocation

def shouldFormat (invocation : Invocation) : Bool :=
  invocation.settings.formats invocation.document.languageId

def shouldLint (invocation : Invocation) : Bool :=
  invocation.settings.lintingEnabled && invocation.settings.lints invocation.document.languageId

def problems (invocation : Invocation) (stdout : String) : List Problem :=
  Report.read (Layout.ofSettings invocation.settings) stdout

def diagnostics (invocation : Invocation) (problems : List Problem) : List Diagnostic :=
  problems.map (Problem.diagnostic (Severity.ofSettings invocation.settings))

end Invocation

end TemplateLint
