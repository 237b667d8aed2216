import TemplateLint.Flag
import TemplateLint.IoError
import TemplateLint.Text.Phrase

/-!
# Failures of a run

A run of the tool that did not end well is judged by what it printed on its error stream: progress
is no failure, and some complaints are known.
Main exports: `Verdict`, `Verdict.ofText`, `FailureReport`, `Failure`, `Failure.ofReport?`.
-/

namespace TemplateLint

/-- What the error stream of a run says. -/
inductive Verdict where
  /-- Nothing, or progress. -/
  | harmless
  /-- The interpreter has not got the tool. -/
  | notInstalled
  /-- The tool is too old for one of our flags. -/
  | unsupported (flag : Flag)
  /-- Anything else. -/
  | unknown
deriving DecidableEq, Repr

namespace Verdict

/-- What the tool prints about its progress. -/
def progress : Text.Phrase :=
  [.word "Linting".toList, .blanks, .number, .word ['/'], .number, .blanks, .word "files".toList]

/-- What an interpreter prints that has not got the tool. -/
def missingModule : Text.Phrase :=
  Text.Phrase.ofWords ["No", "module", "named", "djlint"]

/-- What the tool prints about a flag that it does not know. -/
def missingOption : Text.Phrase :=
  Text.Phrase.ofWords ["No", "such", "option:"] ++ [.anyBlanks]

/-- The first option that the text says is unknown. -/
def option? (text : List Char) : Option String := do
  let after ← missingOption.find? text
  let option := after.takeWhile fun c => !Text.isBlank c
  if option = [] then none else some (String.ofList option)

/-- What the text of an error stream says. -/
def ofText (stderr : String) : Verdict :=
  let text := stderr.toList
  if stderr = "" ∨ progress.occursIn text then .harmless
  else if missingModule.occursIn text then .notInstalled
  else
    match (option? text).bind Flag.find? with
    | some flag => .unsupported flag
    | none => .unknown

end Verdict

/-- All that is known about a run that failed. -/
structure FailureReport where
  program : String
  arguments : List String
  directory : Option String
  exitCode : Option Int
  stdout : String
  stderr : String
deriving DecidableEq, Repr

def FailureReport.toJson (report : FailureReport) : Json :=
  .object
    [("program", .text report.program),
      ("args", .array (report.arguments.map Json.text)),
      ("cwd", Json.ofOption Json.text report.directory),
      ("exitCode", Json.ofOption Json.ofInt report.exitCode),
      ("stdout", .text report.stdout),
      ("stderr", .text report.stderr)]

/-- Why there is no result. -/
inductive Failure where
  /-- No interpreter can be used. -/
  | configuration (message : String)
  | notInstalled (python : Path) (report : FailureReport)
  | unsupportedOption (option since : String) (python : Path) (report : FailureReport)
  /-- The tool failed in a way of its own. -/
  | tool (message : String) (report : FailureReport)
  /-- The program could not be started. -/
  | spawn (program : Path) (reason : IoError)
  /-- The environment of our own could not be set up. -/
  | isolatedEnvironment (message : String)
deriving DecidableEq, Repr

namespace Failure

def message : Failure → String
  | configuration message => message
  | notInstalled python _ =>
      "djLint is not installed for the current active Python interpreter. Install it with the \x60" ++
        python.display ++ " -m pip install -U djlint\x60 command."
  | unsupportedOption option since python _ =>
      "Your version of djLint does not support the \x60" ++ option ++
        "\x60 option. Disable it in the settings or update djLint with the \x60" ++
        python.display ++ " -m pip install -U djlint>=" ++ since ++ "\x60 command."
  | tool message _ => message
  | spawn program reason => "Failed to run " ++ program.display ++ ": " ++ reason.message
  | isolatedEnvironment message => message

/-- The failure will come again until the user changes something. -/
def isConfiguration : Failure → Bool
  | configuration _ => true
  | notInstalled .. => true
  | unsupportedOption .. => true
  | tool .. => false
  | spawn .. => true
  | isolatedEnvironment _ => false

/-- The report of the run that failed, if one was made. -/
def report? : Failure → Option FailureReport
  | notInstalled _ report => some report
  | unsupportedOption _ _ _ report => some report
  | tool _ report => some report
  | _ => none

/-- The wording together with the report. -/
def details (failure : Failure) : String :=
  match failure.report? with
  | some report => failure.message ++ "\n" ++ report.toJson.pretty
  | none => failure.message

/-- The wording for an error stream that nothing is known about. -/
def toolMessage (code : Int) (stderr : String) : String :=
  let text := Text.trim stderr
  if text = "" then "djLint exited with code " ++ Text.integerText code else text

/-- The wording for a run that was killed. -/
def killedMessage : String := "djLint was terminated by a signal"

/-- The failure that a run not ended with code zero amounts to; none when its error stream is
harmless.  A run that was killed is always a failure. -/
def ofReport? (python : Path) (report : FailureReport) : Option Failure :=
  match report.exitCode with
  | none => some (tool killedMessage report)
  | some code =>
      match Verdict.ofText report.stderr with
      | .harmless => none
      | .notInstalled => some (notInstalled python report)
      | .unsupported flag =>
          some (unsupportedOption flag.displayName (flag.since.getD "0") python report)
      | .unknown => some (tool (toolMessage code report.stderr) report)

end Failure

end TemplateLint
