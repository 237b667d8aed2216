import TemplateLint.Document
import TemplateLint.Report.Delimited
import TemplateLint.Report.Legacy
import TemplateLint.Settings.Basic

/-!
# Reports of the tool

The settings say in which layout the tool reports problems and how grave they are.
Main exports: `Layout`, `Report.read`, `Diagnostic`.
-/

namespace TemplateLint

/-- The layout of a report. -/
inductive Layout where
  | legacy
  | delimited
deriving DecidableEq, Repr

/-- The layout that the settings ask the tool for. -/
def Layout.ofSettings (settings : Settings) : Layout :=
  if settings.isOn "useNewLinterOutputParser" then .delimited else .legacy

def Report.read : Layout → String → List Problem
  | .legacy => Report.legacy
  | .delimited => Report.delimited

/-- How grave a problem is. -/
inductive Severity where
  | error
  | warning
  | information
  | hint
deriving DecidableEq, Repr

namespace Severity

/-- The severity of the given name; any other name is a warning. -/
def ofName (name : String) : Severity :=
  let name := lowerAscii name
  if name = "error" then .error
  else if name = "information" ∨ name = "info" then .information
  else if name = "hint" then .hint
  else .warning

/-- The severity that the settings ask for. -/
def ofSettings (settings : Settings) : Severity :=
  ofName ((settings.text? "diagnosticSeverity").getD "")

end Severity

/-- A problem as an editor shows it. -/
structure Diagnostic where
  range : Range
  severity : Severity
  code : String
  message : String
deriving DecidableEq, Repr

/-- The diagnostic of a problem: it has no width. -/
def Problem.diagnostic (severity : Severity) (problem : Problem) : Diagnostic :=
  let place := ⟨problem.line, problem.column⟩
  ⟨⟨place, place⟩, severity, problem.code, problem.label⟩

end TemplateLint
