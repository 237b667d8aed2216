import TemplateLint.Failure
import TemplateLint.Program

/-!
# Interpreters

The tool is run by an interpreter: that of the active environment, that of an environment of our
own, or one that the settings name, in this order.
Main exports: `interpreterIn`, `Lookup`, `locate`, `Locator`, `Choice`, `choose`.
-/

namespace TemplateLint

def interpreterIn (root : Path) : Path :=
  (root.child "bin").child "python"

/-- What is known about an active environment. -/
inductive Lookup where
  /-- None is active. -/
  | unavailable
  /-- One is active, and this is its interpreter. -/
  | found (python : Path)
  /-- One is active but has no interpreter. -/
  | missing
deriving DecidableEq, Repr

/-- The names of environments inside a project, the first one preferred. -/
def projectEnvironments : List String := [".venv", "venv"]

/-- The variables that name an active environment, the first one preferred. -/
def activationVariables : List String := ["VIRTUAL_ENV", "CONDA_PREFIX"]

/-- The root of the environment that has been activated. -/
def activeRoot? (environ : Variables) : Option Path :=
  (activationVariables.findSome? (Variables.nonEmpty? environ)).map Path.ofString

/-- The interpreter of an environment inside a directory. -/
def projectInterpreter? (disk : Disk) (directory : Path) : Option Path :=
  (projectEnvironments.map fun name => interpreterIn (directory.child name)).find? disk.isFile

/-- The directories to look in: up to the folder when one of them is the folder, all otherwise. -/
def upTo (folder : Option Path) : List Path → List Path
  | [] => []
  | directory :: above =>
      if (folder.map fun path => decide (path.Same directory)) = some true then [directory]
      else directory :: upTo folder above

/-- The active environment of a document: the activated one, or the nearest one of its project. -/
def locate (disk : Disk) (environ : Variables) (document : Document) (folder : Option Path) :
    Lookup :=
  match activeRoot? environ with
  | some root =>
      let python := interpreterIn root
      if disk.isFile python then .found python else .missing
  | none =>
      match document.directory?.or folder with
      | none => .unavailable
      | some start =>
          match (upTo folder start.ancestors).findSome? (projectInterpreter? disk) with
          | some python => .found python
          | none => .unavailable

/-- How active environments are found. -/
inductive Locator where
  /-- By the usual conventions. -/
  | active
  /-- Always the same answer. -/
  | fixed (lookup : Lookup)
deriving Repr

def Locator.locate (locator : Locator) (disk : Disk) (environ : Variables)
    (document : Document) (folder : Option Path) : Lookup :=
  match locator with
  | .active => TemplateLint.locate disk environ document folder
  | .fixed lookup => lookup

/-- Where an interpreter comes from. -/
inductive InterpreterSource where
  | activeEnvironment
  | isolated
  | configuredPath
deriving DecidableEq, Repr

/-- An interpreter to use. -/
structure Interpreter where
  path : Path
  source : InterpreterSource
deriving DecidableEq, Repr

/-- The outcome of the search before any program is started. -/
inductive Choice where
  | ready (interpreter : Interpreter)
  /-- The environment of our own is to be used, once it is set up. -/
  | isolated
  | failed (failure : Failure)
deriving Repr

namespace Choice

/-- Nothing can be used: an environment is active, but broken. -/
def brokenEnvironment : Failure :=
  .configuration "Failed to get Python interpreter from the active environment."

/-- Nothing can be used: no interpreter is named. -/
def noInterpreter : Failure :=
  .configuration ("Invalid " ++ Settings.sectionName ++ ".pythonPath setting.")

def withoutEnvironment (settings : Settings) : Choice :=
  if settings.isOn "useIsolatedEnvironment" then .isolated
  else
    match settings.pythonPath? with
    | some path => .ready ⟨Path.ofString path, .configuredPath⟩
    | none => .failed noInterpreter

end Choice

/-- Choose an interpreter; the active environment counts only when the settings say so. -/
def choose (settings : Settings) (lookup : Lookup) : Choice :=
  if settings.isOn "useVenv" then
    match lookup with
    | .found path => .ready ⟨path, .activeEnvironment⟩
    | .missing => .failed Choice.brokenEnvironment
    | .unavailable => Choice.withoutEnvironment settings
  else Choice.withoutEnvironment settings

end TemplateLint
