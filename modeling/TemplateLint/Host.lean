import TemplateLint.Invocation
import TemplateLint.Isolated.Setup

/-!
# Running programs one after the other

A host knows the environment variables and how programs behave.  A world is what a sequence of runs
changes: the files, the record of what was started, and whether the environment of our own is set
up.
Main exports: `Host`, `World`, `Host.execute`, `Host.ensure`, `Host.resolve`, `Host.formatText`,
`Host.lintProblems`.
-/

namespace TemplateLint

/-- An environment of our own: where it is, and whether it is known to work. -/
structure Isolated where
  venv : Path
  initialized : Bool
deriving DecidableEq, Repr

/-- The interpreter of the environment. -/
def Isolated.python (isolated : Isolated) : Path :=
  interpreterIn isolated.venv

/-- What stays the same while programs run. -/
structure Host where
  environ : Variables
  /-- What a program does once it has been started, and the files after it. -/
  behave : Disk → Launch → Outcome × Disk

/-- What programs change. -/
structure World where
  disk : Disk
  /-- Everything that was started, the latest first. -/
  launches : List Launch
  isolated : Isolated

namespace Host

def start (host : Host) (command : Command) (world : World) : Except IoError Outcome × World :=
  match command.launch world.disk host.environ with
  | .error reason => (.error reason, world)
  | .ok launch =>
      let (outcome, disk) := host.behave world.disk launch
      (.ok outcome, { world with disk, launches := launch :: world.launches })

/-- Run a command to its end and read what it printed. -/
def execute (host : Host) (command : Command) (world : World) :
    Except Failure ToolOutput × World :=
  match host.start command world with
  | (.error reason, world) => (.error (.spawn command.program reason), world)
  | (.ok outcome, world) => (.ok (ToolOutput.ofOutcome outcome), world)

/-! ## The environment of our own -/

/-- The result of a command of the setup. -/
def setupResult : Except IoError Outcome → CommandResult
  | .ok outcome => .finished outcome
  | .error reason => .refused reason

/-- Remove whatever stands in the place of the environment, unless that is refused. -/
def clear (world : World) : Except IoError Unit × World :=
  match world.disk.removeTree world.isolated.venv with
  | .ok disk => (.ok (), { world with disk })
  | .error reason => (.error reason, world)

@[simp]
theorem clear_isolated (world : World) : (clear world).2.isolated = world.isolated := by
  unfold clear
  split
  · rfl
  · rfl

/-- Go on setting up with a step. -/
def setUpFrom (host : Host) (step : SetupStep) (world : World) : Except Failure Unit × World :=
  match step with
  | .run stage =>
      let (result, world) := host.start (stage.command world.isolated.venv) world
      host.setUpFrom (stage.resume world.isolated.venv (setupResult result) world.disk) world
  | .remove =>
      let (result, world) := clear world
      host.setUpFrom (Setup.cleared world.isolated.venv result) world
  | .done => (.ok (), world)
  | .failed failure => (.error failure, world)
termination_by step.rank
decreasing_by
  · exact Setup.rank_resume _ _ _ _
  · exact Setup.rank_cleared _ _

/-- Set up the environment from the start. -/
def setUp (host : Host) (world : World) : Except Failure Unit × World :=
  host.setUpFrom (Setup.begin world.isolated.venv world.disk) world

/-- The interpreter of the environment, which is set up first unless it is known to work.  A
failure is not remembered. -/
def ensure (host : Host) (world : World) : Except Failure Path × World :=
  if world.isolated.initialized then (.ok world.isolated.python, world)
  else
    match host.setUp world with
    | (.error failure, world) => (.error failure, world)
    | (.ok (), world) =>
        (.ok world.isolated.python,
          { world with isolated := { world.isolated with initialized := true } })

/-- Forget that the environment works; its files stay. -/
def dispose (world : World) : World :=
  { world with isolated := { world.isolated with initialized := false } }

/-! ## The tool -/

/-- Find the interpreter for an invocation. -/
def resolve (host : Host) (locator : Locator) (invocation : Invocation) (world : World) :
    Except Failure Interpreter × World :=
  let lookup := locator.locate world.disk host.environ invocation.document invocation.folder
  match choose invocation.settings lookup with
  | .ready interpreter => (.ok interpreter, world)
  | .failed failure => (.error failure, world)
  | .isolated =>
      match host.ensure world with
      | (.ok path, world) => (.ok ⟨path, .isolated⟩, world)
      | (.error failure, world) => (.error failure, world)

/-- Run the tool on a document: its output, or why there is none. -/
def run (host : Host) (locator : Locator) (invocation : Invocation) (mode : Mode)
    (world : World) : Except Failure String × World :=
  match host.resolve locator invocation world with
  | (.error failure, world) => (.error failure, world)
  | (.ok interpreter, world) =>
      let command := invocation.command mode interpreter.path
      let (result, world) := host.start command world
      (concludeAttempt command result, world)

/-- The formatted text of a document. -/
def formatText (host : Host) (locator : Locator) (invocation : Invocation) (world : World) :
    Except Failure String × World :=
  host.run locator invocation .format world

/-- The changes that format a document, none when its language is not formatted. -/
def formatDocument (host : Host) (locator : Locator) (invocation : Invocation) (world : World) :
    Except Failure (List TextEdit) × World :=
  if invocation.shouldFormat then
    let (result, world) := host.formatText locator invocation world
    (result.map invocation.document.editsTo, world)
  else (.ok [], world)

/-- The problems of a document, none when it is not linted. -/
def lintProblems (host : Host) (locator : Locator) (invocation : Invocation) (world : World) :
    Except Failure (List Problem) × World :=
  if invocation.shouldLint then
    let (result, world) := host.run locator invocation .lint world
    (result.map invocation.problems, world)
  else (.ok [], world)

/-- The problems of a document as an editor shows them. -/
def lintDocument (host : Host) (locator : Locator) (invocation : Invocation) (world : World) :
    Except Failure (List Diagnostic) × World :=
  let (result, world) := host.lintProblems locator invocation world
  (result.map invocation.diagnostics, world)

end Host

end TemplateLint
