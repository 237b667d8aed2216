import TemplateLint.Server.Turn

/-!
# Work on a job

A job goes on until it has to wait or has come to a finding.  Its settings are fixed first, then an
interpreter is found, for which the environment of our own may have to be set up, and last the
tool is run.  Each function answers with the turn and the finding, which is none while the job
waits.  Main exports: `Turn.proceed`, `News`, `Turn.heeds`, `Turn.resume`.
-/

namespace TemplateLint

namespace Turn

/-! ## The tool -/

def runTool (turn : Turn) (number : Nat) (job : Job) (python : Path) : Turn × Option Finding :=
  let command := job.command python
  match command.launch turn.disk turn.server.environ with
  | .ok launch => (turn.startFor number job (.tool python) launch, none)
  | .error reason => (turn, some ⟨job, .error (.spawn command.program reason)⟩)

/-! ## The environment of our own -/

/-- The environment works: the next job may look at it, and the tool is run. -/
def setupDone (turn : Turn) (number : Nat) (job : Job) : Turn × Option Finding :=
  let turn := turn.update fun server =>
    { server with isolated := { server.isolated with initialized := true } }
  (turn.release number).runTool number job turn.server.isolated.python

/-- The environment could not be set up: the next job may try. -/
def setupFailed (turn : Turn) (number : Nat) (job : Job) (failure : Failure) :
    Turn × Option Finding :=
  (turn.release number, some ⟨job, .error failure⟩)

/-- Go on setting up with a step.  When its command cannot be started, that is its result. -/
def setUp (turn : Turn) (number : Nat) (job : Job) (step : SetupStep) : Turn × Option Finding :=
  let venv := turn.server.isolated.venv
  match step with
  | .run stage =>
      match (stage.command venv).launch turn.disk turn.server.environ with
      | .ok launch => (turn.startFor number job (.setup stage) launch, none)
      | .error reason => turn.setUp number job (stage.resume venv (.refused reason) turn.disk)
  | .remove => (turn.removeFor number job, none)
  | .done => turn.setupDone number job
  | .failed failure => turn.setupFailed number job failure
termination_by step.rank
decreasing_by exact Setup.rank_resume _ _ _ _

/-- It is the turn of a job to set up the environment, unless another has done so meanwhile. -/
def takeTurn (turn : Turn) (number : Nat) (job : Job) : Turn × Option Finding :=
  if turn.server.isolated.initialized then
    (turn.release number).runTool number job turn.server.isolated.python
  else turn.setUp number job (Setup.begin turn.server.isolated.venv turn.disk)

/-- Run the tool in the environment of our own, which one job at a time sets up. -/
def enterIsolated (turn : Turn) (number : Nat) (job : Job) : Turn × Option Finding :=
  if turn.server.isolated.initialized then
    turn.runTool number job turn.server.isolated.python
  else
    let waits := !turn.server.queue.isEmpty
    let turn := turn.update fun server => { server with queue := server.queue ++ [number] }
    if waits then (turn.hold number job .turn, none) else turn.takeTurn number job

/-! ## Settings -/

/-- Run the tool for a job whose settings are fixed, if they want it. -/
def invoke (turn : Turn) (number : Nat) (job : Job) : Turn × Option Finding :=
  if job.isWanted then
    match choose job.settings (turn.server.lookup turn.disk job) with
    | .ready interpreter => turn.runTool number job interpreter.path
    | .isolated => turn.enterIsolated number job
    | .failed failure => (turn, some ⟨job, .error failure⟩)
  else (turn, some ⟨job, .ok none⟩)

/-- Fix the settings of a job: those of the editor for the document over all others, and the
choices of the user over those. -/
def settle (turn : Turn) (number : Nat) (job : Job) (answer : Option Settings) :
    Turn × Option Finding :=
  let settings := match answer with
    | some layer => job.settings.merged layer
    | none => job.settings
  turn.invoke number { job with settings := turn.server.store.apply job.folder settings }

/-- Begin with a job that has been taken up. -/
def proceed (turn : Turn) (number : Nat) (job : Job) : Turn × Option Finding :=
  let job := { job with settings := turn.server.settings }
  if turn.server.asksSettings && turn.server.phase.isOpen then
    ((turn.hold number job .editor).ask (.job number) (.settings job.document.uri), none)
  else turn.settle number job none

end Turn

/-! ## Waiting -/

/-- What a waiting job learns. -/
inductive News where
  /-- The settings that the editor gave, if it gave any. -/
  | answer (settings : Option Settings)
  /-- What became of its program. -/
  | result (result : CommandResult)
  /-- What became of the removal. -/
  | removed (result : Except IoError Unit)
  /-- Nothing, but it should look around. -/
  | wake

namespace Turn

/-- A job heeds what it waits for.  When it is woken it heeds that its turn has come, or that it
has been superseded; but not while it waits for the editor. -/
def heeds (turn : Turn) (number : Nat) (job : Job) : News → Bool
  | .answer _ => job.wait == .editor
  | .result _ => job.wait.isRunning
  | .removed _ => job.wait == .removal
  | .wake =>
      match job.wait with
      | .editor => false
      | .turn => job.superseded || turn.server.queue.head? == some number
      | _ => job.superseded

/-- Go on with a job after some news. -/
def resume (turn : Turn) (number : Nat) (job : Job) (news : News) : Turn × Option Finding :=
  match job.wait, news with
  | .editor, .answer settings => turn.settle number job settings
  | .turn, .wake =>
      if turn.server.queue.head? = some number then turn.takeTurn number job else (turn, none)
  | .setup stage, .result result =>
      turn.setUp number job (stage.resume turn.server.isolated.venv result turn.disk)
  | .removal, .removed result =>
      turn.setUp number job (Setup.cleared turn.server.isolated.venv result)
  | .tool python, .result (.finished outcome) =>
      (turn, some ⟨job, (concludeAttempt (job.command python) (.ok outcome)).map some⟩)
  | .tool python, .result (.refused reason) =>
      (turn, some ⟨job, (concludeAttempt (job.command python) (.error reason)).map some⟩)
  | _, _ => (turn, none)

end Turn

end TemplateLint
