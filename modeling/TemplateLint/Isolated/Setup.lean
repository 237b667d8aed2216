import TemplateLint.Interpreter

/-!
# Setting up an environment of our own

Setting up goes on step by step.  An environment that works is left alone; otherwise whatever stands
in its place is removed, it is made anew with the first interpreter that can, and the tool is
installed into it.  `Setup.begin` gives the first step, and `Setup.resume` and `Setup.cleared` what
the result of a command and of a removal lead to.  Every step is of a lower rank than the one before
it, so that setting up comes to an end.
-/

namespace TemplateLint

/-- Where setting up has come to: the command that is running. -/
inductive Setup where
  /-- The environment is there; does it work? -/
  | validating
  /-- Can the candidate make environments?  Others may be left. -/
  | probing (candidate : String) (others : List String)
  /-- The candidate makes the environment. -/
  | creating (candidate : String)
  /-- The tool is installed. -/
  | installing
deriving DecidableEq, Repr

/-- What became of a command. -/
inductive CommandResult where
  | finished (outcome : Outcome)
  /-- It could not be started. -/
  | refused (reason : IoError)
  /-- It took longer than its limit. -/
  | expired

/-- What comes next. -/
inductive SetupStep where
  | run (stage : Setup)
  /-- Whatever stands in the place of the environment is to be removed. -/
  | remove
  | done
  | failed (failure : Failure)
deriving Repr

namespace Setup

/-- The interpreters that may make environments, the first one preferred. -/
def candidates : List String := ["python3", "python"]

/-- How many steps may follow, this one included. -/
def rank : Setup → Nat
  | validating => 4 + candidates.length
  | probing _ others => 3 + others.length
  | creating _ => 2
  | installing => 1

def limit : Setup → Nat
  | validating => 10
  | probing .. => 5
  | creating _ => 30
  | installing => 120

def words (venv : Path) : Setup → Path × List String
  | validating => (interpreterIn venv, ["-m", "djlint", "--version"])
  | probing candidate _ => (Path.ofString candidate, ["-m", "venv", "--help"])
  | creating candidate => (Path.ofString candidate, ["-m", "venv", venv.display])
  | installing => (interpreterIn venv, ["-m", "pip", "install", "-U", "djlint"])

/-- The command of a stage: it is run where we are and gets nothing to read. -/
def command (venv : Path) (stage : Setup) : Command :=
  let (program, arguments) := stage.words venv
  { program, arguments, directory := none, input := "" }

/-! ## What a command that failed says -/

/-- The names of the signals that end a process. -/
def signalName : Nat → String
  | 1 => " (SIGHUP)"
  | 2 => " (SIGINT)"
  | 3 => " (SIGQUIT)"
  | 4 => " (SIGILL)"
  | 5 => " (SIGTRAP)"
  | 6 => " (SIGABRT)"
  | 7 => " (SIGBUS)"
  | 8 => " (SIGFPE)"
  | 9 => " (SIGKILL)"
  | 10 => " (SIGUSR1)"
  | 11 => " (SIGSEGV)"
  | 12 => " (SIGUSR2)"
  | 13 => " (SIGPIPE)"
  | 14 => " (SIGALRM)"
  | 15 => " (SIGTERM)"
  | 16 => " (SIGSTKFLT)"
  | 17 => " (SIGCHLD)"
  | 18 => " (SIGCONT)"
  | 19 => " (SIGSTOP)"
  | 20 => " (SIGTSTP)"
  | 21 => " (SIGTTIN)"
  | 22 => " (SIGTTOU)"
  | 23 => " (SIGURG)"
  | 24 => " (SIGXCPU)"
  | 25 => " (SIGXFSZ)"
  | 26 => " (SIGVTALRM)"
  | 27 => " (SIGPROF)"
  | 28 => " (SIGWINCH)"
  | 29 => " (SIGIO)"
  | 30 => " (SIGPWR)"
  | 31 => " (SIGSYS)"
  | _ => ""

/-- How a process ended, in words. -/
def endingText : Ending → String
  | .exited code => "exit status: " ++ String.ofList (Text.decimal code)
  | .killed signal => "signal: " ++ String.ofList (Text.decimal signal) ++ signalName signal

/-- What went wrong with a command, or nothing. -/
def complaint? (venv : Path) (stage : Setup) (result : CommandResult) : Option String :=
  let name := "'" ++ (stage.words venv).1.display ++ "'"
  match result with
  | .refused reason => some ("failed to spawn " ++ name ++ ": " ++ reason.message)
  | .expired =>
      some (name ++ " timed out after " ++ String.ofList (Text.decimal stage.limit) ++ "s")
  | .finished outcome =>
      if outcome.success then none
      else
        some (name ++ " exited with " ++ endingText outcome.ending ++ ": " ++
          Text.trim (Utf8.decodeLossy outcome.stderr))

/-! ## The order of the steps -/

def noCandidate : Failure :=
  .isolatedEnvironment "No suitable Python executable found. Python 3.3+ is required."

def notInstalled : Failure :=
  .isolatedEnvironment
    "Failed to install djLint in isolated environment. Check your internet connection and try again."

def notCreated (complaint : String) : Failure :=
  .isolatedEnvironment ("Failed to create virtual environment: " ++ complaint)

/-- What stands in the place of the environment could not be removed. -/
def notRemoved (venv : Path) (reason : IoError) : Failure :=
  .isolatedEnvironment
    ("Failed to remove invalid environment " ++ venv.display ++ ": " ++ reason.message)

def probe : List String → SetupStep
  | [] => .failed noCandidate
  | candidate :: others => .run (probing candidate others)

/-- Make the environment anew: whatever stands in its place goes first. -/
def create (venv : Path) (disk : Disk) : SetupStep :=
  if disk.isPresent venv then .remove else probe candidates

/-- The first step: an environment that is there is tried. -/
def begin (venv : Path) (disk : Disk) : SetupStep :=
  if disk.isFile (interpreterIn venv) then .run validating else create venv disk

/-- What stood in the place of the environment has been removed, or has not. -/
def cleared (venv : Path) : Except IoError Unit → SetupStep
  | .ok _ => probe candidates
  | .error reason => .failed (notRemoved venv reason)

/-- A command has come to its result. -/
def resume (venv : Path) (stage : Setup) (result : CommandResult) (disk : Disk) : SetupStep :=
  match stage, stage.complaint? venv result with
  | validating, none => .done
  | validating, some _ => create venv disk
  | probing candidate _, none => .run (creating candidate)
  | probing _ others, some _ => probe others
  | creating _, none => .run installing
  | creating _, some complaint => .failed (notCreated complaint)
  | installing, none => .done
  | installing, some _ => .failed notInstalled

end Setup

/-! ## Setting up comes to an end -/

/-- How many steps may follow, this one included. -/
def SetupStep.rank : SetupStep → Nat
  | run stage => stage.rank
  | remove => 3 + Setup.candidates.length
  | done => 0
  | failed _ => 0

namespace Setup

theorem rank_probe (names : List String) : (probe names).rank < 3 + names.length := by
  cases names with
  | nil => simp [probe, SetupStep.rank]
  | cons candidate others =>
      simp only [probe, SetupStep.rank, rank, List.length_cons]
      omega

theorem rank_create (venv : Path) (disk : Disk) :
    (create venv disk).rank < 4 + candidates.length := by
  unfold create
  split
  · simp [SetupStep.rank]
  · exact Nat.lt_trans (rank_probe candidates) (by simp)

/-- A removal is followed by a step of lower rank, -/
theorem rank_cleared (venv : Path) (result : Except IoError Unit) :
    (cleared venv result).rank < SetupStep.remove.rank := by
  cases result with
  | ok removed => exact rank_probe candidates
  | error reason =>
      simp only [cleared, SetupStep.rank]
      omega

/-- and so is a command. -/
theorem rank_resume (venv : Path) (stage : Setup) (result : CommandResult) (disk : Disk) :
    (resume venv stage result disk).rank < (SetupStep.run stage).rank := by
  unfold resume
  split
  case h_2 => exact rank_create venv disk
  case h_4 => exact rank_probe _
  all_goals
    simp only [SetupStep.rank, rank]
    omega

end Setup

end TemplateLint
