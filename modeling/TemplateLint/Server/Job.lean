import TemplateLint.Invocation
import TemplateLint.Isolated.Setup
import TemplateLint.Rpc.Message

/-!
# Jobs

A job is one run of the tool for an editor, from the moment it is taken up until its result is
in.  It works on the document as it was then.  In between it waits: for the editor, for its turn
to set up the environment, for a command of the setup, for the removal of an old environment, or for
the tool.  After that its result is told, and whenever the editor is told something the job waits
once more.
Main exports: `Errand`, `Wait`, `Job`, `Job.invocation`, `Job.command`, `Finding`, `Telling`.
-/

namespace TemplateLint

/-- What a job is for. -/
inductive Errand where
  /-- Lint the document, and afterwards the others in turn. -/
  | lint (others : List Uri)
  /-- Answer a request for the formatted text. -/
  | format (request : RpcId) (tabSize : Nat)
deriving DecidableEq, Repr

namespace Errand

def mode : Errand → Mode
  | lint _ => .lint
  | format .. => .format

/-- The width of a tabulator, when an editor asks. -/
def tabSize? : Errand → Option Nat
  | lint _ => none
  | format _ tabSize => some tabSize

/-- The request that is to be answered. -/
def request? : Errand → Option RpcId
  | lint _ => none
  | format request _ => some request

end Errand

/-- What a job waits for. -/
inductive Wait where
  /-- For the editor to say what its settings are. -/
  | editor
  /-- For its turn to set up the environment. -/
  | turn
  /-- For the command of a stage of the setup. -/
  | setup (stage : Setup)
  /-- For the removal of what stands in the place of the environment. -/
  | removal
  /-- For the tool, run by this interpreter. -/
  | tool (python : Path)
deriving DecidableEq, Repr

/-- The job has started a program that has not ended. -/
def Wait.isRunning : Wait → Bool
  | .setup _ => true
  | .tool _ => true
  | _ => false

/-- A run of the tool for an editor. -/
structure Job where
  /-- The number of the message that asked for it. -/
  origin : Nat
  errand : Errand
  /-- The document as it was when the job was taken up. -/
  document : Document
  folder : Option Path
  /-- The settings, as far as they are known. -/
  settings : Settings
  wait : Wait
  /-- Another job has taken the place of this one, or it is no longer wanted. -/
  superseded : Bool
deriving Repr

namespace Job

def invocation (job : Job) : Invocation :=
  ⟨job.document, job.settings, job.folder, job.errand.tabSize?⟩

/-- The command that runs the tool. -/
def command (job : Job) (python : Path) : Command :=
  job.invocation.command job.errand.mode python

/-- The settings want the document linted or formatted at all. -/
def isWanted (job : Job) : Bool :=
  match job.errand with
  | .lint _ => job.invocation.shouldLint
  | .format .. => job.invocation.shouldFormat

/-- The diagnostics in what a run printed. -/
def diagnostics (job : Job) : Option String → List Diagnostic
  | none => []
  | some stdout => job.invocation.diagnostics (job.invocation.problems stdout)

/-- The changes that make the document what a run printed. -/
def edits (job : Job) : Option String → List TextEdit
  | none => []
  | some stdout => job.document.editsTo stdout

end Job

/-- What a job came to: the output of the tool, or nothing when the tool is not wanted.  The job
is as it was at the end, with all its settings. -/
structure Finding where
  job : Job
  output : Except Failure (Option String)
deriving Repr

/-- What is still to be told of a finding when the editor has taken what it was told so far. -/
inductive Rest where
  | nothing
  /-- The failure is to be logged. -/
  | log (failure : Failure)
  /-- The failure, which is in the log by now, is to be shown. -/
  | display (failure : Failure)
deriving DecidableEq, Repr

/-- A job that has come to a finding, and waits for the editor to take what it was told of it. -/
structure Telling where
  job : Job
  rest : Rest
deriving Repr

end TemplateLint
