import TemplateLint.Server.Deed
import TemplateLint.Server.State

/-!
# Turns

A turn is what a server does after one event, uninterrupted: it changes the server and the files,
and leaves its deeds behind in their order.
Main exports: `Turn`, `Turn.note`, `Turn.emit`, `Turn.effects`, `Turn.publish`, `Turn.ask`,
`Turn.hold`, `Turn.pause`, `Turn.abandon`.
-/

namespace TemplateLint

/-- A server in the middle of a turn. -/
structure Turn where
  server : Server
  disk : Disk
  /-- What was done in this turn, the earliest first. -/
  deeds : List Deed

namespace Turn

/-- What was done to the surroundings, the earliest first. -/
def effects (turn : Turn) : List Effect :=
  turn.deeds.filterMap Deed.effect?

def update (turn : Turn) (change : Server → Server) : Turn :=
  { turn with server := change turn.server }

def note (turn : Turn) (deed : Deed) : Turn :=
  { turn with deeds := turn.deeds ++ [deed] }

def emit (turn : Turn) (effect : Effect) : Turn :=
  turn.note (.effect effect)

/-- Tell the editor something, as long as it listens. -/
def tell (turn : Turn) (notice : Notice) : Turn :=
  if turn.server.phase = .exited then turn else turn.emit (.tell notice)

def reply (turn : Turn) (id : RpcId) (result : Except RpcError Json) : Turn :=
  turn.emit (.reply ⟨id, result⟩)

/-- Publish the diagnostics of a document, in a phase in which the editor wants to know. -/
def publish (turn : Turn) (uri : Uri) (diagnostics : List Diagnostic) (version : Option Int) :
    Turn :=
  if turn.server.phase.isOpen then turn.tell (.publish uri diagnostics version) else turn

/-- Ask the editor something, as long as it listens. -/
def ask (turn : Turn) (asker : Asker) (question : Question) : Turn :=
  if turn.server.phase = .exited then turn
  else
    let number := turn.server.nextQuestion
    let turn := turn.update fun server =>
      { server with askers := server.askers.put number asker, nextQuestion := number + 1 }
    turn.emit (.ask number question)

/-! ## Jobs -/

/-- Take up a job: it gets a number of its own. -/
def takeUp (turn : Turn) (job : Job) : Nat × Turn :=
  let number := turn.server.nextJob
  (number, turn.update fun server =>
    { server with jobs := server.jobs.put number job, nextJob := number + 1 })

def hold (turn : Turn) (number : Nat) (job : Job) (wait : Wait) : Turn :=
  turn.update fun server => { server with jobs := server.jobs.put number { job with wait } }

/-- Start a program for a job, which waits for it. -/
def startFor (turn : Turn) (number : Nat) (job : Job) (wait : Wait) (launch : Launch) : Turn :=
  (turn.hold number job wait).emit (.start number launch)

/-- Have what stands in the place of the environment removed for a job, which waits for it. -/
def removeFor (turn : Turn) (number : Nat) (job : Job) : Turn :=
  (turn.hold number job .removal).emit (.remove number turn.server.isolated.venv)

def discharge (turn : Turn) (number : Nat) : Turn :=
  turn.update fun server => { server with jobs := server.jobs.erase number }

/-- A job waits for the editor to take what it was told, and has the rest still to tell. -/
def pause (turn : Turn) (number : Nat) (job : Job) (rest : Rest) : Turn :=
  turn.update fun server => { server with tellings := server.tellings.put number ⟨job, rest⟩ }

/-- A job has nothing more to tell. -/
def silence (turn : Turn) (number : Nat) : Turn :=
  turn.update fun server => { server with tellings := server.tellings.erase number }

/-- Let the next job set up the environment, or this one no longer wait for it. -/
def release (turn : Turn) (number : Nat) : Turn :=
  turn.update fun server => { server with queue := server.queue.erase number }

/-- Kill the program of a job, if it has one. -/
def killFor (turn : Turn) (number : Nat) : Turn :=
  match turn.server.jobs.get? number with
  | some job => if job.wait.isRunning then turn.emit (.kill number) else turn
  | none => turn

/-- Drop a job with all that it has and waits for; a removal goes on. -/
def abandon (turn : Turn) (number : Nat) : Turn :=
  ((turn.killFor number).release number).discharge number

end Turn

end TemplateLint
