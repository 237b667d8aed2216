import TemplateLint.Host
import TemplateLint.Server.Job
import TemplateLint.Suppression.Store
import TemplateLint.Table

/-!
# The state of a server

A server keeps the open documents, what it last published about them, its settings, and the jobs
that are under way: those that run, and those that tell what they have come to.  At most one lint
of a document that runs counts: `inFlight` names it.
Main exports: `Phase`, `Asker`, `Server`, `Server.start`.
-/

namespace TemplateLint

/-- How far the life of a server has come. -/
inductive Phase where
  /-- It has not been initialised. -/
  | fresh
  | ready
  /-- It has been told to shut down. -/
  | closing
  | exited
deriving DecidableEq, Repr

namespace Phase

/-- The editor may be told about documents and asked for settings. -/
def isOpen : Phase → Bool
  | ready => true
  | closing => true
  | _ => false

/-- Why nothing is done in this phase, if nothing is. -/
def refusal? : Phase → Option RpcError
  | fresh => some .notInitialized
  | ready => none
  | closing => some .invalidRequest
  | exited => some .invalidRequest

end Phase

/-- Who waits for an answer of the editor. -/
inductive Asker where
  | job (number : Nat)
  /-- A popup about an error: its details, and the folder of the document. -/
  | popup (details : String) (folder : Option Path)
deriving DecidableEq, Repr

/-- A server. -/
structure Server where
  environ : Variables
  locator : Locator
  /-- The settings file that was named when the server was started. -/
  configFile : Option Path
  phase : Phase
  /-- The standard settings with those of the settings file over them. -/
  base : Settings
  /-- The settings that the editor pushed. -/
  client : Settings
  /-- The editor can be asked for settings. -/
  asksSettings : Bool
  folders : List Path
  documents : Table Uri Document
  /-- What was last found in each document. -/
  diagnostics : Table Uri (List Diagnostic)
  /-- The lint of each document that counts. -/
  inFlight : Table Uri Nat
  /-- The wording of the last popup, so that it is not shown again and again. -/
  lastError : Option String
  /-- The jobs that run. -/
  jobs : Table Nat Job
  /-- The jobs that tell what they have come to. -/
  tellings : Table Nat Telling
  nextJob : Nat
  /-- Who waits for which answer. -/
  askers : Table Nat Asker
  nextQuestion : Nat
  /-- How many messages came. -/
  messages : Nat
  isolated : Isolated
  /-- The jobs that want to set up the environment: the first one does, the others wait. -/
  queue : List Nat
  store : Store

namespace Server

/-- A server that has just been started. -/
def start (environ : Variables) (configFile : Option Path) (venv : Path) (store : Store) :
    Server :=
  { environ
    locator := .active
    configFile
    phase := .fresh
    base := Settings.standard
    client := Settings.empty
    asksSettings := false
    folders := []
    documents := .empty
    diagnostics := .empty
    inFlight := .empty
    lastError := none
    jobs := .empty
    tellings := .empty
    nextJob := 0
    askers := .empty
    nextQuestion := 0
    messages := 0
    isolated := ⟨venv, false⟩
    queue := []
    store }

/-- The jobs that tell what they have come to, with their numbers. -/
def tellers (server : Server) : List (Nat × Job) :=
  server.tellings.pairs.map fun pair => (pair.1, pair.2.job)

/-- The request has not been answered yet. -/
def isPending (server : Server) (request : RpcId) : Bool :=
  (server.jobs.pairs ++ server.tellers).any fun pair => pair.2.errand.request? == some request

/-- The settings of all documents, before those of one. -/
def settings (server : Server) : Settings :=
  server.base.merged server.client

/-- What is known about the active environment of a job. -/
def lookup (server : Server) (disk : Disk) (job : Job) : Lookup :=
  server.locator.locate disk server.environ job.document job.folder

end Server

end TemplateLint
