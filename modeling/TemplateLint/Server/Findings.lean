import TemplateLint.Server.Work

/-!
# Findings

A finding ends the work on a job, and then it is told.  The finding of a lint is published, and when
all is told the next lint in line is taken up; the finding of a formatting answers its request.
Errors are told to the user, but not the same one twice in a row.  Whenever a diagnostic is published
or an error is logged, the job waits until the editor has taken that, and meanwhile the server goes on
with other things.
Main exports: `Turn.report`, `Turn.popUp`, `Turn.finishLint`, `Turn.finishFormat`, `Turn.lintAll`,
`Turn.tellOn`, `Turn.deliver`, `Turn.wake`, `Turn.choose`.
-/

namespace TemplateLint

/-! ## Popups -/

/-- What a user may choose in a popup about an error. -/
inductive PopupAction where
  | hideForFolder
  | hideEverywhere
  | details
deriving DecidableEq, Repr

namespace PopupAction

def title : PopupAction → String
  | hideForFolder => "Do not show again (workspace)"
  | hideEverywhere => "Do not show again (global)"
  | details => "Details"

/-- All actions. -/
def all : List PopupAction := [hideForFolder, hideEverywhere, details]

def ofTitle? (title : String) : Option PopupAction :=
  all.find? fun action => action.title == title

end PopupAction

namespace Failure

def isNotInstalled : Failure → Bool
  | notInstalled .. => true
  | _ => false

/-- What a user may choose when told about a failure. -/
def actions (failure : Failure) (folder : Option Path) : List PopupAction :=
  if failure.isNotInstalled then
    (if folder.isSome then [.hideForFolder] else []) ++ [.hideEverywhere, .details]
  else [.details]

/-- The settings keep a failure from being shown. -/
def isHidden (failure : Failure) (settings : Settings) : Bool :=
  failure.isNotInstalled && !settings.isOn "showInstallError"

end Failure

namespace Turn

/-- Log the failure of a job; it is shown when the editor has taken that. -/
def report (turn : Turn) (number : Nat) (job : Job) (failure : Failure) : Turn :=
  ((turn.note (.logged number job failure)).tell (.log .error failure.details)).pause number job
    (.display failure)

/-- Show the failure of a job in a popup, unless the user does not want it or the last popup said
the same. -/
def popUp (turn : Turn) (number : Nat) (job : Job) (failure : Failure) : Turn :=
  let turn := turn.note (.considered number job failure)
  if failure.isHidden job.settings then turn
  else if turn.server.lastError = some failure.message then turn
  else
    let turn := turn.update fun server => { server with lastError := some failure.message }
    turn.ask (.popup failure.details job.folder)
      (.choice failure.message ((failure.actions job.folder).map PopupAction.title))

def suppress (turn : Turn) (scope : Scope) : Turn :=
  match turn.server.store.suppress scope turn.disk with
  | (store, .ok disk) => { turn.update fun server => { server with store } with disk }
  | (store, .error _) => turn.update fun server => { server with store }

/-- Do what a user chose in a popup. -/
def choose (turn : Turn) (details : String) (folder : Option Path) (action : PopupAction) : Turn :=
  match action, folder with
  | .details, _ => turn.tell (.display .information details)
  | .hideForFolder, some path => turn.suppress (.folder path)
  | .hideForFolder, none => turn
  | .hideEverywhere, _ => turn.suppress .everywhere

/-! ## Lints -/

/-- Another job, or none, takes the place of the lint of a document. -/
def supersede (turn : Turn) (uri : Uri) : Turn :=
  match turn.server.inFlight.get? uri with
  | none => turn
  | some number =>
      turn.update fun server =>
        { server with
          inFlight := server.inFlight.erase uri
          jobs := server.jobs.modify number fun job => { job with superseded := true } }

/-- The result of a lint is in: if it is the one that counts, none does any more. -/
def clearInFlight (turn : Turn) (number : Nat) (uri : Uri) : Turn :=
  if turn.server.inFlight.get? uri = some number then
    turn.update fun server => { server with inFlight := server.inFlight.erase uri }
  else turn

/-- What was found in a document takes the place of what was found before. -/
def record (turn : Turn) (document : Document) (diagnostics : List Diagnostic) : Turn :=
  (turn.update fun server =>
    { server with
      lastError := none
      diagnostics := server.diagnostics.put document.uri diagnostics }).publish
    document.uri diagnostics document.version

/-- What was found in a document before no longer counts. -/
def forget (turn : Turn) (document : Document) : Turn :=
  (turn.update fun server =>
    { server with diagnostics := server.diagnostics.erase document.uri }).publish
    document.uri [] document.version

/-- Tell the finding of a lint.  A failure that will come again makes old results meaningless; any
other one leaves them in place. -/
def tellLint (turn : Turn) (number : Nat) (finding : Finding) : Turn :=
  match finding.output with
  | .ok stdout =>
      (turn.record finding.job.document (finding.job.diagnostics stdout)).pause number finding.job
        .nothing
  | .error failure =>
      if failure.isConfiguration then
        (turn.forget finding.job.document).pause number finding.job (.log failure)
      else turn.report number finding.job failure

def finishLint (turn : Turn) (number : Nat) (finding : Finding) : Turn :=
  let turn := (turn.discharge number).clearInFlight number finding.job.document.uri
  (turn.note (.told number finding)).tellLint number finding

/-- Take up the lint of a document, in the place of the one before. -/
def beginLint (turn : Turn) (origin : Nat) (document : Document) (others : List Uri) :
    (Nat × Job) × Turn :=
  let turn := turn.supersede document.uri
  let job : Job :=
    { origin
      errand := .lint others
      document
      folder := document.folderIn? turn.server.folders
      settings := .empty
      wait := .editor
      superseded := false }
  let (number, turn) := turn.takeUp job
  ((number, job), (turn.update fun server =>
    { server with inFlight := server.inFlight.put document.uri number }).note
      (.begun number document))

/-- Lint documents one after the other, as far as they are open, until a lint has to wait. -/
def lintAll (turn : Turn) (origin : Nat) : List Uri → Turn
  | [] => turn
  | uri :: others =>
      match turn.server.documents.get? uri with
      | none => turn.lintAll origin others
      | some document =>
          let ((number, job), turn) := turn.beginLint origin document others
          match turn.proceed number job with
          | (turn, none) => turn
          | (turn, some finding) => turn.finishLint number finding

/-! ## Formatting -/

/-- Tell the finding of a formatting: the changes, or an error, and nothing after that. -/
def tellFormat (turn : Turn) (number : Nat) (request : RpcId) (finding : Finding) : Turn :=
  match finding.output with
  | .ok stdout =>
      turn.reply request (.ok (.array ((finding.job.edits stdout).map TextEdit.toJson)))
  | .error failure => turn.report number finding.job failure

def finishFormat (turn : Turn) (number : Nat) (request : RpcId) (finding : Finding) : Turn :=
  ((turn.discharge number).note (.told number finding)).tellFormat number request finding

/-- Take up the formatting of a document. -/
def beginFormat (turn : Turn) (origin : Nat) (request : RpcId) (tabSize : Nat)
    (document : Document) : (Nat × Job) × Turn :=
  let job : Job :=
    { origin
      errand := .format request tabSize
      document
      folder := document.folderIn? turn.server.folders
      settings := .empty
      wait := .editor
      superseded := false }
  let (number, turn) := turn.takeUp job
  ((number, job), turn)

/-! ## Jobs in general -/

def finish (turn : Turn) (number : Nat) (finding : Finding) : Turn :=
  match finding.job.errand with
  | .lint _ => turn.finishLint number finding
  | .format request _ => turn.finishFormat number request finding

/-- Go on after a piece of work, unless it has led to a wait. -/
def finishIfDone (number : Nat) : Turn × Option Finding → Turn
  | (turn, none) => turn
  | (turn, some finding) => turn.finish number finding

/-- Format a document for a request. -/
def format (turn : Turn) (origin : Nat) (request : RpcId) (tabSize : Nat) (document : Document) :
    Turn :=
  let ((number, job), turn) := turn.beginFormat origin request tabSize document
  finishIfDone number (turn.proceed number job)

/-- Drop a superseded lint, and lint the others in line. -/
def dropLint (turn : Turn) (number : Nat) (job : Job) : Turn :=
  let turn := (turn.abandon number).clearInFlight number job.document.uri
  match job.errand with
  | .lint others => turn.lintAll job.origin others
  | .format .. => turn

/-- Bring news to a job.  A superseded one is dropped, but when it is `eager` it first goes on as
if it had not been: whether it does is a matter of scheduling. -/
def deliver (turn : Turn) (number : Nat) (news : News) (eager : Bool) : Turn :=
  match turn.server.jobs.get? number with
  | none => turn
  | some job =>
      if !turn.heeds number job news then turn
      else if job.superseded then
        let turn := if eager then (turn.resume number job news).1 else turn
        turn.dropLint number job
      else finishIfDone number (turn.resume number job news)

/-- All is told about a job: the next lint in line is taken up, or the request of a formatting that
failed is answered. -/
def conclude (turn : Turn) (number : Nat) (job : Job) : Turn :=
  match job.errand with
  | .lint others => (turn.silence number).lintAll job.origin others
  | .format request _ => (turn.silence number).reply request (.ok .null)

/-- Go on telling, when the editor has taken what it was told. -/
def tellOn (turn : Turn) (number : Nat) (telling : Telling) : Turn :=
  match telling.rest with
  | .nothing => turn.conclude number telling.job
  | .log failure => turn.report number telling.job failure
  | .display failure => (turn.popUp number telling.job failure).conclude number telling.job

/-- A job that runs looks around, or one that tells goes on. -/
def wake (turn : Turn) (number : Nat) (eager : Bool) : Turn :=
  match turn.server.jobs.get? number, turn.server.tellings.get? number with
  | none, some telling => turn.tellOn number telling
  | _, _ => turn.deliver number .wake eager

/-- Drop a job whose request is cancelled. -/
def cancelJob (turn : Turn) (number : Nat) (request : RpcId) : Turn :=
  (turn.abandon number).reply request (.error .cancelled)

/-- Tell nothing more of a job whose request is cancelled. -/
def cancelTelling (turn : Turn) (number : Nat) (request : RpcId) : Turn :=
  (turn.silence number).reply request (.error .cancelled)

/-- Cancel the requests of some jobs that are meant. -/
def cancelEach (cancel : Turn → Nat → RpcId → Turn) (meant : RpcId → Bool) (turn : Turn)
    (pairs : List (Nat × Job)) : Turn :=
  pairs.foldl
    (fun turn pair =>
      match pair.2.errand.request? with
      | some request => if meant request then cancel turn pair.1 request else turn
      | none => turn)
    turn

/-- Cancel the requests that are meant. -/
def cancelRequests (turn : Turn) (meant : RpcId → Bool) : Turn :=
  let turn := turn.cancelEach cancelJob meant turn.server.jobs.pairs
  turn.cancelEach cancelTelling meant turn.server.tellers

end Turn

end TemplateLint
