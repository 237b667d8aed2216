import Mathlib.Logic.Relation
import TemplateLint.Proofs.Frames

/-!
# The acts that turns are made of

However a turn runs through the functions of the server, what it does is a chain of acts, each of
which changes the server in one way.  A property that every act keeps is kept by every turn, so
that no proof about runs has to follow the functions again.  Work on a job is followed here, since
it is the same whatever comes before and after it.
Main exports: `Job.Same`, `Turn.Carries`, `Act`, `Acts`, `Turn.Works`, `Turn.Settles`.
-/

namespace TemplateLint

/-- Two stages of one job: its settings and what it waits for may differ. -/
structure Job.Same (job other : Job) : Prop where
  origin : job.origin = other.origin
  errand : job.errand = other.errand
  document : job.document = other.document
  folder : job.folder = other.folder
  superseded : job.superseded = other.superseded

namespace Job.Same

theorem refl (job : Job) : job.Same job := ⟨rfl, rfl, rfl, rfl, rfl⟩

theorem symm {job other : Job} (same : job.Same other) : other.Same job :=
  ⟨same.origin.symm, same.errand.symm, same.document.symm, same.folder.symm,
    same.superseded.symm⟩

theorem trans {first second third : Job} (one : first.Same second) (two : second.Same third) :
    first.Same third :=
  ⟨one.origin.trans two.origin, one.errand.trans two.errand, one.document.trans two.document,
    one.folder.trans two.folder, one.superseded.trans two.superseded⟩

end Job.Same

/-- The job is under way under its number, perhaps at an earlier stage. -/
def Turn.Carries (turn : Turn) (number : Nat) (job : Job) : Prop :=
  ∃ entry, turn.server.jobs.get? number = some entry ∧ entry.Same job

/-- What answers a request is a formatting. -/
theorem Errand.mode_of_request? {errand : Errand} {request : RpcId}
    (answers : errand.request? = some request) : errand.mode = .format := by
  cases errand with
  | lint others => cases answers
  | format id tabSize => rfl

/-- All is told about a job: nothing was left, or it has just been considered whether to show its
failure. -/
def Turn.IsTold (turn : Turn) (number : Nat) (telling : Telling) : Prop :=
  telling.rest = .nothing ∨ ∃ failure, ∃ earlier : Turn, telling.rest = .display failure ∧
    turn = earlier.popUp number telling.job failure

/-- A single act of a server, with what is known when it comes. -/
inductive Act : Turn → Turn → Prop where
  /-- A message is counted. -/
  | count (turn : Turn) :
      Act turn (turn.update fun server => { server with messages := server.messages + 1 })
  /-- A reply that brings no changes of a text: those are a list. -/
  | reply (turn : Turn) (id : RpcId) (result : Except RpcError Json)
      (plain : ∀ items, result ≠ .ok (.array items)) : Act turn (turn.reply id result)
  | greet (turn : Turn) (message : String) : Act turn (turn.tell (.log .information message))
  -- The life of the server
  | serve (turn : Turn) (id : RpcId) (params : Params.Beginning)
      (fresh : turn.server.phase = .fresh) : Act turn (turn.beginServing id params)
  | closing (turn : Turn) (ready : turn.server.phase = .ready) :
      Act turn (turn.update fun server => { server with phase := .closing })
  | shutDown (turn : Turn) (id : RpcId) (closing : turn.server.phase = .closing) :
      Act turn (turn.shutDown id)
  | exit (turn : Turn) : Act turn (turn.update fun server => { server with phase := .exited })
  -- What the editor tells
  | configure (turn : Turn) (client : Settings) (ready : turn.server.phase = .ready) :
      Act turn (turn.update fun server => { server with client, lastError := none })
  | folders (turn : Turn) (change : Params.Folders) : Act turn (turn.heedFolders change)
  | close (turn : Turn) (uri : Uri) (ready : turn.server.phase = .ready) :
      Act turn (turn.heedClosed uri)
  | answered (turn : Turn) (question : Nat) :
      Act turn (turn.update fun server => { server with askers := server.askers.erase question })
  | choose (turn : Turn) (details : String) (folder : Option Path) (action : PopupAction) :
      Act turn (turn.choose details folder action)
  -- Jobs are taken up
  | beginLint (turn : Turn) (origin : Nat) (uri : Uri) (document : Document) (others : List Uri)
      (held : turn.server.documents.get? uri = some document) :
      Act turn (turn.beginLint origin document others).2
  /-- A changed document is linted at once. -/
  | renewLint (turn : Turn) (origin : Nat) (document : Document)
      (ready : turn.server.phase = .ready) :
      Act turn ((turn.keep document).beginLint origin document []).2
  | beginFormat (turn : Turn) (origin : Nat) (request : RpcId) (tabSize : Nat) (uri : Uri)
      (document : Document) (held : turn.server.documents.get? uri = some document) :
      Act turn (turn.beginFormat origin request tabSize document).2
  -- Jobs are worked on
  | hold (turn : Turn) (number : Nat) (job : Job) (wait : Wait)
      (carries : turn.Carries number job) : Act turn (turn.hold number job wait)
  | askSettings (turn : Turn) (number : Nat) (job : Job) (carries : turn.Carries number job) :
      Act turn (turn.ask (.job number) (.settings job.document.uri))
  | enqueue (turn : Turn) (number : Nat) :
      Act turn (turn.update fun server => { server with queue := server.queue ++ [number] })
  | release (turn : Turn) (number : Nat) : Act turn (turn.release number)
  | remember (turn : Turn) :
      Act turn (turn.update fun server =>
        { server with isolated := { server.isolated with initialized := true } })
  | removeOld (turn : Turn) (number : Nat) (job : Job) (carries : turn.Carries number job) :
      Act turn (turn.removeFor number job)
  | startSetup (turn : Turn) (number : Nat) (job : Job) (stage : Setup) (launch : Launch)
      (carries : turn.Carries number job)
      (launched : (stage.command turn.server.isolated.venv).launch turn.disk
        turn.server.environ = .ok launch) :
      Act turn (turn.startFor number job (.setup stage) launch)
  | startTool (turn : Turn) (number : Nat) (job : Job) (python : Path) (launch : Launch)
      (carries : turn.Carries number job)
      (launched : (job.command python).launch turn.disk turn.server.environ = .ok launch) :
      Act turn (turn.startFor number job (.tool python) launch)
  -- Jobs come to findings, or go without one
  | finishLint (turn : Turn) (number : Nat) (finding : Finding)
      (carries : turn.Carries number finding.job) (lints : finding.job.errand.mode = .lint)
      (counts : finding.job.superseded = false) : Act turn (turn.finishLint number finding)
  | finishFormat (turn : Turn) (number : Nat) (request : RpcId) (finding : Finding)
      (carries : turn.Carries number finding.job)
      (formats : finding.job.errand.request? = some request) :
      Act turn (turn.finishFormat number request finding)
  | drop (turn : Turn) (number : Nat) (job : Job) (carries : turn.Carries number job)
      (superseded : job.superseded = true) :
      Act turn ((turn.abandon number).clearInFlight number job.document.uri)
  | cancel (turn : Turn) (number : Nat) (request : RpcId) (job : Job)
      (carries : turn.Carries number job) (formats : job.errand.mode = .format) :
      Act turn (turn.cancelJob number request)
  -- Findings are told
  | report (turn : Turn) (number : Nat) (job : Job) (failure : Failure)
      (held : turn.server.tellings.get? number = some ⟨job, .log failure⟩) :
      Act turn (turn.report number job failure)
  | popUp (turn : Turn) (number : Nat) (job : Job) (failure : Failure)
      (held : turn.server.tellings.get? number = some ⟨job, .display failure⟩) :
      Act turn (turn.popUp number job failure)
  | conclude (turn : Turn) (number : Nat) (telling : Telling)
      (held : turn.server.tellings.get? number = some telling)
      (all : turn.IsTold number telling) : Act turn (turn.silence number)
  | cancelTelling (turn : Turn) (number : Nat) (request : RpcId) (telling : Telling)
      (held : turn.server.tellings.get? number = some telling)
      (formats : telling.job.errand.request? = some request) :
      Act turn (turn.cancelTelling number request)

/-- A chain of acts. -/
abbrev Acts : Turn → Turn → Prop := Relation.ReflTransGen Act

namespace Turn

variable {turn middle : Turn} {number : Nat} {job : Job}

/-! ## Carrying a job -/

/-- A job in the table is carried. -/
theorem carries_of_get? (held : turn.server.jobs.get? number = some job) :
    turn.Carries number job :=
  ⟨job, held, Job.Same.refl job⟩

/-- A job is carried as well as one that differs in settings alone. -/
theorem Carries.same {other : Job} (carries : turn.Carries number job) (same : job.Same other) :
    turn.Carries number other := by
  obtain ⟨entry, held, stage⟩ := carries
  exact ⟨entry, held, stage.trans same⟩

theorem carries_hold (turn : Turn) (number : Nat) (job : Job) (wait : Wait) :
    (turn.hold number job wait).Carries number job := by
  refine ⟨{ job with wait }, ?_, ⟨rfl, rfl, rfl, rfl, rfl⟩⟩
  simp [Turn.hold, Turn.update, Table.get?_put]

/-- To ask something changes no job. -/
theorem jobs_ask (turn : Turn) (asker : Asker) (question : Question) :
    (turn.ask asker question).server.jobs = turn.server.jobs := by
  unfold ask
  split
  · rfl
  · rfl

theorem Carries.ask (carries : turn.Carries number job) (asker : Asker) (question : Question) :
    (turn.ask asker question).Carries number job := by
  rwa [Carries, jobs_ask]

/-! ## Working on a job -/

/-- A piece of work is a chain of acts that leaves the job under way; its finding is about the
job. -/
structure Works (turn : Turn) (number : Nat) (job : Job) (result : Turn × Option Finding) :
    Prop where
  acts : Acts turn result.1
  toil : Toil number turn result.1
  carries : result.1.Carries number job
  finding : ∀ finding, result.2 = some finding → job.Same finding.job

/-- Work on a job whose settings are fixed: they stay, in the table as in the finding. -/
structure Settles (turn : Turn) (number : Nat) (job : Job) (result : Turn × Option Finding) : Prop
    extends Works turn number job result where
  found : ∀ finding, result.2 = some finding → finding.job.settings = job.settings
  waits : result.2 = none → ∃ entry, result.1.server.jobs.get? number = some entry ∧
    entry.settings = job.settings ∧ entry.wait ≠ .editor

/-- Work on a job is work on one that differs in settings alone. -/
theorem Works.same {other : Job} {result : Turn × Option Finding} (same : job.Same other)
    (works : Works turn number other result) : Works turn number job result :=
  ⟨works.acts, works.toil, works.carries.same same.symm,
    fun finding found => same.trans (works.finding finding found)⟩

namespace Settles

/-- Work that ends where it begins. -/
theorem ends (carries : turn.Carries number job) (output : Except Failure (Option String)) :
    Settles turn number job (turn, some ⟨job, output⟩) where
  acts := .refl
  toil := .refl number turn
  carries := carries
  finding := by rintro _ ⟨⟩; exact Job.Same.refl job
  found := by rintro _ ⟨⟩; rfl
  waits := by rintro ⟨⟩

/-- Work that ends in a wait. -/
theorem holds {wait : Wait} (acts : Acts turn middle) (toil : Toil number turn middle)
    (held : middle.server.jobs.get? number = some { job with wait })
    (settled : wait ≠ .editor) : Settles turn number job (middle, none) where
  acts := acts
  toil := toil
  carries := ⟨_, held, ⟨rfl, rfl, rfl, rfl, rfl⟩⟩
  finding := by rintro _ ⟨⟩
  found := by rintro _ ⟨⟩
  waits := fun _ => ⟨_, held, rfl, settled⟩

/-- Work that settles a job may be preceded by other work on it. -/
theorem after {result : Turn × Option Finding} (acts : Acts turn middle)
    (toil : Toil number turn middle) (settles : Settles middle number job result) :
    Settles turn number job result :=
  ⟨⟨acts.trans settles.acts, toil.trans settles.toil, settles.carries, settles.finding⟩,
    settles.found, settles.waits⟩

end Settles

theorem get?_hold (turn : Turn) (number : Nat) (job : Job) (wait : Wait) :
    (turn.hold number job wait).server.jobs.get? number = some { job with wait } := by
  simp [hold, update, Table.get?_put]

theorem runTool_settles (carries : turn.Carries number job) (python : Path) :
    Settles turn number job (turn.runTool number job python) := by
  unfold runTool
  simp only
  split
  · next launch launched =>
      exact .holds (.single (.startTool turn number job python launch carries launched))
        (.startFor turn number job _ launch) (get?_hold turn number job _) (by simp)
  · exact .ends carries _

theorem setupDone_settles (carries : turn.Carries number job) :
    Settles turn number job (turn.setupDone number job) := by
  have acts : Acts turn ((turn.update fun server =>
      { server with isolated := { server.isolated with initialized := true } }).release number) :=
    (Relation.ReflTransGen.single (.remember turn)).tail (.release _ number)
  refine .after acts ⟨{}, rfl, rfl, fun _ _ => rfl, .none rfl⟩ (runTool_settles ?_ _)
  exact carries

theorem setupFailed_settles (carries : turn.Carries number job) (failure : Failure) :
    Settles turn number job (turn.setupFailed number job failure) := by
  refine .after (.single (.release turn number))
    ⟨{}, rfl, rfl, fun _ _ => rfl, .none rfl⟩ (.ends ?_ _)
  exact carries

/-- Setting up is followed step by step, until a command is started or a removal begun. -/
theorem setUp_settles (carries : turn.Carries number job) (step : SetupStep) :
    Settles turn number job (turn.setUp number job step) := by
  fun_induction turn.setUp number job step with
  | case1 venv stage launch launched =>
      exact .holds (.single (.startSetup turn number job stage launch carries launched))
        (.startFor turn number job _ launch) (get?_hold turn number job _) (by simp)
  | case2 venv stage reason refused inductionHypothesis => exact inductionHypothesis
  | case3 =>
      exact .holds (.single (.removeOld turn number job carries)) (.removeFor turn number job)
        (get?_hold turn number job _) (by simp)
  | case4 => exact setupDone_settles carries
  | case5 failure => exact setupFailed_settles carries failure

/-- With its turn a job goes on to the tool or to the setup. -/
theorem takeTurn_settles (carries : turn.Carries number job) :
    Settles turn number job (turn.takeTurn number job) := by
  unfold takeTurn
  split
  · refine .after (.single (.release turn number))
      ⟨{}, rfl, rfl, fun _ _ => rfl, .none rfl⟩ (runTool_settles ?_ _)
    exact carries
  · exact setUp_settles carries _

/-- A job that wants the environment of our own goes on, or waits in the queue. -/
theorem enterIsolated_settles (carries : turn.Carries number job) :
    Settles turn number job (turn.enterIsolated number job) := by
  unfold enterIsolated
  simp only
  split
  · exact runTool_settles carries _
  · have enqueued : Acts turn (turn.update fun server =>
        { server with queue := server.queue ++ [number] }) := .single (.enqueue turn number)
    refine .after enqueued ⟨{}, rfl, rfl, fun _ _ => rfl, .none rfl⟩ ?_
    split
    · exact .holds (.single (.hold _ number job .turn carries)) (.hold _ number job .turn)
        (get?_hold _ number job .turn) (by simp)
    · exact takeTurn_settles carries

/-- A job whose settings are fixed comes to its tool, or to why it cannot. -/
theorem invoke_settles (carries : turn.Carries number job) :
    Settles turn number job (turn.invoke number job) := by
  unfold invoke
  split
  · split
    · exact runTool_settles carries _
    · exact enterIsolated_settles carries
    · exact .ends carries _
  · exact .ends carries _

end Turn

/-- Settings with those of the editor over them, if it gave any. -/
def Settings.answered (settings : Settings) (answer : Option Settings) : Settings :=
  match answer with
  | some layer => settings.merged layer
  | none => settings

namespace Turn

variable {turn middle : Turn} {number : Nat} {job : Job}

/-- The settings of a job that are fixed with an answer. -/
abbrev settled (turn : Turn) (job : Job) (answer : Option Settings) : Job :=
  { job with settings := turn.server.store.apply job.folder (job.settings.answered answer) }

theorem settle_settles (carries : turn.Carries number job) (answer : Option Settings) :
    Settles turn number (turn.settled job answer) (turn.settle number job answer) :=
  invoke_settles (carries.same ⟨rfl, rfl, rfl, rfl, rfl⟩)

theorem settle_works (carries : turn.Carries number job) (answer : Option Settings) :
    Works turn number job (turn.settle number job answer) := by
  have stage : job.Same (turn.settled job answer) := ⟨rfl, rfl, rfl, rfl, rfl⟩
  exact .same stage (settle_settles carries answer).toWorks

/-- A job begins with its settings and goes on as far as it can. -/
theorem proceed_works (carries : turn.Carries number job) :
    Works turn number job (turn.proceed number job) := by
  have stage : job.Same { job with settings := turn.server.settings } :=
    ⟨rfl, rfl, rfl, rfl, rfl⟩
  have carries := carries.same stage
  refine .same stage ?_
  unfold proceed
  simp only
  split
  · refine ⟨?_, ?_, (carries_hold turn number _ .editor).ask _ _, by rintro _ ⟨⟩⟩
    · exact (Relation.ReflTransGen.single (.hold turn number _ .editor carries)).tail
        (.askSettings _ number job ((carries_hold turn number _ .editor).same stage.symm))
    · exact (Toil.hold turn number _ .editor).trans (.askSettings _ number _ _)
  · exact settle_works carries none

theorem resume_works (carries : turn.Carries number job) (news : News) :
    Works turn number job (turn.resume number job news) := by
  have still : Works turn number job (turn, none) :=
    ⟨.refl, .refl number turn, carries, by rintro _ ⟨⟩⟩
  unfold resume
  split
  · exact settle_works carries _
  · split
    · exact (takeTurn_settles carries).toWorks
    · exact still
  · exact (setUp_settles carries _).toWorks
  · exact (setUp_settles carries _).toWorks
  · exact (Settles.ends carries _).toWorks
  · exact (Settles.ends carries _).toWorks
  · exact still

end Turn

/-- Every document is kept under its own URI. -/
def Server.Keyed (server : Server) : Prop :=
  ∀ uri document, server.documents.get? uri = some document → document.uri = uri

end TemplateLint
