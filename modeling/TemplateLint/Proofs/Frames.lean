import TemplateLint.Server.Step

/-!
# What a server leaves alone

Each thing that a server does concerns one part of it.  The others it leaves alone, and there are
few kinds of that: it speaks to the editor, it works on one job, it takes up a job, or it ends one.
Main exports: `Turn.Adds`, `Turn.Steady`, `Turn.Speaks`, `Turn.Toil`, `Fate`, `Turn.Apart`,
`Turn.Takes`, `Turn.Ends`.
-/

namespace TemplateLint

namespace Turn

variable {turn middle next : Turn} {number : Nat} {job : Job}

/-! ## Deeds of one kind -/

/-- The turn goes on, and all that is done meanwhile is of one kind. -/
def Adds (kind : Deed → Prop) (turn next : Turn) : Prop :=
  ∃ more, next.deeds = turn.deeds ++ more ∧ ∀ deed ∈ more, kind deed

namespace Adds

variable {kind other : Deed → Prop} {deed : Deed}

theorem none (same : next.deeds = turn.deeds) : Adds kind turn next :=
  ⟨[], by simp [same], by simp⟩

theorem one (same : next.deeds = turn.deeds ++ [deed]) (fits : kind deed) :
    Adds kind turn next :=
  ⟨[deed], same, by simpa using fits⟩

/-- What is done in two stretches is of one kind when it is in both. -/
theorem trans (first : Adds kind turn middle) (second : Adds kind middle next) :
    Adds kind turn next := by
  obtain ⟨early, same, ofEarly⟩ := first
  obtain ⟨late, more, ofLate⟩ := second
  refine ⟨early ++ late, by rw [more, same, List.append_assoc], fun deed member => ?_⟩
  rcases List.mem_append.mp member with here | there
  · exact ofEarly deed here
  · exact ofLate deed there

theorem mono (adds : Adds kind turn next) (wider : ∀ deed, kind deed → other deed) :
    Adds other turn next := by
  obtain ⟨more, same, only⟩ := adds
  exact ⟨more, same, fun deed member => wider deed (only deed member)⟩

/-- What is done in the end was done before or is of the kind. -/
theorem of_mem (adds : Adds kind turn next) (member : deed ∈ next.deeds) :
    deed ∈ turn.deeds ∨ kind deed := by
  obtain ⟨more, same, only⟩ := adds
  rw [same] at member
  rcases List.mem_append.mp member with before | here
  · exact Or.inl before
  · exact Or.inr (only deed here)

/-- What was done before is still on record. -/
theorem mem (adds : Adds kind turn next) (member : deed ∈ turn.deeds) : deed ∈ next.deeds := by
  obtain ⟨more, same, -⟩ := adds
  rw [same]
  exact List.mem_append_left more member

end Adds

/-! ## Questions -/

/-- Nothing is asked for a job. -/
def Unasked (turn next : Turn) : Prop :=
  ∀ question number, next.server.askers.get? question = some (.job number) →
    turn.server.askers.get? question = some (.job number)

namespace Unasked

theorem none (same : next.server.askers = turn.server.askers) : Unasked turn next := by
  intro question number asked
  rwa [← same]

theorem trans (one : Unasked turn middle) (two : Unasked middle next) : Unasked turn next :=
  fun question number asked => one question number (two question number asked)

end Unasked

/-! ## Speaking -/

/-- The life of the server, its settings and folders and the choices of the user stay, and no
message is counted. -/
structure Steady (turn next : Turn) : Prop where
  phase : next.server.phase = turn.server.phase := by rfl
  messages : next.server.messages = turn.server.messages := by rfl
  base : next.server.base = turn.server.base := by rfl
  client : next.server.client = turn.server.client := by rfl
  asksSettings : next.server.asksSettings = turn.server.asksSettings := by rfl
  folders : next.server.folders = turn.server.folders := by rfl
  store : next.server.store = turn.server.store := by rfl

namespace Steady

theorem refl (turn : Turn) : Steady turn turn := {}

theorem trans (one : Steady turn middle) (two : Steady middle next) : Steady turn next where
  phase := two.phase.trans one.phase
  messages := two.messages.trans one.messages
  base := two.base.trans one.base
  client := two.client.trans one.client
  asksSettings := two.asksSettings.trans one.asksSettings
  folders := two.folders.trans one.folders
  store := two.store.trans one.store

/-- The settings in force are those of the server and of the client, and both stay. -/
theorem settings (steady : Steady turn next) : next.server.settings = turn.server.settings := by
  rw [Server.settings, steady.base, steady.client]
  rfl

end Steady

end Turn

/-- An effect that starts no program, has nothing removed and is no popup about an error. -/
def Deed.IsSpeech : Deed → Prop
  | .effect (.start ..) => False
  | .effect (.remove ..) => False
  | .effect (.ask _ (.choice ..)) => False
  | .effect _ => True
  | _ => False

/-- What is said to the editor, popups as well, and that it is about the failure of a job. -/
def Deed.IsTalk : Deed → Prop
  | .logged .. => True
  | .considered .. => True
  | .effect (.ask ..) => True
  | deed => deed.IsSpeech

/-- Plain speech is talk that concerns no failure. -/
theorem Deed.IsSpeech.talk {deed : Deed} (speech : deed.IsSpeech) : deed.IsTalk := by
  cases deed with
  | effect effect =>
      cases effect with
      | ask => trivial
      | _ => exact speech
  | _ => exact speech.elim

namespace Turn

variable {turn middle next : Turn} {number : Nat} {job : Job}

/-- The server speaks, and changes nothing about its jobs. -/
structure Speaks (turn next : Turn) : Prop extends Steady turn next where
  nextJob : next.server.nextJob = turn.server.nextJob
  jobs : next.server.jobs = turn.server.jobs
  tellings : next.server.tellings = turn.server.tellings
  isolated : next.server.isolated = turn.server.isolated
  adds : Adds Deed.IsSpeech turn next
  unasked : Unasked turn next

namespace Speaks

theorem refl (turn : Turn) : Speaks turn turn :=
  ⟨.refl turn, rfl, rfl, rfl, rfl, .none rfl, .none rfl⟩

/-- Speech after speech changes no more than either. -/
theorem trans (one : Speaks turn middle) (two : Speaks middle next) : Speaks turn next :=
  ⟨one.toSteady.trans two.toSteady, two.nextJob.trans one.nextJob, two.jobs.trans one.jobs,
    two.tellings.trans one.tellings, two.isolated.trans one.isolated, one.adds.trans two.adds,
    one.unasked.trans two.unasked⟩

theorem emit (turn : Turn) {effect : Effect} (speech : (Deed.effect effect).IsSpeech) :
    Speaks turn (turn.emit effect) :=
  ⟨{}, rfl, rfl, rfl, rfl, .one rfl speech, .none rfl⟩

theorem tell (turn : Turn) (notice : Notice) : Speaks turn (turn.tell notice) := by
  unfold Turn.tell
  split
  · exact refl turn
  · exact emit turn trivial

/-- Diagnostics are published or, when the client is not open, nothing happens. -/
theorem publish (turn : Turn) (uri : Uri) (diagnostics : List Diagnostic)
    (version : Option Int) : Speaks turn (turn.publish uri diagnostics version) := by
  unfold Turn.publish
  split
  · exact tell turn _
  · exact refl turn

theorem reply (turn : Turn) (id : RpcId) (result : Except RpcError Json) :
    Speaks turn (turn.reply id result) :=
  emit turn trivial

theorem killFor (turn : Turn) (number : Nat) : Speaks turn (turn.killFor number) := by
  unfold Turn.killFor
  split
  · split
    · exact emit turn trivial
    · exact refl turn
  · exact refl turn

/-- That a lint is no longer in flight concerns none of the jobs. -/
theorem clearInFlight (turn : Turn) (number : Nat) (uri : Uri) :
    Speaks turn (turn.clearInFlight number uri) := by
  unfold Turn.clearInFlight
  split
  · exact ⟨{}, rfl, rfl, rfl, rfl, .none rfl, .none rfl⟩
  · exact refl turn

/-- Diagnostics are kept and published; the jobs know nothing of it. -/
theorem record (turn : Turn) (document : Document) (diagnostics : List Diagnostic) :
    Speaks turn (turn.record document diagnostics) := by
  refine .trans ?_ (publish _ _ _ _)
  exact ⟨{}, rfl, rfl, rfl, rfl, .none rfl, .none rfl⟩

/-- Diagnostics are dropped and published as none. -/
theorem forget (turn : Turn) (document : Document) : Speaks turn (turn.forget document) := by
  refine .trans ?_ (publish _ _ _ _)
  exact ⟨{}, rfl, rfl, rfl, rfl, .none rfl, .none rfl⟩

end Speaks

/-! ## Telling a finding -/

/-- The server talks about a finding: nothing changes about the jobs that run. -/
structure Talks (turn next : Turn) : Prop extends Steady turn next where
  nextJob : next.server.nextJob = turn.server.nextJob
  jobs : next.server.jobs = turn.server.jobs
  isolated : next.server.isolated = turn.server.isolated
  adds : Adds Deed.IsTalk turn next
  unasked : Unasked turn next

namespace Talks

/-- Speech about no job in particular changes no less than talk about one. -/
theorem of_speaks (speaks : Speaks turn next) : Talks turn next :=
  ⟨speaks.toSteady, speaks.nextJob, speaks.jobs, speaks.isolated,
    speaks.adds.mono fun _ => Deed.IsSpeech.talk, speaks.unasked⟩

theorem trans (one : Talks turn middle) (two : Talks middle next) : Talks turn next :=
  ⟨one.toSteady.trans two.toSteady, two.nextJob.trans one.nextJob, two.jobs.trans one.jobs,
    two.isolated.trans one.isolated, one.adds.trans two.adds, one.unasked.trans two.unasked⟩

theorem pause (turn : Turn) (number : Nat) (job : Job) (rest : Rest) :
    Talks turn (turn.pause number job rest) :=
  ⟨{}, rfl, rfl, rfl, .none rfl, .none rfl⟩

theorem note (turn : Turn) {deed : Deed} (talk : deed.IsTalk) : Talks turn (turn.note deed) :=
  ⟨{}, rfl, rfl, rfl, .one rfl talk, .none rfl⟩

/-- A failure is logged, and only then is it left for later to be shown. -/
theorem report (turn : Turn) (number : Nat) (job : Job) (failure : Failure) :
    Talks turn (turn.report number job failure) := by
  have noted : Talks turn (turn.note (.logged number job failure)) := note turn trivial
  exact (noted.trans (.of_speaks (.tell _ _))).trans (pause _ _ _ _)

/-- A popup is asked of the user and not of a job: nothing else changes. -/
theorem askPopup (turn : Turn) (details : String) (folder : Option Path) (question : Question) :
    Talks turn (turn.ask (.popup details folder) question) ∧
      (turn.ask (.popup details folder) question).server.tellings = turn.server.tellings := by
  unfold Turn.ask
  split
  · exact ⟨of_speaks (.refl turn), rfl⟩
  · refine ⟨⟨{}, rfl, rfl, rfl, .one rfl trivial, fun other number asked => ?_⟩, rfl⟩
    simp only [Turn.emit, Turn.note, update, Table.get?_put] at asked
    split at asked
    · cases asked
    · exact asked

/-- Whether it is shown or not, a failure is considered, and what is still to be told stays. -/
theorem popUp (turn : Turn) (number : Nat) (job : Job) (failure : Failure) :
    Talks turn (turn.popUp number job failure) ∧
      (turn.popUp number job failure).server.tellings = turn.server.tellings := by
  have noted : Talks turn (turn.note (.considered number job failure)) := note turn trivial
  unfold Turn.popUp
  simp only
  split
  · exact ⟨noted, rfl⟩
  · split
    · exact ⟨noted, rfl⟩
    · have asked := askPopup
        ((turn.note (.considered number job failure)).update fun server =>
          { server with lastError := some failure.message }) failure.details job.folder
        (.choice failure.message ((failure.actions job.folder).map PopupAction.title))
      refine ⟨noted.trans (.trans ?_ asked.1), asked.2⟩
      exact ⟨{}, rfl, rfl, rfl, .none rfl, .none rfl⟩

/-- A finding of a lint is told by its diagnostics or by its failure, whichever it has. -/
theorem tellLint (turn : Turn) (number : Nat) (finding : Finding) :
    Talks turn (turn.tellLint number finding) := by
  unfold Turn.tellLint
  split
  · exact (of_speaks (.record _ _ _)).trans (pause _ _ _ _)
  · split
    · exact (of_speaks (.forget _ _)).trans (pause _ _ _ _)
    · exact report _ _ _ _

theorem tellFormat (turn : Turn) (number : Nat) (request : RpcId) (finding : Finding) :
    Talks turn (turn.tellFormat number request finding) := by
  unfold Turn.tellFormat
  split
  · exact of_speaks (.reply turn request _)
  · exact report _ _ _ _

end Talks

end Turn

/-- What is still to be told fits an output: of a success nothing, of a failure that failure. -/
def Rest.Fits (output : Except Failure (Option String)) : Rest → Prop
  | nothing => ∃ stdout, output = .ok stdout
  | log failure => output = .error failure
  | display failure => output = .error failure

namespace Turn

variable {turn : Turn} {number : Nat}

/-- After the log it remains to be shown, and the job waits for its turn to do so. -/
theorem report_tellings (turn : Turn) (number : Nat) (job : Job) (failure : Failure) :
    (turn.report number job failure).server.tellings =
      turn.server.tellings.put number ⟨job, .display failure⟩ := by
  have told := (Speaks.tell (turn.note (.logged number job failure))
    (.log .error failure.details)).tellings
  simp only [report, pause, update, told]
  rfl

/-- When a lint is told, something is still to be told of it. -/
theorem tellLint_tellings (turn : Turn) (number : Nat) (finding : Finding) :
    ∃ rest, rest.Fits finding.output ∧ (turn.tellLint number finding).server.tellings =
      turn.server.tellings.put number ⟨finding.job, rest⟩ := by
  obtain ⟨job, output⟩ := finding
  cases output with
  | ok stdout =>
      have told := (Speaks.record turn job.document (job.diagnostics stdout)).tellings
      exact ⟨.nothing, ⟨stdout, rfl⟩, by simp only [tellLint, pause, update, told]⟩
  | error failure =>
      unfold tellLint
      simp only
      split
      · have told := (Speaks.forget turn job.document).tellings
        exact ⟨.log failure, rfl, by simp only [pause, update, told]⟩
      · exact ⟨.display failure, rfl, report_tellings turn number job failure⟩

/-- When a formatting is told, it is answered, or its failure is still to be shown. -/
theorem tellFormat_tellings (turn : Turn) (number : Nat) (request : RpcId) (finding : Finding) :
    (∃ stdout, finding.output = .ok stdout ∧
        (turn.tellFormat number request finding).server.tellings = turn.server.tellings) ∨
      ∃ failure, finding.output = .error failure ∧
        (turn.tellFormat number request finding).server.tellings =
          turn.server.tellings.put number ⟨finding.job, .display failure⟩ := by
  obtain ⟨job, output⟩ := finding
  cases output with
  | ok stdout => exact Or.inl ⟨stdout, rfl, rfl⟩
  | error failure => exact Or.inr ⟨failure, rfl, report_tellings turn number job failure⟩

end Turn

/-! ## Working on a job -/

/-- What is done for a job at work: its program is started, what is in its way is removed, or its
settings are asked for. -/
def Deed.IsToil (number : Nat) : Deed → Prop
  | .effect (.start name _) => name = number
  | .effect (.remove name _) => name = number
  | .effect (.ask _ (.settings _)) => True
  | _ => False

namespace Turn

variable {turn middle next : Turn} {number : Nat} {job : Job}

/-- Work on one job leaves all others alone. -/
structure Toil (number : Nat) (turn next : Turn) : Prop extends Steady turn next where
  nextJob : next.server.nextJob = turn.server.nextJob
  tellings : next.server.tellings = turn.server.tellings := by rfl
  others : ∀ other, other ≠ number → next.server.jobs.get? other = turn.server.jobs.get? other
  adds : Adds (Deed.IsToil number) turn next

namespace Toil

theorem refl (number : Nat) (turn : Turn) : Toil number turn turn :=
  ⟨.refl turn, rfl, rfl, fun _ _ => rfl, .none rfl⟩

/-- Work on one job, gone on with, is work on that job. -/
theorem trans (one : Toil number turn middle) (two : Toil number middle next) :
    Toil number turn next :=
  ⟨one.toSteady.trans two.toSteady, two.nextJob.trans one.nextJob,
    two.tellings.trans one.tellings,
    fun other apart => (two.others other apart).trans (one.others other apart),
    one.adds.trans two.adds⟩

theorem hold (turn : Turn) (number : Nat) (job : Job) (wait : Wait) :
    Toil number turn (turn.hold number job wait) := by
  refine ⟨{}, rfl, rfl, fun other apart => ?_, .none rfl⟩
  simp [Turn.hold, Turn.update, Table.get?_put, apart]

/-- A program is started for the job that holds. -/
theorem startFor (turn : Turn) (number : Nat) (job : Job) (wait : Wait) (launch : Launch) :
    Toil number turn (turn.startFor number job wait launch) := by
  refine (hold turn number job wait).trans ⟨{}, rfl, rfl, fun _ _ => rfl, ?_⟩
  exact .one rfl rfl

/-- A directory is removed for the job that holds. -/
theorem removeFor (turn : Turn) (number : Nat) (job : Job) :
    Toil number turn (turn.removeFor number job) := by
  refine (hold turn number job .removal).trans ⟨{}, rfl, rfl, fun _ _ => rfl, ?_⟩
  exact .one rfl rfl

/-- Settings are asked for, unless the client cannot be asked. -/
theorem askSettings (turn : Turn) (number : Nat) (asker : Asker) (uri : Uri) :
    Toil number turn (turn.ask asker (.settings uri)) := by
  unfold Turn.ask
  split
  · exact refl number turn
  · exact ⟨{}, rfl, rfl, fun _ _ => rfl, .one rfl trivial⟩

end Toil

end Turn

/-! ## What becomes of a job while others act -/

/-- What a table holds under a number may stay; a job may be superseded, and a formatting may be
cancelled. -/
inductive Fate : Option Job → Option Job → Prop where
  | stays (entry : Option Job) : Fate entry entry
  | superseded (job : Job) : Fate (some job) (some { job with superseded := true })
  | cancelled (job : Job) (formats : job.errand.mode = .format) : Fate (some job) none

namespace Fate

variable {entry next : Option Job} {job : Job}

/-- What is there in the end was there before, and hardly differs. -/
theorem of_some (fate : Fate entry (some job)) :
    ∃ before, entry = some before ∧
      (job = before ∨ job = { before with superseded := true }) := by
  cases fate with
  | stays => exact ⟨job, rfl, Or.inl rfl⟩
  | superseded before => exact ⟨before, rfl, Or.inr rfl⟩

/-- A job that is superseded may still be cancelled, and nothing comes back. -/
theorem trans {last : Option Job} (one : Fate entry next) (two : Fate next last) :
    Fate entry last := by
  cases one with
  | stays => exact two
  | superseded job =>
      cases two with
      | stays => exact .superseded job
      | superseded => exact .superseded job
      | cancelled _ formats => exact .cancelled job formats
  | cancelled job formats =>
      cases two with
      | stays => exact .cancelled job formats

/-- A lint does not go. -/
theorem lint (fate : Fate (some job) next) (lints : job.errand.mode = .lint) :
    ∃ after, next = some after ∧ (after = job ∨ after = { job with superseded := true }) := by
  cases fate with
  | stays => exact ⟨job, rfl, Or.inl rfl⟩
  | superseded => exact ⟨_, rfl, Or.inr rfl⟩
  | cancelled _ formats =>
      rw [lints] at formats
      cases formats

end Fate

/-- What is still to be told of a job may stay, it may become less, and a formatting may be
cancelled. -/
inductive Telling.Fate : Option Telling → Option Telling → Prop where
  | stays (entry : Option Telling) : Fate entry entry
  | goesOn (job : Job) (rest later : Rest) : Fate (some ⟨job, rest⟩) (some ⟨job, later⟩)
  | cancelled (job : Job) (rest : Rest) (formats : job.errand.mode = .format) :
      Fate (some ⟨job, rest⟩) none

namespace Telling.Fate

variable {entry next : Option Telling} {telling : Telling}

/-- A job that tells in the end told before. -/
theorem of_some (fate : Fate entry (some telling)) :
    ∃ before, entry = some before ∧ before.job = telling.job := by
  cases fate with
  | stays => exact ⟨telling, rfl, rfl⟩
  | goesOn job rest later => exact ⟨_, rfl, rfl⟩

/-- A lint does not go before all is told. -/
theorem lint (fate : Fate (some telling) next) (lints : telling.job.errand.mode = .lint) :
    ∃ after, next = some after ∧ after.job = telling.job := by
  cases fate with
  | stays => exact ⟨telling, rfl, rfl⟩
  | goesOn job rest later => exact ⟨_, rfl, rfl⟩
  | cancelled job rest formats =>
      rw [lints] at formats
      cases formats

end Telling.Fate

namespace Turn

/-- What is told the editor changes nothing about the server. -/
theorem tell_server (turn : Turn) (notice : Notice) :
    (turn.tell notice).server = turn.server := by
  unfold tell
  split
  · rfl
  · rfl

/-- What is published is sent, and the server keeps nothing of it. -/
theorem publish_server (turn : Turn) (uri : Uri) (diagnostics : List Diagnostic)
    (version : Option Int) : (turn.publish uri diagnostics version).server = turn.server := by
  unfold publish
  split
  · exact tell_server turn _
  · rfl

end Turn

namespace Turn

/-- What every cancellation of a request keeps holds after all that are meant. -/
theorem cancelRequests_kept (kept : Turn → Prop) (meant : RpcId → Bool)
    (jobs : ∀ turn number request, kept turn → kept (turn.cancelJob number request))
    (tellings : ∀ turn number request, kept turn → kept (turn.cancelTelling number request))
    {turn : Turn} (start : kept turn) : kept (turn.cancelRequests meant) := by
  have each (cancel : Turn → Nat → RpcId → Turn)
      (cancels : ∀ turn number request, kept turn → kept (cancel turn number request))
      (turn : Turn) (pairs : List (Nat × Job)) (start : kept turn) :
      kept (turn.cancelEach cancel meant pairs) := by
    unfold cancelEach
    induction pairs generalizing turn with
    | nil => exact start
    | cons pair rest inductionHypothesis =>
        refine inductionHypothesis _ ?_
        dsimp only
        split
        · split
          · exact cancels turn _ _ start
          · exact start
        · exact start
  exact each _ tellings _ _ (each _ jobs _ _ start)

end Turn

/-- The phases in which a server no longer serves. -/
def Phase.isOver : Phase → Bool
  | closing => true
  | exited => true
  | _ => false

/-- What is done apart from the jobs: the server talks, or a document is closed. -/
def Deed.IsAside (phase : Phase) (deed : Deed) : Prop :=
  deed.IsTalk ∨ (phase = .ready ∧ ∃ uri, deed = .closed uri)

namespace Turn

variable {turn middle next : Turn} {number : Nat} {job : Job}

/-- To kill a program is an effect and no change of the server. -/
theorem killFor_server (turn : Turn) (number : Nat) :
    (turn.killFor number).server = turn.server := by
  unfold killFor
  split
  · split <;> rfl
  · rfl

/-- A job that is abandoned goes, and no other one. -/
theorem get?_abandon (turn : Turn) (number other : Nat) :
    (turn.abandon number).server.jobs.get? other =
      if other = number then none else turn.server.jobs.get? other := by
  rw [← Table.get?_erase, ← killFor_server turn number]
  rfl

/-- What goes on apart from the jobs that run: none is taken up, worked on or ended, although lints
may be superseded and formattings cancelled, and those that tell may go on. -/
structure Apart (turn next : Turn) : Prop where
  messages : next.server.messages = turn.server.messages
  nextJob : next.server.nextJob = turn.server.nextJob
  settings : turn.server.phase ≠ .fresh → next.server.settings = turn.server.settings
  ended : turn.server.phase.isOver = true → next.server.phase.isOver = true
  serves : turn.server.phase ≠ .fresh → next.server.phase ≠ .fresh
  initialized : next.server.isolated.initialized = turn.server.isolated.initialized
  jobs : ∀ number, Fate (turn.server.jobs.get? number) (next.server.jobs.get? number)
  tellings : ∀ number,
    Telling.Fate (turn.server.tellings.get? number) (next.server.tellings.get? number)
  unasked : Unasked turn next
  adds : Adds (Deed.IsAside turn.server.phase) turn next

/-- What is talked about a job concerns what is still to be told of it. -/
theorem Talks.apart (talks : Talks turn next)
    (tellings : ∀ number,
      Telling.Fate (turn.server.tellings.get? number) (next.server.tellings.get? number)) :
    Apart turn next where
  messages := talks.messages
  nextJob := talks.nextJob
  settings := fun _ => talks.settings
  ended := fun ended => by rw [talks.phase, ended]
  serves := fun serves => by rwa [talks.phase]
  initialized := by rw [talks.isolated]
  jobs := fun number => by
    rw [talks.jobs]
    exact .stays _
  tellings := tellings
  unasked := talks.unasked
  adds := talks.adds.mono fun _ => Or.inl

/-- Speech concerns no job at all. -/
theorem Speaks.apart (speaks : Speaks turn next) : Apart turn next :=
  (Talks.of_speaks speaks).apart fun number => by
    rw [speaks.tellings]
    exact .stays _

/-- The lint of a document is superseded, and nothing else. -/
theorem supersede_frame (turn : Turn) (uri : Uri) :
    ∃ inFlight jobs,
      turn.supersede uri = turn.update (fun server => { server with inFlight, jobs }) ∧
        ∀ number, Fate (turn.server.jobs.get? number) (jobs.get? number) := by
  unfold supersede
  split
  · exact ⟨turn.server.inFlight, turn.server.jobs, rfl, fun _ => .stays _⟩
  · next newest _ =>
      refine ⟨_, _, rfl, fun number => ?_⟩
      rw [Table.get?_modify]
      split
      · next same =>
          rw [same]
          cases turn.server.jobs.get? newest with
          | none => exact .stays none
          | some job => exact .superseded job
      · exact .stays _

/-- Of several documents the lints are superseded, and nothing else. -/
theorem supersedeAll_frame (turn : Turn) (uris : List Uri) :
    ∃ inFlight jobs,
      uris.foldl supersede turn = turn.update (fun server => { server with inFlight, jobs }) ∧
        ∀ number, Fate (turn.server.jobs.get? number) (jobs.get? number) := by
  induction uris generalizing turn with
  | nil => exact ⟨turn.server.inFlight, turn.server.jobs, rfl, fun _ => .stays _⟩
  | cons uri rest inductionHypothesis =>
      obtain ⟨_, _, once, fate⟩ := supersede_frame turn uri
      obtain ⟨inFlight, jobs, same, later⟩ := inductionHypothesis (turn.supersede uri)
      refine ⟨inFlight, jobs, by rw [List.foldl_cons, same, once]; rfl, fun number => ?_⟩
      rw [once] at later
      exact (fate number).trans (later number)

namespace Apart

/-- Speech afterwards changes nothing more. -/
theorem speaks (apart : Apart turn middle) (speaks : Speaks middle next) : Apart turn next where
  messages := speaks.messages.trans apart.messages
  nextJob := speaks.nextJob.trans apart.nextJob
  settings := fun serves => speaks.settings.trans (apart.settings serves)
  ended := fun ended => by rw [speaks.phase, apart.ended ended]
  serves := fun serves => by rw [speaks.phase]; exact apart.serves serves
  initialized := by rw [speaks.isolated, apart.initialized]
  jobs := by rw [speaks.jobs]; exact apart.jobs
  tellings := by rw [speaks.tellings]; exact apart.tellings
  unasked := apart.unasked.trans speaks.unasked
  adds := apart.adds.trans (speaks.adds.mono fun _ speech => Or.inl speech.talk)

/-- The life of a server that has begun to serve goes on, and nothing else changes. -/
theorem phase (turn : Turn) {phase : Phase} (serves : phase ≠ .fresh)
    (ended : turn.server.phase.isOver = true → phase.isOver = true) :
    Apart turn (turn.update fun server => { server with phase }) where
  messages := rfl
  nextJob := rfl
  settings := fun _ => rfl
  ended := ended
  serves := fun _ => serves
  initialized := rfl
  jobs := fun _ => .stays _
  tellings := fun _ => .stays _
  unasked := .none rfl
  adds := .none rfl

theorem closing (ready : turn.server.phase = .ready) :
    Apart turn (turn.update fun server => { server with phase := .closing }) :=
  phase turn (by simp) (by simp [ready, Phase.isOver])

theorem exit (turn : Turn) :
    Apart turn (turn.update fun server => { server with phase := .exited }) :=
  phase turn (by simp) fun _ => rfl

theorem folders (turn : Turn) (change : Params.Folders) : Apart turn (turn.heedFolders change) :=
  ⟨rfl, rfl, fun _ => rfl, id, id, rfl, fun _ => .stays _, fun _ => .stays _, .none rfl, .none rfl⟩

/-- No job has any more questions than before once one is answered. -/
theorem askers_erase (server : Server) (answered question number : Nat)
    (asked : (server.askers.erase answered).get? question = some (.job number)) :
    server.askers.get? question = some (.job number) := by
  rw [Table.get?_erase] at asked
  split at asked
  · cases asked
  · exact asked

theorem answered (turn : Turn) (question : Nat) :
    Apart turn (turn.update fun server =>
      { server with askers := server.askers.erase question }) :=
  Speaks.apart ⟨{}, rfl, rfl, rfl, rfl, .none rfl, askers_erase turn.server question⟩

/-- What the user chooses is of no concern to the jobs. -/
theorem choose (turn : Turn) (details : String) (folder : Option Path) (action : PopupAction) :
    Apart turn (turn.choose details folder action) := by
  have suppress (scope : Scope) : Apart turn (turn.suppress scope) := by
    unfold Turn.suppress
    split
    · exact ⟨rfl, rfl, fun _ => rfl, id, id, rfl, fun _ => .stays _, fun _ => .stays _, .none rfl,
        .none rfl⟩
    · exact ⟨rfl, rfl, fun _ => rfl, id, id, rfl, fun _ => .stays _, fun _ => .stays _, .none rfl,
        .none rfl⟩
  unfold Turn.choose
  split
  · exact (Speaks.tell turn _).apart
  · exact suppress _
  · exact (Speaks.refl turn).apart
  · exact suppress _

/-- Before the server serves, its settings may still be read. -/
theorem beginning (fresh : turn.server.phase = .fresh)
    (messages : next.server.messages = turn.server.messages)
    (nextJob : next.server.nextJob = turn.server.nextJob)
    (jobs : next.server.jobs = turn.server.jobs)
    (tellings : next.server.tellings = turn.server.tellings)
    (isolated : next.server.isolated = turn.server.isolated) (unasked : Unasked turn next)
    (adds : Adds Deed.IsSpeech turn next) : Apart turn next where
  messages := messages
  nextJob := nextJob
  settings := fun serves => absurd fresh serves
  ended := fun ended => by rw [fresh] at ended; cases ended
  serves := fun serves => absurd fresh serves
  initialized := by rw [isolated]
  jobs := fun number => by rw [jobs]; exact .stays _
  tellings := fun number => by rw [tellings]; exact .stays _
  unasked := unasked
  adds := adds.mono fun _ speech => Or.inl speech.talk

theorem serve (id : RpcId) (params : Params.Beginning) (fresh : turn.server.phase = .fresh) :
    Apart turn (turn.beginServing id params) := by
  unfold beginServing
  refine .speaks ?_ (.reply _ id _)
  unfold loadSettings
  split
  · exact beginning fresh rfl rfl rfl rfl rfl (.none rfl) (.none rfl)
  · split
    · exact beginning fresh rfl rfl rfl rfl rfl (.none rfl) (.none rfl)
    · have told := Speaks.tell (turn.update fun server =>
        { server with
          asksSettings := params.configuration
          folders := initialFolders params
          client := (params.options.bind Settings.ofJson?).getD server.client })
      refine beginning fresh ?_ ?_ ?_ ?_ ?_ ?_ ?_
      · exact (told _).messages
      · exact (told _).nextJob
      · exact (told _).jobs
      · exact (told _).tellings
      · exact (told _).isolated
      · exact (told _).unasked
      · exact (told _).adds

/-- Closing a document supersedes its lint at most. -/
theorem close (uri : Uri) (ready : turn.server.phase = .ready) :
    Apart turn (turn.heedClosed uri) := by
  obtain ⟨inFlight, jobs, same, fate⟩ := supersede_frame turn uri
  unfold heedClosed
  rw [same]
  refine .speaks ?_ (.publish _ uri [] none)
  refine ⟨rfl, rfl, fun _ => rfl, id, id, rfl, fate, fun _ => .stays _, .none rfl, .one rfl ?_⟩
  exact Or.inr ⟨ready, uri, rfl⟩

/-- A cancelled formatting is answered and goes; the others stay. -/
theorem cancel (request : RpcId) (held : turn.server.jobs.get? number = some job)
    (formats : job.errand.mode = .format) : Apart turn (turn.cancelJob number request) := by
  have killed := Speaks.killFor turn number
  refine .speaks ?_ (.reply _ request _)
  refine ⟨killed.messages, killed.nextJob, fun _ => killed.settings, ?_, ?_, ?_, ?_, ?_,
    killed.unasked, ?_⟩
  · intro ended
    exact (congrArg Phase.isOver killed.phase).trans ended
  · intro serves
    exact fun fresh => serves (killed.phase.symm.trans fresh)
  · exact congrArg Isolated.initialized killed.isolated
  · intro other
    rw [get?_abandon]
    split
    · next same =>
        rw [same, held]
        exact .cancelled job formats
    · exact .stays _
  · intro other
    have same : (turn.abandon number).server.tellings = turn.server.tellings := killed.tellings
    rw [same]
    exact .stays _
  · exact killed.adds.mono fun _ speech => Or.inl speech.talk

/-- A job that tells logs its failure. -/
theorem report {failure : Failure} {rest : Rest}
    (held : turn.server.tellings.get? number = some ⟨job, rest⟩) :
    Apart turn (turn.report number job failure) := by
  refine (Talks.report turn number job failure).apart fun other => ?_
  rw [report_tellings, Table.get?_put]
  split
  · next same =>
      rw [same, held]
      exact .goesOn job rest _
  · exact .stays _

theorem popUp (turn : Turn) (number : Nat) (job : Job) (failure : Failure) :
    Apart turn (turn.popUp number job failure) := by
  obtain ⟨talks, tellings⟩ := Talks.popUp turn number job failure
  refine talks.apart fun other => ?_
  rw [tellings]
  exact .stays _

/-- A formatting that still tells is answered and falls silent. -/
theorem cancelTelling {rest : Rest} (request : RpcId)
    (held : turn.server.tellings.get? number = some ⟨job, rest⟩)
    (formats : job.errand.mode = .format) : Apart turn (turn.cancelTelling number request) := by
  have silenced : Talks turn (turn.silence number) := ⟨{}, rfl, rfl, rfl, .none rfl, .none rfl⟩
  refine .speaks (silenced.apart fun other => ?_) (.reply _ request _)
  simp only [silence, update, Table.get?_erase]
  split
  · next same =>
      rw [same, held]
      exact .cancelled job rest formats
  · exact .stays _

end Apart

/-! ## Jobs come and go -/

end Turn

/-- What is done when a job is taken up: a lint begins, perhaps on a document just kept. -/
def Deed.IsTake (number : Nat) (job : Job) (deed : Deed) : Prop :=
  job.errand.mode = .lint ∧ (deed = .kept job.document ∨ deed = .begun number job.document)

/-- What is done when a job ends: its finding is told, if there is one, and the server talks. -/
def Deed.IsEnd (number : Nat) (finding : Option Finding) (deed : Deed) : Prop :=
  deed.IsTalk ∨ ∃ told, finding = some told ∧ deed = .told number told

namespace Turn

variable {turn middle next : Turn} {number : Nat} {job : Job}

/-- A job is taken up; the lint of the document before may be superseded. -/
structure Takes (number : Nat) (job : Job) (turn next : Turn) : Prop extends Steady turn next where
  numbered : number = turn.server.nextJob
  nextJob : next.server.nextJob = number + 1
  tellings : next.server.tellings = turn.server.tellings
  initialized : next.server.isolated.initialized = turn.server.isolated.initialized
  held : next.server.jobs.get? number = some job
  folder : job.folder = job.document.folderIn? turn.server.folders
  others : ∀ other, other ≠ number →
    Fate (turn.server.jobs.get? other) (next.server.jobs.get? other)
  begun : job.errand.mode = .lint → .begun number job.document ∈ next.deeds
  unasked : Unasked turn next
  adds : Adds (Deed.IsTake number job) turn next

/-- A lint is taken up under the next number, and the one before it is superseded. -/
theorem beginLint_takes (turn : Turn) (origin : Nat) (document : Document) (others : List Uri) :
    Takes (turn.beginLint origin document others).1.1 (turn.beginLint origin document others).1.2
      turn (turn.beginLint origin document others).2 := by
  obtain ⟨inFlight, jobs, same, fate⟩ := supersede_frame turn document.uri
  simp only [beginLint, same, takeUp]
  refine ⟨{}, rfl, rfl, rfl, rfl, ?_, rfl, fun other apart => ?_, fun _ => ?_, .none rfl, ?_⟩
  · simp [update, note, Table.get?_put]
  · simp only [update, note, Table.get?_put] at apart ⊢
    rw [if_neg apart]
    exact fate other
  · simp [note]
  · exact .one rfl ⟨rfl, Or.inr rfl⟩

/-- A lint of a document that was just kept is taken up in the same way. -/
theorem renewLint_takes (turn : Turn) (origin : Nat) (document : Document) :
    Takes ((turn.keep document).beginLint origin document []).1.1
      ((turn.keep document).beginLint origin document []).1.2
      turn ((turn.keep document).beginLint origin document []).2 := by
  have takes := beginLint_takes (turn.keep document) origin document []
  refine
    { takes with
      toSteady := { takes.toSteady with }
      adds := ?_ }
  exact .trans (.one rfl ⟨rfl, Or.inl rfl⟩) takes.adds

/-- A formatting is taken up under the next number and supersedes nothing. -/
theorem beginFormat_takes (turn : Turn) (origin : Nat) (request : RpcId) (tabSize : Nat)
    (document : Document) :
    Takes (turn.beginFormat origin request tabSize document).1.1
      (turn.beginFormat origin request tabSize document).1.2
      turn (turn.beginFormat origin request tabSize document).2 := by
  simp only [beginFormat, takeUp]
  refine ⟨{}, rfl, rfl, rfl, rfl, ?_, rfl, fun other apart => ?_, ?_, .none rfl, .none rfl⟩
  · simp [update, Table.get?_put]
  · simp only [update, Table.get?_put] at apart ⊢
    rw [if_neg apart]
    exact .stays _
  · rintro ⟨⟩

/-- A job ends with a finding or without one, and the others stay. -/
structure Ends (number : Nat) (finding : Option Finding) (turn next : Turn) : Prop
    extends Steady turn next where
  nextJob : next.server.nextJob = turn.server.nextJob
  initialized : next.server.isolated.initialized = turn.server.isolated.initialized
  jobs : ∀ other, next.server.jobs.get? other =
    if other = number then none else turn.server.jobs.get? other
  unasked : Unasked turn next
  adds : Adds (Deed.IsEnd number finding) turn next

namespace Ends

variable {finding : Option Finding}

theorem discharge (turn : Turn) (number : Nat) :
    Ends number finding turn (turn.discharge number) :=
  ⟨{}, rfl, rfl, fun _ => Table.get?_erase _ _ _, .none rfl, .none rfl⟩

/-- What is said after the end of a job brings it not back. -/
theorem talks (ends : Ends number finding turn middle) (talks : Talks middle next) :
    Ends number finding turn next :=
  ⟨ends.toSteady.trans talks.toSteady, talks.nextJob.trans ends.nextJob,
    by rw [talks.isolated, ends.initialized], by rw [talks.jobs]; exact ends.jobs,
    ends.unasked.trans talks.unasked, ends.adds.trans (talks.adds.mono fun _ => Or.inl)⟩

theorem told {told : Finding} (ends : Ends number (some told) turn middle) :
    Ends number (some told) turn (middle.note (.told number told)) :=
  { ends with
    toSteady := { ends.toSteady with }
    adds := ends.adds.trans (.one rfl (Or.inr ⟨told, rfl, rfl⟩)) }

end Ends

/-- A finished lint leaves its place in flight, and then its finding is told. -/
theorem finishLint_ends (turn : Turn) (number : Nat) (finding : Finding) :
    Ends number (some finding) turn (turn.finishLint number finding) := by
  have cleared : Ends number (some finding) turn
      ((turn.discharge number).clearInFlight number finding.job.document.uri) :=
    .talks (.discharge turn number) (.of_speaks (.clearInFlight _ _ _))
  exact .talks cleared.told (.tellLint _ _ _)

/-- A finished lint still has something to tell, and it fits its output. -/
theorem finishLint_tellings (turn : Turn) (number : Nat) (finding : Finding) :
    ∃ rest, rest.Fits finding.output ∧ (turn.finishLint number finding).server.tellings =
      turn.server.tellings.put number ⟨finding.job, rest⟩ := by
  have cleared := (Speaks.clearInFlight (turn.discharge number) number
    finding.job.document.uri).tellings
  obtain ⟨rest, fits, same⟩ := tellLint_tellings
    (((turn.discharge number).clearInFlight number finding.job.document.uri).note
      (.told number finding)) number finding
  refine ⟨rest, fits, same.trans ?_⟩
  have discharged : ((turn.discharge number).clearInFlight number
      finding.job.document.uri).server.tellings = turn.server.tellings := cleared
  simp only [note, discharged]

theorem finishFormat_ends (turn : Turn) (number : Nat) (request : RpcId) (finding : Finding) :
    Ends number (some finding) turn (turn.finishFormat number request finding) :=
  .talks (Ends.discharge turn number).told (.tellFormat _ _ _ _)

/-- A finished formatting is answered at once, or its failure is still to be shown. -/
theorem finishFormat_tellings (turn : Turn) (number : Nat) (request : RpcId) (finding : Finding) :
    (∃ stdout, finding.output = .ok stdout ∧
        (turn.finishFormat number request finding).server.tellings = turn.server.tellings) ∨
      ∃ failure, finding.output = .error failure ∧
        (turn.finishFormat number request finding).server.tellings =
          turn.server.tellings.put number ⟨finding.job, .display failure⟩ :=
  tellFormat_tellings ((turn.discharge number).note (.told number finding)) number request finding

/-- A job that is dropped ends without a finding. -/
theorem drop_ends (turn : Turn) (number : Nat) (uri : Uri) :
    Ends number none turn ((turn.abandon number).clearInFlight number uri) := by
  refine .talks ?_ (.of_speaks (.clearInFlight _ _ _))
  have killed := Speaks.killFor turn number
  refine ⟨{ killed.toSteady with }, killed.nextJob, ?_,
    get?_abandon turn number, killed.unasked, ?_⟩
  · exact congrArg Isolated.initialized killed.isolated
  · exact killed.adds.mono fun _ speech => Or.inl speech.talk

theorem drop_tellings (turn : Turn) (number : Nat) (uri : Uri) :
    ((turn.abandon number).clearInFlight number uri).server.tellings = turn.server.tellings :=
  (Speaks.clearInFlight (turn.abandon number) number uri).tellings.trans
    (Speaks.killFor turn number).tellings

end Turn

/-! ## Shutting down -/

namespace Turn

variable {turn next : Turn}

/-- The server shuts down: lints are superseded, the environment of our own is forgotten, and the
server only speaks after that. -/
structure Stops (turn next : Turn) : Prop extends Steady turn next where
  nextJob : next.server.nextJob = turn.server.nextJob
  tellings : next.server.tellings = turn.server.tellings
  initialized : next.server.isolated.initialized = false
  jobs : ∀ number, Fate (turn.server.jobs.get? number) (next.server.jobs.get? number)
  unasked : Unasked turn next
  adds : Adds Deed.IsSpeech (turn.note .shutDown) next

/-- A shutdown supersedes every lint in flight and forgets the environment of our own. -/
theorem shutDown_stops (turn : Turn) (id : RpcId) : Stops turn (turn.shutDown id) := by
  obtain ⟨inFlight, jobs, same, fate⟩ := supersedeAll_frame turn turn.server.inFlight.keys
  unfold shutDown
  rw [same]
  exact ⟨{}, rfl, rfl, rfl, fate, .none rfl, .one rfl trivial⟩

/-- What is done in the end was done before, or is the shutdown, or is speech. -/
theorem Stops.of_mem {deed : Deed} (stops : Stops turn next) (member : deed ∈ next.deeds) :
    deed ∈ turn.deeds ∨ deed = .shutDown ∨ deed.IsSpeech := by
  rcases stops.adds.of_mem member with noted | speech
  · rcases List.mem_append.mp noted with before | here
    · exact Or.inl before
    · exact Or.inr (Or.inl (List.mem_singleton.mp here))
  · exact Or.inr (Or.inr speech)

end Turn

end TemplateLint
