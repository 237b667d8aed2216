import TemplateLint.Proofs.JobSettings
import TemplateLint.Proofs.ToldErrors

/-!
# What the user is told of errors

A failure is logged, and when the editor has taken that a popup may follow.  Whether it does depends
on what the last popup said then, and that is forgotten when a lint comes to its problems and when
settings are accepted.  Meanwhile other failures may be logged and shown.  The remarks that are made
in a turn are followed here through all that a server does: each function makes none, or makes them
in the order that what was shown last calls for.
Main exports: `Remark`, `Tells`, `Deed.remark?`, `Turn.Unremarked`, `Turn.Accounts`,
`Turn.Recounts`, `Turn.step_accounts`.
-/

namespace TemplateLint

/-- What matters to the popups about errors. -/
inductive Remark where
  /-- Settings that the editor pushed are accepted. -/
  | accepted
  /-- A lint that counts has come to its problems. -/
  | succeeded
  /-- A lint that counts, or a formatting, has come to a failure. -/
  | failed (number : Nat) (job : Job) (failure : Failure)
  /-- The failure of a job goes to the log. -/
  | logged (number : Nat) (job : Job) (failure : Failure)
  /-- The editor is told what goes to the log. -/
  | details (text : String)
  /-- It is considered whether the failure of a job is shown. -/
  | considered (number : Nat) (job : Job) (failure : Failure)
  /-- The user is asked about a failure. -/
  | popup (message : String)

namespace Remark

/-- The editor is told of a failure. -/
def IsHeard : Remark → Prop
  | details _ => True
  | popup _ => True
  | _ => False

end Remark

/-- The remarks of a server that knows what the last popup said, and what it knows after them.
What goes to the log is told the editor at once, and a failure that is considered is shown at once
unless the settings of the job hide it or the last popup said the same. -/
inductive Tells : Option String → List Remark → Option String → Prop where
  | nil (last : Option String) : Tells last [] last
  | accepted {last final : Option String} {rest : List Remark} (later : Tells none rest final) :
      Tells last (.accepted :: rest) final
  | succeeded {last final : Option String} {rest : List Remark} (later : Tells none rest final) :
      Tells last (.succeeded :: rest) final
  | failed {last final : Option String} {rest : List Remark} (number : Nat) (job : Job)
      (failure : Failure) (later : Tells last rest final) :
      Tells last (.failed number job failure :: rest) final
  | logged {last final : Option String} {rest : List Remark} (number : Nat) (job : Job)
      (failure : Failure) (later : Tells last rest final) :
      Tells last (.logged number job failure :: .details failure.details :: rest) final
  | unshown {last final : Option String} {rest : List Remark} {job : Job} {failure : Failure}
      (number : Nat)
      (quiet : failure.isHidden job.settings = true ∨ last = some failure.message)
      (later : Tells last rest final) :
      Tells last (.considered number job failure :: rest) final
  | shown {last final : Option String} {rest : List Remark} {job : Job} {failure : Failure}
      (number : Nat) (shows : failure.isHidden job.settings = false)
      (other : last ≠ some failure.message) (later : Tells (some failure.message) rest final) :
      Tells last (.considered number job failure :: .popup failure.message :: rest) final

/-- Remarks go on from what the last popup said when the ones before them were made. -/
theorem Tells.append {first middle last : Option String} {one two : List Remark}
    (early : Tells first one middle) (late : Tells middle two last) :
    Tells first (one ++ two) last := by
  induction early with
  | nil => exact late
  | accepted later inductionHypothesis => exact .accepted (inductionHypothesis late)
  | succeeded later inductionHypothesis => exact .succeeded (inductionHypothesis late)
  | failed number job failure later inductionHypothesis =>
      exact .failed number job failure (inductionHypothesis late)
  | logged number job failure later inductionHypothesis =>
      exact .logged number job failure (inductionHypothesis late)
  | unshown number quiet later inductionHypothesis =>
      exact .unshown number quiet (inductionHypothesis late)
  | shown number shows other later inductionHypothesis =>
      exact .shown number shows other (inductionHypothesis late)

/-- What a finding is to the user; a formatting that goes well is nothing to remark on. -/
def Finding.remark? (number : Nat) (finding : Finding) : Option Remark :=
  match finding.output, finding.job.errand with
  | .error failure, _ => some (.failed number finding.job failure)
  | .ok _, .lint _ => some .succeeded
  | .ok _, .format .. => none

/-- The remark that a deed makes, if it makes one. -/
def Deed.remark? : Deed → Option Remark
  | .told number finding => finding.remark? number
  | .logged number job failure => some (.logged number job failure)
  | .considered number job failure => some (.considered number job failure)
  | .effect (.tell (.log .error text)) => some (.details text)
  | .effect (.ask _ (.choice message _)) => some (.popup message)
  | _ => none

namespace Turn

variable {turn middle next : Turn} {number : Nat} {job : Job}

/-! ## Without remarks -/

/-- No remark is made, what was shown last stays, and the editor listens or not as it did. -/
structure Unremarked (turn next : Turn) : Prop where
  adds : Adds (fun deed => deed.remark? = none) turn next
  exited : next.server.phase = .exited ↔ turn.server.phase = .exited
  lastError : next.server.lastError = turn.server.lastError

namespace Unremarked

theorem refl (turn : Turn) : Unremarked turn turn :=
  ⟨.none rfl, Iff.rfl, rfl⟩

/-- Nothing is remarked in two stretches when nothing is in either. -/
theorem trans (one : Unremarked turn middle) (two : Unremarked middle next) :
    Unremarked turn next :=
  ⟨one.adds.trans two.adds, two.exited.trans one.exited, two.lastError.trans one.lastError⟩

/-- Nothing is done that anybody learns of. -/
theorem still (deeds : next.deeds = turn.deeds)
    (phase : next.server.phase = turn.server.phase)
    (lastError : next.server.lastError = turn.server.lastError) : Unremarked turn next :=
  ⟨.none deeds, by rw [phase], lastError⟩

theorem note (turn : Turn) {deed : Deed} (plain : deed.remark? = none) :
    Unremarked turn (turn.note deed) :=
  ⟨.one rfl plain, Iff.rfl, rfl⟩

/-! ### Speech -/

/-- A notice that is no log of an error is no remark. -/
theorem tell (turn : Turn) {notice : Notice}
    (plain : (Deed.effect (.tell notice)).remark? = none) :
    Unremarked turn (turn.tell notice) := by
  unfold Turn.tell
  split
  · exact refl turn
  · exact note turn plain

theorem publish (turn : Turn) (uri : Uri) (diagnostics : List Diagnostic)
    (version : Option Int) : Unremarked turn (turn.publish uri diagnostics version) := by
  unfold Turn.publish
  split
  · exact tell turn rfl
  · exact refl turn

theorem reply (turn : Turn) (id : RpcId) (result : Except RpcError Json) :
    Unremarked turn (turn.reply id result) :=
  note turn rfl

theorem refuse (turn : Turn) (id : Option RpcId) (error : RpcError) :
    Unremarked turn (turn.refuse id error) := by
  unfold Turn.refuse
  split
  · exact reply turn _ _
  · exact refl turn

/-- To ask for settings is no remark: only popups are. -/
theorem askSettings (turn : Turn) (asker : Asker) (uri : Uri) :
    Unremarked turn (turn.ask asker (.settings uri)) := by
  unfold Turn.ask
  split
  · exact refl turn
  · exact ⟨.one rfl rfl, Iff.rfl, rfl⟩

theorem suppress (turn : Turn) (scope : Scope) : Unremarked turn (turn.suppress scope) := by
  unfold Turn.suppress
  split
  · exact still rfl rfl rfl
  · exact still rfl rfl rfl

/-- What the user chooses in a popup leaves the last error as it is. -/
theorem choose (turn : Turn) (details : String) (folder : Option Path) (action : PopupAction) :
    Unremarked turn (turn.choose details folder action) := by
  unfold Turn.choose
  split
  · exact tell turn rfl
  · exact suppress turn _
  · exact refl turn
  · exact suppress turn _

/-! ### Work on a job -/

theorem startFor (turn : Turn) (number : Nat) (job : Job) (wait : Wait) (launch : Launch) :
    Unremarked turn (turn.startFor number job wait launch) :=
  ⟨.one rfl rfl, Iff.rfl, rfl⟩

theorem runTool (turn : Turn) (number : Nat) (job : Job) (python : Path) :
    Unremarked turn (turn.runTool number job python).1 := by
  unfold Turn.runTool
  simp only
  split
  · exact startFor turn _ _ _ _
  · exact refl turn

theorem setupDone (turn : Turn) (number : Nat) (job : Job) :
    Unremarked turn (turn.setupDone number job).1 := by
  refine trans ?_ (runTool _ number job _)
  exact still rfl rfl rfl

theorem setupFailed (turn : Turn) (number : Nat) (job : Job) (failure : Failure) :
    Unremarked turn (turn.setupFailed number job failure).1 :=
  still rfl rfl rfl

theorem removeFor (turn : Turn) (number : Nat) (job : Job) :
    Unremarked turn (turn.removeFor number job) :=
  ⟨.one rfl rfl, Iff.rfl, rfl⟩

/-- Work on the environment goes on in silence. -/
theorem setUp (turn : Turn) (number : Nat) (job : Job) (step : SetupStep) :
    Unremarked turn (turn.setUp number job step).1 := by
  fun_induction Turn.setUp turn number job step with
  | case1 venv stage launch launched => exact startFor turn _ _ _ _
  | case2 venv stage reason refused inductionHypothesis => exact inductionHypothesis
  | case3 => exact removeFor turn number job
  | case4 => exact setupDone turn number job
  | case5 failure => exact setupFailed turn number job failure

theorem takeTurn (turn : Turn) (number : Nat) (job : Job) :
    Unremarked turn (turn.takeTurn number job).1 := by
  unfold Turn.takeTurn
  split
  · refine trans ?_ (runTool _ number job _)
    exact still rfl rfl rfl
  · exact setUp turn number job _

theorem enterIsolated (turn : Turn) (number : Nat) (job : Job) :
    Unremarked turn (turn.enterIsolated number job).1 := by
  unfold Turn.enterIsolated
  simp only
  split
  · exact runTool turn number job _
  · split
    · exact still rfl rfl rfl
    · refine trans ?_ (takeTurn _ number job)
      exact still rfl rfl rfl

theorem invoke (turn : Turn) (number : Nat) (job : Job) :
    Unremarked turn (turn.invoke number job).1 := by
  unfold Turn.invoke
  split
  · split
    · exact runTool turn number job _
    · exact enterIsolated turn number job
    · exact refl turn
  · exact refl turn

theorem proceed (turn : Turn) (number : Nat) (job : Job) :
    Unremarked turn (turn.proceed number job).1 := by
  unfold Turn.proceed
  simp only
  split
  · refine trans ?_ (askSettings _ _ _)
    exact still rfl rfl rfl
  · exact invoke turn number _

/-- No news is a remark before it is a finding. -/
theorem resume (turn : Turn) (number : Nat) (job : Job) (news : News) :
    Unremarked turn (turn.resume number job news).1 := by
  unfold Turn.resume
  split
  · exact invoke turn number _
  · split
    · exact takeTurn turn number job
    · exact refl turn
  · exact setUp turn number job _
  · exact setUp turn number job _
  · exact refl turn
  · exact refl turn
  · exact refl turn

/-! ### Jobs come and go -/

theorem keep (turn : Turn) (document : Document) : Unremarked turn (turn.keep document) :=
  ⟨.one rfl rfl, Iff.rfl, rfl⟩

theorem discharge (turn : Turn) (number : Nat) : Unremarked turn (turn.discharge number) :=
  still rfl rfl rfl

theorem beginLint (turn : Turn) (origin : Nat) (document : Document) (others : List Uri) :
    Unremarked turn (turn.beginLint origin document others).2 := by
  obtain ⟨inFlight, jobs, same, -⟩ := supersede_frame turn document.uri
  simp only [Turn.beginLint, same, takeUp]
  exact ⟨.one rfl rfl, Iff.rfl, rfl⟩

theorem clearInFlight (turn : Turn) (number : Nat) (uri : Uri) :
    Unremarked turn (turn.clearInFlight number uri) := by
  unfold Turn.clearInFlight
  split
  · exact still rfl rfl rfl
  · exact refl turn

theorem abandon (turn : Turn) (number : Nat) : Unremarked turn (turn.abandon number) := by
  have killed : Unremarked turn (turn.killFor number) := by
    unfold killFor
    split
    · split
      · exact note turn rfl
      · exact refl turn
    · exact refl turn
  exact killed.trans (still rfl rfl rfl)

theorem cancelJob (turn : Turn) (number : Nat) (request : RpcId) :
    Unremarked turn (turn.cancelJob number request) :=
  (abandon turn number).trans (reply _ request _)

theorem pause (turn : Turn) (number : Nat) (job : Job) (rest : Rest) :
    Unremarked turn (turn.pause number job rest) :=
  still rfl rfl rfl

theorem silence (turn : Turn) (number : Nat) : Unremarked turn (turn.silence number) :=
  still rfl rfl rfl

theorem cancelTelling (turn : Turn) (number : Nat) (request : RpcId) :
    Unremarked turn (turn.cancelTelling number request) :=
  (silence turn number).trans (reply _ request _)

/-- A formatting that is cancelled before its popup leaves its log without one. -/
theorem cancelRequests (turn : Turn) (meant : RpcId → Bool) :
    Unremarked turn (turn.cancelRequests meant) :=
  cancelRequests_kept (Unremarked turn) meant (fun _ _ _ plain => plain.trans (cancelJob _ _ _))
    (fun _ _ _ plain => plain.trans (cancelTelling _ _ _)) (refl turn)

/-! ### The life of the server -/

theorem forget (turn : Turn) (document : Document) : Unremarked turn (turn.forget document) := by
  refine trans ?_ (publish _ _ _ _)
  exact still rfl rfl rfl

theorem heedClosed (turn : Turn) (uri : Uri) : Unremarked turn (turn.heedClosed uri) := by
  obtain ⟨inFlight, jobs, same, -⟩ := supersede_frame turn uri
  unfold Turn.heedClosed
  rw [same]
  have closed : Unremarked turn (((turn.update fun server => { server with inFlight, jobs }).update
      fun server =>
        { server with
          documents := server.documents.erase uri
          diagnostics := server.diagnostics.erase uri }).note (.closed uri)) :=
    ⟨.one rfl rfl, Iff.rfl, rfl⟩
  exact closed.trans (publish _ uri [] none)

theorem loadSettings (turn : Turn) : Unremarked turn turn.loadSettings := by
  unfold Turn.loadSettings
  split
  · exact refl turn
  · split
    · exact still rfl rfl rfl
    · exact tell turn rfl

/-- Before it serves a server has shown nothing. -/
theorem beginServing (id : RpcId) (params : Params.Beginning)
    (fresh : turn.server.phase = .fresh) : Unremarked turn (turn.beginServing id params) := by
  have loaded : Unremarked turn (turn.update fun server =>
      { server with
        asksSettings := params.configuration
        folders := initialFolders params
        client := (params.options.bind Settings.ofJson?).getD server.client }).loadSettings := by
    refine trans ?_ (loadSettings _)
    exact still rfl rfl rfl
  have serves : ¬ (turn.update fun server =>
      { server with
        asksSettings := params.configuration
        folders := initialFolders params
        client :=
          (params.options.bind Settings.ofJson?).getD server.client }).loadSettings.server.phase =
            .exited := by
    rw [loaded.exited, fresh]
    simp
  refine trans ?_ (reply _ id (.ok capabilities))
  refine loaded.trans ⟨.none rfl, ?_, rfl⟩
  exact ⟨fun ready => absurd ready (by simp [update]), fun exited => absurd exited serves⟩

theorem shutDown (turn : Turn) (id : RpcId) : Unremarked turn (turn.shutDown id) := by
  obtain ⟨inFlight, jobs, same, -⟩ := supersedeAll_frame turn turn.server.inFlight.keys
  unfold Turn.shutDown
  simp only [same]
  refine ⟨⟨[.shutDown, .effect (.reply ⟨id, .ok .null⟩)], ?_, ?_⟩, Iff.rfl, rfl⟩
  · simp [Turn.reply, emit, Turn.note, update]
  · simp [Deed.remark?]

end Unremarked

/-! ## With remarks -/

/-- The remarks that are made are what was shown last calls for.  Once the server has exited, nobody
hears them. -/
structure Accounts (turn next : Turn) : Prop where
  exits : turn.server.phase = .exited → next.server.phase = .exited
  deeds : ∃ more, next.deeds = turn.deeds ++ more ∧
    (turn.server.phase = .exited →
      ∀ remark ∈ more.filterMap Deed.remark?, ¬ remark.IsHeard) ∧
    (turn.server.phase ≠ .exited →
      Tells turn.server.lastError (more.filterMap Deed.remark?) next.server.lastError)

/-- The remarks are as they should be, and the editor still listens if it did. -/
structure Recounts (turn next : Turn) : Prop extends Accounts turn next where
  listens : turn.server.phase ≠ .exited → next.server.phase ≠ .exited

/-- Plain deeds make no remarks. -/
theorem remarks_eq_nil {deeds : List Deed} (plain : ∀ deed ∈ deeds, deed.remark? = none) :
    deeds.filterMap Deed.remark? = [] :=
  List.filterMap_eq_nil_iff.mpr plain

namespace Unremarked

/-- Without remarks there is nothing to account for. -/
theorem recounts (unremarked : Unremarked turn next) : Recounts turn next := by
  obtain ⟨⟨more, same, plain⟩, exited, lastError⟩ := unremarked
  refine ⟨⟨exited.mpr, more, same, ?_, ?_⟩, fun listens => mt exited.mp listens⟩
  · simp [remarks_eq_nil plain]
  · intro _
    rw [remarks_eq_nil plain, lastError]
    exact .nil _

/-- What is not remarked on may come first. -/
theorem leads (unremarked : Unremarked turn middle) (accounts : Accounts middle next) :
    Accounts turn next := by
  obtain ⟨⟨one, first, plain⟩, exited, lastError⟩ := unremarked
  obtain ⟨exits, two, second, hushed, tells⟩ := accounts
  refine ⟨fun gone => exits (exited.mpr gone), one ++ two, ?_, ?_, ?_⟩
  · rw [second, first, List.append_assoc]
  · intro gone
    rw [List.filterMap_append, remarks_eq_nil plain]
    exact hushed (exited.mpr gone)
  · intro listens
    rw [List.filterMap_append, remarks_eq_nil plain, ← lastError]
    exact tells (mt exited.mp listens)

theorem before (unremarked : Unremarked turn middle) (recounts : Recounts middle next) :
    Recounts turn next :=
  ⟨unremarked.leads recounts.toAccounts,
    fun listens => recounts.listens (mt unremarked.exited.mp listens)⟩

end Unremarked

namespace Recounts

theorem refl (turn : Turn) : Recounts turn turn :=
  (Unremarked.refl turn).recounts

/-- Account after account is an account of both. -/
theorem trans (one : Recounts turn middle) (two : Recounts middle next) : Recounts turn next := by
  obtain ⟨⟨exits, earlier, first, hushed, tells⟩, listens⟩ := one
  obtain ⟨⟨exitsToo, later, second, hushedToo, tellsToo⟩, listensToo⟩ := two
  refine ⟨⟨fun gone => exitsToo (exits gone), earlier ++ later, ?_, ?_, ?_⟩,
    fun hears => listensToo (listens hears)⟩
  · rw [second, first, List.append_assoc]
  · intro gone remark member
    rw [List.filterMap_append] at member
    rcases List.mem_append.mp member with before | after
    · exact hushed gone remark before
    · exact hushedToo (exits gone) remark after
  · intro hears
    rw [List.filterMap_append]
    exact (tells hears).append (tellsToo (listens hears))

/-- What is done in one go: what is said is right, and nothing is said when nobody listens. -/
theorem of_deeds (more : List Deed) (deeds : next.deeds = turn.deeds ++ more)
    (phase : next.server.phase = turn.server.phase)
    (hushed : turn.server.phase = .exited →
      ∀ remark ∈ more.filterMap Deed.remark?, ¬ remark.IsHeard)
    (tells : turn.server.phase ≠ .exited →
      Tells turn.server.lastError (more.filterMap Deed.remark?) next.server.lastError) :
    Recounts turn next :=
  ⟨⟨phase.trans, more, deeds, hushed, tells⟩, fun hears gone => hears (phase.symm.trans gone)⟩

end Recounts

/-! ### Findings -/

/-- A failure that goes to the log is told the editor. -/
theorem report_recounts (turn : Turn) (number : Nat) (job : Job) (failure : Failure) :
    Recounts turn (turn.report number job failure) := by
  have talks := Talks.report turn number job failure
  refine .of_deeds _ (deeds_report turn number job failure) talks.phase ?_ ?_
  · intro gone
    simp [log?, gone, Deed.remark?, Remark.IsHeard]
  · intro hears
    have last : (turn.report number job failure).server.lastError = turn.server.lastError := by
      unfold report tell
      split <;> rfl
    rw [last]
    simp only [log?, if_neg hears]
    exact .logged number job failure (.nil _)

/-- A failure that is considered is shown unless it should not be. -/
theorem popUp_recounts (turn : Turn) (number : Nat) (job : Job) (failure : Failure) :
    Recounts turn (turn.popUp number job failure) := by
  have talks := (Talks.popUp turn number job failure).1
  refine .of_deeds _ (deeds_popUp turn number job failure) talks.phase ?_ ?_
  · intro gone
    simp [popup?, gone, Deed.remark?, Remark.IsHeard]
  · intro hears
    rw [lastError_popUp]
    by_cases hidden : failure.isHidden job.settings = true
    · simp only [popup?, hidden, hears, true_or, or_true, if_true]
      exact .unshown number (Or.inl hidden) (.nil _)
    · by_cases last : turn.server.lastError = some failure.message
      · simp only [popup?, last, hidden, hears, or_true, if_true]
        exact .unshown number (Or.inr rfl) (.nil _)
      · simp only [popup?, last, hidden, hears]
        exact .shown number (by simpa using hidden) last (.nil _)

/-- A lint that has come to its problems clears what was shown last. -/
theorem record_recounts (turn : Turn) (number : Nat) {finding : Finding} {stdout : Option String}
    (well : finding.output = .ok stdout) (lints : finding.job.errand.mode = .lint)
    (diagnostics : List Diagnostic) :
    Recounts turn ((turn.note (.told number finding)).record finding.job.document diagnostics) := by
  have remark : finding.remark? number = some .succeeded := by
    unfold Finding.remark?
    rw [well]
    cases errand : finding.job.errand with
    | lint others => rfl
    | format request tabSize => simp [errand, Errand.mode] at lints
  refine .trans ?_ (Unremarked.publish _ _ _ _).recounts
  refine .of_deeds [.told number finding] rfl rfl ?_ ?_
  · simp [Deed.remark?, remark, Remark.IsHeard]
  · intro hears
    simp only [List.filterMap_cons, Deed.remark?, remark, List.filterMap_nil]
    exact .succeeded (.nil none)

/-- A failure that is told is not yet heard of, and clears nothing. -/
theorem told_recounts (turn : Turn) (number : Nat) {finding : Finding} {failure : Failure}
    (failed : finding.output = .error failure) :
    Recounts turn (turn.note (.told number finding)) := by
  have remark : finding.remark? number = some (.failed number finding.job failure) := by
    simp [Finding.remark?, failed]
  refine .of_deeds [.told number finding] rfl rfl ?_ ?_
  · simp [Deed.remark?, remark, Remark.IsHeard]
  · intro hears
    simp only [List.filterMap_cons, Deed.remark?, remark, List.filterMap_nil]
    exact .failed number finding.job failure (.nil _)

/-- A finished lint is a success or a failure, and a failure that stands is logged next. -/
theorem finishLint_recounts (turn : Turn) (number : Nat) {finding : Finding}
    (lints : finding.job.errand.mode = .lint) :
    Recounts turn (turn.finishLint number finding) := by
  have cleared : Unremarked turn
      ((turn.discharge number).clearInFlight number finding.job.document.uri) :=
    (Unremarked.discharge turn number).trans (.clearInFlight _ _ _)
  unfold finishLint
  refine cleared.before ?_
  unfold tellLint
  split
  · next stdout well =>
      exact (record_recounts _ number well lints _).trans (Unremarked.pause _ _ _ _).recounts
  · next failure failed =>
      refine (told_recounts _ number failed).trans ?_
      split
      · exact ((Unremarked.forget _ _).trans (.pause _ _ _ _)).recounts
      · exact report_recounts _ number _ _

/-- A failed formatting is logged; one that is done makes no remark. -/
theorem finishFormat_recounts (turn : Turn) (number : Nat) (request : RpcId) {finding : Finding}
    (formats : finding.job.errand.mode = .format) :
    Recounts turn (turn.finishFormat number request finding) := by
  unfold finishFormat tellFormat
  refine (Unremarked.discharge turn number).before ?_
  split
  · next stdout well =>
      have remark : (Deed.told number finding).remark? = none := by
        rw [Deed.remark?, Finding.remark?, well]
        cases errand : finding.job.errand with
        | lint others => simp [errand, Errand.mode] at formats
        | format request tabSize => rfl
      exact ((Unremarked.note _ remark).trans (.reply _ request _)).recounts
  · next failure failed =>
      exact (told_recounts _ number failed).trans (report_recounts _ number _ _)

/-! ### Jobs -/

/-- A lint that is taken up is gone on with, and so are those in line behind it. -/
theorem lintAll_recounts (turn : Turn) (origin : Nat) (uris : List Uri) :
    Recounts turn (turn.lintAll origin uris) := by
  induction uris generalizing turn with
  | nil => exact .refl turn
  | cons uri others inductionHypothesis =>
      cases held : turn.server.documents.get? uri with
      | none =>
          simp only [lintAll, held]
          exact inductionHypothesis turn
      | some document =>
          rw [lintAll_cons turn origin others held]
          have begun := (beginLint_takes turn origin document others).held
          have works := proceed_works (carries_of_get? begun)
          have unremarked := (Unremarked.beginLint turn origin document others).trans
            (.proceed _ (turn.beginLint origin document others).1.1
              (turn.beginLint origin document others).1.2)
          generalize (turn.beginLint origin document others).2.proceed
            (turn.beginLint origin document others).1.1
            (turn.beginLint origin document others).1.2 = result at works unremarked
          obtain ⟨ended, - | finding⟩ := result
          · exact unremarked.recounts
          · have lints : finding.job.errand.mode = .lint := by
              rw [← (works.finding finding rfl).errand]
              rfl
            exact unremarked.before (finishLint_recounts ended _ lints)

theorem finish_recounts (turn : Turn) (number : Nat) (finding : Finding) :
    Recounts turn (turn.finish number finding) := by
  unfold finish
  split
  · next errand =>
      exact finishLint_recounts turn number (by rw [errand]; rfl)
  · next errand => exact finishFormat_recounts turn number _ (by rw [errand]; rfl)

theorem finishIfDone_recounts (number : Nat) {result : Turn × Option Finding}
    (unremarked : Unremarked turn result.1) : Recounts turn (finishIfDone number result) := by
  obtain ⟨ended, - | finding⟩ := result
  · exact unremarked.recounts
  · exact unremarked.before (finish_recounts ended number finding)

theorem format_recounts (turn : Turn) (origin : Nat) (request : RpcId) (tabSize : Nat)
    (document : Document) : Recounts turn (turn.format origin request tabSize document) := by
  have taken : Unremarked turn (turn.beginFormat origin request tabSize document).2 :=
    .still rfl rfl rfl
  exact finishIfDone_recounts _ (taken.trans (.proceed _ _ _))

/-- A lint that is dropped makes no remark, and the loop behind it goes on. -/
theorem dropLint_recounts (turn : Turn) (number : Nat) (job : Job) :
    Recounts turn (turn.dropLint number job) := by
  have dropped : Unremarked turn
      ((turn.abandon number).clearInFlight number job.document.uri) :=
    (Unremarked.abandon turn number).trans (.clearInFlight _ _ _)
  unfold dropLint
  split
  · exact dropped.before (lintAll_recounts _ _ _)
  · exact dropped.recounts

/-- News of a program ends in at most one finding of its job, and in the lints behind it. -/
theorem deliver_recounts (turn : Turn) (number : Nat) (news : News) (eager : Bool) :
    Recounts turn (turn.deliver number news eager) := by
  unfold deliver
  split
  · exact .refl turn
  · next job held =>
      have resumed := Unremarked.resume turn number job news
      split
      · exact .refl turn
      · split
        · cases eager with
          | false => exact dropLint_recounts turn number job
          | true => exact resumed.before (dropLint_recounts _ number job)
        · exact finishIfDone_recounts number resumed

/-! ### Findings that are told -/

/-- When all is told of a finding, the loop behind it goes on. -/
theorem conclude_recounts (turn : Turn) (number : Nat) (job : Job) :
    Recounts turn (turn.conclude number job) := by
  unfold conclude
  split
  · exact (Unremarked.silence turn number).before (lintAll_recounts _ _ _)
  · exact ((Unremarked.silence turn number).trans (.reply _ _ _)).recounts

/-- Who waits to go on logs, or considers what to show, or is through. -/
theorem wake_recounts (turn : Turn) (number : Nat) (eager : Bool) :
    Recounts turn (turn.wake number eager) := by
  unfold wake
  split
  · unfold tellOn
    split
    · exact conclude_recounts turn number _
    · exact report_recounts turn number _ _
    · exact (popUp_recounts turn number _ _).trans (conclude_recounts _ number _)
  · exact deliver_recounts turn number _ eager

/-! ### Messages -/

/-- Of the notifications only pushed settings forget the last error by themselves. -/
theorem heed_recounts (turn : Turn) (origin : Nat) (notification : Notification)
    (plain : ∀ value, notification ≠ .configured value) :
    Recounts turn (turn.heed origin notification) := by
  cases notification with
  | initialized => exact (Unremarked.tell turn rfl).recounts
  | opened document => exact (Unremarked.keep turn document).before (lintAll_recounts _ _ _)
  | changed change =>
      simp only [heed, heedChanged]
      split
      · exact (Unremarked.keep turn _).before (lintAll_recounts _ _ _)
      · exact .refl turn
  | saved uri text =>
      simp only [heed, heedSaved]
      split
      · exact (Unremarked.keep turn _).before (lintAll_recounts _ _ _)
      · exact lintAll_recounts _ _ _
  | closed uri => exact (Unremarked.heedClosed turn uri).recounts
  | configured value => exact absurd rfl (plain value)
  | foldersChanged change =>
      have changed : Unremarked turn (turn.heedFolders change) := .still rfl rfl rfl
      exact changed.recounts
  | useless => exact .refl turn

theorem refuse_recounts (turn : Turn) (id : Option RpcId) (error : RpcError) :
    Recounts turn (turn.refuse id error) :=
  (Unremarked.refuse turn id error).recounts

theorem request_recounts (id : Option RpcId) {handle : RpcId → Turn}
    (handled : ∀ request, Recounts turn (handle request)) :
    Recounts turn (turn.request id handle) := by
  unfold request
  split
  · exact .refl turn
  · split
    · exact refuse_recounts turn _ _
    · exact handled _

theorem guarded_recounts (id : Option RpcId) {handle : RpcId → Turn}
    (handled : ∀ request, Recounts turn (handle request)) :
    Recounts turn (turn.guarded id handle) := by
  unfold guarded
  split
  · exact refuse_recounts turn _ _
  · exact request_recounts id handled

theorem receiveBeginning_recounts (turn : Turn) (message : Message) :
    Recounts turn (turn.receiveBeginning message) := by
  unfold receiveBeginning
  split
  · next fresh =>
      refine request_recounts _ fun request => ?_
      split
      · exact (Unremarked.beginServing request _ fresh).recounts
      · exact refuse_recounts turn _ _
  · exact refuse_recounts turn _ _

theorem receiveShutdown_recounts (turn : Turn) (message : Message) :
    Recounts turn (turn.receiveShutdown message) := by
  unfold receiveShutdown
  split
  · exact refuse_recounts turn _ _
  · next serves =>
      have closing : Unremarked turn
          (turn.update fun server => { server with phase := .closing }) :=
        ⟨.none rfl, by simp [update, ready_of_refusal? serves], rfl⟩
      refine closing.before (request_recounts _ fun request => ?_)
      split
      · exact refuse_recounts _ _ _
      · exact (Unremarked.shutDown _ request).recounts

theorem receiveCancel_recounts (turn : Turn) (message : Message) :
    Recounts turn (turn.receiveCancel message) := by
  unfold receiveCancel
  split
  · exact refuse_recounts turn _ _
  · exact (Unremarked.cancelRequests turn _).recounts
  · exact .refl turn

theorem receiveFormatting_recounts (turn : Turn) (origin : Nat) (message : Message) :
    Recounts turn (turn.receiveFormatting origin message) := by
  refine guarded_recounts _ fun request => ?_
  split
  · unfold answerFormatting
    split
    · exact (Unremarked.reply turn request _).recounts
    · exact format_recounts turn origin request _ _
  · exact refuse_recounts turn _ _

theorem receiveNotification_recounts (turn : Turn) (origin : Nat) {message : Message}
    {read : Json → Option Notification} (reads : Notification.reader? message.method = some read)
    (unpushed : (Event.received (.message message)).configuration? = none) :
    Recounts turn (turn.receiveNotification origin message read) := by
  unfold receiveNotification
  split
  · exact refuse_recounts turn _ _
  · exact refuse_recounts turn _ _
  · next told =>
      split
      · next notification given =>
          refine heed_recounts turn origin notification fun value same => ?_
          rw [same] at given
          have pushed := configuration?_of_reader? reads given told
          rw [unpushed] at pushed
          cases pushed
      · exact .refl turn

theorem receiveUnoffered_recounts (turn : Turn) (message : Message)
    (needs : List Unoffered.Need) : Recounts turn (turn.receiveUnoffered message needs) := by
  refine guarded_recounts _ fun request => ?_
  split
  · exact refuse_recounts turn _ _
  · exact refuse_recounts turn _ _

theorem receiveUnknown_recounts (turn : Turn) (message : Message) :
    Recounts turn (turn.receiveUnknown message) := by
  unfold receiveUnknown
  split
  · exact .refl turn
  · exact refuse_recounts turn _ _

/-- When the server exits, nothing is said about errors. -/
theorem receiveExit_accounts (turn : Turn) : Accounts turn turn.receiveExit := by
  obtain ⟨⟨more, same, plain⟩, exited, lastError⟩ := Unremarked.cancelRequests
    (turn.update fun server => { server with phase := .exited }) fun _ => true
  refine ⟨fun _ => exited.mpr rfl, more, same, ?_, ?_⟩
  · simp [remarks_eq_nil plain]
  · intro _
    rw [remarks_eq_nil plain]
    exact lastError ▸ .nil _

/-- A message that pushes no settings accounts for all that it brings about. -/
theorem receiveMessage_accounts (turn : Turn) {message : Message}
    (unpushed : (Event.received (.message message)).configuration? = none) :
    Accounts turn (turn.receiveMessage message) := by
  have counted : Unremarked turn
      (turn.update fun server => { server with messages := server.messages + 1 }) :=
    .still rfl rfl rfl
  refine counted.leads ?_
  unfold receiveMessage
  simp only
  split
  · exact (receiveBeginning_recounts _ _).toAccounts
  · exact (receiveShutdown_recounts _ _).toAccounts
  · exact receiveExit_accounts _
  · exact (receiveCancel_recounts _ _).toAccounts
  · exact (receiveFormatting_recounts _ _ _).toAccounts
  · split
    · next reads => exact (receiveNotification_recounts _ _ reads unpushed).toAccounts
    · exact (receiveUnoffered_recounts _ _ _).toAccounts
    · exact (receiveUnknown_recounts _ _).toAccounts

/-- An answer goes on with a job or is a choice of the user. -/
theorem receiveAnswer_recounts (turn : Turn) (id : RpcId) (result : Option Json) (eager : Bool) :
    Recounts turn (turn.receiveAnswer id result eager) := by
  unfold receiveAnswer
  split
  · next question =>
      simp only
      split
      · exact .refl turn
      · have erased : Unremarked turn (turn.update fun server =>
            { server with askers := server.askers.erase question.toNat }) := .still rfl rfl rfl
        refine erased.before ?_
        split
        · exact deliver_recounts _ _ _ _
        · split
          · exact (Unremarked.choose _ _ _ _).recounts
          · exact .refl _
  · exact .refl turn

/-- Whatever happens, the remarks are as they should be, as long as no settings are pushed. -/
theorem step_accounts (turn : Turn) {event : Event} (eager : Bool)
    (unpushed : event.configuration? = none) : Accounts turn (turn.step event eager) := by
  cases event with
  | received incoming =>
      cases incoming with
      | message message =>
          simp only [step, receive]
          split
          · exact (Recounts.refl turn).toAccounts
          · exact receiveMessage_accounts turn unpushed
      | answer id result => exact (receiveAnswer_recounts turn id result eager).toAccounts
  | ended number result => exact (deliver_recounts turn number _ eager).toAccounts
  | removed number result => exact (deliver_recounts turn number _ eager).toAccounts
  | woken number => exact (wake_recounts turn number eager).toAccounts

/-- Settings that are refused are only counted. -/
theorem step_refused (turn : Turn) {event : Event} {value : Json} (eager : Bool)
    (pushed : event.configuration? = some value)
    (refused : turn.server.phase = .ready → pushed? turn.server.client value = none) :
    Unremarked turn (turn.step event eager) := by
  rw [step_configuration eager pushed]
  split
  · exact .refl turn
  · split
    · next ready =>
        rw [heedConfigured]
        simp only [update]
        rw [refused ready]
        exact .still rfl rfl rfl
    · exact .still rfl rfl rfl

end Turn

end TemplateLint
