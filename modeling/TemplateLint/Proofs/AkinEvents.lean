import TemplateLint.Proofs.AkinWork
import TemplateLint.Proofs.Strides

/-!
# Events at servers that differ in choices

The end of a job and all that an editor tells and requests takes akin turns to akin turns.  Only an
answer about a choice goes to one server alone: then nothing is done but what has to do with popups
and choices.
Main exports: `Turn.Akin.lintAll`, `Turn.Akin.deliver`, `Turn.Akin.wake`,
`Turn.Akin.receiveMessage`, `Server.asked?`, `Event.Matches`, `Event.IsAside`, `Turn.Akin.step`,
`Turn.step_aside`, `Server.Akin.told`.
-/

namespace TemplateLint

namespace Turn.Akin

variable {turn other : Turn} {number : Nat} {job twin : Job} {finding again : Finding}

/-! ## Lints -/

/-- What was shown last may differ, and is forgotten on both sides. -/
theorem forgetError (akin : turn.Akin other) :
    (turn.update fun server => { server with lastError := none }).Akin
      (other.update fun server => { server with lastError := none }) :=
  akin.aside (.of_unasked _ _ _ _) (.of_unasked _ _ _ _) akin.disk

/-- The same lint is superseded on both sides: it is in flight under the same number. -/
theorem supersede (akin : turn.Akin other) (uri : Uri) :
    (turn.supersede uri).Akin (other.supersede uri) := by
  unfold Turn.supersede
  rw [akin.inFlight]
  split
  · exact akin
  · next number _ =>
      have cleared : (turn.update fun server =>
            { server with inFlight := server.inFlight.erase uri }).Akin
          (other.update fun server => { server with inFlight := server.inFlight.erase uri }) :=
        akin.update fun _ _ _ _ _ _ _ => rfl
      exact cleared.jobs fun _ _ related => related.modify number fun _ _ same =>
        same.with_superseded

theorem clearInFlight (akin : turn.Akin other) (number : Nat) (uri : Uri) :
    (turn.clearInFlight number uri).Akin (other.clearInFlight number uri) := by
  unfold Turn.clearInFlight
  rw [akin.inFlight]
  split
  · exact akin.update fun _ _ _ _ _ _ _ => rfl
  · exact akin

/-- A job that is taken up gets the same number. -/
theorem takeUp (akin : turn.Akin other) (job : Job) :
    (other.takeUp job).1 = (turn.takeUp job).1 ∧
      (turn.takeUp job).2.Akin (other.takeUp job).2 := by
  have counted : (turn.update fun server =>
        { server with nextJob := turn.server.nextJob + 1 }).Akin
      (other.update fun server => { server with nextJob := turn.server.nextJob + 1 }) :=
    akin.update fun _ _ _ _ _ _ _ => rfl
  unfold Turn.takeUp
  rw [akin.nextJob]
  exact ⟨rfl, counted.jobs fun _ _ related => related.put _ (.refl job)⟩

theorem record (akin : turn.Akin other) (document : Document) (diagnostics : List Diagnostic) :
    (turn.record document diagnostics).Akin (other.record document diagnostics) := by
  have recorded : (turn.update fun server =>
        { server with diagnostics := server.diagnostics.put document.uri diagnostics }).Akin
      (other.update fun server =>
        { server with diagnostics := server.diagnostics.put document.uri diagnostics }) :=
    akin.update fun _ _ _ _ _ _ _ => rfl
  exact recorded.forgetError.publish document.uri diagnostics document.version

theorem forget (akin : turn.Akin other) (document : Document) :
    (turn.forget document).Akin (other.forget document) := by
  have forgotten : (turn.update fun server =>
        { server with diagnostics := server.diagnostics.erase document.uri }).Akin
      (other.update fun server =>
        { server with diagnostics := server.diagnostics.erase document.uri }) :=
    akin.update fun _ _ _ _ _ _ _ => rfl
  exact forgotten.publish document.uri [] document.version

/-- Akin findings of a lint are told by the same diagnostics or logged alike. -/
theorem tellLint (akin : turn.Akin other) (same : finding.Akin again) :
    (turn.tellLint number finding).Akin (other.tellLint number again) := by
  have document : again.job.document = finding.job.document := same.job.document_eq
  unfold Turn.tellLint
  rw [same.output, document]
  split
  · rw [same.job.diagnostics_eq]
    exact (akin.record _ _).pause same.job _
  · split
    · exact (akin.forget _).pause same.job _
    · exact akin.report same.job _

theorem finishLint (akin : turn.Akin other) (same : finding.Akin again) :
    (turn.finishLint number finding).Akin (other.finishLint number again) := by
  have discharged := (akin.discharge number).clearInFlight number finding.job.document.uri
  unfold Turn.finishLint
  simp only [same.job.document_eq]
  exact (discharged.note (same.outline?_eq number)).tellLint same

/-- A lint that is taken up is the same job. -/
theorem beginLint (akin : turn.Akin other) (origin : Nat) (document : Document)
    (others : List Uri) :
    (other.beginLint origin document others).1 = (turn.beginLint origin document others).1 ∧
      (turn.beginLint origin document others).2.Akin
        (other.beginLint origin document others).2 := by
  have superseded := akin.supersede document.uri
  unfold Turn.beginLint
  simp only
  rw [superseded.folders]
  obtain ⟨number, taken⟩ := superseded.takeUp
    { origin
      errand := .lint others
      document
      folder := document.folderIn? (turn.supersede document.uri).server.folders
      settings := .empty
      wait := .editor
      superseded := false }
  rw [number]
  exact ⟨rfl, (taken.update fun _ _ _ _ _ _ _ => rfl).note rfl⟩

theorem lintRest {result further : Turn × Option Finding} (results : AkinResults result further)
    (number : Nat) : (Turn.lintRest number result).Akin (Turn.lintRest number further) := by
  obtain ⟨ended, found⟩ := result
  obtain ⟨closed, discovered⟩ := further
  obtain ⟨akin, same⟩ := results
  cases same with
  | none => exact akin
  | some same => exact akin.finishLint same

/-- The loop over the open documents takes the same course: nothing of it looks at what is hidden.
-/
theorem lintAll (akin : turn.Akin other) (origin : Nat) (uris : List Uri) :
    (turn.lintAll origin uris).Akin (other.lintAll origin uris) := by
  induction uris generalizing turn other with
  | nil => exact akin
  | cons uri others inductionHypothesis =>
      cases held : turn.server.documents.get? uri with
      | none =>
          have again : other.server.documents.get? uri = none := akin.documents ▸ held
          simp only [Turn.lintAll, held, again]
          exact inductionHypothesis akin
      | some document =>
          have again : other.server.documents.get? uri = some document := akin.documents ▸ held
          rw [lintAll_cons turn origin others held, lintAll_cons other origin others again]
          obtain ⟨begun, later⟩ := akin.beginLint origin document others
          rw [begun]
          exact lintRest (later.proceed _ (.refl _)) _

/-! ## Formatting -/

theorem tellFormat (akin : turn.Akin other) (request : RpcId) (same : finding.Akin again) :
    (turn.tellFormat number request finding).Akin (other.tellFormat number request again) := by
  unfold Turn.tellFormat
  rw [same.output]
  split
  · rw [same.job.edits_eq]
    exact akin.reply _ _
  · exact akin.report same.job _

theorem finishFormat (akin : turn.Akin other) (request : RpcId) (same : finding.Akin again) :
    (turn.finishFormat number request finding).Akin (other.finishFormat number request again) :=
  ((akin.discharge number).note (same.outline?_eq number)).tellFormat request same

/-! ## Jobs in general -/

theorem finish (akin : turn.Akin other) (same : finding.Akin again) :
    (turn.finish number finding).Akin (other.finish number again) := by
  unfold Turn.finish
  rw [same.job.errand_eq]
  split
  · exact akin.finishLint same
  · exact akin.finishFormat _ same

theorem finishIfDone {result further : Turn × Option Finding}
    (results : AkinResults result further) :
    (Turn.finishIfDone number result).Akin (Turn.finishIfDone number further) := by
  obtain ⟨ended, found⟩ := result
  obtain ⟨closed, discovered⟩ := further
  obtain ⟨akin, same⟩ := results
  cases same with
  | none => exact akin
  | some same => exact akin.finish same

theorem format (akin : turn.Akin other) (origin : Nat) (request : RpcId) (tabSize : Nat)
    (document : Document) :
    (turn.format origin request tabSize document).Akin
      (other.format origin request tabSize document) := by
  unfold Turn.format Turn.beginFormat
  simp only
  rw [akin.folders]
  obtain ⟨number, taken⟩ := akin.takeUp
    { origin
      errand := .format request tabSize
      document
      folder := document.folderIn? turn.server.folders
      settings := .empty
      wait := .editor
      superseded := false }
  rw [number]
  exact finishIfDone (taken.proceed _ (.refl _))

theorem dropLint (akin : turn.Akin other) (same : job.Akin twin) :
    (turn.dropLint number job).Akin (other.dropLint number twin) := by
  have dropped := (akin.abandon number).clearInFlight number job.document.uri
  unfold Turn.dropLint
  rw [same.document_eq, same.errand_eq, same.origin_eq]
  simp only
  split
  · exact dropped.lintAll _ _
  · exact dropped

/-- News of a program means the same to akin jobs. -/
theorem deliver (akin : turn.Akin other) (number : Nat) (news : News) (eager : Bool) :
    (turn.deliver number news eager).Akin (other.deliver number news eager) := by
  unfold Turn.deliver
  obtain ⟨here, there⟩ | ⟨job, twin, here, there, same⟩ := akin.server.jobs.get?_cases number
  · rw [here, there]
    exact akin
  · rw [here, there]
    simp only
    rw [akin.heeds_eq same, same.superseded_eq]
    have resumed := akin.resume number same news
    split
    · exact akin
    · split
      · cases eager with
        | false => exact akin.dropLint same
        | true => exact resumed.turn.dropLint same
      · exact finishIfDone resumed

/-! ## Telling -/

/-- When all is told, what waits behind the job comes next. -/
theorem conclude (akin : turn.Akin other) (number : Nat) (same : job.Akin twin) :
    (turn.conclude number job).Akin (other.conclude number twin) := by
  unfold Turn.conclude
  rw [same.errand_eq, same.origin_eq]
  split
  · exact (akin.silence number).lintAll _ _
  · exact (akin.silence number).reply _ _

/-- What remains to be told is the same, and only the popup at its end may differ. -/
theorem tellOn (akin : turn.Akin other) (number : Nat) {telling told : Telling}
    (same : telling.Akin told) : (turn.tellOn number telling).Akin (other.tellOn number told) := by
  unfold Turn.tellOn
  rw [same.rest]
  split
  · exact akin.conclude number same.job
  · exact akin.report same.job _
  · exact (akin.popUp same.job _).conclude number same.job

/-- Whoever waits to go on does so on both sides. -/
theorem wake (akin : turn.Akin other) (number : Nat) (eager : Bool) :
    (turn.wake number eager).Akin (other.wake number eager) := by
  have delivered := akin.deliver number .wake eager
  unfold Turn.wake
  obtain ⟨here, there⟩ | ⟨job, twin, here, there, -⟩ := akin.server.jobs.get?_cases number
  · rw [here, there]
    obtain ⟨one, two⟩ | ⟨telling, told, one, two, same⟩ := akin.server.tellings.get?_cases number
    · rw [one, two]
      exact delivered
    · rw [one, two]
      exact akin.tellOn number same
  · rw [here, there]
    exact delivered

/-! ## Cancelled requests -/

theorem cancelJob (akin : turn.Akin other) (number : Nat) (request : RpcId) :
    (turn.cancelJob number request).Akin (other.cancelJob number request) :=
  (akin.abandon number).reply _ _

theorem cancelTelling (akin : turn.Akin other) (number : Nat) (request : RpcId) :
    (turn.cancelTelling number request).Akin (other.cancelTelling number request) :=
  (akin.silence number).reply _ _

/-- The same requests of some jobs are cancelled. -/
theorem cancelEach (akin : turn.Akin other) {cancel : Turn → Nat → RpcId → Turn}
    (cancels : ∀ {turn other : Turn}, turn.Akin other → ∀ number request,
      (cancel turn number request).Akin (cancel other number request))
    (meant : RpcId → Bool) {pairs twins : List (Nat × Job)}
    (related : Table.PairsRel Job.Akin pairs twins) :
    (turn.cancelEach cancel meant pairs).Akin (other.cancelEach cancel meant twins) := by
  unfold Turn.cancelEach
  induction related generalizing turn other with
  | nil => exact akin
  | @cons pair twin rest others own later inductionHypothesis =>
      refine inductionHypothesis ?_
      dsimp only
      rw [own.1, own.2.errand_eq]
      split
      · split
        · exact cancels akin _ _
        · exact akin
      · exact akin

/-- The same jobs tell something. -/
theorem tellers (akin : turn.Akin other) :
    Table.PairsRel Job.Akin turn.server.tellers other.server.tellers := by
  have related := akin.server.tellings
  unfold Table.Rel at related
  unfold Server.tellers
  exact List.rel_map (fun _ _ own => ⟨own.1, own.2.job⟩) related

/-- The same requests are pending, and the same are cancelled. -/
theorem cancelRequests (akin : turn.Akin other) (meant : RpcId → Bool) :
    (turn.cancelRequests meant).Akin (other.cancelRequests meant) := by
  have cancelled := akin.cancelEach (fun akin => akin.cancelJob) meant akin.server.jobs
  exact cancelled.cancelEach (fun akin => akin.cancelTelling) meant cancelled.tellers

/-! ## Notifications -/

theorem keep (akin : turn.Akin other) (document : Document) :
    (turn.keep document).Akin (other.keep document) := by
  have kept : (turn.update fun server =>
        { server with documents := server.documents.put document.uri document }).Akin
      (other.update fun server =>
        { server with documents := server.documents.put document.uri document }) :=
    akin.update fun _ _ _ _ _ _ _ => rfl
  exact kept.note rfl

theorem heedChanged (akin : turn.Akin other) (origin : Nat) (change : Params.Changed) :
    (turn.heedChanged origin change).Akin (other.heedChanged origin change) := by
  unfold Turn.heedChanged
  rw [akin.documents]
  split
  · exact (akin.keep _).lintAll _ _
  · exact akin

theorem heedSaved (akin : turn.Akin other) (origin : Nat) (uri : Uri) (text : Option String) :
    (turn.heedSaved origin uri text).Akin (other.heedSaved origin uri text) := by
  unfold Turn.heedSaved
  rw [akin.documents]
  refine lintAll ?_ _ _
  split
  · exact akin.keep _
  · exact akin

theorem heedClosed (akin : turn.Akin other) (uri : Uri) :
    (turn.heedClosed uri).Akin (other.heedClosed uri) := by
  have forgotten : ((turn.supersede uri).update fun server =>
        { server with
          documents := server.documents.erase uri
          diagnostics := server.diagnostics.erase uri }).Akin
      ((other.supersede uri).update fun server =>
        { server with
          documents := server.documents.erase uri
          diagnostics := server.diagnostics.erase uri }) :=
    (akin.supersede uri).update fun _ _ _ _ _ _ _ => rfl
  exact (forgotten.note rfl).publish uri [] none

/-- Settings that are pushed are the same for both; the choice comes over them. -/
theorem heedConfigured (akin : turn.Akin other) (origin : Nat) (value : Json) :
    (turn.heedConfigured origin value).Akin (other.heedConfigured origin value) := by
  unfold Turn.heedConfigured
  rw [akin.client]
  split
  · exact akin
  · next client _ =>
      have configured : (turn.update fun server => { server with client }).Akin
          (other.update fun server => { server with client }) :=
        akin.update fun _ _ _ _ _ _ _ => rfl
      have keys : other.server.documents.keys = turn.server.documents.keys := by
        rw [akin.documents]
      have linted := configured.forgetError.lintAll origin turn.server.documents.keys
      nth_rewrite 2 [← keys] at linted
      exact linted

theorem heedFolders (akin : turn.Akin other) (change : Params.Folders) :
    (turn.heedFolders change).Akin (other.heedFolders change) := by
  unfold Turn.heedFolders
  exact akin.update fun _ _ _ _ _ _ _ => rfl

theorem heed (akin : turn.Akin other) (origin : Nat) (notification : Notification) :
    (turn.heed origin notification).Akin (other.heed origin notification) := by
  cases notification with
  | initialized => exact akin.tell _
  | opened document => exact (akin.keep document).lintAll _ _
  | changed change => exact akin.heedChanged origin change
  | saved uri text => exact akin.heedSaved origin uri text
  | closed uri => exact akin.heedClosed uri
  | configured value => exact akin.heedConfigured origin value
  | foldersChanged change => exact akin.heedFolders change
  | useless => exact akin

/-! ## Requests -/

theorem settingsFile?_eq (akin : turn.Akin other) : other.settingsFile? = turn.settingsFile? := by
  have found : Settings.discover? other.disk = Settings.discover? turn.disk := by
    funext start
    rw [Settings.discover?, Settings.discover?, akin.disk.isFile_eq]
  rw [Turn.settingsFile?, Turn.settingsFile?, akin.configFile, akin.folders, found]

/-- The settings file is the same for both as long as it reads the same on both disks. -/
theorem loadSettings (akin : turn.Akin other)
    (files : ∀ file, Settings.load other.disk file = Settings.load turn.disk file) :
    turn.loadSettings.Akin other.loadSettings := by
  unfold Turn.loadSettings
  rw [akin.settingsFile?_eq]
  split
  · exact akin
  · rw [files]
    split
    · exact akin.update fun _ _ _ _ _ _ _ => rfl
    · exact akin.tell _

/-- Both begin to serve with the same settings, folders and questions. -/
theorem beginServing (akin : turn.Akin other) (id : RpcId) (params : Params.Beginning)
    (files : ∀ file, Settings.load other.disk file = Settings.load turn.disk file) :
    (turn.beginServing id params).Akin (other.beginServing id params) := by
  have told : (turn.update fun server =>
        { server with
          asksSettings := params.configuration
          folders := initialFolders params
          client := (params.options.bind Settings.ofJson?).getD server.client }).Akin
      (other.update fun server =>
        { server with
          asksSettings := params.configuration
          folders := initialFolders params
          client := (params.options.bind Settings.ofJson?).getD server.client }) :=
    akin.update fun _ _ _ _ _ _ _ => rfl
  unfold Turn.beginServing
  exact ((told.loadSettings files).update fun _ _ _ _ _ _ _ => rfl).reply _ _

theorem supersedeAll (akin : turn.Akin other) (uris : List Uri) :
    (uris.foldl Turn.supersede turn).Akin (uris.foldl Turn.supersede other) := by
  induction uris generalizing turn other with
  | nil => exact akin
  | cons uri others inductionHypothesis => exact inductionHypothesis (akin.supersede uri)

theorem shutDown (akin : turn.Akin other) (id : RpcId) :
    (turn.shutDown id).Akin (other.shutDown id) := by
  have forgotten : ((turn.server.inFlight.keys.foldl Turn.supersede turn).update fun server =>
        { server with isolated := { server.isolated with initialized := false } }).Akin
      ((turn.server.inFlight.keys.foldl Turn.supersede other).update fun server =>
        { server with isolated := { server.isolated with initialized := false } }) :=
    (akin.supersedeAll _).update fun _ _ _ _ _ _ _ => rfl
  unfold Turn.shutDown
  rw [akin.inFlight]
  exact (forgotten.note rfl).reply _ _

theorem answerFormatting (akin : turn.Akin other) (origin : Nat) (id : RpcId) (uri : Uri)
    (tabSize : Nat) :
    (turn.answerFormatting origin id uri tabSize).Akin
      (other.answerFormatting origin id uri tabSize) := by
  unfold Turn.answerFormatting
  rw [akin.documents]
  split
  · exact akin.reply _ _
  · exact akin.format _ _ _ _

/-! ## Messages -/

/-- A request is pending for both or for neither. -/
theorem isPending_eq (akin : turn.Akin other) (request : RpcId) :
    other.server.isPending request = turn.server.isPending request := by
  have related : Table.PairsRel Job.Akin (turn.server.jobs.pairs ++ turn.server.tellers)
      (other.server.jobs.pairs ++ other.server.tellers) :=
    List.rel_append akin.server.jobs akin.tellers
  unfold Server.isPending
  generalize turn.server.jobs.pairs ++ turn.server.tellers = pairs at related
  generalize other.server.jobs.pairs ++ other.server.tellers = twins at related
  induction related with
  | nil => rfl
  | cons own later inductionHypothesis =>
      rw [List.any_cons, List.any_cons, inductionHypothesis, own.2.errand_eq]

theorem refuse (akin : turn.Akin other) (id : Option RpcId) (error : RpcError) :
    (turn.refuse id error).Akin (other.refuse id error) := by
  unfold Turn.refuse
  split
  · exact akin.reply _ _
  · exact akin

/-- A request whose number is still pending is refused by both; one without a number is passed over.
-/
theorem request (akin : turn.Akin other) (id : Option RpcId) {handle again : RpcId → Turn}
    (handled : ∀ request, (handle request).Akin (again request)) :
    (turn.request id handle).Akin (other.request id again) := by
  unfold Turn.request
  split
  · exact akin
  · rw [akin.isPending_eq]
    split
    · exact akin.refuse _ _
    · exact handled _

/-- The phase decides whether a request is served, and it is the same. -/
theorem guarded (akin : turn.Akin other) (id : Option RpcId) {handle again : RpcId → Turn}
    (handled : ∀ request, (handle request).Akin (again request)) :
    (turn.guarded id handle).Akin (other.guarded id again) := by
  unfold Turn.guarded
  rw [akin.phase]
  split
  · exact akin.refuse _ _
  · exact akin.request _ handled

theorem receiveBeginning (akin : turn.Akin other) (message : Message)
    (files : ∀ file, Settings.load other.disk file = Settings.load turn.disk file) :
    (turn.receiveBeginning message).Akin (other.receiveBeginning message) := by
  unfold Turn.receiveBeginning
  rw [akin.phase]
  split
  · refine akin.request _ fun id => ?_
    split
    · exact akin.beginServing _ _ files
    · exact akin.refuse _ _
  · exact akin.refuse _ _

theorem receiveShutdown (akin : turn.Akin other) (message : Message) :
    (turn.receiveShutdown message).Akin (other.receiveShutdown message) := by
  have closing : (turn.update fun server => { server with phase := .closing }).Akin
      (other.update fun server => { server with phase := .closing }) :=
    akin.update fun _ _ _ _ _ _ _ => rfl
  unfold Turn.receiveShutdown
  rw [akin.phase]
  split
  · exact akin.refuse _ _
  · refine closing.request _ fun id => ?_
    split
    · exact closing.refuse _ _
    · exact closing.shutDown _

theorem receiveExit (akin : turn.Akin other) : turn.receiveExit.Akin other.receiveExit := by
  have exited : (turn.update fun server => { server with phase := .exited }).Akin
      (other.update fun server => { server with phase := .exited }) :=
    akin.update fun _ _ _ _ _ _ _ => rfl
  exact exited.cancelRequests _

theorem receiveCancel (akin : turn.Akin other) (message : Message) :
    (turn.receiveCancel message).Akin (other.receiveCancel message) := by
  unfold Turn.receiveCancel
  split
  · exact akin.refuse _ _
  · exact akin.cancelRequests _
  · exact akin

theorem receiveFormatting (akin : turn.Akin other) (origin : Nat) (message : Message) :
    (turn.receiveFormatting origin message).Akin (other.receiveFormatting origin message) := by
  unfold Turn.receiveFormatting
  refine akin.guarded _ fun id => ?_
  split
  · exact akin.answerFormatting _ _ _ _
  · exact akin.refuse _ _

theorem receiveNotification (akin : turn.Akin other) (origin : Nat) (message : Message)
    (read : Json → Option Notification) :
    (turn.receiveNotification origin message read).Akin
      (other.receiveNotification origin message read) := by
  unfold Turn.receiveNotification
  rw [akin.phase]
  split
  · exact akin.refuse _ _
  · exact akin.refuse _ _
  · split
    · exact akin.heed _ _
    · exact akin

theorem receiveUnoffered (akin : turn.Akin other) (message : Message)
    (needs : List Unoffered.Need) :
    (turn.receiveUnoffered message needs).Akin (other.receiveUnoffered message needs) := by
  unfold Turn.receiveUnoffered
  refine akin.guarded _ fun id => ?_
  split
  · exact akin.refuse _ _
  · exact akin.refuse _ _

theorem receiveUnknown (akin : turn.Akin other) (message : Message) :
    (turn.receiveUnknown message).Akin (other.receiveUnknown message) := by
  unfold Turn.receiveUnknown
  split
  · exact akin
  · exact akin.refuse _ _

/-- A message is taken the same way by both, whatever its method is. -/
theorem receiveMessage (akin : turn.Akin other) (message : Message)
    (files : ∀ file, Settings.load other.disk file = Settings.load turn.disk file) :
    (turn.receiveMessage message).Akin (other.receiveMessage message) := by
  have counted : (turn.update fun server =>
        { server with messages := turn.server.messages + 1 }).Akin
      (other.update fun server => { server with messages := turn.server.messages + 1 }) :=
    akin.update fun _ _ _ _ _ _ _ => rfl
  unfold Turn.receiveMessage
  rw [akin.messages]
  simp only
  split
  · exact counted.receiveBeginning _ files
  · exact counted.receiveShutdown _
  · exact counted.receiveExit
  · exact counted.receiveCancel _
  · exact counted.receiveFormatting _ _
  · split
    · exact counted.receiveNotification _ _ _
    · exact counted.receiveUnoffered _ _
    · exact counted.receiveUnknown _

end Turn.Akin

/-! ## Answers -/

/-- The job that waits for the answer with an identity. -/
def Server.asked? (server : Server) : RpcId → Option Nat
  | .number value => (server.askers.get? value.toNat).bind Asker.job?
  | _ => none

namespace Turn

variable {turn other : Turn}

/-- An answer that no job waits for has to do with popups and choices, or with nothing. -/
theorem receiveAnswer_aside {id : RpcId} (unasked : turn.server.asked? id = none)
    (result : Option Json) (eager : Bool) : Aside turn (turn.receiveAnswer id result eager) := by
  unfold receiveAnswer
  split
  · next value =>
      simp only
      split
      · exact .refl turn
      · next asker held =>
          cases asker with
          | job number => simp [Server.asked?, held, Asker.job?] at unasked
          | popup details folder =>
              have answered : Aside turn
                  (turn.update fun server => server.answered value.toNat) :=
                ⟨.answered held, rfl⟩
              simp only
              split
              · exact answered.trans (.choose _ _ _ _)
              · exact answered
  · exact .refl turn

/-- The answers to a job are the same under whatever numbers it has asked. -/
theorem Akin.receiveAnswer (akin : turn.Akin other) {id twin : RpcId} {number : Nat}
    (here : turn.server.asked? id = some number) (there : other.server.asked? twin = some number)
    (result : Option Json) (eager : Bool) :
    (turn.receiveAnswer id result eager).Akin (other.receiveAnswer twin result eager) := by
  have asks {server : Server} {id : RpcId} (asked : server.asked? id = some number) :
      ∃ value, id = .number value ∧ server.askers.get? value.toNat = some (.job number) := by
    cases id with
    | number value =>
        obtain ⟨asker, held, goes⟩ := Option.bind_eq_some_iff.mp asked
        cases asker with
        | job name =>
            cases goes
            exact ⟨value, rfl, held⟩
        | popup details folder => cases goes
    | _ => cases asked
  obtain ⟨value, rfl, held⟩ := asks here
  obtain ⟨worth, rfl, again⟩ := asks there
  have answered : (turn.update fun server => server.answered value.toNat).Akin
      (other.update fun server => server.answered worth.toNat) :=
    ⟨akin.server.answered held again, akin.disk, akin.outline⟩
  unfold Turn.receiveAnswer
  simp only [held, again]
  exact answered.deliver number _ eager

end Turn

/-- Two servers are told the same: the same event, or the same answer to a job, under whatever
numbers it has asked. -/
inductive Event.Matches (one two : Server) : Event → Event → Prop where
  | message (message : Message) :
      Matches one two (.received (.message message)) (.received (.message message))
  | answer (id twin : RpcId) (number : Nat) (result : Option Json)
      (here : one.asked? id = some number) (there : two.asked? twin = some number) :
      Matches one two (.received (.answer id result)) (.received (.answer twin result))
  | ended (number : Nat) (result : CommandResult) :
      Matches one two (.ended number result) (.ended number result)
  | removed (number : Nat) (result : Except IoError Unit) :
      Matches one two (.removed number result) (.removed number result)
  | woken (number : Nat) : Matches one two (.woken number) (.woken number)

/-- A server is told what no job waits for: a choice of the user, or nothing at all. -/
inductive Event.IsAside (server : Server) : Event → Prop where
  | answer (id : RpcId) (result : Option Json) (unasked : server.asked? id = none) :
      IsAside server (.received (.answer id result))

namespace Turn

variable {turn other : Turn} {event twin : Event}

/-- Servers that are told the same do the same. -/
theorem Akin.step (akin : turn.Akin other) (told : event.Matches turn.server other.server twin)
    (files : ∀ file, Settings.load other.disk file = Settings.load turn.disk file)
    (eager : Bool) : (turn.step event eager).Akin (other.step twin eager) := by
  cases told with
  | message message =>
      unfold Turn.step receive
      simp only
      rw [akin.phase]
      split
      · exact akin
      · exact akin.receiveMessage message files
  | answer id twin number result here there => exact akin.receiveAnswer here there result eager
  | ended number result => exact akin.deliver _ _ _
  | removed number result => exact akin.deliver _ _ _
  | woken number => exact akin.wake _ _

/-- What an event aside does, an answer to a popup, is itself aside. -/
theorem step_aside (told : event.IsAside turn.server) (eager : Bool) :
    Aside turn (turn.step event eager) := by
  cases told with
  | answer id result unasked => exact receiveAnswer_aside unasked result eager

end Turn

/-- A server that is akin to another can be told the same, unless the other is told something that
has to do with popups and choices at most. -/
theorem Server.Akin.told {one two : Server} (akin : one.Akin two) (event : Event) :
    event.IsAside one ∨ ∃ twin, event.Matches one two twin := by
  cases event with
  | received incoming =>
      cases incoming with
      | message message => exact Or.inr ⟨_, .message message⟩
      | answer id result =>
          cases asked : one.asked? id with
          | none => exact Or.inl (.answer id result asked)
          | some number =>
              refine Or.inr ?_
              have awaits : number ∈ one.awaiting := by
                cases id with
                | number value =>
                    obtain ⟨asker, held, goes⟩ := Option.bind_eq_some_iff.mp asked
                    exact List.mem_filterMap.mpr ⟨_, Table.mem_of_find? held, goes⟩
                | _ => cases asked
              obtain ⟨question, held⟩ := asked_of_awaiting (akin.awaiting.mem_iff.mp awaits)
              refine ⟨_, .answer id (.number question) number result asked ?_⟩
              rw [asked?, Int.toNat_natCast, held]
              rfl
  | ended number result => exact Or.inr ⟨_, .ended number result⟩
  | removed number result => exact Or.inr ⟨_, .removed number result⟩
  | woken number => exact Or.inr ⟨_, .woken number⟩

end TemplateLint
