import TemplateLint.Proofs.Endings

/-!
# Which text a formatting changes

A formatting works on the document as it was when its request was taken up.  It waits for the
editor and for the tool, and what is done to the document meanwhile is no concern of it: its changes
are those of the old text, whatever is open when they are replied.
Main exports: `Turn.Leaves`, `Snapshot`, `Answering`, `Turn.act_answering`, `AnswersOld`,
`Server.answersOld`.
-/

namespace TemplateLint

/-! ## Acts that have nothing to do with formatting -/

/-- A deed that starts no program, tells of no formatting and replies with no changes. -/
def Deed.IsMute : Deed → Prop
  | .effect (.reply ⟨_, .ok (.array _)⟩) => False
  | .effect (.start ..) => False
  | .told _ finding => finding.job.errand.mode = .lint
  | _ => True

namespace Turn

variable {turn middle next : Turn} {number : Nat} {job : Job}

/-- The formattings that are under way were so before, on the same documents, and nothing is done
that has to do with them. -/
structure Leaves (turn next : Turn) : Prop where
  nextJob : turn.server.nextJob ≤ next.server.nextJob
  jobs : ∀ number job, next.server.jobs.get? number = some job → job.errand.mode = .format →
    ∃ entry, turn.server.jobs.get? number = some entry ∧ entry.errand.mode = .format ∧
      entry.document = job.document
  adds : Adds Deed.IsMute turn next

namespace Leaves

theorem trans (one : Leaves turn middle) (two : Leaves middle next) : Leaves turn next where
  nextJob := one.nextJob.trans two.nextJob
  jobs := by
    intro number job held formats
    obtain ⟨entry, there, mode, document⟩ := two.jobs number job held formats
    obtain ⟨first, before, earlier, same⟩ := one.jobs number entry there mode
    exact ⟨first, before, earlier, same.trans document⟩
  adds := one.adds.trans two.adds

/-- Jobs may be superseded or cancelled. -/
theorem of_fate (nextJob : turn.server.nextJob ≤ next.server.nextJob)
    (fate : ∀ number job, next.server.jobs.get? number = some job → job.errand.mode = .format →
      Fate (turn.server.jobs.get? number) (next.server.jobs.get? number))
    (adds : Adds Deed.IsMute turn next) : Leaves turn next where
  nextJob := nextJob
  jobs := by
    intro number job held formats
    have met := fate number job held formats
    rw [held] at met
    obtain ⟨entry, there, kin⟩ := met.kin_before
    exact ⟨entry, there, kin.errand ▸ formats, kin.document.symm⟩
  adds := adds

/-- Only other parts of the server change. -/
theorem of_same (nextJob : next.server.nextJob = turn.server.nextJob)
    (jobs : next.server.jobs = turn.server.jobs) (adds : Adds Deed.IsMute turn next) :
    Leaves turn next := by
  apply of_fate (Nat.le_of_eq nextJob.symm) _ adds
  intro number job held formats
  rw [jobs]
  exact .stays _

theorem refl (turn : Turn) : Leaves turn turn :=
  of_same rfl rfl (.none rfl)

/-! ### Speaking -/

theorem note (turn : Turn) {deed : Deed} (mute : deed.IsMute) : Leaves turn (turn.note deed) :=
  of_same rfl rfl (.one rfl mute)

theorem tell (turn : Turn) (notice : Notice) : Leaves turn (turn.tell notice) := by
  unfold Turn.tell
  split
  · exact refl turn
  · exact note turn trivial

theorem publish (turn : Turn) (uri : Uri) (diagnostics : List Diagnostic)
    (version : Option Int) : Leaves turn (turn.publish uri diagnostics version) := by
  unfold Turn.publish
  split
  · exact tell turn _
  · exact refl turn

theorem reply (turn : Turn) (id : RpcId) {result : Except RpcError Json}
    (plain : ∀ items, result ≠ .ok (.array items)) : Leaves turn (turn.reply id result) := by
  apply note
  unfold Deed.IsMute
  split
  · next items same =>
      cases same
      exact plain items rfl
  · next same => cases same
  · next same => cases same
  · trivial

theorem ask (turn : Turn) (asker : Asker) (question : Question) :
    Leaves turn (turn.ask asker question) := by
  unfold Turn.ask
  split
  · exact refl turn
  · exact of_same rfl rfl (.one rfl trivial)

theorem pause (turn : Turn) (number : Nat) (job : Job) (rest : Rest) :
    Leaves turn (turn.pause number job rest) :=
  of_same rfl rfl (.none rfl)

theorem report (turn : Turn) (number : Nat) (job : Job) (failure : Failure) :
    Leaves turn (turn.report number job failure) := by
  have noted : Leaves turn (turn.note (.logged number job failure)) := note turn trivial
  exact (noted.trans (tell _ _)).trans (pause _ _ _ _)

theorem popUp (turn : Turn) (number : Nat) (job : Job) (failure : Failure) :
    Leaves turn (turn.popUp number job failure) := by
  have considered : Leaves turn (turn.note (.considered number job failure)) := note turn trivial
  unfold Turn.popUp
  simp only
  split
  · exact considered
  · split
    · exact considered
    · refine considered.trans (.trans ?_ (ask _ _ _))
      exact of_same rfl rfl (.none rfl)

theorem suppress (turn : Turn) (scope : Scope) : Leaves turn (turn.suppress scope) := by
  unfold Turn.suppress
  split
  · exact of_same rfl rfl (.none rfl)
  · exact of_same rfl rfl (.none rfl)

theorem choose (turn : Turn) (details : String) (folder : Option Path) (action : PopupAction) :
    Leaves turn (turn.choose details folder action) := by
  unfold Turn.choose
  split
  · exact tell turn _
  · exact suppress turn _
  · exact refl turn
  · exact suppress turn _

theorem loadSettings (turn : Turn) : Leaves turn turn.loadSettings := by
  unfold Turn.loadSettings
  split
  · exact refl turn
  · split
    · exact of_same rfl rfl (.none rfl)
    · exact tell turn _

theorem beginServing (turn : Turn) (id : RpcId) (params : Params.Beginning) :
    Leaves turn (turn.beginServing id params) := by
  have changed : Leaves turn (turn.update fun server =>
      { server with
        asksSettings := params.configuration
        folders := initialFolders params
        client := (params.options.bind Settings.ofJson?).getD server.client }).loadSettings := by
    refine .trans ?_ (loadSettings _)
    exact of_same rfl rfl (.none rfl)
  unfold Turn.beginServing
  refine changed.trans (.trans ?_ (reply _ id ?_))
  · exact of_same rfl rfl (.none rfl)
  · intro items same
    injection same with object
    cases object

/-! ### Jobs -/

theorem supersede (turn : Turn) (uri : Uri) : Leaves turn (turn.supersede uri) := by
  obtain ⟨inFlight, jobs, same, fate⟩ := supersede_frame turn uri
  rw [same]
  exact of_fate (Nat.le_refl _) (fun number _ _ _ => fate number) (.none rfl)

theorem supersedeAll (turn : Turn) (uris : List Uri) :
    Leaves turn (uris.foldl Turn.supersede turn) := by
  induction uris generalizing turn with
  | nil => exact refl turn
  | cons uri rest inductionHypothesis =>
      exact (supersede turn uri).trans (inductionHypothesis _)

theorem shutDown (turn : Turn) (id : RpcId) : Leaves turn (turn.shutDown id) := by
  unfold Turn.shutDown
  refine (supersedeAll turn turn.server.inFlight.keys).trans (.trans ?_ (reply _ id (by simp)))
  exact of_same rfl rfl (.one rfl trivial)

theorem heedClosed (turn : Turn) (uri : Uri) : Leaves turn (turn.heedClosed uri) := by
  unfold Turn.heedClosed
  apply Leaves.trans _ (publish _ uri [] none)
  apply (supersede turn uri).trans
  exact of_same rfl rfl (.one rfl trivial)

/-- A lint is taken up. -/
theorem beginLint (turn : Turn) (origin : Nat) (document : Document) (others : List Uri) :
    Leaves turn (turn.beginLint origin document others).2 := by
  have takes := beginLint_takes turn origin document others
  apply of_fate
  · rw [takes.nextJob, takes.numbered]
    exact Nat.le_succ _
  · intro number job held formats
    by_cases new : number = (turn.beginLint origin document others).1.1
    · subst new
      cases held.symm.trans takes.held
      cases formats
    · exact takes.others number new
  · apply takes.adds.mono
    rintro deed ⟨-, rfl | rfl⟩
    · trivial
    · trivial

theorem keep (turn : Turn) (document : Document) : Leaves turn (turn.keep document) :=
  of_same rfl rfl (.one rfl trivial)

theorem hold (carries : turn.Carries number job) (wait : Wait) :
    Leaves turn (turn.hold number job wait) where
  nextJob := Nat.le_refl _
  jobs := by
    intro other entry held formats
    simp only [Turn.hold, update, Table.get?_put] at held
    split at held
    · next same =>
        cases held
        obtain ⟨found, there, stage⟩ := carries
        exact ⟨found, same ▸ there, stage.errand ▸ formats, stage.document⟩
    · exact ⟨entry, held, formats, rfl⟩
  adds := .none rfl

theorem removeFor (carries : turn.Carries number job) :
    Leaves turn (turn.removeFor number job) :=
  (hold carries .removal).trans (note _ trivial)

theorem killFor (turn : Turn) (number : Nat) : Leaves turn (turn.killFor number) := by
  unfold Turn.killFor
  split
  · split
    · exact note turn trivial
    · exact refl turn
  · exact refl turn

/-- A job goes. -/
theorem discharge (turn : Turn) (number : Nat) : Leaves turn (turn.discharge number) where
  nextJob := Nat.le_refl _
  jobs := by
    intro other entry held formats
    simp only [Turn.discharge, update, Table.get?_erase] at held
    split at held
    · cases held
    · exact ⟨entry, held, formats, rfl⟩
  adds := .none rfl

theorem abandon (turn : Turn) (number : Nat) : Leaves turn (turn.abandon number) := by
  apply Leaves.trans _ (discharge _ number)
  apply (killFor turn number).trans
  exact of_same rfl rfl (.none rfl)

theorem clearInFlight (turn : Turn) (number : Nat) (uri : Uri) :
    Leaves turn (turn.clearInFlight number uri) := by
  unfold Turn.clearInFlight
  split
  · exact of_same rfl rfl (.none rfl)
  · exact refl turn

theorem tellLint (turn : Turn) (number : Nat) (finding : Finding) :
    Leaves turn (turn.tellLint number finding) := by
  have published {change : Server → Server} {diagnostics : List Diagnostic} {rest : Rest}
      (changed : Leaves turn (turn.update change)) :
      Leaves turn (((turn.update change).publish finding.job.document.uri diagnostics
        finding.job.document.version).pause number finding.job rest) :=
    (changed.trans (publish _ _ _ _)).trans (pause _ _ _ _)
  unfold Turn.tellLint
  split
  · exact published (of_same rfl rfl (.none rfl))
  · split
    · exact published (of_same rfl rfl (.none rfl))
    · exact report turn number _ _

theorem finishLint (turn : Turn) (number : Nat) {finding : Finding}
    (lints : finding.job.errand.mode = .lint) : Leaves turn (turn.finishLint number finding) := by
  have cleared := (discharge turn number).trans
    (clearInFlight _ number finding.job.document.uri)
  have told (turn : Turn) : Leaves turn (turn.note (.told number finding)) := note turn lints
  exact cleared.trans ((told _).trans (tellLint _ number finding))

end Leaves

end Turn

/-! ## Where the changes come from -/

/-- The document was open when the formatting under the number had been asked for but no program
had been started for it.  The programs that were started for it since were given its text. -/
structure Snapshot (asks : Nat → List Deed → Prop) (number : Nat) (document : Document)
    (asked since : List Deed) : Prop where
  asks : asks number asked
  held : documentIn? document.uri asked = some document
  unstarted : ∀ launch, .effect (.start number launch) ∉ asked
  fed : ∀ launch, .effect (.start number launch) ∈ since → launch.Feeds document

/-- The formatting under the number works on the document as it once was. -/
def FormatsOld (asks : Nat → List Deed → Prop) (number : Nat) (document : Document)
    (history : List Deed) : Prop :=
  ∃ asked since, history = asked ++ since ∧ Snapshot asks number document asked since

/-- The items are the changes that the finding of a formatting brings to its document. -/
structure Finding.Answers (finding : Finding) (id : RpcId) (items : List Json) : Prop where
  request : finding.job.errand.request? = some id
  changes : ∃ output, finding.output = .ok output ∧
    items = (finding.job.edits output).map TextEdit.toJson

/-- Changes are replied right after the formatting is told that they come from, and formattings
work on documents as they once were. -/
structure Answering (asks : Nat → List Deed → Prop) (server : Server) (history : List Deed) :
    Prop where
  works : ∀ number job, server.jobs.get? number = some job → job.errand.mode = .format →
    FormatsOld asks number job.document history
  told : ∀ before number finding, Comes history before (.told number finding) →
    finding.job.errand.mode = .format →
      number < server.nextJob ∧ FormatsOld asks number finding.job.document before
  replied : ∀ before id items,
    Comes history before (.effect (.reply ⟨id, .ok (.array items)⟩)) →
      ∃ earlier number finding, before = earlier ++ [.told number finding] ∧
        finding.Answers id items

section answering

variable {asks : Nat → List Deed → Prop} {server next : Server} {history : List Deed}
  {number : Nat} {document : Document} {deed : Deed}

theorem FormatsOld.append (old : FormatsOld asks number document history)
    (fed : ∀ launch, deed = .effect (.start number launch) → launch.Feeds document) :
    FormatsOld asks number document (history ++ [deed]) := by
  obtain ⟨asked, since, rfl, snapshot⟩ := old
  refine ⟨asked, since ++ [deed], by simp, snapshot.asks, snapshot.held, snapshot.unstarted, ?_⟩
  intro launch member
  rcases List.mem_append.mp member with earlier | here
  · exact snapshot.fed launch earlier
  · exact fed launch (List.mem_singleton.mp here).symm

/-- Mute deeds have nothing to do with formatting. -/
theorem Answering.mute (answering : Answering asks server history) (mute : deed.IsMute) :
    Answering asks server (history ++ [deed]) where
  works := by
    intro number job held formats
    apply (answering.works number job held formats).append
    rintro launch rfl
    exact mute.elim
  told := by
    intro before number finding comes formats
    rcases Comes.append_singleton.mp comes with earlier | ⟨rfl, rfl⟩
    · exact answering.told before number finding earlier formats
    · have lints : finding.job.errand.mode = .lint := mute
      rw [lints] at formats
      cases formats
  replied := by
    intro before id items comes
    rcases Comes.append_singleton.mp comes with earlier | ⟨rfl, rfl⟩
    · exact answering.replied before id items earlier
    · exact mute.elim

theorem Answering.mutes (answering : Answering asks server history) {more : List Deed}
    (mute : ∀ deed ∈ more, deed.IsMute) : Answering asks server (history ++ more) := by
  induction more generalizing history with
  | nil => rwa [List.append_nil]
  | cons deed rest inductionHypothesis =>
      rw [List.append_cons]
      apply inductionHypothesis (answering.mute (mute deed List.mem_cons_self))
      exact fun other member => mute other (List.mem_cons_of_mem deed member)

/-- The server may change when its formattings stay those that were under way. -/
theorem Answering.carried (answering : Answering asks server history)
    (nextJob : server.nextJob ≤ next.nextJob)
    (jobs : ∀ number job, next.jobs.get? number = some job → job.errand.mode = .format →
      ∃ entry, server.jobs.get? number = some entry ∧ entry.errand.mode = .format ∧
        entry.document = job.document) : Answering asks next history where
  works := by
    intro number job held formats
    obtain ⟨entry, there, mode, same⟩ := jobs number job held formats
    exact same ▸ answering.works number entry there mode
  told := by
    intro before number finding comes formats
    obtain ⟨bound, old⟩ := answering.told before number finding comes formats
    exact ⟨bound.trans_le nextJob, old⟩
  replied := answering.replied

end answering

namespace Turn

variable {asks : Nat → List Deed → Prop} {turn next : Turn} {past : List Deed} {number : Nat}
  {job : Job}

/-- What is so of the formattings in the middle of a turn. -/
abbrev AnsweringAfter (asks : Nat → List Deed → Prop) (past : List Deed) (turn : Turn) : Prop :=
  Answering asks turn.server (past ++ turn.deeds)

theorem Leaves.answering (leaves : Leaves turn next) (answering : AnsweringAfter asks past turn) :
    AnsweringAfter asks past next := by
  obtain ⟨more, same, mute⟩ := leaves.adds
  unfold AnsweringAfter
  rw [same, ← List.append_assoc]
  exact (answering.carried leaves.nextJob leaves.jobs).mutes mute

/-- A formatting is taken up on the document as it is. -/
theorem beginFormat_answering {document : Document} {uri : Uri} (sound : SoundAfter past turn)
    (answering : AnsweringAfter asks past turn) (origin : Nat) (request : RpcId) (tabSize : Nat)
    (held : turn.server.documents.get? uri = some document)
    (floor : asks turn.server.nextJob (past ++ turn.deeds)) :
    AnsweringAfter asks past (turn.beginFormat origin request tabSize document).2 := by
  have takes := beginFormat_takes turn origin request tabSize document
  have deeds : (turn.beginFormat origin request tabSize document).2.deeds = turn.deeds := rfl
  have own : document.uri = uri := sound.keyed uri document held
  unfold AnsweringAfter
  rw [deeds]
  constructor
  case works =>
    intro number job there formats
    by_cases new : number = turn.server.nextJob
    · subst new
      cases there.symm.trans takes.held
      refine ⟨past ++ turn.deeds, [], by simp, floor, ?_, ?_, by simp⟩
      · rw [← sound.kept]
        exact own ▸ held
      · intro launch member
        exact Nat.lt_irrefl _ (sound.known _ member _ rfl)
    · have fate := takes.others number new
      rw [there] at fate
      obtain ⟨entry, before, kin⟩ := fate.kin_before
      exact kin.document ▸ answering.works number entry before (kin.errand ▸ formats)
  case told =>
    intro before number finding comes formats
    obtain ⟨bound, old⟩ := answering.told before number finding comes formats
    exact ⟨bound.trans (Nat.lt_succ_self _), old⟩
  case replied => exact answering.replied

/-- A program is started for a job: if the job is a formatting, the program is given its text. -/
theorem startFor_answering {launch : Launch} (answering : AnsweringAfter asks past turn)
    (carries : turn.Carries number job) (wait : Wait)
    (fed : launch.Feeds job.document) :
    AnsweringAfter asks past (turn.startFor number job wait launch) := by
  have held : AnsweringAfter asks past (turn.hold number job wait) :=
    (Leaves.hold carries wait).answering answering
  have whole : past ++ (turn.startFor number job wait launch).deeds =
      past ++ turn.deeds ++ [.effect (.start number launch)] := by
    rw [List.append_assoc]
    rfl
  unfold AnsweringAfter
  rw [whole]
  constructor
  case works =>
    intro name entry there formats
    apply (held.works name entry there formats).append
    intro other same
    cases same
    have found := get?_hold turn number job wait
    cases found.symm.trans there
    exact fed
  case told =>
    intro before name finding comes formats
    rcases Comes.append_singleton.mp comes with earlier | ⟨-, same⟩
    · exact held.told before name finding earlier formats
    · cases same
  case replied =>
    intro before id items comes
    rcases Comes.append_singleton.mp comes with earlier | ⟨-, same⟩
    · exact held.replied before id items earlier
    · cases same

/-- The finding of a formatting is told, and its changes are replied. -/
theorem finishFormat_answering {finding : Finding} {request : RpcId} (sound : SoundAfter past turn)
    (answering : AnsweringAfter asks past turn) (carries : turn.Carries number finding.job)
    (formats : finding.job.errand.request? = some request) :
    AnsweringAfter asks past (turn.finishFormat number request finding) := by
  have discharged : AnsweringAfter asks past (turn.discharge number) :=
    (Leaves.discharge turn number).answering answering
  have told : AnsweringAfter asks past ((turn.discharge number).note (.told number finding)) := by
    have whole : past ++ ((turn.discharge number).note (.told number finding)).deeds =
        past ++ turn.deeds ++ [.told number finding] := by
      rw [List.append_assoc]
      rfl
    unfold AnsweringAfter
    rw [whole]
    constructor
    case works =>
      intro name entry held mode
      exact (discharged.works name entry held mode).append (by simp)
    case told =>
      intro before name other comes mode
      rcases Comes.append_singleton.mp comes with earlier | ⟨rfl, same⟩
      · exact discharged.told before name other earlier mode
      · cases same
        obtain ⟨entry, held, stage⟩ := carries
        refine ⟨sound.numbered number entry held, ?_⟩
        exact stage.document ▸ answering.works number entry held (stage.errand ▸ mode)
    case replied =>
      intro before id items comes
      rcases Comes.append_singleton.mp comes with earlier | ⟨-, same⟩
      · exact discharged.replied before id items earlier
      · cases same
  unfold finishFormat tellFormat
  cases output : finding.output with
  | error failure => exact (Leaves.report _ number finding.job failure).answering told
  | ok stdout =>
      simp only [AnsweringAfter, reply, emit, note]
      rw [← List.append_assoc]
      constructor
      case works =>
        intro name entry held mode
        exact (told.works name entry held mode).append (by simp)
      case told =>
        intro before name other comes mode
        rcases Comes.append_singleton.mp comes with earlier | ⟨-, same⟩
        · exact told.told before name other earlier mode
        · cases same
      case replied =>
        intro before id items comes
        rcases Comes.append_singleton.mp comes with earlier | ⟨rfl, same⟩
        · exact told.replied before id items earlier
        · cases same
          refine ⟨past ++ turn.deeds, number, finding, ?_, formats, stdout, output, rfl⟩
          rw [List.append_assoc]
          rfl

/-- Every act keeps to it, as far as formattings are taken up after they were asked for. -/
theorem act_answering (floor : asks turn.server.nextJob (past ++ turn.deeds)) (act : Act turn next)
    (sound : SoundAfter past turn) (answering : AnsweringAfter asks past turn) :
    AnsweringAfter asks past next := by
  have same (nextJob : next.server.nextJob = turn.server.nextJob)
      (jobs : next.server.jobs = turn.server.jobs) (deeds : next.deeds = turn.deeds) :
      AnsweringAfter asks past next :=
    (Leaves.of_same nextJob jobs (.none deeds)).answering answering
  cases act with
  | count => exact same rfl rfl rfl
  | reply id result plain => exact (Leaves.reply turn id plain).answering answering
  | greet message => exact (Leaves.tell turn _).answering answering
  | serve id params fresh => exact (Leaves.beginServing turn id params).answering answering
  | closing ready => exact same rfl rfl rfl
  | shutDown id closing => exact (Leaves.shutDown turn id).answering answering
  | exit => exact same rfl rfl rfl
  | configure client ready => exact same rfl rfl rfl
  | folders change => exact same rfl rfl rfl
  | close uri ready => exact (Leaves.heedClosed turn uri).answering answering
  | answered question => exact same rfl rfl rfl
  | choose details folder action =>
      exact (Leaves.choose turn details folder action).answering answering
  | beginLint origin uri document others held =>
      exact (Leaves.beginLint turn origin document others).answering answering
  | renewLint origin document ready =>
      have leaves := (Leaves.keep turn document).trans (.beginLint _ origin document [])
      exact leaves.answering answering
  | beginFormat origin request tabSize uri document held =>
      exact beginFormat_answering sound answering origin request tabSize held floor
  | hold number job wait carries => exact (Leaves.hold carries wait).answering answering
  | askSettings number job carries => exact (Leaves.ask turn _ _).answering answering
  | enqueue number => exact same rfl rfl rfl
  | release number => exact same rfl rfl rfl
  | remember => exact same rfl rfl rfl
  | removeOld number job carries => exact (Leaves.removeFor carries).answering answering
  | startSetup number job stage launch carries launched =>
      exact startFor_answering answering carries _ (Setup.launch_feeds launched job.document)
  | startTool number job python launch carries launched =>
      exact startFor_answering answering carries _ (Job.launch_feeds launched)
  | finishLint number finding carries lints counts =>
      exact (Leaves.finishLint turn number lints).answering answering
  | finishFormat number request finding carries formats =>
      exact finishFormat_answering sound answering carries formats
  | drop number job carries superseded =>
      exact ((Leaves.abandon turn number).trans (.clearInFlight _ _ _)).answering answering
  | cancel number request job carries formats =>
      exact Leaves.answering (.trans (.abandon turn number) (.reply _ request (by simp))) answering
  | report number job failure held =>
      exact (Leaves.report turn number job failure).answering answering
  | popUp number job failure held => exact (Leaves.popUp turn number job failure).answering answering
  | conclude number telling held all => exact same rfl rfl rfl
  | cancelTelling number request telling held formats =>
      have silent : Leaves turn (turn.silence number) := .of_same rfl rfl (.none rfl)
      exact (silent.trans (.reply _ request (by simp))).answering answering

theorem acts_answering (acts : Acts turn next) (floor : ∀ number more, asks number (past ++ more))
    (sound : SoundAfter past turn) (answering : AnsweringAfter asks past turn) :
    AnsweringAfter asks past next := by
  induction acts with
  | refl => exact answering
  | tail earlier act inductionHypothesis =>
      exact act_answering (floor _ _) act (acts_sound earlier sound) inductionHypothesis

end Turn

/-! ## Answers in a course -/

namespace Server

variable {server : Server}

/-- By then, all had been done that was done in turns before the job was taken up. -/
def HasAsked (server : Server) (rounds : List Round) (number : Nat) (asked : List Deed) : Prop :=
  ∀ first, first <+: rounds → (server.course first).1.nextJob ≤ number →
    (server.course first).2 <+: asked

theorem HasAsked.next {rounds : List Round} {round : Round} {number : Nat} {asked : List Deed}
    (hasAsked : server.HasAsked rounds number asked)
    (bound : number < (server.course (rounds ++ [round])).1.nextJob) :
    server.HasAsked (rounds ++ [round]) number asked := by
  intro first early unused
  rcases List.prefix_concat_iff.mp early with rfl | earlier
  · exact absurd bound (Nat.not_lt.mpr unused)
  · exact hasAsked first earlier unused

/-- What is done in the next turn comes after all that was done before. -/
theorem hasAsked_append (server : Server) (rounds : List Round) (number : Nat)
    (more : List Deed) : server.HasAsked rounds number ((server.course rounds).2 ++ more) := by
  rintro first ⟨later, rfl⟩ -
  rw [course_append, List.append_assoc]
  exact List.prefix_append _ _

/-- Formattings work on documents as they once were, in every course. -/
theorem course_answering (sound : Sound server []) (rounds : List Round)
    (start : Answering (server.HasAsked []) server []) :
    Answering (server.HasAsked rounds) (server.course rounds).1 (server.course rounds).2 := by
  induction rounds using List.reverseRecOn with
  | nil => exact start
  | append_singleton rounds round inductionHypothesis =>
      have earlier := course_sound sound rounds
      have acts := (turnIn_leads earlier round).acts
      have begun : Turn.SoundAfter (server.course rounds).2
          ⟨(server.course rounds).1.arranged round.rank, round.disk, []⟩ := by
        simpa [Turn.SoundAfter] using arranged_sound earlier round.rank
      have begins : Turn.AnsweringAfter (server.HasAsked rounds) (server.course rounds).2
          ⟨(server.course rounds).1.arranged round.rank, round.disk, []⟩ := by
        unfold Turn.AnsweringAfter
        rw [List.append_nil]
        exact inductionHypothesis.carried (Nat.le_refl _)
          fun number job held formats => ⟨job, held, formats, rfl⟩
      have ended := Turn.acts_answering acts (hasAsked_append server rounds) begun begins
      have later := course_sound sound (rounds ++ [round])
      have whole := course_concat server rounds round
      rw [whole]
      have next {number : Nat} {document : Document} {history : List Deed}
          (bound : number < ((server.course rounds).1.turnIn round).server.nextJob)
          (old : FormatsOld (server.HasAsked rounds) number document history) :
          FormatsOld (server.HasAsked (rounds ++ [round])) number document history := by
        obtain ⟨asked, since, same, snapshot⟩ := old
        have bound : number < (server.course (rounds ++ [round])).1.nextJob := by rwa [whole]
        exact ⟨asked, since, same, snapshot.asks.next bound, snapshot.held, snapshot.unstarted,
          snapshot.fed⟩
      rw [whole] at later
      constructor
      case works =>
        intro number job held formats
        exact next (later.numbered number job held) (ended.works number job held formats)
      case told =>
        intro before number finding comes formats
        obtain ⟨bound, old⟩ := ended.told before number finding comes formats
        exact ⟨bound, next bound old⟩
      case replied => exact ended.replied

theorem start_answering (environ : Variables) (configFile : Option Path) (venv : Path)
    (store : Store) (asks : Nat → List Deed → Prop) :
    Answering asks (start environ configFile venv store) [] where
  works := by
    intro number job held
    cases held
  told := fun _ _ _ comes => absurd comes Comes.not_nil
  replied := fun _ _ _ comes => absurd comes Comes.not_nil

end Server

/-- What was open at first is open in the end, or what the latest change since has made of it. -/
theorem documentIn?_append_since (uri : Uri) (earlier since : List Deed) :
    documentIn? uri (earlier ++ since) =
      (latest? (Deed.document? uri) since).getD (documentIn? uri earlier) := by
  unfold documentIn?
  rw [latest?_append]
  cases latest? (Deed.document? uri) since with
  | none => rfl
  | some document => rfl

/-- The changes in a reply are those that the tool makes of a document as it was when its request
was taken up, and before any program was started for it; what is open when they are replied is what
has become of that document since. -/
def AnswersOld (server : Server) (rounds : List Round) (before : List Deed) (id : RpcId)
    (items : List Json) : Prop :=
  ∃ asked since number finding, before = asked ++ since ++ [.told number finding] ∧
    finding.Answers id items ∧
    Snapshot (server.HasAsked rounds) number finding.job.document asked since ∧
    documentIn? finding.job.document.uri before =
      (latest? (Deed.document? finding.job.document.uri) since).getD (some finding.job.document)

/-- Whatever happens between a request to format a document and its answer, the changes in the
answer are those of the text that the document had when the request was taken up. -/
theorem Server.answersOld (environ : Variables) (configFile : Option Path) (venv : Path)
    (store : Store) (rounds : List Round) (before : List Deed) (id : RpcId) (items : List Json)
    (comes : Comes ((start environ configFile venv store).course rounds).2 before
      (.effect (.reply ⟨id, .ok (.array items)⟩))) :
    AnswersOld (start environ configFile venv store) rounds before id items := by
  have answering := course_answering (start_sound environ configFile venv store) rounds
    (start_answering environ configFile venv store _)
  obtain ⟨earlier, number, finding, rfl, answers⟩ := answering.replied before id items comes
  have told : Comes ((start environ configFile venv store).course rounds).2 earlier
      (.told number finding) := by
    obtain ⟨after, whole⟩ := comes
    exact ⟨_, by rw [whole, List.append_assoc]; rfl⟩
  obtain ⟨-, asked, since, rfl, snapshot⟩ := answering.told earlier number finding told
    (Errand.mode_of_request? answers.request)
  refine ⟨asked, since, number, finding, rfl, answers, snapshot, ?_⟩
  -- to tell a finding changes no document
  rw [documentIn?_append, documentIn?_append_since, snapshot.held]
  rfl

/-! ### A text that is changed while it is formatted -/

/-- When the tool of a formatting ends well, its changes are told and replied. -/
theorem Turn.deeds_step_of_format (server : Server) {number : Nat} {job : Job} {request : RpcId}
    {python : Path} {outcome : Outcome} {text : String}
    (held : server.jobs.get? number = some job) (waits : job.wait = .tool python)
    (formats : job.errand.request? = some request) (counts : job.superseded = false)
    (concluded : TemplateLint.conclude (job.command python) (ToolOutput.ofOutcome outcome) =
      .ok text) (disk : Disk) (eager : Bool) :
    (server.step disk (.ended number (.finished outcome)) eager).deeds =
      [.told number ⟨job, .ok (some text)⟩,
        .effect
          (.reply ⟨request, .ok (.array ((job.edits (some text)).map TextEdit.toJson))⟩)] := by
  obtain ⟨tabSize, errand⟩ : ∃ tabSize, job.errand = .format request tabSize := by
    cases errand : job.errand with
    | lint others =>
        rw [errand] at formats
        cases formats
    | format id tabSize =>
        rw [errand] at formats
        cases formats
        exact ⟨tabSize, rfl⟩
  rw [step_ended held waits counts, concluded, finish]
  simp only [errand]
  rfl

/-- A formatting is never answered with changes of a text that is no longer open. -/
def NeverOutdated (history : List Deed) : Prop :=
  ∀ before id items, Comes history before (.effect (.reply ⟨id, .ok (.array items)⟩)) →
    items ≠ [] → ∃ earlier number finding document, before = earlier ++ [.told number finding] ∧
      finding.Answers id items ∧ documentIn? finding.job.document.uri before = some document ∧
      document.text = finding.job.document.text

namespace Sample

/-- The user types on. -/
def types : Round :=
  sends interpreter "textDocument/didChange" none (some (.object
    [("textDocument", item [("version", Json.ofNat 2)]),
      ("contentChanges", .array [.object [("text", .text "new")]])]))

/-- The tool ends well and has printed nothing. -/
def formatted : Outcome := ⟨"".toUTF8, "".toUTF8, .exited 0⟩

/-- The tool that formats the document ends. -/
def ends : Round := ⟨⟨interpreter, .ended 1 (.finished formatted), false⟩, fun _ => 0⟩

def fresh : Server := .start [] none ⟨[]⟩ .inMemory

/-- The tool formats the old text while the new one is open. -/
def typed : Server × List Deed :=
  fresh.course [beginsUnlinted, opensText, asksFormatting, types]

theorem typed_formats :
    (typed.1.jobs.get? 1).map (fun job =>
        (job.wait, job.errand.request?, job.superseded, job.document.uri, job.document.text)) =
      some (.tool (Path.ofString "/python"), some (.number 2), false, page "a", "old") ∧
    (documentIn? (page "a") typed.2).map Document.text = some "new" := by
  decide +kernel

/-- All that happens: the formatting is answered although the user has typed on. -/
def hurried : List Round :=
  [beginsUnlinted, opensText, asksFormatting, types, ends]

/-- The old text is told to be formatted, to nothing, and that is replied. -/
theorem hurried_replies : ∃ job : Job, job.document.uri = page "a" ∧ job.document.text = "old" ∧
    Comes (fresh.course hurried).2 (typed.2 ++ [.told 1 ⟨job, .ok (some "")⟩])
      (.effect (.reply ⟨.number 2, .ok (.array ((job.edits (some "")).map TextEdit.toJson))⟩)) := by
  obtain ⟨job, held, same⟩ := Option.map_eq_some_iff.mp typed_formats.1
  obtain ⟨waits, formats, counts, own, text⟩ : job.wait = .tool (Path.ofString "/python") ∧
      job.errand.request? = some (.number 2) ∧ job.superseded = false ∧
      job.document.uri = page "a" ∧ job.document.text = "old" := by
    simpa using same
  have printed : (ToolOutput.ofOutcome formatted).stdout = "" := decodeLossy_toUTF8 ""
  have concluded : conclude (job.command (Path.ofString "/python"))
      (ToolOutput.ofOutcome formatted) = .ok "" := by
    rw [← printed]
    rfl
  refine ⟨job, own, text, ?_⟩
  have ended := Turn.deeds_step_of_format (typed.1.arranged fun _ => 0) held waits formats counts
    concluded interpreter false
  have whole : hurried = [beginsUnlinted, opensText, asksFormatting, types] ++ [ends] := rfl
  refine ⟨[], ?_⟩
  rw [whole, Server.course_concat, List.append_assoc]
  exact congrArg (typed.2 ++ ·) ended

end Sample

open Sample in
theorem sample_answersOld :
    ∃ before items, Comes (fresh.course hurried).2 before
        (.effect (.reply ⟨.number 2, .ok (.array items)⟩)) ∧
      AnswersOld fresh hurried before (.number 2) items := by
  obtain ⟨job, -, -, comes⟩ := hurried_replies
  exact ⟨_, _, comes, Server.answersOld [] none ⟨[]⟩ .inMemory hurried _ _ _ comes⟩

open Sample in
/-- The changes of the old text are replied while the new one is open. -/
theorem sample_outdated : ¬ NeverOutdated (fresh.course hurried).2 := by
  intro never
  obtain ⟨job, own, old, comes⟩ := hurried_replies
  have changes : (job.edits (some "")).map TextEdit.toJson ≠ [] := by
    simp [Job.edits, Document.editsTo, old]
  obtain ⟨earlier, number, finding, document, same, -, now, text⟩ := never _ _ _ comes changes
  obtain ⟨-, told⟩ := List.append_inj' same rfl
  cases told
  rw [documentIn?_append, own] at now
  obtain ⟨other, present, new⟩ := Option.map_eq_some_iff.mp typed_formats.2
  cases present.symm.trans now
  rw [new, old] at text
  revert text
  decide

end TemplateLint
