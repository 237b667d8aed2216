import TemplateLint.Proofs.Courses

/-!
# How errors are told

When a job has come to an error, the details go to the log, and once the editor has taken them it is
considered whether the error is shown in a popup: not when the settings of the job hide it, and not
when the last popup said the same.  Few acts do any of this.  So wherever an error is logged or
considered in a turn it is known what becomes of the log, of the popups, and of what was shown last;
and what has been told of an error is followed by the rest, as long as nobody cancels the request.
Main exports: `Deed.isPopup`, `Turn.log?`, `Turn.popup?`, `Turn.Utters`, `Act.plain_or_utters`,
`Acts.failed_reached`, `Acts.logged_reached`, `Acts.considered_reached`, `Acts.popup_reached`,
`Accounted`, `Server.course_accounted`.
-/

namespace TemplateLint

/-- The user is asked about an error. -/
def Deed.isPopup : Deed → Bool
  | .effect (.ask _ (.choice ..)) => true
  | _ => false

/-- Something is told about a job: what it came to, or what becomes of its failure. -/
def Deed.IsNews : Deed → Prop
  | .told .. => True
  | .logged .. => True
  | .considered .. => True
  | _ => False

/-- Nothing is told about a job, and the user is asked about no error. -/
def Deed.IsQuiet (deed : Deed) : Prop :=
  ¬ deed.IsNews ∧ deed.isPopup = false

theorem Deed.IsSpeech.quiet {deed : Deed} (speech : deed.IsSpeech) : deed.IsQuiet := by
  refine ⟨fun news => ?_, ?_⟩
  · cases deed with
    | effect effect => exact news
    | _ => exact speech
  · unfold Deed.isPopup
    split
    · exact speech.elim
    · rfl

namespace Turn

variable {turn middle next : Turn} {number : Nat} {job : Job} {finding : Finding}
  {failure : Failure}

/-! ## What is logged and shown -/

/-- The details of an error in the log, as long as the editor listens. -/
def log? (turn : Turn) (failure : Failure) : Option Deed :=
  if turn.server.phase = .exited then none
  else some (.effect (.tell (.log .error failure.details)))

/-- What a report comes to: the details are in the log, as long as the editor listens. -/
theorem deeds_report (turn : Turn) (number : Nat) (job : Job) (failure : Failure) :
    (turn.report number job failure).deeds =
      turn.deeds ++ .logged number job failure :: (turn.log? failure).toList := by
  by_cases gone : turn.server.phase = .exited
  · simp [report, pause, update, tell, log?, note, gone]
  · simp [report, pause, update, tell, log?, note, emit, gone]

/-- The popup about an error, when it is shown. -/
def popup? (turn : Turn) (job : Job) (failure : Failure) : Option Deed :=
  if turn.server.phase = .exited ∨ failure.isHidden job.settings = true ∨
      turn.server.lastError = some failure.message then none
  else some (.effect (.ask turn.server.nextQuestion
    (.choice failure.message ((failure.actions job.folder).map PopupAction.title))))

/-- The popup comes right after it was considered, if it comes. -/
theorem deeds_popUp (turn : Turn) (number : Nat) (job : Job) (failure : Failure) :
    (turn.popUp number job failure).deeds =
      turn.deeds ++ .considered number job failure :: (turn.popup? job failure).toList := by
  by_cases hidden : failure.isHidden job.settings = true
  · simp [popUp, popup?, note, hidden]
  · by_cases last : turn.server.lastError = some failure.message
    · simp [popUp, popup?, note, hidden, last]
    · by_cases gone : turn.server.phase = .exited
      · simp [popUp, popup?, note, ask, update, hidden, last, gone]
      · simp [popUp, popup?, note, ask, update, emit, hidden, last, gone]

/-- An error is what was shown last once it was considered, unless the settings hide it. -/
theorem lastError_popUp (turn : Turn) (number : Nat) (job : Job) (failure : Failure) :
    (turn.popUp number job failure).server.lastError =
      if failure.isHidden job.settings then turn.server.lastError else some failure.message := by
  by_cases hidden : failure.isHidden job.settings = true
  · simp [popUp, note, hidden]
  · by_cases last : turn.server.lastError = some failure.message
    · simp [popUp, note, hidden, last]
    · by_cases gone : turn.server.phase = .exited
      · simp [popUp, note, ask, update, hidden, last, gone]
      · simp [popUp, note, ask, update, emit, hidden, last, gone]

/-! ## The acts that tell something -/

/-- Nothing is told about any job, and what is still to be told stays. -/
structure Plain (turn next : Turn) : Prop where
  tellings : next.server.tellings = turn.server.tellings
  adds : Adds Deed.IsQuiet turn next

namespace Plain

theorem still (tellings : next.server.tellings = turn.server.tellings)
    (deeds : next.deeds = turn.deeds) : Plain turn next :=
  ⟨tellings, .none deeds⟩

theorem trans (one : Plain turn middle) (two : Plain middle next) : Plain turn next :=
  ⟨two.tellings.trans one.tellings, one.adds.trans two.adds⟩

theorem of_speaks (speaks : Speaks turn next) : Plain turn next :=
  ⟨speaks.tellings, speaks.adds.mono fun _ => Deed.IsSpeech.quiet⟩

theorem of_toil (toil : Toil number turn next) : Plain turn next := by
  refine ⟨toil.tellings, toil.adds.mono fun deed works => ?_⟩
  cases deed with
  | effect effect =>
      refine ⟨id, ?_⟩
      cases effect with
      | ask question asked =>
          cases asked with
          | choice => exact works.elim
          | settings => rfl
      | _ => rfl
  | _ => exact works.elim

theorem of_takes (takes : Takes number job turn next) : Plain turn next := by
  refine ⟨takes.tellings, takes.adds.mono ?_⟩
  rintro deed ⟨-, rfl | rfl⟩
  · exact ⟨id, rfl⟩
  · exact ⟨id, rfl⟩

theorem abandon (turn : Turn) (number : Nat) : Plain turn (turn.abandon number) :=
  (of_speaks (.killFor turn number)).trans (still rfl rfl)

theorem choose (turn : Turn) (details : String) (folder : Option Path) (action : PopupAction) :
    Plain turn (turn.choose details folder action) := by
  have suppress (scope : Scope) : Plain turn (turn.suppress scope) := by
    unfold Turn.suppress
    split
    · exact still rfl rfl
    · exact still rfl rfl
  unfold Turn.choose
  split
  · exact of_speaks (.tell turn _)
  · exact suppress _
  · exact still rfl rfl
  · exact suppress _

theorem loadSettings (turn : Turn) : Plain turn turn.loadSettings := by
  unfold Turn.loadSettings
  split
  · exact still rfl rfl
  · split
    · exact still rfl rfl
    · exact of_speaks (.tell turn _)

theorem serve (turn : Turn) (id : RpcId) (params : Params.Beginning) :
    Plain turn (turn.beginServing id params) := by
  have loaded : Plain turn (turn.update fun server =>
      { server with
        asksSettings := params.configuration
        folders := initialFolders params
        client := (params.options.bind Settings.ofJson?).getD server.client }).loadSettings := by
    refine .trans ?_ (loadSettings _)
    exact still rfl rfl
  unfold beginServing
  refine .trans (.trans loaded ?_) (of_speaks (.reply _ id _))
  exact still rfl rfl

theorem close (turn : Turn) (uri : Uri) : Plain turn (turn.heedClosed uri) := by
  obtain ⟨inFlight, jobs, same, -⟩ := supersede_frame turn uri
  have closed : Plain turn (((turn.update fun server => { server with inFlight, jobs }).update
      fun server =>
        { server with
          documents := server.documents.erase uri
          diagnostics := server.diagnostics.erase uri }).note (.closed uri)) :=
    ⟨rfl, .one rfl ⟨id, rfl⟩⟩
  unfold heedClosed
  rw [same]
  exact closed.trans (of_speaks (.publish _ uri [] none))

theorem shutDown (turn : Turn) (id : RpcId) : Plain turn (turn.shutDown id) := by
  have stops := shutDown_stops turn id
  have noted : Adds Deed.IsQuiet turn (turn.note .shutDown) := .one rfl ⟨fun news => news, rfl⟩
  exact ⟨stops.tellings, noted.trans (stops.adds.mono fun _ => Deed.IsSpeech.quiet)⟩

end Plain

/-- A finding is told.  Of a success nothing is left to be told then; the failure of a lint may be
logged later; any other failure is logged at once.  No failure changes what was shown last. -/
inductive Announces (number : Nat) (finding : Finding) (turn next : Turn) : Prop where
  | success (stdout : Option String) (output : finding.output = .ok stdout)
      (adds : Adds Deed.IsQuiet (turn.note (.told number finding)) next)
      (tellings : next.server.tellings = turn.server.tellings ∨
        next.server.tellings = turn.server.tellings.put number ⟨finding.job, .nothing⟩)
  | later (failure : Failure) (output : finding.output = .error failure)
      (lints : finding.job.errand.mode = .lint)
      (adds : Adds Deed.IsQuiet (turn.note (.told number finding)) next)
      (tellings : next.server.tellings =
        turn.server.tellings.put number ⟨finding.job, .log failure⟩)
      (last : next.server.lastError = turn.server.lastError)
  | now (failure : Failure) (output : finding.output = .error failure)
      (deeds : next.deeds = turn.deeds ++ .told number finding ::
        .logged number finding.job failure :: (turn.log? failure).toList)
      (tellings : next.server.tellings =
        turn.server.tellings.put number ⟨finding.job, .display failure⟩)
      (last : next.server.lastError = turn.server.lastError)

theorem lastError_report (turn : Turn) (number : Nat) (job : Job) (failure : Failure) :
    (turn.report number job failure).server.lastError = turn.server.lastError := by
  simp only [report, pause, update, tell_server, note]

theorem log?_congr (phase : next.server.phase = turn.server.phase) (failure : Failure) :
    next.log? failure = turn.log? failure := by
  rw [log?, log?, phase]

theorem finishLint_announces (turn : Turn) (number : Nat) (finding : Finding)
    (lints : finding.job.errand.mode = .lint) :
    Announces number finding turn (turn.finishLint number finding) := by
  have clears := Speaks.clearInFlight (turn.discharge number) number finding.job.document.uri
  obtain ⟨deeds, last⟩ :
      ((turn.discharge number).clearInFlight number finding.job.document.uri).deeds = turn.deeds ∧
        ((turn.discharge number).clearInFlight number
          finding.job.document.uri).server.lastError = turn.server.lastError := by
    unfold clearInFlight
    split
    · exact ⟨rfl, rfl⟩
    · exact ⟨rfl, rfl⟩
  unfold finishLint
  simp only
  generalize (turn.discharge number).clearInFlight number finding.job.document.uri = cleared
    at clears deeds last
  have tellings : cleared.server.tellings = turn.server.tellings := clears.tellings
  have phase : cleared.server.phase = turn.server.phase := clears.phase
  have noted : (cleared.note (.told number finding)).deeds =
      (turn.note (.told number finding)).deeds := by
    simp only [note, deeds]
  have speaks {next : Turn} (speaks : Speaks (cleared.note (.told number finding)) next) :
      Adds Deed.IsQuiet (turn.note (.told number finding)) next :=
    (Adds.none noted).trans (speaks.adds.mono fun _ => Deed.IsSpeech.quiet)
  unfold tellLint
  split
  · next stdout output =>
      have records := Speaks.record (cleared.note (.told number finding)) finding.job.document
        (finding.job.diagnostics stdout)
      refine .success stdout output ((speaks records).trans (.none rfl)) (Or.inr ?_)
      simp only [pause, update, records.tellings]
      simp only [note, tellings]
  · next failure output =>
      split
      · have forgets := Speaks.forget (cleared.note (.told number finding)) finding.job.document
        refine .later failure output lints ((speaks forgets).trans (.none rfl)) ?_ ?_
        · simp only [pause, update, forgets.tellings]
          simp only [note, tellings]
        · simp only [pause, forget, update, publish_server, note, last]
      · refine .now failure output ?_ ?_ ((lastError_report _ _ _ _).trans last)
        · have logs : (cleared.note (.told number finding)).log? failure = turn.log? failure :=
            log?_congr phase failure
          rw [deeds_report, noted, logs]
          simp [note]
        · rw [report_tellings]
          simp only [note, tellings]

theorem finishFormat_announces (turn : Turn) (number : Nat) (request : RpcId) (finding : Finding) :
    Announces number finding turn (turn.finishFormat number request finding) := by
  unfold finishFormat tellFormat
  split
  · next stdout output =>
      exact .success stdout output (.one rfl ⟨id, rfl⟩) (Or.inl rfl)
  · next failure output =>
      refine .now failure output ?_ ?_ (lastError_report _ _ _ _)
      · have logs : ((turn.discharge number).note (.told number finding)).log? failure =
            turn.log? failure := rfl
        rw [deeds_report, logs]
        simp [note, discharge, update]
      · rw [report_tellings]
        rfl

/-- The acts by which something is told, or after which less is left to be told. -/
inductive Utters (turn : Turn) : Turn → Prop where
  | finding (number : Nat) (finding : Finding) (next : Turn)
      (carries : turn.Carries number finding.job)
      (announces : Announces number finding turn next) : Utters turn next
  | report (number : Nat) (job : Job) (failure : Failure)
      (held : turn.server.tellings.get? number = some ⟨job, .log failure⟩) :
      Utters turn (turn.report number job failure)
  | popUp (number : Nat) (job : Job) (failure : Failure)
      (held : turn.server.tellings.get? number = some ⟨job, .display failure⟩) :
      Utters turn (turn.popUp number job failure)
  | conclude (number : Nat) (telling : Telling)
      (held : turn.server.tellings.get? number = some telling)
      (all : turn.IsTold number telling) : Utters turn (turn.silence number)
  | cancel (number : Nat) (request : RpcId) (telling : Telling)
      (held : turn.server.tellings.get? number = some telling)
      (formats : telling.job.errand.request? = some request) :
      Utters turn (turn.cancelTelling number request)

end Turn

/-- Every other act leaves alone what is told. -/
theorem Act.plain_or_utters {turn next : Turn} (act : Act turn next) :
    turn.Plain next ∨ turn.Utters next := by
  cases act with
  | count => exact Or.inl (.still rfl rfl)
  | reply id result plain => exact Or.inl (.of_speaks (.reply turn id result))
  | greet message => exact Or.inl (.of_speaks (.tell turn _))
  | serve id params fresh => exact Or.inl (.serve turn id params)
  | closing ready => exact Or.inl (.still rfl rfl)
  | shutDown id closing => exact Or.inl (.shutDown turn id)
  | exit => exact Or.inl (.still rfl rfl)
  | configure client ready => exact Or.inl (.still rfl rfl)
  | folders change => exact Or.inl (.still rfl rfl)
  | close uri ready => exact Or.inl (.close turn uri)
  | answered question => exact Or.inl (.still rfl rfl)
  | choose details folder action => exact Or.inl (.choose turn details folder action)
  | beginLint origin uri document others held =>
      exact Or.inl (.of_takes (Turn.beginLint_takes turn origin document others))
  | renewLint origin document ready =>
      exact Or.inl (.of_takes (Turn.renewLint_takes turn origin document))
  | beginFormat origin request tabSize uri document held =>
      exact Or.inl (.of_takes (Turn.beginFormat_takes turn origin request tabSize document))
  | hold number job wait carries => exact Or.inl (.of_toil (.hold turn number job wait))
  | askSettings number job carries => exact Or.inl (.of_toil (.askSettings turn number _ _))
  | enqueue number => exact Or.inl (.still rfl rfl)
  | release number => exact Or.inl (.still rfl rfl)
  | remember => exact Or.inl (.still rfl rfl)
  | removeOld number job carries => exact Or.inl (.of_toil (.removeFor turn number job))
  | startSetup number job stage launch carries launched =>
      exact Or.inl (.of_toil (.startFor turn number job _ launch))
  | startTool number job python launch carries launched =>
      exact Or.inl (.of_toil (.startFor turn number job _ launch))
  | finishLint number finding carries lints counts =>
      exact Or.inr (.finding number finding _ carries (Turn.finishLint_announces _ _ _ lints))
  | finishFormat number request finding carries formats =>
      exact Or.inr (.finding number finding _ carries (Turn.finishFormat_announces _ _ _ _))
  | drop number job carries superseded =>
      exact Or.inl ((Turn.Plain.abandon turn number).trans (.of_speaks (.clearInFlight _ _ _)))
  | cancel number request job carries formats =>
      exact Or.inl ((Turn.Plain.abandon turn number).trans (.of_speaks (.reply _ request _)))
  | report number job failure held => exact Or.inr (.report number job failure held)
  | popUp number job failure held => exact Or.inr (.popUp number job failure held)
  | conclude number telling held all => exact Or.inr (.conclude number telling held all)
  | cancelTelling number request telling held formats =>
      exact Or.inr (.cancel number request telling held formats)

/-! ## Where errors are logged and considered -/

namespace Turn

theorem log?_quiet (turn : Turn) (failure : Failure) :
    ∀ deed ∈ (turn.log? failure).toList, deed.IsQuiet := by
  intro deed member
  unfold log? at member
  split at member
  · cases member
  · cases List.mem_singleton.mp member
    exact ⟨id, rfl⟩

theorem log?_no_news (turn : Turn) (failure : Failure) :
    ∀ deed ∈ (turn.log? failure).toList, ¬ deed.IsNews :=
  fun deed member => (turn.log?_quiet failure deed member).1

theorem popup?_no_news (turn : Turn) (job : Job) (failure : Failure) :
    ∀ deed ∈ (turn.popup? job failure).toList, ¬ deed.IsNews := by
  intro deed member
  unfold popup? at member
  split at member
  · cases member
  · cases List.mem_singleton.mp member
    exact id

/-- The deeds of an act, and what the act is if something is considered; to tell and to log a
failure changes nothing about what was shown last. -/
inductive Brings (turn next : Turn) : List Deed → Prop where
  | nothing (more : List Deed) (quiet : ∀ deed ∈ more, deed.IsQuiet) : Brings turn next more
  | told (number : Nat) (finding : Finding) (more : List Deed)
      (quiet : ∀ deed ∈ more, deed.IsQuiet)
      (last : ∀ failure, finding.output = .error failure →
        next.server.lastError = turn.server.lastError) :
      Brings turn next (.told number finding :: more)
  | failed (number : Nat) (finding : Finding) (failure : Failure)
      (last : next.server.lastError = turn.server.lastError) :
      Brings turn next (.told number finding :: .logged number finding.job failure ::
        (turn.log? failure).toList)
  | logged (number : Nat) (job : Job) (failure : Failure)
      (last : next.server.lastError = turn.server.lastError) :
      Brings turn next (.logged number job failure :: (turn.log? failure).toList)
  | considered (number : Nat) (job : Job) (failure : Failure)
      (shows : next = turn.popUp number job failure) :
      Brings turn next (.considered number job failure :: (turn.popup? job failure).toList)

end Turn

section reached

variable {start turn next : Turn} {number : Nat} {job : Job} {failure : Failure} {deed : Deed}
  {first rest : List Deed}

/-- What is told in an act comes first, right before what is logged or shown of it. -/
theorem Act.brings (act : Act turn next) :
    ∃ more, next.deeds = turn.deeds ++ more ∧ turn.Brings next more := by
  rcases act.plain_or_utters with ⟨-, more, same, quiet⟩ | utters
  · exact ⟨more, same, .nothing more quiet⟩
  · cases utters with
    | finding number finding _ carries announces =>
        have told (adds : Turn.Adds Deed.IsQuiet (turn.note (.told number finding)) next)
            (last : ∀ failure, finding.output = .error failure →
              next.server.lastError = turn.server.lastError) :
            ∃ more, next.deeds = turn.deeds ++ more ∧ turn.Brings next more := by
          obtain ⟨more, same, quiet⟩ := adds
          exact ⟨.told number finding :: more, by simpa [Turn.note] using same,
            .told number finding more quiet last⟩
        cases announces with
        | success stdout output adds tellings =>
            refine told adds fun failure failed => ?_
            rw [output] at failed
            cases failed
        | later failure output lints adds tellings last => exact told adds fun _ _ => last
        | now failure output deeds tellings last =>
            exact ⟨_, deeds, .failed number finding failure last⟩
    | report number job failure held =>
        exact ⟨_, Turn.deeds_report _ _ _ _,
          .logged number job failure (Turn.lastError_report _ _ _ _)⟩
    | popUp number job failure held =>
        exact ⟨_, Turn.deeds_popUp _ _ _ _, .considered number job failure rfl⟩
    | conclude number telling held all =>
        exact ⟨[], (List.append_nil _).symm, .nothing [] (by simp)⟩
    | cancel number request telling held formats =>
        exact ⟨[.effect (.reply ⟨request, .error .cancelled⟩)], rfl,
          .nothing _ (by simp [Deed.IsQuiet, Deed.IsNews, Deed.isPopup])⟩

/-- Wherever a deed stands among what was done in a turn, the turn came to an act that did it, and
went on. -/
theorem Acts.reached (acts : Acts start next) (begins : start.deeds = [])
    (split : next.deeds = first ++ deed :: rest) :
    ∃ one two early late, Acts start one ∧ Act one two ∧ Acts two next ∧
      first = one.deeds ++ early ∧ two.deeds = first ++ deed :: late ∧
      one.Brings two (early ++ deed :: late) := by
  induction acts generalizing rest with
  | refl => simp [begins] at split
  | @tail middle next earlier act inductionHypothesis =>
      obtain ⟨more, same, brings⟩ := act.brings
      rcases append_eq_append_cons (same.symm.trans split) with
        ⟨others, before⟩ | ⟨early, rfl, rfl⟩
      · obtain ⟨one, two, early, late, comes, does, goesOn, place⟩ := inductionHypothesis before
        exact ⟨one, two, early, late, comes, does, goesOn.tail act, place⟩
      · exact ⟨middle, next, early, rest, earlier, act, .refl, rfl, split, brings⟩

/-- Among some deeds only the first tells something. -/
theorem eq_of_news {early late others : List Deed} {told : Deed}
    (same : early ++ deed :: late = told :: others) (silent : ∀ other ∈ others, ¬ other.IsNews)
    (news : deed.IsNews) : early = [] ∧ deed = told ∧ late = others := by
  cases early with
  | nil =>
      obtain ⟨rfl, rfl⟩ := List.cons_eq_cons.mp same
      exact ⟨rfl, rfl, rfl⟩
  | cons first early =>
      obtain ⟨-, rfl⟩ := List.cons_eq_cons.mp same
      exact absurd news (silent deed (by simp))

/-- How news stands among what an act brings: what is told or considered comes first, what is logged
is in the log at once, and what was shown last stays unless a failure is considered. -/
inductive Turn.BringsAt (turn next : Turn) (early late : List Deed) : Deed → Prop where
  | told (number : Nat) (finding : Finding) (first : early = [])
      (last : ∀ failure, finding.output = .error failure →
        next.server.lastError = turn.server.lastError) :
      BringsAt turn next early late (.told number finding)
  | logged (number : Nat) (job : Job) (failure : Failure) (log : late = (turn.log? failure).toList)
      (last : next.server.lastError = turn.server.lastError) :
      BringsAt turn next early late (.logged number job failure)
  | considered (number : Nat) (job : Job) (failure : Failure) (first : early = [])
      (shows : next = turn.popUp number job failure) :
      BringsAt turn next early late (.considered number job failure)

/-- All news that an act brings stands in one of these places. -/
theorem Turn.Brings.bringsAt {early late : List Deed}
    (brings : turn.Brings next (early ++ deed :: late)) (news : deed.IsNews) :
    turn.BringsAt next early late deed := by
  generalize whole : early ++ deed :: late = done at brings
  cases brings with
  | nothing _ quiet => exact absurd news (quiet _ (by simp [← whole])).1
  | told number finding more quiet last =>
      obtain ⟨rfl, rfl, -⟩ := eq_of_news whole (fun other member => (quiet other member).1) news
      exact .told number finding rfl last
  | failed number finding failure last =>
      -- The failure is told, and logged right after that.
      obtain - | ⟨first, early⟩ := early
      · obtain ⟨rfl, -⟩ := List.cons_eq_cons.mp whole
        exact .told number finding rfl fun _ _ => last
      · obtain ⟨-, below⟩ := List.cons_eq_cons.mp whole
        obtain ⟨-, rfl, rfl⟩ := eq_of_news below (turn.log?_no_news failure) news
        exact .logged number finding.job failure rfl last
  | logged number job failure last =>
      obtain ⟨-, rfl, rfl⟩ := eq_of_news whole (turn.log?_no_news failure) news
      exact .logged number job failure rfl last
  | considered number job failure shows =>
      obtain ⟨rfl, rfl, -⟩ := eq_of_news whole (turn.popup?_no_news job failure) news
      exact .considered number job failure rfl shows

/-- Where there is a popup, its failure was just considered. -/
theorem Turn.Brings.popup_eq {early late : List Deed} (popup : deed.isPopup = true)
    (brings : turn.Brings next (early ++ deed :: late)) :
    ∃ number job failure, early = [.considered number job failure] ∧
      turn.popup? job failure = some deed ∧ next = turn.popUp number job failure := by
  -- The popup is no news, and it is not among what is quiet.
  have other {done : Deed} (plain : done.isPopup = false) : deed ≠ done := by
    rintro rfl
    rw [plain] at popup
    cases popup
  have noisy {more : List Deed} (quiet : ∀ deed ∈ more, deed.IsQuiet) : deed ∉ more :=
    fun member => other (quiet deed member).2 rfl
  have among : deed ∈ early ++ deed :: late := by simp
  generalize whole : early ++ deed :: late = done at brings among
  cases brings with
  | nothing _ quiet => exact absurd among (noisy quiet)
  | told name finding more quiet last =>
      exact absurd ((List.mem_cons.mp among).resolve_left (other rfl)) (noisy quiet)
  | failed name finding error last =>
      have below := (List.mem_cons.mp among).resolve_left (other rfl)
      exact absurd ((List.mem_cons.mp below).resolve_left (other rfl))
        (noisy (turn.log?_quiet error))
  | logged name job error last =>
      exact absurd ((List.mem_cons.mp among).resolve_left (other rfl))
        (noisy (turn.log?_quiet error))
  | considered name job error shows =>
      obtain - | ⟨first, early⟩ := early
      · exact absurd (List.cons_eq_cons.mp whole).1 (other rfl)
      · obtain ⟨rfl, below⟩ := List.cons_eq_cons.mp whole
        cases shown : turn.popup? job error with
        | none =>
            rw [shown] at below
            simp at below
        | some popup =>
            rw [shown] at below
            obtain - | ⟨second, early⟩ := early
            · obtain ⟨rfl, -⟩ := List.cons_eq_cons.mp below
              exact ⟨name, job, error, rfl, shown, shows⟩
            · simp at below

/-- Wherever a failure is told in a turn, the turn came to this, and what was shown last stays. -/
theorem Acts.failed_reached (acts : Acts start next) (begins : start.deeds = [])
    (split : next.deeds = first ++ .told number ⟨job, .error failure⟩ :: rest) :
    ∃ one two late, Acts start one ∧ Act one two ∧ Acts two next ∧ one.deeds = first ∧
      two.deeds = first ++ .told number ⟨job, .error failure⟩ :: late ∧
      two.server.lastError = one.server.lastError := by
  obtain ⟨one, two, early, late, comes, act, goesOn, rfl, same, brings⟩ :=
    acts.reached begins split
  cases brings.bringsAt trivial with
  | told number finding first last =>
      subst first
      exact ⟨one, two, late, comes, act, goesOn, (List.append_nil _).symm, same, last failure rfl⟩

/-- Wherever a failure is logged in a turn, its details go to the log at once, as long as the editor
listens, and what was shown last stays. -/
theorem Acts.logged_reached (acts : Acts start next) (begins : start.deeds = [])
    (split : next.deeds = first ++ .logged number job failure :: rest) :
    ∃ one two, Acts start one ∧ Act one two ∧ Acts two next ∧
      two.deeds = first ++ .logged number job failure :: (one.log? failure).toList ∧
      two.server.lastError = one.server.lastError := by
  obtain ⟨one, two, early, late, comes, act, goesOn, -, same, brings⟩ := acts.reached begins split
  cases brings.bringsAt trivial with
  | logged number job failure log last =>
      subst log
      exact ⟨one, two, comes, act, goesOn, same, last⟩

/-- Wherever a failure is considered in a turn, the turn came to this, and went on after it. -/
theorem Acts.considered_reached (acts : Acts start next) (begins : start.deeds = [])
    (split : next.deeds = first ++ .considered number job failure :: rest) :
    ∃ one, Acts start one ∧ Act one (one.popUp number job failure) ∧ one.deeds = first ∧
      Acts (one.popUp number job failure) next := by
  obtain ⟨one, two, early, late, comes, act, goesOn, rfl, -, brings⟩ := acts.reached begins split
  cases brings.bringsAt trivial with
  | considered number job failure first shows =>
      subst first shows
      exact ⟨one, comes, act, (List.append_nil _).symm, goesOn⟩

/-- Wherever there is a popup in a turn, its failure was considered right before it. -/
theorem Acts.popup_reached (acts : Acts start next) (begins : start.deeds = [])
    (popup : deed.isPopup = true) (split : next.deeds = first ++ deed :: rest) :
    ∃ one number job failure, Acts start one ∧ Act one (one.popUp number job failure) ∧
      first = one.deeds ++ [.considered number job failure] ∧
      one.popup? job failure = some deed ∧ Acts (one.popUp number job failure) next := by
  obtain ⟨one, two, early, late, comes, act, goesOn, rfl, -, brings⟩ := acts.reached begins split
  obtain ⟨number, job, failure, rfl, shown, rfl⟩ := brings.popup_eq popup
  exact ⟨one, number, job, failure, comes, act, rfl, shown, goesOn⟩

end reached

/-! ## What follows when an error is told -/

/-- What is told of an error is followed by the rest: it is logged, or that is still to be done, and
then it is considered, or that is still to be done, unless the request of the job is cancelled. -/
structure Accounted (server : Server) (history : List Deed) : Prop where
  told : ∀ before after number job failure,
    history = before ++ .told number ⟨job, .error failure⟩ :: after →
      .logged number job failure ∈ after ∨
        server.tellings.get? number = some ⟨job, .log failure⟩
  logged : ∀ before after number job failure,
    history = before ++ .logged number job failure :: after →
      .considered number job failure ∈ after ∨
        server.tellings.get? number = some ⟨job, .display failure⟩ ∨
        ∃ request, job.errand.request? = some request ∧
          .effect (.reply ⟨request, .error .cancelled⟩) ∈ after
  /-- Only the failure of a lint is not logged at once. -/
  lints : ∀ number job failure, server.tellings.get? number = some ⟨job, .log failure⟩ →
    job.errand.mode = .lint

namespace Accounted

variable {server other : Server} {turn next : Turn} {past history more : List Deed} {number : Nat}

/-- What is done next keeps the account, if it answers for what it tells itself and for what was
still to be told. -/
theorem grow (accounted : Accounted server history)
    (told : ∀ before after number job failure,
      more = before ++ .told number ⟨job, .error failure⟩ :: after →
        .logged number job failure ∈ after ∨
          other.tellings.get? number = some ⟨job, .log failure⟩)
    (logged : ∀ number job failure, .logged number job failure ∈ more →
      other.tellings.get? number = some ⟨job, .display failure⟩)
    (logs : ∀ number job failure, server.tellings.get? number = some ⟨job, .log failure⟩ →
      .logged number job failure ∈ more ∨
        other.tellings.get? number = some ⟨job, .log failure⟩)
    (displays : ∀ before after number job failure,
      history = before ++ .logged number job failure :: after →
        server.tellings.get? number = some ⟨job, .display failure⟩ →
          .considered number job failure ∈ after ++ more ∨
            other.tellings.get? number = some ⟨job, .display failure⟩ ∨
            ∃ request, job.errand.request? = some request ∧
              .effect (.reply ⟨request, .error .cancelled⟩) ∈ after ++ more)
    (lints : ∀ number job failure, other.tellings.get? number = some ⟨job, .log failure⟩ →
      job.errand.mode = .lint) : Accounted other (history ++ more) where
  told := by
    intro before after number job failure whole
    rcases append_eq_append_cons whole with ⟨others, early⟩ | ⟨others, rfl, late⟩
    · have same : after = others ++ more := by
        rw [early] at whole
        simpa using whole.symm
      rw [same]
      rcases accounted.told _ _ _ _ _ early with here | held
      · exact Or.inl (List.mem_append_left _ here)
      · exact (logs _ _ _ held).imp_left (List.mem_append_right _)
    · exact told _ _ _ _ _ late
  logged := by
    intro before after number job failure whole
    rcases append_eq_append_cons whole with ⟨others, early⟩ | ⟨others, rfl, late⟩
    · have same : after = others ++ more := by
        rw [early] at whole
        simpa using whole.symm
      rw [same]
      rcases accounted.logged _ _ _ _ _ early with here | held | ⟨request, asked, replied⟩
      · exact Or.inl (List.mem_append_left _ here)
      · exact displays _ _ _ _ _ early held
      · exact Or.inr (Or.inr ⟨request, asked, List.mem_append_left _ replied⟩)
    · exact Or.inr (Or.inl (logged _ _ _ (by simp [late])))
  lints := lints

/-- What is still to be told stays. -/
theorem still (accounted : Accounted server history) (tellings : other.tellings = server.tellings)
    (told : ∀ before after number job failure,
      more = before ++ .told number ⟨job, .error failure⟩ :: after →
        .logged number job failure ∈ after ∨
          other.tellings.get? number = some ⟨job, .log failure⟩)
    (logged : ∀ number job failure, .logged number job failure ∈ more →
      other.tellings.get? number = some ⟨job, .display failure⟩) :
    Accounted other (history ++ more) :=
  accounted.grow told logged (fun _ _ _ held => Or.inr (tellings ▸ held))
    (fun _ _ _ _ _ _ held => Or.inr (Or.inl (tellings ▸ held)))
    fun _ _ _ held => accounted.lints _ _ _ (tellings ▸ held)

/-- A job of which nothing was still to be told begins to tell. -/
theorem begin {name : Nat} {own : Job} {rest : Rest} (accounted : Accounted server history)
    (fresh : server.tellings.get? name = none)
    (tellings : other.tellings = server.tellings.put name ⟨own, rest⟩)
    (later : ∀ failure, rest = .log failure → own.errand.mode = .lint)
    (told : ∀ before after number job failure,
      more = before ++ .told number ⟨job, .error failure⟩ :: after →
        .logged number job failure ∈ after ∨
          other.tellings.get? number = some ⟨job, .log failure⟩)
    (logged : ∀ number job failure, .logged number job failure ∈ more →
      other.tellings.get? number = some ⟨job, .display failure⟩) :
    Accounted other (history ++ more) := by
  have kept {number : Nat} {telling : Telling}
      (held : server.tellings.get? number = some telling) :
      other.tellings.get? number = some telling := by
    rw [tellings, Table.get?_put]
    split
    · next same =>
        rw [same, fresh] at held
        cases held
    · exact held
  refine accounted.grow told logged (fun _ _ _ held => Or.inr (kept held))
    (fun _ _ _ _ _ _ held => Or.inr (Or.inl (kept held))) fun number job failure held => ?_
  rw [tellings, Table.get?_put] at held
  split at held
  · cases held
    exact later failure rfl
  · exact accounted.lints number job failure held

theorem plain (accounted : Accounted turn.server (past ++ turn.deeds))
    (plain : turn.Plain next) : Accounted next.server (past ++ next.deeds) := by
  obtain ⟨tellings, more, same, quiet⟩ := plain
  rw [same, ← List.append_assoc]
  refine accounted.still tellings ?told fun number job failure member => ?logged
  case told =>
    rintro before after number job failure rfl
    exact absurd trivial (quiet (.told number ⟨job, .error failure⟩) (by simp)).1
  case logged => exact absurd trivial (quiet _ member).1

/-- A finding is told of a job of which nothing was still to be told. -/
theorem finding {finding : Finding} (accounted : Accounted turn.server (past ++ turn.deeds))
    (fresh : turn.server.tellings.get? number = none)
    (announces : turn.Announces number finding next) :
    Accounted next.server (past ++ next.deeds) := by
  have unlogged {more : List Deed} (quiet : ∀ deed ∈ more, deed.IsQuiet) (name : Nat) (job : Job)
      (failure : Failure) : .logged name job failure ∉ Deed.told number finding :: more := by
    intro member
    rcases List.mem_cons.mp member with same | here
    · cases same
    · exact (quiet _ here).1 trivial
  cases announces with
  | success stdout output adds tellings =>
      obtain ⟨more, same, quiet⟩ := adds
      have whole : past ++ next.deeds = (past ++ turn.deeds) ++ .told number finding :: more := by
        simp [same, Turn.note]
      rw [whole]
      have told (before after : List Deed) (name : Nat) (job : Job) (failure : Failure)
          (split : Deed.told number finding :: more =
            before ++ .told name ⟨job, .error failure⟩ :: after) :
          .logged name job failure ∈ after ∨
            next.server.tellings.get? name = some ⟨job, .log failure⟩ := by
        obtain ⟨-, ⟨⟩, -⟩ := eq_of_news split.symm (fun deed member => (quiet deed member).1) trivial
        cases output
      rcases tellings with tellings | tellings
      · exact accounted.still tellings told fun name job failure member =>
          absurd member (unlogged quiet name job failure)
      · exact accounted.begin fresh tellings (by rintro _ ⟨⟩) told fun name job failure member =>
          absurd member (unlogged quiet name job failure)
  | later failure output lints adds tellings last =>
      obtain ⟨more, same, quiet⟩ := adds
      have whole : past ++ next.deeds = (past ++ turn.deeds) ++ .told number finding :: more := by
        simp [same, Turn.note]
      rw [whole]
      refine accounted.begin fresh tellings (fun _ _ => lints) ?told fun name job failure member =>
        absurd member (unlogged quiet name job failure)
      intro before after name job error split
      obtain ⟨-, ⟨⟩, -⟩ := eq_of_news split.symm (fun deed member => (quiet deed member).1) trivial
      cases output
      exact Or.inr (by rw [tellings, Table.get?_put, if_pos rfl])
  | now failure output deeds tellings last =>
      rw [deeds, ← List.append_assoc]
      refine accounted.begin fresh tellings (by rintro _ ⟨⟩) ?first ?second
      case first =>
        intro before after name job error split
        obtain - | ⟨first, before⟩ := before
        · cases split
          cases output
          exact Or.inl List.mem_cons_self
        · obtain ⟨-, below⟩ := List.cons_eq_cons.mp split
          obtain ⟨-, ⟨⟩, -⟩ := eq_of_news below.symm (turn.log?_no_news failure) trivial
      case second =>
        intro name job error member
        rcases List.mem_cons.mp member with same | later
        · cases same
        · rcases List.mem_cons.mp later with same | late
          · cases same
            rw [tellings, Table.get?_put, if_pos rfl]
          · exact (turn.log?_no_news failure _ late trivial).elim

/-- What was still to be logged is logged. -/
theorem report {job : Job} {failure : Failure}
    (accounted : Accounted turn.server (past ++ turn.deeds))
    (held : turn.server.tellings.get? number = some ⟨job, .log failure⟩) :
    Accounted (turn.report number job failure).server
      (past ++ (turn.report number job failure).deeds) := by
  have others (name : Nat) : (turn.report number job failure).server.tellings.get? name =
      if name = number then some ⟨job, .display failure⟩
      else turn.server.tellings.get? name := by
    rw [Turn.report_tellings, Table.get?_put]
  rw [Turn.deeds_report, ← List.append_assoc]
  refine accounted.grow ?told ?logged ?logs ?displays ?lints
  case told =>
    intro before after name own error split
    obtain ⟨-, ⟨⟩, -⟩ := eq_of_news split.symm (turn.log?_no_news failure) trivial
  case logged =>
    intro name own error member
    rcases List.mem_cons.mp member with same | late
    · cases same
      rw [others, if_pos rfl]
    · exact (turn.log?_no_news failure _ late trivial).elim
  case logs =>
    intro name own error waits
    by_cases same : name = number
    · subst same
      cases held.symm.trans waits
      exact Or.inl List.mem_cons_self
    · exact Or.inr (by rw [others, if_neg same, waits])
  case displays =>
    intro before after name own error whole waits
    have apart : name ≠ number := by
      rintro rfl
      cases held.symm.trans waits
    exact Or.inr (Or.inl (by rw [others, if_neg apart, waits]))
  case lints =>
    intro name own error waits
    rw [others] at waits
    split at waits
    · cases waits
    · exact accounted.lints name own error waits

/-- What was still to be considered is considered. -/
theorem popUp {job : Job} {failure : Failure}
    (accounted : Accounted turn.server (past ++ turn.deeds)) :
    Accounted (turn.popUp number job failure).server
      (past ++ (turn.popUp number job failure).deeds) := by
  rw [Turn.deeds_popUp, ← List.append_assoc]
  refine accounted.still (Turn.Talks.popUp turn number job failure).2 ?told ?logged
  case told =>
    intro before after name own error split
    obtain ⟨-, ⟨⟩, -⟩ := eq_of_news split.symm (turn.popup?_no_news job failure) trivial
  case logged =>
    intro name own error member
    rcases List.mem_cons.mp member with same | late
    · cases same
    · exact (turn.popup?_no_news job failure _ late trivial).elim

/-- A job of which all is told is done with. -/
theorem conclude {telling : Telling} (accounted : Accounted turn.server (past ++ turn.deeds))
    (held : turn.server.tellings.get? number = some telling)
    (all : turn.IsTold number telling) :
    Accounted (turn.silence number).server (past ++ (turn.silence number).deeds) := by
  have others {name : Nat} (apart : name ≠ number) :
      (turn.silence number).server.tellings.get? name = turn.server.tellings.get? name := by
    simp only [Turn.silence, Turn.update, Table.get?_erase, if_neg apart]
  rw [← List.append_nil (past ++ (turn.silence number).deeds)]
  refine accounted.grow (by simp) (by simp) ?logs ?displays ?lints
  case logs =>
    intro name job failure waits
    have apart : name ≠ number := by
      rintro rfl
      cases held.symm.trans waits
      rcases all with nothing | ⟨error, earlier, display, -⟩
      · cases nothing
      · cases display
    exact Or.inr ((others apart).trans waits)
  case displays =>
    intro before after name job failure whole waits
    by_cases same : name = number
    · subst same
      cases held.symm.trans waits
      rcases all with nothing | ⟨error, earlier, display, shown⟩
      · cases nothing
      · cases display
        -- What was considered last is among what comes after the log.
        rw [shown, Turn.deeds_popUp, ← List.append_assoc] at whole
        rcases append_eq_append_cons whole with ⟨rest, early⟩ | ⟨rest, -, late⟩
        · rw [early, List.append_assoc, List.cons_append] at whole
          have after := (List.cons_eq_cons.mp (List.append_cancel_left whole)).2
          exact Or.inl (by simp [← after])
        · obtain ⟨-, ⟨⟩, -⟩ := eq_of_news late.symm (earlier.popup?_no_news job failure) trivial
    · exact Or.inr (Or.inl ((others same).trans waits))
  case lints =>
    intro name job failure waits
    simp only [Turn.silence, Turn.update, Table.get?_erase] at waits
    split at waits
    · cases waits
    · exact accounted.lints name job failure waits

/-- A job whose request is cancelled tells nothing more; all such jobs have logged their failures. -/
theorem cancel {request : RpcId} {telling : Telling}
    (accounted : Accounted turn.server (past ++ turn.deeds))
    (held : turn.server.tellings.get? number = some telling)
    (formats : telling.job.errand.request? = some request) :
    Accounted (turn.cancelTelling number request).server
      (past ++ (turn.cancelTelling number request).deeds) := by
  have others (name : Nat) : (turn.cancelTelling number request).server.tellings.get? name =
      if name = number then none else turn.server.tellings.get? name :=
    Table.get?_erase _ _ _
  have deeds : (turn.cancelTelling number request).deeds =
      turn.deeds ++ [.effect (.reply ⟨request, .error .cancelled⟩)] := rfl
  rw [deeds, ← List.append_assoc]
  refine accounted.grow ?told (by simp) ?logs ?displays ?lints
  case told =>
    intro before after name job failure split
    obtain ⟨-, ⟨⟩, -⟩ := eq_of_news split.symm (by simp) trivial
  case logs =>
    intro name job failure waits
    have apart : name ≠ number := by
      rintro rfl
      cases held.symm.trans waits
      have lints := accounted.lints _ _ _ held
      rw [Errand.mode_of_request? formats] at lints
      cases lints
    exact Or.inr (by rw [others, if_neg apart, waits])
  case displays =>
    intro before after name job failure whole waits
    by_cases same : name = number
    · subst same
      cases held.symm.trans waits
      exact Or.inr (Or.inr ⟨request, formats, by simp⟩)
    · exact Or.inr (Or.inl (by rw [others, if_neg same, waits]))
  case lints =>
    intro name job failure waits
    rw [others] at waits
    split at waits
    · cases waits
    · exact accounted.lints name job failure waits

/-- Every act keeps the account. -/
theorem act (accounted : Accounted turn.server (past ++ turn.deeds))
    (sound : Turn.SoundAfter past turn) (act : Act turn next) :
    Accounted next.server (past ++ next.deeds) := by
  rcases act.plain_or_utters with plain | utters
  · exact accounted.plain plain
  · cases utters with
    | finding number finding _ carries announces =>
        refine accounted.finding ?_ announces
        obtain ⟨entry, held, -⟩ := carries
        by_contra tells
        obtain ⟨telling, waits⟩ := Option.ne_none_iff_exists'.mp tells
        cases held.symm.trans (sound.telling number telling waits).2.1
    | report number job failure held => exact accounted.report held
    | popUp number job failure held => exact accounted.popUp
    | conclude number telling held all => exact accounted.conclude held all
    | cancel number request telling held formats => exact accounted.cancel held formats

end Accounted

namespace Server

variable {server : Server} {history : List Deed}

/-- Whatever happens, what is told of an error is followed by the rest. -/
theorem course_accounted (sound : Sound server []) (fresh : ∀ number,
    server.tellings.get? number = none) (rounds : List Round) :
    Accounted (server.course rounds).1 (server.course rounds).2 := by
  have kept : Sound (server.course rounds).1 (server.course rounds).2 ∧
      Accounted (server.course rounds).1 (server.course rounds).2 := by
    refine course_induction (fun server history => Sound server history ∧ Accounted server history)
      ⟨sound, ?start⟩ ?turns rounds
    case start =>
      exact ⟨by simp, by simp, by simp [fresh]⟩
    case turns =>
      rintro server history round ⟨sound, accounted⟩
      refine ⟨turnIn_sound sound round, ?_⟩
      have starts : Turn.SoundAfter history ⟨server.arranged round.rank, round.disk, []⟩ := by
        simpa [Turn.SoundAfter] using arranged_sound sound round.rank
      have begins : Accounted (server.arranged round.rank) (history ++ []) := by
        rw [List.append_nil]
        exact ⟨accounted.told, accounted.logged, accounted.lints⟩
      have acts : Acts ⟨server.arranged round.rank, round.disk, []⟩ (server.turnIn round) :=
        (turnIn_leads sound round).acts
      generalize server.turnIn round = next at acts
      induction acts with
      | refl => exact begins
      | tail earlier act inductionHypothesis =>
          exact inductionHypothesis.act (Turn.acts_sound earlier starts) act
  exact kept.2

end Server

end TemplateLint
