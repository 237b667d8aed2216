import TemplateLint.Proofs.Courses

/-!
# Which question is about which document

A server that wants to know the settings of a document asks the editor under a number of its own,
and remembers which job waits for the answer.  Whatever happens in between, what is answered to a
job was asked about the document that the job works on.
Main exports: `Inquires`, `Turn.act_inquires`, `Server.course_inquires`.
-/

namespace TemplateLint

/-- Each question that a job waits for was asked about the document of the job. -/
structure Inquires (server : Server) (history : List Deed) : Prop where
  bound : ∀ question number, server.askers.get? question = some (.job number) →
    number < server.nextJob
  asked : ∀ question number job, server.askers.get? question = some (.job number) →
    server.jobs.get? number = some job →
      .effect (.ask question (.settings job.document.uri)) ∈ history

namespace Turn

variable {turn next : Turn} {past : List Deed} {number : Nat} {job : Job}

/-- The questions are in order in the middle of a turn. -/
abbrev InquiresAfter (past : List Deed) (turn : Turn) : Prop :=
  Inquires turn.server (past ++ turn.deeds)

/-- Nothing is asked for a job, and jobs keep their documents. -/
theorem InquiresAfter.kept (inquires : InquiresAfter past turn) (unasked : Unasked turn next)
    (nextJob : turn.server.nextJob ≤ next.server.nextJob)
    (jobs : ∀ number job, number < turn.server.nextJob →
      next.server.jobs.get? number = some job →
        ∃ entry, turn.server.jobs.get? number = some entry ∧ job.document = entry.document)
    (deeds : ∀ deed ∈ turn.deeds, deed ∈ next.deeds) : InquiresAfter past next := by
  constructor
  · intro question number asks
    exact (inquires.bound question number (unasked question number asks)).trans_le nextJob
  · intro question number job asks held
    have before := unasked question number asks
    obtain ⟨entry, here, same⟩ := jobs number job (inquires.bound question number before) held
    rw [same]
    rcases List.mem_append.mp (inquires.asked question number entry before here) with old | recent
    · exact List.mem_append_left _ old
    · exact List.mem_append_right _ (deeds _ recent)

/-- The jobs stay, and nothing is done. -/
theorem InquiresAfter.still (inquires : InquiresAfter past turn)
    (askers : next.server.askers = turn.server.askers)
    (nextJob : next.server.nextJob = turn.server.nextJob)
    (jobs : next.server.jobs = turn.server.jobs) (deeds : next.deeds = turn.deeds) :
    InquiresAfter past next := by
  refine inquires.kept (.none askers) nextJob.ge (fun number job _ held => ?_) fun deed => ?_
  · rw [jobs] at held
    exact ⟨job, held, rfl⟩
  · rw [deeds]
    exact id

theorem Fate.document {entry : Option Job} (fate : Fate entry (some job)) :
    ∃ before, entry = some before ∧ job.document = before.document := by
  obtain ⟨before, same, kin⟩ := fate.kin_before
  exact ⟨before, same, kin.document⟩

theorem Apart.inquires (apart : Apart turn next) (inquires : InquiresAfter past turn) :
    InquiresAfter past next := by
  refine inquires.kept apart.unasked apart.nextJob.ge (fun number job _ held => ?_)
    fun deed => apart.adds.mem
  have fate := apart.jobs number
  rw [held] at fate
  exact Fate.document fate

theorem Takes.inquires (takes : Takes number job turn next) (inquires : InquiresAfter past turn) :
    InquiresAfter past next := by
  have numbered := takes.numbered
  have nextJob := takes.nextJob
  refine inquires.kept takes.unasked (by omega) (fun other entry early held => ?_)
    fun deed => takes.adds.mem
  have fate := takes.others other (by omega)
  rw [held] at fate
  exact Fate.document fate

theorem Ends.inquires {finding : Option Finding} (ends : Ends number finding turn next)
    (inquires : InquiresAfter past turn) : InquiresAfter past next := by
  refine inquires.kept ends.unasked ends.nextJob.ge (fun other entry _ held => ?_)
    fun deed => ends.adds.mem
  exact ⟨entry, (ends.job_before held).1, rfl⟩

theorem Stops.inquires (stops : Stops turn next) (inquires : InquiresAfter past turn) :
    InquiresAfter past next := by
  refine inquires.kept stops.unasked stops.nextJob.ge (fun number job _ held => ?_)
    fun deed member => stops.adds.mem (List.mem_append_left _ member)
  have fate := stops.jobs number
  rw [held] at fate
  exact Fate.document fate

/-- A job that goes on works on the same document. -/
theorem Toil.inquires (toil : Toil number turn next) (carries : turn.Carries number job)
    (stays : next.Carries number job) (askers : next.server.askers = turn.server.askers)
    (inquires : InquiresAfter past turn) : InquiresAfter past next := by
  refine inquires.kept (.none askers) toil.nextJob.ge (fun other entry _ held => ?_)
    fun deed => toil.adds.mem
  obtain ⟨before, here, kin⟩ := toil.job_before carries stays held
  exact ⟨before, here, kin.document⟩

/-- What is asked for a job is about its document. -/
theorem askSettings_inquires (sound : SoundAfter past turn) (carries : turn.Carries number job)
    (inquires : InquiresAfter past turn) :
    InquiresAfter past (turn.ask (.job number) (.settings job.document.uri)) := by
  obtain ⟨entry, here, same⟩ := carries
  unfold ask
  split
  · exact inquires
  · simp only [InquiresAfter, emit, note, update]
    constructor
    · intro question name asks
      rw [Table.get?_put] at asks
      split at asks
      · cases asks
        exact sound.numbered number entry here
      · exact inquires.bound question name asks
    · intro question name other asks held
      rw [Table.get?_put] at asks
      split at asks
      · next own =>
          cases asks
          cases held.symm.trans here
          simp [own, same.document]
      · have before := inquires.asked question name other asks held
        rw [← List.append_assoc]
        exact List.mem_append_left _ before

/-- Every act keeps the questions in order. -/
theorem act_inquires (act : Act turn next) (sound : SoundAfter past turn)
    (inquires : InquiresAfter past turn) : InquiresAfter past next := by
  cases act with
  | count => exact inquires.still rfl rfl rfl rfl
  | reply id result => exact (Speaks.reply turn id result).apart.inquires inquires
  | greet message => exact (Speaks.tell turn _).apart.inquires inquires
  | serve id params fresh => exact (Apart.serve id params fresh).inquires inquires
  | closing ready => exact (Apart.closing ready).inquires inquires
  | shutDown id closing => exact (shutDown_stops turn id).inquires inquires
  | exit => exact (Apart.exit turn).inquires inquires
  | configure client ready => exact inquires.still rfl rfl rfl rfl
  | folders change => exact (Apart.folders turn change).inquires inquires
  | close uri ready => exact (Apart.close uri ready).inquires inquires
  | answered question => exact (Apart.answered turn question).inquires inquires
  | choose details folder action =>
      exact (Apart.choose turn details folder action).inquires inquires
  | beginLint origin uri document others held =>
      exact (beginLint_takes turn origin document others).inquires inquires
  | renewLint origin document ready =>
      exact (renewLint_takes turn origin document).inquires inquires
  | beginFormat origin request tabSize uri document held =>
      exact (beginFormat_takes turn origin request tabSize document).inquires inquires
  | hold number job wait carries =>
      exact (Toil.hold turn number job wait).inquires carries (carries_hold turn number job wait)
        rfl inquires
  | askSettings number job carries => exact askSettings_inquires sound carries inquires
  | enqueue number => exact inquires.still rfl rfl rfl rfl
  | release number => exact inquires.still rfl rfl rfl rfl
  | remember => exact inquires.still rfl rfl rfl rfl
  | removeOld number job carries =>
      exact (Toil.removeFor turn number job).inquires carries
        (carries_hold turn number job _) rfl inquires
  | startSetup number job stage launch carries launched =>
      exact (Toil.startFor turn number job _ launch).inquires carries
        (carries_hold turn number job _) rfl inquires
  | startTool number job python launch carries launched =>
      exact (Toil.startFor turn number job _ launch).inquires carries
        (carries_hold turn number job _) rfl inquires
  | finishLint number finding carries lints counts =>
      exact (finishLint_ends turn number finding).inquires inquires
  | finishFormat number request finding carries formats =>
      exact (finishFormat_ends turn number request finding).inquires inquires
  | drop number job carries superseded => exact (drop_ends turn number _).inquires inquires
  | cancel number request job carries formats =>
      obtain ⟨entry, held, same⟩ := carries
      exact (Apart.cancel request held (by rw [same.errand, formats])).inquires inquires
  | report number job failure held => exact (Apart.report held).inquires inquires
  | popUp number job failure held => exact (Apart.popUp turn number job failure).inquires inquires
  | conclude number telling held all => exact inquires.still rfl rfl rfl rfl
  | cancelTelling number request telling held formats =>
      exact (Apart.cancelTelling request held (Errand.mode_of_request? formats)).inquires inquires

theorem acts_inquires (acts : Acts turn next) (sound : SoundAfter past turn)
    (inquires : InquiresAfter past turn) : InquiresAfter past next := by
  have both : SoundAfter past next ∧ InquiresAfter past next := by
    induction acts with
    | refl => exact ⟨sound, inquires⟩
    | tail _ act inductionHypothesis =>
        exact ⟨act_sound act inductionHypothesis.1,
          act_inquires act inductionHypothesis.1 inductionHypothesis.2⟩
  exact both.2

end Turn

namespace Server

variable {server : Server} {history : List Deed}

theorem start_inquires (environ : Variables) (configFile : Option Path) (venv : Path)
    (store : Store) : Inquires (start environ configFile venv store) [] :=
  ⟨by rintro _ _ ⟨⟩, by rintro _ _ _ ⟨⟩⟩

/-- Every turn keeps the questions in order. -/
theorem turnIn_inquires (sound : Sound server history) (inquires : Inquires server history)
    (round : Round) :
    Inquires (server.turnIn round).server (history ++ (server.turnIn round).deeds) := by
  have ordered := arranged_sound sound round.rank
  have acts : Acts ⟨server.arranged round.rank, round.disk, []⟩ (server.turnIn round) :=
    Turn.step_acts ordered.keyed round.event round.eager
  refine Turn.acts_inquires acts ?_ ?_
  · simpa [Turn.SoundAfter] using ordered
  · have same : history ++ [] = history := List.append_nil history
    rw [Turn.InquiresAfter, same]
    exact ⟨inquires.bound, inquires.asked⟩

/-- The questions are in order after every course. -/
theorem course_inquires (sound : Sound server []) (inquires : Inquires server [])
    (rounds : List Round) :
    Inquires (server.course rounds).1 (server.course rounds).2 := by
  induction rounds using List.reverseRecOn with
  | nil => exact inquires
  | append_singleton rounds last inductionHypothesis =>
      have before : Sound (server.course rounds).1 (server.course rounds).2 :=
        course_sound sound rounds
      rw [course_concat]
      exact turnIn_inquires before inductionHypothesis last

end Server

end TemplateLint
