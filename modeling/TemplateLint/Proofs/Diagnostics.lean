import TemplateLint.Proofs.Endings

/-!
# What is stored, and what the editor knows

The diagnostics that a server stores follow from its history alone: they are those of the last lint
that was told with a result, unless the document was closed since.  The editor was last told
exactly what is stored, until the server exits; from then on results are stored as before, but
nothing is published any more.
Main exports: `Turn.Quiet`, `Heard`, `Turn.Hears`, `StoreFollows`, `Server.storeFollows`,
`KnowsStored`, `sample_unheard`.
-/

namespace TemplateLint

/-! ## Acts that are silent about diagnostics -/

/-- A deed that neither stores nor publishes diagnostics. -/
def Deed.Silent (deed : Deed) : Prop :=
  ∀ uri, deed.published? uri = none ∧ deed.found? uri = none

namespace Turn

/-- The turn goes on without storing or publishing diagnostics, and an exit is for good. -/
def Quiet (turn next : Turn) : Prop :=
  (turn.server.phase = .exited → next.server.phase = .exited) ∧
    ∃ more, next.deeds = turn.deeds ++ more ∧ ∀ deed ∈ more, deed.Silent

variable {turn middle next : Turn}

namespace Quiet

/-- Nothing is done, and the phase stays. -/
theorem still (deeds : next.deeds = turn.deeds)
    (phase : turn.server.phase = .exited → next.server.phase = .exited) : Quiet turn next :=
  ⟨phase, [], by simp [deeds], by simp⟩

theorem refl (turn : Turn) : Quiet turn turn := still rfl id

theorem update {change : Server → Server}
    (phase : turn.server.phase = .exited → (change turn.server).phase = .exited) :
    Quiet turn (turn.update change) :=
  still rfl phase

/-- Two quiet parts of a turn are one. -/
theorem trans (one : Quiet turn middle) (two : Quiet middle next) : Quiet turn next := by
  obtain ⟨leaves, first, same, silent⟩ := one
  obtain ⟨stays, second, more, quiet⟩ := two
  refine ⟨fun exited => stays (leaves exited), first ++ second, ?_, ?_⟩
  · rw [more, same, List.append_assoc]
  · intro deed member
    rcases List.mem_append.mp member with early | late
    · exact silent deed early
    · exact quiet deed late

theorem note {deed : Deed} (silent : deed.Silent) (turn : Turn) : Quiet turn (turn.note deed) :=
  ⟨id, [deed], rfl, by simpa using silent⟩

theorem emit {effect : Effect} (silent : (Deed.effect effect).Silent) (turn : Turn) :
    Quiet turn (turn.emit effect) :=
  note silent turn

/-- What is told the editor is quiet, unless it is diagnostics. -/
theorem tell {notice : Notice} (silent : (Deed.effect (.tell notice)).Silent) (turn : Turn) :
    Quiet turn (turn.tell notice) := by
  unfold Turn.tell
  split
  · exact refl turn
  · exact emit silent turn

theorem reply (turn : Turn) (id : RpcId) (result : Except RpcError Json) :
    Quiet turn (turn.reply id result) :=
  emit (fun _ => ⟨rfl, rfl⟩) turn

/-- To ask is to be silent about diagnostics, whatever is asked. -/
theorem ask (turn : Turn) (asker : Asker) (question : Question) :
    Quiet turn (turn.ask asker question) := by
  unfold Turn.ask
  split
  · exact refl turn
  · exact (update id).trans (emit (fun _ => ⟨rfl, rfl⟩) _)

/-- Whatever else is to be told of a finding, it is no diagnostics. -/
theorem pause (turn : Turn) (number : Nat) (job : Job) (rest : Rest) :
    Quiet turn (turn.pause number job rest) :=
  still rfl id

/-- The failure of a job is logged, and no diagnostics are published for it. -/
theorem report (turn : Turn) (number : Nat) (job : Job) (failure : Failure) :
    Quiet turn (turn.report number job failure) := by
  have noted : Quiet turn (turn.note (.logged number job failure)) :=
    note (fun _ => ⟨rfl, rfl⟩) turn
  exact (noted.trans (tell (fun _ => ⟨rfl, rfl⟩) _)).trans (pause _ _ _ _)

/-- A popup shows no diagnostics. -/
theorem popUp (turn : Turn) (number : Nat) (job : Job) (failure : Failure) :
    Quiet turn (turn.popUp number job failure) := by
  have noted : Quiet turn (turn.note (.considered number job failure)) :=
    note (fun _ => ⟨rfl, rfl⟩) turn
  unfold Turn.popUp
  simp only
  split
  · exact noted
  · split
    · exact noted
    · exact noted.trans ((update id).trans (ask _ _ _))

theorem supersede (turn : Turn) (uri : Uri) : Quiet turn (turn.supersede uri) := by
  obtain ⟨inFlight, jobs, same, -⟩ := supersede_frame turn uri
  rw [same]
  exact update id

/-- That lints are superseded is not told the editor. -/
theorem supersedeAll (turn : Turn) (uris : List Uri) :
    Quiet turn (uris.foldl Turn.supersede turn) := by
  induction uris generalizing turn with
  | nil => exact refl turn
  | cons uri rest inductionHypothesis =>
      exact (supersede turn uri).trans (inductionHypothesis _)

/-- To take up a lint takes nothing away from what is stored. -/
theorem beginLint (turn : Turn) (origin : Nat) (document : Document) (others : List Uri) :
    Quiet turn (turn.beginLint origin document others).2 := by
  refine (supersede turn document.uri).trans ?_
  exact ⟨id, [_], rfl, by simp [Deed.Silent, Deed.published?, Deed.found?]⟩

theorem loadSettings (turn : Turn) : Quiet turn turn.loadSettings := by
  unfold Turn.loadSettings
  split
  · exact refl turn
  · split
    · exact still rfl id
    · exact tell (fun _ => ⟨rfl, rfl⟩) turn

theorem beginServing (request : RpcId) (params : Params.Beginning)
    (fresh : turn.server.phase = .fresh) : Quiet turn (turn.beginServing request params) := by
  have loaded : Quiet turn (turn.update fun server =>
      { server with
        asksSettings := params.configuration
        folders := initialFolders params
        client := (params.options.bind Settings.ofJson?).getD server.client }).loadSettings := by
    refine .trans (update ?_) (loadSettings _)
    exact id
  obtain ⟨-, more, same, silent⟩ :=
    loaded.trans (reply _ request (.ok capabilities))
  exact ⟨fun exited => absurd (fresh.symm.trans exited) (by simp), more, same, silent⟩

/-- A shutdown publishes nothing and leaves what is stored. -/
theorem shutDown (turn : Turn) (request : RpcId) : Quiet turn (turn.shutDown request) := by
  refine (supersedeAll turn turn.server.inFlight.keys).trans ?_
  refine (Quiet.trans (update ?_) (note (fun _ => ⟨rfl, rfl⟩) _)).trans (reply _ request _)
  exact id

theorem killFor (turn : Turn) (number : Nat) : Quiet turn (turn.killFor number) := by
  unfold Turn.killFor
  split
  · split
    · exact emit (fun _ => ⟨rfl, rfl⟩) turn
    · exact refl turn
  · exact refl turn

theorem abandon (turn : Turn) (number : Nat) : Quiet turn (turn.abandon number) := by
  refine (killFor turn number).trans (still rfl ?_)
  exact id

theorem clearInFlight (turn : Turn) (number : Nat) (uri : Uri) :
    Quiet turn (turn.clearInFlight number uri) := by
  unfold Turn.clearInFlight
  split
  · exact still rfl id
  · exact refl turn

theorem startFor (turn : Turn) (number : Nat) (job : Job) (wait : Wait) (launch : Launch) :
    Quiet turn (turn.startFor number job wait launch) :=
  (update id).trans (emit (fun _ => ⟨rfl, rfl⟩) _)

theorem removeFor (turn : Turn) (number : Nat) (job : Job) :
    Quiet turn (turn.removeFor number job) :=
  (update id).trans (emit (fun _ => ⟨rfl, rfl⟩) _)

/-- A formatting leaves the diagnostics alone, whatever it comes to. -/
theorem finishFormat {finding : Finding} (turn : Turn) (number : Nat) (request : RpcId)
    (formats : finding.job.errand.mode = .format) :
    Quiet turn (turn.finishFormat number request finding) := by
  have silent : (Deed.told number finding).Silent := by
    intro uri
    simp [Deed.published?, Deed.found?, Job.Lints, formats]
  have told : Quiet turn ((turn.discharge number).note (.told number finding)) :=
    (update id).trans (note silent _)
  unfold Turn.finishFormat tellFormat
  split
  · exact told.trans (reply _ request _)
  · exact told.trans (report _ _ _ _)

theorem suppress (turn : Turn) (scope : Scope) : Quiet turn (turn.suppress scope) := by
  unfold Turn.suppress
  split <;> exact still rfl id

/-- And so does the user who chooses in a popup. -/
theorem choose (turn : Turn) (details : String) (folder : Option Path) (action : PopupAction) :
    Quiet turn (turn.choose details folder action) := by
  unfold Turn.choose
  split
  · exact tell (fun _ => ⟨rfl, rfl⟩) turn
  · exact suppress turn _
  · exact refl turn
  · exact suppress turn _

end Quiet

end Turn

/-! ## What the editor knows -/

/-- The diagnostics that were published last are those that were found last, and if none were
published, none were found. -/
def Agree (uri : Uri) (history : List Deed) : Prop :=
  publishedIn? uri history = some ((foundIn? uri history).getD []) ∨
    (publishedIn? uri history = none ∧ foundIn? uri history = none)

/-- The editor heard of one part of the history and was told the truth; in the rest, which is
nothing unless the server has exited, nothing was published any more. -/
structure Heard (server : Server) (history heard unheard : List Deed) : Prop where
  parts : history = heard ++ unheard
  speaks : server.phase ≠ .exited → unheard = []
  agree : ∀ uri, Agree uri heard
  silent : ∀ deed ∈ unheard, ∀ uri, deed.published? uri = none

section agree

variable {uri : Uri} {history more : List Deed} {deed : Deed}

/-- Silent deeds leave the agreement as it is. -/
theorem Agree.append_silent (agree : Agree uri history) (silent : ∀ deed ∈ more, deed.Silent) :
    Agree uri (history ++ more) := by
  induction more generalizing history with
  | nil => simpa using agree
  | cons deed rest inductionHypothesis =>
      have here : Agree uri (history ++ [deed]) := by
        obtain ⟨unpublished, unfound⟩ := silent deed (by simp) uri
        rw [Agree, publishedIn?_append, foundIn?_append, unpublished, unfound]
        exact agree
      have next := inductionHypothesis here fun other member => silent other (by simp [member])
      simpa using next

/-- What is found in a document and published at once agrees again; other documents are not
concerned. -/
theorem Agree.publish {found : Option (List Diagnostic)} {version : Option Int} {place : Uri}
    (agree : Agree place history) (unpublished : deed.published? place = none)
    (settles : deed.found? place = if place = uri then some found else none) :
    Agree place
      (history ++ [deed] ++ [.effect (.tell (.publish uri (found.getD []) version))]) := by
  rw [Agree, publishedIn?_append, foundIn?_append, publishedIn?_append, foundIn?_append,
    unpublished, settles]
  by_cases here : place = uri
  · left
    simp [Deed.published?, Deed.found?, here]
  · simpa [Deed.published?, Deed.found?, here, Agree] using agree

end agree

namespace Turn

variable {turn next : Turn} {past : List Deed} {number : Nat}

/-- The turn goes on, and the editor hears of what is found meanwhile as long as the server has not
exited; an exit is for good. -/
def Hears (past : List Deed) (turn next : Turn) : Prop :=
  ∀ heard unheard, Heard turn.server (past ++ turn.deeds) heard unheard →
    ∃ more rest, Heard next.server (past ++ next.deeds) (heard ++ more) rest ∧
      (turn.server.phase = .exited → more = [] ∧ next.server.phase = .exited)

theorem Hears.refl (past : List Deed) (turn : Turn) : Hears past turn turn :=
  fun heard unheard knows => ⟨[], unheard, by simpa using knows, fun exited => ⟨rfl, exited⟩⟩

/-- The editor that hears of one stretch and of the next hears of both. -/
theorem Hears.trans {middle : Turn} (one : Hears past turn middle) (two : Hears past middle next) :
    Hears past turn next := by
  intro heard unheard knows
  obtain ⟨more, rest, knows, mute⟩ := one heard unheard knows
  obtain ⟨further, left, knows, still⟩ := two _ rest knows
  refine ⟨more ++ further, left, by simpa using knows, fun exited => ?_⟩
  obtain ⟨rfl, exited⟩ := mute exited
  obtain ⟨rfl, exited⟩ := still exited
  exact ⟨rfl, exited⟩

/-- The editor knows as much as before when nothing is said about diagnostics. -/
theorem Quiet.hears (quiet : Quiet turn next) : Hears past turn next := by
  intro heard unheard knows
  obtain ⟨stays, more, same, silent⟩ := quiet
  by_cases exited : turn.server.phase = .exited
  · refine ⟨[], unheard ++ more, ?_, fun exited => ⟨rfl, stays exited⟩⟩
    rw [List.append_nil]
    refine ⟨?_, fun serves => absurd (stays exited) serves, knows.agree, ?_⟩
    · rw [same, ← List.append_assoc, knows.parts, List.append_assoc]
    · intro deed member uri
      rcases List.mem_append.mp member with early | late
      · exact knows.silent deed early uri
      · exact (silent deed late uri).1
  · have nothing := knows.speaks exited
    refine ⟨more, [], ⟨?_, fun _ => rfl, ?_, by simp⟩, fun gone => absurd gone exited⟩
    · rw [same, ← List.append_assoc, knows.parts, nothing]
      simp
    · intro uri
      exact (knows.agree uri).append_silent silent

/-- What a deed finds in a document is published at once, while the server speaks. -/
theorem publish_hears {start : Turn} {deed : Deed} {uri : Uri} {found : Option (List Diagnostic)}
    {version : Option Int} (earlier : Hears past start turn) (serves : turn.server.phase ≠ .fresh)
    (unpublished : ∀ place, deed.published? place = none)
    (settles : ∀ place, deed.found? place = if place = uri then some found else none) :
    Hears past start ((turn.note deed).publish uri (found.getD []) version) := by
  refine earlier.trans fun heard unheard knows => ?_
  by_cases exited : turn.server.phase = .exited
  · have same : (turn.note deed).publish uri (found.getD []) version = turn.note deed := by
      simp [publish, note, exited, Phase.isOpen]
    rw [same]
    refine ⟨[], unheard ++ [deed], ?_, fun exited => ⟨rfl, exited⟩⟩
    rw [List.append_nil]
    refine ⟨?_, fun speaks => absurd exited speaks, knows.agree, ?_⟩
    · rw [note, ← List.append_assoc, knows.parts, List.append_assoc]
    · intro other member place
      rcases List.mem_append.mp member with early | late
      · exact knows.silent other early place
      · rw [List.mem_singleton.mp late]
        exact unpublished place
  · have isOpen : turn.server.phase.isOpen = true := by
      cases phase : turn.server.phase <;> simp_all [Phase.isOpen]
    have same : (turn.note deed).publish uri (found.getD []) version =
        (turn.note deed).emit (.tell (.publish uri (found.getD []) version)) := by
      simp [publish, tell, note, exited, isOpen]
    rw [same]
    have nothing := knows.speaks exited
    have whole : past ++ turn.deeds = heard := by rw [knows.parts, nothing, List.append_nil]
    refine ⟨[deed, .effect (.tell (.publish uri (found.getD []) version))], [],
      ⟨?_, fun _ => rfl, fun place => ?_, by simp⟩, fun gone => absurd gone exited⟩
    · rw [← whole]
      simp [emit, note]
    · have agree : Agree place
          (heard ++ [deed] ++ [.effect (.tell (.publish uri (found.getD []) version))]) :=
        (knows.agree place).publish (unpublished place) (settles place)
      simpa using agree

theorem clearInFlight_phase (turn : Turn) (number : Nat) (uri : Uri) :
    (turn.clearInFlight number uri).server.phase = turn.server.phase := by
  unfold clearInFlight
  split <;> rfl

/-- What a lint that counts has come to is stored and published in one. -/
theorem finishLint_hears {finding : Finding} (serves : turn.server.phase ≠ .fresh)
    (mode : finding.job.errand.mode = .lint) :
    Hears past turn (turn.finishLint number finding) := by
  have restful : Quiet turn
      ((turn.discharge number).clearInFlight number finding.job.document.uri) :=
    (Quiet.update id).trans (Quiet.clearInFlight _ _ _)
  have stays := clearInFlight_phase (turn.discharge number) number finding.job.document.uri
  have found (place : Uri) : (Deed.told number finding).found? place =
      if place = finding.job.document.uri then finding.result? else none := by
    simp only [Deed.found?, Job.Lints, mode, true_and]
    simp only [eq_comm]
  rw [finishLint]
  generalize (turn.discharge number).clearInFlight number finding.job.document.uri = ended
    at restful stays
  have published {change : Server → Server} {left : Option (List Diagnostic)}
      (keeps : (change ended.server).phase = ended.server.phase)
      (result : finding.result? = some left) :
      Hears past turn (((ended.note (.told number finding)).update change).publish
        finding.job.document.uri (left.getD []) finding.job.document.version) := by
    have changed : Hears past turn (ended.update change) :=
      (restful.trans (Quiet.update fun exited => keeps.trans exited)).hears
    refine publish_hears changed ?_ (fun _ => rfl) fun place => ?_
    · rw [update, keeps, stays]
      exact serves
    · rw [found, result]
  rw [tellLint]
  cases output : finding.output with
  | ok stdout =>
      have result : finding.result? = some (some (finding.job.diagnostics stdout)) := by
        simp [Finding.result?, output]
      exact (published rfl result).trans (Quiet.pause _ _ _ _).hears
  | error failure =>
      simp only
      cases passing : failure.isConfiguration with
      | false =>
          have unfound : finding.result? = none := by simp [Finding.result?, output, passing]
          have silent : (Deed.told number finding).Silent := by
            intro place
            rw [found, unfound]
            exact ⟨rfl, ite_self _⟩
          exact ((restful.trans (Quiet.note silent ended)).trans (Quiet.report _ _ _ _)).hears
      | true =>
          have result : finding.result? = some none := by
            simp [Finding.result?, output, passing]
          exact (published rfl result).trans (Quiet.pause _ _ _ _).hears

/-- A document that is closed has no diagnostics any more, and the editor is told so. -/
theorem heedClosed_hears {uri : Uri} (serves : turn.server.phase ≠ .fresh) :
    Hears past turn (turn.heedClosed uri) := by
  obtain ⟨inFlight, jobs, same, -⟩ := supersede_frame turn uri
  rw [heedClosed, same]
  have changed : Hears past turn ((turn.update fun server => { server with inFlight, jobs }).update
      fun server =>
        { server with
          documents := server.documents.erase uri
          diagnostics := server.diagnostics.erase uri }) :=
    ((Quiet.update id).trans (Quiet.update id)).hears
  have settles (place : Uri) : (Deed.closed uri).found? place =
      if place = uri then some none else none := rfl
  exact publish_hears changed serves (fun _ => rfl) settles

/-! ### All acts -/

/-- In each act the editor hears what is stored, as long as the server has not exited. -/
theorem act_hears (act : Act turn next) (sound : SoundAfter past turn) : Hears past turn next := by
  cases act with
  | count => exact (Quiet.update id).hears
  | reply id result plain => exact (Quiet.reply _ id result).hears
  | greet message => exact (Quiet.tell (fun _ => ⟨rfl, rfl⟩) _).hears
  | serve request params fresh => exact (Quiet.beginServing request params fresh).hears
  | closing ready => exact (Quiet.update (by simp [ready])).hears
  | shutDown request closing => exact (Quiet.shutDown _ request).hears
  | exit => exact (Quiet.update fun _ => rfl).hears
  | configure client ready => exact (Quiet.update id).hears
  | folders change => exact (Quiet.update id).hears
  | close uri ready => exact heedClosed_hears (by simp [ready])
  | answered question => exact (Quiet.update id).hears
  | choose details folder action => exact (Quiet.choose _ details folder action).hears
  | beginLint origin uri document others held =>
      exact (Quiet.beginLint _ origin document others).hears
  | renewLint origin document ready =>
      have kept : Quiet turn (turn.keep document) :=
        (Quiet.update id).trans (Quiet.note (fun _ => ⟨rfl, rfl⟩) _)
      exact (kept.trans (Quiet.beginLint _ origin document [])).hears
  | beginFormat origin request tabSize uri document held => exact (Quiet.update id).hears
  | hold number job wait carries => exact (Quiet.update id).hears
  | askSettings number job carries => exact (Quiet.ask _ _ _).hears
  | enqueue number => exact (Quiet.update id).hears
  | release number => exact (Quiet.update id).hears
  | remember => exact (Quiet.update id).hears
  | removeOld number job carries => exact (Quiet.removeFor _ number job).hears
  | startSetup number job stage launch carries launched =>
      exact (Quiet.startFor _ number job _ launch).hears
  | startTool number job python launch carries launched =>
      exact (Quiet.startFor _ number job _ launch).hears
  | finishLint number finding carries lints counts =>
      have serves : turn.server.phase ≠ .fresh := by
        intro fresh
        obtain ⟨entry, held, -⟩ := carries
        rw [sound.jobless fresh number] at held
        cases held
      exact finishLint_hears serves lints
  | finishFormat number request finding carries formats =>
      exact (Quiet.finishFormat _ number request (Errand.mode_of_request? formats)).hears
  | drop number job carries superseded =>
      exact ((Quiet.abandon _ number).trans (Quiet.clearInFlight _ _ _)).hears
  | cancel number request job carries formats =>
      exact ((Quiet.abandon _ number).trans (Quiet.reply _ request _)).hears
  | report number job failure held => exact (Quiet.report _ number job failure).hears
  | popUp number job failure held => exact (Quiet.popUp _ number job failure).hears
  | conclude number telling held all => exact (Quiet.update id).hears
  | cancelTelling number request telling held formats =>
      exact (Quiet.trans (Quiet.update id) (Quiet.reply _ request _)).hears

/-- And so in each turn, act by act. -/
theorem acts_hears (acts : Acts turn next) (sound : SoundAfter past turn) :
    Hears past turn next := by
  induction acts with
  | refl => exact .refl past turn
  | tail earlier act inductionHypothesis =>
      exact inductionHypothesis.trans (act_hears act (acts_sound earlier sound))

end Turn

namespace Server

variable {server : Server} {history heard unheard : List Deed}

/-- What the editor hears of in a turn, and that it hears nothing more after the exit. -/
theorem turnIn_heard (sound : Sound server history) (knows : Heard server history heard unheard)
    (round : Round) :
    ∃ more rest, Heard (server.turnIn round).server (history ++ (server.turnIn round).deeds)
        (heard ++ more) rest ∧
      (server.phase = .exited → more = [] ∧ (server.turnIn round).server.phase = .exited) := by
  have begun : Turn.SoundAfter history ⟨server.arranged round.rank, round.disk, []⟩ := by
    simpa [Turn.SoundAfter] using arranged_sound sound round.rank
  have acts : Acts ⟨server.arranged round.rank, round.disk, []⟩ (server.turnIn round) :=
    Turn.step_acts begun.keyed round.event round.eager
  refine Turn.acts_hears acts begun heard unheard ?_
  rw [List.append_nil]
  exact ⟨knows.parts, knows.speaks, knows.agree, knows.silent⟩

/-- The editor heard of everything up to a moment in the turn in which the server exited, and of
nothing after it. -/
structure Exits (server : Server) (rounds : List Round) (heard : List Deed) : Prop where
  turn : ∃ first round later, rounds = first ++ round :: later ∧
    (server.course first).1.phase ≠ .exited ∧
    (server.course (first ++ [round])).1.phase = .exited ∧
    (server.course first).2 <+: heard ∧ heard <+: (server.course (first ++ [round])).2

/-- In every course the editor hears of what is found until the server exits. -/
theorem course_heard (sound : Sound server []) (starts : Heard server [] [] [])
    (serves : server.phase ≠ .exited) (rounds : List Round) :
    ∃ heard unheard, Heard (server.course rounds).1 (server.course rounds).2 heard unheard ∧
      ((server.course rounds).1.phase = .exited → Exits server rounds heard) := by
  induction rounds using List.reverseRecOn with
  | nil => exact ⟨[], [], starts, fun exited => absurd exited serves⟩
  | append_singleton rounds round inductionHypothesis =>
      obtain ⟨heard, unheard, knows, exits⟩ := inductionHypothesis
      have sound := course_sound sound rounds
      rw [List.nil_append] at sound
      obtain ⟨more, rest, next, mute⟩ := turnIn_heard sound knows round
      have whole := course_concat server rounds round
      refine ⟨heard ++ more, rest, by rw [whole]; exact next, fun exited => ?_⟩
      by_cases earlier : (server.course rounds).1.phase = .exited
      · obtain ⟨first, last, later, rfl, before, after, lower, upper⟩ := (exits earlier).turn
        obtain ⟨rfl, -⟩ := mute earlier
        rw [List.append_nil]
        exact ⟨first, last, later ++ [round], by simp, before, after, lower, upper⟩
      · have all : (server.course rounds).2 = heard := by
          have parts := knows.parts
          rw [knows.speaks earlier, List.append_nil] at parts
          exact parts
        refine ⟨rounds, round, [], rfl, earlier, exited, ?_, ?_⟩
        · rw [all]
          exact List.prefix_append heard more
        · rw [whole, next.parts]
          exact List.prefix_append _ rest

theorem start_heard (environ : Variables) (configFile : Option Path) (venv : Path)
    (store : Store) : Heard (start environ configFile venv store) [] [] [] where
  parts := rfl
  speaks := fun _ => rfl
  agree := fun _ => Or.inr ⟨rfl, rfl⟩
  silent := by simp

end Server

/-! ## The result -/

/-- The deed leaves the diagnostics of a document as they are: it does not close the document, and
if it tells a lint of it, the lint met with a failure that may pass. -/
def Deed.Leaves (uri : Uri) : Deed → Prop
  | closed other => uri ≠ other
  | told _ finding => finding.job.Lints uri →
      ∃ failure, finding.output = .error failure ∧ failure.isConfiguration = false
  | _ => True

theorem Deed.leaves_iff {deed : Deed} {uri : Uri} : deed.Leaves uri ↔ deed.found? uri = none := by
  cases deed with
  | closed other => simp [Leaves, found?]
  | told number finding =>
      by_cases lints : finding.job.Lints uri
      · cases output : finding.output with
        | ok stdout => simp [Leaves, found?, lints, Finding.result?, output]
        | error failure => simp [Leaves, found?, lints, Finding.result?, output]
      · simp [Leaves, found?, lints]
  | _ => simp [Leaves, found?]

/-- The diagnostics come from a deed that brings some: a lint of the document that ran well. -/
theorem Deed.found?_eq_some_some {deed : Deed} {uri : Uri} {diagnostics : List Diagnostic} :
    deed.found? uri = some (some diagnostics) ↔
      ∃ number finding stdout, deed = .told number finding ∧ finding.job.Lints uri ∧
        finding.output = .ok stdout ∧ diagnostics = finding.job.diagnostics stdout := by
  constructor
  · intro brings
    cases deed with
    | told number finding =>
        have lints := told_found? brings
        rw [found?, if_pos lints] at brings
        unfold Finding.result? at brings
        split at brings
        · next stdout output =>
            cases brings
            exact ⟨number, finding, stdout, rfl, lints, output, rfl⟩
        · split at brings <;> cases brings
    | closed other =>
        rw [found?] at brings
        split at brings <;> cases brings
    | _ => cases brings
  · rintro ⟨number, finding, stdout, rfl, lints, output, rfl⟩
    simp [found?, lints, Finding.result?, output]

/-- The last diagnostics that were published for a document, if any were, are those that are
stored. -/
def KnowsStored (server : Server) (history : List Deed) : Prop :=
  ∀ uri shown, publishedIn? uri history = some shown →
    shown = (server.diagnostics.get? uri).getD []

/-- What holds of the diagnostics of a server after a course of events. -/
structure StoreFollows (server : Server) (rounds : List Round) : Prop where
  /-- Stored are the diagnostics of the last lint of the document that was told and ran well, if
  it has not been closed since and no lint that was told has failed for good. -/
  stored : ∀ uri diagnostics, (server.course rounds).1.diagnostics.get? uri = some diagnostics ↔
    ∃ before number finding stdout after,
      (server.course rounds).2 = before ++ .told number finding :: after ∧
      finding.job.Lints uri ∧ finding.output = .ok stdout ∧
      diagnostics = finding.job.diagnostics stdout ∧ ∀ deed ∈ after, deed.Leaves uri
  /-- A lint is told only while it counts. -/
  told : ∀ before number finding, Comes (server.course rounds).2 before (.told number finding) →
    finding.job.errand.mode = .lint → Current number finding.job.document before
  /-- What is told is what the end of its tool amounts to, in the turn of that event, or no tool was
  run for it. -/
  reflects : ∀ number finding, .told number finding ∈ (server.course rounds).2 →
    ∃ first round later, rounds = first ++ round :: later ∧
      .told number finding ∈ ((server.course first).1.turnIn round).deeds ∧
      finding.Reflects round.event number
  /-- When the tool of a lint that counts ends, what that amounts to is told. -/
  ended : ∀ first round later, rounds = first ++ round :: later →
    ∀ number job python outcome, (server.course first).1.jobs.get? number = some job →
      job.wait = .tool python → job.superseded = false →
      round.event = .ended number (.finished outcome) →
        .told number ⟨job,
            (conclude (job.command python) (ToolOutput.ofOutcome outcome)).map some⟩ ∈
          ((server.course first).1.turnIn round).deeds
  /-- A lint that is over was told, unless its document was touched. -/
  settled : ∀ number document, .begun number document ∈ (server.course rounds).2 →
    (∃ job, (server.course rounds).1.jobs.get? number = some job) ∨
      (∃ finding, .told number finding ∈ (server.course rounds).2) ∨
      Outdated number document (server.course rounds).2
  /-- A turn that tells nothing that counts for a document leaves what is stored about it. -/
  steady : ∀ round uri,
    (∀ deed ∈ ((server.course rounds).1.turnIn round).deeds, deed.Leaves uri) →
      ((server.course rounds).1.turnIn round).server.diagnostics.get? uri =
        (server.course rounds).1.diagnostics.get? uri
  /-- Every document with an entry is open. -/
  opened : ∀ uri diagnostics, (server.course rounds).1.diagnostics.get? uri = some diagnostics →
    ∃ document, (server.course rounds).1.documents.get? uri = some document
  /-- Until the server exits, what was published last about a document is what is stored; and where
  nothing was published, nothing is stored. -/
  published : (server.course rounds).1.phase ≠ .exited →
    KnowsStored (server.course rounds).1 (server.course rounds).2 ∧
      ∀ uri, publishedIn? uri (server.course rounds).2 = none →
        (server.course rounds).1.diagnostics.get? uri = none
  /-- What was published by the time of the exit is what the results that were told by then leave,
  and nothing is published any more. -/
  exited : (server.course rounds).1.phase = .exited →
    ∃ heard unheard, (server.course rounds).2 = heard ++ unheard ∧ server.Exits rounds heard ∧
      (∀ uri, Agree uri heard) ∧ ∀ deed ∈ unheard, ∀ uri, deed.published? uri = none

/-- Found in a document is what the last finding told that does not leave it alone amounts to. -/
theorem foundIn?_eq_some {uri : Uri} {history : List Deed} {diagnostics : List Diagnostic} :
    foundIn? uri history = some diagnostics ↔
      ∃ before number finding stdout after, history = before ++ .told number finding :: after ∧
        finding.job.Lints uri ∧ finding.output = .ok stdout ∧
        diagnostics = finding.job.diagnostics stdout ∧ ∀ deed ∈ after, deed.Leaves uri := by
  rw [foundIn?, Option.join_eq_some_iff, latest?_eq_some_iff]
  constructor
  · rintro ⟨before, deed, after, rfl, brings, silent⟩
    obtain ⟨number, finding, stdout, rfl, lints, output, same⟩ :=
      Deed.found?_eq_some_some.mp brings
    exact ⟨before, number, finding, stdout, after, rfl, lints, output, same,
      fun later member => Deed.leaves_iff.mpr (silent later member)⟩
  · rintro ⟨before, number, finding, stdout, after, rfl, lints, output, same, leaves⟩
    exact ⟨before, .told number finding, after, rfl,
      Deed.found?_eq_some_some.mpr ⟨number, finding, stdout, rfl, lints, output, same⟩,
      fun later member => Deed.leaves_iff.mp (leaves later member)⟩

/-- What leaves a document alone changes nothing about what is found in it. -/
theorem foundIn?_append_all {uri : Uri} {history more : List Deed}
    (leaves : ∀ deed ∈ more, deed.Leaves uri) :
    foundIn? uri (history ++ more) = foundIn? uri history := by
  have silent : latest? (Deed.found? uri) more = none := by
    rw [latest?, List.findSome?_eq_none_iff]
    intro deed member
    exact Deed.leaves_iff.mp (leaves deed (by simpa using member))
  rw [foundIn?, latest?_append, silent, Option.none_or, foundIn?]

/-- The store follows the history in every course of events, and the editor knows what is stored
until the server exits. -/
theorem Server.storeFollows (environ : Variables) (configFile : Option Path) (venv : Path)
    (store : Store) (rounds : List Round) :
    StoreFollows (start environ configFile venv store) rounds := by
  have starts := start_sound environ configFile venv store
  have begins := start_heard environ configFile venv store
  have serves : (start environ configFile venv store).phase ≠ .exited := by rintro ⟨⟩
  generalize start environ configFile venv store = server at *
  have sound := course_sound starts rounds
  rw [List.nil_append] at sound
  obtain ⟨heard, unheard, knows, exits⟩ := course_heard starts begins serves rounds
  refine
    { stored := fun uri diagnostics => by rw [sound.found, foundIn?_eq_some]
      told := fun before number finding comes mode => ((sound.right _ _ comes).1 mode).1
      reflects := fun number finding told => course_told starts rounds told
      ended := ?ended
      settled := sound.ended
      steady := ?steady
      opened := ?opened
      published := ?published
      exited := fun exited =>
        ⟨heard, unheard, knows.parts, exits exited, knows.agree, knows.silent⟩ }
  case ended =>
    intro first round later _ number job python outcome held waits counts event
    have held : ((server.course first).1.arranged round.rank).jobs.get? number = some job := held
    rw [turnIn, turnOn, event, Turn.step_ended held waits counts]
    exact Turn.finish_tells _ number _
  case steady =>
    intro round uri leaves
    rw [(turnIn_sound sound round).found, foundIn?_append_all leaves, sound.found]
  case opened =>
    intro uri diagnostics held
    refine Option.ne_none_iff_exists'.mp fun absent => ?_
    rw [sound.bare uri absent] at held
    cases held
  case published =>
    intro speaks
    have whole := knows.parts
    rw [knows.speaks speaks, List.append_nil] at whole
    refine ⟨fun uri shown published => ?_, fun uri silent => ?_⟩ <;>
      rw [sound.found, whole] <;> rw [whole] at *
    · rcases knows.agree uri with agree | ⟨silent, -⟩
      · exact Option.some.inj (published.symm.trans agree)
      · rw [silent] at published
        cases published
    · rcases knows.agree uri with agree | ⟨-, nothing⟩
      · rw [silent] at agree
        cases agree
      · exact nothing

/-! ### A lint that outlives the exit -/

namespace Sample

/-- The tool that works for a job ends well, and has printed the text. -/
def prints (number : Nat) (text : String) : Round :=
  ⟨⟨interpreter, .ended number (.finished ⟨text.toUTF8, "".toUTF8, .exited 0⟩), false⟩,
    fun _ => 0⟩

/-- What the tool prints about a problem. -/
def problem : String :=
  "<filename>-</filename><line>1:0</line><code>H025</code><message>Orphan tag.</message>"

/-- The document is changed. -/
def edits : Round :=
  sends interpreter "textDocument/didChange" none (some (.object
    [("textDocument", .object [("uri", .text "file:///a"), ("version", Json.ofNat 2)]),
      ("contentChanges", .array [.object [("text", .text "<p>")]])]))

/-- A problem is found in the document; the document is changed, and the server told to exit, before
the tool ends that finds nothing in it any more. -/
def outlives : List Round :=
  [begins, opensThere, prints 0 problem, edits, exits, prints 1 ""]

end Sample

open Sample in
/-- The editor still knows of a problem, and nothing is stored any more. -/
theorem sample_unheard :
    ¬ KnowsStored ((Server.start [] none ⟨[]⟩ .inMemory).course outlives).1
      ((Server.start [] none ⟨[]⟩ .inMemory).course outlives).2 := by
  intro knows
  obtain ⟨stored, shown⟩ :
      ((Server.start [] none ⟨[]⟩ .inMemory).course outlives).1.diagnostics.get? (page "a") =
          some [] ∧
        (publishedIn? (page "a") ((Server.start [] none ⟨[]⟩ .inMemory).course outlives).2).map
          List.length = some 1 := by
    decide +kernel
  obtain ⟨diagnostics, published, one⟩ := Option.map_eq_some_iff.mp shown
  rw [knows _ _ published, stored] at one
  cases one

end TemplateLint
