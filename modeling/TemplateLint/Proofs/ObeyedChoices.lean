import TemplateLint.Proofs.AkinCourses
import TemplateLint.Proofs.EffectiveSettings
import TemplateLint.Proofs.Restarts
import TemplateLint.Proofs.ToldErrors

/-!
# Choices of the user are obeyed

A user who is shown that the tool is missing may choose not to be shown it again, for a folder or
everywhere.  From then on no job that still has to get its settings shows it, whatever the editor
brings as settings: the choices stand above them all.  The error is still logged, and when it comes
to its popup nothing is shown and what was shown last stays.  Other errors are shown in the same way
with any choices, after what was shown last; and nothing but popups depends on choices.
Main exports: `Turn.act_store`, `Server.course_isSuppressed`, `Known.hiding`, `Server.StepsIn`,
`ObeysChoices`, `Server.obeysChoices`.
-/

namespace TemplateLint

/-! ## No choice is taken back -/

/-- A store that records something still holds what it held. -/
theorem Store.isSuppressed_record {store : Store} {folder : Option Path}
    (suppressed : store.isSuppressed folder = true) (scope : Scope) :
    (store.record scope).isSuppressed folder = true := by
  rw [isSuppressed_iff_cover] at suppressed ⊢
  rw [cover_record]
  exact Or.inl suppressed

/-- Under a choice it is not shown that the tool is missing. -/
theorem Store.isOn_apply {store : Store} {folder : Option Path}
    (suppressed : store.isSuppressed folder = true) (settings : Settings) :
    (store.apply folder settings).isOn "showInstallError" = false := by
  rw [Settings.isOn, get?_apply, if_pos ⟨suppressed, rfl⟩]

namespace Turn

variable {turn next : Turn}

/-- An act leaves the choices as they are, or one is recorded. -/
theorem act_store (act : Act turn next) :
    next.server.store = turn.server.store ∨
      ∃ scope, next.server.store = turn.server.store.record scope := by
  have suppressed (turn : Turn) (scope : Scope) :
      (turn.suppress scope).server.store = turn.server.store.record scope := by
    unfold suppress
    split
    · next store disk same => exact (congrArg Prod.fst same).symm
    · next store error same => exact (congrArg Prod.fst same).symm
  cases act with
  | count => exact Or.inl rfl
  | reply id result => exact Or.inl rfl
  | greet message => exact Or.inl (Speaks.tell turn _).store
  | serve id params fresh =>
      refine Or.inl ?_
      unfold beginServing loadSettings
      simp only
      split
      · rfl
      · split
        · rfl
        · exact (Speaks.tell _ _).store
  | closing ready => exact Or.inl rfl
  | shutDown id closing => exact Or.inl (shutDown_stops turn id).store
  | exit => exact Or.inl rfl
  | configure client ready => exact Or.inl rfl
  | folders change => exact Or.inl rfl
  | close uri ready =>
      obtain ⟨inFlight, jobs, same, -⟩ := supersede_frame turn uri
      unfold heedClosed
      rw [same]
      exact Or.inl (Speaks.publish _ uri [] none).store
  | answered question => exact Or.inl rfl
  | choose details folder action =>
      unfold choose
      split
      · exact Or.inl (Speaks.tell turn _).store
      · exact Or.inr ⟨_, suppressed turn _⟩
      · exact Or.inl rfl
      · exact Or.inr ⟨_, suppressed turn _⟩
  | beginLint origin uri document others held =>
      exact Or.inl (beginLint_takes turn origin document others).store
  | renewLint origin document ready => exact Or.inl (renewLint_takes turn origin document).store
  | beginFormat origin request tabSize uri document held =>
      exact Or.inl (beginFormat_takes turn origin request tabSize document).store
  | hold number job wait carries => exact Or.inl rfl
  | askSettings number job carries => exact Or.inl (Toil.askSettings turn number _ _).store
  | enqueue number => exact Or.inl rfl
  | release number => exact Or.inl rfl
  | remember => exact Or.inl rfl
  | removeOld number job carries => exact Or.inl rfl
  | startSetup number job stage launch carries launched => exact Or.inl rfl
  | startTool number job python launch carries launched => exact Or.inl rfl
  | finishLint number finding carries lints counts =>
      exact Or.inl (finishLint_ends turn number finding).store
  | finishFormat number request finding carries formats =>
      exact Or.inl (finishFormat_ends turn number request finding).store
  | drop number job carries superseded => exact Or.inl (drop_ends turn number _).store
  | cancel number request job carries formats =>
      have killed := killFor_server turn number
      refine Or.inl ?_
      unfold cancelJob abandon reply emit note discharge release update
      simp only [killed]
  | report number job failure held => exact Or.inl (Talks.report turn number job failure).store
  | popUp number job failure held => exact Or.inl (Talks.popUp turn number job failure).1.store
  | conclude number telling held all => exact Or.inl rfl
  | cancelTelling number request telling held formats => exact Or.inl rfl

theorem acts_isSuppressed (acts : Acts turn next) {folder : Option Path}
    (suppressed : turn.server.store.isSuppressed folder = true) :
    next.server.store.isSuppressed folder = true := by
  induction acts with
  | refl => exact suppressed
  | tail _ act inductionHypothesis =>
      rcases act_store act with same | ⟨scope, recorded⟩
      · rwa [same]
      · rw [recorded]
        exact Store.isSuppressed_record inductionHypothesis scope

end Turn

namespace Server

variable {server : Server} {history : List Deed}

theorem turnIn_acts (sound : Sound server history) (round : Round) :
    Acts ⟨server.arranged round.rank, round.disk, []⟩ (server.turnIn round) :=
  (turnIn_leads sound round).acts

/-- What the user has chosen is still chosen after any course. -/
theorem course_isSuppressed (sound : Sound server history) (rounds : List Round)
    {folder : Option Path} (suppressed : server.store.isSuppressed folder = true) :
    (server.course rounds).1.store.isSuppressed folder = true := by
  induction rounds using List.reverseRecOn with
  | nil => exact suppressed
  | append_singleton rounds last inductionHypothesis =>
      rw [course_concat]
      exact Turn.acts_isSuppressed (turnIn_acts (course_sound sound rounds) last)
        inductionHypothesis

end Server

/-! ## What is known of the jobs to come -/

/-- The settings of a job do not show that the tool is missing, if the store has the choice. -/
def Known.hiding (store : Store) : Known where
  asking := fun _ => True
  fixed := fun basis =>
    store.isSuppressed basis.folder = true → basis.settings.isOn "showInstallError" = false

namespace Server

variable {server : Server} {history : List Deed} {store : Store} {number : Nat}

/-- A server that has the choices of the store goes by them. -/
theorem grants_hiding
    (keeps : ∀ folder, store.isSuppressed folder = true →
      server.store.isSuppressed folder = true) : server.Grants (.hiding store) where
  asking := fun _ _ _ _ => trivial
  fixed := fun _ basis _ same suppressed => by
    rw [same]
    exact Store.isOn_apply (keeps _ suppressed) _

/-- A job that has no settings yet gets them under the choices that there are now. -/
theorem course_hiding (sound : Sound server history)
    (waits : ∀ job, server.jobs.get? number = some job → job.wait = .editor)
    (rounds : List Round) :
    (∀ job, (server.course rounds).1.jobs.get? number = some job →
      job.Fits (.hiding server.store)) ∧
      ∀ finding, .told number finding ∈ (server.course rounds).2 →
        (Known.hiding server.store).fixed finding.job.basis := by
  induction rounds using List.reverseRecOn with
  | nil =>
      refine ⟨fun job held => ?_, fun _ told => absurd told List.not_mem_nil⟩
      exact ⟨fun _ => trivial, fun settled => absurd (waits job held) settled⟩
  | append_singleton rounds last inductionHypothesis =>
      obtain ⟨fits, told⟩ := inductionHypothesis
      have later := course_sound sound rounds
      have keeps (folder : Option Path) (suppressed : server.store.isSuppressed folder = true) :=
        course_isSuppressed sound rounds suppressed
      have still (folder : Option Path) (suppressed : server.store.isSuppressed folder = true) :=
        course_isSuppressed sound (rounds ++ [last]) suppressed
      rw [course_concat] at still ⊢
      generalize server.course rounds = story at fits told later keeps still ⊢
      have agrees : Turn.Agrees (.hiding server.store) number (story.1.turnIn last) := by
        have idle (fresh : story.1.phase = .fresh) := later.unasked fresh
        refine Turn.step_agrees last.event last.eager idle ?answered (fun _ => grants_hiding still)
          ⟨fits, fun _ told => absurd told List.not_mem_nil⟩
        case answered =>
          intro question result job _ _ _ _ suppressed
          exact Store.isOn_apply (keeps _ suppressed) _
      refine ⟨agrees.held, fun finding member => ?_⟩
      rcases List.mem_append.mp member with before | here
      · exact told finding before
      · exact agrees.told finding here

end Server

/-! ## Steps of a turn -/

/-- In the turn of a round the server comes to an act, and goes on after it. -/
structure Server.StepsIn (server : Server) (round : Round) (one two : Turn) : Prop where
  comes : Acts ⟨server.arranged round.rank, round.disk, []⟩ one
  act : Act one two
  goesOn : Acts two (server.turnIn round)

/-- A failure that is considered has been told before. -/
theorem Sound.told_of_considered {server : Server} {history : List Deed}
    (sound : Sound server history) {number : Nat} {job : Job} {failure : Failure}
    (considered : .considered number job failure ∈ history) :
    .told number ⟨job, .error failure⟩ ∈ history := by
  obtain ⟨before, after, rfl⟩ := List.append_of_mem considered
  have logged : .logged number job failure ∈ before := sound.right _ _ ⟨after, rfl⟩
  obtain ⟨first, rest, rfl⟩ := List.append_of_mem logged
  have told : .told number ⟨job, .error failure⟩ ∈ first :=
    sound.right first (.logged number job failure)
      ⟨rest ++ .considered number job failure :: after, by simp⟩
  simp [told]

namespace Server

variable {server : Server} {history before after : List Deed} {round : Round} {number : Nat}
  {job : Job} {failure : Failure}

/-- Wherever a failure is considered in a turn, the server came to this and did nothing else. -/
theorem turnIn_considers (sound : Sound server history)
    (split : (server.turnIn round).deeds = before ++ .considered number job failure :: after) :
    ∃ one, server.StepsIn round one (one.popUp number job failure) ∧ one.deeds = before := by
  obtain ⟨one, comes, act, here, goesOn⟩ := (turnIn_acts sound round).considered_reached rfl split
  exact ⟨one, ⟨comes, act, goesOn⟩, here⟩

/-- Wherever there is a popup in a turn, its failure was considered right before it, and is not
hidden. -/
theorem turnIn_asks (sound : Sound server history) {popup : Deed} (asks : popup.isPopup = true)
    (split : (server.turnIn round).deeds = before ++ popup :: after) :
    ∃ one number job failure, server.StepsIn round one (one.popUp number job failure) ∧
      before = one.deeds ++ [.considered number job failure] ∧
      failure.isHidden job.settings = false ∧
      popup = .effect (.ask one.server.nextQuestion
        (.choice failure.message ((failure.actions job.folder).map PopupAction.title))) := by
  obtain ⟨one, number, job, failure, comes, act, here, shown, goesOn⟩ :=
    (turnIn_acts sound round).popup_reached rfl asks split
  unfold Turn.popup? at shown
  split at shown
  · cases shown
  · next shows =>
      cases shown
      exact ⟨one, number, job, failure, ⟨comes, act, goesOn⟩, here,
        by simpa using fun hides => shows (Or.inr (Or.inl hides)), rfl⟩

end Server

/-! ## The result -/

/-- A server obeys the choices of the user, and they matter to nothing else. -/
structure ObeysChoices (server : Server) : Prop where
  /-- A choice stays. -/
  kept : ∀ early late folder, (server.course early).1.store.isSuppressed folder = true →
    (server.course (early ++ late)).1.store.isSuppressed folder = true
  /-- What a job has come to is told for the folder that its document was in when the job was taken
  up. -/
  folder : ∀ rounds number finding, .told number finding ∈ (server.course rounds).2 →
    ∃ earlier taken, earlier ++ [taken] <+: rounds ∧ server.TakesUp earlier taken number ∧
      finding.job.folder =
        finding.job.document.folderIn? (server.course (earlier ++ [taken])).1.folders
  /-- A failure that is told is logged, and then it is considered whether to show it, as soon as the
  editor has taken what it was told before; unless the request of the job is cancelled. -/
  accounted : ∀ rounds, Accounted (server.course rounds).1 (server.course rounds).2
  /-- To tell a failure changes nothing about what was shown last. -/
  told : ∀ rounds round number job failure before after,
    ((server.course rounds).1.turnIn round).deeds =
        before ++ .told number ⟨job, .error failure⟩ :: after →
      ∃ one two late, (server.course rounds).1.StepsIn round one two ∧ one.deeds = before ∧
        two.deeds = before ++ .told number ⟨job, .error failure⟩ :: late ∧
        two.server.lastError = one.server.lastError
  /-- To log it neither, and its details are logged at once as long as the editor listens. -/
  logged : ∀ rounds round number job failure before after,
    ((server.course rounds).1.turnIn round).deeds =
        before ++ .logged number job failure :: after →
      ∃ one two, (server.course rounds).1.StepsIn round one two ∧
        two.deeds = before ++ .logged number job failure ::
          (if one.server.phase = .exited then []
          else [.effect (.tell (.log .error failure.details))]) ∧
        two.server.lastError = one.server.lastError
  /-- When the choice was there before a job got its settings, the job does not show that the tool
  is missing: no popup follows when that is considered, and what was shown last stays. -/
  hidden : ∀ early late round number job failure before after,
    (server.course early).1.store.isSuppressed job.folder = true →
      (∀ job, ¬ HasSettings (server.course early) number job) →
        ((server.course (early ++ late)).1.turnIn round).deeds =
            before ++ .considered number job failure :: after →
          failure.isNotInstalled = true →
            (∀ deed ∈ after.head?, deed.isPopup = false) ∧
              ∃ one, (server.course (early ++ late)).1.StepsIn round one
                  (one.popUp number job failure) ∧
                one.deeds = before ∧
                (one.popUp number job failure).deeds =
                  before ++ [.considered number job failure] ∧
                (one.popUp number job failure).server.lastError = one.server.lastError
  /-- Any other error is shown when it is considered, whatever was chosen, unless the last popup said
  the same. -/
  others : ∀ rounds round number job failure before after,
    ((server.course rounds).1.turnIn round).deeds =
        before ++ .considered number job failure :: after →
      failure.isNotInstalled = false →
        ∃ one, (server.course rounds).1.StepsIn round one (one.popUp number job failure) ∧
          one.deeds = before ∧
          (one.popUp number job failure).server.lastError = some failure.message ∧
          (one.popUp number job failure).deeds = before ++ .considered number job failure ::
            (if one.server.phase = .exited ∨ one.server.lastError = some failure.message then []
            else [.effect (.ask one.server.nextQuestion (.choice failure.message ["Details"]))])
  /-- There are no popups but those: each comes right after its failure was considered, and the
  settings of the job do not hide it. -/
  asked : ∀ rounds round popup before after,
    ((server.course rounds).1.turnIn round).deeds = before ++ popup :: after →
      popup.isPopup = true →
        ∃ one number job failure,
          (server.course rounds).1.StepsIn round one (one.popUp number job failure) ∧
          before = one.deeds ++ [.considered number job failure] ∧
          failure.isHidden job.settings = false ∧
          popup = .effect (.ask one.server.nextQuestion
            (.choice failure.message ((failure.actions job.folder).map PopupAction.title)))
  /-- With other choices the server does the same but for popups. -/
  results : ∀ store rounds twins, server.Alongside { server with store } rounds twins →
    Server.outline (Server.course { server with store } twins).2 =
      Server.outline (server.course rounds).2
  /-- It can be told the same with other choices. -/
  replayed : ∀ store rounds, ∃ twins, server.Alongside { server with store } rounds twins

namespace Server

/-- Under a choice that was there before the job got its settings, these hide that the tool is
missing. -/
theorem hides_of_chosen {server : Server} (sound : ∀ rounds,
      Sound (server.course rounds).1 (server.course rounds).2)
    {early late : List Round} {round : Round} {number : Nat} {job : Job} {failure : Failure}
    (suppressed : (server.course early).1.store.isSuppressed job.folder = true)
    (waits : ∀ job, ¬ HasSettings (server.course early) number job)
    (considered : .considered number job failure ∈
      ((server.course (early ++ late)).1.turnIn round).deeds)
    (missing : failure.isNotInstalled = true) : failure.isHidden job.settings = true := by
  have editor (job : Job) (held : (server.course early).1.jobs.get? number = some job) :
      job.wait = .editor := by
    by_contra settled
    exact waits job (Or.inl ⟨held, settled⟩)
  obtain ⟨-, settled⟩ := course_hiding (sound early) editor (late ++ [round])
  have among : .considered number job failure ∈
      (server.course (early ++ late ++ [round])).2 := by
    rw [course_concat]
    exact List.mem_append_right _ considered
  have told := (sound _).told_of_considered among
  rw [List.append_assoc, course_append, List.mem_append] at told
  have later := told.resolve_left fun before => waits job (Or.inr ⟨_, before⟩)
  have off := settled ⟨job, .error failure⟩ later suppressed
  simp [Failure.isHidden, missing, show job.settings.isOn _ = false from off]

/-- Every server obeys the choices of its user, from its start on. -/
theorem obeysChoices (environ : Variables) (configFile : Option Path) (venv : Path)
    (store : Store) : ObeysChoices (start environ configFile venv store) := by
  have begins := start_sound environ configFile venv store
  have asks := start_inquires environ configFile venv store
  have starts := start_laidOut environ configFile venv store
  have idle (number : Nat) : (start environ configFile venv store).jobs.get? number = none := rfl
  have silent (number : Nat) :
      (start environ configFile venv store).tellings.get? number = none := rfl
  have akin (other : Store) : (start environ configFile venv store).Akin
      { start environ configFile venv store with store := other } :=
    start_akin environ configFile venv store other
  generalize start environ configFile venv store = server at begins asks starts idle silent akin
  have sound (rounds : List Round) : Sound (server.course rounds).1 (server.course rounds).2 :=
    course_sound begins rounds
  refine { kept := ?kept, folder := ?folder, accounted := ?accounted, told := ?told,
           logged := ?logged, hidden := ?hidden, others := ?others, asked := ?asked,
           results := ?results, replayed := ?replayed }
  case kept =>
    intro early late folder suppressed
    rw [course_append]
    exact course_isSuppressed (sound early) late suppressed
  case folder =>
    intro rounds number finding told
    have tracked := course_tracked sound (course_inquires begins asks)
      (course_laidOut begins starts) idle rounds number
    obtain ⟨earlier, taken, meanwhile, -, within, takesUp, folder, -⟩ := tracked.2 finding told
    exact ⟨earlier, taken, (List.prefix_append _ _).trans within, takesUp, folder⟩
  case accounted => exact fun rounds => course_accounted begins silent rounds
  case told =>
    intro rounds round number job failure before after split
    obtain ⟨one, two, late, comes, act, goesOn, here, there, last⟩ :=
      (turnIn_acts (sound rounds) round).failed_reached rfl split
    exact ⟨one, two, late, ⟨comes, act, goesOn⟩, here, there, last⟩
  case logged =>
    intro rounds round number job failure before after split
    obtain ⟨one, two, comes, act, goesOn, there, last⟩ :=
      (turnIn_acts (sound rounds) round).logged_reached rfl split
    rw [Turn.log?, apply_ite Option.toList] at there
    exact ⟨one, two, ⟨comes, act, goesOn⟩, there, last⟩
  case hidden =>
    intro early late round number job failure before after suppressed waits split missing
    have among : .considered number job failure ∈
        ((server.course (early ++ late)).1.turnIn round).deeds := by simp [split]
    have hides := hides_of_chosen sound suppressed waits among missing
    obtain ⟨one, steps, here⟩ := turnIn_considers (sound (early ++ late)) split
    refine ⟨?unshown, one, steps, here, ?deeds, ?last⟩
    case unshown =>
      cases after with
      | nil => simp
      | cons next rest =>
          rintro deed ⟨⟩
          by_contra asks
          have later : ((server.course (early ++ late)).1.turnIn round).deeds =
              (before ++ [.considered number job failure]) ++ next :: rest := by simpa using split
          obtain ⟨other, name, own, error, -, same, shows, -⟩ :=
            turnIn_asks (sound (early ++ late)) (by simpa using asks) later
          obtain ⟨-, ⟨⟩⟩ := List.append_inj' same rfl
          rw [hides] at shows
          cases shows
    case deeds => simp [Turn.deeds_popUp, Turn.popup?, hides, here]
    case last => rw [Turn.lastError_popUp, if_pos hides]
  case others =>
    intro rounds round number job failure before after split other
    have shown : failure.isHidden job.settings = false := by simp [Failure.isHidden, other]
    have titles : (failure.actions job.folder).map PopupAction.title = ["Details"] := by
      simp [Failure.actions, other, PopupAction.title]
    obtain ⟨one, steps, here⟩ := turnIn_considers (sound rounds) split
    refine ⟨one, steps, here, ?last, ?deeds⟩
    case last => rw [Turn.lastError_popUp, shown, if_neg Bool.false_ne_true]
    case deeds =>
      rw [Turn.deeds_popUp, Turn.popup?, shown, titles, here, apply_ite Option.toList]
      simp
  case asked =>
    exact fun rounds round popup before after split asks => turnIn_asks (sound rounds) asks split
  case results => exact fun other rounds twins alongside => (alongside.akin (akin other)).2
  case replayed => exact fun other rounds => (akin other).alongside rounds

/-- The errors that were shown, apart from the missing tool: their popups offer the details only. -/
def othersShown (history : List Deed) : List String :=
  history.filterMap fun deed =>
    match deed with
    | .effect (.ask _ (.choice message ["Details"])) => some message
    | _ => none

end Server

namespace Sample

/-- The only document is saved, and so it is linted again. -/
def savesPage : Round :=
  sends interpreter "textDocument/didSave" none (some (.object
    [("textDocument", .object [("uri", .text "file:///a")])]))

/-- The tool fails, is missing, and fails in the same way as before; each time all is told. -/
def failsAgain : List Round :=
  [begins, opensThere, fails 0 3 "boom", wakes 0, savesPage, fails 1 1 "No module named djlint",
    wakes 1, wakes 1, savesPage, fails 2 3 "boom", wakes 2]

/-- Under a choice only the first error is shown, and it stays what was shown last. -/
example :
    let story := (Server.start [] none ⟨[]⟩ ⟨none, Choices.nothing.addEverywhere⟩).course
      (failsAgain.take 8)
    (story.2.filter Deed.isPopup).length = 1 ∧ story.1.lastError = some "boom" := by
  decide +kernel

open Server in
/-- A choice can make a difference to an error of another kind: between two equal ones the missing
tool would have been shown, and since it was not, the second one is not shown either. -/
theorem othersShown_differ :
    ¬ ∀ environ configFile venv store other rounds twins,
      (start environ configFile venv store).Alongside (start environ configFile venv other)
          rounds twins →
        othersShown ((start environ configFile venv other).course twins).2 =
          othersShown ((start environ configFile venv store).course rounds).2 := by
  intro same
  have unanswered : ∀ round ∈ failsAgain, ∀ id result,
      round.event ≠ .received (.answer id result) := by
    simp [failsAgain, begins, opensThere, opens, savesPage, sends, fails, wakes]
  have shown := same [] none ⟨[]⟩ .inMemory ⟨none, Choices.nothing.addEverywhere⟩ failsAgain
    failsAgain ((start_akin _ _ _ _ _).alongside_unanswered failsAgain unanswered)
  exact absurd shown (by decide +kernel)

end Sample

end TemplateLint
