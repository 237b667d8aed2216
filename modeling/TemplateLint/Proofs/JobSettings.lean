import TemplateLint.Proofs.Relints

/-!
# What is known of the settings of a job

The settings of a job are fixed in two moments.  When it is taken up, those of all documents are
taken; the answer of the editor and the choices of the user come over them when the editor has
answered, or at once when it is not asked.  What is known of the settings at these moments stays
true of them, in the table of jobs as in the findings that are told.
Main exports: `Basis`, `Known`, `Turn.Agrees`, `Server.Grants`, `Turn.Serves`, `Turn.Minds`,
`Turn.step_minds`.
-/

namespace TemplateLint

/-- The settings of a job, and what they are settings of. -/
structure Basis where
  document : Document
  folder : Option Path
  settings : Settings

def Job.basis (job : Job) : Basis :=
  ⟨job.document, job.folder, job.settings⟩

/-- What is known of the settings of a job: while the editor is asked for them, and once they are
fixed. -/
structure Known where
  asking : Basis → Prop
  fixed : Basis → Prop

/-- Nothing is known. -/
def Known.anything : Known := ⟨fun _ => True, fun _ => True⟩

/-- What is known is true of the job. -/
structure Job.Fits (known : Known) (job : Job) : Prop where
  asking : job.wait = .editor → known.asking job.basis
  fixed : job.wait ≠ .editor → known.fixed job.basis

namespace Turn

variable {turn middle next : Turn} {known : Known} {number name : Nat} {job : Job}

/-- What is known is true of the job under the number, and of what has been told of it. -/
structure Agrees (known : Known) (number : Nat) (turn : Turn) : Prop where
  held : ∀ job, turn.server.jobs.get? number = some job → job.Fits known
  told : ∀ finding, .told number finding ∈ turn.deeds → known.fixed finding.job.basis

/-! ## Jobs that are left alone -/

/-- Nothing is done about the job under the number, but that it may be superseded or dropped. -/
structure Spares (number : Nat) (turn next : Turn) : Prop where
  jobs : ∀ job, next.server.jobs.get? number = some job →
    ∃ entry, turn.server.jobs.get? number = some entry ∧
      (job = entry ∨ job = { entry with superseded := true })
  told : ∀ finding, .told number finding ∈ next.deeds → .told number finding ∈ turn.deeds

namespace Spares

theorem trans (one : Spares number turn middle) (two : Spares number middle next) :
    Spares number turn next := by
  refine ⟨fun job held => ?_, fun finding told => one.told finding (two.told finding told)⟩
  obtain ⟨later, there, kin⟩ := two.jobs job held
  obtain ⟨entry, here, same | same⟩ := one.jobs later there
  · subst same
    exact ⟨later, here, kin⟩
  · subst same
    exact ⟨entry, here, Or.inr (by rcases kin with rfl | rfl <;> rfl)⟩

/-- Whatever becomes of a job while others act, its settings stay. -/
theorem of_fate (fate : Fate (turn.server.jobs.get? number) (next.server.jobs.get? number))
    (told : ∀ finding, .told number finding ∈ next.deeds → .told number finding ∈ turn.deeds) :
    Spares number turn next := by
  refine ⟨fun job held => ?_, told⟩
  rw [held] at fate
  exact fate.of_some

/-- What is done is of a kind that tells nothing of the job. -/
theorem of_adds {kind : Deed → Prop}
    (fate : Fate (turn.server.jobs.get? number) (next.server.jobs.get? number))
    (adds : Adds kind turn next) (silent : ∀ finding, ¬ kind (.told number finding)) :
    Spares number turn next :=
  of_fate fate fun finding told => (adds.of_mem told).resolve_right (silent finding)

end Spares

/-- What goes on apart from the jobs spares every one of them. -/
theorem Apart.spares (apart : Apart turn next) (number : Nat) : Spares number turn next := by
  refine .of_adds (apart.jobs number) apart.adds fun finding aside => ?_
  rcases aside with speech | ⟨-, uri, same⟩
  · exact speech
  · cases same

/-- What is said about a finding tells no other one. -/
theorem Talks.spares (talks : Talks turn next) (number : Nat) : Spares number turn next :=
  .of_adds (talks.jobs ▸ .stays _) talks.adds fun _ => id

theorem Speaks.spares (speaks : Speaks turn next) (number : Nat) : Spares number turn next :=
  speaks.apart.spares number

theorem Stops.spares (stops : Stops turn next) (number : Nat) : Spares number turn next := by
  have noted : Spares number (turn.note .shutDown) next :=
    .of_adds (stops.jobs number) stops.adds fun _ => id
  refine ⟨noted.jobs, fun finding told => ?_⟩
  rcases List.mem_append.mp (noted.told finding told) with before | here
  · exact before
  · cases List.mem_singleton.mp here

theorem Takes.spares (takes : Takes name job turn next) (other : number ≠ name) :
    Spares number turn next := by
  refine .of_adds (takes.others number other) takes.adds fun finding take => ?_
  obtain ⟨-, same | same⟩ := take
  · cases same
  · cases same

/-- Work on one job spares every other one. -/
theorem Toil.spares (toil : Toil name turn next) (other : number ≠ name) :
    Spares number turn next :=
  .of_adds (toil.others number other ▸ .stays _) toil.adds fun _ => id

/-- The end of one job spares every other one. -/
theorem Ends.spares {finding : Option Finding} (ends : Ends name finding turn next)
    (other : number ≠ name) : Spares number turn next := by
  have same := ends.jobs number
  rw [if_neg other] at same
  refine .of_adds (same ▸ .stays _) ends.adds fun told kind => ?_
  rcases kind with speech | ⟨told, -, same⟩
  · exact speech
  · cases same
    exact other rfl

/-- What is known of a job stays true while the job is spared. -/
theorem Agrees.spared (agrees : turn.Agrees known number) (spares : Spares number turn next) :
    next.Agrees known number := by
  refine ⟨fun job held => ?_, fun finding told => agrees.told finding (spares.told finding told)⟩
  obtain ⟨entry, here, rfl | rfl⟩ := spares.jobs job held
  · exact agrees.held _ here
  · have fits := agrees.held entry here
    exact ⟨fits.asking, fits.fixed⟩

end Turn

/-! ## Jobs that are taken up -/

/-- The editor is asked for the settings of documents. -/
def Server.asks (server : Server) : Bool :=
  server.asksSettings && server.phase.isOpen

/-- What is known is true of a job that is taken up now. -/
structure Server.Grants (known : Known) (server : Server) : Prop where
  asking : server.asks = true → ∀ basis : Basis,
    basis.folder = basis.document.folderIn? server.folders →
      basis.settings = server.settings → known.asking basis
  fixed : server.asks = false → ∀ basis : Basis,
    basis.folder = basis.document.folderIn? server.folders →
      basis.settings = server.store.apply basis.folder server.settings → known.fixed basis

namespace Turn

variable {turn middle next : Turn} {known : Known} {number name : Nat} {job : Job}

/-- What a job is granted depends on nothing that a steady turn changes. -/
theorem Steady.grants (steady : Steady turn next) (grants : next.server.Grants known) :
    turn.server.Grants known := by
  have asks : next.server.asks = turn.server.asks := by
    rw [Server.asks, steady.asksSettings, steady.phase]
    rfl
  have settings := steady.settings
  obtain ⟨asking, fixed⟩ := grants
  rw [asks, settings, steady.folders] at asking
  rw [asks, settings, steady.folders, steady.store] at fixed
  exact ⟨asking, fixed⟩

/-- The server goes on with jobs and stays as steady as it is: what is known stays true of the job
under the number, and is true of it if it is taken up meanwhile. -/
structure Serves (known : Known) (number : Nat) (turn next : Turn) : Prop
    extends Steady turn next where
  nextJob : turn.server.nextJob ≤ next.server.nextJob
  agrees : (turn.server.nextJob ≤ number → next.server.Grants known) →
    turn.Agrees known number → next.Agrees known number

namespace Serves

theorem refl (turn : Turn) : Serves known number turn turn :=
  ⟨.refl turn, le_rfl, fun _ => id⟩

theorem trans (one : Serves known number turn middle) (two : Serves known number middle next) :
    Serves known number turn next where
  toSteady := one.toSteady.trans two.toSteady
  nextJob := one.nextJob.trans two.nextJob
  agrees := by
    intro grants agrees
    refine two.agrees (fun late => grants (one.nextJob.trans late)) (one.agrees ?_ agrees)
    exact fun late => two.toSteady.grants (grants late)

/-- Talk spares the job, whichever it is. -/
theorem of_talks (talks : Talks turn next) : Serves known number turn next :=
  ⟨talks.toSteady, talks.nextJob.ge, fun _ agrees => agrees.spared (talks.spares number)⟩

end Serves

/-- What a job has come to, by work or by a wait, is known. -/
structure Arrives (known : Known) (number : Nat) (result : Turn × Option Finding) : Prop where
  found : ∀ finding, result.2 = some finding → known.fixed finding.job.basis
  waits : result.2 = none → ∀ entry, result.1.server.jobs.get? number = some entry →
    entry.Fits known

/-- The basis of a job is its document, its folder and its settings. -/
theorem Job.Same.basis {other : Job} (same : job.Same other)
    (settings : other.settings = job.settings) : other.basis = job.basis := by
  rw [Job.basis, Job.basis, same.document, same.folder, settings]

/-- Work on a job whose settings are fixed. -/
theorem Settles.arrives {result : Turn × Option Finding} (settles : Settles turn number job result)
    (fixed : known.fixed job.basis) : Arrives known number result := by
  constructor
  · intro finding found
    rwa [Job.Same.basis (settles.finding finding found) (settles.found finding found)]
  · intro waits entry held
    obtain ⟨after, there, kept, apart⟩ := settles.waits waits
    obtain ⟨other, present, same⟩ := settles.carries
    cases held.symm.trans there
    cases held.symm.trans present
    exact ⟨fun editor => absurd editor apart,
      fun _ => by rwa [Job.Same.basis same.symm kept]⟩

/-- A job that is taken up and goes on. -/
theorem proceed_arrives (carries : turn.Carries number job)
    (folder : job.folder = job.document.folderIn? turn.server.folders)
    (grants : turn.server.Grants known) :
    Arrives known number (turn.proceed number job) := by
  have same : job.Same { job with settings := turn.server.settings } :=
    ⟨rfl, rfl, rfl, rfl, rfl⟩
  unfold proceed
  simp only
  split
  · next asks =>
      refine ⟨(by rintro _ ⟨⟩), fun _ entry held => ?_⟩
      rw [jobs_ask, get?_hold] at held
      cases held
      exact ⟨fun _ => grants.asking asks _ folder rfl, fun other => absurd rfl other⟩
  · next silent =>
      have silent : turn.server.asks = false := by simpa [Server.asks] using silent
      refine (settle_settles (carries.same same) none).arrives ?_
      exact grants.fixed silent _ folder rfl

/-- A job that goes on after some news.  When it has asked the editor, its settings are fixed by the
answer. -/
theorem resume_arrives (held : turn.server.jobs.get? number = some job) (fits : job.Fits known)
    (news : News) (answered : ∀ answer, news = .answer answer → job.wait = .editor →
      known.fixed (turn.settled job answer).basis) :
    Arrives known number (turn.resume number job news) := by
  have carries := carries_of_get? held
  have still : Arrives known number (turn, none) := by
    refine ⟨(by rintro _ ⟨⟩), fun _ entry present => ?_⟩
    cases held.symm.trans present
    exact fits
  unfold resume
  split
  · next waits => exact (settle_settles carries _).arrives (answered _ rfl waits)
  · next waits =>
      split
      · exact (takeTurn_settles carries).arrives (fits.fixed (by simp [waits]))
      · exact still
  · next waits => exact (setUp_settles carries _).arrives (fits.fixed (by simp [waits]))
  · next waits => exact (setUp_settles carries _).arrives (fits.fixed (by simp [waits]))
  · next waits => exact (Settles.ends carries _).arrives (fits.fixed (by simp [waits]))
  · next waits => exact (Settles.ends carries _).arrives (fits.fixed (by simp [waits]))
  · exact still

/-! ## From the beginning of work to its end -/

/-- The server is busy with the job under the name, and leaves all others alone. -/
structure Tends (name : Nat) (turn next : Turn) : Prop extends Steady turn next where
  nextJob : turn.server.nextJob ≤ next.server.nextJob
  others : ∀ number, number ≠ name → Spares number turn next
  told : ∀ finding, .told name finding ∈ next.deeds → .told name finding ∈ turn.deeds

namespace Tends

theorem trans (one : Tends name turn middle) (two : Tends name middle next) :
    Tends name turn next where
  toSteady := one.toSteady.trans two.toSteady
  nextJob := one.nextJob.trans two.nextJob
  others := fun number other => (one.others number other).trans (two.others number other)
  told := fun finding told => one.told finding (two.told finding told)

/-- Work on a job tends to it and tells nothing. -/
theorem of_toil (toil : Toil name turn next) : Tends name turn next where
  toSteady := toil.toSteady
  nextJob := toil.nextJob.ge
  others := fun _ other => toil.spares other
  told := fun _ told => (toil.adds.of_mem told).resolve_right id

/-- A job that is taken up is tended to, and nothing is told of it yet. -/
theorem of_takes (takes : Takes name job turn next) : Tends name turn next where
  toSteady := takes.toSteady
  nextJob := by rw [takes.nextJob, takes.numbered]; exact Nat.le_succ _
  others := fun _ other => takes.spares other
  told := by
    intro finding told
    refine (takes.adds.of_mem told).resolve_right ?_
    rintro ⟨-, same | same⟩
    · cases same
    · cases same

/-- Once the job waits, the server has served it. -/
theorem waits (tends : Tends name turn next)
    (fits : number = name → (turn.server.nextJob ≤ name → next.server.Grants known) →
      turn.Agrees known name → ∀ entry, next.server.jobs.get? name = some entry →
        entry.Fits known) :
    Serves known number turn next := by
  refine ⟨tends.toSteady, tends.nextJob, fun grants agrees => ?_⟩
  by_cases same : number = name
  · subst same
    refine ⟨fits rfl grants agrees, fun finding told => ?_⟩
    exact agrees.told finding (tends.told finding told)
  · exact agrees.spared (tends.others number same)

/-- Once the job has ended, the server has served it. -/
theorem ends {finding : Option Finding} (tends : Tends name turn middle)
    (ends : Ends name finding middle next)
    (fixed : number = name → (turn.server.nextJob ≤ name → next.server.Grants known) →
      turn.Agrees known name → ∀ told, finding = some told → known.fixed told.job.basis) :
    Serves known number turn next := by
  refine ⟨tends.toSteady.trans ends.toSteady, tends.nextJob.trans ends.nextJob.ge,
    fun grants agrees => ?_⟩
  by_cases same : number = name
  · subst same
    constructor
    · intro job held
      rw [ends.jobs, if_pos rfl] at held
      cases held
    · intro told member
      rcases ends.adds.of_mem member with before | speech | ⟨other, found, same⟩
      · exact agrees.told told (tends.told told before)
      · exact speech.elim
      · cases same
        exact fixed rfl grants agrees told found
  · exact (agrees.spared (tends.others number same)).spared (ends.spares same)

end Tends

/-! ## Lints -/

/-- A job that is taken up goes on until it waits or ends. -/
theorem Takes.serves {begun : Turn} (takes : Takes name job turn begun) (known : Known)
    (number : Nat) :
    ((begun.proceed name job).2 = none → Serves known number turn (begun.proceed name job).1) ∧
      ∀ finding next, (begun.proceed name job).2 = some finding →
        Ends name (some finding) (begun.proceed name job).1 next →
          Serves known number turn next := by
  have carries := carries_of_get? takes.held
  have toil := (proceed_works carries).toil
  have tends := (Tends.of_takes takes).trans (.of_toil toil)
  have first : turn.server.nextJob ≤ name := takes.numbered.ge
  have folder : job.folder = job.document.folderIn? begun.server.folders := by
    rw [takes.folders, takes.folder]
  constructor
  · intro waits
    refine tends.waits fun _ grants _ entry held => ?_
    have arrives := proceed_arrives carries folder (toil.toSteady.grants (grants first))
    exact arrives.waits waits entry held
  · intro finding next found ends
    refine tends.ends ends fun _ grants _ told same => ?_
    have arrives := proceed_arrives carries folder
      (toil.toSteady.grants (ends.toSteady.grants (grants first)))
    cases same
    exact arrives.found finding found

/-- In the loop over the open documents every lint is granted what the server grants. -/
theorem lintAll_serves (turn : Turn) (origin : Nat) (uris : List Uri) :
    Serves known number turn (turn.lintAll origin uris) := by
  induction uris generalizing turn with
  | nil => exact .refl turn
  | cons uri others inductionHypothesis =>
      cases held : turn.server.documents.get? uri with
      | none =>
          simp only [lintAll, held]
          exact inductionHypothesis turn
      | some document =>
          rw [lintAll_cons turn origin others held]
          have serves := (beginLint_takes turn origin document others).serves known number
          generalize (turn.beginLint origin document others).2.proceed
            (turn.beginLint origin document others).1.1
            (turn.beginLint origin document others).1.2 = result at serves
          obtain ⟨ended, - | finding⟩ := result
          · exact serves.1 rfl
          · exact serves.2 finding _ rfl (finishLint_ends _ _ _)

theorem lintAll_steady (turn : Turn) (origin : Nat) (uris : List Uri) :
    Steady turn (turn.lintAll origin uris) := by
  have serves : Serves .anything 0 turn (turn.lintAll origin uris) :=
    lintAll_serves turn origin uris
  exact serves.toSteady

/-! ## Deliveries -/

/-- A job that has come to a finding ends with it. -/
theorem finish_ends (turn : Turn) (name : Nat) (finding : Finding) :
    Ends name (some finding) turn (turn.finish name finding) := by
  unfold finish
  split
  · exact finishLint_ends turn name finding
  · next request _ _ => exact finishFormat_ends turn name request finding

/-- A formatting is granted what the server grants when it is taken up. -/
theorem format_serves (turn : Turn) (origin : Nat) (request : RpcId) (tabSize : Nat)
    (document : Document) :
    Serves known number turn (turn.format origin request tabSize document) := by
  have serves := (beginFormat_takes turn origin request tabSize document).serves known number
  unfold format
  simp only
  generalize (turn.beginFormat origin request tabSize document).2.proceed
    (turn.beginFormat origin request tabSize document).1.1
    (turn.beginFormat origin request tabSize document).1.2 = result at serves ⊢
  obtain ⟨ended, - | finding⟩ := result
  · exact serves.1 rfl
  · exact serves.2 finding _ rfl (finish_ends _ _ _)

/-- News is brought to a job.  Its settings are fixed when that is the answer of the editor. -/
theorem deliver_serves (turn : Turn) (name : Nat) (news : News) (eager : Bool)
    (answered : number = name → ∀ job answer, turn.server.jobs.get? name = some job →
      news = .answer answer → job.wait = .editor → known.fixed (turn.settled job answer).basis) :
    Serves known number turn (turn.deliver name news eager) := by
  unfold deliver
  split
  · exact .refl turn
  · next job held =>
      have carries := carries_of_get? held
      have toil := (resume_works carries news).toil
      split
      · exact .refl turn
      · split
        · -- What is dropped leaves nothing behind but the lints in line.
          have drops (resumed : Turn) (tends : Tends name turn resumed) :
              Serves known number turn (resumed.dropLint name job) := by
            have ended : Serves known number turn
                ((resumed.abandon name).clearInFlight name job.document.uri) :=
              tends.ends (drop_ends resumed name _) fun _ _ _ _ => nofun
            unfold dropLint
            split
            · exact ended.trans (lintAll_serves _ _ _)
            · exact ended
          cases eager with
          | false => exact drops turn (.of_toil (.refl name turn))
          | true => exact drops _ (.of_toil toil)
        · have tends := Tends.of_toil toil
          have arrives (agrees : turn.Agrees known name) (same : number = name) :
              Arrives known name (turn.resume name job news) := by
            have fits := agrees.held job held
            exact resume_arrives held fits news fun answer => answered same job answer held
          generalize turn.resume name job news = result at tends arrives
          obtain ⟨ended, - | finding⟩ := result
          · exact tends.waits fun same _ agrees => (arrives agrees same).waits rfl
          · refine tends.ends (finish_ends ended name finding) fun same _ agrees told found => ?_
            exact (arrives agrees same).found told found

theorem deliver_steady (turn : Turn) (name : Nat) (news : News) (eager : Bool) :
    Steady turn (turn.deliver name news eager) := by
  have serves : Serves .anything 0 turn (turn.deliver name news eager) :=
    deliver_serves turn name news eager fun _ _ _ _ _ _ => trivial
  exact serves.toSteady

/-! ## Findings that are told -/

/-- When all is told of a job, the lints in line are gone on with, or its request is answered. -/
theorem conclude_serves (turn : Turn) (name : Nat) (job : Job) :
    Serves known number turn (turn.conclude name job) := by
  have silent : Serves known number turn (turn.silence name) :=
    .of_talks ⟨{}, rfl, rfl, rfl, .none rfl, .none rfl⟩
  unfold conclude
  split
  · exact silent.trans (lintAll_serves _ _ _)
  · exact silent.trans (.of_talks (.of_speaks (.reply _ _ _)))

/-- Whatever is still to be told of one finding, the settings of jobs are no part of it. -/
theorem tellOn_serves (turn : Turn) (name : Nat) (telling : Telling) :
    Serves known number turn (turn.tellOn name telling) := by
  unfold tellOn
  split
  · exact conclude_serves turn name _
  · exact .of_talks (.report turn name _ _)
  · exact (Serves.of_talks (Talks.popUp turn name _ _).1).trans (conclude_serves _ name _)

/-- A job that is woken goes on telling, or looks around. -/
theorem wake_serves (turn : Turn) (name : Nat) (eager : Bool) :
    Serves known number turn (turn.wake name eager) := by
  unfold wake
  split
  · exact tellOn_serves turn name _
  · refine deliver_serves turn name .wake eager ?_
    rintro - job answer - ⟨⟩

/-! ## Events -/

/-- What the server has been told of settings stays, and it does not begin again. -/
structure Lasts (turn next : Turn) : Prop where
  base : next.server.base = turn.server.base
  client : next.server.client = turn.server.client
  asksSettings : next.server.asksSettings = turn.server.asksSettings
  serves : turn.server.phase ≠ .fresh → next.server.phase ≠ .fresh

theorem Steady.lasts (steady : Steady turn next) : Lasts turn next :=
  ⟨steady.base, steady.client, steady.asksSettings, fun serves => by rwa [steady.phase]⟩

/-- The server goes on while nothing is done about jobs, but that some may be dropped. -/
structure Passes (turn next : Turn) : Prop extends Lasts turn next where
  nextJob : turn.server.nextJob ≤ next.server.nextJob
  spares : ∀ number, Spares number turn next

namespace Passes

theorem refl (turn : Turn) : Passes turn turn :=
  ⟨⟨rfl, rfl, rfl, id⟩, le_rfl, fun _ => .of_fate (.stays _) fun _ => id⟩

theorem trans (one : Passes turn middle) (two : Passes middle next) : Passes turn next where
  base := two.base.trans one.base
  client := two.client.trans one.client
  asksSettings := two.asksSettings.trans one.asksSettings
  serves := fun serves => two.serves (one.serves serves)
  nextJob := one.nextJob.trans two.nextJob
  spares := fun number => (one.spares number).trans (two.spares number)

theorem of_speaks (speaks : Speaks turn next) : Passes turn next :=
  ⟨speaks.toSteady.lasts, speaks.nextJob.ge, speaks.spares⟩

theorem of_stops (stops : Stops turn next) : Passes turn next :=
  ⟨stops.toSteady.lasts, stops.nextJob.ge, stops.spares⟩

/-- What goes on apart from the jobs passes, as long as the settings last. -/
theorem of_apart (apart : Apart turn next) (lasts : Lasts turn next) : Passes turn next :=
  ⟨lasts, apart.nextJob.ge, apart.spares⟩

theorem refuse (turn : Turn) (id : Option RpcId) (error : RpcError) :
    Passes turn (turn.refuse id error) := by
  cases id with
  | none => exact refl turn
  | some request => exact of_speaks (.reply turn request _)

theorem choose (turn : Turn) (details : String) (folder : Option Path) (action : PopupAction) :
    Passes turn (turn.choose details folder action) := by
  refine of_apart (.choose turn details folder action) ?_
  have suppress (scope : Scope) : Lasts turn (turn.suppress scope) := by
    unfold Turn.suppress
    split
    · exact ⟨rfl, rfl, rfl, id⟩
    · exact ⟨rfl, rfl, rfl, id⟩
  unfold Turn.choose
  split
  · exact (Speaks.tell turn _).toSteady.lasts
  · exact suppress _
  · exact ⟨rfl, rfl, rfl, id⟩
  · exact suppress _

theorem close (turn : Turn) (uri : Uri) (ready : turn.server.phase = .ready) :
    Passes turn (turn.heedClosed uri) := by
  refine of_apart (.close uri ready) ?_
  obtain ⟨inFlight, jobs, same, -⟩ := supersede_frame turn uri
  unfold heedClosed
  rw [same]
  have told := Speaks.publish
    (((turn.update fun server => { server with inFlight, jobs }).update fun server =>
      { server with
        documents := server.documents.erase uri
        diagnostics := server.diagnostics.erase uri }).note (.closed uri)) uri [] none
  obtain ⟨base, client, asks, serves⟩ := told.toSteady.lasts
  exact ⟨base, client, asks, serves⟩

theorem cancelJob (turn : Turn) (name : Nat) (request : RpcId) :
    Passes turn (turn.cancelJob name request) := by
  refine trans ?_ (of_speaks (.reply (turn.abandon name) request _))
  have killed := Speaks.killFor turn name
  refine ⟨⟨killed.base, killed.client, killed.asksSettings, killed.toSteady.lasts.serves⟩,
    killed.nextJob.ge, fun number => ⟨fun job held => ?_, ?_⟩⟩
  · rw [get?_abandon] at held
    split at held
    · cases held
    · exact ⟨job, held, Or.inl rfl⟩
  · exact (killed.spares number).told

theorem cancelTelling (turn : Turn) (name : Nat) (request : RpcId) :
    Passes turn (turn.cancelTelling name request) := by
  refine trans ?_ (of_speaks (.reply (turn.silence name) request _))
  exact ⟨⟨rfl, rfl, rfl, id⟩, le_rfl, fun _ => .of_fate (.stays _) fun _ => id⟩

/-- Requests may be cancelled at any time: the settings of all others stay. -/
theorem cancelRequests (turn : Turn) (meant : RpcId → Bool) :
    Passes turn (turn.cancelRequests meant) :=
  cancelRequests_kept (Passes turn) meant (fun _ _ _ passes => passes.trans (cancelJob _ _ _))
    (fun _ _ _ passes => passes.trans (cancelTelling _ _ _)) (refl turn)

end Passes

/-- The server goes on in whatever way: what it has been told of settings stays, and so does what
is known of the job under the number. -/
structure Minds (known : Known) (number : Nat) (turn next : Turn) : Prop
    extends Lasts turn next where
  agrees : (turn.server.nextJob ≤ number → next.server.Grants known) →
    turn.Agrees known number → next.Agrees known number

theorem Serves.minds (serves : Serves known number turn next) : Minds known number turn next :=
  ⟨serves.toSteady.lasts, serves.agrees⟩

/-- What passes minds every job, whatever is known of it. -/
theorem Passes.minds (passes : Passes turn next) : Minds known number turn next :=
  ⟨passes.toLasts, fun _ agrees => agrees.spared (passes.spares number)⟩

/-- What passes may come before anything that minds the job. -/
theorem Passes.before (passes : Passes turn middle) (minds : Minds known number middle next) :
    Minds known number turn next where
  base := minds.base.trans passes.base
  client := minds.client.trans passes.client
  asksSettings := minds.asksSettings.trans passes.asksSettings
  serves := fun serves => minds.serves (passes.serves serves)
  agrees := fun grants agrees =>
    minds.agrees (fun late => grants (passes.nextJob.trans late))
      (agrees.spared (passes.spares number))

/-! ### Messages -/

theorem keep_serves (turn : Turn) (document : Document) :
    Serves known number turn (turn.keep document) := by
  refine ⟨{}, le_rfl, fun _ agrees => agrees.spared (.of_fate (.stays _) ?_)⟩
  intro finding told
  rcases List.mem_append.mp told with before | here
  · exact before
  · cases List.mem_singleton.mp here

/-- A notification that pushes no settings minds every job. -/
theorem heed_minds (ready : turn.server.phase = .ready) (origin : Nat)
    (notification : Notification) (plain : ∀ value, notification ≠ .configured value) :
    Minds known number turn (turn.heed origin notification) := by
  cases notification with
  | initialized => exact (Passes.of_speaks (.tell turn _)).minds
  | opened document => exact ((keep_serves turn document).trans (lintAll_serves _ _ _)).minds
  | changed change =>
      simp only [heed, heedChanged]
      split
      · exact ((keep_serves turn _).trans (lintAll_serves _ _ _)).minds
      · exact (Serves.refl turn).minds
  | saved uri text =>
      simp only [heed, heedSaved]
      split
      · exact ((keep_serves turn _).trans (lintAll_serves _ _ _)).minds
      · exact (lintAll_serves _ _ _).minds
  | closed uri => exact (Passes.close turn uri ready).minds
  | configured value => exact absurd rfl (plain value)
  | foldersChanged change =>
      exact (Passes.of_apart (.folders turn change) ⟨rfl, rfl, rfl, id⟩).minds
  | useless => exact (Serves.refl turn).minds

theorem request_minds (id : Option RpcId) {handle : RpcId → Turn}
    (handled : ∀ request, id = some request → Minds known number turn (handle request)) :
    Minds known number turn (turn.request id handle) := by
  unfold request
  split
  · exact (Serves.refl turn).minds
  · split
    · exact (Passes.refuse turn _ _).minds
    · exact handled _ rfl

theorem guarded_minds (id : Option RpcId) {handle : RpcId → Turn}
    (handled : ∀ request, Minds known number turn (handle request)) :
    Minds known number turn (turn.guarded id handle) := by
  unfold guarded
  split
  · exact (Passes.refuse turn _ _).minds
  · exact request_minds id fun request _ => handled request

end Turn

/-- The parameters with which an editor asks the server to begin. -/
def Event.beginning? : Event → Option Params.Beginning
  | .received (.message message) =>
      if message.method = "initialize" ∧ message.id.isSome = true then
        message.params.bind Params.beginning?
      else none
  | _ => none

/-- Settings are pushed by one method only. -/
theorem configuration?_of_reader? {message : Message} {read : Json → Option Notification}
    {value : Json} (reads : Notification.reader? message.method = some read)
    (pushed : message.params.bind read = some (.configured value)) (told : message.id = none) :
    (Event.received (.message message)).configuration? = some value := by
  obtain ⟨method, id, params⟩ := message
  obtain ⟨given, rfl, taken⟩ := Option.bind_eq_some_iff.mp pushed
  simp only at reads told taken
  subst told
  unfold Notification.reader? at reads
  split at reads
  all_goals
    first
    | cases reads
      obtain ⟨part, own, same⟩ := Option.map_eq_some_iff.mp taken
      first
      | cases same
        simpa [Event.configuration?] using own
      | cases same
    | skip
  split at reads
  · cases reads
    cases taken
  · cases reads

namespace Turn

variable {turn middle next : Turn} {known : Known} {number name : Nat} {job : Job}

/-- Settings come with `initialize` only once, and before any job is there. -/
theorem receiveBeginning_minds {message : Message} (begins : message.method = "initialize")
    (idle : turn.server.phase = .fresh →
      (Event.received (.message message)).beginning? = none) :
    Minds known number turn (turn.receiveBeginning message) := by
  unfold receiveBeginning
  split
  · next fresh =>
      refine request_minds _ fun request named => ?_
      split
      · next params given =>
          have silent := idle fresh
          simp [Event.beginning?, begins, named, given] at silent
      · exact (Passes.refuse turn _ _).minds
  · exact (Passes.refuse turn _ _).minds

theorem receiveShutdown_minds (turn : Turn) (message : Message) :
    Minds known number turn (turn.receiveShutdown message) := by
  unfold receiveShutdown
  split
  · exact (Passes.refuse turn _ _).minds
  · next serves =>
      have ready := ready_of_refusal? serves
      have closing : Passes turn (turn.update fun server => { server with phase := .closing }) :=
        .of_apart (.closing ready) ⟨rfl, rfl, rfl, fun _ => by simp [update]⟩
      refine closing.before (request_minds _ fun request _ => ?_)
      split
      · exact (Passes.refuse _ _ _).minds
      · exact (Passes.of_stops (shutDown_stops _ request)).minds

theorem receiveExit_minds (turn : Turn) : Minds known number turn turn.receiveExit := by
  have exits : Passes turn (turn.update fun server => { server with phase := .exited }) :=
    .of_apart (.exit turn) ⟨rfl, rfl, rfl, fun _ => by simp [update]⟩
  exact exits.before (Passes.cancelRequests _ _).minds

theorem receiveCancel_minds (turn : Turn) (message : Message) :
    Minds known number turn (turn.receiveCancel message) := by
  unfold receiveCancel
  split
  · exact (Passes.refuse turn _ _).minds
  · exact (Passes.cancelRequests turn _).minds
  · exact (Passes.refl turn).minds

theorem receiveFormatting_minds (turn : Turn) (origin : Nat) (message : Message) :
    Minds known number turn (turn.receiveFormatting origin message) := by
  refine guarded_minds _ fun request => ?_
  split
  · unfold answerFormatting
    split
    · exact (Passes.of_speaks (.reply turn request _)).minds
    · exact (format_serves turn origin request _ _).minds
  · exact (Passes.refuse turn _ _).minds

/-- A notification is heeded in the order of its method, and pushes settings only where it says so.
-/
theorem receiveNotification_minds (origin : Nat) {message : Message}
    {read : Json → Option Notification} (reads : Notification.reader? message.method = some read)
    (unpushed : (Event.received (.message message)).configuration? = none) :
    Minds known number turn (turn.receiveNotification origin message read) := by
  unfold receiveNotification
  split
  · exact (Passes.refuse turn _ _).minds
  · exact (Passes.refuse turn _ _).minds
  · next serves told =>
      split
      · next notification given =>
          refine heed_minds (ready_of_refusal? serves) origin notification fun value same => ?_
          rw [same] at given
          have pushed := configuration?_of_reader? reads given told
          rw [unpushed] at pushed
          cases pushed
      · exact (Passes.refl turn).minds

theorem receiveUnoffered_minds (turn : Turn) (message : Message) (needs : List Unoffered.Need) :
    Minds known number turn (turn.receiveUnoffered message needs) := by
  refine guarded_minds _ fun request => ?_
  split
  · exact (Passes.refuse turn _ _).minds
  · exact (Passes.refuse turn _ _).minds

/-- A message that brings no settings minds every job. -/
theorem receiveMessage_minds {message : Message}
    (idle : turn.server.phase = .fresh → (Event.received (.message message)).beginning? = none)
    (unpushed : (Event.received (.message message)).configuration? = none) :
    Minds known number turn (turn.receiveMessage message) := by
  have counted : Passes turn
      (turn.update fun server => { server with messages := server.messages + 1 }) :=
    ⟨⟨rfl, rfl, rfl, id⟩, le_rfl, fun _ => .of_fate (.stays _) fun _ => id⟩
  refine counted.before ?_
  unfold receiveMessage
  simp only
  split
  · next begins => exact receiveBeginning_minds begins idle
  · exact receiveShutdown_minds _ _
  · exact receiveExit_minds _
  · exact receiveCancel_minds _ _
  · exact receiveFormatting_minds _ _ _
  · split
    · next reads => exact receiveNotification_minds _ reads unpushed
    · exact receiveUnoffered_minds _ _ _
    · unfold receiveUnknown
      split
      · exact (Passes.refl _).minds
      · exact (Passes.refuse _ _ _).minds

/-! ### Answers -/

/-- The job under the number waits for the editor, and what comes fixes its settings. -/
def Answered (known : Known) (number : Nat) (turn : Turn) (event : Event) : Prop :=
  ∀ question result job, event = .received (.answer (.number question) result) →
    turn.server.askers.get? question.toNat = some (.job number) →
    turn.server.jobs.get? number = some job → job.wait = .editor →
    known.fixed (turn.settled job (Answer.settings? result)).basis

/-- An answer brings settings to the job that asked for them, and to no other one. -/
theorem receiveAnswer_minds (id : RpcId) (result : Option Json) (eager : Bool)
    (answered : Answered known number turn (.received (.answer id result))) :
    Minds known number turn (turn.receiveAnswer id result eager) := by
  unfold receiveAnswer
  split
  · next question =>
      simp only
      split
      · exact (Passes.refl turn).minds
      · next asker asks =>
          have erased : Passes turn (turn.update fun server =>
              { server with askers := server.askers.erase question.toNat }) :=
            .of_apart (.answered turn question.toNat) ⟨rfl, rfl, rfl, id⟩
          refine erased.before ?_
          split
          · next name =>
              refine (deliver_serves _ name _ eager ?_).minds
              rintro rfl job answer held ⟨⟩ waits
              exact answered question result job rfl asks held waits
          · split
            · exact (Passes.choose _ _ _ _).minds
            · exact (Passes.refl _).minds
  · exact (Passes.refl turn).minds

/-- Whatever happens, what is known stays true, as long as no settings come for all documents. -/
theorem step_minds (event : Event) (eager : Bool)
    (idle : turn.server.phase = .fresh → event.beginning? = none)
    (unpushed : event.configuration? = none) (answered : Answered known number turn event) :
    Minds known number turn (turn.step event eager) := by
  cases event with
  | received incoming =>
      cases incoming with
      | message message =>
          simp only [step, receive]
          split
          · exact (Passes.refl turn).minds
          · exact receiveMessage_minds idle unpushed
      | answer id result => exact receiveAnswer_minds id result eager answered
  | ended name result =>
      refine (deliver_serves turn name _ eager ?_).minds
      rintro - job answer - ⟨⟩
  | removed name result =>
      refine (deliver_serves turn name _ eager ?_).minds
      rintro - job answer - ⟨⟩
  | woken name => exact (wake_serves turn name eager).minds

/-- As long as no settings come for all documents, they stay. -/
theorem step_lasts (turn : Turn) (event : Event) (eager : Bool)
    (idle : turn.server.phase = .fresh → event.beginning? = none)
    (unpushed : event.configuration? = none) : Lasts turn (turn.step event eager) := by
  have minds : Minds .anything 0 turn (turn.step event eager) :=
    step_minds event eager idle unpushed fun _ _ _ _ _ _ _ => trivial
  exact minds.toLasts

end Turn

end TemplateLint
